/-
  SecureElement.Proofs.Lock.Nonces

  The nonces by which a device is released.  The locks keep the nonce of the token that released the
  device last, and no command lowers it but a reset, which zeroes it.  A token that releases the
  device is not older than the nonce that the locks kept before it, and newer under a strict policy.
  A released device stays released until a reset, so between two resets there is at most one such
  token, and the order of the nonces there follows from that.  Across a reset nothing is kept: the
  same token can be used again.
-/
import SecureElement.Proofs.Lock.Session
import SecureElement.Proofs.Release.Authority

namespace SecureElement

/-! ## Outcomes -/

/-- What a command did to the nonce, as its caller can tell. -/
inductive NonceOutcome where
  /-- The command was refused, or it was about something else. -/
  | kept
  | reset
  /-- The device was released by a token. -/
  | released (token : ReleaseToken)
deriving DecidableEq

/-- The token that the device was released by. -/
def NonceOutcome.token? : NonceOutcome → Option ReleaseToken
  | released token => some token
  | kept | reset => none

/-- What a request that is carried out does to the nonce.  A device that is not bound is not
released. -/
def NonceOutcome.ofRequest (locks : Locks) (signatureLength : Nat) : LockRequest → NonceOutcome
  | .provision false _ => reset
  | .carrier false payload =>
    -- the payload is read on a device that is bound only
    if locks.isSet .carrier then
      match ReleaseToken.parse payload signatureLength with
      | .ok token => released token
      | .error _ => kept
    else
      kept
  | .provision true _ | .carrier true _ | .device _ _ | .boot _ _ => kept

/-- What a command did to the nonce. -/
def LockDeed.outcome {μ : Type} [Medium μ] (deed : LockDeed μ) : NonceOutcome :=
  match deed.command.command.request?, deed.reply.isOk with
  | some request, true =>
    .ofRequest deed.before.locks deed.before.authority.signatures.length request
  | _, _ => .kept

/-- What an outcome means for the nonce that the locks keep. -/
inductive Nonce.Effect (policy : NoncePolicy) (before : Nonce) : NonceOutcome → Nonce → Prop where
  | kept : Effect policy before .kept before
  | reset : Effect policy before .reset .zero
  | released (token : ReleaseToken) (haccepts : policy.accepts before token.nonce = true) :
      Effect policy before (.released token) token.nonce

namespace LockDeed

variable {μ : Type} [Medium μ]

/-- A transition of the locks has the effect of the outcome of its request. -/
theorem effect_of_transition {authority : ReleaseAuthority} {stage : LifecycleStage}
    {before : Locks} {lock : Lock} {enable : Bool} {payload : Bytes} {caller : Caller}
    {change : Option Locks}
    (h : before.Transition authority stage lock enable payload caller change) :
    Nonce.Effect authority.policy before.nonce
      (.ofRequest before authority.signatures.length (.ofLock lock enable payload caller))
      (change.getD before).nonce := by
  -- every transition keeps the nonce but the reset and the release
  cases h with
  | reset => exact .reset
  | provision _ _ after _ hafter =>
    show Nonce.Effect _ _ .kept after.nonce
    rw [hafter.nonce]
    exact .kept
  | bind _ _ after _ _ _ hnonce _ =>
    show Nonce.Effect _ _ .kept after.nonce
    rw [hnonce]
    exact .kept
  | release _ _ after _ hbound haccept _ _ =>
    obtain ⟨token, hparse, -, haccepts, hnonce⟩ := ReleaseAuthority.accept_eq_ok_iff.mp haccept
    have houtcome : NonceOutcome.ofRequest before authority.signatures.length
        (.ofLock .carrier false payload caller) = .released token := by
      simp only [LockRequest.ofLock, NonceOutcome.ofRequest, hbound, hparse, if_true]
    rw [houtcome, Option.getD_some, hnonce]
    exact .released token haccepts
  | idle _ _ _ hfree =>
    have houtcome : NonceOutcome.ofRequest before authority.signatures.length
        (.ofLock .carrier false payload caller) = .kept := by
      simp only [LockRequest.ofLock, NonceOutcome.ofRequest, hfree, Bool.false_eq_true, if_false]
    rw [houtcome]
    exact .kept
  | device _ _ after _ hafter =>
    show Nonce.Effect _ _ .kept after.nonce
    rw [hafter.nonce]
    exact .kept
  | boot _ _ after _ _ hafter =>
    show Nonce.Effect _ _ .kept after.nonce
    rw [hafter.nonce]
    exact .kept

/-- What a command did to the nonce is what its request does, if that was carried out; otherwise
the locks are as they were. -/
theorem outcome_cases (deed : LockDeed μ) :
    (∃ lock enable payload caller change,
      deed.before.locks.Transition deed.before.authority deed.command.stage lock enable payload
        caller change ∧
      deed.after.locks = change.getD deed.before.locks ∧
      outcome deed = .ofRequest deed.before.locks deed.before.authority.signatures.length
        (.ofLock lock enable payload caller)) ∨
    (deed.after.locks = deed.before.locks ∧ outcome deed = .kept) := by
  have hreply : deed.reply = (deed.before.execute deed.command.stage deed.command.command).1 := rfl
  rcases (deed.before.execute_cases deed.command.stage deed.command.command).2 with
    ⟨request, change, hrequest, hplan, hcommitted, hok⟩ | ⟨hcell, hnone⟩
  · -- a request that was carried out is a transition of the locks
    obtain ⟨lock, enable, payload, caller, rfl⟩ := request.exists_ofLock
    refine Or.inl ⟨lock, enable, payload, caller, change, (Locks.plan_iff _ _ _ _ _ _ _ _).mp hplan,
      hcommitted.value_eq, ?_⟩
    rw [outcome, hrequest, hreply, hok]
  · refine Or.inr ⟨congrArg RecordCell.value hcell, ?_⟩
    unfold outcome
    rcases hnone with hrequest | herror
    · rw [hrequest]
    · rw [hreply, herror]
      cases deed.command.command.request? <;> rfl

/-- Every command has the effect of its outcome on the nonce. -/
theorem effect (deed : LockDeed μ) :
    Nonce.Effect deed.before.authority.policy deed.before.locks.nonce (outcome deed)
      deed.after.locks.nonce := by
  rcases outcome_cases deed with
    ⟨lock, enable, payload, caller, change, htransition, hafter, houtcome⟩ | ⟨hafter, houtcome⟩
  · rw [houtcome, hafter]
    exact effect_of_transition htransition
  · rw [houtcome, hafter]
    exact .kept

/-- Only a reset lowers the nonce. -/
theorem eq_reset_of_lt {deed : LockDeed μ}
    (h : deed.after.locks.nonce < deed.before.locks.nonce) : outcome deed = .reset := by
  have heffect := effect deed
  generalize deed.after.locks.nonce = nonce at heffect h
  generalize outcome deed = did at heffect ⊢
  cases heffect with
  | kept => exact absurd h (UInt64.lt_irrefl _)
  | reset => rfl
  | released token haccepts =>
    have hle := NoncePolicy.le_of_accepts haccepts
    exact absurd hle (UInt64.not_le.mpr h)

/-- A token that releases the device is not older than the nonce that the locks kept, and newer
under a strict policy; its nonce is the one that they keep from then on. -/
theorem fresh_of_released {deed : LockDeed μ} {token : ReleaseToken}
    (h : outcome deed = .released token) :
    deed.before.locks.nonce ≤ token.nonce ∧
      (deed.before.authority.policy = .strict → deed.before.locks.nonce < token.nonce) ∧
      deed.after.locks.nonce = token.nonce := by
  have heffect := effect deed
  rw [h] at heffect
  generalize deed.after.locks.nonce = nonce at heffect
  cases heffect with
  | released _ haccepts =>
    refine ⟨NoncePolicy.le_of_accepts haccepts, fun hstrict => ?_, rfl⟩
    rw [hstrict] at haccepts
    exact NoncePolicy.lt_of_accepts haccepts

/-! ## What the past says -/

/-- The token by which a command released the device of a record. -/
def token? (id : RecordId) (deed : LockDeed μ) : Option ReleaseToken :=
  if deed.before.cell.id = id then (outcome deed).token? else none

/-- The tokens that released the device of a record, the latest first. -/
def released (id : RecordId) (past : List (LockDeed μ)) : List ReleaseToken :=
  past.filterMap (token? id)

/-- The commands since the locks of a record were last reset, the latest first. -/
def sinceReset (id : RecordId) (past : List (LockDeed μ)) : List (LockDeed μ) :=
  past.takeWhile fun deed => decide (¬ (deed.before.cell.id = id ∧ outcome deed = .reset))

/-- A command on another record adds nothing to what the past says. -/
theorem released_cons_of_ne {id : RecordId} {deed : LockDeed μ} (past : List (LockDeed μ))
    (hne : deed.before.cell.id ≠ id) :
    released id (sinceReset id (deed :: past)) = released id (sinceReset id past) := by
  have hsince : sinceReset id (deed :: past) = deed :: sinceReset id past :=
    List.takeWhile_cons_of_pos (decide_eq_true fun h => hne h.1)
  have hskipped : token? id deed = none := if_neg hne
  rw [hsince, released, List.filterMap_cons_none hskipped, released]

/-- After a reset the past starts again. -/
theorem released_cons_of_reset {id : RecordId} {deed : LockDeed μ} (past : List (LockDeed μ))
    (hid : deed.before.cell.id = id) (hreset : outcome deed = .reset) :
    released id (sinceReset id (deed :: past)) = [] := by
  have hsince : sinceReset id (deed :: past) = [] :=
    List.takeWhile_cons_of_neg (by simp [hid, hreset])
  rw [hsince]
  rfl

/-- A command that is no reset adds the token that it released the device by, if there is one. -/
theorem released_cons {id : RecordId} {deed : LockDeed μ} (past : List (LockDeed μ))
    (hid : deed.before.cell.id = id) (hreset : outcome deed ≠ .reset) :
    released id (sinceReset id (deed :: past)) =
      (outcome deed).token?.toList ++ released id (sinceReset id past) := by
  have hsince : sinceReset id (deed :: past) = deed :: sinceReset id past :=
    List.takeWhile_cons_of_pos (decide_eq_true fun h => hreset h.2)
  have htoken : token? id deed = (outcome deed).token? := if_pos hid
  rw [hsince, released, released, List.filterMap_cons, htoken]
  cases (outcome deed).token? <;> rfl

/-- The nonce of the latest of some tokens; the first nonce, if there is none. -/
def latestNonce (tokens : List ReleaseToken) : Nonce :=
  (tokens.head?.map ReleaseToken.nonce).getD .zero

/-- Each token is newer than those before it, and the locks that the medium has keep the nonce of
the latest. -/
structure Ascending (newer : Nonce → Nonce → Prop) (tokens : List ReleaseToken)
    (found : Except MediumError Locks) : Prop where
  ordered : tokens.Pairwise fun later earlier => newer earlier.nonce later.nonce
  stored : ∀ locks, found = .ok locks → locks.nonce = latestNonce tokens

/-- A token that is newer than the one before it is newer than all. -/
theorem ordered_cons {newer : Nonce → Nonce → Prop}
    (htrans : ∀ a b c, newer a b → newer b c → newer a c) {token : ReleaseToken}
    {tokens : List ReleaseToken}
    (h : tokens.Pairwise fun later earlier => newer earlier.nonce later.nonce)
    (hnewer : newer (latestNonce tokens) token.nonce) :
    (token :: tokens).Pairwise fun later earlier => newer earlier.nonce later.nonce := by
  refine List.pairwise_cons.mpr ⟨fun earlier hearlier => ?_, h⟩
  -- newer than the latest, which is newer than the rest
  cases tokens with
  | nil => cases hearlier
  | cons latest rest =>
    rcases List.mem_cons.mp hearlier with rfl | hrest
    · exact hnewer
    · exact htrans _ _ _ ((List.pairwise_cons.mp h).1 earlier hrest) hnewer

/-- A command on the record carries it on that the tokens since the last reset ascend. -/
theorem ascending_cons {newer : Nonce → Nonce → Prop}
    (htrans : ∀ a b c, newer a b → newer b c → newer a c) {id : RecordId}
    {past : List (LockDeed μ)} {deed : LockDeed μ}
    (hpolicy : ∀ last presented,
      deed.before.authority.policy.accepts last presented = true → newer last presented)
    (hid : deed.before.cell.id = id)
    (h : Ascending newer (released id (sinceReset id past)) (.ok deed.before.locks)) :
    Ascending newer (released id (sinceReset id (deed :: past))) (.ok deed.after.locks) := by
  have hstored := h.stored _ rfl
  have heffect := effect deed
  generalize hnonce : deed.after.locks.nonce = nonce at heffect
  generalize houtcome : outcome deed = did at heffect
  cases heffect with
  | kept =>
    have htokens := released_cons past hid (by rw [houtcome]; exact nofun)
    rw [houtcome] at htokens
    rw [htokens]
    refine ⟨h.ordered, fun locks hlocks => ?_⟩
    rw [← Except.ok.inj hlocks, hnonce]
    exact hstored
  | reset =>
    rw [released_cons_of_reset past hid houtcome]
    refine ⟨.nil, fun locks hlocks => ?_⟩
    rw [← Except.ok.inj hlocks, hnonce]
    rfl
  | released token haccepts =>
    have htokens := released_cons past hid (by rw [houtcome]; exact nofun)
    rw [houtcome] at htokens
    rw [htokens]
    have hnewer := hpolicy _ _ haccepts
    rw [hstored] at hnewer
    refine ⟨ordered_cons htrans h.ordered hnewer, fun locks hlocks => ?_⟩
    rw [← Except.ok.inj hlocks, hnonce]
    rfl

end LockDeed

/-! ## Sessions -/

namespace LockSession

open LockDeed

variable {μ : Type} [Medium μ]

/-- The policy that a step opens the controller with is an allowed one. -/
def Uses (allowed : NoncePolicy → Prop) : LockStep μ → Prop
  | .reopen opening => allowed opening.authority.policy
  | .wait _ | .command _ | .befall _ => True

/-- A controller keeps the policy that it was opened with. -/
theorem lasts_policy (allowed : NoncePolicy → Prop) :
    Session.Lasts LockController μ fun controller => allowed controller.authority.policy where
  execute controller now order h := by
    have hauthority := (controller.execute_cases order.stage order.command).1
    show allowed (controller.execute order.stage order.command).2.authority.policy
    rw [hauthority]
    exact h
  onMedium _ _ h := h

/-- A step that uses allowed policies opens only controllers that have one. -/
theorem opens_of_uses {allowed : NoncePolicy → Prop} {step : LockStep μ}
    (h : Uses allowed step) :
    Session.Opens (fun controller : LockController μ => allowed controller.authority.policy)
      step := by
  cases step with
  | reopen opening =>
    intro medium now controller hrestore
    have hauthority := (LockController.of_restore hrestore).2.1
    rw [hauthority]
    exact h
  | wait | command | befall => trivial

variable [LawfulMedium μ]

/-- In a session whose policies accept only newer nonces, on a medium that keeps no nonce at the
start, the tokens since the last reset ascend. -/
theorem ascending (newer : Nonce → Nonce → Prop)
    (htrans : ∀ a b c, newer a b → newer b c → newer a c) {allowed : NoncePolicy → Prop}
    (hpolicy : ∀ policy last presented, allowed policy →
      NoncePolicy.accepts policy last presented = true → newer last presented)
    {id : RecordId} {medium : μ}
    (hstart : ∀ locks,
      Persistent.recovered Locks.initial medium id = .ok locks → locks.nonce = .zero)
    (clock : SteppedClock) {steps : List (LockStep μ)}
    (hsteps : ∀ step ∈ steps, Uses allowed step) :
    let session : LockSession μ := .after medium clock steps
    let tokens := released id (sinceReset id session.past)
    tokens.Pairwise (fun later earlier => newer earlier.nonce later.nonce) ∧
      ∀ controller, session.component? = some controller → controller.cell.id = id →
        controller.locks.nonce = latestNonce tokens := by
  intro session tokens
  obtain ⟨⟨hordered, -⟩, hopened⟩ := tells_locks (lasts_policy allowed)
    (fun past found => Ascending newer (released id (sinceReset id past)) found)
    (fun past deed hallowed hid h =>
      ascending_cons htrans (fun last presented => hpolicy _ last presented hallowed) hid h)
    (fun past deed found hid h => (released_cons_of_ne past hid).symm ▸ h)
    ⟨.nil, hstart⟩ clock (fun step hstep => opens_of_uses (hsteps step hstep))
  exact ⟨hordered, fun controller hcontroller hid =>
    (hopened controller hcontroller hid).stored controller.locks rfl⟩

/-- A token that releases a device is not older than the nonce that the locks kept before it, and
newer under a strict policy.  The locks keep the nonce of the latest token since the last reset, and
no command lowers it but a reset.  Between resets the nonces of the tokens that release a device
never fall, and under a strict policy they rise, so that no token releases the device twice; a
released device stays released until a reset, so there is at most one such token, from which this
order follows.  All this holds in every session that began on an empty medium, for each record that
lock controllers were opened on. -/
theorem released_ascend {records capacity : Nat} (clock : SteppedClock)
    (steps : List (LockStep (RamMedium records capacity))) (id : RecordId) :
    let session : LockSession (RamMedium records capacity) := .after .empty clock steps
    let tokens := released id (sinceReset id session.past)
    (∀ deed ∈ session.past, ∀ token, outcome deed = .released token →
      deed.before.locks.nonce ≤ token.nonce ∧
        (deed.before.authority.policy = .strict → deed.before.locks.nonce < token.nonce) ∧
        deed.after.locks.nonce = token.nonce) ∧
    (∀ controller, session.component? = some controller → controller.cell.id = id →
      controller.locks.nonce = latestNonce tokens) ∧
    (∀ deed ∈ session.past, deed.after.locks.nonce < deed.before.locks.nonce →
      outcome deed = .reset) ∧
    tokens.Pairwise (fun later earlier => earlier.nonce ≤ later.nonce) ∧
    ((∀ step ∈ steps, Uses (· = .strict) step) →
      tokens.Pairwise (fun later earlier => earlier.nonce < later.nonce) ∧ tokens.Nodup) := by
  intro session tokens
  have hstart : ∀ locks, Persistent.recovered Locks.initial
      (.empty : RamMedium records capacity) id = .ok locks → locks.nonce = .zero := by
    intro locks hlocks
    rw [Persistent.eq_of_recovered_empty hlocks]
    rfl
  have hany : ∀ step ∈ steps, Uses (fun _ => True) step := by
    intro step _
    cases step <;> trivial
  obtain ⟨hordered, hstored⟩ := ascending (· ≤ ·) (fun _ _ _ => UInt64.le_trans)
    (fun _ _ _ _ => NoncePolicy.le_of_accepts) hstart clock hany
  refine ⟨fun deed _ token hreleased => fresh_of_released hreleased, hstored,
    fun deed _ hlower => eq_reset_of_lt hlower, hordered, fun hstrict => ?_⟩
  -- the same invariant once more, for the order that a strict policy asks for
  have hnewer : ∀ policy last presented, policy = NoncePolicy.strict →
      policy.accepts last presented = true → last < presented := by
    rintro policy last presented rfl haccepts
    exact NoncePolicy.lt_of_accepts haccepts
  obtain ⟨hrising, -⟩ := ascending (· < ·) (fun _ _ _ => UInt64.lt_trans) hnewer hstart clock
    hstrict
  refine ⟨hrising, hrising.imp fun hlt heq => ?_⟩
  rw [heq] at hlt
  exact UInt64.lt_irrefl _ hlt

/-! ### Across a reset -/

/-- A signature check that accepts the nonce itself as the signature. -/
def echo : SignatureCheck where
  length := 8
  check message signature :=
    if signature = message.take 8 then .ok () else .error .badSignature

/-- The token of a nonce for that check. -/
def echoToken (nonce : UInt64) : Bytes :=
  (ReleaseToken.mk ⟨nonce⟩ (Nonce.mk nonce).toBlock.bytes).toBytes

/-- The device is reset, bound to its carrier, provisioned and released by the token of a nonce. -/
def resetAndRelease (nonce : UInt64) : List (LockStep (RamMedium 65 45)) :=
  [.command ⟨.factory, .set 0x01 false [] .os⟩, .command ⟨.factory, .set 0x02 true [0x2A] .os⟩,
    .command ⟨.factory, .set 0x01 true [] .os⟩,
    .command ⟨.production, .set 0x02 false (echoToken nonce) .os⟩]

/-- A strict controller that is reset twice between releases. -/
def replay : List (LockStep (RamMedium 65 45)) :=
  .reopen ⟨⟨echo, .strict⟩, LockController.defaultRecord, .standard⟩ ::
    (resetAndRelease 7 ++ resetAndRelease 7 ++ resetAndRelease 5)

/-- Across a reset the nonces by which the device is released fall, and one token releases it twice,
although every controller was strict. -/
theorem released_fall_across_reset :
    let session : LockSession (RamMedium 65 45) := .after .empty {} replay
    let tokens := released LockController.defaultRecord session.past
    (∀ step ∈ replay, Uses (· = .strict) step) ∧
    tokens.map ReleaseToken.nonce = [⟨5⟩, ⟨7⟩, ⟨7⟩] ∧
    ¬ tokens.Pairwise (fun later earlier => earlier.nonce ≤ later.nonce) ∧
    ¬ tokens.Nodup := by
  intro session tokens
  have hstrict : ∀ step ∈ replay, Uses (· = .strict) step := by
    simp [replay, resetAndRelease, Uses]
  have htokens : tokens.map ReleaseToken.nonce = [⟨5⟩, ⟨7⟩, ⟨7⟩] := by
    decide +kernel
  refine ⟨hstrict, htokens, fun hordered => ?_, ?_⟩
  · have hnonces : (tokens.map ReleaseToken.nonce).Pairwise
        (fun later earlier => earlier ≤ later) := List.pairwise_map.mpr hordered
    rw [htokens] at hnonces
    revert hnonces
    decide
  · decide +kernel

end LockSession

end SecureElement
