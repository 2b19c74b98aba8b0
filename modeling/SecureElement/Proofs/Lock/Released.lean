/-
  SecureElement.Proofs.Lock.Released

  A device that was released from its carrier stays released until its locks are reset.  It stays
  provisioned, so it cannot be bound again, and while it is not bound a release has nothing to do.
  So the token that released the device is the only one that is used up before the next reset.
-/
import SecureElement.Proofs.Lock.Consistent
import SecureElement.Proofs.Lock.Nonces

namespace SecureElement

/-! ## Released locks -/

/-- Only a device that is bound takes a token. -/
theorem NonceOutcome.isSet_of_released {locks : Locks} {signatureLength : Nat}
    {request : LockRequest} {token : ReleaseToken}
    (h : ofRequest locks signatureLength request = .released token) :
    locks.isSet .carrier = true := by
  unfold ofRequest at h
  split at h
  · cases h
  · split at h
    · assumption
    · cases h
  all_goals cases h

/-- The locks of a device that was released by a token of this nonce, and not reset since. -/
structure Locks.Released (nonce : Nonce) (locks : Locks) : Prop where
  provisioned : locks.isSet .provision = true
  free : locks.isSet .carrier = false
  binding : locks.binding = .zero 32
  nonce : locks.nonce = nonce

namespace Locks

variable {authority : ReleaseAuthority} {stage : LifecycleStage} {before after : Locks}
  {lock : Lock} {enable : Bool} {payload : Bytes} {caller : Caller} {change : Option Locks}

/-- A release leaves the device released, by the nonce of its token. -/
theorem Transition.released {token : ReleaseToken}
    (h : before.Transition authority stage lock enable payload caller change)
    (houtcome : NonceOutcome.ofRequest before authority.signatures.length
      (.ofLock lock enable payload caller) = .released token) :
    (change.getD before).Released token.nonce := by
  cases h with
  | reset | provision | bind | device | boot => cases houtcome
  | idle _ _ _ hfree =>
    rw [NonceOutcome.isSet_of_released houtcome] at hfree
    cases hfree
  | release _ _ after hprovisioned hbound haccept hmask hbinding =>
    obtain ⟨accepted, hparse, -, -, hnonce⟩ := ReleaseAuthority.accept_eq_ok_iff.mp haccept
    simp only [LockRequest.ofLock, NonceOutcome.ofRequest, hbound, if_true, hparse,
      NonceOutcome.released.injEq] at houtcome
    have hstill : after.isSet .provision = before.isSet .provision :=
      hmask.isSet_of_ne (by decide)
    exact ⟨hstill.trans hprovisioned, hmask.isSet_self, hbinding, houtcome ▸ hnonce⟩

/-- On a released device any lock but the carrier lock may be switched, if it stays provisioned. -/
theorem Toggled.released {nonce : Nonce} (h : Toggled lock enable before after)
    (hlock : lock ≠ .carrier) (hprovisioned : after.isSet .provision = true)
    (hbefore : before.Released nonce) : after.Released nonce where
  provisioned := hprovisioned
  free := (h.mask.isSet_of_ne hlock.symm).trans hbefore.free
  binding := h.binding.trans hbefore.binding
  nonce := h.nonce.trans hbefore.nonce

/-- Every transition but a reset leaves a released device released. -/
theorem Transition.stays_released {nonce : Nonce}
    (h : before.Transition authority stage lock enable payload caller change)
    (hbefore : before.Released nonce)
    (houtcome : NonceOutcome.ofRequest before authority.signatures.length
      (.ofLock lock enable payload caller) ≠ .reset) :
    (change.getD before).Released nonce := by
  cases h with
  | reset => exact absurd rfl houtcome
  | provision _ _ after _ hafter =>
    exact hafter.released (by decide) hafter.mask.isSet_self hbefore
  | bind _ _ _ hfree =>
    rw [hbefore.provisioned] at hfree
    cases hfree
  | release _ _ _ _ hbound =>
    rw [hbefore.free] at hbound
    cases hbound
  | idle => exact hbefore
  | device _ _ after _ hafter =>
    have hstill : after.isSet .provision = before.isSet .provision :=
      hafter.mask.isSet_of_ne (by decide)
    exact hafter.released (by decide) (hstill.trans hbefore.provisioned) hbefore
  | boot _ _ after _ _ hafter =>
    have hstill : after.isSet .provision = before.isSet .provision :=
      hafter.mask.isSet_of_ne (by decide)
    exact hafter.released (by decide) (hstill.trans hbefore.provisioned) hbefore

end Locks

/-! ## Commands -/

namespace LockDeed

variable {μ : Type} [Medium μ] {deed : LockDeed μ}

theorem released_of_outcome {token : ReleaseToken} (h : outcome deed = .released token) :
    deed.after.locks.Released token.nonce := by
  rcases outcome_cases deed with
    ⟨lock, enable, payload, caller, change, htransition, hafter, houtcome⟩ | ⟨-, hkept⟩
  · rw [hafter]
    exact htransition.released (houtcome ▸ h)
  · rw [hkept] at h
    cases h

/-- A command that resets nothing leaves a released device released. -/
theorem stays_released {nonce : Nonce} (hbefore : deed.before.locks.Released nonce)
    (hreset : outcome deed ≠ .reset) : deed.after.locks.Released nonce := by
  rcases outcome_cases deed with
    ⟨lock, enable, payload, caller, change, htransition, hafter, houtcome⟩ | ⟨hafter, -⟩
  · rw [hafter]
    exact htransition.stays_released hbefore (houtcome ▸ hreset)
  · rw [hafter]
    exact hbefore

/-- A released device takes no token. -/
theorem outcome_ne_released {nonce : Nonce} (hbefore : deed.before.locks.Released nonce)
    (token : ReleaseToken) : outcome deed ≠ .released token := by
  intro h
  rcases outcome_cases deed with
    ⟨lock, enable, payload, caller, change, -, -, houtcome⟩ | ⟨-, hkept⟩
  · have hbound := NonceOutcome.isSet_of_released (houtcome.symm.trans h)
    rw [hbefore.free] at hbound
    cases hbound
  · rw [hkept] at h
    cases h

/-! ## What the past says -/

/-- At most one token released the device since the last reset, and since one did, the locks that
the medium has are released by its nonce. -/
def ReleasedOnce (tokens : List ReleaseToken) (found : Except MediumError Locks) : Prop :=
  tokens.length ≤ 1 ∧
    ∀ token ∈ tokens, ∀ locks, found = .ok locks → locks.Released token.nonce

/-- A command on the record carries it on that at most one token released the device. -/
theorem releasedOnce_cons {id : RecordId} {past : List (LockDeed μ)} {deed : LockDeed μ}
    (hid : deed.before.cell.id = id)
    (h : ReleasedOnce (released id (sinceReset id past)) (.ok deed.before.locks)) :
    ReleasedOnce (released id (sinceReset id (deed :: past))) (.ok deed.after.locks) := by
  by_cases hreset : outcome deed = .reset
  · rw [released_cons_of_reset past hid hreset]
    exact ⟨Nat.zero_le 1, fun token htoken => nomatch htoken⟩
  · rw [released_cons past hid hreset]
    cases houtcome : outcome deed with
    | kept =>
      refine ⟨h.1, fun token htoken locks hlocks => ?_⟩
      rw [← Except.ok.inj hlocks]
      exact stays_released (h.2 token htoken _ rfl) hreset
    | reset => exact absurd houtcome hreset
    | released token =>
      -- a token before this one would have left the device released, and this one refused
      cases htokens : released id (sinceReset id past) with
      | cons earlier rest =>
        have hbefore := h.2 earlier (htokens ▸ List.mem_cons_self) _ rfl
        exact absurd houtcome (outcome_ne_released hbefore token)
      | nil =>
        refine ⟨Nat.le_refl 1, fun other hother locks hlocks => ?_⟩
        rw [List.mem_singleton.mp hother, ← Except.ok.inj hlocks]
        exact released_of_outcome houtcome

end LockDeed

/-! ## Commands to a released device -/

namespace LockController

variable {μ : Type} [Medium μ] {controller : LockController μ} {nonce : Nonce}

/-- Every command that makes a request is carried out as that request. -/
theorem execute_of_request {stage : LifecycleStage} {command : LockCommand} {request : LockRequest}
    (hrequest : command.request? = some request) :
    controller.execute stage command = controller.execute stage (.apply request) := by
  cases command with
  | set raw enable payload caller =>
    rcases ofRaw_cases raw with ⟨lock, -, hraw⟩ | ⟨-, refusal, hraw⟩
    · rw [LockCommand.request?, hraw] at hrequest
      cases hrequest
      exact controller.execute_set stage hraw enable payload caller
    · rw [LockCommand.request?, hraw] at hrequest
      cases hrequest
  | apply other =>
    cases hrequest
    rfl
  | selfTest => cases hrequest

/-- A released device is released again without a look at the payload and without a commit. -/
theorem execute_release (h : controller.locks.Released nonce) {stage : LifecycleStage}
    {command : LockCommand} {payload : Bytes}
    (hrequest : command.request? = some (.carrier false payload)) :
    controller.execute stage command =
      (.ok none, controller.record (.changed .carrier false controller.locks.mask)) := by
  have hplan : controller.locks.plan controller.authority stage (.carrier false payload) =
      .ok none :=
    Locks.releaseCarrier_idle controller.authority payload h.provisioned h.free
  rw [execute_of_request hrequest, execute, LockController.apply, LockController.change, hplan]
  rfl

/-- A released device is not bound again. -/
theorem execute_bind (h : controller.locks.Released nonce) {stage : LifecycleStage}
    {command : LockCommand} {payload : Bytes}
    (hrequest : command.request? = some (.carrier true payload)) :
    controller.execute stage command =
      (.error .notAllowed, controller.record (.refused .carrier true .notAllowed)) := by
  have hplan : controller.locks.plan controller.authority stage (.carrier true payload) =
      .error .notAllowed := by
    show (controller.locks.bindCarrier stage payload).map some = _
    rw [Locks.bindCarrier, h.provisioned]
    rfl
  rw [execute_of_request hrequest, execute, LockController.apply, LockController.change, hplan]
  rfl

end LockController

/-! ## Sessions -/

namespace LockSession

open LockDeed

variable {μ : Type} [Medium μ] [LawfulMedium μ]

/-- A release from the carrier lasts until the locks are reset.  In every session, for each record
that lock controllers were opened on: at most one token released the device since the last reset;
and if one did, then the device is provisioned, it is free of its carrier, it has no binding, and
its nonce is the token's, in memory and on the medium.  Until the next reset every command to
release the device succeeds, with the same outcome for all payloads and without a commit, and every
command to bind it is refused. -/
theorem released_until_reset (medium : μ) (clock : SteppedClock) (steps : List (LockStep μ))
    (id : RecordId) :
    let session : LockSession μ := .after medium clock steps
    let tokens := released id (sinceReset id session.past)
    tokens.length ≤ 1 ∧
    ∀ token ∈ tokens,
      (∀ locks, Persistent.recovered Locks.initial session.medium id = .ok locks →
        locks.Released token.nonce) ∧
      ∀ controller, session.component? = some controller → controller.cell.id = id →
        controller.locks.Released token.nonce ∧
        ∀ stage command payload,
          (command.request? = some (.carrier false payload) →
            controller.execute stage command =
              (.ok none, controller.record (.changed .carrier false controller.locks.mask))) ∧
          (command.request? = some (.carrier true payload) →
            controller.execute stage command =
              (.error .notAllowed, controller.record (.refused .carrier true .notAllowed))) := by
  intro session tokens
  have hstart : ReleasedOnce [] (Persistent.recovered Locks.initial medium id) :=
    ⟨Nat.zero_le 1, fun token htoken => nomatch htoken⟩
  obtain ⟨⟨honce, hstored⟩, hopened⟩ := tells_locks Session.lasts_true
    (fun past found => ReleasedOnce (released id (sinceReset id past)) found)
    (fun past deed _ hid h => releasedOnce_cons hid h)
    (fun past deed found hid h => (released_cons_of_ne past hid).symm ▸ h)
    hstart clock (fun step (_ : step ∈ steps) => Session.opens_true step)
  refine ⟨honce, fun token htoken => ⟨hstored token htoken, fun controller hcontroller hid => ?_⟩⟩
  have hreleased : controller.locks.Released token.nonce :=
    (hopened controller hcontroller hid).2 token htoken controller.locks rfl
  exact ⟨hreleased, fun stage command payload =>
    ⟨LockController.execute_release hreleased, LockController.execute_bind hreleased⟩⟩

/-- The device is released by the token of nonce 7.  Then it is to be bound again, the device lock
is set, a reset fails for want of a commit, and the controller is opened again. -/
def releasedForGood : List (LockStep (RamMedium 65 45)) :=
  [.reopen ⟨⟨echo, .strict⟩, LockController.defaultRecord, .standard⟩,
    .command ⟨.factory, .set 0x02 true [0x2A] .os⟩, .command ⟨.factory, .set 0x01 true [] .os⟩,
    .command ⟨.production, .set 0x02 false (echoToken 7) .os⟩,
    .command ⟨.factory, .set 0x02 true [0x2B] .bootloader⟩,
    .command ⟨.production, .set 0x04 true [] .os⟩, .befall (RamMedium.shortage 0),
    .command ⟨.production, .set 0x01 false [] .os⟩,
    .reopen ⟨⟨echo, .strict⟩, LockController.defaultRecord, .standard⟩]

/-- The device is still released, and an empty payload or an old token releases it again. -/
theorem released_until_reset_for_good :
    ∃ controller, (Session.after (.empty : RamMedium 65 45) {} releasedForGood :
        LockSession (RamMedium 65 45)).component? = some controller ∧
      controller.locks.Released ⟨7⟩ ∧
      (controller.execute .production (.set 0x02 false [] .os)).1 = .ok none ∧
      (controller.execute .production (.set 0x02 false (echoToken 5) .os)).1 = .ok none ∧
      (controller.execute .factory (.set 0x02 true [0x2A] .os)).1 = .error .notAllowed := by
  let session : LockSession (RamMedium 65 45) := .after .empty {} releasedForGood
  let tokens := released LockController.defaultRecord (sinceReset LockController.defaultRecord
    session.past)
  have hrun : (session.component?.map fun controller => controller.cell.id,
      tokens.map ReleaseToken.nonce) = (some LockController.defaultRecord, [⟨7⟩]) := by
    decide +kernel
  obtain ⟨hopened, hnonces⟩ := Prod.mk.inj hrun
  obtain ⟨controller, hcontroller, hid⟩ := Option.map_eq_some_iff.mp hopened
  obtain ⟨token, htoken, hnonce⟩ := List.exists_of_mem_map (hnonces ▸ List.mem_singleton_self _)
  obtain ⟨-, hall⟩ :=
    released_until_reset (.empty : RamMedium 65 45) {} releasedForGood LockController.defaultRecord
  obtain ⟨hreleased, hcommands⟩ := (hall token htoken).2 controller hcontroller hid
  rw [hnonce] at hreleased
  refine ⟨controller, hcontroller, hreleased, ?_, ?_, ?_⟩
  · rw [(hcommands .production (.set 0x02 false [] .os) []).1 rfl]
  · rw [(hcommands .production (.set 0x02 false (echoToken 5) .os) (echoToken 5)).1 rfl]
  · rw [(hcommands .factory (.set 0x02 true [0x2A] .os) [0x2A]).2 rfl]

end LockSession

end SecureElement
