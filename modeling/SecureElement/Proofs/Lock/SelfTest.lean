/-
  SecureElement.Proofs.Lock.SelfTest

  What a self test says about the release that it rehearses.  A device that is provisioned and bound
  releases itself for a token exactly if the token passes the self test against the device's own nonce
  and binding: a refusal is the same in both, and a nonce that the self test gives back is the one that
  the release commits.  Self tests leave the locks and the medium alone, however many there are and
  whatever they are given, so the release may follow at any time.
-/
import SecureElement.Proofs.Lock.Session

namespace SecureElement

/-- A token to be tested, with a nonce and a binding from outside; all three are bytes of any
length. -/
structure Trial where
  last : Bytes
  binding : Bytes
  token : Bytes

/-- Against a nonce and a binding of the right lengths, a self test accepts what a release would. -/
theorem ReleaseAuthority.selfTest_eq_accept (authority : ReleaseAuthority) (last : Nonce)
    (binding : DeviceBinding) (token : Bytes) :
    authority.selfTest (Bytes.littleEndian 8 last.value.toNat) binding.bytes token =
      authority.accept last binding token := by
  have hlast : Block.ofBytes? 8 (Bytes.littleEndian 8 last.value.toNat) = some last.toBlock :=
    Block.ofBytes?_bytes last.toBlock
  rw [selfTest, hlast, Block.ofBytes?_bytes]
  dsimp only
  rw [Nonce.ofBlock_toBlock]

namespace LockController

variable {μ : Type}

/-! ## Self tests -/

/-- The controller after one self test for each trial. -/
def afterTrials (controller : LockController μ) (trials : List Trial) : LockController μ :=
  trials.foldl (fun before trial => (before.selfTest trial.last trial.binding trial.token).2)
    controller

/-- Self tests leave nothing but entries in the journal. -/
theorem cell_afterTrials (controller : LockController μ) (trials : List Trial) :
    (controller.afterTrials trials).cell = controller.cell ∧
      (controller.afterTrials trials).authority = controller.authority := by
  induction trials generalizing controller with
  | nil => exact ⟨rfl, rfl⟩
  | cons trial rest ih =>
    obtain ⟨hcell, hauthority⟩ :=
      controller.cell_selfTest trial.last trial.binding trial.token
    obtain ⟨hcellRest, hauthorityRest⟩ :=
      ih (controller.selfTest trial.last trial.binding trial.token).2
    exact ⟨hcellRest.trans hcell, hauthorityRest.trans hauthority⟩

/-- The answer to a self test is the authority's. -/
theorem selfTest_reply (controller : LockController μ) (last binding token : Bytes) :
    (controller.selfTest last binding token).1 =
      controller.authority.selfTest last binding token := by
  unfold selfTest
  split <;> rename_i heq <;> exact heq.symm

/-! ## Releases -/

variable [Medium μ]

/-- A token that is not accepted releases no bound device. -/
theorem release_refused {controller : LockController μ} (stage : LifecycleStage) {token : Bytes}
    {refusal : Refusal} (hprovisioned : controller.locks.isSet .provision = true)
    (hbound : controller.locks.isSet .carrier = true)
    (haccept : controller.authority.accept controller.locks.nonce controller.locks.binding token =
      .error refusal) :
    (controller.apply stage (.carrier false token)).1 = .error refusal ∧
      (controller.apply stage (.carrier false token)).2.cell = controller.cell := by
  have hplan : controller.locks.plan controller.authority stage (.carrier false token) =
      .error refusal := by
    show controller.locks.releaseCarrier controller.authority token = _
    rw [Locks.releaseCarrier_bound _ _ hprovisioned hbound, haccept]
    rfl
  rw [LockController.apply, change, hplan]
  exact ⟨rfl, rfl⟩

/-- A token that is accepted releases a bound device, unless the release cannot be committed. -/
theorem release_accepted {controller : LockController μ} (stage : LifecycleStage) {token : Bytes}
    {nonce : Nonce} (hprovisioned : controller.locks.isSet .provision = true)
    (hbound : controller.locks.isSet .carrier = true)
    (haccept : controller.authority.accept controller.locks.nonce controller.locks.binding token =
      .ok nonce) :
    ∃ next : Locks, Lock.carrier.Switched false controller.locks.mask next.mask ∧
      next.nonce = nonce ∧ next.binding = .zero 32 ∧
      ((∃ medium, Persistent.save controller.cell.medium controller.cell.id next = .ok medium ∧
          (controller.apply stage (.carrier false token)).1 = .ok () ∧
          (controller.apply stage (.carrier false token)).2.cell =
            ⟨medium, controller.cell.id, next⟩) ∨
        (∃ error, Persistent.save controller.cell.medium controller.cell.id next = .error error ∧
          (controller.apply stage (.carrier false token)).1 = .error error.toRefusal ∧
          (controller.apply stage (.carrier false token)).2.cell = controller.cell)) := by
  let next : Locks :=
    { controller.locks.set .carrier false with nonce, binding := .zero 32 }
  have hplan : controller.locks.plan controller.authority stage (.carrier false token) =
      .ok (some next) := by
    show controller.locks.releaseCarrier controller.authority token = _
    rw [Locks.releaseCarrier_bound _ _ hprovisioned hbound, haccept]
    rfl
  refine ⟨next, (Lock.switched_iff _ _ _ _).mpr rfl, rfl, rfl, ?_⟩
  rw [LockController.apply, change, hplan]
  dsimp only
  rcases controller.cell.replace_cases next with ⟨medium, hsave, heq⟩ | ⟨error, hsave, heq⟩
  · rw [heq]
    exact Or.inl ⟨medium, hsave, rfl, rfl⟩
  · rw [heq]
    exact Or.inr ⟨error, hsave, rfl, rfl⟩

/-- A self test foretells the release.  Self tests of any trials change neither the locks nor the
medium.  And for every controller whose device is provisioned and bound, every check of signatures,
policy, stage and token: if the self test of the token against the device's nonce and binding is
refused, then so is the release, for the same reason, and it changes neither the locks nor the medium.
If the self test gives back a nonce, then the release succeeds, and the locks are those before without
the carrier lock, with that nonce and without a binding; or these could not be committed, and then the
release is refused for the error of the medium and changes nothing. -/
theorem selfTest_foretells (controller : LockController μ) (trials : List Trial) :
    let tested := controller.afterTrials trials
    tested.cell = controller.cell ∧
    (controller.locks.isSet .provision = true → controller.locks.isSet .carrier = true →
      ∀ stage token,
        let test := controller.selfTest (Bytes.littleEndian 8 controller.locks.nonce.value.toNat)
          controller.locks.binding.bytes token
        let release := tested.apply stage (.carrier false token)
        (∀ refusal, test.1 = .error refusal →
          release.1 = .error refusal ∧ release.2.cell = controller.cell) ∧
        ∀ nonce, test.1 = .ok nonce →
          ∃ next : Locks, Lock.carrier.Switched false controller.locks.mask next.mask ∧
            next.nonce = nonce ∧ next.binding = .zero 32 ∧
            ((∃ medium,
                Persistent.save controller.cell.medium controller.cell.id next = .ok medium ∧
                release.1 = .ok () ∧ release.2.cell = ⟨medium, controller.cell.id, next⟩) ∨
              (∃ error,
                Persistent.save controller.cell.medium controller.cell.id next = .error error ∧
                release.1 = .error error.toRefusal ∧ release.2.cell = controller.cell))) := by
  intro tested
  obtain ⟨hcell, hauthority⟩ := controller.cell_afterTrials trials
  refine ⟨hcell, fun hprovisioned hbound stage token => ?_⟩
  intro test release
  have hlocks : tested.locks = controller.locks := congrArg RecordCell.value hcell
  -- the token is put to the same test before and after the trials
  have htest : test.1 = tested.authority.accept tested.locks.nonce tested.locks.binding token := by
    rw [hlocks, hauthority, ← ReleaseAuthority.selfTest_eq_accept]
    exact controller.selfTest_reply _ _ _
  rw [← hlocks] at hprovisioned hbound ⊢
  rw [← hcell]
  refine ⟨fun refusal hrefused => ?_, fun nonce hpassed => ?_⟩
  · exact release_refused stage hprovisioned hbound (htest.symm.trans hrefused)
  · exact release_accepted stage hprovisioned hbound (htest.symm.trans hpassed)

/-- Accepts the first bytes of the message for a signature of it. -/
def firstBytes : SignatureCheck where
  length := 2
  check message signature :=
    if signature = message.take 2 then .ok () else .error .badSignature

/-- A device with all locks set, under a strict policy. -/
def fullyLocked : LockController (RamMedium 65 45) :=
  ⟨⟨.empty, defaultRecord, ⟨0x0F, ⟨0x0105⟩, .fill 32 7⟩⟩, ⟨firstBytes, .strict⟩,
    .create "lock" .standard⟩

def nextToken : Bytes :=
  (ReleaseToken.mk ⟨0x0106⟩ [6, 1]).toBytes

def replayedToken : Bytes :=
  (ReleaseToken.mk ⟨0x0105⟩ [5, 1]).toBytes

/-- After a trial without any bytes, the device is released by the token of the next nonce as the self
test said, and the other locks stay set; the token of the stored nonce is refused by both. -/
theorem selfTest_foretells_nextNonce :
    (fullyLocked.selfTest [5, 1, 0, 0, 0, 0, 0, 0] (List.replicate 32 7) nextToken).1 =
        .ok ⟨0x0106⟩ ∧
      (fullyLocked.selfTest [5, 1, 0, 0, 0, 0, 0, 0] (List.replicate 32 7) replayedToken).1 =
        .error .notAllowed ∧
      let tested := fullyLocked.afterTrials [⟨[], [], []⟩]
      (tested.apply .production (.carrier false replayedToken)).1 = .error .notAllowed ∧
      (tested.apply .production (.carrier false nextToken)).1 = .ok () ∧
      (tested.apply .production (.carrier false nextToken)).2.locks =
        ⟨0x0D, ⟨0x0106⟩, .zero 32⟩ := by
  have hpassed : (fullyLocked.selfTest [5, 1, 0, 0, 0, 0, 0, 0] (List.replicate 32 7)
      nextToken).1 = .ok ⟨0x0106⟩ := by rfl
  have hrefused : (fullyLocked.selfTest [5, 1, 0, 0, 0, 0, 0, 0] (List.replicate 32 7)
      replayedToken).1 = .error .notAllowed := by rfl
  obtain ⟨-, hforetold⟩ := selfTest_foretells fullyLocked [⟨[], [], []⟩]
  have hall := hforetold rfl rfl .production
  obtain ⟨locks, hmask, hnonce, hbinding, hrelease⟩ := (hall nextToken).2 _ hpassed
  refine ⟨hpassed, hrefused, ((hall replayedToken).1 _ hrefused).1, ?_⟩
  rcases hrelease with ⟨medium, -, hok, hcell⟩ | ⟨error, hsave, -⟩
  · have hlocks : locks = ⟨0x0D, ⟨0x0106⟩, .zero 32⟩ :=
      Locks.ext ((Lock.switched_iff _ _ _ _).mp hmask) hnonce hbinding
    exact ⟨hok, (congrArg RecordCell.value hcell).trans hlocks⟩
  · -- the medium takes every commit
    have hbudget : fullyLocked.cell.medium.budget ≠ some 0 := nofun
    obtain ⟨after, hsaved, -⟩ : ∃ after,
        Persistent.save fullyLocked.cell.medium fullyLocked.cell.id locks = .ok after ∧
          after.budget = none :=
      Persistent.save_isOk (by decide) (by decide) (by decide) hbudget locks
    rw [hsaved] at hsave
    cases hsave

end LockController

end SecureElement
