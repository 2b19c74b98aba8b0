/-
  SecureElement.Proofs.Lock.Consistent

  What the fields of the locks say about each other.  A device that is not provisioned has neither
  its device lock nor its boot lock set, and its nonce is zero; a device that is free of a carrier
  has no binding; and a device that is bound was not released since it was reset, and its binding is
  the digest of the data that it was bound by last.  Every transition keeps this, so it holds of the
  open controller in every session that began on a blank medium.
-/
import SecureElement.Proofs.Lock.Session

namespace SecureElement

/-! ## Locks before and after a switch -/

namespace Lock.Switched

variable {lock other : Lock} {enable : Bool} {before after : Locks}

/-- The lock that was switched is set as it was asked for. -/
theorem isSet_self (h : lock.Switched enable before.mask after.mask) :
    after.isSet lock = enable := by
  unfold Locks.isSet Locks.hasBits
  rw [h.own]
  cases lock <;> cases enable <;> rfl

/-- Every other lock is set as it was before. -/
theorem isSet_of_ne (h : lock.Switched enable before.mask after.mask) (hne : other ≠ lock) :
    after.isSet other = before.isSet other := by
  -- the bit of the other lock lies in the part of the mask that the switch leaves alone
  have hinside : other.bit = ~~~lock.bit &&& other.bit := by
    cases other <;> cases lock <;> first | rfl | exact absurd rfl hne
  have hbit : after.mask &&& other.bit = before.mask &&& other.bit := by
    rw [hinside, ← UInt8.and_assoc, ← UInt8.and_assoc, h.rest]
  unfold Locks.isSet Locks.hasBits
  rw [hbit]

end Lock.Switched

/-! ## Consistent locks -/

/-- What the fields of the locks say about each other, on a device that was last bound by the data
`bound`. -/
structure Locks.Consistent (bound : Option Bytes) (locks : Locks) : Prop where
  /-- No bit is set but those of the locks. -/
  inDomain : locks.mask &&& ~~~Lock.fullMask = 0
  unprovisioned : locks.isSet .provision = false →
    locks.isSet .device = false ∧ locks.isSet .boot = false ∧ locks.nonce = .zero
  free : locks.isSet .carrier = false → locks.binding = .zero 32
  bound : locks.isSet .carrier = true →
    locks.nonce = .zero ∧ ∃ data, bound = some data ∧ locks.binding = Sha256.hash data

/-- The data that a request binds the device by. -/
def LockRequest.data? : LockRequest → Option Bytes
  | .carrier true data => some data
  | .carrier false _ | .provision _ _ | .device _ _ | .boot _ _ => none

namespace Locks

theorem consistent_initial (bound : Option Bytes) : initial.Consistent bound where
  inDomain := inDomain_initial
  unprovisioned _ := ⟨rfl, rfl, rfl⟩
  free _ := rfl
  bound h := by cases h

variable {before after : Locks} {lock : Lock} {enable : Bool} {bound : Option Bytes}

/-- On a device that is provisioned afterwards, any lock but the carrier lock may be switched. -/
theorem Toggled.consistent (h : Toggled lock enable before after) (hlock : lock ≠ .carrier)
    (hprovisioned : after.isSet .provision = true) (hbefore : before.Consistent bound) :
    after.Consistent bound := by
  have hcarrier : after.isSet .carrier = before.isSet .carrier := h.mask.isSet_of_ne hlock.symm
  refine ⟨h.mask.and_not_fullMask hbefore.inDomain, fun hnot => ?_, fun hfree => ?_,
    fun hbound => ?_⟩
  · rw [hprovisioned] at hnot
    cases hnot
  · rw [h.binding]
    exact hbefore.free (hcarrier ▸ hfree)
  · rw [h.nonce, h.binding]
    exact hbefore.bound (hcarrier ▸ hbound)

/-- Every transition keeps the locks consistent; binding the device changes the data that it is
bound by. -/
theorem Transition.consistent {authority : ReleaseAuthority} {stage : LifecycleStage}
    {payload : Bytes} {caller : Caller} {change : Option Locks}
    (h : before.Transition authority stage lock enable payload caller change)
    (hbefore : before.Consistent bound) :
    (change.getD before).Consistent
      ((LockRequest.ofLock lock enable payload caller).data?.or bound) := by
  cases h with
  | reset => exact consistent_initial _
  | provision _ _ after _ hafter =>
    exact hafter.consistent (by decide) hafter.mask.isSet_self hbefore
  | bind _ _ after hfree _ hmask hnonce hbinding =>
    -- the device is not provisioned, so the nonce is zero and stays so
    obtain ⟨hdevice, hboot, hzero⟩ := hbefore.unprovisioned hfree
    refine ⟨hmask.and_not_fullMask hbefore.inDomain, fun _ => ⟨?_, ?_, hnonce.trans hzero⟩,
      fun hnot => ?_, fun _ => ⟨hnonce.trans hzero, payload, rfl, hbinding⟩⟩
    · exact (hmask.isSet_of_ne (by decide)).trans hdevice
    · exact (hmask.isSet_of_ne (by decide)).trans hboot
    · exact absurd (hmask.isSet_self.symm.trans hnot) (by decide)
  | release _ _ after hprovisioned _ _ hmask hbinding =>
    refine ⟨hmask.and_not_fullMask hbefore.inDomain, fun hnot => ?_, fun _ => hbinding,
      fun hbound => ?_⟩
    · have hstill : after.isSet .provision = before.isSet .provision :=
        hmask.isSet_of_ne (by decide)
      exact absurd ((hprovisioned.symm.trans hstill.symm).trans hnot) (by decide)
    · exact absurd (hmask.isSet_self.symm.trans hbound) (by decide)
  | idle => exact hbefore
  | device _ _ after hprovisioned hafter =>
    have hstill : after.isSet .provision = before.isSet .provision :=
      hafter.mask.isSet_of_ne (by decide)
    exact hafter.consistent (by decide) (hstill.trans hprovisioned) hbefore
  | boot _ _ after hprovisioned _ hafter =>
    have hstill : after.isSet .provision = before.isSet .provision :=
      hafter.mask.isSet_of_ne (by decide)
    exact hafter.consistent (by decide) (hstill.trans hprovisioned) hbefore

end Locks

/-! ## What the past says -/

namespace LockDeed

variable {μ : Type} [Medium μ]

/-- The data by which a command bound the device of a record, if it did. -/
def data? (id : RecordId) (deed : LockDeed μ) : Option Bytes :=
  if deed.before.cell.id = id ∧ deed.reply.isOk then
    deed.command.command.request?.bind LockRequest.data?
  else
    none

/-- The data by which the device of a record was bound last. -/
def lastData? (id : RecordId) (past : List (LockDeed μ)) : Option Bytes :=
  past.findSome? (data? id)

theorem lastData?_cons (id : RecordId) (deed : LockDeed μ) (past : List (LockDeed μ)) :
    lastData? id (deed :: past) = (data? id deed).or (lastData? id past) := by
  rw [lastData?, List.findSome?_cons]
  cases data? id deed <;> rfl

/-- A command on the record carries it on that the locks are consistent with the past. -/
theorem consistent_cons {id : RecordId} {past : List (LockDeed μ)} {deed : LockDeed μ}
    (hid : deed.before.cell.id = id) (h : deed.before.locks.Consistent (lastData? id past)) :
    deed.after.locks.Consistent (lastData? id (deed :: past)) := by
  have hreply : deed.reply = (deed.before.execute deed.command.stage deed.command.command).1 := rfl
  rw [lastData?_cons]
  rcases (deed.before.execute_cases deed.command.stage deed.command.command).2 with
    ⟨request, change, hrequest, hplan, hcommitted, hok⟩ | ⟨hcell, hnone⟩
  · -- a request that was carried out is a transition of the locks
    have hdata : data? id deed = request.data? := by
      rw [data?, hreply, if_pos ⟨hid, hok⟩, hrequest]
      rfl
    have hafter : deed.after.locks = change.getD deed.before.locks := hcommitted.value_eq
    obtain ⟨lock, enable, payload, caller, rfl⟩ := request.exists_ofLock
    rw [hdata, hafter]
    exact ((Locks.plan_iff _ _ _ _ _ _ _ _).mp hplan).consistent h
  · have hdata : data? id deed = none := by
      unfold data?
      rcases hnone with hrequest | herror
      · rw [hrequest]
        exact ite_self _
      · rw [hreply, if_neg fun hok => by rw [herror] at hok; cases hok.2]
    have hafter : deed.after.locks = deed.before.locks := congrArg RecordCell.value hcell
    rw [hdata, hafter]
    exact h

end LockDeed

/-! ## Sessions -/

namespace LockSession

open LockDeed

variable {μ : Type} [Medium μ] [LawfulMedium μ]

/-- In every session that began on a medium without images, the locks of the open controller are
consistent: no bit is set but those of the locks; before the device is provisioned neither the
device lock nor the boot lock is set and the nonce is zero; a device that is free has no binding;
and a device that is bound has the nonce zero and, as its binding, the digest of the data by which
it was bound last. -/
theorem consistent_locks {medium : μ}
    (hblank : ∀ id room image, Medium.load medium id room ≠ .ok (some image))
    (clock : SteppedClock) (steps : List (LockStep μ)) {controller : LockController μ}
    (hcontroller :
      (Session.after medium clock steps : LockSession μ).component? = some controller) :
    let session : LockSession μ := .after medium clock steps
    controller.locks.Consistent (lastData? controller.cell.id session.past) := by
  intro session
  let tells (past : List (LockDeed μ)) (found : Except MediumError Locks) : Prop :=
    ∀ locks, found = .ok locks → locks.Consistent (lastData? controller.cell.id past)
  have hstart : tells [] (Persistent.recovered Locks.initial medium controller.cell.id) := by
    intro locks hlocks
    rw [Persistent.eq_of_recovered_blank (hblank _ _) hlocks]
    exact Locks.consistent_initial none
  have hdeed (past : List (LockDeed μ)) (deed : LockDeed μ) (_ : True)
      (hid : deed.before.cell.id = controller.cell.id) (h : tells past (.ok deed.before.locks)) :
      tells (deed :: past) (.ok deed.after.locks) := by
    intro locks hlocks
    rw [← Except.ok.inj hlocks]
    exact consistent_cons hid (h _ rfl)
  have hother (past : List (LockDeed μ)) (deed : LockDeed μ) (found : Except MediumError Locks)
      (hid : deed.before.cell.id ≠ controller.cell.id) (h : tells past found) :
      tells (deed :: past) found := by
    intro locks hlocks
    rw [lastData?_cons, data?, if_neg fun hboth => hid hboth.1]
    exact h locks hlocks
  obtain ⟨-, hopened⟩ := tells_locks Session.lasts_true tells hdeed hother hstart clock
    (fun step _ => Session.opens_true step)
  exact hopened controller hcontroller rfl controller.locks rfl

/-- The device is bound twice and provisioned, a release fails for its token and the next for want
of a commit, and the controller is opened again. -/
def rebound : List (LockStep (RamMedium 65 45)) :=
  [.reopen ⟨⟨⟨1, fun _ _ => .ok ()⟩, .strict⟩, LockController.defaultRecord, .standard⟩,
    .command ⟨.factory, .set 0x02 true [0x2A] .os⟩, .command ⟨.factory, .set 0x02 true [0x2B] .os⟩,
    .command ⟨.factory, .set 0x01 true [] .os⟩, .command ⟨.factory, .set 0x02 true [0x2C] .os⟩,
    .command ⟨.production, .set 0x04 true [] .os⟩,
    .command ⟨.production, .set 0x02 false [0x01] .os⟩, .befall (RamMedium.shortage 0),
    .command ⟨.production, .set 0x02 false [1, 7, 0, 0, 0, 0, 0, 0, 0, 0] .os⟩,
    .reopen ⟨⟨⟨1, fun _ _ => .ok ()⟩, .strict⟩, LockController.defaultRecord, .standard⟩]

/-- The device is still bound by the data that was accepted last. -/
theorem consistent_locks_rebound :
    ∃ controller, (Session.after (.empty : RamMedium 65 45) {} rebound :
        LockSession (RamMedium 65 45)).component? = some controller ∧
      controller.locks.mask = 0x07 ∧ controller.locks.nonce = .zero ∧
      controller.locks.binding = Sha256.hash [0x2B] := by
  let session : LockSession (RamMedium 65 45) := .after (.empty : RamMedium 65 45) {} rebound
  -- one evaluation for both, so that the session runs once
  have hrun : (session.component?.map fun controller =>
        (controller.locks.mask, controller.cell.id),
      lastData? LockController.defaultRecord session.past) =
        (some (0x07, LockController.defaultRecord), some [0x2B]) := by
    decide +kernel
  obtain ⟨hopened, hlast⟩ := Prod.mk.inj hrun
  obtain ⟨controller, hcontroller, hpair⟩ := Option.map_eq_some_iff.mp hopened
  obtain ⟨hmask, hid⟩ := Prod.mk.inj hpair
  have hbound : controller.locks.isSet .carrier = true := by
    rw [Locks.isSet, Locks.hasBits, hmask]
    rfl
  have hconsistent : controller.locks.Consistent (lastData? controller.cell.id session.past) :=
    consistent_locks RamMedium.load_empty_ne {} rebound hcontroller
  obtain ⟨hnonce, data, hdata, hbinding⟩ := hconsistent.bound hbound
  rw [hid, hlast] at hdata
  cases hdata
  exact ⟨controller, hcontroller, hmask, hnonce, hbinding⟩

end LockSession

end SecureElement
