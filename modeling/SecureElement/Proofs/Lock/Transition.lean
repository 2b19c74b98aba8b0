/-
  SecureElement.Proofs.Lock.Transition

  The transitions of the locks.  `Locks.Transition` lists what a command may make of them, as a
  relation on the locks before and after: which guards have to hold, which field changes to what,
  and that nothing else changes.  `LockController.set` does exactly this: it succeeds if and only if
  there is a transition and its state can be saved, and a command that fails leaves the locks and
  the medium as they are.
-/
import SecureElement.Lock.Controller
import SecureElement.Proofs.Record.Recovery

namespace SecureElement

/-! ## Bits of a mask -/

/-- One lock's bit was set or cleared in a mask, and the other bits are as they were. -/
structure Lock.Switched (lock : Lock) (enable : Bool) (before after : UInt8) : Prop where
  own : after &&& lock.bit = if enable then lock.bit else 0
  rest : after &&& ~~~lock.bit = before &&& ~~~lock.bit

namespace Lock

theorem or_and_self (mask bits : UInt8) : (mask ||| bits) &&& bits = bits := by
  -- bit by bit
  apply UInt8.toBitVec_inj.mp
  ext i
  simp only [UInt8.toBitVec_and, UInt8.toBitVec_or, BitVec.getElem_and, BitVec.getElem_or]
  cases mask.toBitVec[i] <;> cases bits.toBitVec[i] <;> rfl

theorem or_and_not (mask bits : UInt8) : (mask ||| bits) &&& ~~~bits = mask &&& ~~~bits := by
  apply UInt8.toBitVec_inj.mp
  ext i
  simp only [UInt8.toBitVec_and, UInt8.toBitVec_or, UInt8.toBitVec_not, BitVec.getElem_and,
    BitVec.getElem_or, BitVec.getElem_not]
  cases mask.toBitVec[i] <;> cases bits.toBitVec[i] <;> rfl

theorem and_not_and_self (mask bits : UInt8) : (mask &&& ~~~bits) &&& bits = 0 := by
  rw [UInt8.and_assoc, UInt8.and_comm (~~~bits), UInt8.and_not_self, UInt8.and_zero]

/-- A mask is made up of its bits inside and outside a set. -/
theorem and_not_or_and (mask bits : UInt8) : (mask &&& ~~~bits) ||| (mask &&& bits) = mask := by
  apply UInt8.toBitVec_inj.mp
  ext i
  simp only [UInt8.toBitVec_and, UInt8.toBitVec_or, UInt8.toBitVec_not, BitVec.getElem_and,
    BitVec.getElem_or, BitVec.getElem_not]
  cases mask.toBitVec[i] <;> cases bits.toBitVec[i] <;> rfl

theorem bit_inj {lock other : Lock} (h : lock.bit = other.bit) : lock = other := by
  cases lock <;> cases other <;> first | rfl | cases h

/-- There is one mask in which a lock is switched: the one that the locks come to. -/
theorem switched_iff (lock : Lock) (enable : Bool) (before after : UInt8) :
    Switched lock enable before after ↔
      after = if enable then before ||| lock.bit else before &&& ~~~lock.bit := by
  constructor
  · rintro ⟨hown, hrest⟩
    -- the mask is made up of the lock's own bit and the rest, and both are known
    have hafter := and_not_or_and after lock.bit
    rw [hown, hrest] at hafter
    cases enable with
    | true =>
      have hbefore := and_not_or_and (before ||| lock.bit) lock.bit
      rw [or_and_self, or_and_not] at hbefore
      exact hafter.symm.trans hbefore
    | false => exact hafter.symm.trans UInt8.or_zero
  · rintro rfl
    cases enable with
    | true => exact ⟨or_and_self before lock.bit, or_and_not before lock.bit⟩
    | false =>
      have hrest : before &&& ~~~lock.bit &&& ~~~lock.bit = before &&& ~~~lock.bit := by
        rw [UInt8.and_assoc, UInt8.and_self]
      exact ⟨and_not_and_self before lock.bit, hrest⟩

end Lock

/-! ## Transitions -/

/-- One lock was switched, and nothing else changed. -/
structure Locks.Toggled (lock : Lock) (enable : Bool) (before after : Locks) : Prop where
  mask : lock.Switched enable before.mask after.mask
  nonce : after.nonce = before.nonce
  binding : after.binding = before.binding

/-- What a command that names a lock may make of the locks; `none` stands for no change at all. -/
inductive Locks.Transition (authority : ReleaseAuthority) (stage : LifecycleStage)
    (before : Locks) : Lock → Bool → Bytes → Caller → Option Locks → Prop where
  /-- Anyone may reset the locks. -/
  | reset (payload : Bytes) (caller : Caller) :
      Transition authority stage before .provision false payload caller (some initial)
  /-- Anyone may provision the device once, and the bootloader again. -/
  | provision (payload : Bytes) (caller : Caller) (after : Locks)
      (hallowed : before.isSet .provision = false ∨ caller = .bootloader)
      (hafter : Toggled .provision true before after) :
      Transition authority stage before .provision true payload caller (some after)
  /-- The device is bound in the factory before it is provisioned; the nonce is kept. -/
  | bind (payload : Bytes) (caller : Caller) (after : Locks)
      (hfree : before.isSet .provision = false) (hstage : stage = .factory)
      (hmask : Lock.carrier.Switched true before.mask after.mask)
      (hnonce : after.nonce = before.nonce)
      (hbinding : after.binding = Sha256.hash payload) :
      Transition authority stage before .carrier true payload caller (some after)
  /-- The device is released by a token that is accepted for the nonce and the binding. -/
  | release (payload : Bytes) (caller : Caller) (after : Locks)
      (hprovisioned : before.isSet .provision = true) (hbound : before.isSet .carrier = true)
      (haccept : authority.accept before.nonce before.binding payload = .ok after.nonce)
      (hmask : Lock.carrier.Switched false before.mask after.mask)
      (hbinding : after.binding = .zero 32) :
      Transition authority stage before .carrier false payload caller (some after)
  /-- A device that is not bound needs no release. -/
  | idle (payload : Bytes) (caller : Caller)
      (hprovisioned : before.isSet .provision = true) (hfree : before.isSet .carrier = false) :
      Transition authority stage before .carrier false payload caller none
  /-- The running system switches the device lock. -/
  | device (enable : Bool) (payload : Bytes) (after : Locks)
      (hprovisioned : before.isSet .provision = true)
      (hafter : Toggled .device enable before after) :
      Transition authority stage before .device enable payload .os (some after)
  /-- The bootloader switches the boot lock, but does not clear it under another lock. -/
  | boot (enable : Bool) (payload : Bytes) (after : Locks)
      (hprovisioned : before.isSet .provision = true)
      (hfree : enable = true ∨ before.isSet .carrier = false ∧ before.isSet .device = false)
      (hafter : Toggled .boot enable before after) :
      Transition authority stage before .boot enable payload .bootloader (some after)

namespace Locks

/-- There are only one locks in which a lock is switched. -/
theorem toggled_iff {lock : Lock} {enable : Bool} {before after : Locks} :
    Toggled lock enable before after ↔ after = before.set lock enable := by
  constructor
  · rintro ⟨hmask, hnonce, hbinding⟩
    exact Locks.ext ((Lock.switched_iff _ _ _ _).mp hmask) hnonce hbinding
  · rintro rfl
    exact ⟨(Lock.switched_iff _ _ _ _).mpr rfl, rfl, rfl⟩

theorem provision_iff (locks : Locks) (caller : Caller) (after : Locks) :
    locks.provision caller = .ok after ↔
      (locks.isSet .provision = false ∨ caller = .bootloader) ∧
        Toggled .provision true locks after := by
  rw [toggled_iff, Locks.provision]
  cases hset : locks.isSet .provision <;> cases caller <;>
    simp [Caller.isBootloader, eq_comm]

theorem bindCarrier_iff (locks : Locks) (stage : LifecycleStage) (payload : Bytes)
    (after : Locks) :
    locks.bindCarrier stage payload = .ok after ↔
      (locks.isSet .provision = false ∧ stage = .factory) ∧
        Lock.carrier.Switched true locks.mask after.mask ∧ after.nonce = locks.nonce ∧
          after.binding = Sha256.hash payload := by
  rw [Lock.switched_iff, Locks.bindCarrier]
  cases hset : locks.isSet .provision <;> cases stage <;>
    simp [LifecycleStage.isProduction, Locks.ext_iff, Locks.set, DeviceBinding.ofData, eq_comm]

theorem releaseCarrier_idle {locks : Locks} (authority : ReleaseAuthority) (payload : Bytes)
    (hprovisioned : locks.isSet .provision = true) (hfree : locks.isSet .carrier = false) :
    locks.releaseCarrier authority payload = .ok none := by
  rw [releaseCarrier, requireProvisioned, if_pos hprovisioned, hfree]
  rfl

theorem releaseCarrier_bound {locks : Locks} (authority : ReleaseAuthority) (payload : Bytes)
    (hprovisioned : locks.isSet .provision = true) (hbound : locks.isSet .carrier = true) :
    locks.releaseCarrier authority payload =
      (authority.accept locks.nonce locks.binding payload).map fun nonce =>
        some { locks.set .carrier false with nonce, binding := .zero 32 } := by
  rw [releaseCarrier, requireProvisioned, if_pos hprovisioned, hbound]
  rfl

theorem releaseCarrier_gated {locks : Locks} (authority : ReleaseAuthority) (payload : Bytes)
    (hprovisioned : locks.isSet .provision = false) :
    locks.releaseCarrier authority payload = .error .notAllowed := by
  rw [releaseCarrier, requireProvisioned, hprovisioned]
  rfl

theorem releaseCarrier_iff (locks : Locks) (authority : ReleaseAuthority)
    (stage : LifecycleStage) (payload : Bytes) (caller : Caller) (change : Option Locks) :
    locks.releaseCarrier authority payload = .ok change ↔
      locks.Transition authority stage .carrier false payload caller change := by
  constructor
  · intro h
    cases hprovisioned : locks.isSet .provision with
    | false =>
      rw [releaseCarrier_gated authority payload hprovisioned] at h
      cases h
    | true =>
      -- only a device that is bound looks at the token
      cases hbound : locks.isSet .carrier with
      | false =>
        rw [releaseCarrier_idle authority payload hprovisioned hbound] at h
        cases h
        exact .idle payload caller hprovisioned hbound
      | true =>
        rw [releaseCarrier_bound authority payload hprovisioned hbound] at h
        cases haccept : authority.accept locks.nonce locks.binding payload with
        | error refusal =>
          rw [haccept] at h
          cases h
        | ok nonce =>
          rw [haccept] at h
          cases h
          exact .release payload caller _ hprovisioned hbound haccept
            ((Lock.switched_iff _ _ _ _).mpr rfl) rfl
  · intro h
    cases h with
    | release _ _ after hprovisioned hbound haccept hmask hbinding =>
      rw [releaseCarrier_bound authority payload hprovisioned hbound, haccept]
      -- the three fields of the locks afterwards are the ones that the plan gives them
      have hafter : after =
          { locks.set .carrier false with nonce := after.nonce, binding := .zero 32 } :=
        Locks.ext ((Lock.switched_iff _ _ _ _).mp hmask) rfl hbinding
      exact congrArg (fun locks => Except.ok (some locks)) hafter.symm
    | idle _ _ hprovisioned hfree =>
      exact releaseCarrier_idle authority payload hprovisioned hfree

theorem setDevice_iff (locks : Locks) (enable : Bool) (caller : Caller) (after : Locks) :
    locks.setDevice enable caller = .ok after ↔
      locks.isSet .provision = true ∧ caller = .os ∧ Toggled .device enable locks after := by
  rw [toggled_iff, setDevice, requireProvisioned]
  cases hset : locks.isSet .provision <;> cases caller <;>
    simp [Caller.isBootloader, bind, Except.bind, pure, Except.pure, throw, throwThe,
      MonadExceptOf.throw, eq_comm]

theorem setBoot_iff (locks : Locks) (enable : Bool) (caller : Caller) (after : Locks) :
    locks.setBoot enable caller = .ok after ↔
      locks.isSet .provision = true ∧ caller = .bootloader ∧
        (enable = true ∨ locks.isSet .carrier = false ∧ locks.isSet .device = false) ∧
          Toggled .boot enable locks after := by
  rw [toggled_iff, setBoot, requireProvisioned]
  cases hset : locks.isSet .provision <;> cases caller <;> cases enable <;>
    cases hcarrier : locks.isSet .carrier <;> cases hdevice : locks.isSet .device <;>
    simp [Caller.isBootloader, bind, Except.bind, pure, Except.pure, throw, throwThe,
      MonadExceptOf.throw, eq_comm]

/-- A plan that always asks for some state succeeds exactly if that state is found. -/
theorem map_some_eq_ok_iff {planned : Except Refusal Locks} {change : Option Locks} :
    planned.map some = .ok change ↔ ∃ after, change = some after ∧ planned = .ok after := by
  cases planned with
  | error refusal => exact ⟨nofun, nofun⟩
  | ok after =>
    constructor
    · intro h
      cases h
      exact ⟨after, rfl, rfl⟩
    · rintro ⟨other, rfl, hother⟩
      cases hother
      rfl

/-- A command is planned exactly as there is a transition. -/
theorem plan_iff (locks : Locks) (authority : ReleaseAuthority) (stage : LifecycleStage)
    (lock : Lock) (enable : Bool) (payload : Bytes) (caller : Caller) (change : Option Locks) :
    locks.plan authority stage (.ofLock lock enable payload caller) = .ok change ↔
      locks.Transition authority stage lock enable payload caller change := by
  cases lock with
  | provision =>
    cases enable with
    | false =>
      constructor
      · intro h
        cases h
        exact .reset payload caller
      · intro h
        cases h
        rfl
    | true =>
      show (locks.provision caller).map some = .ok change ↔ _
      rw [map_some_eq_ok_iff]
      constructor
      · rintro ⟨after, rfl, h⟩
        obtain ⟨hallowed, hafter⟩ := (provision_iff locks caller after).mp h
        exact .provision payload caller after hallowed hafter
      · intro h
        cases h with
        | provision _ _ after hallowed hafter =>
          exact ⟨after, rfl, (provision_iff locks caller after).mpr ⟨hallowed, hafter⟩⟩
  | carrier =>
    cases enable with
    | false => exact releaseCarrier_iff locks authority stage payload caller change
    | true =>
      show (locks.bindCarrier stage payload).map some = .ok change ↔ _
      rw [map_some_eq_ok_iff]
      constructor
      · rintro ⟨after, rfl, h⟩
        obtain ⟨⟨hfree, hstage⟩, hmask, hnonce, hbinding⟩ :=
          (bindCarrier_iff locks stage payload after).mp h
        exact .bind payload caller after hfree hstage hmask hnonce hbinding
      · intro h
        cases h with
        | bind _ _ after hfree hstage hmask hnonce hbinding =>
          exact ⟨after, rfl, (bindCarrier_iff locks stage payload after).mpr
            ⟨⟨hfree, hstage⟩, hmask, hnonce, hbinding⟩⟩
  | device =>
    show (locks.setDevice enable caller).map some = .ok change ↔ _
    rw [map_some_eq_ok_iff]
    constructor
    · rintro ⟨after, rfl, h⟩
      obtain ⟨hprovisioned, rfl, hafter⟩ := (setDevice_iff locks enable caller after).mp h
      exact .device enable payload after hprovisioned hafter
    · intro h
      cases h with
      | device _ _ after hprovisioned hafter =>
        exact ⟨after, rfl, (setDevice_iff locks enable .os after).mpr
          ⟨hprovisioned, rfl, hafter⟩⟩
  | boot =>
    show (locks.setBoot enable caller).map some = .ok change ↔ _
    rw [map_some_eq_ok_iff]
    constructor
    · rintro ⟨after, rfl, h⟩
      obtain ⟨hprovisioned, rfl, hfree, hafter⟩ := (setBoot_iff locks enable caller after).mp h
      exact .boot enable payload after hprovisioned hfree hafter
    · intro h
      cases h with
      | boot _ _ after hprovisioned hfree hafter =>
        exact ⟨after, rfl, (setBoot_iff locks enable .bootloader after).mpr
          ⟨hprovisioned, rfl, hfree, hafter⟩⟩

end Locks

/-! ## Commands -/

namespace LockController

variable {μ : Type} [Medium μ]

/-- A change that is planned is committed, or the controller stays as it is. -/
theorem change_cases (controller : LockController μ) (stage : LifecycleStage)
    (request : LockRequest) :
    (∃ change cell, controller.locks.plan controller.authority stage request = .ok change ∧
      controller.cell.Committed change cell ∧
      controller.change stage request = (.ok (), { controller with cell })) ∨
    (∃ refusal, controller.change stage request = (.error refusal, controller) ∧
      ∀ change cell, controller.locks.plan controller.authority stage request = .ok change →
        ¬ controller.cell.Committed change cell) := by
  unfold LockController.change
  cases hplan : controller.locks.plan controller.authority stage request with
  | error refusal => exact Or.inr ⟨refusal, rfl, nofun⟩
  | ok change =>
    cases change with
    | none => exact Or.inl ⟨none, controller.cell, rfl, .unchanged, rfl⟩
    | some next =>
      -- the medium may still refuse what was planned
      rcases controller.cell.replace_cases next with ⟨medium, hsave, heq⟩ | ⟨error, hsave, heq⟩
      · refine Or.inl ⟨some next, _, rfl, .saved next medium hsave, ?_⟩
        simp only [heq]
      · refine Or.inr ⟨error.toRefusal, by simp only [heq], ?_⟩
        intro change cell hchange hcommitted
        cases hchange
        cases hcommitted with
        | saved _ medium hok =>
          rw [hok] at hsave
          cases hsave

/-- A request that is planned and can be saved is carried out; any other leaves the locks and the
medium as they are. -/
theorem apply_cases (controller : LockController μ) (stage : LifecycleStage)
    (request : LockRequest) :
    (controller.apply stage request).2.authority = controller.authority ∧
    ((∃ change, controller.locks.plan controller.authority stage request = .ok change ∧
        controller.cell.Committed change (controller.apply stage request).2.cell ∧
        (controller.apply stage request).1 = .ok ()) ∨
      ((∃ refusal, (controller.apply stage request).1 = .error refusal) ∧
        (controller.apply stage request).2.cell = controller.cell ∧
        ∀ change cell, controller.locks.plan controller.authority stage request = .ok change →
          ¬ controller.cell.Committed change cell)) := by
  unfold LockController.apply
  rcases controller.change_cases stage request with
    ⟨change, cell, hplan, hcommitted, heq⟩ | ⟨refusal, heq, hnone⟩
  · rw [heq]
    exact ⟨rfl, Or.inl ⟨change, hplan, hcommitted, rfl⟩⟩
  · rw [heq]
    exact ⟨rfl, Or.inr ⟨⟨refusal, rfl⟩, rfl, hnone⟩⟩

theorem ofRaw_cases (raw : UInt8) :
    (∃ lock : Lock, raw = lock.bit ∧ Lock.ofRaw raw = .ok lock) ∨
      ((∀ lock : Lock, raw ≠ lock.bit) ∧ ∃ refusal, Lock.ofRaw raw = .error refusal) := by
  cases hraw : Lock.ofRaw raw with
  | ok lock => exact Or.inl ⟨lock, Lock.ofRaw_eq_ok_iff.mp hraw, rfl⟩
  | error refusal =>
    refine Or.inr ⟨fun lock hlock => ?_, refusal, rfl⟩
    rw [Lock.ofRaw_eq_ok_iff.mpr hlock] at hraw
    cases hraw

theorem set_eq_apply (controller : LockController μ) (stage : LifecycleStage) {raw : UInt8}
    {lock : Lock} (hraw : Lock.ofRaw raw = .ok lock) (enable : Bool) (payload : Bytes)
    (caller : Caller) :
    controller.set stage raw enable payload caller =
      controller.apply stage (.ofLock lock enable payload caller) := by
  rw [LockController.set, hraw]

theorem set_unknown (controller : LockController μ) (stage : LifecycleStage) {raw : UInt8}
    {refusal : Refusal} (hraw : Lock.ofRaw raw = .error refusal) (enable : Bool) (payload : Bytes)
    (caller : Caller) :
    controller.set stage raw enable payload caller =
      (.error refusal, controller.record (.unknownLock raw)) := by
  rw [LockController.set, hraw]

/-- A command moves the locks along a transition that could be saved, or it leaves them and the
medium as they are. -/
theorem set_cases (controller : LockController μ) (stage : LifecycleStage) (raw : UInt8)
    (enable : Bool) (payload : Bytes) (caller : Caller) :
    (∃ lock change, raw = lock.bit ∧
      controller.locks.Transition controller.authority stage lock enable payload caller change ∧
      controller.cell.Committed change (controller.set stage raw enable payload caller).2.cell ∧
      (controller.set stage raw enable payload caller).1 = .ok ()) ∨
    ((∃ refusal, (controller.set stage raw enable payload caller).1 = .error refusal) ∧
      (controller.set stage raw enable payload caller).2.cell = controller.cell ∧
      ∀ lock change cell, raw = lock.bit →
        controller.locks.Transition controller.authority stage lock enable payload caller change →
          ¬ controller.cell.Committed change cell) := by
  rcases ofRaw_cases raw with ⟨lock, hlock, hraw⟩ | ⟨hlock, refusal, hraw⟩
  · rw [controller.set_eq_apply stage hraw]
    rcases (controller.apply_cases stage (.ofLock lock enable payload caller)).2 with
      ⟨change, hplan, hcommitted, hok⟩ | ⟨herror, hcell, hnone⟩
    · exact Or.inl ⟨lock, change, hlock, (Locks.plan_iff _ _ _ _ _ _ _ _).mp hplan, hcommitted,
        hok⟩
    · refine Or.inr ⟨herror, hcell, fun other change cell hother htransition => ?_⟩
      -- the number names no other lock, so there was no other plan
      have hsame : other = lock := Lock.bit_inj (hother.symm.trans hlock)
      subst hsame
      exact hnone change cell ((Locks.plan_iff _ _ _ _ _ _ _ _).mpr htransition)
  · rw [controller.set_unknown stage hraw]
    exact Or.inr ⟨⟨refusal, rfl⟩, rfl, fun lock _ _ h => absurd h (hlock lock)⟩

/-- The transition relation of the lock controller.  For all locks, all stages, all arguments and
every medium: a command that fails leaves the locks and the medium as they are, and a command
succeeds, leaving a cell, if and only if that cell is a transition of the locks, committed. -/
theorem set_iff_transition (controller : LockController μ) (stage : LifecycleStage) (raw : UInt8)
    (enable : Bool) (payload : Bytes) (caller : Caller) :
    (∀ refusal, (controller.set stage raw enable payload caller).1 = .error refusal →
      (controller.set stage raw enable payload caller).2.cell = controller.cell) ∧
    ∀ cell, ((controller.set stage raw enable payload caller).1 = .ok () ∧
        (controller.set stage raw enable payload caller).2.cell = cell) ↔
      ∃ lock change, raw = lock.bit ∧
        controller.locks.Transition controller.authority stage lock enable payload caller change ∧
        controller.cell.Committed change cell := by
  rcases controller.set_cases stage raw enable payload caller with
    ⟨lock, change, hlock, htransition, hcommitted, hok⟩ | ⟨⟨refusal, herror⟩, hcell, hnone⟩
  · refine ⟨fun refusal herror => ?_, fun cell => ⟨?_, ?_⟩⟩
    · rw [hok] at herror
      cases herror
    · rintro ⟨-, rfl⟩
      exact ⟨lock, change, hlock, htransition, hcommitted⟩
    · rintro ⟨other, planned, hother, hplanned, hcell⟩
      -- the command names one lock and has one plan, so the cells are the same
      have hsame : other = lock := Lock.bit_inj (hother.symm.trans hlock)
      subst hsame
      rw [← Locks.plan_iff] at hplanned htransition
      have hchange := Except.ok.inj (hplanned.symm.trans htransition)
      subst hchange
      exact ⟨hok, hcommitted.unique hcell⟩
  · refine ⟨fun _ _ => hcell, fun cell => ⟨?_, ?_⟩⟩
    · rintro ⟨hok, -⟩
      rw [herror] at hok
      cases hok
    · rintro ⟨lock, change, hlock, htransition, hcommitted⟩
      exact absurd hcommitted (hnone lock change cell hlock htransition)

end LockController

end SecureElement
