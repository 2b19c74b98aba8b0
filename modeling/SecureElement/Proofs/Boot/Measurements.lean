/-
  SecureElement.Proofs.Boot.Measurements

  What registers and floors tell of the past.  A register is the chain of digests over the
  measurements that it was extended with since the registers were last reset, and a floor is the
  highest value that it was raised to.  Only commands that were carried out count; those that were
  refused, restarts and failed commits leave no trace.
-/
import SecureElement.Proofs.Boot.Session
import SecureElement.Proofs.Crypto.Sha256

namespace SecureElement

/-! ## What was done -/

namespace BootCommand

/-- The measurement that a register is extended with. -/
def measurement? (register : Fin registerCount) : BootCommand → Option Bytes
  | extend raw data => if raw.toNat = register.val then some data else none
  | reset _ | raise _ _ _ => none

def isReset : BootCommand → Bool
  | reset _ => true
  | extend _ _ | raise _ _ _ => false

/-- The value that a floor is raised to. -/
def raised? (floor : Fin floorCount) : BootCommand → Option UInt64
  | raise _ raw value => if raw.toNat = floor.val then some value else none
  | extend _ _ | reset _ => none

/-- Who issues a command; anyone may extend a register. -/
def caller? : BootCommand → Option Caller
  | reset caller | raise caller _ _ => some caller
  | extend _ _ => none

/-- The measurements of a register since the last reset, oldest first, where `done` has the latest
command first. -/
def measured (register : Fin registerCount) (done : List BootCommand) : List Bytes :=
  ((done.takeWhile fun command => !command.isReset).filterMap (measurement? register)).reverse

/-- The values that a floor was raised to, the latest first. -/
def raised (floor : Fin floorCount) (done : List BootCommand) : List UInt64 :=
  done.filterMap (raised? floor)

section Cons

variable {register : Fin registerCount} {floor : Fin floorCount} {raw : UInt8} {data : Bytes}
  {caller : Caller} {value : UInt64} {done : List BootCommand}

theorem measured_extend (hraw : raw.toNat = register.val) :
    measured register (.extend raw data :: done) = measured register done ++ [data] := by
  have hadded : measurement? register (.extend raw data) = some data := if_pos hraw
  exact (congrArg List.reverse (List.filterMap_cons_some hadded)).trans List.reverse_cons

theorem measured_extend_of_ne (hraw : raw.toNat ≠ register.val) :
    measured register (.extend raw data :: done) = measured register done := by
  have hskipped : measurement? register (.extend raw data) = none := if_neg hraw
  exact congrArg List.reverse (List.filterMap_cons_none hskipped)

theorem measured_reset : measured register (.reset caller :: done) = [] :=
  rfl

theorem raised_raise (hraw : raw.toNat = floor.val) :
    raised floor (.raise caller raw value :: done) = value :: raised floor done :=
  List.filterMap_cons_some (if_pos hraw)

theorem raised_raise_of_ne (hraw : raw.toNat ≠ floor.val) :
    raised floor (.raise caller raw value :: done) = raised floor done :=
  List.filterMap_cons_none (if_neg hraw)

end Cons

theorem raised_append (floor : Fin floorCount) (newer done : List BootCommand) :
    raised floor (newer ++ done) = raised floor newer ++ raised floor done :=
  List.filterMap_append

end BootCommand

/-! ## What the state tells of it -/

namespace BootState

/-- The value of a register after measurements, oldest first: each is hashed behind the value so
far, and a register begins with zeros. -/
def chained (measurements : List Bytes) : Digest :=
  measurements.foldl (fun register measurement => Sha256.hash (register.bytes ++ measurement))
    (.zero 32)

theorem chained_concat (measurements : List Bytes) (measurement : Block 32) :
    chained (measurements ++ [measurement.bytes]) =
      extended (chained measurements) measurement := by
  rw [chained, List.foldl_append, extended, Sha256.hashConcat_eq]
  rfl

/-- The highest of some values, or zero. -/
def highest (values : List UInt64) : UInt64 :=
  values.foldr max 0

theorem highest_cons_of_le {value : UInt64} {values : List UInt64} (h : highest values ≤ value) :
    highest (value :: values) = value := by
  show (if value ≤ highest values then highest values else value) = value
  split
  · rename_i hle
    exact UInt64.le_antisymm h hle
  · rfl

theorem highest_le_append (newer values : List UInt64) :
    highest values ≤ highest (newer ++ values) := by
  induction newer with
  | nil => exact UInt64.le_refl _
  | cons value newer ih =>
    refine UInt64.le_trans ih ?_
    show _ ≤ if value ≤ highest (newer ++ values) then highest (newer ++ values) else value
    split
    · exact UInt64.le_refl _
    · rename_i hlt
      exact UInt64.le_of_lt (UInt64.not_le.mp hlt)

/-- Registers and floors tell what was done. -/
structure Told (done : List BootCommand) (state : BootState) : Prop where
  registers : ∀ register,
    state.registers.get register = chained (BootCommand.measured register done)
  floors : ∀ floor, state.floors.get floor = highest (BootCommand.raised floor done)

theorem told_initial : initial.Told [] where
  registers register := by
    show (Vector.replicate registerCount (Block.zero 32))[register.val] = _
    exact Vector.getElem_replicate _
  floors floor := by
    show (Vector.replicate floorCount (0 : UInt64))[floor.val] = _
    exact Vector.getElem_replicate _

variable {before : BootState} {command : BootCommand} {change : Option BootState}
  {reply : Option Digest} {done : List BootCommand}

/-- A register tells of a command that is carried out; a reset tells of itself whatever the register
held before. -/
theorem Transition.register_told (h : before.Transition command change reply)
    {register : Fin registerCount}
    (hbefore : command.isReset = false →
      before.registers.get register = chained (BootCommand.measured register done)) :
    (change.getD before).registers.get register =
      chained (BootCommand.measured register (command :: done)) := by
  cases h with
  | extend raw data named measurement hraw hdata value hvalue =>
    rw [Option.getD_some, register_setRegister]
    by_cases hnamed : named = register
    · rw [if_pos hnamed, BootCommand.measured_extend (hnamed ▸ hraw), hdata, chained_concat,
        ← hbefore rfl, hvalue, hnamed]
    · have hraw' : raw.toNat ≠ register.val := fun heq => hnamed (Fin.ext (hraw.symm.trans heq))
      rw [if_neg hnamed, BootCommand.measured_extend_of_ne hraw', hbefore rfl]
  | reset =>
    rw [BootCommand.measured_reset]
    exact register_resetRegisters before register
  | raise | stay => exact hbefore rfl

/-- A floor tells of a command that is carried out. -/
theorem Transition.floor_told (h : before.Transition command change reply)
    {floor : Fin floorCount}
    (hbefore : before.floors.get floor = highest (BootCommand.raised floor done)) :
    (change.getD before).floors.get floor =
      highest (BootCommand.raised floor (command :: done)) := by
  cases h with
  | extend | reset => exact hbefore
  | raise raw named value hraw hnewer =>
    rw [Option.getD_some, floor_setFloor]
    by_cases hnamed : named = floor
    · subst hnamed
      rw [hbefore] at hnewer
      rw [if_pos rfl, BootCommand.raised_raise hraw, highest_cons_of_le (UInt64.le_of_lt hnewer)]
    · have hraw' : raw.toNat ≠ floor.val := fun heq => hnamed (Fin.ext (hraw.symm.trans heq))
      rw [if_neg hnamed, BootCommand.raised_raise_of_ne hraw', hbefore]
  | stay raw named value hraw hsame =>
    rw [Option.getD_none, hbefore]
    by_cases hnamed : named = floor
    · -- the value was the highest one already
      subst hnamed
      rw [hbefore] at hsame
      rw [BootCommand.raised_raise hraw, highest_cons_of_le (hsame ▸ UInt64.le_refl _), hsame]
    · have hraw' : raw.toNat ≠ floor.val := fun heq => hnamed (Fin.ext (hraw.symm.trans heq))
      rw [BootCommand.raised_raise_of_ne hraw']

/-- A command that is carried out is told of from then on. -/
theorem Transition.told (h : before.Transition command change reply) (hbefore : before.Told done) :
    (change.getD before).Told (command :: done) where
  registers register := h.register_told fun _ => hbefore.registers register
  floors floor := h.floor_told (hbefore.floors floor)

/-- No command lowers a floor. -/
theorem Transition.floor_le (h : before.Transition command change reply)
    (floor : Fin floorCount) : before.floors.get floor ≤ (change.getD before).floors.get floor := by
  cases h with
  | extend | reset | stay => exact UInt64.le_refl _
  | raise raw named value hraw hnewer =>
    rw [Option.getD_some, floor_setFloor]
    by_cases hnamed : named = floor
    · rw [if_pos hnamed, ← hnamed]
      exact UInt64.le_of_lt hnewer
    · rw [if_neg hnamed]
      exact UInt64.le_refl _

end BootState

/-! ## What a command may do -/

namespace MeasuredBoot

variable {μ : Type} [Medium μ]

/-- Registers and floors are protected from their callers. -/
structure Guarded (boot : MeasuredBoot μ) : Prop where
  /-- A command is carried out if and only if it has a transition that can be committed. -/
  isOk_iff : ∀ command, (∃ reply, (boot.execute command).1 = .ok reply) ↔
    ∃ change reply cell, boot.state.Transition command change reply ∧
      boot.cell.Committed change cell
  /-- No command lowers a floor. -/
  floor_le : ∀ command floor,
    boot.state.floors.get floor ≤ (boot.execute command).2.state.floors.get floor
  /-- The bootloader raises a floor to every value that is not below the one it has, unless this
  takes a commit and the commit fails. -/
  raise_isOk : ∀ raw (floor : Fin floorCount) value, raw.toNat = floor.val →
    ((boot.raise .bootloader raw value).1 = .ok () ↔
      boot.state.floors.get floor ≤ value ∧
        (value = boot.state.floors.get floor ∨ ∃ after, Persistent.save boot.cell.medium
          boot.cell.id (boot.state.setFloor floor value) = .ok after))
  /-- Raising a floor to the value that it has commits nothing. -/
  raise_same : ∀ raw (floor : Fin floorCount), raw.toNat = floor.val →
    (boot.raise .bootloader raw (boot.state.floors.get floor)).2.cell = boot.cell
  /-- The system neither raises a floor nor resets the registers. -/
  os_refused : ∀ command, BootCommand.caller? command = some .os →
    (boot.execute command).1 = .error .notAuthorised ∧ (boot.execute command).2.cell = boot.cell
  /-- Extending a register leaves the floors as they are. -/
  extend_floors : ∀ raw data, (boot.extend raw data).2.state.floors = boot.state.floors

theorem raise_isOk_iff (boot : MeasuredBoot μ) {raw : UInt8} {floor : Fin floorCount}
    (hraw : raw.toNat = floor.val) (value : UInt64) :
    (boot.raise .bootloader raw value).1 = .ok () ↔
      boot.state.floors.get floor ≤ value ∧
        (value = boot.state.floors.get floor ∨ ∃ after, Persistent.save boot.cell.medium
          boot.cell.id (boot.state.setFloor floor value) = .ok after) := by
  have houtcome := boot.outcome_raise .bootloader raw value
  generalize (boot.raise .bootloader raw value).1 = result at houtcome ⊢
  generalize (boot.raise .bootloader raw value).2.cell = cell at houtcome
  cases result with
  | ok reply =>
    refine iff_of_true rfl ?_
    cases houtcome with
    | carriedOut change _ _ htransition hcommitted =>
      refine ⟨htransition.le_of_raise hraw, ?_⟩
      cases htransition with
      | raise _ named _ hnamed =>
        have hfloor : named = floor := Fin.ext (hnamed.symm.trans hraw)
        subst hfloor
        cases hcommitted with
        | saved _ medium hsave => exact Or.inr ⟨medium, hsave⟩
      | stay _ named _ hnamed hsame =>
        have hfloor : named = floor := Fin.ext (hnamed.symm.trans hraw)
        exact Or.inl (hfloor ▸ hsame)
  | error refusal =>
    refine iff_of_false nofun fun ⟨hle, hcommit⟩ => ?_
    -- there would have been a transition that can be committed
    cases houtcome with
    | refused _ hnone =>
      by_cases hsame : value = boot.state.floors.get floor
      · exact hnone none none boot.cell (.stay raw floor value hraw hsame) .unchanged
      · obtain ⟨after, hsave⟩ := hcommit.resolve_left hsame
        have hnewer := UInt64.lt_of_le_of_ne hle (Ne.symm hsame)
        exact hnone _ _ _ (.raise raw floor value hraw hnewer) (.saved _ after hsave)

theorem raise_same (boot : MeasuredBoot μ) {raw : UInt8} {floor : Fin floorCount}
    (hraw : raw.toNat = floor.val) :
    (boot.raise .bootloader raw (boot.state.floors.get floor)).2.cell = boot.cell := by
  have hstay := BootState.Transition.stay raw floor (boot.state.floors.get floor) hraw rfl
  rcases boot.execute_cases (.raise .bootloader raw (boot.state.floors.get floor)) with
    ⟨change, reply, htransition, -, hcommitted⟩ | ⟨refusal, -, hcell⟩
  · obtain ⟨rfl, -⟩ := hstay.unique htransition
    exact hcommitted.unique .unchanged
  · exact hcell

/-- What an extension gives back, and what it changes. -/
theorem of_extend (boot : MeasuredBoot μ) {raw : UInt8} {data : Bytes} {digest : Digest}
    (h : (boot.extend raw data).1 = .ok digest) :
    ∃ (register : Fin registerCount) (measurement : Block 32), raw.toNat = register.val ∧
      data = measurement.bytes ∧
      digest = BootState.extended (boot.state.registers.get register) measurement ∧
      (boot.extend raw data).2.state = boot.state.setRegister register digest := by
  have hreply : (boot.execute (.extend raw data)).1 = .ok (some digest) := by
    show (boot.extend raw data).1.map some = _
    rw [h]
    rfl
  rcases boot.state_cases (.extend raw data) with
    ⟨change, reply, htransition, hok, hafter⟩ | ⟨refusal, herror, -⟩
  · rw [hreply] at hok
    cases hok
    cases htransition with
    | extend _ _ register measurement hraw hdata _ hvalue =>
      exact ⟨register, measurement, hraw, hdata, hvalue, hafter⟩
  · rw [hreply] at herror
    cases herror

theorem guarded (boot : MeasuredBoot μ) : boot.Guarded where
  isOk_iff := boot.execute_isOk_iff
  floor_le command floor := by
    rcases boot.state_cases command with
      ⟨change, reply, htransition, -, hafter⟩ | ⟨refusal, -, hafter⟩
    · rw [hafter]
      exact htransition.floor_le floor
    · rw [hafter]
      exact UInt64.le_refl _
  raise_isOk _ _ value hraw := boot.raise_isOk_iff hraw value
  raise_same _ _ hraw := boot.raise_same hraw
  os_refused command hcaller := by
    cases command with
    | extend => cases hcaller
    | reset caller =>
      cases hcaller
      exact ⟨rfl, rfl⟩
    | raise caller raw value =>
      cases hcaller
      exact ⟨rfl, rfl⟩
  extend_floors raw data := by
    rcases boot.state_cases (.extend raw data) with
      ⟨change, reply, htransition, -, hafter⟩ | ⟨refusal, -, hafter⟩
    · -- the transition sets a register
      cases htransition
      have hfloors := congrArg BootState.floors hafter
      exact hfloors
    · exact congrArg BootState.floors hafter

end MeasuredBoot

/-! ## Sessions -/

namespace BootSession

open BootCommand BootState
open RecordKeeper (done done_append)

variable {μ : Type} [Medium μ] [LawfulMedium μ]

/-- What holds of the state that a medium has for a record, and is carried on by every transition,
holds of the state in memory and of the commands that were carried out. -/
theorem tells_done (tells : List BootCommand → BootState → Prop)
    (hcarries : ∀ {before : BootState} {command : BootCommand} {change : Option BootState}
      {reply : Option Digest} {done : List BootCommand}, before.Transition command change reply →
        tells done before → tells (command :: done) (change.getD before))
    {medium : μ} {clock : SteppedClock} {steps : List (BootStep μ)} {boot : MeasuredBoot μ}
    (hboot : (Session.after medium clock steps : BootSession μ).component? = some boot)
    (hstart : ∀ state, Persistent.recovered BootState.initial medium boot.cell.id = .ok state →
      tells [] state) :
    tells (done boot.cell.id (Session.after medium clock steps : BootSession μ).past)
      boot.state := by
  refine RecordKeeper.tells_done tells ?_ hboot hstart
  intro before now command reply done hreply h
  have hok : (before.execute command).1 = .ok reply := hreply
  rcases before.state_cases command with
    ⟨change, answer, htransition, -, hafter⟩ | ⟨refusal, herror, -⟩
  · have hstate : (before.execute command).2.cell.value = change.getD before.state := hafter
    exact hstate ▸ hcarries htransition h
  · rw [hok] at herror
    cases herror

/-- On a medium that began blank, the state in memory tells what was done. -/
theorem told {medium : μ}
    (hblank : ∀ id image, Medium.load medium id Persistent.maxImageSize ≠ .ok (some image))
    (clock : SteppedClock) (steps : List (BootStep μ)) {boot : MeasuredBoot μ}
    (hboot : (Session.after medium clock steps : BootSession μ).component? = some boot) :
    boot.state.Told
      (done boot.cell.id (Session.after medium clock steps : BootSession μ).past) := by
  refine tells_done (fun done state => state.Told done) Transition.told hboot ?_
  intro state hstate
  rw [Persistent.eq_of_recovered_blank (hblank boot.cell.id) hstate]
  exact told_initial

/-- Registers and floors over whole runs.  In every session with a measured boot that began on a
blank medium: a register is the chain of digests, from 32 zero bytes, over the measurements of the
extensions that were carried out since the last reset that was, and an extension that is carried out
gives back the chain that ends with its own measurement; a floor is the highest of zero and the
values of the commands that raised it and were carried out, and it is never lowered, neither by a
command nor in whatever follows.  A command is carried out exactly if it is one of the transitions
and its commit succeeds; so the bootloader raises a floor to any value that is not below the one it
has, and commits nothing if it has the value already, while the system can neither raise a floor nor
reset the registers. -/
theorem registers_and_floors {medium : μ}
    (hblank : ∀ id image, Medium.load medium id Persistent.maxImageSize ≠ .ok (some image))
    (clock : SteppedClock) (steps : List (BootStep μ)) {boot : MeasuredBoot μ}
    (hboot : (Session.after medium clock steps : BootSession μ).component? = some boot) :
    let done := done boot.cell.id (Session.after medium clock steps : BootSession μ).past
    (∀ register, boot.state.registers.get register = chained (measured register done)) ∧
    (∀ raw data digest, (boot.extend raw data).1 = .ok digest →
      ∃ register : Fin registerCount, raw.toNat = register.val ∧
        digest = chained (measured register done ++ [data]) ∧
        (boot.extend raw data).2.state.registers.get register = digest) ∧
    (∀ floor, boot.state.floors.get floor = highest (raised floor done)) ∧
    (∀ more again,
      (Session.after medium clock (steps ++ more) : BootSession μ).component? = some again →
        again.cell.id = boot.cell.id →
          ∀ floor, boot.state.floors.get floor ≤ again.state.floors.get floor) ∧
    boot.Guarded := by
  intro done
  have htold : boot.state.Told done := told hblank clock steps hboot
  refine ⟨htold.registers, ?_, htold.floors, ?_, boot.guarded⟩
  · intro raw data digest hdigest
    obtain ⟨register, measurement, hraw, rfl, hvalue, hafter⟩ := boot.of_extend hdigest
    refine ⟨register, hraw, ?_, ?_⟩
    · rw [chained_concat, ← htold.registers]
      exact hvalue
    · rw [hafter, register_setRegister, if_pos rfl]
  · intro more again hagain hid floor
    have hlater := told hblank clock (steps ++ more) hagain
    -- what was done before is still part of what was done
    obtain ⟨newer, hpast⟩ := Session.exists_past_eq_append
      (Session.after medium clock steps : BootSession μ) more
    have hafter : (Session.after medium clock (steps ++ more) : BootSession μ).past =
        newer ++ (Session.after medium clock steps : BootSession μ).past := by
      rw [← hpast]
      exact congrArg Session.past List.foldl_append
    rw [hid, hafter, done_append] at hlater
    rw [hlater.floors, raised_append, htold.floors]
    exact highest_le_append _ _

/-- A register is extended and a floor is raised; the registers are reset, and the device restarts.
Then the register is extended again, the commits run out, and the system tries its own. -/
def measuredBoots : List (BootStep (RamMedium 66 200)) :=
  [.reopen ⟨MeasuredBoot.defaultRecord, .standard⟩, .command (.extend 1 (List.replicate 32 7)),
    .command (.raise .bootloader 3 9), .command (.reset .bootloader),
    .reopen ⟨MeasuredBoot.defaultRecord, .standard⟩, .command (.extend 1 (List.replicate 32 8)),
    .befall (RamMedium.shortage 0), .command (.extend 1 (List.replicate 32 9)),
    .command (.raise .bootloader 3 20), .command (.raise .bootloader 3 9),
    .befall RamMedium.relief, .command (.raise .os 3 30), .command (.reset .os)]

/-- Only what was carried out since the reset is in the register, and the floor has not moved. -/
theorem registers_and_floors_of_measuredBoots :
    ∃ boot, (Session.after (.empty : RamMedium 66 200) {} measuredBoots :
        BootSession (RamMedium 66 200)).component? = some boot ∧
      boot.state.registers.get ⟨1, by decide⟩ = chained [List.replicate 32 8] ∧
      boot.state.registers.get ⟨0, by decide⟩ = .zero 32 ∧
      boot.state.floors.get ⟨3, by decide⟩ = 9 ∧
      (boot.raise .bootloader 3 8).1 ≠ .ok () ∧
      (boot.raise .bootloader 3 9).2.cell = boot.cell := by
  let session : BootSession (RamMedium 66 200) := .after .empty {} measuredBoots
  -- the commands that were refused are not among them
  have hrun : (session.component?.map fun boot => boot.cell.id,
      done MeasuredBoot.defaultRecord session.past) =
        (some MeasuredBoot.defaultRecord,
          [.raise .bootloader 3 9, .extend 1 (List.replicate 32 8), .reset .bootloader,
            .raise .bootloader 3 9, .extend 1 (List.replicate 32 7)]) := by
    decide +kernel
  obtain ⟨hopened, hdone⟩ := Prod.mk.inj hrun
  obtain ⟨boot, hboot, hid⟩ := Option.map_eq_some_iff.mp hopened
  obtain ⟨hregisters, -, hfloors, -, hguarded⟩ :=
    registers_and_floors (fun id => RamMedium.load_empty_ne id _) {} measuredBoots hboot
  have hfloor : boot.state.floors.get ⟨3, by decide⟩ = 9 := by
    rw [hfloors, hid, hdone]
    rfl
  refine ⟨boot, hboot, ?_, ?_, hfloor, ?_, ?_⟩
  · rw [hregisters, hid, hdone]
    rfl
  · rw [hregisters, hid, hdone]
    rfl
  · rw [Ne, hguarded.raise_isOk 3 ⟨3, by decide⟩ 8 rfl, hfloor]
    exact fun h => absurd h.1 (by decide)
  · rw [← hfloor]
    exact hguarded.raise_same 3 ⟨3, by decide⟩ rfl

end BootSession

end SecureElement
