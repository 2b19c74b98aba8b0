/-
  SecureElement.Proofs.Boot.Transition

  The transitions of the boot state.  `BootState.Transition` lists what a command may make of the
  registers and the floors and what it gives back.  The measured boot does exactly this: a command
  is carried out if and only if there is a transition and its state can be saved, and a command that
  is refused leaves the state and the medium as they are.
-/
import SecureElement.Boot.Command
import SecureElement.Proofs.Record.Recovery

namespace SecureElement

/-! ## Registers and floors after a change -/

namespace BootState

theorem register_setRegister (state : BootState) (register other : Fin registerCount)
    (value : Digest) :
    (state.setRegister register value).registers.get other =
      if register = other then value else state.registers.get other := by
  show (state.registers.set register.val value)[other.val] = _
  rw [Vector.getElem_set]
  simp only [Fin.ext_iff]
  rfl

theorem register_resetRegisters (state : BootState) (register : Fin registerCount) :
    state.resetRegisters.registers.get register = .zero 32 := by
  show (Vector.replicate registerCount (Block.zero 32))[register.val] = _
  exact Vector.getElem_replicate _

theorem floor_setFloor (state : BootState) (floor other : Fin floorCount) (value : UInt64) :
    (state.setFloor floor value).floors.get other =
      if floor = other then value else state.floors.get other := by
  show (state.floors.set floor.val value)[other.val] = _
  rw [Vector.getElem_set]
  simp only [Fin.ext_iff]
  rfl

end BootState

/-! ## Transitions -/

/-- What a command may make of the boot state, and what it gives back; `none` for the state stands
for no change at all. -/
inductive BootState.Transition (before : BootState) :
    BootCommand → Option BootState → Option Digest → Prop where
  /-- Anyone may extend a register with a measurement of 32 bytes. -/
  | extend (raw : UInt8) (data : Bytes) (register : Fin registerCount) (measurement : Block 32)
      (hraw : raw.toNat = register.val) (hdata : data = measurement.bytes) (value : Digest)
      (hvalue : value = extended (before.registers.get register) measurement) :
      Transition before (.extend raw data) (some (before.setRegister register value)) (some value)
  /-- The bootloader may reset the registers. -/
  | reset : Transition before (.reset .bootloader) (some before.resetRegisters) none
  /-- The bootloader may raise a floor. -/
  | raise (raw : UInt8) (floor : Fin floorCount) (value : UInt64) (hraw : raw.toNat = floor.val)
      (hnewer : before.floors.get floor < value) :
      Transition before (.raise .bootloader raw value) (some (before.setFloor floor value)) none
  /-- A floor that has the value already needs no change. -/
  | stay (raw : UInt8) (floor : Fin floorCount) (value : UInt64) (hraw : raw.toNat = floor.val)
      (hsame : value = before.floors.get floor) :
      Transition before (.raise .bootloader raw value) none none

/-- A command has one transition at most. -/
theorem BootState.Transition.unique {before : BootState} {command : BootCommand}
    {change other : Option BootState} {reply answer : Option Digest}
    (h : before.Transition command change reply) (hother : before.Transition command other answer) :
    other = change ∧ answer = reply := by
  cases h with
  | extend raw data register measurement hraw hdata value hvalue =>
    cases hother with
    | extend _ _ register' measurement' hraw' hdata' value' hvalue' =>
      have hregister : register' = register := Fin.ext (hraw'.symm.trans hraw)
      have hmeasurement : measurement' = measurement := Block.ext (hdata'.symm.trans hdata)
      subst hregister hmeasurement hvalue hvalue'
      exact ⟨rfl, rfl⟩
  | reset =>
    cases hother
    exact ⟨rfl, rfl⟩
  | raise raw floor value hraw hnewer =>
    cases hother with
    | raise _ floor' _ hraw' =>
      have hfloor : floor' = floor := Fin.ext (hraw'.symm.trans hraw)
      subst hfloor
      exact ⟨rfl, rfl⟩
    | stay _ floor' _ hraw' hsame =>
      have hfloor : floor' = floor := Fin.ext (hraw'.symm.trans hraw)
      subst hfloor
      exact absurd (hsame ▸ hnewer) (UInt64.lt_irrefl _)
  | stay raw floor value hraw hsame =>
    cases hother with
    | raise _ floor' _ hraw' hnewer =>
      have hfloor : floor' = floor := Fin.ext (hraw'.symm.trans hraw)
      subst hfloor
      exact absurd (hsame ▸ hnewer) (UInt64.lt_irrefl _)
    | stay => exact ⟨rfl, rfl⟩

/-- A command that raises a floor does not lower it. -/
theorem BootState.Transition.le_of_raise {before : BootState} {caller : Caller} {raw : UInt8}
    {value : UInt64} {change : Option BootState} {reply : Option Digest}
    (h : before.Transition (.raise caller raw value) change reply) {floor : Fin floorCount}
    (hraw : raw.toNat = floor.val) : before.floors.get floor ≤ value := by
  cases h with
  | raise _ named _ hnamed hnewer =>
    have hfloor : named = floor := Fin.ext (hnamed.symm.trans hraw)
    exact UInt64.le_of_lt (hfloor ▸ hnewer)
  | stay _ named _ hnamed hsame =>
    have hfloor : named = floor := Fin.ext (hnamed.symm.trans hraw)
    rw [hsame, hfloor]
    exact UInt64.le_refl _

namespace MeasuredBoot

/-! ## Arguments -/

/-- A number is checked against the number of registers, or of floors. -/
theorem checked_cases (count n : Nat) (refusal : Refusal) :
    let checked : Except Refusal (Fin count) := if h : n < count then .ok ⟨n, h⟩ else .error refusal
    (∃ index : Fin count, n = index.val ∧ checked = .ok index) ∨
      ((∀ index : Fin count, n ≠ index.val) ∧ checked = .error refusal) := by
  intro checked
  by_cases h : n < count
  · exact Or.inl ⟨⟨n, h⟩, rfl, dif_pos h⟩
  · refine Or.inr ⟨fun index heq => h ?_, dif_neg h⟩
    rw [heq]
    exact index.isLt

theorem registerOf_cases (raw : UInt8) :
    (∃ register : Fin registerCount, raw.toNat = register.val ∧ registerOf raw = .ok register) ∨
      ((∀ register : Fin registerCount, raw.toNat ≠ register.val) ∧
        registerOf raw = .error .unknownSelector) :=
  checked_cases registerCount raw.toNat .unknownSelector

theorem floorOf_cases (raw : UInt8) :
    (∃ floor : Fin floorCount, raw.toNat = floor.val ∧ floorOf raw = .ok floor) ∨
      ((∀ floor : Fin floorCount, raw.toNat ≠ floor.val) ∧
        floorOf raw = .error .unknownSelector) :=
  checked_cases floorCount raw.toNat .unknownSelector

/-- Only the bootloader may raise a floor, and only to a value that is not below the one it has. -/
theorem planRaise_bootloader (state : BootState) {raw : UInt8} {floor : Fin floorCount}
    (hfloor : floorOf raw = .ok floor) (value : UInt64) :
    planRaise state .bootloader raw value =
      if value < state.floors.get floor then .error .notAllowed
      else if value = state.floors.get floor then .ok none
      else .ok (some (state.setFloor floor value)) := by
  show (floorOf raw >>= fun _ => _) = _
  rw [hfloor]
  rfl

theorem planRaise_os (state : BootState) (raw : UInt8) (value : UInt64) :
    planRaise state .os raw value = .error .notAuthorised :=
  rfl

theorem planRaise_unknown (state : BootState) (caller : Caller) {raw : UInt8}
    (hfloor : floorOf raw = .error .unknownSelector) (value : UInt64) :
    ∃ refusal, planRaise state caller raw value = .error refusal := by
  cases caller with
  | bootloader =>
    refine ⟨.unknownSelector, ?_⟩
    show (floorOf raw >>= fun _ => _) = _
    rw [hfloor]
    rfl
  | os => exact ⟨.notAuthorised, rfl⟩

/-! ## Commands -/

variable {μ : Type} [Medium μ]

/-- How a command goes: its transition is committed, or there is none that could be. -/
inductive Outcome (boot : MeasuredBoot μ) (command : BootCommand) :
    Except Refusal (Option Digest) → RecordCell μ BootState → Prop where
  | carriedOut (change : Option BootState) (reply : Option Digest) (cell : RecordCell μ BootState)
      (htransition : boot.state.Transition command change reply)
      (hcommitted : boot.cell.Committed change cell) : Outcome boot command (.ok reply) cell
  | refused (refusal : Refusal)
      (hnone : ∀ change reply cell, boot.state.Transition command change reply →
        ¬ boot.cell.Committed change cell) : Outcome boot command (.error refusal) boot.cell

/-- A command whose transition needs a commit goes as that commit does. -/
theorem outcome_replace {boot : MeasuredBoot μ} {command : BootCommand} {next : BootState}
    {reply : Option Digest} (htransition : boot.state.Transition command (some next) reply) :
    (∃ cell, boot.cell.replace next = (.ok (), cell) ∧ boot.Outcome command (.ok reply) cell) ∨
    (∃ refusal, boot.cell.replace next = (.error refusal, boot.cell) ∧
      boot.Outcome command (.error refusal) boot.cell) := by
  rcases boot.cell.replace_cases next with ⟨medium, hsave, heq⟩ | ⟨error, hsave, heq⟩
  · exact Or.inl ⟨_, heq, .carriedOut _ _ _ htransition (.saved next medium hsave)⟩
  · refine Or.inr ⟨_, heq, .refused _ fun change answer cell hother hcommitted => ?_⟩
    -- there is no other transition, and this one cannot be saved
    obtain ⟨rfl, -⟩ := htransition.unique hother
    cases hcommitted with
    | saved _ medium hok =>
      rw [hok] at hsave
      cases hsave

theorem outcome_extend (boot : MeasuredBoot μ) (raw : UInt8) (data : Bytes) :
    boot.Outcome (.extend raw data) ((boot.extend raw data).1.map some)
      (boot.extend raw data).2.cell := by
  unfold MeasuredBoot.extend
  rcases registerOf_cases raw with ⟨register, hraw, hregister⟩ | ⟨hraw, hregister⟩
  · rw [hregister]
    cases hdata : Block.ofBytes? 32 data with
    | none =>
      refine .refused .wrongLength fun change reply cell htransition => ?_
      cases htransition with
      | extend _ _ _ measurement _ hbytes =>
        rw [Block.ofBytes?_eq_some_iff.mpr hbytes] at hdata
        cases hdata
    | some measurement =>
      have htransition := BootState.Transition.extend raw data register measurement hraw
        (Block.ofBytes?_eq_some_iff.mp hdata) _ (rfl : _ =
          BootState.extended (boot.state.registers.get register) measurement)
      rcases outcome_replace htransition with ⟨cell, heq, houtcome⟩ | ⟨refusal, heq, houtcome⟩
      · simp only [heq]
        exact houtcome
      · simp only [heq]
        exact houtcome
  · rw [hregister]
    refine .refused .unknownSelector fun change reply cell htransition => ?_
    cases htransition with
    | extend _ _ register _ hknown => exact absurd hknown (hraw register)

theorem outcome_reset (boot : MeasuredBoot μ) (caller : Caller) :
    boot.Outcome (.reset caller) ((boot.reset caller).1.map fun _ => none)
      (boot.reset caller).2.cell := by
  cases caller with
  | bootloader =>
    have htransition : boot.state.Transition (.reset .bootloader)
        (some boot.state.resetRegisters) none := .reset
    unfold MeasuredBoot.reset
    rcases outcome_replace htransition with ⟨cell, heq, houtcome⟩ | ⟨refusal, heq, houtcome⟩
    · simp only [heq]
      exact houtcome
    · simp only [heq]
      exact houtcome
  | os => exact .refused .notAuthorised fun change reply cell htransition => nomatch htransition

theorem outcome_change (boot : MeasuredBoot μ) (caller : Caller) (raw : UInt8) (value : UInt64) :
    boot.Outcome (.raise caller raw value) ((boot.change caller raw value).1.map fun _ => none)
      (boot.change caller raw value).2.cell := by
  unfold MeasuredBoot.change
  cases caller with
  | os =>
    rw [planRaise_os]
    exact .refused .notAuthorised fun change reply cell htransition => nomatch htransition
  | bootloader =>
    rcases floorOf_cases raw with ⟨floor, hraw, hfloor⟩ | ⟨hraw, hfloor⟩
    · rw [planRaise_bootloader _ hfloor]
      by_cases hlower : value < boot.state.floors.get floor
      · rw [if_pos hlower]
        refine .refused .notAllowed fun change reply cell htransition => ?_
        exact absurd (htransition.le_of_raise hraw) (UInt64.not_le.mpr hlower)
      · rw [if_neg hlower]
        by_cases hsame : value = boot.state.floors.get floor
        · rw [if_pos hsame]
          exact .carriedOut none none boot.cell (.stay raw floor value hraw hsame) .unchanged
        · rw [if_neg hsame]
          have hle : boot.state.floors.get floor ≤ value := UInt64.not_lt.mp hlower
          have hnewer : boot.state.floors.get floor < value :=
            UInt64.lt_of_le_of_ne hle (Ne.symm hsame)
          have htransition : boot.state.Transition (.raise .bootloader raw value)
              (some (boot.state.setFloor floor value)) none := .raise raw floor value hraw hnewer
          rcases outcome_replace htransition with ⟨cell, heq, houtcome⟩ | ⟨refusal, heq, houtcome⟩
          · simp only [heq]
            exact houtcome
          · simp only [heq]
            exact houtcome
    · obtain ⟨refusal, hplan⟩ := planRaise_unknown boot.state .bootloader hfloor value
      rw [hplan]
      refine .refused refusal fun change reply cell htransition => ?_
      cases htransition with
      | raise _ floor _ hknown => exact absurd hknown (hraw floor)
      | stay _ floor _ hknown => exact absurd hknown (hraw floor)

theorem outcome_raise (boot : MeasuredBoot μ) (caller : Caller) (raw : UInt8) (value : UInt64) :
    boot.Outcome (.raise caller raw value) ((boot.raise caller raw value).1.map fun _ => none)
      (boot.raise caller raw value).2.cell := by
  have hchange := boot.outcome_change caller raw value
  unfold MeasuredBoot.raise
  -- the journal plays no part in it
  rcases hresult : boot.change caller raw value with ⟨_ | _, after⟩ <;>
    · rw [hresult] at hchange
      exact hchange

/-- Every command is carried out along its transition, or there is none that could be committed. -/
theorem outcome_execute (boot : MeasuredBoot μ) (command : BootCommand) :
    boot.Outcome command (boot.execute command).1 (boot.execute command).2.cell := by
  cases command with
  | extend raw data => exact boot.outcome_extend raw data
  | reset caller => exact boot.outcome_reset caller
  | raise caller raw value => exact boot.outcome_raise caller raw value

/-- A command that is carried out makes one transition of the state; one that is refused leaves the
cell as it is. -/
theorem execute_cases (boot : MeasuredBoot μ) (command : BootCommand) :
    (∃ change reply, boot.state.Transition command change reply ∧
      (boot.execute command).1 = .ok reply ∧
      boot.cell.Committed change (boot.execute command).2.cell) ∨
    (∃ refusal, (boot.execute command).1 = .error refusal ∧
      (boot.execute command).2.cell = boot.cell) := by
  have houtcome := boot.outcome_execute command
  generalize (boot.execute command).1 = result at houtcome ⊢
  generalize (boot.execute command).2.cell = cell at houtcome ⊢
  cases houtcome with
  | carriedOut change reply cell htransition hcommitted =>
    exact Or.inl ⟨change, reply, htransition, rfl, hcommitted⟩
  | refused refusal => exact Or.inr ⟨refusal, rfl, rfl⟩

/-- The state that a command leaves. -/
theorem state_cases (boot : MeasuredBoot μ) (command : BootCommand) :
    (∃ change reply, boot.state.Transition command change reply ∧
      (boot.execute command).1 = .ok reply ∧
      (boot.execute command).2.state = change.getD boot.state) ∨
    (∃ refusal, (boot.execute command).1 = .error refusal ∧
      (boot.execute command).2.state = boot.state) := by
  rcases boot.execute_cases command with
    ⟨change, reply, htransition, hok, hcommitted⟩ | ⟨refusal, herror, hcell⟩
  · exact Or.inl ⟨change, reply, htransition, hok, hcommitted.value_eq⟩
  · exact Or.inr ⟨refusal, herror, congrArg RecordCell.value hcell⟩

/-- A command is carried out if and only if it has a transition that can be committed. -/
theorem execute_isOk_iff (boot : MeasuredBoot μ) (command : BootCommand) :
    (∃ reply, (boot.execute command).1 = .ok reply) ↔
      ∃ change reply cell, boot.state.Transition command change reply ∧
        boot.cell.Committed change cell := by
  have houtcome := boot.outcome_execute command
  generalize (boot.execute command).1 = result at houtcome ⊢
  generalize (boot.execute command).2.cell = cell at houtcome
  cases houtcome with
  | carriedOut change reply cell htransition hcommitted =>
    exact iff_of_true ⟨reply, rfl⟩ ⟨change, reply, cell, htransition, hcommitted⟩
  | refused refusal hnone =>
    refine iff_of_false (fun ⟨reply, hreply⟩ => nomatch hreply) ?_
    rintro ⟨change, reply, cell, htransition, hcommitted⟩
    exact hnone change reply cell htransition hcommitted

end MeasuredBoot

end SecureElement
