/-
  SecureElement.Proofs.Boot.Commitment

  What a register commits to.  A register that was extended from zeros stands for the whole list of
  its measurements: whoever has another list with the same value has two inputs of SHA-256 with one
  digest, or an input whose digest is all zeros.  Nothing is assumed of SHA-256.  The inputs in
  question are those that the two chains hash, and the proof goes back along both chains until they
  part.
-/
import Mathlib.Data.List.Induction
import SecureElement.Proofs.Boot.Measurements

namespace SecureElement

/-! ## Chains -/

/-- Two different inputs with one digest. -/
structure Sha256.Collide (input other : Bytes) : Prop where
  ne : input ≠ other
  hash_eq : Sha256.hash input = Sha256.hash other

namespace BootState

/-- The inputs that are hashed while a register is extended with measurements: its value so far,
followed by the next measurement. -/
def hashedFrom : Digest → List Bytes → List Bytes
  | _, [] => []
  | register, measurement :: rest =>
    (register.bytes ++ measurement) ::
      hashedFrom (Sha256.hash (register.bytes ++ measurement)) rest

/-- The inputs of the chain that begins with zeros. -/
def hashed (measurements : List Bytes) : List Bytes :=
  hashedFrom (.zero 32) measurements

theorem hashedFrom_concat (register : Digest) (measurements : List Bytes) (last : Bytes) :
    hashedFrom register (measurements ++ [last]) =
      hashedFrom register measurements ++
        [(measurements.foldl (fun register measurement =>
          Sha256.hash (register.bytes ++ measurement)) register).bytes ++ last] := by
  induction measurements generalizing register with
  | nil => rfl
  | cons measurement rest ih =>
    simp only [List.cons_append, hashedFrom, List.foldl_cons]
    rw [ih]

/-- The last input is the value of the chain before it, followed by the last measurement. -/
theorem hashed_concat (measurements : List Bytes) (last : Bytes) :
    hashed (measurements ++ [last]) =
      hashed measurements ++ [(chained measurements).bytes ++ last] :=
  hashedFrom_concat _ _ _

/-- The value of a chain is the digest of its last input. -/
theorem chained_eq_hash (measurements : List Bytes) (last : Bytes) :
    chained (measurements ++ [last]) = Sha256.hash ((chained measurements).bytes ++ last) := by
  rw [chained, List.foldl_append]
  rfl

theorem length_of_mem_hashedFrom {register : Digest} {measurements : List Bytes}
    (h : ∀ measurement ∈ measurements, measurement.length = 32) :
    ∀ input ∈ hashedFrom register measurements, input.length = 64 := by
  induction measurements generalizing register with
  | nil => exact nofun
  | cons measurement rest ih =>
    intro input hinput
    rcases List.mem_cons.mp hinput with rfl | hrest
    · have hlength := h measurement List.mem_cons_self
      rw [List.length_append, register.length_bytes, hlength]
    · exact ih (fun other hother => h other (List.mem_cons_of_mem _ hother)) input hrest

/-- Two chains with one value have the same measurements, or they hash two inputs that collide, or
one of them hashes an input whose digest is zero. -/
theorem eq_or_collide_of_chained_eq {first second : List Bytes}
    (h : chained first = chained second) :
    first = second ∨
    (∃ input ∈ hashed first, ∃ other ∈ hashed second, Sha256.Collide input other) ∨
    ∃ input ∈ hashed first ++ hashed second, Sha256.hash input = .zero 32 := by
  -- by induction from the ends of both lists, where the chains have the same value
  induction first using List.reverseRecOn generalizing second with
  | nil =>
    cases second using List.reverseRecOn with
    | nil => exact Or.inl rfl
    | append_singleton rest last =>
      -- the longer chain has come back to zeros
      rw [chained_eq_hash] at h
      refine Or.inr (Or.inr ⟨(chained rest).bytes ++ last, ?_, h.symm⟩)
      rw [hashed_concat rest]
      simp
  | append_singleton front tip ih =>
    cases second using List.reverseRecOn with
    | nil =>
      rw [chained_eq_hash] at h
      refine Or.inr (Or.inr ⟨(chained front).bytes ++ tip, ?_, h⟩)
      rw [hashed_concat front]
      simp
    | append_singleton rest last =>
      rw [chained_eq_hash, chained_eq_hash] at h
      rw [hashed_concat, hashed_concat]
      by_cases hinput : (chained front).bytes ++ tip = (chained rest).bytes ++ last
      · -- the last inputs are the same, so the chains before them have the same value too
        have hlength : (chained front).bytes.length = (chained rest).bytes.length := by
          rw [Block.length_bytes, Block.length_bytes]
        obtain ⟨hbytes, rfl⟩ := List.append_inj hinput hlength
        rcases ih (Block.ext hbytes) with rfl | ⟨input, hfirst, other, hsecond, hcollide⟩ |
          ⟨input, hmem, hzero⟩
        · exact Or.inl rfl
        · exact Or.inr (Or.inl ⟨input, List.mem_append_left _ hfirst, other,
            List.mem_append_left _ hsecond, hcollide⟩)
        · refine Or.inr (Or.inr ⟨input, ?_, hzero⟩)
          rcases List.mem_append.mp hmem with hfirst | hsecond
          · exact List.mem_append_left _ (List.mem_append_left _ hfirst)
          · exact List.mem_append_right _ (List.mem_append_left _ hsecond)
      · refine Or.inr (Or.inl ⟨_, ?_, _, ?_, hinput, h⟩) <;> simp

end BootState

/-! ## Runs of a register -/

open BootCommand
open RecordKeeper (done of_mem_done)

theorem BootCommand.of_measurement? {register : Fin registerCount} {command : BootCommand}
    {measurement : Bytes} (h : measurement? register command = some measurement) :
    ∃ raw, command = .extend raw measurement := by
  cases command with
  | extend raw data =>
    simp only [measurement?] at h
    split at h
    · exact ⟨raw, by rw [Option.some.inj h]⟩
    · cases h
  | reset | raise => cases h

/-- A measurement that a register was extended with has 32 bytes. -/
theorem BootCommand.length_of_mem_measured {μ : Type} [Medium μ] {id : RecordId}
    {past : List (BootDeed μ)} {register : Fin registerCount} :
    ∀ measurement ∈ measured register (done id past), measurement.length = 32 := by
  intro measurement hmeasured
  obtain ⟨command, hcommand, hmeasurement⟩ :=
    List.mem_filterMap.mp (List.mem_reverse.mp hmeasured)
  obtain ⟨raw, rfl⟩ := of_measurement? hmeasurement
  obtain ⟨⟨now, command, boot⟩, -, rfl, reply, hreply⟩ :=
    of_mem_done ((List.takeWhile_sublist _).subset hcommand)
  -- the command was carried out, so it passed the check of its argument
  rcases boot.execute_cases (.extend raw measurement) with
    ⟨change, reply, htransition, -⟩ | ⟨refusal, herror, -⟩
  · cases htransition with
    | extend _ _ _ block _ hdata => rw [hdata, block.length_bytes]
  · cases hreply.symm.trans herror

/-- A session with a measured boot in which a register began with zeros: on the medium, or because
the registers were reset. -/
structure MeasuredRun (μ : Type) [Medium μ] where
  medium : μ
  clock : SteppedClock
  steps : List (BootStep μ)
  boot : MeasuredBoot μ
  register : Fin registerCount
  opened : (Session.after medium clock steps : BootSession μ).component? = some boot
  zeroed :
    (∀ state, Persistent.recovered BootState.initial medium boot.cell.id = .ok state →
      state.registers.get register = .zero 32) ∨
    ∃ command ∈ done boot.cell.id (Session.after medium clock steps : BootSession μ).past,
      command.isReset = true

namespace MeasuredRun

variable {μ : Type} [Medium μ]

/-- The measurements that the register was extended with since it was zero, oldest first. -/
def measurements (run : MeasuredRun μ) : List Bytes :=
  measured run.register
    (done run.boot.cell.id (Session.after run.medium run.clock run.steps : BootSession μ).past)

/-- The inputs that were hashed for them. -/
def inputs (run : MeasuredRun μ) : List Bytes :=
  BootState.hashed run.measurements

def value (run : MeasuredRun μ) : Digest :=
  run.boot.state.registers.get run.register

theorem length_of_mem_inputs (run : MeasuredRun μ) :
    ∀ input ∈ run.inputs, input.length = 64 :=
  BootState.length_of_mem_hashedFrom length_of_mem_measured

/-- The register has the value of the chain over its measurements. -/
theorem value_eq [LawfulMedium μ] (run : MeasuredRun μ) :
    run.value = BootState.chained run.measurements := by
  obtain ⟨medium, clock, steps, boot, register, hopened, hzeroed⟩ := run
  -- what is carried on: the register is the chain once it has been zero
  refine BootSession.tells_done (fun done state =>
    (∀ state, Persistent.recovered BootState.initial medium boot.cell.id = .ok state →
        state.registers.get register = .zero 32) ∨ (∃ command ∈ done, command.isReset = true) →
      state.registers.get register = BootState.chained (measured register done))
    ?_ hopened ?_ hzeroed
  · intro before command change reply done htransition h hbegun
    refine htransition.register_told fun hcommand => h ?_
    rcases hbegun with hstart | ⟨reset, hmem, hreset⟩
    · exact Or.inl hstart
    · rcases List.mem_cons.mp hmem with rfl | hearlier
      · rw [hcommand] at hreset
        cases hreset
      · exact Or.inr ⟨reset, hearlier, hreset⟩
  · intro state hstate hbegun
    rcases hbegun with hstart | ⟨reset, hmem, -⟩
    · exact hstart state hstate
    · cases hmem

/-- A register commits to the ordered list of its measurements.  Take any two sessions with a measured
boot, whatever else was done in them, and a register of each that began with zeros.  If the two
registers have the same value, then they were extended with the same measurements in the same order;
or else one can name two inputs of 64 bytes, one hashed in each session, that collide, or one that was
hashed in either and has the digest of 32 zero bytes. -/
theorem measurements_eq_or_collide [LawfulMedium μ] {ν : Type} [Medium ν] [LawfulMedium ν]
    (first : MeasuredRun μ) (second : MeasuredRun ν) (h : first.value = second.value) :
    first.measurements = second.measurements ∨
    (∃ input ∈ first.inputs, ∃ other ∈ second.inputs,
      input.length = 64 ∧ other.length = 64 ∧ Sha256.Collide input other) ∨
    ∃ input ∈ first.inputs ++ second.inputs, input.length = 64 ∧ Sha256.hash input = .zero 32 := by
  rw [first.value_eq, second.value_eq] at h
  rcases BootState.eq_or_collide_of_chained_eq h with
    hsame | ⟨input, hfirst, other, hsecond, hcollide⟩ | ⟨input, hmem, hzero⟩
  · exact Or.inl hsame
  · exact Or.inr (Or.inl ⟨input, hfirst, other, hsecond, first.length_of_mem_inputs input hfirst,
      second.length_of_mem_inputs other hsecond, hcollide⟩)
  · refine Or.inr (Or.inr ⟨input, hmem, ?_, hzero⟩)
    rcases List.mem_append.mp hmem with hfirst | hsecond
    · exact first.length_of_mem_inputs input hfirst
    · exact second.length_of_mem_inputs input hsecond

/-! ### Two devices with one record of what booted -/

/-- Register 1 is extended twice; an extension between fails for want of a commit, and the device
restarts. -/
def interruptedMeasuring : List (BootStep (RamMedium 66 200)) :=
  [.reopen ⟨MeasuredBoot.defaultRecord, .standard⟩, .command (.extend 1 (List.replicate 32 7)),
    .befall (RamMedium.shortage 0), .command (.extend 1 (List.replicate 32 9)),
    .befall RamMedium.relief, .reopen ⟨MeasuredBoot.defaultRecord, .standard⟩,
    .command (.extend 1 (List.replicate 32 8))]

/-- On another medium, register 0 holds something else until the registers are reset. -/
def measuringAfterReset : List (BootStep (RamMedium 68 132)) :=
  [.reopen ⟨MeasuredBoot.defaultRecord, .standard⟩, .command (.extend 0 (List.replicate 32 1)),
    .command (.reset .bootloader), .command (.extend 0 (List.replicate 32 7)),
    .command (.extend 1 (List.replicate 32 5)), .command (.extend 0 (List.replicate 32 8))]

/-- The two registers have the same value, and they were extended alike. -/
theorem measurements_eq_or_collide_after_reset :
    ∃ (first : MeasuredRun (RamMedium 66 200)) (second : MeasuredRun (RamMedium 68 132)),
      first.steps = interruptedMeasuring ∧ second.steps = measuringAfterReset ∧
      first.register ≠ second.register ∧ first.value = second.value ∧
      first.measurements = [List.replicate 32 7, List.replicate 32 8] ∧
      (first.measurements = second.measurements ∨
        (∃ input ∈ first.inputs, ∃ other ∈ second.inputs,
          input.length = 64 ∧ other.length = 64 ∧ Sha256.Collide input other) ∨
        ∃ input ∈ first.inputs ++ second.inputs,
          input.length = 64 ∧ Sha256.hash input = .zero 32) := by
  have hfirst : ((Session.after .empty {} interruptedMeasuring :
        BootSession (RamMedium 66 200)).component?.map fun boot => boot.cell.id,
      done MeasuredBoot.defaultRecord (Session.after .empty {} interruptedMeasuring :
        BootSession (RamMedium 66 200)).past) =
        (some MeasuredBoot.defaultRecord,
          [.extend 1 (List.replicate 32 8), .extend 1 (List.replicate 32 7)]) := by
    decide +kernel
  have hsecond : ((Session.after .empty {} measuringAfterReset :
        BootSession (RamMedium 68 132)).component?.map fun boot => boot.cell.id,
      done MeasuredBoot.defaultRecord (Session.after .empty {} measuringAfterReset :
        BootSession (RamMedium 68 132)).past) =
        (some MeasuredBoot.defaultRecord,
          [.extend 0 (List.replicate 32 8), .extend 1 (List.replicate 32 5),
            .extend 0 (List.replicate 32 7), .reset .bootloader,
            .extend 0 (List.replicate 32 1)]) := by
    decide +kernel
  obtain ⟨hopened, hdone⟩ := Prod.mk.inj hfirst
  obtain ⟨boot, hboot, hid⟩ := Option.map_eq_some_iff.mp hopened
  obtain ⟨hopened', hdone'⟩ := Prod.mk.inj hsecond
  obtain ⟨boot', hboot', hid'⟩ := Option.map_eq_some_iff.mp hopened'
  rw [← hid] at hdone
  rw [← hid'] at hdone'
  -- one register was zero because nothing was ever committed, the other because of the reset
  let first : MeasuredRun (RamMedium 66 200) :=
    ⟨.empty, {}, interruptedMeasuring, boot, ⟨1, by decide⟩, hboot,
      Or.inl fun state hstate => by
        rw [Persistent.eq_of_recovered_empty hstate]
        rfl⟩
  let second : MeasuredRun (RamMedium 68 132) :=
    ⟨.empty, {}, measuringAfterReset, boot', ⟨0, by decide⟩, hboot',
      Or.inr ⟨.reset .bootloader, by rw [hdone']; decide, rfl⟩⟩
  have hmeasured : first.measurements = [List.replicate 32 7, List.replicate 32 8] := by
    show measured _ (done boot.cell.id _) = _
    rw [hdone]
    rfl
  have hmeasured' : second.measurements = [List.replicate 32 7, List.replicate 32 8] := by
    show measured _ (done boot'.cell.id _) = _
    rw [hdone']
    rfl
  have hvalue : first.value = second.value := by
    rw [first.value_eq, second.value_eq, hmeasured, hmeasured']
  refine ⟨first, second, rfl, rfl, ?_, hvalue, hmeasured, ?_⟩
  · show (⟨1, by decide⟩ : Fin registerCount) ≠ ⟨0, by decide⟩
    decide
  · exact measurements_eq_or_collide first second hvalue

end MeasuredRun

end SecureElement
