/-
  SecureElement.Proofs.Boot.Recovery

  What a restart brings back of the locks, the measured boot and the scratchpad.  Each of them keeps
  one record, checks a command before it commits, and has in memory what was committed; so each
  survives being dropped at any point, also after a command that failed.
-/
import SecureElement.Proofs.Boot.Session
import SecureElement.Proofs.Lock.Session

namespace SecureElement

/-- The lock controller, the measured boot and the scratchpad survive being dropped at any point.
In every session with one of them, on whatever medium it began: its value in memory is the one that
its record holds, or the initial one if the record was never committed; a command that is refused
leaves both as they are; and if the component is dropped and opened on its record again, whatever
happened to the medium meanwhile, it has the same value. -/
theorem boot_components_durable {μ : Type} [Medium μ] [LawfulMedium μ] :
    RecordKeeper.Durable LockController μ ∧ RecordKeeper.Durable MeasuredBoot μ ∧
      RecordKeeper.Durable Scratchpad μ :=
  ⟨RecordKeeper.durable, RecordKeeper.durable, RecordKeeper.durable⟩

/-! ### Interrupted sessions -/

/-- How the locks of the interrupted session are opened. -/
def interruptedOpening : LockOpening :=
  ⟨⟨⟨8, fun _ _ => .ok ()⟩, .strict⟩, LockController.defaultRecord, .standard⟩

/-- The device is bound, and the commits run out before it is provisioned. -/
def interruptedLocks : List (LockStep (RamMedium 67 200)) :=
  [.reopen interruptedOpening, .command ⟨.factory, .set 0x02 true [0x2A] .os⟩,
    .befall (RamMedium.shortage 0), .command ⟨.factory, .set 0x01 true [] .os⟩]

/-- A register is extended and a floor is raised, and the commits run out before the reset. -/
def interruptedBoot : List (BootStep (RamMedium 67 200)) :=
  [.reopen ⟨MeasuredBoot.defaultRecord, .standard⟩, .befall (RamMedium.shortage 2),
    .command (.extend 1 (List.replicate 32 7)), .command (.raise .bootloader 3 9),
    .command (.reset .bootloader)]

/-- Bytes are written into a scratchpad whose medium is too small for it. -/
def interruptedPad : List (ScratchStep (RamMedium 67 200)) :=
  [.reopen ⟨Scratchpad.defaultRecord, .standard⟩, .command ⟨.bootloader, 4094, [1, 2]⟩]

/-- What was committed in the interrupted sessions is brought back, and nothing else. -/
theorem boot_components_durable_interrupted :
    (∃ controller again : LockController (RamMedium 67 200),
      (Session.after .empty {} interruptedLocks : LockSession _).component? = some controller ∧
      (Session.after .empty {} (interruptedLocks ++ [.wait ⟨5⟩] ++ [.reopen interruptedOpening]) :
        LockSession _).component? = some again ∧
      controller.locks = ⟨0x02, .zero, Sha256.hash [0x2A]⟩ ∧ again.locks = controller.locks) ∧
    (∃ boot again : MeasuredBoot (RamMedium 67 200),
      (Session.after .empty {} interruptedBoot : BootSession _).component? = some boot ∧
      (Session.after .empty {} (interruptedBoot ++ [.befall RamMedium.relief] ++
        [.reopen ⟨MeasuredBoot.defaultRecord, .standard⟩]) : BootSession _).component? =
          some again ∧
      boot.state.registers.get ⟨1, by decide⟩ =
        BootState.extended (.zero 32) (.fill 32 7) ∧
      boot.state.floors.get ⟨3, by decide⟩ = 9 ∧ again.state = boot.state) ∧
    ∃ pad again : Scratchpad (RamMedium 67 200),
      (Session.after .empty {} interruptedPad : ScratchSession _).component? = some pad ∧
      (Session.after .empty {} (interruptedPad ++ [] ++
        [.reopen ⟨Scratchpad.defaultRecord, .standard⟩]) : ScratchSession _).component? =
          some again ∧
      pad.image = .initial ∧ again.image = pad.image := by
  obtain ⟨hlocks, hboot, hpad⟩ := boot_components_durable (μ := RamMedium 67 200)
  refine ⟨?_, ?_, ?_⟩
  · have hrun : ((Session.after .empty {} interruptedLocks :
        LockSession (RamMedium 67 200)).component?.map fun controller =>
          (controller.locks, controller.cell.id)) =
          some (⟨0x02, .zero, Sha256.hash [0x2A]⟩, LockController.defaultRecord) := by
      decide +kernel
    obtain ⟨controller, hcontroller, hpair⟩ := Option.map_eq_some_iff.mp hrun
    obtain ⟨hvalue, hid⟩ := Prod.mk.inj hpair
    obtain ⟨again, hagain, hsame⟩ := hlocks.reopened _ _ _ controller hcontroller [.wait ⟨5⟩]
      (by simp [Session.IsIdle]) interruptedOpening hid.symm
    exact ⟨controller, again, hcontroller, hagain, hvalue, hsame⟩
  · have hrun : ((Session.after .empty {} interruptedBoot :
        BootSession (RamMedium 67 200)).component?.map fun boot =>
          (boot.state.registers.get ⟨1, by decide⟩, boot.state.floors.get ⟨3, by decide⟩,
            boot.cell.id)) =
          some (BootState.extended (.zero 32) (.fill 32 7), 9, MeasuredBoot.defaultRecord) := by
      decide +kernel
    obtain ⟨boot, hopened, hpair⟩ := Option.map_eq_some_iff.mp hrun
    simp only [Prod.mk.injEq] at hpair
    obtain ⟨hregister, hfloor, hid⟩ := hpair
    obtain ⟨again, hagain, hsame⟩ := hboot.reopened _ _ _ boot hopened [.befall RamMedium.relief]
      (by simp [Session.IsIdle]) ⟨MeasuredBoot.defaultRecord, .standard⟩ hid.symm
    exact ⟨boot, again, hopened, hagain, hregister, hfloor, hsame⟩
  · -- the image is too long to be computed, but not too long to be refused
    let opened : Scratchpad (RamMedium 67 200) :=
      ⟨⟨.empty, Scratchpad.defaultRecord, .initial⟩, .create "bootstore" .standard⟩
    let pad := (opened.store .bootloader 4094 [1, 2]).2
    have hopened : (Session.after .empty {} interruptedPad :
        ScratchSession (RamMedium 67 200)).component? = some pad := rfl
    have hcell : pad.cell = opened.cell := by
      rcases opened.change_cases .bootloader 4094 [1, 2] with
        ⟨next, medium, -, hsave, -⟩ | ⟨refusal, heq⟩
      · exact absurd hsave (Persistent.save_of_small (by decide) _ _ _ _)
      · show (opened.store .bootloader 4094 [1, 2]).2.cell = _
        rw [Scratchpad.store, heq]
        rfl
    have himage : pad.image = .initial := congrArg RecordCell.value hcell
    have hid : Scratchpad.defaultRecord = pad.cell.id := congrArg RecordCell.id hcell.symm
    obtain ⟨again, hagain, hsame⟩ := hpad.reopened _ _ _ pad hopened []
      (by simp) ⟨Scratchpad.defaultRecord, .standard⟩ hid
    exact ⟨pad, again, hopened, hagain, himage, hsame⟩

end SecureElement
