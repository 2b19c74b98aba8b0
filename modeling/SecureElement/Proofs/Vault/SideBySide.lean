/-
  SecureElement.Proofs.Vault.SideBySide

  What a vault gives away over time.  Two sessions go on side by side if their steps differ in keys
  and values only, and if what both find out about a key that they present is the same.  One step
  leaves alike sessions alike, so by induction they are alike after any number of steps: results,
  responses, logs and throttling tell nothing of keys and values but whether a key was right.
-/
import Mathlib.Data.List.Forall2
import SecureElement.Proofs.Vault.Secrecy

namespace SecureElement

namespace VaultSession

variable {records capacity : Nat}

/-! ## Steps that differ in keys and values -/

/-- Two steps that differ in keys and values only. -/
inductive StepAlike : VaultStep (RamMedium records capacity) →
    VaultStep (RamMedium records capacity) → Prop where
  | wait (instant : Instant) : StepAlike (.wait instant) (.wait instant)
  | reopen (opening : VaultOpening) : StepAlike (.reopen opening) (.reopen opening)
  | command {command command' : VaultCommand} (h : command.Alike command') :
      StepAlike (.command command) (.command command')
  | shortage (count : Nat) :
      StepAlike (.befall (RamMedium.shortage count)) (.befall (RamMedium.shortage count))
  | relief : StepAlike (.befall RamMedium.relief) (.befall RamMedium.relief)

/-- What a step of a session finds out about a key. -/
def verdict {μ : Type} [Medium μ] (session : VaultSession μ) : VaultStep μ → Option Bool
  | .command command =>
    session.component?.bind fun vault => vault.verdict session.clock.now command
  | .wait _ | .reopen _ | .befall _ => none

/-- Two sessions go on side by side: their steps differ in keys and values only, and what both find
out about a key is the same. -/
inductive SideBySide : VaultSession (RamMedium records capacity) →
    VaultSession (RamMedium records capacity) → List (VaultStep (RamMedium records capacity)) →
      List (VaultStep (RamMedium records capacity)) → Prop where
  | done (first second : VaultSession (RamMedium records capacity)) :
      SideBySide first second [] []
  | next {first second : VaultSession (RamMedium records capacity)}
      {step step' : VaultStep (RamMedium records capacity)}
      {rest rest' : List (VaultStep (RamMedium records capacity))} (hstep : StepAlike step step')
      (hverdict : ∀ right ∈ verdict first step, ∀ right' ∈ verdict second step', right = right')
      (hrest : SideBySide (first.step step) (second.step step') rest rest') :
      SideBySide first second (step :: rest) (step' :: rest')

/-- Sessions side by side can be looked at after any number of steps. -/
theorem SideBySide.take {first second : VaultSession (RamMedium records capacity)}
    {steps steps' : List (VaultStep (RamMedium records capacity))}
    (h : SideBySide first second steps steps') (count : Nat) :
    SideBySide first second (steps.take count) (steps'.take count) := by
  induction h generalizing count with
  | done first second => simpa using SideBySide.done first second
  | next hstep hverdict _ ih =>
    cases count with
    | zero => exact .done _ _
    | succ count => exact .next hstep hverdict (ih count)

/-! ## Alike sessions -/

/-- The open vaults are alike; or none is open, and the media are alike. -/
inductive BenchAlike : Bench Vault (RamMedium records capacity) →
    Bench Vault (RamMedium records capacity) → Prop where
  | shut {first second : RamMedium records capacity} (h : first.Alike second) :
      BenchAlike (.shut first) (.shut second)
  | opened {first second : Vault (RamMedium records capacity)} (h : first.Alike second) :
      BenchAlike (.opened first) (.opened second)

theorem BenchAlike.medium {first second : Bench Vault (RamMedium records capacity)}
    (h : BenchAlike first second) : first.medium.Alike second.medium := by
  cases h with
  | shut h => exact h
  | opened h => exact h.medium

/-- What befalls the media of alike vaults leaves them alike, if it leaves the media alike. -/
theorem BenchAlike.onMedium {first second : Bench Vault (RamMedium records capacity)}
    (h : BenchAlike first second) {one two : RamMedium records capacity} (hmedium : one.Alike two) :
    BenchAlike (first.onMedium one) (second.onMedium two) := by
  cases h with
  | shut => exact .shut hmedium
  | opened h => exact .opened ⟨h.view, hmedium⟩

/-- Two sessions that differ in keys and values only. -/
structure Alike (first second : VaultSession (RamMedium records capacity)) : Prop where
  clock : first.clock = second.clock
  bench : BenchAlike first.bench second.bench
  past : List.Forall₂ (fun deed deed' => deed.reply.Alike deed'.reply) first.past second.past

theorem Alike.view {first second : VaultSession (RamMedium records capacity)}
    (h : Alike first second) :
    first.component?.map Vault.view = second.component?.map Vault.view := by
  obtain ⟨clock, bench, past⟩ := first
  obtain ⟨clock', bench', past'⟩ := second
  cases h.bench with
  | shut => rfl
  | opened hvault => exact congrArg some hvault.view

/-! ## Steps and runs -/

/-- A step that differs in keys and values only, and finds out the same about a key, leaves alike
sessions alike. -/
theorem Alike.step {first second : VaultSession (RamMedium records capacity)}
    (h : Alike first second) {step step' : VaultStep (RamMedium records capacity)}
    (hstep : StepAlike step step')
    (hverdict : ∀ right ∈ verdict first step, ∀ right' ∈ verdict second step', right = right') :
    Alike (first.step step) (second.step step') := by
  obtain ⟨clock, bench, past⟩ := first
  obtain ⟨clock', bench', past'⟩ := second
  obtain ⟨hclock, hbench, hpast⟩ := h
  obtain rfl : clock = clock' := hclock
  cases hstep with
  | wait instant => exact ⟨rfl, hbench, hpast⟩
  | reopen opening =>
    have hopened (bench : Bench Vault (RamMedium records capacity)) :
        Component.restore bench.medium clock.now opening =
          Vault.restore bench.medium clock.now opening.schedule opening.least := rfl
    simp only [Session.step, Session.medium, hopened]
    rcases Vault.restore_alike hbench.medium clock.now opening.schedule opening.least with
      ⟨refusal, hone, htwo⟩ | ⟨one, two, hone, htwo, halike⟩
    · simp only [hone, htwo]
      exact ⟨rfl, .shut hbench.medium, hpast⟩
    · simp only [hone, htwo]
      exact ⟨rfl, .opened halike, hpast⟩
  | command hcommand =>
    cases hbench with
    | shut hmedium => exact ⟨rfl, .shut hmedium, hpast⟩
    | opened hvault =>
      obtain ⟨hreply, hafter⟩ := Vault.execute_alike hvault hcommand hverdict
      exact ⟨rfl, .opened hafter, .cons hreply hpast⟩
  | shortage count => exact ⟨rfl, hbench.onMedium (hbench.medium.shortage count), hpast⟩
  | relief => exact ⟨rfl, hbench.onMedium hbench.medium.relief, hpast⟩

theorem Alike.run {first second : VaultSession (RamMedium records capacity)}
    (h : Alike first second) {steps steps' : List (VaultStep (RamMedium records capacity))}
    (hside : SideBySide first second steps steps') :
    Alike (steps.foldl Session.step first) (steps'.foldl Session.step second) := by
  induction hside with
  | done first second => exact h
  | next hstep hverdict _ ih => exact ih (h.step hstep hverdict)

/-- Sessions side by side that began on empty media are alike after any number of steps. -/
theorem SideBySide.alike {clock : SteppedClock}
    {steps steps' : List (VaultStep (RamMedium records capacity))}
    (hside : SideBySide (.start .empty clock) (.start .empty clock) steps steps') (count : Nat) :
    Alike (.after .empty clock (steps.take count)) (.after .empty clock (steps'.take count)) := by
  have hstart : Alike (.start .empty clock : VaultSession (RamMedium records capacity))
      (.start .empty clock) := ⟨rfl, .shut ⟨rfl, rfl, fun _ => rfl⟩, .nil⟩
  exact hstart.run (hside.take count)

/-- A vault gives nothing away but whether a key was right.  Take two sessions on empty media of the
same size whose steps differ in keys and values only, and in which what both find out about a
presented key is the same.  After any number of steps all that may be seen of the two vaults is
the same, their throttling, responses and logs, and so is the number of commits; they can be opened
again with the same outcome; and every command had the same result, with the same bytes for the
caller unless a value was released. -/
theorem secrets_unseen (clock : SteppedClock)
    {steps steps' : List (VaultStep (RamMedium records capacity))}
    (hside : SideBySide (.start .empty clock) (.start .empty clock) steps steps') (count : Nat) :
    let first : VaultSession (RamMedium records capacity) :=
      .after .empty clock (steps.take count)
    let second : VaultSession (RamMedium records capacity) :=
      .after .empty clock (steps'.take count)
    first.component?.map Vault.view = second.component?.map Vault.view ∧
    first.medium.commits = second.medium.commits ∧
    (∀ opening : VaultOpening,
      (Vault.restore first.medium first.clock.now opening.schedule opening.least).map Vault.view =
        (Vault.restore second.medium second.clock.now opening.schedule opening.least).map
          Vault.view) ∧
    List.Forall₂ (fun deed deed' => deed.reply.Alike deed'.reply) first.past second.past := by
  intro first second
  have halike : Alike first second := hside.alike count
  have hmedium : first.medium.Alike second.medium := halike.bench.medium
  refine ⟨?_, hmedium.commits, fun opening => ?_, halike.past⟩
  · exact halike.view
  · rw [halike.clock]
    rcases Vault.restore_alike hmedium second.clock.now opening.schedule opening.least with
      ⟨refusal, hone, htwo⟩ | ⟨one, two, hone, htwo, hvault⟩
    · rw [hone, htwo]
    · rw [hone, htwo]
      exact congrArg Except.ok hvault.view

/-! ## Two sessions in working memory -/

/-- A value is written under a key; a wrong key is presented, and then the right one, first while
the medium takes no commits. -/
def attempts (key value wrong : UInt8) : List (VaultStep (RamMedium 64 46)) :=
  let present (byte : UInt8) : VaultStep (RamMedium 64 46) :=
    .command (.read 3 (List.replicate 16 byte) (List.replicate 16 0))
  [.reopen ⟨{}, .standard⟩,
    .command (.write 3 (List.replicate 16 key) (List.replicate 16 value)), present wrong,
    .befall (RamMedium.shortage 0), present key, .befall RamMedium.relief, present key]

/-- Two such sessions with other keys and another value cannot be told apart. -/
theorem secrets_unseen_attempts :
    SideBySide (.start .empty {}) (.start .empty {}) (attempts 7 9 8) (attempts 1 2 3) ∧
    let first : VaultSession (RamMedium 64 46) := .after .empty {} (attempts 7 9 8)
    let second : VaultSession (RamMedium 64 46) := .after .empty {} (attempts 1 2 3)
    first.component?.map Vault.view = second.component?.map Vault.view ∧
    first.medium.commits = second.medium.commits ∧
    List.Forall₂ (fun deed deed' => deed.reply.Alike deed'.reply) first.past second.past := by
  have hside : SideBySide (.start .empty {}) (.start .empty {}) (attempts 7 9 8)
      (attempts 1 2 3) := by
    refine .next (.reopen _) nofun (.next (.command (.write 3 rfl rfl)) (by decide +kernel) ?_)
    refine .next (.command (.read 3 _ rfl)) (by decide +kernel) (.next (.shortage 0) nofun ?_)
    refine .next (.command (.read 3 _ rfl)) (by decide +kernel) (.next .relief nofun ?_)
    exact .next (.command (.read 3 _ rfl)) (by decide +kernel) (.done _ _)
  obtain ⟨hview, hcommits, -, hreplies⟩ := secrets_unseen {} hside 7
  exact ⟨hside, hview, hcommits, hreplies⟩

end VaultSession

end SecureElement
