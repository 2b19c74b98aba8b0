/-
  SecureElement.Proofs.Record.Keeper

  Components that keep one record: its value in memory, beside the medium that has it.  What such a
  component is opened with decides which record it keeps, a command commits one change to it or
  none, and a command that is refused leaves it as it is.  `RecordKeeper.tells_value` is the
  induction over a run for the value of one record, `RecordKeeper.tells_done` is the same for what
  is told by the commands that were carried out, and `RecordKeeper.durable` says that a component
  survives being dropped at any point.
-/
import SecureElement.Proofs.Record.Recovery
import SecureElement.Proofs.Session

namespace SecureElement

/-- A component that keeps one record on its medium, and the record's value in memory. -/
class RecordKeeper (κ : Type → Type) (ρ ω γ α : outParam Type) [Persistent ρ]
    [Component κ ω γ (Except Refusal α)] where
  cell : {μ : Type} → κ μ → RecordCell μ ρ
  /-- The value of a record that was never committed. -/
  initial : ρ
  -- the record that an opening is about, and the component with the record's cell
  record : ω → RecordId
  opened : {μ : Type} → ω → RecordCell μ ρ → κ μ
  -- the laws: the cell is all that the component has of its medium, and a command replaces it once
  -- at most
  medium_eq : ∀ {μ : Type} (component : κ μ), Component.medium component = (cell component).medium
  synced_iff : ∀ {μ : Type} [Medium μ] (component : κ μ),
    Component.Synced component ↔ (cell component).Synced initial
  cell_opened : ∀ {μ : Type} (opening : ω) (found : RecordCell μ ρ),
    cell (opened opening found) = found
  restore_eq : ∀ {μ : Type} [Medium μ] (medium : μ) (now : Instant) (opening : ω),
    Component.restore medium now opening =
      (RecordCell.restore medium (record opening) initial).map (opened opening)
  attempted_execute : ∀ {μ : Type} [Medium μ] (component : κ μ) (now : Instant) (command : γ),
    (cell component).Attempted (Component.execute component now command).1
      (cell (Component.execute component now command).2)

namespace RecordKeeper

variable {κ : Type → Type} {ρ ω γ α μ : Type} [Persistent ρ] [Component κ ω γ (Except Refusal α)]
  [RecordKeeper κ ρ ω γ α] [Medium μ]

/-- The medium of a session with an open component has the component's value. -/
theorem recovered_of_synced {session : Session κ γ μ} {component : κ μ}
    (hcomponent : session.component? = some component) (hsynced : Component.Synced component) :
    Persistent.recovered (initial κ) session.medium (cell component).id =
      .ok (cell component).value := by
  rw [Session.medium_of_component? hcomponent, medium_eq]
  exact (synced_iff component).mp hsynced

/-! ## What was done -/

/-- The commands on a record that were carried out, the latest first. -/
def done (id : RecordId) (past : List (Deed κ γ μ)) : List γ :=
  past.filterMap fun deed =>
    if (cell deed.before).id = id ∧ deed.reply.isOk then some deed.command else none

section Done

variable {id : RecordId} {deed : Deed κ γ μ} (past : List (Deed κ γ μ))

theorem done_cons_of_ok (hid : (cell deed.before).id = id) (hok : deed.reply.isOk = true) :
    done id (deed :: past) = deed.command :: done id past :=
  List.filterMap_cons_some (if_pos ⟨hid, hok⟩)

theorem done_cons_of_error (herror : deed.reply.isOk = false) :
    done id (deed :: past) = done id past :=
  List.filterMap_cons_none (if_neg (by simp [herror]))

theorem done_cons_of_ne (hne : (cell deed.before).id ≠ id) :
    done id (deed :: past) = done id past :=
  List.filterMap_cons_none (if_neg fun h => hne h.1)

theorem done_append (newer : List (Deed κ γ μ)) :
    done id (newer ++ past) = done id newer ++ done id past :=
  List.filterMap_append

variable {past}

/-- A command that is told of was carried out. -/
theorem of_mem_done {command : γ} (h : command ∈ done id past) :
    ∃ deed ∈ past, deed.command = command ∧ ∃ reply, deed.reply = .ok reply := by
  obtain ⟨deed, hdeed, hdone⟩ := List.mem_filterMap.mp h
  split at hdone
  · rename_i hok
    refine ⟨deed, hdeed, Option.some.inj hdone, ?_⟩
    cases hreply : deed.reply with
    | ok reply => exact ⟨reply, rfl⟩
    | error refusal =>
      rw [hreply] at hok
      cases hok.2
  · cases hdone

end Done

/-- What every command that is carried out carries on from the value before to the value after,
every command carries on about what was done. -/
theorem carries_done {tells : List γ → ρ → Prop}
    (hcarries : ∀ (component : κ μ) (now : Instant) (command : γ) (reply : α) (done : List γ),
      (Component.execute component now command).1 = .ok reply → tells done (cell component).value →
        tells (command :: done) (cell (Component.execute component now command).2).value)
    {id : RecordId} (past : List (Deed κ γ μ)) (deed : Deed κ γ μ)
    (hid : (cell deed.before).id = id) (h : tells (done id past) (cell deed.before).value) :
    tells (done id (deed :: past)) (cell deed.after).value := by
  cases hreply : deed.reply with
  | ok reply =>
    rw [done_cons_of_ok past hid (by rw [hreply]; rfl)]
    exact hcarries deed.before deed.instant deed.command reply (done id past) hreply h
  | error refusal =>
    -- a command that is refused leaves the value as it is
    have hattempted := attempted_execute deed.before deed.instant deed.command
    have herror : (Component.execute deed.before deed.instant deed.command).1 = .error refusal :=
      hreply
    rw [herror] at hattempted
    rw [done_cons_of_error past (by rw [hreply]; rfl), Deed.after, hattempted.eq_of_error]
    exact h

variable [LawfulMedium μ]

/-- What the past tells of the value of a record: if every command on that record carries it from
the value before to the value after, and commands on other records leave it, it holds throughout a
session of the value that the medium has and of the one in memory. -/
theorem tells_value {allowed : κ μ → Prop} (hlasts : Session.Lasts κ μ allowed) {id : RecordId}
    (tells : List (Deed κ γ μ) → Except MediumError ρ → Prop)
    (hdeed : ∀ past (deed : Deed κ γ μ), allowed deed.before → (cell deed.before).id = id →
      tells past (.ok (cell deed.before).value) →
        tells (deed :: past) (.ok (cell deed.after).value))
    (hother : ∀ past (deed : Deed κ γ μ) found, (cell deed.before).id ≠ id →
      tells past found → tells (deed :: past) found)
    {medium : μ} (hstart : tells [] (Persistent.recovered (initial κ) medium id))
    (clock : SteppedClock) {steps : List (SessionStep ω γ μ)}
    (hsteps : ∀ step ∈ steps, Session.Opens allowed step) :
    let session : Session κ γ μ := .after medium clock steps
    tells session.past (Persistent.recovered (initial κ) session.medium id) ∧
      ∀ component, session.component? = some component → (cell component).id = id →
        tells session.past (.ok (cell component).value) := by
  intro session
  have hcarries : ∀ past (deed : Deed κ γ μ), allowed deed.before →
      Component.Synced deed.before → Component.Synced deed.after →
        tells past (Persistent.recovered (initial κ) (Component.medium deed.before) id) →
          tells (deed :: past)
            (Persistent.recovered (initial κ) (Component.medium deed.after) id) := by
    intro past deed hallowed hbefore hafter htells
    rw [medium_eq] at htells ⊢
    obtain ⟨change, hcommitted⟩ :=
      (attempted_execute deed.before deed.instant deed.command).exists_committed
    by_cases hid : (cell deed.before).id = id
    · -- in step with their media, both components have the values that the media have
      have hsame : (cell deed.after).id = id := hcommitted.id_eq.trans hid
      have hfound : Persistent.recovered (initial κ) (cell deed.before).medium id =
          .ok (cell deed.before).value := hid ▸ (synced_iff _).mp hbefore
      have hleft : Persistent.recovered (initial κ) (cell deed.after).medium id =
          .ok (cell deed.after).value := hsame ▸ (synced_iff _).mp hafter
      rw [hfound] at htells
      rw [hleft]
      exact hdeed past deed hallowed hid htells
    · have hkept : Persistent.recovered (initial κ) (cell deed.after).medium id =
          Persistent.recovered (initial κ) (cell deed.before).medium id :=
        RecordCell.recovered_committed_of_ne _ hcommitted fun heq => hid heq.symm
      rw [hkept]
      exact hother past deed _ hid htells
  obtain ⟨horderly, htells⟩ := Session.run_tells
    (fun medium => Persistent.recovered (initial κ) medium id) tells
    (fun accident medium => Persistent.recovered_befall accident (initial κ) medium id)
    hlasts hcarries hstart clock hsteps
  refine ⟨htells, fun component hcomponent hid => ?_⟩
  have hsynced := (horderly component (Session.component?_eq_some.mp hcomponent)).2
  have hfound := recovered_of_synced hcomponent hsynced
  rw [hid] at hfound
  rw [← hfound]
  exact htells

/-- What holds of the value that a medium has for a record, and is carried on by every command that
is carried out, holds of the value in memory and of what was done. -/
theorem tells_done (tells : List γ → ρ → Prop)
    (hcarries : ∀ (component : κ μ) (now : Instant) (command : γ) (reply : α) (done : List γ),
      (Component.execute component now command).1 = .ok reply → tells done (cell component).value →
        tells (command :: done) (cell (Component.execute component now command).2).value)
    {medium : μ} {clock : SteppedClock} {steps : List (SessionStep ω γ μ)} {component : κ μ}
    (hcomponent : (Session.after medium clock steps : Session κ γ μ).component? = some component)
    (hstart : ∀ value,
      Persistent.recovered (initial κ) medium (cell component).id = .ok value → tells [] value) :
    tells (done (cell component).id (Session.after medium clock steps : Session κ γ μ).past)
      (cell component).value := by
  obtain ⟨-, hopened⟩ := tells_value Session.lasts_true
    (fun past found => ∀ value, found = .ok value → tells (done (cell component).id past) value)
    (fun past deed _ hid h value hvalue => by
      cases hvalue
      exact carries_done hcarries past deed hid (h _ rfl))
    (fun past deed found hid h => (done_cons_of_ne past hid).symm ▸ h)
    hstart clock (fun step (_ : step ∈ steps) => Session.opens_true step)
  exact hopened component hcomponent rfl _ rfl

/-! ## Dropped and opened again -/

omit [LawfulMedium μ] in
/-- A medium that has a value for the record opens to a component with that value. -/
theorem restore_of_recovered {medium : μ} {opening : ω} {value : ρ}
    (h : Persistent.recovered (initial κ) medium (record κ opening) = .ok value) (now : Instant) :
    ∃ component : κ μ, Component.restore medium now opening = .ok component ∧
      cell component = ⟨medium, record κ opening, value⟩ := by
  refine ⟨opened opening ⟨medium, record κ opening, value⟩, ?_, cell_opened _ _⟩
  rw [restore_eq, RecordCell.restore_of_recovered h]
  rfl

omit [LawfulMedium μ] in
theorem step_reopen_of_recovered {session : Session κ γ μ} {opening : ω} {value : ρ}
    (h : Persistent.recovered (initial κ) session.medium (record κ opening) = .ok value) :
    ∃ again : κ μ, session.step (.reopen opening) = { session with bench := .opened again } ∧
      cell again = ⟨session.medium, record κ opening, value⟩ := by
  obtain ⟨again, hrestore, hcell⟩ := restore_of_recovered h session.clock.now
  exact ⟨again, Session.step_reopen session hrestore, hcell⟩

variable (κ μ) in
/-- A component survives being dropped at any point of any session. -/
structure Durable : Prop where
  /-- The value in memory is the one that is loaded, or the initial one for a record that was never
  committed. -/
  loaded : ∀ (medium : μ) (clock : SteppedClock) (steps : List (SessionStep ω γ μ))
    (component : κ μ),
      (Session.after medium clock steps : Session κ γ μ).component? = some component →
      ∃ found, Persistent.load ρ (Component.medium component) (cell component).id = .ok found ∧
        found.getD (initial κ) = (cell component).value
  /-- A command that is refused changes neither the value nor the medium. -/
  refused : ∀ (component : κ μ) (now : Instant) (command : γ) (refusal : Refusal),
    (Component.execute component now command).1 = .error refusal →
      (cell (Component.execute component now command).2).value = (cell component).value ∧
        Component.medium (Component.execute component now command).2 = Component.medium component
  /-- Whatever happens to the medium meanwhile, and whichever openings come between, a component
  that is opened on the record has the value. -/
  reopened : ∀ (medium : μ) (clock : SteppedClock) (steps : List (SessionStep ω γ μ))
    (component : κ μ),
      (Session.after medium clock steps : Session κ γ μ).component? = some component →
      ∀ idle : List (SessionStep ω γ μ), (∀ step ∈ idle, Session.IsIdle step) →
        ∀ opening : ω, record κ opening = (cell component).id →
          ∃ again : κ μ, (Session.after medium clock (steps ++ idle ++ [.reopen opening]) :
              Session κ γ μ).component? = some again ∧
            (cell again).value = (cell component).value

/-- A component that keeps one record is durable on every medium that keeps what was committed. -/
theorem durable : Durable κ μ where
  loaded medium clock steps component hcomponent := by
    have hsynced := Session.synced_after medium clock steps hcomponent
    rw [medium_eq]
    exact Persistent.load_of_recovered ((synced_iff component).mp hsynced)
  refused component now command refusal herror := by
    have hattempted := attempted_execute component now command
    rw [herror] at hattempted
    rw [medium_eq, medium_eq, hattempted.eq_of_error]
    exact ⟨rfl, rfl⟩
  reopened medium clock steps component hcomponent idle hidle opening hrecord := by
    have hsynced := Session.synced_after medium clock steps hcomponent
    let dropped : Session κ γ μ := .after medium clock (steps ++ idle)
    have hsession : dropped = idle.foldl Session.step (.after medium clock steps) :=
      List.foldl_append
    -- nothing that came between has changed the image of the record
    have hrecovered : Persistent.recovered (initial κ) dropped.medium (record κ opening) =
        .ok (cell component).value := by
      rw [hsession, hrecord, ← recovered_of_synced hcomponent hsynced]
      exact Persistent.recovered_congr _ (Session.load_of_idle _ hidle _ _)
    obtain ⟨again, hstep, hcell⟩ := step_reopen_of_recovered hrecovered
    refine ⟨again, ?_, by rw [hcell]⟩
    rw [Session.after_concat, hstep]
    rfl

end RecordKeeper

end SecureElement
