/-
  SecureElement.Proofs.Session

  Sessions with a component of the element: commands, waits, restarts on the same medium and
  accidents of the medium, in any order.  The session keeps the commands that were carried out.
  Between a component and its medium there is one invariant, that what is in memory is what the
  medium has (`Component.Synced`).  `Session.run_tells` is the induction over a run: what one
  command carries on about the past and the medium, every run does.  `Session.synced_after` is the
  invariant after a run, and `Session.load_of_idle` says that nothing but a command changes an
  image.
-/
import SecureElement.Proofs.Medium.Lawful
import SecureElement.Proofs.Time.Deadline

namespace SecureElement

/-! ## Components -/

/-- A component of the element: how it is opened on a medium, what commands it takes, and that it
stays in step with its medium. -/
class Component (κ : Type → Type) (ω γ ξ : outParam Type) where
  -- the medium beside the component, and the component beside another medium
  medium : {μ : Type} → κ μ → μ
  onMedium : {μ : Type} → κ μ → μ → κ μ
  -- opening with settings of type `ω`, commands of type `γ` and replies of type `ξ`
  restore : {μ : Type} → [Medium μ] → μ → Instant → ω → Except Refusal (κ μ)
  execute : {μ : Type} → [Medium μ] → κ μ → Instant → γ → ξ × κ μ
  /-- What is in memory is what the medium has. -/
  Synced : {μ : Type} → [Medium μ] → κ μ → Prop
  -- the laws: opening reads the medium only, and no command and no accident breaks the invariant
  medium_onMedium : ∀ {μ : Type} (component : κ μ) (other : μ),
    medium (onMedium component other) = other
  of_restore : ∀ {μ : Type} [Medium μ] {found : μ} {now : Instant} {opening : ω}
    {component : κ μ}, restore found now opening = .ok component →
      medium component = found ∧ Synced component
  synced_execute : ∀ {μ : Type} [Medium μ] [LawfulMedium μ] {component : κ μ},
    Synced component → ∀ (now : Instant) (command : γ), Synced (execute component now command).2
  synced_befall : ∀ {μ : Type} [Medium μ] {component : κ μ}, Synced component →
    ∀ accident : Accident μ, Synced (onMedium component (accident.befall (medium component)))

/-! ## Sessions -/

/-- A command that was carried out: when, and what it found. -/
structure Deed (κ : Type → Type) (γ μ : Type) where
  instant : Instant
  command : γ
  before : κ μ

/-- The component of a session: opened, or only the medium that would keep it. -/
inductive Bench (κ : Type → Type) (μ : Type) where
  | shut (medium : μ)
  | opened (component : κ μ)

/-- What can happen in a session. -/
inductive SessionStep (ω γ μ : Type) [Medium μ] where
  /-- Time passes; a clock that shows a later time already stays. -/
  | wait (instant : Instant)
  /-- The component is opened on the medium, after a restart or for the first time. -/
  | reopen (opening : ω)
  /-- A command is carried out, if the component is open. -/
  | command (command : γ)
  /-- Something befalls the medium. -/
  | befall (accident : Accident μ)

/-- A session with a component. -/
structure Session (κ : Type → Type) (γ μ : Type) where
  clock : SteppedClock
  bench : Bench κ μ
  /-- The commands that were carried out, the latest first. -/
  past : List (Deed κ γ μ)

section Definitions

variable {κ : Type → Type} {ω γ ξ μ : Type}

def Session.component? (session : Session κ γ μ) : Option (κ μ) :=
  match session.bench with
  | .shut _ => none
  | .opened component => some component

theorem Session.component?_eq_some {session : Session κ γ μ} {component : κ μ} :
    session.component? = some component ↔ session.bench = .opened component := by
  unfold component?
  cases session.bench <;> simp

/-- A session in which nothing was opened yet. -/
def Session.start (medium : μ) (clock : SteppedClock) : Session κ γ μ :=
  ⟨clock, .shut medium, []⟩

variable [Component κ ω γ ξ]

def Bench.medium : Bench κ μ → μ
  | shut medium => medium
  | opened component => Component.medium component

def Bench.onMedium : Bench κ μ → μ → Bench κ μ
  | shut _, medium => shut medium
  | opened component, medium => opened (Component.onMedium component medium)

def Session.medium (session : Session κ γ μ) : μ :=
  session.bench.medium

theorem Session.medium_of_component? {session : Session κ γ μ} {component : κ μ}
    (h : session.component? = some component) : session.medium = Component.medium component := by
  rw [Session.medium, component?_eq_some.mp h]
  rfl

variable [Medium μ]

def Deed.reply (deed : Deed κ γ μ) : ξ :=
  (Component.execute deed.before deed.instant deed.command).1

def Deed.after (deed : Deed κ γ μ) : κ μ :=
  (Component.execute deed.before deed.instant deed.command).2

namespace Session

def step (session : Session κ γ μ) : SessionStep ω γ μ → Session κ γ μ
  | .wait instant => { session with clock := session.clock.set instant }
  | .reopen opening =>
    -- what was in memory is lost, whether or not the medium can be opened
    match Component.restore session.medium session.clock.now opening with
    | .ok component => { session with bench := .opened component }
    | .error _ => { session with bench := .shut session.medium }
  | .command command =>
    match session.bench with
    | .opened component =>
      let deed : Deed κ γ μ := ⟨session.clock.now, command, component⟩
      { session with bench := .opened deed.after, past := deed :: session.past }
    | .shut _ => session
  | .befall accident =>
    { session with bench := session.bench.onMedium (accident.befall session.medium) }

/-- The session that began on a medium, after these steps. -/
def after (medium : μ) (clock : SteppedClock) (steps : List (SessionStep ω γ μ)) :
    Session κ γ μ :=
  steps.foldl step (start medium clock)

end Session

end Definitions

/-! ## What a step can do -/

namespace Session

variable {κ : Type → Type} {ω γ ξ μ : Type} [Component κ ω γ ξ] [Medium μ]

theorem step_reopen (session : Session κ γ μ) {opening : ω} {component : κ μ}
    (h : Component.restore session.medium session.clock.now opening = .ok component) :
    session.step (.reopen opening) = { session with bench := .opened component } := by
  rw [step, h]

theorem step_reopen_refused (session : Session κ γ μ) {opening : ω} {refusal : Refusal}
    (h : Component.restore session.medium session.clock.now opening =
      (.error refusal : Except Refusal (κ μ))) :
    session.step (.reopen opening) = { session with bench := .shut session.medium } := by
  rw [step, h]

theorem after_concat (medium : μ) (clock : SteppedClock) (steps : List (SessionStep ω γ μ))
    (last : SessionStep ω γ μ) :
    (after medium clock (steps ++ [last]) : Session κ γ μ) = (after medium clock steps).step last :=
  List.foldl_append

theorem step_command (session : Session κ γ μ) {component : κ μ}
    (h : session.bench = .opened component) (command : γ) :
    session.step (.command command) =
      { session with
        bench := .opened (Deed.after ⟨session.clock.now, command, component⟩)
        past := ⟨session.clock.now, command, component⟩ :: session.past } := by
  rw [step, h]

/-- A step carries out a command on the open component, or it adds nothing to the past and leaves
every image as it is. -/
theorem step_cases (session : Session κ γ μ) (step : SessionStep ω γ μ) :
    (∃ component command, session.bench = .opened component ∧
      (session.step step).bench = .opened (Deed.after ⟨session.clock.now, command, component⟩) ∧
      (session.step step).past = ⟨session.clock.now, command, component⟩ :: session.past) ∨
    ((session.step step).past = session.past ∧
      ((session.step step).medium = session.medium ∨
        ∃ accident : Accident μ, (session.step step).medium = accident.befall session.medium)) := by
  obtain ⟨clock, bench, past⟩ := session
  cases step with
  | wait instant => exact Or.inr ⟨rfl, Or.inl rfl⟩
  | reopen opening =>
    -- opening takes the medium as it is, and so does shutting
    refine Or.inr ?_
    simp only [Session.step]
    split
    · rename_i component hrestore
      exact ⟨rfl, Or.inl (Component.of_restore hrestore).1⟩
    · exact ⟨rfl, Or.inl rfl⟩
  | command command =>
    cases bench with
    | shut medium => exact Or.inr ⟨rfl, Or.inl rfl⟩
    | opened component => exact Or.inl ⟨component, command, rfl, rfl, rfl⟩
  | befall accident =>
    refine Or.inr ⟨rfl, Or.inr ⟨accident, ?_⟩⟩
    cases bench with
    | shut medium => rfl
    | opened component => exact Component.medium_onMedium component _

/-- The past only grows. -/
theorem exists_past_eq_append (session : Session κ γ μ) (steps : List (SessionStep ω γ μ)) :
    ∃ newer, (steps.foldl Session.step session).past = newer ++ session.past := by
  refine List.foldlRecOn steps step (motive := fun later : Session κ γ μ =>
    ∃ newer, later.past = newer ++ session.past) ⟨[], rfl⟩ ?_
  rintro later ⟨newer, hpast⟩ step -
  rcases step_cases later step with ⟨component, command, -, -, hnext⟩ | ⟨hnext, -⟩
  · exact ⟨⟨later.clock.now, command, component⟩ :: newer, by rw [hnext, hpast]; rfl⟩
  · exact ⟨newer, hnext.trans hpast⟩

/-- A step never turns the clock back. -/
theorem now_le_step (session : Session κ γ μ) (step : SessionStep ω γ μ) :
    session.clock.now ≤ (session.step step).clock.now := by
  have hrefl : session.clock.now ≤ session.clock.now := UInt64.le_refl _
  obtain ⟨clock, bench, past⟩ := session
  cases step with
  | wait instant => exact clock.le_set instant
  | reopen opening =>
    simp only [Session.step]
    split <;> exact hrefl
  | command command => cases bench <;> exact hrefl
  | befall accident => exact hrefl

theorem instant_le_now (medium : μ) (clock : SteppedClock) (steps : List (SessionStep ω γ μ)) :
    ∀ deed ∈ (after medium clock steps : Session κ γ μ).past,
      deed.instant ≤ (after medium clock steps : Session κ γ μ).clock.now := by
  -- by induction on the steps: a command is as old as the clock, and the clock goes on
  refine List.foldlRecOn steps step (motive := fun session : Session κ γ μ =>
    ∀ deed ∈ session.past, deed.instant ≤ session.clock.now) ?_ ?_
  · intro deed hdeed
    cases hdeed
  · intro session ih step _ deed hdeed
    have hnow := now_le_step session step
    rcases step_cases session step with ⟨component, command, -, -, hpast⟩ | ⟨hpast, -⟩
    · rw [hpast] at hdeed
      rcases List.mem_cons.mp hdeed with rfl | hearlier
      · exact hnow
      · exact UInt64.le_trans (ih deed hearlier) hnow
    · rw [hpast] at hdeed
      exact UInt64.le_trans (ih deed hdeed) hnow

/-! ## What holds throughout a run -/

/-- A property of the open component that no command and no accident takes away. -/
structure Lasts (κ : Type → Type) {ω γ ξ : Type} [Component κ ω γ ξ] (μ : Type) [Medium μ]
    (allowed : κ μ → Prop) : Prop where
  execute : ∀ component now (command : γ), allowed component →
    allowed (Component.execute component now command).2
  onMedium : ∀ component medium, allowed component →
    allowed (Component.onMedium component medium)

/-- An opening gives only components with a property. -/
def Opens {κ : Type → Type} {ω γ ξ μ : Type} [Component κ ω γ ξ] [Medium μ]
    (allowed : κ μ → Prop) : SessionStep ω γ μ → Prop
  | .reopen opening => ∀ medium now component,
      Component.restore medium now opening = .ok component → allowed component
  | .wait _ | .command _ | .befall _ => True

theorem lasts_true : Lasts κ μ fun _ => True :=
  ⟨fun _ _ _ _ => trivial, fun _ _ _ => trivial⟩

theorem opens_true (step : SessionStep ω γ μ) : Opens (fun _ : κ μ => True) step := by
  cases step with
  | reopen opening => exact fun _ _ _ _ => trivial
  | wait | command | befall => trivial

/-- The open component has the property, and it is in step with its medium. -/
def Orderly (allowed : κ μ → Prop) (session : Session κ γ μ) : Prop :=
  ∀ component, session.bench = .opened component →
    allowed component ∧ Component.Synced component

variable [LawfulMedium μ]

theorem orderly_step {allowed : κ μ → Prop} (hlasts : Lasts κ μ allowed)
    {session : Session κ γ μ} {step : SessionStep ω γ μ} (hopens : Opens allowed step)
    (h : session.Orderly allowed) : (session.step step).Orderly allowed := by
  obtain ⟨clock, bench, past⟩ := session
  intro component hcomponent
  cases step with
  | wait instant => exact h component hcomponent
  | reopen opening =>
    simp only [Session.step] at hcomponent
    split at hcomponent
    · rename_i restored hrestore
      cases hcomponent
      exact ⟨hopens _ _ _ hrestore, (Component.of_restore hrestore).2⟩
    · cases hcomponent
  | command command =>
    cases bench with
    | shut medium => cases hcomponent
    | opened before =>
      cases hcomponent
      obtain ⟨hallowed, hsynced⟩ := h before rfl
      exact ⟨hlasts.execute before clock.now command hallowed,
        Component.synced_execute hsynced clock.now command⟩
  | befall accident =>
    cases bench with
    | shut medium => cases hcomponent
    | opened before =>
      cases hcomponent
      obtain ⟨hallowed, hsynced⟩ := h before rfl
      exact ⟨hlasts.onMedium before _ hallowed, Component.synced_befall hsynced accident⟩

/-- What the past tells about a part of the medium that no accident touches: if it holds at the
start and every command carries it on, it holds throughout a run. -/
theorem run_tells {α : Type} (view : μ → α) (tells : List (Deed κ γ μ) → α → Prop)
    (hview : ∀ (accident : Accident μ) medium, view (accident.befall medium) = view medium)
    {allowed : κ μ → Prop} (hlasts : Lasts κ μ allowed)
    (hdeed : ∀ past (deed : Deed κ γ μ), allowed deed.before →
      Component.Synced deed.before → Component.Synced deed.after →
        tells past (view (Component.medium deed.before)) →
          tells (deed :: past) (view (Component.medium deed.after)))
    {medium : μ} (hstart : tells [] (view medium)) (clock : SteppedClock)
    {steps : List (SessionStep ω γ μ)} (hsteps : ∀ step ∈ steps, Opens allowed step) :
    (after medium clock steps : Session κ γ μ).Orderly allowed ∧
      tells (after medium clock steps : Session κ γ μ).past
        (view (after medium clock steps : Session κ γ μ).medium) := by
  -- by induction on the steps: the session has to be orderly for a command to start from the medium
  refine List.foldlRecOn steps step (motive := fun session : Session κ γ μ =>
    session.Orderly allowed ∧ tells session.past (view session.medium)) ?_ ?_
  · exact ⟨fun component h => (nomatch h), hstart⟩
  · rintro session ⟨horderly, htells⟩ step hmem
    have hnext := orderly_step hlasts (hsteps step hmem) horderly
    refine ⟨hnext, ?_⟩
    rcases step_cases session step with
      ⟨component, command, hbench, hafter, hpast⟩ | ⟨hpast, hmedium | ⟨accident, hmedium⟩⟩
    · -- a command: it finds the medium as the past tells, and carries that on
      obtain ⟨hallowed, hsynced⟩ := horderly component hbench
      unfold Session.medium at htells ⊢
      rw [hbench] at htells
      rw [hpast, hafter]
      exact hdeed session.past ⟨session.clock.now, command, component⟩ hallowed hsynced
        (hnext _ hafter).2 htells
    · rw [hpast, hmedium]
      exact htells
    · -- an accident: the view does not change
      rw [hpast, hmedium, hview]
      exact htells

/-- The open component of a session is in step with its medium, whatever happened before. -/
theorem synced_after (medium : μ) (clock : SteppedClock) (steps : List (SessionStep ω γ μ))
    {component : κ μ}
    (h : (after medium clock steps : Session κ γ μ).component? = some component) :
    Component.Synced component := by
  -- nothing has to be told of the medium, only that the session is orderly
  have hlasts : Lasts κ μ fun _ => True := lasts_true
  obtain ⟨horderly, -⟩ := run_tells (fun _ => ()) (fun _ _ => True) (fun _ _ => rfl) hlasts
    (fun _ _ _ _ _ _ => trivial) trivial clock (fun step _ => opens_true step)
  exact (horderly component (component?_eq_some.mp h)).2

/-! ## Between two commands -/

/-- A step that carries out no command: time passes, the component is dropped and opened, or
something befalls the medium. -/
def IsIdle : SessionStep ω γ μ → Prop
  | .command _ => False
  | .wait _ | .reopen _ | .befall _ => True

omit [LawfulMedium μ] in
/-- Nothing but a command is added to the past. -/
theorem past_step_of_idle (session : Session κ γ μ) {step : SessionStep ω γ μ}
    (hidle : IsIdle step) : (session.step step).past = session.past := by
  cases step with
  | command command => exact hidle.elim
  | wait instant => rfl
  | befall accident => rfl
  | reopen opening =>
    simp only [Session.step]
    split <;> rfl

omit [LawfulMedium μ] in
/-- Nothing but a command changes an image. -/
theorem load_of_idle (session : Session κ γ μ) {idle : List (SessionStep ω γ μ)}
    (hidle : ∀ step ∈ idle, IsIdle step) (id : RecordId) (room : Nat) :
    Medium.load (idle.foldl Session.step session).medium id room =
      Medium.load session.medium id room := by
  refine List.foldlRecOn idle step (motive := fun later : Session κ γ μ =>
    Medium.load later.medium id room = Medium.load session.medium id room) rfl ?_
  intro later ih step hstep
  rw [← ih]
  rcases step_cases later step with ⟨component, command, hbench, -, hpast⟩ |
    ⟨-, hmedium | ⟨accident, hmedium⟩⟩
  · -- a command would have been added to the past
    rw [past_step_of_idle later (hidle step hstep)] at hpast
    exact absurd hpast.symm (List.cons_ne_self _ _)
  · rw [hmedium]
  · rw [hmedium, accident.load_befall]

/-! ## While the component stays open -/

/-- A step that does not open the component again. -/
def KeepsOpen : SessionStep ω γ μ → Prop
  | .reopen _ => False
  | .wait _ | .command _ | .befall _ => True

instance : DecidablePred (KeepsOpen : SessionStep ω γ μ → Prop)
  | .reopen _ => isFalse id
  | .wait _ | .command _ | .befall _ => isTrue trivial

/-- The command of a step, if it is one. -/
def command? : SessionStep ω γ μ → Option γ
  | .command command => some command
  | .wait _ | .reopen _ | .befall _ => none

omit [LawfulMedium μ] in
/-- A step on an open component leaves it open.  The component is the one that carried out the
command and told of it, or the same one on some medium. -/
theorem step_opened {session : Session κ γ μ} {component : κ μ}
    (hbench : session.bench = .opened component) {step : SessionStep ω γ μ}
    (hopen : KeepsOpen step) :
    (∃ command, command? step = some command ∧
      (session.step step).bench = .opened (Deed.after ⟨session.clock.now, command, component⟩) ∧
      (session.step step).past = ⟨session.clock.now, command, component⟩ :: session.past) ∨
    (command? step = none ∧ (session.step step).past = session.past ∧
      ((session.step step).bench = .opened component ∨
        ∃ medium, (session.step step).bench = .opened (Component.onMedium component medium))) := by
  cases step with
  | wait instant => exact Or.inr ⟨rfl, rfl, Or.inl hbench⟩
  | reopen opening => exact hopen.elim
  | command command =>
    rw [step_command session hbench]
    exact Or.inl ⟨command, rfl, rfl, rfl⟩
  | befall accident =>
    refine Or.inr ⟨rfl, rfl, Or.inr ⟨accident.befall session.medium, ?_⟩⟩
    rw [step, hbench]
    rfl

omit [LawfulMedium μ] in
/-- What holds of an open component and its past, and what every command and every other medium
keep, holds for as long as the component stays open; and its past has every command of that time. -/
theorem run_opened {property : List (Deed κ γ μ) → κ μ → Prop}
    (hdeed : ∀ past (deed : Deed κ γ μ), property past deed.before →
      property (deed :: past) deed.after)
    (hmedium : ∀ past component medium, property past component →
      property past (Component.onMedium component medium))
    {session : Session κ γ μ} {component : κ μ} (hbench : session.bench = .opened component)
    (hstart : property session.past component) {steps : List (SessionStep ω γ μ)}
    (hopen : ∀ step ∈ steps, KeepsOpen step) :
    (steps.foldl step session).past.map Deed.command =
        (steps.filterMap command?).reverse ++ session.past.map Deed.command ∧
      ∃ later, (steps.foldl step session).bench = .opened later ∧
        property (steps.foldl step session).past later := by
  induction steps generalizing session component with
  | nil => exact ⟨rfl, component, hbench, hstart⟩
  | cons next steps ih =>
    obtain ⟨hnext, hrest⟩ := List.forall_mem_cons.mp hopen
    rcases step_opened hbench hnext with
      ⟨command, hcommand, hafter, hpast⟩ | ⟨hcommand, hpast, hafter | ⟨medium, hafter⟩⟩
    · have hkept := hdeed session.past ⟨session.clock.now, command, component⟩ hstart
      rw [← hpast] at hkept
      obtain ⟨hcalled, hlater⟩ := ih hafter hkept hrest
      refine ⟨?_, hlater⟩
      rw [List.foldl_cons, hcalled, hpast, List.filterMap_cons_some hcommand, List.reverse_cons,
        List.append_assoc]
      rfl
    · rw [← hpast] at hstart
      rw [List.foldl_cons, List.filterMap_cons_none hcommand, ← hpast]
      exact ih hafter hstart hrest
    · have hkept := hmedium session.past component medium hstart
      rw [← hpast] at hkept
      rw [List.foldl_cons, List.filterMap_cons_none hcommand, ← hpast]
      exact ih hafter hkept hrest

end Session

end SecureElement
