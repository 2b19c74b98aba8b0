/-
  SecureElement.Proofs.Sharing

  Components that share one medium.  The vault, the locks, the measured boot and the scratchpad each
  have records of their own.  A `Tenant` is a component that commits to no other records and has in
  its own all that it keeps; both are proved once for a component with one record and once for the
  vault.  From these laws, whatever the components do in turn on one medium, each finds again what it
  had when it was closed last.
-/
import Mathlib.Logic.Function.Basic
import SecureElement.Proofs.Boot.Session
import SecureElement.Proofs.Lock.Session
import SecureElement.Proofs.Vault.Reach
import SecureElement.Proofs.Vault.Recovery

namespace SecureElement

/-! ## Tenants -/

/-- A component that shares its medium with others: opened with settings of type `τ`, it keeps a
state of type `σ` in records that are its own. -/
class Tenant (κ : Type → Type) (σ τ : outParam Type) {ω γ ξ : outParam Type}
    [Component κ ω γ ξ] where
  owns : RecordId → Prop
  -- how the component is opened on its own records, and which settings it admits
  opening : τ → ω
  Admits : τ → Prop
  /-- The component was opened on its own records. -/
  AtHome : {μ : Type} → κ μ → Prop
  -- what the component keeps, and that a medium has it
  kept : {μ : Type} → κ μ → σ
  Has : {μ : Type} → [Medium μ] → μ → σ → Prop
  -- the laws: a component at home stays there and commits to its own records only
  atHome_restore : ∀ {μ : Type} [Medium μ] {medium : μ} {now : Instant} {settings : τ}
    {component : κ μ}, Component.restore medium now (opening settings) = .ok component →
      AtHome component
  atHome_lasts : ∀ {μ : Type} [Medium μ], Session.Lasts κ μ AtHome
  load_execute : ∀ {μ : Type} [Medium μ] [LawfulMedium μ] {component : κ μ},
    AtHome component → ∀ {id : RecordId}, ¬ owns id → ∀ (now : Instant) (command : γ) (room : Nat),
      Medium.load (Component.medium (Component.execute component now command).2) id room =
        Medium.load (Component.medium component) id room
  -- and what it keeps is all in its own records
  has_of_synced : ∀ {μ : Type} [Medium μ] {component : κ μ}, AtHome component →
    Component.Synced component → Has (Component.medium component) (kept component)
  has_congr : ∀ {μ : Type} [Medium μ] {first second : μ} {state : σ},
    (∀ id, owns id → ∀ room, Medium.load first id room = Medium.load second id room) →
      Has first state → Has second state
  restore_of_has : ∀ {μ : Type} [Medium μ] {medium : μ} {state : σ}, Has medium state →
    ∀ (now : Instant) {settings : τ}, Admits settings →
      ∃ component : κ μ, Component.restore medium now (opening settings) = .ok component ∧
        kept component = state

/-- No command of a tenant changes the image of a record that is not its own. -/
def Tenant.Confined (κ : Type → Type) {σ τ ω γ ξ : Type} [Component κ ω γ ξ] [Tenant κ σ τ]
    (μ : Type) [Medium μ] : Prop :=
  ∀ component : κ μ, Tenant.AtHome component → ∀ id, ¬ Tenant.owns κ id → ∀ now (command : γ) room,
    Medium.load (Component.medium (Component.execute component now command).2) id room =
      Medium.load (Component.medium component) id room

/-- A committed change leaves the images of other records as they are. -/
theorem RecordCell.load_committed_of_ne {μ ρ : Type} [Persistent ρ] [Medium μ] [LawfulMedium μ]
    {before after : RecordCell μ ρ} {change : Option ρ} (h : before.Committed change after)
    {other : RecordId} (hne : other ≠ before.id) (room : Nat) :
    Medium.load after.medium other room = Medium.load before.medium other room := by
  cases h with
  | unchanged => rfl
  | saved value medium hsave =>
    exact LawfulMedium.load_commit_of_ne (Persistent.commit_of_save hsave).2 hne

/-- A component that keeps one record is a tenant of that record. -/
@[reducible] def Tenant.ofKeeper {κ : Type → Type} {ρ τ ω γ α : Type} [Persistent ρ]
    [Component κ ω γ (Except Refusal α)] [RecordKeeper κ ρ ω γ α] (home : RecordId)
    (opening : τ → ω) (hopening : ∀ settings, RecordKeeper.record κ (opening settings) = home)
    (honMedium : ∀ {μ : Type} (component : κ μ) (medium : μ),
      (RecordKeeper.cell (Component.onMedium component medium)).id =
        (RecordKeeper.cell component).id) :
    Tenant κ ρ τ where
  owns id := id = home
  opening := opening
  Admits _ := True
  AtHome component := (RecordKeeper.cell component).id = home
  kept component := (RecordKeeper.cell component).value
  Has medium value := Persistent.recovered (RecordKeeper.initial κ) medium home = .ok value
  atHome_restore {μ _ medium now settings component} h := by
    rw [RecordKeeper.restore_eq] at h
    cases hcell : RecordCell.restore medium (RecordKeeper.record κ (opening settings))
        (RecordKeeper.initial κ) with
    | error refusal =>
      rw [hcell] at h
      cases h
    | ok cell =>
      rw [hcell] at h
      cases h
      rw [RecordKeeper.cell_opened, (RecordCell.of_restore hcell).2.1, hopening]
  atHome_lasts := {
    execute := by
      intro component now command h
      obtain ⟨change, hcommitted⟩ :=
        (RecordKeeper.attempted_execute component now command).exists_committed
      exact hcommitted.id_eq.trans h
    onMedium := fun component medium h => (honMedium component medium).trans h }
  load_execute {μ _ _ component} h id hid now command room := by
    obtain ⟨change, hcommitted⟩ :=
      (RecordKeeper.attempted_execute component now command).exists_committed
    rw [RecordKeeper.medium_eq, RecordKeeper.medium_eq]
    exact RecordCell.load_committed_of_ne hcommitted (fun heq => hid (heq.trans h)) room
  has_of_synced {μ _ component} h hsynced := by
    have hcell := (RecordKeeper.synced_iff component).mp hsynced
    rw [RecordKeeper.medium_eq, ← h]
    exact hcell
  has_congr hload h := (Persistent.recovered_congr _ (hload home rfl _)).symm.trans h
  restore_of_has {μ _ medium value} h now settings _ := by
    have hrecovered : Persistent.recovered (RecordKeeper.initial κ) medium
        (RecordKeeper.record κ (opening settings)) = .ok value := by
      rw [hopening]
      exact h
    obtain ⟨component, hrestore, hcell⟩ := RecordKeeper.restore_of_recovered hrecovered now
    exact ⟨component, hrestore, by rw [hcell]⟩

instance : Tenant Vault (Vector Slot slotCount) VaultOpening where
  owns id := id.index < slotCount
  opening := id
  Admits opening := opening.schedule.Valid
  AtHome _ := True
  kept := Vault.slots
  Has medium slots := ∀ index : SlotIndex, Slot.recovered medium index = .ok (slots.get index)
  atHome_restore _ := trivial
  atHome_lasts := Session.lasts_true
  load_execute {μ _ _ vault} _ id hid now command room := by
    refine Vault.load_execute_of_ne (fun index _ heq => hid ?_) vault now room
    rw [heq]
    exact index.isLt
  has_of_synced _ hsynced := hsynced
  has_congr hload h index :=
    (Persistent.recovered_congr _ (hload index.record index.isLt _)).symm.trans (h index)
  restore_of_has h now _ hvalid := Vault.restore_of_recovered h now hvalid _

instance : Tenant LockController Locks (ReleaseAuthority × Severity) :=
  .ofKeeper LockController.defaultRecord
    (fun settings => ⟨settings.1, LockController.defaultRecord, settings.2⟩) (fun _ => rfl)
    fun _ _ => rfl

instance : Tenant MeasuredBoot BootState Severity :=
  .ofKeeper MeasuredBoot.defaultRecord (fun least => ⟨MeasuredBoot.defaultRecord, least⟩)
    (fun _ => rfl) fun _ _ => rfl

instance : Tenant Scratchpad ScratchImage Severity :=
  .ofKeeper Scratchpad.defaultRecord (fun least => ⟨Scratchpad.defaultRecord, least⟩)
    (fun _ => rfl) fun _ _ => rfl

/-! ## Visits -/

/-- What can happen while a component is open. -/
inductive Service (γ μ : Type) [Medium μ] where
  | wait (instant : Instant)
  | command (command : γ)
  | befall (accident : Accident μ)

def Service.step {ω γ μ : Type} [Medium μ] : Service γ μ → SessionStep ω γ μ
  | .wait instant => .wait instant
  | .command order => .command order
  | .befall accident => .befall accident

/-- What is left when a component is closed: the clock, the medium, and what the component kept, if
it could be opened. -/
structure Closing (μ σ : Type) where
  clock : SteppedClock
  medium : μ
  kept? : Option σ

namespace Session

variable {κ : Type → Type} {σ τ ω γ ξ μ : Type} [Component κ ω γ ξ] [Tenant κ σ τ] [Medium μ]

/-- The session in which a tenant is opened once. -/
def visit (medium : μ) (clock : SteppedClock) (settings : τ) (services : List (Service γ μ)) :
    Session κ γ μ :=
  .after medium clock (.reopen (Tenant.opening κ settings) :: services.map Service.step)

def close (session : Session κ γ μ) : Closing μ σ :=
  ⟨session.clock, session.medium, session.component?.map Tenant.kept⟩

/-- If no component is open after a service, none was before, and no image has changed. -/
theorem load_of_shut_step {session : Session κ γ μ} {service : Service γ μ}
    (h : (session.step service.step).component? = none) :
    session.component? = none ∧
      ∀ id room, Medium.load (session.step service.step).medium id room =
        Medium.load session.medium id room := by
  obtain ⟨clock, bench, past⟩ := session
  cases bench with
  | shut medium =>
    cases service with
    | wait | command => exact ⟨rfl, fun _ _ => rfl⟩
    | befall accident => exact ⟨rfl, accident.load_befall medium⟩
  | opened component => cases service <;> cases h

theorem load_of_shut {session : Session κ γ μ} (services : List (Service γ μ))
    (h : ((services.map Service.step).foldl step session).component? = none) :
    session.component? = none ∧
      ∀ id room, Medium.load ((services.map Service.step).foldl step session).medium id room =
        Medium.load session.medium id room := by
  induction services generalizing session with
  | nil => exact ⟨h, fun _ _ => rfl⟩
  | cons service rest ih =>
    obtain ⟨hshut, hrest⟩ := ih h
    obtain ⟨hbefore, hservice⟩ := load_of_shut_step hshut
    exact ⟨hbefore, fun id room => (hrest id room).trans (hservice id room)⟩

/-- A visit in which the tenant could not be opened changes no image. -/
theorem load_visit_of_shut {medium : μ} {clock : SteppedClock} {settings : τ}
    {services : List (Service γ μ)}
    (h : (visit medium clock settings services : Session κ γ μ).component? = none)
    (id : RecordId) (room : Nat) :
    Medium.load (visit medium clock settings services : Session κ γ μ).medium id room =
      Medium.load medium id room := by
  obtain ⟨hshut, hservices⟩ := load_of_shut services h
  refine (hservices id room).trans ?_
  cases hrestore : (Component.restore medium clock.now (Tenant.opening κ settings) :
      Except Refusal (κ μ)) with
  | ok component =>
    rw [step_reopen (start medium clock) hrestore] at hshut
    cases hshut
  | error refusal => rw [step_reopen_refused (start medium clock) hrestore]; rfl

/-- A tenant opens with the state that the medium has. -/
theorem visit_of_has {medium : μ} {state : σ} (h : Tenant.Has κ medium state)
    (clock : SteppedClock) {settings : τ} (hadmits : Tenant.Admits κ settings) :
    (visit medium clock settings [] : Session κ γ μ).close.kept? = some state := by
  obtain ⟨component, hrestore, hkept⟩ := Tenant.restore_of_has h clock.now hadmits
  have hopened : (visit medium clock settings [] : Session κ γ μ) =
      ⟨clock, .opened component, []⟩ := step_reopen (start medium clock) hrestore
  rw [hopened, ← hkept]
  rfl

theorem opens_visit (settings : τ) (services : List (Service γ μ)) :
    ∀ step ∈ .reopen (Tenant.opening κ settings) :: services.map Service.step,
      Opens (Tenant.AtHome : κ μ → Prop) step := by
  intro step hstep
  rcases List.mem_cons.mp hstep with rfl | hservice
  · exact fun _ _ _ hrestore => Tenant.atHome_restore hrestore
  · obtain ⟨service, -, rfl⟩ := List.mem_map.mp hservice
    cases service <;> trivial

variable [LawfulMedium μ]

/-- A visit leaves the images of all records as they are that are not the tenant's own. -/
theorem load_visit_of_not_owned (medium : μ) (clock : SteppedClock) (settings : τ)
    (services : List (Service γ μ)) {id : RecordId} (hid : ¬ Tenant.owns κ id) (room : Nat) :
    Medium.load (visit medium clock settings services : Session κ γ μ).medium id room =
      Medium.load medium id room := by
  refine (run_tells (fun found => Medium.load found id room)
    (fun _ image => image = Medium.load medium id room)
    (fun accident found => accident.load_befall found id room) Tenant.atHome_lasts ?_ rfl clock
    (opens_visit settings services)).2
  intro past deed hhome _ _ h
  exact (Tenant.load_execute hhome hid deed.instant deed.command room).trans h

/-- When a tenant is closed, the medium has what it keeps. -/
theorem has_visit {medium : μ} {clock : SteppedClock} {settings : τ}
    {services : List (Service γ μ)} {component : κ μ}
    (h : (visit medium clock settings services : Session κ γ μ).component? = some component) :
    Tenant.Has κ (visit medium clock settings services : Session κ γ μ).medium
      (Tenant.kept component) := by
  -- nothing has to be told of the medium, only that the tenant stays at home
  obtain ⟨horderly, -⟩ := run_tells (fun _ : μ => ()) (fun _ _ => True) (fun _ _ => rfl)
    Tenant.atHome_lasts (fun _ _ _ _ _ _ => trivial) trivial clock
    (opens_visit (κ := κ) settings services)
  obtain ⟨hhome, hsynced⟩ := horderly component (component?_eq_some.mp h)
  have hmedium := medium_of_component? h
  rw [hmedium]
  exact Tenant.has_of_synced hhome hsynced

/-- What a session with a tenant leaves: the images of foreign records as they were, in its own
records what it kept, and if it could not be opened no change at all. -/
theorem close_visit (medium : μ) (clock : SteppedClock) (settings : τ)
    (services : List (Service γ μ)) :
    let closing := (visit medium clock settings services : Session κ γ μ).close
    (∀ id, ¬ Tenant.owns κ id → ∀ room,
      Medium.load closing.medium id room = Medium.load medium id room) ∧
    (∀ state, closing.kept? = some state → Tenant.Has κ closing.medium state) ∧
    (closing.kept? = none → ∀ id room,
      Medium.load closing.medium id room = Medium.load medium id room) := by
  refine ⟨fun id hid room => ?_, fun state hstate => ?_, fun hnone id room => ?_⟩
  · exact load_visit_of_not_owned medium clock settings services hid room
  · obtain ⟨component, hcomponent, rfl⟩ := Option.map_eq_some_iff.mp hstate
    exact has_visit hcomponent
  · exact load_visit_of_shut (Option.map_eq_none_iff.mp hnone) id room

end Session

/-! ## The parts of the element -/

/-- The components that share the medium of the element. -/
inductive Part where
  | vault
  | locks
  | boot
  | scratchpad
deriving DecidableEq

namespace Part

/-- What a part keeps. -/
abbrev State : Part → Type
  | vault => Vector Slot slotCount
  | locks => Locks
  | boot => BootState
  | scratchpad => ScratchImage

/-- What a part is opened with. -/
abbrev Settings : Part → Type
  | vault => VaultOpening
  | locks => ReleaseAuthority × Severity
  | boot | scratchpad => Severity

abbrev Command : Part → Type
  | vault => VaultCommand
  | locks => LockOrder
  | boot => BootCommand
  | scratchpad => ScratchOrder

/-- The records of a part: the first 64 are those of the slots, and the others follow. -/
def owns : Part → RecordId → Prop
  | vault, id => id.index < slotCount
  | locks, id => id = LockController.defaultRecord
  | boot, id => id = MeasuredBoot.defaultRecord
  | scratchpad, id => id = Scratchpad.defaultRecord

/-- The settings that a part can be opened with. -/
def Admits : (part : Part) → part.Settings → Prop
  | vault, opening => opening.schedule.Valid
  | locks, _ | boot, _ | scratchpad, _ => True

theorem number_of_owns {part : Part} {id : RecordId} (h : part.owns id) :
    (part = vault ∧ id.index < 64) ∨ (part = locks ∧ id.index = 64) ∨
      (part = boot ∧ id.index = 65) ∨ (part = scratchpad ∧ id.index = 66) := by
  cases part with
  | vault => exact Or.inl ⟨rfl, h⟩
  | locks => exact Or.inr (Or.inl ⟨rfl, congrArg RecordId.index h⟩)
  | boot => exact Or.inr (Or.inr (Or.inl ⟨rfl, congrArg RecordId.index h⟩))
  | scratchpad => exact Or.inr (Or.inr (Or.inr ⟨rfl, congrArg RecordId.index h⟩))

/-- No two parts have a record in common. -/
theorem eq_of_owns {part other : Part} {id : RecordId} (h : part.owns id) (h' : other.owns id) :
    part = other := by
  rcases number_of_owns h with ⟨rfl, hid⟩ | ⟨rfl, hid⟩ | ⟨rfl, hid⟩ | ⟨rfl, hid⟩ <;>
    rcases number_of_owns h' with ⟨rfl, hid'⟩ | ⟨rfl, hid'⟩ | ⟨rfl, hid'⟩ | ⟨rfl, hid'⟩ <;>
      first | rfl | omega

variable {μ : Type} [Medium μ]

/-- A session with a part, from opening it to closing it. -/
def visit (medium : μ) (clock : SteppedClock) : (part : Part) → part.Settings →
    List (Service part.Command μ) → Closing μ part.State
  | vault, settings, services => (Session.visit medium clock settings services :
      VaultSession μ).close
  | locks, settings, services => (Session.visit medium clock settings services :
      LockSession μ).close
  | boot, settings, services => (Session.visit medium clock settings services :
      BootSession μ).close
  | scratchpad, settings, services => (Session.visit medium clock settings services :
      ScratchSession μ).close

/-- A medium has what a part keeps. -/
def Has (medium : μ) : (part : Part) → part.State → Prop
  | vault, state => Tenant.Has Vault medium state
  | locks, state => Tenant.Has LockController medium state
  | boot, state => Tenant.Has MeasuredBoot medium state
  | scratchpad, state => Tenant.Has Scratchpad medium state

theorem has_congr {part : Part} {state : part.State} {first second : μ}
    (hload : ∀ id, part.owns id → ∀ room, Medium.load first id room = Medium.load second id room)
    (h : part.Has first state) : part.Has second state := by
  cases part <;> exact Tenant.has_congr hload h

/-- A part opens with the state that the medium has. -/
theorem visit_of_has {part : Part} {state : part.State} {medium : μ} (h : part.Has medium state)
    (clock : SteppedClock) {settings : part.Settings} (hadmits : part.Admits settings) :
    (part.visit medium clock settings []).kept? = some state := by
  cases part <;> exact Session.visit_of_has h clock hadmits

/-- What a session with a part leaves, as for every tenant. -/
theorem visit_spec [LawfulMedium μ] (part : Part) (medium : μ) (clock : SteppedClock)
    (settings : part.Settings) (services : List (Service part.Command μ)) :
    let closing := part.visit medium clock settings services
    (∀ id, ¬ part.owns id → ∀ room,
      Medium.load closing.medium id room = Medium.load medium id room) ∧
    (∀ state, closing.kept? = some state → part.Has closing.medium state) ∧
    (closing.kept? = none → ∀ id room,
      Medium.load closing.medium id room = Medium.load medium id room) := by
  cases part with
  | vault => exact Session.close_visit (κ := Vault) medium clock settings services
  | locks => exact Session.close_visit (κ := LockController) medium clock settings services
  | boot => exact Session.close_visit (κ := MeasuredBoot) medium clock settings services
  | scratchpad => exact Session.close_visit (κ := Scratchpad) medium clock settings services

end Part

/-! ## Sharing -/

/-- A session with one of the parts. -/
structure Visit (μ : Type) [Medium μ] where
  part : Part
  settings : part.Settings
  services : List (Service part.Command μ)

/-- The medium that the parts share, and what each of them kept when it was closed last. -/
structure Premises (μ : Type) where
  clock : SteppedClock
  medium : μ
  closed : (part : Part) → Option part.State

namespace Premises

variable {μ : Type} [Medium μ]

/-- The premises after a session with one of the parts.  If the part could not be opened, then what
it kept is still what it kept before. -/
def host (premises : Premises μ) (visit : Visit μ) : Premises μ :=
  let closing := visit.part.visit premises.medium premises.clock visit.settings visit.services
  { clock := closing.clock
    medium := closing.medium
    closed :=
      match closing.kept? with
      | some state => Function.update premises.closed visit.part (some state)
      | none => premises.closed }

/-- The premises after sessions with the parts, on a medium that no part was opened on before. -/
def after (medium : μ) (clock : SteppedClock) (visits : List (Visit μ)) : Premises μ :=
  visits.foldl host ⟨clock, medium, fun _ => none⟩

/-- The medium has what each part kept when it was closed last. -/
def Kept (premises : Premises μ) : Prop :=
  ∀ part state, premises.closed part = some state → part.Has premises.medium state

variable [LawfulMedium μ]

/-- Whichever part is opened, what each of them kept stays on the medium. -/
theorem kept_host {premises : Premises μ} (h : premises.Kept) (visit : Visit μ) :
    (premises.host visit).Kept := by
  obtain ⟨part, settings, services⟩ := visit
  obtain ⟨hforeign, hown, hunopened⟩ :=
    part.visit_spec premises.medium premises.clock settings services
  intro other state hstate
  have hmedium : (premises.host ⟨part, settings, services⟩).medium =
      (part.visit premises.medium premises.clock settings services).medium := rfl
  rw [hmedium]
  simp only [host] at hstate
  cases hkept : (part.visit premises.medium premises.clock settings services).kept? with
  | none =>
    -- the part could not be opened, so nothing has changed
    rw [hkept] at hstate
    exact Part.has_congr (fun id _ room => (hunopened hkept id room).symm) (h other state hstate)
  | some kept =>
    rw [hkept] at hstate
    replace hstate : Function.update premises.closed part (some kept) other = some state := hstate
    by_cases hother : other = part
    · subst hother
      rw [Function.update_self] at hstate
      cases hstate
      exact hown state hkept
    · rw [Function.update_of_ne hother] at hstate
      -- the records of the other part are foreign to this one
      refine Part.has_congr (fun id hid room => ?_) (h other state hstate)
      exact (hforeign id (fun howns => hother (Part.eq_of_owns hid howns)) room).symm

theorem kept_after (medium : μ) (clock : SteppedClock) (visits : List (Visit μ)) :
    (after medium clock visits).Kept := by
  refine List.foldlRecOn visits host (motive := Kept) ?_ ?_
  · intro part state hstate
    cases hstate
  · intro premises h visit _
    exact kept_host h visit

/-- Parts that share one medium do not disturb each other.  No command of the vault, of the locks, of
the measured boot or of the scratchpad changes the image of a record that is not its own, whether or
not its commits take effect, and no two parts have a record in common; so neither does a session with
one of them, from opening it to closing it.  Whatever sessions with the parts there were, in any order
and on whatever medium they began: a part that is opened with settings that it admits has exactly
what it had when it was closed last. -/
theorem parts_undisturbed :
    (Tenant.Confined Vault μ ∧ Tenant.Confined LockController μ ∧ Tenant.Confined MeasuredBoot μ ∧
      Tenant.Confined Scratchpad μ) ∧
    (∀ (part other : Part) id, part.owns id → other.owns id → part = other) ∧
    (∀ (premises : Premises μ) (visit : Visit μ) id, ¬ visit.part.owns id → ∀ room,
      Medium.load (premises.host visit).medium id room = Medium.load premises.medium id room) ∧
    ∀ (medium : μ) (clock : SteppedClock) (visits : List (Visit μ)) (part : Part) state,
      (after medium clock visits).closed part = some state →
        ∀ (now : SteppedClock) (settings : part.Settings), part.Admits settings →
          (part.visit (after medium clock visits).medium now settings []).kept? = some state := by
  refine ⟨⟨?_, ?_, ?_, ?_⟩, fun _ _ _ => Part.eq_of_owns, ?_, ?_⟩
  · exact fun _ hhome _ hid => Tenant.load_execute hhome hid
  · exact fun _ hhome _ hid => Tenant.load_execute hhome hid
  · exact fun _ hhome _ hid => Tenant.load_execute hhome hid
  · exact fun _ hhome _ hid => Tenant.load_execute hhome hid
  · intro premises visit id hid room
    exact (visit.part.visit_spec premises.medium premises.clock visit.settings
      visit.services).1 id hid room
  · intro medium clock visits part state hclosed now settings hadmits
    exact Part.visit_of_has (kept_after medium clock visits part state hclosed) now hadmits

/-- A value is deposited, the device is bound, a register is extended, and the scratchpad is read and
closed; the commits run out in two of the sessions, and the vault is once opened in vain. -/
def neighbours : List (Visit (RamMedium 67 200)) :=
  [⟨.vault, ⟨{}, .standard⟩,
      [.command (.write 3 (List.replicate 16 7) (List.replicate 16 9)),
        .befall (RamMedium.shortage 0), .command .eraseAll]⟩,
    ⟨.locks, (⟨⟨8, fun _ _ => .ok ()⟩, .strict⟩, .standard),
      [.befall RamMedium.relief, .command ⟨.factory, .set 0x02 true [0x2A] .os⟩]⟩,
    ⟨.vault, ⟨{ doublingEvery := 0 }, .standard⟩, [.command .eraseAll]⟩,
    ⟨.boot, .standard,
      [.befall (RamMedium.shortage 1), .command (.extend 1 (List.replicate 32 7)),
        .command (.reset .bootloader)]⟩,
    ⟨.scratchpad, .standard, [.command ⟨.os, 0, [1, 2]⟩]⟩]

/-- The vault and the locks have afterwards what they had when they were closed. -/
theorem parts_undisturbed_neighbours :
    ∃ slots locks, (after .empty {} neighbours).closed .vault = some slots ∧
      (after .empty {} neighbours).closed .locks = some locks ∧
      slots.get ⟨3, by decide⟩ = .holding (.fill 16 7) (.fill 16 9) ∧
      locks = ⟨0x02, .zero, Sha256.hash [0x2A]⟩ ∧
      (Part.vault.visit (after .empty {} neighbours).medium {} ⟨{}, .standard⟩ []).kept? =
        some slots ∧
      (Part.locks.visit (after .empty {} neighbours).medium {}
        (⟨⟨8, fun _ _ => .ok ()⟩, .strict⟩, .standard) []).kept? = some locks := by
  obtain ⟨-, -, -, hreopened⟩ := parts_undisturbed (μ := RamMedium 67 200)
  have hvault : ((after .empty {} neighbours).closed .vault).map
      (fun slots : Vector Slot slotCount => slots.get ⟨3, by decide⟩) =
        some (.holding (.fill 16 7) (.fill 16 9)) := by
    decide +kernel
  have hlocks : (after .empty {} neighbours).closed .locks =
      some (⟨0x02, .zero, Sha256.hash [0x2A]⟩ : Locks) := by
    decide +kernel
  have hvalid : (⟨{}, .standard⟩ : VaultOpening).schedule.Valid := by decide
  obtain ⟨slots, hslots, hthree⟩ := Option.map_eq_some_iff.mp hvault
  refine ⟨slots, _, hslots, hlocks, hthree, rfl, ?_, ?_⟩
  · exact hreopened .empty {} neighbours .vault slots hslots {} ⟨{}, .standard⟩ hvalid
  · exact hreopened .empty {} neighbours .locks _ hlocks {} _ trivial

end Premises

end SecureElement
