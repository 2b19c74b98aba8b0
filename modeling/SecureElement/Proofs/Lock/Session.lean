/-
  SecureElement.Proofs.Lock.Session

  The lock controller as a component with sessions.  `LockController.execute_cases` says what any of
  its commands can do: carry out the request that it makes, as that was planned, or leave the locks
  and the medium as they are.  Every state that is planned can be stored and read back, so the locks
  in memory are always those that the medium has.
-/
import SecureElement.Lock.Command
import SecureElement.Proofs.Lock.Transition
import SecureElement.Proofs.Record.Keeper
import SecureElement.Proofs.Record.Payload

namespace SecureElement

/-! ## Masks that can be stored -/

theorem Lock.Switched.and_not_fullMask {lock : Lock} {enable : Bool} {before after : UInt8}
    (h : lock.Switched enable before after) (hbefore : before &&& ~~~fullMask = 0) :
    after &&& ~~~fullMask = 0 := by
  -- the lock's bit lies inside the full mask, so it plays no part outside
  have hinside : ~~~fullMask = ~~~lock.bit &&& ~~~fullMask := by
    cases lock <;> rfl
  rw [hinside, ← UInt8.and_assoc] at hbefore ⊢
  rw [h.rest]
  exact hbefore

namespace LockRequest

/-- Every request is the one of a command that names its lock. -/
theorem exists_ofLock (request : LockRequest) :
    ∃ lock enable payload caller, request = ofLock lock enable payload caller := by
  cases request with
  | provision enable caller => exact ⟨.provision, enable, [], caller, rfl⟩
  | carrier enable payload => exact ⟨.carrier, enable, payload, .os, rfl⟩
  | device enable caller => exact ⟨.device, enable, [], caller, rfl⟩
  | boot enable caller => exact ⟨.boot, enable, [], caller, rfl⟩

end LockRequest

namespace Locks

theorem inDomain_initial : initial.InDomain := by
  rfl

/-- Every transition keeps the mask in its domain. -/
theorem Transition.inDomain {authority : ReleaseAuthority} {stage : LifecycleStage}
    {before after : Locks} {lock : Lock} {enable : Bool} {payload : Bytes} {caller : Caller}
    (h : before.Transition authority stage lock enable payload caller (some after))
    (hbefore : before.InDomain) : after.InDomain := by
  cases h with
  | reset => exact inDomain_initial
  | provision _ _ _ _ hafter => exact hafter.mask.and_not_fullMask hbefore
  | bind _ _ _ _ _ hmask => exact hmask.and_not_fullMask hbefore
  | release _ _ _ _ _ _ hmask => exact hmask.and_not_fullMask hbefore
  | device _ _ _ _ hafter => exact hafter.mask.and_not_fullMask hbefore
  | boot _ _ _ _ _ hafter => exact hafter.mask.and_not_fullMask hbefore

theorem inDomain_plan {locks next : Locks} {authority : ReleaseAuthority}
    {stage : LifecycleStage} {request : LockRequest} (hlocks : locks.InDomain)
    (hplan : locks.plan authority stage request = .ok (some next)) : next.InDomain := by
  obtain ⟨lock, enable, payload, caller, rfl⟩ := request.exists_ofLock
  exact ((plan_iff _ _ _ _ _ _ _ _).mp hplan).inDomain hlocks

theorem inDomain_of_recovered {μ : Type} [Medium μ] {medium : μ} {id : RecordId} {locks : Locks}
    (h : Persistent.recovered initial medium id = .ok locks) : locks.InDomain := by
  rcases Persistent.decode_of_recovered h with rfl | ⟨block, hblock⟩
  · exact inDomain_initial
  · exact inDomain_of_decode hblock

end Locks

/-! ## Commands -/

/-- The request that a command makes, if it makes one. -/
def LockCommand.request? : LockCommand → Option LockRequest
  | .set raw enable payload caller =>
    match Lock.ofRaw raw with
    | .ok lock => some (.ofLock lock enable payload caller)
    | .error _ => none
  | .apply request => some request
  | .selfTest _ _ _ => none

namespace LockController

variable {μ : Type} [Medium μ]

/-- A command that names a lock is carried out as the request for it. -/
theorem execute_set (controller : LockController μ) (stage : LifecycleStage) {raw : UInt8}
    {lock : Lock} (hraw : Lock.ofRaw raw = .ok lock) (enable : Bool) (payload : Bytes)
    (caller : Caller) :
    controller.execute stage (.set raw enable payload caller) =
      controller.execute stage (.apply (.ofLock lock enable payload caller)) := by
  have hset := controller.set_eq_apply stage hraw enable payload caller
  rw [execute, execute, hset]

/-- A request is carried out as it was planned, or it leaves the locks and the medium as they are
and fails. -/
theorem execute_apply_cases (controller : LockController μ) (stage : LifecycleStage)
    (request : LockRequest) :
    (controller.execute stage (.apply request)).2.authority = controller.authority ∧
    ((∃ change, controller.locks.plan controller.authority stage request = .ok change ∧
        controller.cell.Committed change (controller.execute stage (.apply request)).2.cell ∧
        (controller.execute stage (.apply request)).1.isOk = true) ∨
      ((controller.execute stage (.apply request)).2.cell = controller.cell ∧
        (controller.execute stage (.apply request)).1.isOk = false)) := by
  have hafter : (controller.execute stage (.apply request)).2 =
      (controller.apply stage request).2 := rfl
  have hreply : (controller.execute stage (.apply request)).1 =
      (controller.apply stage request).1.map fun _ => none := rfl
  rw [hafter, hreply]
  obtain ⟨hauthority, hcases⟩ := controller.apply_cases stage request
  refine ⟨hauthority, ?_⟩
  rcases hcases with ⟨change, hplan, hcommitted, hok⟩ | ⟨⟨refusal, herror⟩, hcell, -⟩
  · refine Or.inl ⟨change, hplan, hcommitted, ?_⟩
    rw [hok]
    rfl
  · refine Or.inr ⟨hcell, ?_⟩
    rw [herror]
    rfl

omit [Medium μ] in
/-- A self test leaves nothing but an entry in the journal. -/
theorem cell_selfTest (controller : LockController μ) (last binding token : Bytes) :
    (controller.selfTest last binding token).2.cell = controller.cell ∧
      (controller.selfTest last binding token).2.authority = controller.authority := by
  unfold LockController.selfTest
  split <;> exact ⟨rfl, rfl⟩

/-- A command carries out its request as it was planned, or it leaves the locks and the medium as
they are and does not succeed with a request.  The authority never changes. -/
theorem execute_cases (controller : LockController μ) (stage : LifecycleStage)
    (command : LockCommand) :
    (controller.execute stage command).2.authority = controller.authority ∧
    ((∃ request change, command.request? = some request ∧
        controller.locks.plan controller.authority stage request = .ok change ∧
        controller.cell.Committed change (controller.execute stage command).2.cell ∧
        (controller.execute stage command).1.isOk = true) ∨
      ((controller.execute stage command).2.cell = controller.cell ∧
        (command.request? = none ∨ (controller.execute stage command).1.isOk = false))) := by
  cases command with
  | set raw enable payload caller =>
    rcases ofRaw_cases raw with ⟨lock, -, hraw⟩ | ⟨-, refusal, hraw⟩
    · have hmade : LockCommand.request? (.set raw enable payload caller) =
          some (.ofLock lock enable payload caller) := by
        rw [LockCommand.request?, hraw]
      rw [execute_set controller stage hraw, hmade]
      obtain ⟨hauthority, hcases⟩ :=
        controller.execute_apply_cases stage (.ofLock lock enable payload caller)
      refine ⟨hauthority, ?_⟩
      rcases hcases with ⟨change, hplan, hcommitted, hok⟩ | ⟨hcell, herror⟩
      · exact Or.inl ⟨_, change, rfl, hplan, hcommitted, hok⟩
      · exact Or.inr ⟨hcell, Or.inr herror⟩
    · -- the number names no lock, so no request is made
      have hset := controller.set_unknown stage hraw enable payload caller
      have hafter : (controller.execute stage (.set raw enable payload caller)).2 =
          controller.record (.unknownLock raw) := congrArg Prod.snd hset
      have hmade : LockCommand.request? (.set raw enable payload caller) = none := by
        rw [LockCommand.request?, hraw]
      rw [hafter, hmade]
      exact ⟨rfl, Or.inr ⟨rfl, Or.inl rfl⟩⟩
  | apply request =>
    obtain ⟨hauthority, hcases⟩ := controller.execute_apply_cases stage request
    refine ⟨hauthority, ?_⟩
    rcases hcases with ⟨change, hplan, hcommitted, hok⟩ | ⟨hcell, herror⟩
    · exact Or.inl ⟨request, change, rfl, hplan, hcommitted, hok⟩
    · exact Or.inr ⟨hcell, Or.inr herror⟩
  | selfTest last binding token =>
    obtain ⟨hcell, hauthority⟩ := controller.cell_selfTest last binding token
    exact ⟨hauthority, Or.inr ⟨hcell, Or.inl rfl⟩⟩

/-- A command is carried out with one commit to the controller's record or none, or it is refused
without any. -/
theorem attempted_execute (controller : LockController μ) (stage : LifecycleStage)
    (command : LockCommand) :
    controller.cell.Attempted (controller.execute stage command).1
      (controller.execute stage command).2.cell := by
  obtain ⟨-, hcases⟩ := controller.execute_cases stage command
  cases hreply : (controller.execute stage command).1 with
  | ok reply =>
    rcases hcases with ⟨request, change, -, -, hcommitted, -⟩ | ⟨hcell, -⟩
    · exact .carriedOut reply change _ hcommitted
    · rw [hcell]
      exact .carriedOut reply none _ .unchanged
  | error refusal =>
    rcases hcases with ⟨request, change, -, -, -, hok⟩ | ⟨hcell, -⟩
    · rw [hreply] at hok
      cases hok
    · rw [hcell]
      exact .refused refusal

/-- The locks in memory are the ones that the medium has. -/
def Synced (controller : LockController μ) : Prop :=
  controller.cell.Synced Locks.initial

/-- The controller that is opened with the cell of its record. -/
def opened (authority : ReleaseAuthority) (least : Severity) (cell : RecordCell μ Locks) :
    LockController μ :=
  record ⟨cell, authority, .create "lock" least⟩ (.opened cell.value.mask)

theorem restore_eq (medium : μ) (authority : ReleaseAuthority) (id : RecordId)
    (least : Severity) : restore medium authority id least =
      (RecordCell.restore medium id Locks.initial).map (opened authority least) := by
  rw [restore]
  cases RecordCell.restore medium id Locks.initial <;> rfl

/-- A controller that is restored has the medium's locks, under the authority that it was given. -/
theorem of_restore {medium : μ} {authority : ReleaseAuthority} {id : RecordId} {least : Severity}
    {controller : LockController μ} (h : restore medium authority id least = .ok controller) :
    controller.cell.medium = medium ∧ controller.authority = authority ∧ controller.Synced := by
  rw [restore_eq] at h
  obtain ⟨cell, rfl, hmedium, hsynced⟩ := RecordCell.of_map_restore h
  exact ⟨hmedium, rfl, hsynced⟩

theorem synced_execute [LawfulMedium μ] {controller : LockController μ} (h : controller.Synced)
    (stage : LifecycleStage) (command : LockCommand) :
    (controller.execute stage command).2.Synced := by
  have hdomain : controller.locks.InDomain := Locks.inDomain_of_recovered h
  rcases (controller.execute_cases stage command).2 with
    ⟨request, change, -, hplan, hcommitted, -⟩ | ⟨hcell, -⟩
  · -- what was planned has a mask in its domain, so its payload holds it
    refine RecordCell.synced_committed h hcommitted fun value hvalue => ?_
    rw [Option.mem_def.mp hvalue] at hplan
    exact Locks.decode_encode (Locks.inDomain_plan hdomain hplan)
  · unfold Synced
    rw [hcell]
    exact h

end LockController

/-! ## The lock controller as a component -/

/-- What a lock controller is opened with. -/
structure LockOpening where
  authority : ReleaseAuthority
  id : RecordId := LockController.defaultRecord
  least : Severity := .standard

/-- A command to a lock controller, at the stage that the device is in. -/
structure LockOrder where
  stage : LifecycleStage
  command : LockCommand

instance : Component LockController LockOpening LockOrder (Except Refusal (Option Nonce)) where
  medium controller := controller.cell.medium
  onMedium controller medium := { controller with cell := { controller.cell with medium } }
  restore medium _ opening :=
    LockController.restore medium opening.authority opening.id opening.least
  execute controller _ order := controller.execute order.stage order.command
  Synced := LockController.Synced
  medium_onMedium _ _ := rfl
  of_restore h := ⟨(LockController.of_restore h).1, (LockController.of_restore h).2.2⟩
  synced_execute h _ order := LockController.synced_execute h order.stage order.command
  synced_befall h accident := RecordCell.synced_befall h accident

instance : RecordKeeper LockController Locks LockOpening LockOrder (Option Nonce) where
  cell := LockController.cell
  initial := Locks.initial
  record := LockOpening.id
  opened opening := LockController.opened opening.authority opening.least
  medium_eq _ := rfl
  synced_iff _ := Iff.rfl
  cell_opened _ _ := rfl
  restore_eq medium _ opening :=
    LockController.restore_eq medium opening.authority opening.id opening.least
  attempted_execute controller _ order := controller.attempted_execute order.stage order.command

abbrev LockDeed :=
  Deed LockController LockOrder

abbrev LockStep (μ : Type) [Medium μ] :=
  SessionStep LockOpening LockOrder μ

abbrev LockSession :=
  Session LockController LockOrder

/-! ## What the past tells of a record -/

/-- What the past tells of the locks of a record: if every command on that record carries it from
the locks before to the locks after, and commands on other records leave it, it holds throughout a
session of the locks that the medium has and of those in memory. -/
theorem LockSession.tells_locks {μ : Type} [Medium μ] [LawfulMedium μ]
    {allowed : LockController μ → Prop} (hlasts : Session.Lasts LockController μ allowed)
    {id : RecordId} (tells : List (LockDeed μ) → Except MediumError Locks → Prop)
    (hdeed : ∀ past (deed : LockDeed μ), allowed deed.before → deed.before.cell.id = id →
      tells past (.ok deed.before.locks) → tells (deed :: past) (.ok deed.after.locks))
    (hother : ∀ past (deed : LockDeed μ) found, deed.before.cell.id ≠ id →
      tells past found → tells (deed :: past) found)
    {medium : μ} (hstart : tells [] (Persistent.recovered Locks.initial medium id))
    (clock : SteppedClock) {steps : List (LockStep μ)}
    (hsteps : ∀ step ∈ steps, Session.Opens allowed step) :
    let session : LockSession μ := .after medium clock steps
    tells session.past (Persistent.recovered Locks.initial session.medium id) ∧
      ∀ controller, session.component? = some controller → controller.cell.id = id →
        tells session.past (.ok controller.locks) :=
  RecordKeeper.tells_value hlasts tells hdeed hother hstart clock hsteps

end SecureElement
