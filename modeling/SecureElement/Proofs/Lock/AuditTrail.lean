/-
  SecureElement.Proofs.Lock.AuditTrail

  What the lock controller's journal tells of the calls to it.  `LockNews` is all that an entry may
  say about a call: what it was about, how it went and the mask afterwards; there is no payload, no
  nonce and no digest in it.  Every call, whichever way it ends, leaves one note, the note of its
  news (`LockController.journal_execute`), and every such note fits into an entry.  So the journal
  has the newest entries of the trail of all calls (`LockSession.trail_complete`).
-/
import SecureElement.Proofs.Audit.Journal
import SecureElement.Proofs.Lock.Session

namespace SecureElement

/-! ## News -/

/-- What a call to the lock controller is about. -/
inductive LockSubject where
  /-- A lock is to be set or cleared that is named by its number, if the number names one. -/
  | numbered (raw : UInt8) (enable : Bool)
  | named (lock : Lock) (enable : Bool)
  | selfTest
deriving DecidableEq

def LockCommand.subject : LockCommand → LockSubject
  | .set raw enable _ _ => .numbered raw enable
  | .apply request => .named request.lock request.enable
  | .selfTest _ _ _ => .selfTest

/-- What the journal may tell of a call. -/
structure LockNews where
  subject : LockSubject
  refusal? : Option Refusal
  /-- The mask after the call. -/
  mask : UInt8
deriving DecidableEq

namespace LockNews

/-- How severe the news is: refusals are warnings. -/
def severity (news : LockNews) : Severity :=
  match news.refusal? with
  | none => .info
  | some _ => .warn

/-- The event of a call about a lock. -/
def switchEvent (news : LockNews) (lock : Lock) (enable : Bool) : LockEvent :=
  match news.refusal? with
  | none => .changed lock enable news.mask
  | some refusal => .refused lock enable refusal

def event (news : LockNews) : LockEvent :=
  match news.subject with
  | .numbered raw enable =>
    match Lock.ofRaw raw with
    | .ok lock => news.switchEvent lock enable
    | .error _ => .unknownLock raw
  | .named lock enable => news.switchEvent lock enable
  | .selfTest =>
    match news.refusal? with
    | none => .testPassed
    | some refusal => .testRefused refusal

/-- What the entry of the news says. -/
def reading (news : LockNews) (stamp : Nat) : AuditReading :=
  ⟨news.severity, stamp, "lock", news.event.note.text⟩

example : reading ⟨.numbered 0x04 true, some .notAllowed, 0x03⟩ 7 =
    ⟨.warn, 7, "lock", "device-lock enable rejected: [0x6985] conditions not satisfied"⟩ := by
  decide

end LockNews

/-! ## Room for the notes -/

theorem Lock.utf8ByteSize_name_le (lock : Lock) : lock.name.utf8ByteSize ≤ 12 := by
  cases lock <;> decide

theorem LockEvent.utf8ByteSize_action_le (enable : Bool) : (action enable).utf8ByteSize ≤ 7 := by
  cases enable <;> decide

/-- Whatever the lock controller writes down is written down whole. -/
theorem LockEvent.fits_note (event : LockEvent) : event.note.Fits := by
  have hlimit : Message.limit = 128 := rfl
  unfold AuditNote.Fits AuditNote.text
  cases event with
  | opened mask =>
    have hmask := Text.utf8ByteSize_upperHex_byte_le mask
    have htext : "opened, mask=0x".utf8ByteSize = 15 := by decide
    simp only [note, Text.utf8ByteSize_join_cons, Text.utf8ByteSize_join_nil, htext]
    omega
  | unknownLock raw =>
    have hraw := Text.utf8ByteSize_upperHex_byte_le raw
    have hbefore : "selector 0x".utf8ByteSize = 11 := by decide
    have hafter : " rejected".utf8ByteSize = 9 := by decide
    simp only [note, Text.utf8ByteSize_join_cons, Text.utf8ByteSize_join_nil, hbefore, hafter]
    omega
  | changed lock enable mask =>
    have hmask := Text.utf8ByteSize_upperHex_byte_le mask
    have hname := lock.utf8ByteSize_name_le
    have haction := utf8ByteSize_action_le enable
    have hspace : " ".utf8ByteSize = 1 := by decide
    have htext : ", mask=0x".utf8ByteSize = 9 := by decide
    simp only [note, Text.utf8ByteSize_join_cons, Text.utf8ByteSize_join_nil, hspace, htext]
    omega
  | refused lock enable refusal =>
    have hmessage := refusal.utf8ByteSize_message_le
    have hname := lock.utf8ByteSize_name_le
    have haction := utf8ByteSize_action_le enable
    have hspace : " ".utf8ByteSize = 1 := by decide
    have htext : " rejected: ".utf8ByteSize = 11 := by decide
    simp only [note, Text.utf8ByteSize_join_cons, Text.utf8ByteSize_join_nil, hspace, htext]
    omega
  | testPassed =>
    have htext : "test vector verified".utf8ByteSize = 20 := by decide
    simp only [note, Text.utf8ByteSize_join_cons, Text.utf8ByteSize_join_nil, htext]
    omega
  | testRefused refusal =>
    have hmessage := refusal.utf8ByteSize_message_le
    have htext : "test vector rejected: ".utf8ByteSize = 22 := by decide
    simp only [note, Text.utf8ByteSize_join_cons, Text.utf8ByteSize_join_nil, htext]
    omega

/-! ## Calls -/

namespace LockRequest

theorem lock_ofLock (lock : Lock) (enable : Bool) (payload : Bytes) (caller : Caller) :
    (ofLock lock enable payload caller).lock = lock := by
  cases lock <;> rfl

theorem enable_ofLock (lock : Lock) (enable : Bool) (payload : Bytes) (caller : Caller) :
    (ofLock lock enable payload caller).enable = enable := by
  cases lock <;> rfl

end LockRequest

namespace LockController

variable {μ : Type} [Medium μ]

/-- What may be told of a command: its subject, how it went, and the mask afterwards. -/
def news (controller : LockController μ) (stage : LifecycleStage) (command : LockCommand) :
    LockNews where
  subject := command.subject
  refusal? :=
    match (controller.execute stage command).1 with
    | .ok _ => none
    | .error refusal => some refusal
  mask := (controller.execute stage command).2.locks.mask

/-- A request goes on in one of two ways, and either way its outcome is all that is noted. -/
theorem apply_eq (controller : LockController μ) (stage : LifecycleStage)
    (request : LockRequest) :
    ∃ result cell, controller.apply stage request =
      (result, record { controller with cell } (outcome request cell.value result)) := by
  rcases controller.change_cases stage request with
    ⟨change, cell, -, -, hchange⟩ | ⟨refusal, hchange, -⟩
  · refine ⟨.ok (), cell, ?_⟩
    rw [apply, hchange]
    rfl
  · refine ⟨.error refusal, controller.cell, ?_⟩
    rw [apply, hchange]
    rfl

theorem journal_apply (controller : LockController μ) (stage : LifecycleStage)
    (request : LockRequest) :
    (controller.execute stage (.apply request)).2.journal =
        controller.journal.record (controller.news stage (.apply request)).event.note ∧
      (controller.news stage (.apply request)).event.note.severity =
        (controller.news stage (.apply request)).severity := by
  obtain ⟨result, cell, happly⟩ := controller.apply_eq stage request
  have hexecute : controller.execute stage (.apply request) =
      (result.map fun _ => none,
        record { controller with cell } (outcome request cell.value result)) := by
    rw [execute, happly]
    rfl
  simp only [news, hexecute]
  cases result <;> exact ⟨rfl, rfl⟩

/-- The news of a command that names a lock by its number is that of the request for the lock. -/
theorem news_set (controller : LockController μ) (stage : LifecycleStage) {raw : UInt8}
    {lock : Lock} (hraw : Lock.ofRaw raw = .ok lock) (enable : Bool) (payload : Bytes)
    (caller : Caller) :
    (controller.news stage (.set raw enable payload caller)).event =
        (controller.news stage (.apply (.ofLock lock enable payload caller))).event ∧
      (controller.news stage (.set raw enable payload caller)).severity =
        (controller.news stage (.apply (.ofLock lock enable payload caller))).severity := by
  have hexecute := controller.execute_set stage hraw enable payload caller
  have hnews : controller.news stage (.set raw enable payload caller) =
      { controller.news stage (.apply (.ofLock lock enable payload caller)) with
        subject := .numbered raw enable } := by
    simp only [news, hexecute]
    rfl
  refine ⟨?_, by rw [hnews]; rfl⟩
  rw [hnews]
  simp only [LockNews.event, hraw, news, LockCommand.subject, LockRequest.lock_ofLock,
    LockRequest.enable_ofLock]
  rfl

/-- Every command is noted once, by its news and by nothing else. -/
theorem journal_execute (controller : LockController μ) (stage : LifecycleStage)
    (command : LockCommand) :
    (controller.execute stage command).2.journal =
        controller.journal.record (controller.news stage command).event.note ∧
      (controller.news stage command).event.note.severity =
        (controller.news stage command).severity := by
  cases command with
  | set raw enable payload caller =>
    rcases ofRaw_cases raw with ⟨lock, -, hraw⟩ | ⟨-, refusal, hraw⟩
    · obtain ⟨hevent, hseverity⟩ := controller.news_set stage hraw enable payload caller
      rw [hevent, hseverity, controller.execute_set stage hraw]
      exact controller.journal_apply stage _
    · have hexecute : controller.execute stage (.set raw enable payload caller) =
          (.error refusal, controller.record (.unknownLock raw)) := by
        rw [execute, controller.set_unknown stage hraw]
        rfl
      simp only [news, hexecute, LockNews.event, LockCommand.subject, hraw]
      exact ⟨rfl, rfl⟩
  | apply request => exact controller.journal_apply stage request
  | selfTest last binding token =>
    simp only [news, execute, selfTest]
    cases controller.authority.selfTest last binding token <;> exact ⟨rfl, rfl⟩

end LockController

/-! ## The trail -/

def LockDeed.news {μ : Type} [Medium μ] (deed : LockDeed μ) : LockNews :=
  deed.before.news deed.command.stage deed.command.command

/-- What the entries of a controller's life say: that it was opened, with this mask, and then the
news of every command.  The past has the latest command first, the trail has it last. -/
def LockSession.trail {μ : Type} [Medium μ] (mask : UInt8) (past : List (LockDeed μ)) :
    List AuditReading :=
  (LockEvent.opened mask).note.reading "lock" 1 ::
    past.reverse.mapIdx fun index deed => deed.news.reading (index + 2)

namespace LockSession

variable {μ : Type} [Medium μ]

theorem length_trail (mask : UInt8) (past : List (LockDeed μ)) :
    (trail mask past).length = past.length + 1 := by
  rw [trail, List.length_cons, List.length_mapIdx, List.length_reverse]

theorem trail_cons (mask : UInt8) (deed : LockDeed μ) (past : List (LockDeed μ)) :
    trail mask (deed :: past) = trail mask past ++ [deed.news.reading (past.length + 2)] := by
  rw [trail, trail, List.reverse_cons, List.mapIdx_concat, List.length_reverse, List.cons_append]

/-- A log that keeps information keeps the whole trail. -/
theorem passes_trail {mask : UInt8} {past : List (LockDeed μ)} {reading : AuditReading}
    (h : reading ∈ trail mask past) {least : Severity}
    (hleast : least = .info ∨ least = .debug ∨ least = .trace) :
    reading.severity.passes least = true := by
  have hseverity : reading.severity = .info ∨ reading.severity = .warn := by
    rcases List.mem_cons.mp h with rfl | hdeed
    · exact Or.inl rfl
    · obtain ⟨index, hindex, rfl⟩ := List.mem_mapIdx.mp hdeed
      show LockNews.severity _ = _ ∨ LockNews.severity _ = _
      unfold LockNews.severity
      split
      · exact Or.inl rfl
      · exact Or.inr rfl
  rcases hseverity with h | h <;> rcases hleast with rfl | rfl | rfl <;> rw [h] <;> rfl

/-- A command adds its news to what the journal tells. -/
theorem tells_after {least : Severity} {mask : UInt8} {past : List (LockDeed μ)}
    {deed : LockDeed μ} (h : deed.before.journal.Tells "lock" least (trail mask past))
    (hcount : (deed :: past).length + 1 < UInt64.size) :
    deed.after.journal.Tells "lock" least (trail mask (deed :: past)) := by
  obtain ⟨hjournal, hseverity⟩ :=
    deed.before.journal_execute deed.command.stage deed.command.command
  have hafter : deed.after.journal = deed.before.journal.record deed.news.event.note := hjournal
  have hreading : deed.news.event.note.reading "lock" (past.length + 2) =
      deed.news.reading (past.length + 2) := by
    rw [AuditNote.reading, LockNews.reading]
    exact congrArg (AuditReading.mk · _ _ _) hseverity
  have hnumber : past.length + 2 = (trail mask past).length + 1 := by
    rw [length_trail]
  rw [hafter, trail_cons, ← hreading, hnumber]
  exact h.record deed.news.event.fits_note (by rwa [length_trail])

/-- A controller that was just opened tells of that. -/
theorem tells_opened (authority : ReleaseAuthority) (least : Severity) (cell : RecordCell μ Locks) :
    (LockController.opened authority least cell).journal.Tells "lock" least
      (trail cell.value.mask ([] : List (LockDeed μ))) :=
  (Journal.tells_create "lock" least).record (LockEvent.opened cell.value.mask).fits_note
    (by decide)

/-- A controller that is opened and then stays open has every command in its past, and its journal
tells of all of them, as long as the count does not wrap around. -/
theorem tells_run {medium : μ} {opening : LockOpening} {locks : Locks}
    (hrecovered : Persistent.recovered Locks.initial medium opening.id = .ok locks)
    (clock : SteppedClock) {steps : List (LockStep μ)}
    (hopen : ∀ step ∈ steps, Session.KeepsOpen step) :
    let session : LockSession μ := .after medium clock (.reopen opening :: steps)
    session.past.reverse.map Deed.command = steps.filterMap Session.command? ∧
      ∃ controller, session.bench = .opened controller ∧
        (session.past.length + 1 < UInt64.size →
          controller.journal.Tells "lock" opening.least (trail locks.mask session.past)) := by
  intro session
  let first : LockController μ :=
    .opened opening.authority opening.least ⟨medium, opening.id, locks⟩
  have hrestore : Component.restore medium clock.now opening = .ok first := by
    show LockController.restore medium opening.authority opening.id opening.least = _
    rw [LockController.restore_eq, RecordCell.restore_of_recovered hrecovered]
    rfl
  have hstep : (Session.start medium clock).step (.reopen opening) = ⟨clock, .opened first, []⟩ :=
    Session.step_reopen _ hrestore
  let tells (past : List (LockDeed μ)) (controller : LockController μ) : Prop :=
    past.length + 1 < UInt64.size →
      controller.journal.Tells "lock" opening.least (trail locks.mask past)
  have hdeed : ∀ past (deed : LockDeed μ), tells past deed.before →
      tells (deed :: past) deed.after := by
    intro past deed h hlength
    exact tells_after (h (Nat.lt_of_succ_lt hlength)) hlength
  have hfirst : (⟨clock, .opened first, []⟩ : LockSession μ).bench = .opened first := rfl
  obtain ⟨hcalled, controller, hbench, htells⟩ := Session.run_opened hdeed (fun _ _ _ h => h)
    hfirst (fun _ => tells_opened opening.authority opening.least _) hopen
  have hsession : session = steps.foldl Session.step ⟨clock, .opened first, []⟩ := by
    show (steps.foldl Session.step ((Session.start medium clock).step (.reopen opening))) = _
    rw [hstep]
  rw [← hsession, List.map_nil, List.append_nil] at hcalled
  rw [← hsession] at hbench htells
  refine ⟨?_, controller, hbench, htells⟩
  rw [List.map_reverse, hcalled, List.reverse_reverse]

/-- The audit trail of a lock controller.  It is opened on a medium that has locks for it, or none,
and then used without being opened again: commands at any stage, waits and accidents of the medium,
in any order.  Then its past has exactly the commands that were given, and its log holds, oldest
first, the newest entries of the trail that are severe enough for it: the opening with the number
one, and for every command one entry with the next number, informative if the command was carried
out and a warning if it was refused, with the whole text of its news. -/
theorem trail_complete {medium : μ} {opening : LockOpening} {locks : Locks}
    (hrecovered : Persistent.recovered Locks.initial medium opening.id = .ok locks)
    (clock : SteppedClock) {steps : List (LockStep μ)}
    (hopen : ∀ step ∈ steps, Session.KeepsOpen step)
    (hcount : (steps.filterMap Session.command?).length < UInt64.size - 1) :
    let session : LockSession μ := .after medium clock (.reopen opening :: steps)
    ∃ controller, session.component? = some controller ∧
      session.past.reverse.map Deed.command = steps.filterMap Session.command? ∧
      controller.journal.log.cursor.toList.map AuditEntry.reading =
        ((trail locks.mask session.past).filter fun reading =>
          reading.severity.passes opening.least).rtake 32 ∧
      (opening.least = .info ∨ opening.least = .debug ∨ opening.least = .trace →
        controller.journal.log.cursor.toList.map AuditEntry.reading =
          (trail locks.mask session.past).rtake 32) := by
  intro session
  obtain ⟨hcommands, controller, hbench, htells⟩ := tells_run hrecovered clock hopen
  have hlength : session.past.length = (steps.filterMap Session.command?).length := by
    rw [← hcommands, List.length_map, List.length_reverse]
  have hlimit : session.past.length + 1 < UInt64.size := by
    omega
  have hlog : controller.journal.log.cursor.toList.map AuditEntry.reading =
      ((trail locks.mask session.past).filter fun reading =>
        reading.severity.passes opening.least).rtake 32 := by
    have hwalk : controller.journal.log.cursor.toList = controller.journal.log.toList :=
      Ring.toList_cursor _
    rw [hwalk]
    exact (htells hlimit).entries
  refine ⟨controller, Session.component?_eq_some.mpr hbench, hcommands, hlog, fun hleast => ?_⟩
  rw [hlog, List.filter_eq_self.mpr fun reading hreading => passes_trail hreading hleast]

/-- The device is provisioned, locking it fails for want of a commit, the boot lock is set, and then
a number that names no lock is tried until the log is full. -/
def crowded : List (LockStep (RamMedium 65 45)) :=
  [.command ⟨.factory, .set 0x01 true [] .os⟩, .befall (RamMedium.shortage 0),
    .command ⟨.production, .apply (.device true .os)⟩, .befall RamMedium.relief, .wait ⟨7⟩,
    .command ⟨.production, .set 0x08 true [] .bootloader⟩] ++
      List.replicate 30 (.command ⟨.production, .set 0x10 true [] .os⟩)

/-- The log has given up the opening and the first command; the rest is there in order. -/
theorem trail_complete_crowded :
    let opening : LockOpening := ⟨⟨⟨1, fun _ _ => .ok ()⟩, .strict⟩, ⟨64⟩, .debug⟩
    ∃ controller, (Session.after (.empty : RamMedium 65 45) {} (.reopen opening :: crowded) :
        LockSession (RamMedium 65 45)).component? = some controller ∧
      (controller.journal.log.cursor.toList.map fun entry => (entry.severity, entry.stamp.toNat)) =
        (.warn, 3) :: (.info, 4) :: (List.range' 5 30).map fun stamp => (.warn, stamp) := by
  intro opening
  have hrecovered : Persistent.recovered Locks.initial (.empty : RamMedium 65 45) opening.id =
      .ok Locks.initial := by
    decide +kernel
  obtain ⟨controller, hcontroller, -, -, hall⟩ := trail_complete hrecovered {}
    (by decide : ∀ step ∈ crowded, Session.KeepsOpen step) (by decide)
  refine ⟨controller, hcontroller, ?_⟩
  have hread : (controller.journal.log.cursor.toList.map fun entry =>
      (entry.severity, entry.stamp.toNat)) =
        (controller.journal.log.cursor.toList.map AuditEntry.reading).map fun reading =>
          (reading.severity, reading.stamp) := by
    rw [List.map_map]
    rfl
  rw [hread, hall (Or.inr (Or.inl rfl))]
  decide +kernel

end LockSession

end SecureElement
