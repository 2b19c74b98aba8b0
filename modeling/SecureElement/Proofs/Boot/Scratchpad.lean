/-
  SecureElement.Proofs.Boot.Scratchpad

  The scratchpad as an array of bytes.  Every address holds the byte that was written there last:
  `ScratchOrder.lastByte` says which one that is by going back through the writes that were carried
  out, and `ScratchSession.last_write_wins` that a load finds it after any session, whatever failed
  or was restarted meanwhile.  `Scratchpad.Guarded` lists which writes are carried out and how the
  others are refused.
-/
import SecureElement.Proofs.Boot.Session

namespace SecureElement

/-! ## Bytes under a patch -/

/-- A patch is found where it was laid, and the other bytes are as they were. -/
theorem Bytes.getElem?_overwrite {data patch : Bytes} {offset : Nat}
    (h : offset + patch.length ≤ data.length) (address : Nat) :
    (data.overwrite offset patch)[address]? =
      if offset ≤ address ∧ address < offset + patch.length then patch[address - offset]?
      else data[address]? := by
  have htake : (data.take offset).length = offset := by
    rw [List.length_take]
    omega
  rw [overwrite]
  by_cases hbefore : address < offset
  · rw [if_neg (by omega), List.getElem?_append_left (by omega),
      List.getElem?_take_of_lt hbefore]
  · rw [List.getElem?_append_right (by omega), htake]
    by_cases hinside : address < offset + patch.length
    · rw [if_pos (by omega), List.getElem?_append_left (by omega)]
    · rw [if_neg (by omega), List.getElem?_append_right (by omega), List.getElem?_drop]
      congr 1
      omega

/-! ## What was written -/

namespace ScratchOrder

/-- The byte that an order writes at an address, if the address is among those it covers. -/
def byteAt? (order : ScratchOrder) (address : Nat) : Option UInt8 :=
  if order.offset.toNat ≤ address then order.data[address - order.offset.toNat]? else none

/-- The byte that was written last at an address, or zero if none was; `done` has the latest order
first. -/
def lastByte (done : List ScratchOrder) (address : Nat) : UInt8 :=
  (done.findSome? fun order => order.byteAt? address).getD 0

theorem byteAt?_of_covers {order : ScratchOrder} {address : Nat}
    (hstart : order.offset.toNat ≤ address)
    (hend : address - order.offset.toNat < order.data.length) :
    order.byteAt? address = some order.data[address - order.offset.toNat] := by
  rw [byteAt?, if_pos hstart, List.getElem?_eq_getElem]

theorem byteAt?_of_not_covers {order : ScratchOrder} {address : Nat}
    (h : ¬ (order.offset.toNat ≤ address ∧ address < order.offset.toNat + order.data.length)) :
    order.byteAt? address = none := by
  rw [byteAt?]
  by_cases hstart : order.offset.toNat ≤ address
  · rw [if_pos hstart, List.getElem?_eq_none (by omega)]
  · rw [if_neg hstart]

/-- What an order that is carried out makes of the byte that was written last. -/
theorem lastByte_cons (order : ScratchOrder) (done : List ScratchOrder) (address : Nat) :
    lastByte (order :: done) address = (order.byteAt? address).getD (lastByte done address) := by
  rw [lastByte, List.findSome?_cons]
  cases order.byteAt? address <;> rfl

end ScratchOrder

open ScratchOrder

/-- Every address of the contents has the byte that was written there last. -/
def ScratchImage.Told (done : List ScratchOrder) (image : ScratchImage) : Prop :=
  ∀ address < scratchSize, image.block.bytes[address]? = some (lastByte done address)

theorem ScratchImage.told_initial : initial.Told [] := by
  intro address haddress
  show (List.replicate scratchSize (0 : UInt8))[address]? = some 0
  rw [List.getElem?_replicate, if_pos haddress]

/-- Bytes that are written at an offset are told of from then on. -/
theorem ScratchImage.Told.overwrite {done : List ScratchOrder} {image : ScratchImage}
    (h : image.Told done) (order : ScratchOrder)
    (hend : order.offset.toNat + order.data.length ≤ scratchSize) :
    (ScratchImage.mk (image.block.overwrite order.offset.toNat order.data hend)).Told
      (order :: done) := by
  intro address haddress
  have hlength : order.offset.toNat + order.data.length ≤ image.block.bytes.length := by
    rw [image.block.length_bytes]
    exact hend
  show (image.block.bytes.overwrite order.offset.toNat order.data)[address]? = _
  rw [Bytes.getElem?_overwrite hlength, lastByte_cons]
  by_cases hcovers : order.offset.toNat ≤ address ∧
      address < order.offset.toNat + order.data.length
  · have hinside : address - order.offset.toNat < order.data.length := by
      omega
    rw [if_pos hcovers, byteAt?_of_covers hcovers.1 hinside, List.getElem?_eq_getElem hinside]
    rfl
  · rw [if_neg hcovers, byteAt?_of_not_covers hcovers, h address haddress]
    rfl

/-! ## Writes -/

namespace Scratchpad

variable {μ : Type} [Medium μ]

theorem planStore_unauthorised (image : ScratchImage) {caller : Caller}
    (hcaller : caller ≠ .bootloader) (offset : UInt16) (data : Bytes) :
    planStore image caller offset data = .error .notAuthorised := by
  cases caller with
  | bootloader => exact absurd rfl hcaller
  | os => rfl

theorem planStore_outside (image : ScratchImage) {offset : UInt16}
    (hstart : scratchSize ≤ offset.toNat) (data : Bytes) :
    planStore image .bootloader offset data = .error .outOfBounds :=
  if_pos hstart

theorem planStore_overlong (image : ScratchImage) {offset : UInt16} {data : Bytes}
    (hstart : offset.toNat < scratchSize) (hend : scratchSize < offset.toNat + data.length) :
    planStore image .bootloader offset data = .error .malformed :=
  (if_neg (Nat.not_le.mpr hstart)).trans (dif_neg (Nat.not_le.mpr hend))

theorem planStore_within (image : ScratchImage) {offset : UInt16} {data : Bytes}
    (hstart : offset.toNat < scratchSize) (hend : offset.toNat + data.length ≤ scratchSize) :
    planStore image .bootloader offset data =
      .ok ⟨image.block.overwrite offset.toNat data hend⟩ :=
  (if_neg (Nat.not_le.mpr hstart)).trans (dif_pos hend)

/-- What is planned lies inside the scratchpad, and the bootloader asked for it. -/
theorem of_planStore {image next : ScratchImage} {caller : Caller} {offset : UInt16} {data : Bytes}
    (h : planStore image caller offset data = .ok next) :
    caller = .bootloader ∧ offset.toNat < scratchSize ∧
      ∃ hend : offset.toNat + data.length ≤ scratchSize,
        next = .mk (image.block.overwrite offset.toNat data hend) := by
  by_cases hcaller : caller = .bootloader
  · subst hcaller
    by_cases hstart : offset.toNat < scratchSize
    · by_cases hend : offset.toNat + data.length ≤ scratchSize
      · rw [planStore_within image hstart hend] at h
        exact ⟨rfl, hstart, hend, (Except.ok.inj h).symm⟩
      · rw [planStore_overlong image hstart (Nat.not_le.mp hend)] at h
        cases h
    · rw [planStore_outside image (Nat.not_lt.mp hstart)] at h
      cases h
  · rw [planStore_unauthorised image hcaller] at h
    cases h

/-- A write that cannot be planned is refused for the reason that the plan gives. -/
theorem store_refused {pad : Scratchpad μ} {caller : Caller} {offset : UInt16} {data : Bytes}
    {refusal : Refusal} (hplan : planStore pad.image caller offset data = .error refusal) :
    (pad.store caller offset data).1 = .error refusal := by
  rw [store, change, hplan]

/-- A write that is planned goes as its commit does. -/
theorem store_planned {pad : Scratchpad μ} {caller : Caller} {offset : UInt16} {data : Bytes}
    {next : ScratchImage} (hplan : planStore pad.image caller offset data = .ok next) :
    (∃ medium, Persistent.save pad.cell.medium pad.cell.id next = .ok medium ∧
      (pad.store caller offset data).1 = .ok () ∧
      (pad.store caller offset data).2.cell = ⟨medium, pad.cell.id, next⟩) ∨
    (∃ error, Persistent.save pad.cell.medium pad.cell.id next = .error error ∧
      (pad.store caller offset data).1 = .error error.toRefusal) := by
  rw [store, change, hplan]
  rcases pad.cell.replace_cases next with ⟨medium, hsave, heq⟩ | ⟨error, hsave, heq⟩
  · refine Or.inl ⟨medium, hsave, ?_, ?_⟩
    · simp only [heq]
    · simp only [heq]
      rfl
  · refine Or.inr ⟨error, hsave, ?_⟩
    simp only [heq]

/-- A write that is carried out lays its bytes over the contents. -/
theorem of_store {pad : Scratchpad μ} {caller : Caller} {offset : UInt16} {data : Bytes}
    (h : (pad.store caller offset data).1 = .ok ()) :
    caller = .bootloader ∧ offset.toNat < scratchSize ∧
      ∃ (hend : offset.toNat + data.length ≤ scratchSize) (medium : μ),
        Persistent.save pad.cell.medium pad.cell.id
          (ScratchImage.mk (pad.image.block.overwrite offset.toNat data hend)) = .ok medium ∧
        (pad.store caller offset data).2.cell =
          ⟨medium, pad.cell.id, .mk (pad.image.block.overwrite offset.toNat data hend)⟩ := by
  cases hplan : planStore pad.image caller offset data with
  | error refusal =>
    rw [store_refused hplan] at h
    cases h
  | ok next =>
    obtain ⟨hcaller, hstart, hend, rfl⟩ := of_planStore hplan
    rcases store_planned hplan with ⟨medium, hsave, -, hcell⟩ | ⟨error, -, herror⟩
    · exact ⟨hcaller, hstart, hend, medium, hsave, hcell⟩
    · rw [herror] at h
      cases h

theorem id_store (pad : Scratchpad μ) (caller : Caller) (offset : UInt16) (data : Bytes) :
    (pad.store caller offset data).2.cell.id = pad.cell.id := by
  obtain ⟨change, hcommitted⟩ := (pad.attempted_store caller offset data).exists_committed
  exact hcommitted.id_eq

/-- A medium that is large enough and takes every commit takes every write of the bootloader that
begins and ends inside the scratchpad. -/
theorem store_unlimited {records capacity : Nat} {pad : Scratchpad (RamMedium records capacity)}
    (hknown : pad.cell.id.index < records)
    (hcapacity : Persistent.imageSize ScratchImage ≤ capacity)
    (hbudget : pad.cell.medium.budget = none) {offset : UInt16} {data : Bytes}
    (hstart : offset.toNat < scratchSize) (hend : offset.toNat + data.length ≤ scratchSize) :
    (pad.store .bootloader offset data).1 = .ok () ∧
      (pad.store .bootloader offset data).2.cell.medium.budget = none := by
  let next := ScratchImage.mk (pad.image.block.overwrite offset.toNat data hend)
  obtain ⟨after, hsave, hafter⟩ : ∃ after,
      Persistent.save pad.cell.medium pad.cell.id next = .ok after ∧
        after.budget = pad.cell.medium.budget.map (· - 1) :=
    Persistent.save_isOk (Nat.le_refl scratchSize) hknown hcapacity (by rw [hbudget]; exact nofun)
      next
  rcases store_planned (planStore_within pad.image hstart hend) with
    ⟨medium, hsaved, hok, hcell⟩ | ⟨error, herror, -⟩
  · have hmedium : medium = after := Except.ok.inj (hsaved.symm.trans hsave)
    refine ⟨hok, ?_⟩
    rw [hcell, hmedium, hafter, hbudget]
    rfl
  · rw [hsave] at herror
    cases herror

/-- The scratchpad is protected from its callers. -/
structure Guarded (pad : Scratchpad μ) : Prop where
  /-- A write is carried out if and only if the bootloader asks for it, it begins and ends inside the
  scratchpad, and it can be committed. -/
  isOk_iff : ∀ caller offset data, (pad.store caller offset data).1 = .ok () ↔
    caller = .bootloader ∧ offset.toNat < scratchSize ∧
      ∃ (hend : offset.toNat + data.length ≤ scratchSize) (after : μ),
        Persistent.save pad.cell.medium pad.cell.id
          (ScratchImage.mk (pad.image.block.overwrite offset.toNat data hend)) = .ok after
  -- why the others are refused, in the order in which this is checked
  unauthorised : ∀ caller offset data, caller ≠ .bootloader →
    (pad.store caller offset data).1 = .error .notAuthorised
  outside : ∀ offset data, scratchSize ≤ offset.toNat →
    (pad.store .bootloader offset data).1 = .error .outOfBounds
  overlong : ∀ offset data, offset.toNat < scratchSize →
    scratchSize < offset.toNat + data.length →
      (pad.store .bootloader offset data).1 = .error .malformed
  uncommitted : ∀ offset data, offset.toNat < scratchSize →
    ∀ (hend : offset.toNat + data.length ≤ scratchSize) error,
      Persistent.save pad.cell.medium pad.cell.id
        (ScratchImage.mk (pad.image.block.overwrite offset.toNat data hend)) = .error error →
        (pad.store .bootloader offset data).1 = .error error.toRefusal
  /-- A write that is refused changes no byte, neither in memory nor on the medium. -/
  unchanged : ∀ caller offset data refusal, (pad.store caller offset data).1 = .error refusal →
    (pad.store caller offset data).2.cell = pad.cell

theorem guarded (pad : Scratchpad μ) : pad.Guarded where
  isOk_iff caller offset data := by
    constructor
    · intro h
      obtain ⟨hcaller, hstart, hend, medium, hsave, -⟩ := of_store h
      exact ⟨hcaller, hstart, hend, medium, hsave⟩
    · rintro ⟨rfl, hstart, hend, after, hsave⟩
      rcases store_planned (planStore_within pad.image hstart hend) with
        ⟨-, -, hok, -⟩ | ⟨error, herror, -⟩
      · exact hok
      · rw [hsave] at herror
        cases herror
  unauthorised _ offset data hcaller :=
    store_refused (planStore_unauthorised pad.image hcaller offset data)
  outside _ data hstart := store_refused (planStore_outside pad.image hstart data)
  overlong _ _ hstart hend := store_refused (planStore_overlong pad.image hstart hend)
  uncommitted offset data hstart hend error herror := by
    rcases store_planned (planStore_within pad.image hstart hend) with
      ⟨medium, hsave, -⟩ | ⟨found, hfound, hreply⟩
    · rw [hsave] at herror
      cases herror
    · rw [hfound] at herror
      cases herror
      exact hreply
  unchanged caller offset data refusal herror := by
    have hattempted := pad.attempted_store caller offset data
    rw [herror] at hattempted
    exact hattempted.eq_of_error

/-! ## Reads -/

omit [Medium μ] in
/-- A load inside the scratchpad finds the bytes of the contents. -/
theorem loadInto_within (pad : Scratchpad μ) {offset : UInt16} {buffer : Bytes}
    (hstart : offset.toNat < scratchSize) (hend : offset.toNat + buffer.length ≤ scratchSize) :
    pad.loadInto offset buffer =
      (.ok (), (pad.image.block.bytes.drop offset.toNat).take buffer.length) := by
  rw [loadInto, load, if_neg (Nat.not_le.mpr hstart), dif_pos hend]
  rfl

omit [Medium μ] in
theorem loadInto_outside (pad : Scratchpad μ) {offset : UInt16} {buffer : Bytes}
    (h : ¬ (offset.toNat < scratchSize ∧ offset.toNat + buffer.length ≤ scratchSize)) :
    pad.loadInto offset buffer = (.error .outOfBounds, buffer) := by
  rw [loadInto, load]
  by_cases hstart : scratchSize ≤ offset.toNat
  · rw [if_pos hstart]
  · rw [if_neg hstart, dif_neg (by omega)]

end Scratchpad

/-! ## Sessions -/

namespace ScratchSession

variable {μ : Type} [Medium μ] [LawfulMedium μ]

/-- On a medium that began blank, the contents in memory tell what was written. -/
theorem told {medium : μ}
    (hblank : ∀ id image, Medium.load medium id Persistent.maxImageSize ≠ .ok (some image))
    (clock : SteppedClock) (steps : List (ScratchStep μ)) {pad : Scratchpad μ}
    (hpad : (Session.after medium clock steps : ScratchSession μ).component? = some pad) :
    pad.image.Told
      (RecordKeeper.done pad.cell.id (Session.after medium clock steps : ScratchSession μ).past) := by
  refine RecordKeeper.tells_done (κ := Scratchpad) (fun done image => image.Told done) ?_ hpad ?_
  · intro before now order reply done hreply htold
    -- a write that is carried out lays its bytes over what was told before
    obtain ⟨-, -, hend, medium, -, hcell⟩ := Scratchpad.of_store hreply
    have hvalue := congrArg RecordCell.value hcell
    exact hvalue ▸ ScratchImage.Told.overwrite htold order hend
  · intro image himage
    rw [Persistent.eq_of_recovered_blank (hblank pad.cell.id) himage]
    exact ScratchImage.told_initial

/-- The scratchpad is an array of bytes in which the last write wins.  In every session that began
on a blank medium, with whatever failed commits and restarts: a load that begins and ends inside the
scratchpad fills its buffer, each place with the byte of the latest write that was carried out on
the record and covers the address, or with zero if there is none; any other load is out of bounds
and leaves its buffer as it is.  A write is carried out exactly if the bootloader asks for it, it
begins and ends inside the scratchpad and its commit succeeds; it is refused for the first of these
that fails, and then it changes no byte. -/
theorem last_write_wins {medium : μ}
    (hblank : ∀ id image, Medium.load medium id Persistent.maxImageSize ≠ .ok (some image))
    (clock : SteppedClock) (steps : List (ScratchStep μ)) {pad : Scratchpad μ}
    (hpad : (Session.after medium clock steps : ScratchSession μ).component? = some pad) :
    let done := RecordKeeper.done pad.cell.id
      (Session.after medium clock steps : ScratchSession μ).past
    (∀ offset buffer, offset.toNat < scratchSize → offset.toNat + buffer.length ≤ scratchSize →
      ∃ bytes, pad.loadInto offset buffer = (.ok (), bytes) ∧ bytes.length = buffer.length ∧
        ∀ place < buffer.length, bytes[place]? = some (lastByte done (offset.toNat + place))) ∧
    (∀ offset buffer,
      ¬ (offset.toNat < scratchSize ∧ offset.toNat + buffer.length ≤ scratchSize) →
        pad.loadInto offset buffer = (.error .outOfBounds, buffer)) ∧
    pad.Guarded := by
  intro done
  have htold : pad.image.Told done := told hblank clock steps hpad
  refine ⟨?_, fun offset buffer => pad.loadInto_outside, pad.guarded⟩
  intro offset buffer hstart hend
  refine ⟨_, pad.loadInto_within hstart hend, ?_, ?_⟩
  · rw [List.length_take, List.length_drop, pad.image.block.length_bytes]
    omega
  · intro place hplace
    rw [List.getElem?_take_of_lt hplace, List.getElem?_drop]
    exact htold _ (by omega)

/-! ### Writes at the end -/

/-- The scratchpad is open on its record, these orders were carried out, and this many commits are
left. -/
def Stands (session : ScratchSession (RamMedium 67 4100)) (budget : Option Nat)
    (done : List ScratchOrder) : Prop :=
  ∃ pad, session.bench = .opened pad ∧ pad.cell.id = Scratchpad.defaultRecord ∧
    pad.cell.medium.budget = budget ∧
    RecordKeeper.done Scratchpad.defaultRecord session.past = done

namespace Stands

variable {session : ScratchSession (RamMedium 67 4100)} {budget : Option Nat}
  {done : List ScratchOrder}

theorem stored (h : Stands session none done) (order : ScratchOrder)
    (hcaller : order.caller = .bootloader) (hstart : order.offset.toNat < scratchSize)
    (hend : order.offset.toNat + order.data.length ≤ scratchSize) :
    Stands (session.step (.command order)) none (order :: done) := by
  obtain ⟨caller, offset, data⟩ := order
  obtain rfl : caller = .bootloader := hcaller
  obtain ⟨pad, hbench, hid, hbudget, rfl⟩ := h
  obtain ⟨hok, hafter⟩ := Scratchpad.store_unlimited (by rw [hid]; decide) (Nat.le_refl 4100)
    hbudget hstart hend
  rw [Session.step_command session hbench]
  exact ⟨_, rfl, (pad.id_store _ _ _).trans hid, hafter,
    RecordKeeper.done_cons_of_ok _ hid (congrArg Except.isOk hok)⟩

theorem refused (h : Stands session budget done) (order : ScratchOrder)
    (hreason : order.caller ≠ .bootloader ∨
      scratchSize < order.offset.toNat + order.data.length ∨ budget = some 0) :
    Stands (session.step (.command order)) budget done := by
  obtain ⟨pad, hbench, hid, rfl, rfl⟩ := h
  rw [Session.step_command session hbench]
  cases hreply : (pad.store order.caller order.offset order.data).1 with
  | ok reply =>
    -- it would have been checked and committed
    obtain ⟨hcaller, -, hend, medium, hsave, -⟩ := Scratchpad.of_store hreply
    obtain ⟨-, -, hbudget, -⟩ := RamMedium.commit_eq_ok (Persistent.commit_of_save hsave).2
    rcases hreason with hcaller' | hend' | hbudget'
    · exact absurd hcaller hcaller'
    · exact absurd hend (Nat.not_le.mpr hend')
    · exact absurd hbudget' hbudget
  | error refusal =>
    have hcell : (pad.store order.caller order.offset order.data).2.cell = pad.cell :=
      pad.guarded.unchanged _ _ _ _ hreply
    exact ⟨_, rfl, (congrArg RecordCell.id hcell).trans hid,
      congrArg (fun cell => cell.medium.budget) hcell,
      RecordKeeper.done_cons_of_error _ (congrArg Except.isOk hreply)⟩

theorem limited (h : Stands session budget done) (count : Nat) :
    Stands (session.step (.befall (RamMedium.shortage count))) (some count) done := by
  obtain ⟨pad, hbench, hid, -, hdone⟩ := h
  refine ⟨{ pad with cell := { pad.cell with medium := pad.cell.medium.limitCommits count } }, ?_,
    hid, rfl, hdone⟩
  rw [Session.step, Session.medium, hbench]
  rfl

end Stands

/-- A write up to the end of the scratchpad, and one over its first bytes.  Then one that runs past
the end, one by the system and one whose commit fails; and the device restarts. -/
def writesAtTheEnd : List (ScratchStep (RamMedium 67 4100)) :=
  [.reopen ⟨Scratchpad.defaultRecord, .standard⟩, .command ⟨.bootloader, 4092, [1, 2, 3, 4]⟩,
    .command ⟨.bootloader, 4090, [5, 6, 7]⟩, .command ⟨.bootloader, 4094, [8, 8, 8]⟩,
    .command ⟨.os, 4095, [8]⟩, .befall (RamMedium.shortage 0),
    .command ⟨.bootloader, 4095, [8]⟩]

theorem stands_writesAtTheEnd : Stands (.after .empty {} writesAtTheEnd) (some 0)
    [⟨.bootloader, 4090, [5, 6, 7]⟩, ⟨.bootloader, 4092, [1, 2, 3, 4]⟩] := by
  -- the images are too long to be computed, so it is shown of each step what it leaves
  have hopened : Stands (Session.step (.start .empty {})
      (.reopen ⟨Scratchpad.defaultRecord, .standard⟩)) none [] :=
    ⟨⟨⟨.empty, Scratchpad.defaultRecord, .initial⟩, .create "bootstore" .standard⟩, rfl, rfl, rfl,
      rfl⟩
  have hstored := (hopened.stored ⟨.bootloader, 4092, [1, 2, 3, 4]⟩ rfl (by decide)
    (by decide)).stored ⟨.bootloader, 4090, [5, 6, 7]⟩ rfl (by decide) (by decide)
  have hrefused := (hstored.refused ⟨.bootloader, 4094, [8, 8, 8]⟩
    (Or.inr (Or.inl (by decide)))).refused ⟨.os, 4095, [8]⟩ (Or.inl (by decide))
  exact (hrefused.limited 0).refused ⟨.bootloader, 4095, [8]⟩ (Or.inr (Or.inr rfl))

/-- A load up to the end finds what was carried out, and nothing past the end can be read or
written. -/
theorem last_write_wins_at_the_end :
    ∃ pad, (Session.after .empty {} (writesAtTheEnd ++
        [.reopen ⟨Scratchpad.defaultRecord, .standard⟩]) :
          ScratchSession (RamMedium 67 4100)).component? = some pad ∧
      pad.loadInto 4089 (List.replicate 7 0xEE) = (.ok (), [0, 5, 6, 7, 2, 3, 4]) ∧
      pad.loadInto 4095 [0xEE, 0xEE] = (.error .outOfBounds, [0xEE, 0xEE]) ∧
      (pad.store .bootloader 4095 [1, 2]).1 = .error .malformed := by
  obtain ⟨last, hbench, hlastId, -, hdone⟩ := stands_writesAtTheEnd
  have hlast := Session.component?_eq_some.mpr hbench
  -- the medium has what was in memory, so the scratchpad opens on it again
  have hrecovered := RecordKeeper.recovered_of_synced hlast (Session.synced_after _ _ _ hlast)
  have hrecord : RecordKeeper.record Scratchpad ⟨Scratchpad.defaultRecord, .standard⟩ =
      (RecordKeeper.cell last).id := hlastId.symm
  rw [← hrecord] at hrecovered
  obtain ⟨pad, hstep, hcell⟩ := RecordKeeper.step_reopen_of_recovered hrecovered
  have hafter : (Session.after .empty {} (writesAtTheEnd ++
      [.reopen ⟨Scratchpad.defaultRecord, .standard⟩]) :
        ScratchSession (RamMedium 67 4100)) =
      { Session.after .empty {} writesAtTheEnd with bench := .opened pad } := by
    rw [Session.after_concat, hstep]
  have hpad := congrArg Session.component? hafter
  obtain ⟨hload, houtside, hguarded⟩ :=
    last_write_wins (fun id => RamMedium.load_empty_ne id _) {} _ hpad
  have hid : pad.cell.id = Scratchpad.defaultRecord := congrArg RecordCell.id hcell
  rw [hafter, hid, hdone] at hload
  obtain ⟨bytes, hbytes, hlength, hplaces⟩ :=
    hload 4089 (List.replicate 7 0xEE) (by decide) (by decide)
  refine ⟨pad, hpad, ?_, houtside 4095 [0xEE, 0xEE] (by decide),
    hguarded.overlong 4095 [1, 2] (by decide) (by decide)⟩
  have hsame : bytes = [0, 5, 6, 7, 2, 3, 4] := by
    refine List.ext_getElem? fun place => ?_
    by_cases hplace : place < 7
    · rw [hplaces place hplace]
      revert place
      decide
    · rw [List.getElem?_eq_none (by rw [hlength]; simpa using hplace),
        List.getElem?_eq_none (by simpa using hplace)]
  rw [hbytes, hsame]

end ScratchSession

end SecureElement
