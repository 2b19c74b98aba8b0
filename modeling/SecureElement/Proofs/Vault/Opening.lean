/-
  SecureElement.Proofs.Vault.Opening

  When a vault can be opened.  A medium is in order if each of the 64 slot records was never committed
  or has the image of a slot, and exactly these media can be opened.  On any other, the lowest record
  that is not in order decides how the opening is refused, whatever is wrong with the records behind
  it.  `Vault.Holds` and `Vault.Fails` say what one record can be, in bytes.
-/
import SecureElement.Proofs.Audit.Journal
import SecureElement.Proofs.Vault.Recovery

namespace SecureElement

/-! ## Images of slots -/

/-- A field that ends within the first bytes is a field of these bytes. -/
theorem Bytes.take_drop_take (data : Bytes) {start count size : Nat} (h : start + count ≤ size) :
    ((data.take size).drop start).take count = (data.drop start).take count := by
  rw [List.drop_take, List.take_take, Nat.min_eq_left (by omega)]

namespace Slot

/-- An image has 46 bytes, the last four are the checksum of the others, and the failure count is in
range. -/
structure WellFormed (image : Bytes) : Prop where
  length : image.length = 46
  checksum : Bytes.ofLittleEndian (image.drop 42) = (Crc32.checksum (image.take 42)).toNat
  failures : Bytes.ofLittleEndian ((image.drop 32).take 2) ≤ 0x7FFF

/-- The fields of a slot stand in an image, each in its place. -/
structure StandsIn (slot : Slot) (image : Bytes) : Prop where
  key : slot.key.bytes = image.take 16
  value : slot.value.bytes = (image.drop 16).take 16
  failures : slot.failures.toNat = Bytes.ofLittleEndian ((image.drop 32).take 2)
  deadline : slot.deadline.ms.toNat = Bytes.ofLittleEndian ((image.drop 34).take 8)

/-- There is no more to a slot than its fields. -/
theorem StandsIn.unique {slot other : Slot} {image : Bytes} (h : slot.StandsIn image)
    (hother : other.StandsIn image) : slot = other := by
  ext1
  · exact Block.ext (h.key.trans hother.key.symm)
  · exact Block.ext (h.value.trans hother.value.symm)
  · exact UInt16.toNat_inj.mp (h.failures.trans hother.failures.symm)
  · exact Instant.ext (UInt64.toNat_inj.mp (h.deadline.trans hother.deadline.symm))

/-- The fields of a slot stand in front of the checksum. -/
theorem StandsIn.of_take {slot : Slot} {image : Bytes} (h : slot.StandsIn (image.take 42)) :
    slot.StandsIn image where
  key := by rw [h.key, List.take_take]; rfl
  value := by rw [h.value, image.take_drop_take (by decide)]
  failures := by rw [h.failures, Bytes.take_drop_take image (by decide)]
  deadline := by rw [h.deadline, Bytes.take_drop_take image (by decide)]

/-- A payload holds the slot whose fields stand in it, unless the failure count is out of range. -/
theorem decode_cases (payload : Block (Persistent.size Slot)) :
    (Bytes.ofLittleEndian ((payload.bytes.drop 32).take 2) ≤ 0x7FFF ∧
      ∃ slot : Slot, slot.StandsIn payload.bytes ∧ Persistent.decode payload = .ok slot) ∨
    (¬ Bytes.ofLittleEndian ((payload.bytes.drop 32).take 2) ≤ 0x7FFF ∧
      (Persistent.decode payload : Except MediumError Slot) = .error .outOfDomain) := by
  let count : Block 2 := payload.slice 32 2
  let deadline : Block 8 := payload.slice 34 8
  have hcount : (UInt16.ofNat count.toNat).toNat = Bytes.ofLittleEndian count.bytes := by
    have hlt : count.toNat < UInt16.size := count.toNat_lt
    rw [UInt16.toNat_ofNat_of_lt' hlt, Block.toNat]
  have hdeadline : (Instant.ofBlock deadline).ms.toNat = Bytes.ofLittleEndian deadline.bytes := by
    have hlt : deadline.toNat < UInt64.size := deadline.toNat_lt
    rw [Instant.ofBlock, UInt64.toNat_ofNat_of_lt' hlt, Block.toNat]
  have hrange : maxFailures < UInt16.ofNat count.toNat ↔
      ¬ Bytes.ofLittleEndian count.bytes ≤ 0x7FFF := by
    rw [← hcount, Nat.not_le]
    rfl
  by_cases hfailures : Bytes.ofLittleEndian count.bytes ≤ 0x7FFF
  · refine Or.inl ⟨hfailures, ⟨payload.slice 0 16, payload.slice 16 16, .ofNat count.toNat,
      .ofBlock deadline⟩, ⟨rfl, rfl, hcount, hdeadline⟩, ?_⟩
    exact if_neg fun h => hrange.mp h hfailures
  · exact Or.inr ⟨hfailures, if_pos (hrange.mpr hfailures)⟩

/-- An image is taken as the slot whose fields stand in it if it is well formed, and as damaged if it
is not. -/
theorem ofImage_cases (image : Bytes) :
    (WellFormed image ∧
      ∃ slot : Slot, slot.StandsIn image ∧ Persistent.ofImage Slot image = .ok slot) ∨
    (¬ WellFormed image ∧ ∃ error : MediumError,
      Persistent.ofImage Slot image = .error error ∧ error.toRefusal = .recordDamaged) := by
  by_cases hlength : image.length = 46
  · have hsize : (image.take 42).length = 42 := by
      rw [List.length_take, hlength]
      rfl
    let payload : Block (Persistent.size Slot) := ⟨image.take 42, hsize⟩
    have himage : Persistent.ofImage Slot image =
        if Bytes.ofLittleEndian (image.drop 42) = (Crc32.checksum (image.take 42)).toNat then
          Persistent.decode payload
        else
          .error .damaged := dif_pos hlength
    rw [himage]
    by_cases hchecksum :
        Bytes.ofLittleEndian (image.drop 42) = (Crc32.checksum (image.take 42)).toNat
    · have hcount : (payload.bytes.drop 32).take 2 = (image.drop 32).take 2 :=
        Bytes.take_drop_take image (by decide)
      have hpayload := decode_cases payload
      rw [hcount] at hpayload
      rw [if_pos hchecksum]
      rcases hpayload with ⟨hfailures, slot, hslot, hdecode⟩ | ⟨hfailures, hdecode⟩
      · exact Or.inl ⟨⟨hlength, hchecksum, hfailures⟩, slot, hslot.of_take, hdecode⟩
      · exact Or.inr ⟨fun h => hfailures h.failures, .outOfDomain, hdecode, rfl⟩
    · rw [if_neg hchecksum]
      exact Or.inr ⟨fun h => hchecksum h.checksum, .damaged, rfl, rfl⟩
  · have himage : Persistent.ofImage Slot image = .error .damaged := dif_neg hlength
    exact Or.inr ⟨fun h => hlength h.length, .damaged, himage, rfl⟩

end Slot

/-! ## Records of slots -/

namespace Vault

section

variable {μ : Type} [Medium μ] (medium : μ) (index : SlotIndex)

/-- The record of a slot is in order: nothing was ever committed to it, or the image of a slot.  An
image may have 4100 bytes at most to be loaded at all. -/
inductive Holds : Option Slot → Prop where
  | absent (hload : Medium.load medium index.record 4100 = .ok none) : Holds none
  | present (image : Bytes) (slot : Slot)
      (hload : Medium.load medium index.record 4100 = .ok (some image))
      (hform : Slot.WellFormed image) (hslot : slot.StandsIn image) : Holds (some slot)

/-- The record of a slot is not in order, and how an opening is refused for it. -/
inductive Fails : Refusal → Prop where
  | damaged (image : Bytes) (hload : Medium.load medium index.record 4100 = .ok (some image))
      (hform : ¬ Slot.WellFormed image) : Fails .recordDamaged
  | unreadable (hload : Medium.load medium index.record 4100 = .error .unreadable) :
      Fails .recordUnreadable
  | unknownRecord (hload : Medium.load medium index.record 4100 = .error .unknownRecord) :
      Fails .internalFault
  | tooLarge (hload : Medium.load medium index.record 4100 = .error .tooLarge) :
      Fails .internalFault
  /-- The medium gives a reason that is none for a load to fail. -/
  | misreported (error : MediumError)
      (hload : Medium.load medium index.record 4100 = .error error)
      (herror : error = .notCommitted ∨ error = .damaged ∨ error = .outOfDomain) :
      Fails error.toRefusal

variable {medium index}

theorem load_eq : Slot.load medium index =
    (match Medium.load medium index.record 4100 with
      | .error error => .error error
      | .ok none => .ok none
      | .ok (some image) => (Persistent.ofImage Slot image).map some :
        Except MediumError (Option Slot)).mapError MediumError.toRefusal :=
  congrArg (Except.mapError MediumError.toRefusal) (if_neg (by decide))

theorem load_of_error {error : MediumError}
    (h : Medium.load medium index.record 4100 = .error error) :
    Slot.load medium index = .error error.toRefusal := by
  rw [load_eq, h]
  rfl

/-- A record that is in order has its slot loaded. -/
theorem Holds.load {found : Option Slot} (h : Holds medium index found) :
    Slot.load medium index = .ok found := by
  cases h with
  | absent hload =>
    rw [load_eq, hload]
    rfl
  | present image slot hload hform hslot =>
    rcases Slot.ofImage_cases image with ⟨-, other, hother, himage⟩ | ⟨hnot, -⟩
    · simp only [load_eq, hload, himage, hother.unique hslot]
      rfl
    · exact absurd hform hnot

/-- A record that is not in order is refused for what is wrong with it. -/
theorem Fails.load {refusal : Refusal} (h : Fails medium index refusal) :
    Slot.load medium index = .error refusal := by
  cases h with
  | damaged image hload hform =>
    rcases Slot.ofImage_cases image with ⟨hwell, -⟩ | ⟨-, error, himage, hrefusal⟩
    · exact absurd hwell hform
    · simp only [load_eq, hload, himage, ← hrefusal]
      rfl
  | unreadable hload | unknownRecord hload | tooLarge hload => exact load_of_error hload
  | misreported error hload herror => exact load_of_error hload

variable (medium index) in
/-- Every record is in order, or it is not. -/
theorem holds_or_fails :
    (∃ found, Holds medium index found) ∨ ∃ refusal, Fails medium index refusal := by
  cases hload : Medium.load medium index.record 4100 with
  | error error =>
    refine Or.inr ?_
    cases error with
    | unreadable => exact ⟨_, .unreadable hload⟩
    | unknownRecord => exact ⟨_, .unknownRecord hload⟩
    | tooLarge => exact ⟨_, .tooLarge hload⟩
    | notCommitted => exact ⟨_, .misreported _ hload (Or.inl rfl)⟩
    | damaged => exact ⟨_, .misreported _ hload (Or.inr (Or.inl rfl))⟩
    | outOfDomain => exact ⟨_, .misreported _ hload (Or.inr (Or.inr rfl))⟩
  | ok committed =>
    cases committed with
    | none => exact Or.inl ⟨none, .absent hload⟩
    | some image =>
      rcases Slot.ofImage_cases image with ⟨hform, slot, hslot, -⟩ | ⟨hform, -⟩
      · exact Or.inl ⟨some slot, .present image slot hload hform hslot⟩
      · exact Or.inr ⟨.recordDamaged, .damaged image hload hform⟩

theorem load_eq_ok_iff {found : Option Slot} :
    Slot.load medium index = .ok found ↔ Holds medium index found := by
  refine ⟨fun h => ?_, Holds.load⟩
  rcases holds_or_fails medium index with ⟨other, hother⟩ | ⟨refusal, hrefusal⟩
  · rw [hother.load] at h
    exact Except.ok.inj h ▸ hother
  · rw [hrefusal.load] at h
    cases h

theorem load_eq_error_iff {refusal : Refusal} :
    Slot.load medium index = .error refusal ↔ Fails medium index refusal := by
  refine ⟨fun h => ?_, Fails.load⟩
  rcases holds_or_fails medium index with ⟨found, hfound⟩ | ⟨other, hother⟩
  · rw [hfound.load] at h
    cases h
  · rw [hother.load] at h
    exact Except.error.inj h ▸ hother

end

end Vault

/-! ## The table of slots -/

/-- If one of the operations fails, the first that does decides. -/
theorem first_of_ofFnM_eq_error {ε α : Type} {n : Nat} {f : Fin n → Except ε α} {error : ε}
    (h : Vector.ofFnM f = .error error) :
    ∃ i, f i = .error error ∧ ∀ j < i, ∃ element, f j = .ok element := by
  -- by induction on the length: the last element is asked for after all others
  induction n with
  | zero =>
    rw [Vector.ofFnM_zero] at h
    cases h
  | succ n ih =>
    rw [Vector.ofFnM_succ] at h
    cases hfront : Vector.ofFnM fun j : Fin n => f j.castSucc with
    | error first =>
      rw [hfront] at h
      cases h
      obtain ⟨i, hi, hlower⟩ := ih hfront
      refine ⟨i.castSucc, hi, fun j hj => ?_⟩
      have hlt : j.val < n := Nat.lt_trans hj i.isLt
      exact hlower ⟨j.val, hlt⟩ hj
    | ok front =>
      rw [hfront] at h
      replace h : (f (Fin.last n) >>= fun last => pure (front.push last)) = .error error := h
      cases hlast : f (Fin.last n) with
      | ok last =>
        rw [hlast] at h
        cases h
      | error last =>
        rw [hlast] at h
        cases h
        refine ⟨Fin.last n, hlast, fun j hj => ?_⟩
        exact ⟨front[j.val], eq_ok_of_ofFnM hfront ⟨j.val, hj⟩⟩

namespace Vault

variable {μ : Type} [Medium μ]

/-- All slots are found exactly if every record is in order. -/
theorem found_isOk_iff {medium : μ} :
    (∃ table, Vault.found medium = .ok table) ↔ ∀ index, ∃ found, Holds medium index found := by
  constructor
  · rintro ⟨table, htable⟩ index
    exact ⟨_, load_eq_ok_iff.mp (eq_ok_of_ofFnM htable index)⟩
  · intro h
    cases htable : Vault.found medium with
    | ok table => exact ⟨table, rfl⟩
    | error refusal =>
      obtain ⟨index, hrefusal, -⟩ := first_of_ofFnM_eq_error htable
      obtain ⟨found, hfound⟩ := h index
      rw [hfound.load] at hrefusal
      cases hrefusal

/-- The search for slots fails for the lowest record that is not in order. -/
theorem found_eq_error_iff {medium : μ} {refusal : Refusal} :
    Vault.found medium = .error refusal ↔
      ∃ index, Fails medium index refusal ∧ ∀ lower < index, ∃ found, Holds medium lower found := by
  constructor
  · intro h
    obtain ⟨index, hrefusal, hlower⟩ := first_of_ofFnM_eq_error h
    refine ⟨index, load_eq_error_iff.mp hrefusal, fun lower hlt => ?_⟩
    obtain ⟨found, hfound⟩ := hlower lower hlt
    exact ⟨found, load_eq_ok_iff.mp hfound⟩
  · rintro ⟨index, hfails, hlower⟩
    cases htable : Vault.found medium with
    | ok table =>
      have hfound := eq_ok_of_ofFnM htable index
      rw [hfails.load] at hfound
      cases hfound
    | error other =>
      obtain ⟨first, hfirst, hbefore⟩ := first_of_ofFnM_eq_error htable
      -- neither of the two can come before the other
      rcases Nat.lt_trichotomy index.val first.val with hlt | heq | hgt
      · obtain ⟨found, hfound⟩ := hbefore index hlt
        rw [hfails.load] at hfound
        cases hfound
      · obtain rfl : index = first := Fin.ext heq
        rw [Except.error.inj (hfirst.symm.trans hfails.load)]
      · obtain ⟨found, hfound⟩ := hlower first hgt
        rw [hfound.load] at hfirst
        cases hfirst

/-! ## Openings -/

theorem restore_of_not_valid (medium : μ) (now : Instant) {schedule : BackoffSchedule}
    (hvalid : ¬ schedule.Valid) (least : Severity) :
    restore medium now schedule least = .error .malformed := by
  have hvalidate : schedule.validate = .error .malformed := if_neg hvalid
  rw [restore, hvalidate]
  rfl

theorem countP_isSome (table : Vector (Option Slot) slotCount) :
    table.countP Option.isSome = SlotIndex.all.countP fun index => (table.get index).isSome := by
  have htable : table.toList = SlotIndex.all.map table.get := by
    rw [SlotIndex.all, List.finRange, List.map_ofFn]
    refine List.ext_getElem (by simp) fun place _ _ => ?_
    simp [Vector.get]
  rw [← Vector.countP_toList, htable, List.countP_map]
  rfl

/-- The note on an opening fits into an entry. -/
theorem fits_opened {restored : Nat} (h : restored ≤ slotCount) :
    (VaultEvent.opened restored).note.Fits := by
  have hdecimal := Text.utf8ByteSize_decimal_le (.ofNat restored)
  rw [UInt32.toNat_ofNat_of_lt' (Nat.lt_of_le_of_lt h (by decide))] at hdecimal
  have hopened : "opened, ".utf8ByteSize = 8 := by decide
  have hrestored : " slot records restored".utf8ByteSize = 22 := by decide
  show (String.join ["opened, ", Text.decimal restored, " slot records restored"]).utf8ByteSize ≤
    Message.limit
  rw [Text.utf8ByteSize_join_cons, Text.utf8ByteSize_join_cons, Text.utf8ByteSize_join_cons,
    Text.utf8ByteSize_join_nil, hopened, hrestored, Message.limit]
  omega

omit [Medium μ] in
/-- The log of a vault that was just opened says how many slots had a record, if it keeps that at
all. -/
theorem log_asFound (medium : μ) (now : Instant) (schedule : BackoffSchedule) (least : Severity)
    (table : Vector (Option Slot) slotCount) :
    (asFound medium now schedule least table).log.toList.map AuditEntry.reading =
      if Severity.info.passes least then
        [⟨.info, now.ms.toNat, "weaver",
          "opened, " ++ Text.decimal (SlotIndex.all.countP fun index => (table.get index).isSome) ++
            " slot records restored"⟩]
      else [] := by
  let restored := table.countP Option.isSome
  let note := (VaultEvent.opened restored).note
  have htext : (Message.ofParts note.parts).text =
      "opened, " ++ Text.decimal restored ++ " slot records restored" := by
    rw [Message.text_ofParts (fits_opened Vector.countP_le_size)]
    show String.join ["opened, ", Text.decimal restored, " slot records restored"] = _
    rw [String.join_cons, String.join_cons, String.join_cons, String.join_nil, String.append_empty,
      String.append_assoc]
  show ((AuditLog.create least).write ⟨.info, now.ms, "weaver", .ofParts note.parts⟩).toList.map
    AuditEntry.reading = _
  rw [AuditLog.toList_write, ← countP_isSome]
  by_cases hpasses : Severity.info.passes least = true
  · rw [if_pos hpasses, if_pos (show (AuditLog.create least).keeps .info = true from hpasses)]
    show [AuditReading.mk .info now.ms.toNat "weaver" (Message.ofParts note.parts).text] = _
    rw [htext]
  · rw [if_neg hpasses, if_neg (show ¬ (AuditLog.create least).keeps .info = true from hpasses)]
    rfl

/-- Whether a vault can be opened is decided by the schedule first, and then by the records of its slots
in their order.  On every medium, whatever is in its records and whichever of them cannot be loaded, and
for every schedule: the vault is opened if and only if the schedule is valid and each record was never
committed or has the image of a slot, with 46 bytes, the right checksum and a failure count that is in
range.  Each slot is then the one that stands in its record, or erased if there is none, and the log
says how many there are.  The opening is refused as malformed if the schedule is not valid, whatever the
medium would answer, and else for the lowest record that is not in order. -/
theorem restore_decided (medium : μ) (now : Instant) (schedule : BackoffSchedule)
    (least : Severity) :
    ((∃ vault, restore medium now schedule least = .ok vault) ↔
      schedule.Valid ∧ ∀ index, ∃ found, Holds medium index found) ∧
    (∀ vault, restore medium now schedule least = .ok vault →
      vault.medium = medium ∧ vault.schedule = schedule ∧
      ∃ found : SlotIndex → Option Slot,
        (∀ index, Holds medium index (found index) ∧
          vault.slot index = (found index).getD .erased) ∧
        vault.log.toList.map AuditEntry.reading =
          if Severity.info.passes least then
            [⟨.info, now.ms.toNat, "weaver",
              "opened, " ++ Text.decimal (SlotIndex.all.countP fun index => (found index).isSome) ++
                " slot records restored"⟩]
          else []) ∧
    ∀ refusal, restore medium now schedule least = .error refusal ↔
      ¬ schedule.Valid ∧ refusal = .malformed ∨
      schedule.Valid ∧ ∃ index, Fails medium index refusal ∧
        ∀ lower < index, ∃ found, Holds medium lower found := by
  by_cases hvalid : schedule.Valid
  · rw [restore_of_valid medium now hvalid least, ← found_isOk_iff]
    simp only [← found_eq_error_iff, hvalid, true_and, not_true, false_and, false_or]
    cases htable : Vault.found medium with
    | error refusal =>
      refine ⟨iff_of_false nofun nofun, nofun, fun other => ?_⟩
      exact ⟨fun h => by cases h; rfl, fun h => by cases h; rfl⟩
    | ok table =>
      refine ⟨iff_of_true ⟨_, rfl⟩ ⟨_, rfl⟩, ?_, fun refusal => iff_of_false nofun nofun⟩
      intro vault hvault
      cases hvault
      refine ⟨rfl, rfl, table.get, fun index => ⟨?_, ?_⟩, log_asFound medium now schedule least table⟩
      · exact load_eq_ok_iff.mp (eq_ok_of_ofFnM htable index)
      · exact Vector.getElem_map _ _
  · rw [restore_of_not_valid medium now hvalid least]
    refine ⟨iff_of_false nofun fun h => hvalid h.1, nofun, fun refusal => ?_⟩
    constructor
    · intro h
      exact Or.inl ⟨hvalid, (Except.error.inj h).symm⟩
    · rintro (⟨-, rfl⟩ | ⟨h, -⟩)
      · rfl
      · exact absurd h hvalid

/-- A record is opened as it is found: the first has no image, the second one that is too large, and the
third one that is too short. -/
theorem restore_decided_misfilled :
    ∃ medium : RamMedium 64 4101,
      medium.image? ⟨0⟩ = none ∧ medium.image? ⟨1⟩ = some (List.replicate 4101 0) ∧
      medium.image? ⟨2⟩ = some [1, 2, 3] ∧
      (∃ vault, restore (.empty : RamMedium 64 4101) ⟨7⟩ {} = .ok vault) ∧
      restore medium ⟨7⟩ {} = .error .internalFault ∧
      restore medium ⟨7⟩ { doublingEvery := 0 } = .error .malformed := by
  -- The large image is kept under a name: only its length matters, and no step should unfold it.
  obtain ⟨large, hlarge, hlength⟩ : ∃ image : Bytes, List.replicate 4101 0 = image ∧
      image.length = 4101 := ⟨_, rfl, List.length_replicate⟩
  obtain ⟨first, hfirst⟩ : ∃ after,
      (RamMedium.empty : RamMedium 64 4101).commit ⟨1⟩ large = .ok after :=
    RamMedium.commit_isOk (by decide) (Nat.le_of_eq hlength) nofun
  obtain ⟨medium, hmedium⟩ : ∃ after, first.commit ⟨2⟩ [1, 2, 3] = .ok after := by
    refine RamMedium.commit_isOk (by decide) (by decide) ?_
    rw [RamMedium.budget_commit hfirst]
    exact nofun
  have himage (id : RecordId) : medium.image? id =
      if id = ⟨2⟩ then some [1, 2, 3] else if id = ⟨1⟩ then some large else none := by
    rw [RamMedium.image?_commit hmedium, RamMedium.image?_commit hfirst, RamMedium.image?_empty]
  have hzero : Medium.load medium ⟨0⟩ 4100 = .ok none := by
    show medium.load ⟨0⟩ 4100 = _
    rw [RamMedium.load_eq, himage]
    rfl
  have hone : Medium.load medium ⟨1⟩ 4100 = .error .tooLarge := by
    show medium.load ⟨1⟩ 4100 = _
    have hone : medium.image? ⟨1⟩ = some large := himage _
    have hlong : 4100 < large.length := by omega
    rw [RamMedium.load_eq, hone]
    exact if_pos hlong
  have hlower : ∀ lower < (⟨1, by decide⟩ : SlotIndex), ∃ found, Holds medium lower found := by
    intro lower hlt
    obtain rfl : lower = ⟨0, by decide⟩ := Fin.ext (Nat.lt_one_iff.mp hlt)
    exact ⟨none, .absent hzero⟩
  rw [hlarge]
  refine ⟨medium, himage _, himage _, himage _, ?_, ?_, ?_⟩
  · refine (restore_decided _ _ _ _).1.mpr ⟨by decide, fun index => ⟨none, .absent ?_⟩⟩
    exact RamMedium.load_empty index.isLt 4100
  · exact ((restore_decided _ _ _ _).2.2 _).mpr
      (Or.inr ⟨by decide, ⟨1, by decide⟩, .tooLarge hone, hlower⟩)
  · exact ((restore_decided _ _ _ _).2.2 _).mpr (Or.inl ⟨by decide, rfl⟩)

end Vault

end SecureElement
