/-
  SecureElement.Proofs.Record.RoundTrip

  The record format, in both directions.  A save is one commit and takes effect where that does; the
  value that is saved is loaded again, and an image is loaded as a value exactly if it is the one that
  saving the value would leave.  All that a type has to bring for this is that its payloads are
  canonical (`Persistent.Canonical`): decoding and encoding are inverse to each other on the values in
  its domain.
-/
import SecureElement.Boot.Measured
import SecureElement.Lock.Controller
import SecureElement.Proofs.Record.Payload
import SecureElement.Proofs.Record.Recovery

namespace SecureElement

namespace Persistent

variable {ρ : Type} [Persistent ρ]

/-! ## Images that are not intact -/

/-- An image of the right length and with the right checksum is a framed payload. -/
theorem eq_framed {image : Bytes} {count : Nat} (hlength : image.length = count + checksumSize)
    (hsum : Bytes.ofLittleEndian (image.drop count) =
      (Crc32.checksum (image.take count)).toNat) : image = framed (image.take count) := by
  have hrest : (image.drop count).length = checksumSize := by
    rw [List.length_drop]
    omega
  have hchecksum : Bytes.littleEndian checksumSize (Crc32.checksum (image.take count)).toNat =
      image.drop count := by
    have hbytes := Bytes.littleEndian_ofLittleEndian (image.drop count)
    rw [hrest, hsum] at hbytes
    exact hbytes
  rw [framed, hchecksum, List.take_append_drop]

/-- An image that is no framed payload is damaged. -/
theorem ofImage_of_ne {image : Bytes}
    (h : ∀ payload : Block (size ρ), image ≠ framed payload.bytes) :
    ofImage ρ image = .error .damaged := by
  unfold ofImage
  split
  · rename_i hlength
    dsimp only
    split
    · rename_i hsum
      have htake : (image.take (size ρ)).length = size ρ := by
        rw [List.length_take, hlength, imageSize]
        omega
      exact absurd (eq_framed hlength hsum) (h ⟨image.take (size ρ), htake⟩)
    · rfl
  · rfl

/-! ## Canonical payloads -/

variable (ρ) in
/-- The payloads of a type are canonical: the one that a value in the domain is encoded as is the
only one that it is decoded from. -/
structure Canonical (domain : ρ → Prop) : Prop where
  size_le : size ρ ≤ maxSize
  decode_iff : ∀ payload value, decode payload = .ok value ↔ domain value ∧ encode value = payload
  decode_error : ∀ payload error, (decode payload : Except MediumError ρ) = .error error →
    error = .outOfDomain

/-! ## Both directions -/

variable (ρ) in
/-- The values of a type in a domain and the images that hold them correspond on every medium of a
size. -/
structure RoundTrips (domain : ρ → Prop) (records capacity : Nat) : Prop where
  /-- A save commits the value's payload, followed by the payload's checksum, and ends as that commit
  does. -/
  save_eq : ∀ (medium : RamMedium records capacity) id (value : ρ),
    save medium id value = Medium.commit medium id (framed (encode value).bytes)
  /-- A save takes effect exactly on a medium that has the record, room for the image and commits
  left. -/
  save_isOk_iff : ∀ (medium : RamMedium records capacity) id (value : ρ),
    (∃ after, save medium id value = .ok after) ↔
      id.index < records ∧ imageSize ρ ≤ capacity ∧ medium.budget ≠ some 0
  /-- A value that is saved is loaded again, and no other image changes. -/
  saved : ∀ (medium after : RamMedium records capacity) id (value : ρ), domain value →
    save medium id value = .ok after →
      load ρ after id = .ok (some value) ∧
        ∀ other, other ≠ id → ∀ room, after.load other room = medium.load other room
  /-- An image is loaded as a value exactly if the value is in the domain and the image is the
  value's payload, followed by the payload's checksum. -/
  loaded_iff : ∀ (medium : RamMedium records capacity) id room image,
    medium.load id room = .ok (some image) → ∀ value : ρ,
      load ρ medium id = .ok (some value) ↔ domain value ∧ image = framed (encode value).bytes
  /-- Saving a value that was loaded reproduces the image, byte for byte. -/
  reproduced : ∀ (medium : RamMedium records capacity) id room image,
    medium.load id room = .ok (some image) → ∀ value : ρ, load ρ medium id = .ok (some value) →
      ∀ (target after : RamMedium records capacity) other, save target other value = .ok after →
        after.load other room = .ok (some image)
  -- every other image is refused: for its size, for its length or its checksum, or for a field
  tooLarge_iff : ∀ (medium : RamMedium records capacity) id room image,
    medium.load id room = .ok (some image) →
      (load ρ medium id = .error .tooLarge ↔ maxImageSize < image.length)
  damaged_iff : ∀ (medium : RamMedium records capacity) id room image,
    medium.load id room = .ok (some image) →
      (load ρ medium id = .error .damaged ↔ image.length ≤ maxImageSize ∧
        ∀ payload : Block (size ρ), image ≠ framed payload.bytes)
  outOfDomain_iff : ∀ (medium : RamMedium records capacity) id room image,
    medium.load id room = .ok (some image) →
      (load ρ medium id = .error .outOfDomain ↔
        ∃ payload : Block (size ρ), image = framed payload.bytes ∧
          ∀ value : ρ, domain value → encode value ≠ payload)

theorem framed_inj {payload other : Block (size ρ)}
    (h : framed payload.bytes = framed other.bytes) : payload = other := by
  have hlength : payload.bytes.length = other.bytes.length := by
    rw [payload.length_bytes, other.length_bytes]
  exact Block.ext (List.append_inj_left h hlength)

theorem length_framed (payload : Block (size ρ)) :
    (framed payload.bytes).length = size ρ + checksumSize := by
  rw [framed, List.length_append, payload.length_bytes, Bytes.length_littleEndian]

/-- A framed payload is no larger than what a load makes room for. -/
theorem length_framed_le (hsize : size ρ ≤ maxSize) (payload : Block (size ρ)) :
    (framed payload.bytes).length ≤ maxImageSize := by
  rw [length_framed, maxImageSize]
  omega

section

variable {domain : ρ → Prop} {records capacity : Nat}

/-- How an image is loaded: it is too large, it is no framed payload, its payload holds no value in
the domain, or it holds one. -/
theorem Canonical.load_cases (h : Canonical ρ domain) {medium : RamMedium records capacity}
    {id : RecordId} {room : Nat} {image : Bytes}
    (himage : medium.load id room = .ok (some image)) :
    (maxImageSize < image.length ∧ load ρ medium id = .error .tooLarge) ∨
    (image.length ≤ maxImageSize ∧ (∀ payload : Block (size ρ), image ≠ framed payload.bytes) ∧
      load ρ medium id = .error .damaged) ∨
    (∃ payload : Block (size ρ), image = framed payload.bytes ∧
      (∀ value, domain value → encode value ≠ payload) ∧
      load ρ medium id = .error .outOfDomain) ∨
    (∃ value, domain value ∧ image = framed (encode value).bytes ∧
      load ρ medium id = .ok (some value)) := by
  have hload : Medium.load medium id maxImageSize =
      if maxImageSize < image.length then .error .tooLarge else .ok (some image) :=
    (RamMedium.load_of_load himage).2 maxImageSize
  rw [load, if_neg (Nat.not_lt.mpr h.size_le), hload]
  by_cases hlarge : maxImageSize < image.length
  · rw [if_pos hlarge]
    exact Or.inl ⟨hlarge, rfl⟩
  · refine Or.inr ?_
    rw [if_neg hlarge]
    dsimp only
    by_cases hframed : ∃ payload : Block (size ρ), image = framed payload.bytes
    · refine Or.inr ?_
      obtain ⟨payload, rfl⟩ := hframed
      rw [ofImage_framed]
      cases hdecode : (decode payload : Except MediumError ρ) with
      | ok value =>
        obtain ⟨hdomain, rfl⟩ := (h.decode_iff payload value).mp hdecode
        exact Or.inr ⟨value, hdomain, rfl, rfl⟩
      | error error =>
        obtain rfl := h.decode_error payload error hdecode
        refine Or.inl ⟨payload, rfl, fun value hdomain hpayload => ?_, rfl⟩
        rw [(h.decode_iff payload value).mpr ⟨hdomain, hpayload⟩] at hdecode
        cases hdecode
    · have hne : ∀ payload : Block (size ρ), image ≠ framed payload.bytes :=
        fun payload heq => hframed ⟨payload, heq⟩
      rw [ofImage_of_ne hne]
      exact Or.inl ⟨Nat.not_lt.mp hlarge, hne, rfl⟩

theorem Canonical.loaded_iff (h : Canonical ρ domain) {medium : RamMedium records capacity}
    {id : RecordId} {room : Nat} {image : Bytes}
    (himage : medium.load id room = .ok (some image)) (value : ρ) :
    load ρ medium id = .ok (some value) ↔ domain value ∧ image = framed (encode value).bytes := by
  rcases h.load_cases himage with
    ⟨hlarge, hload⟩ | ⟨-, hne, hload⟩ | ⟨payload, rfl, hnone, hload⟩ | ⟨found, hfound, rfl, hload⟩
  · rw [hload]
    refine iff_of_false nofun ?_
    rintro ⟨-, rfl⟩
    exact absurd (length_framed_le h.size_le _) (Nat.not_le.mpr hlarge)
  · rw [hload]
    exact iff_of_false nofun fun ⟨_, heq⟩ => hne (encode value) heq
  · rw [hload]
    exact iff_of_false nofun fun ⟨hdomain, heq⟩ => hnone value hdomain (framed_inj heq).symm
  · rw [hload]
    constructor
    · intro hvalue
      cases hvalue
      exact ⟨hfound, rfl⟩
    · rintro ⟨hdomain, heq⟩
      -- both values are decoded from the one payload
      have hvalue := (h.decode_iff _ value).mpr ⟨hdomain, (framed_inj heq).symm⟩
      rw [(h.decode_iff _ found).mpr ⟨hfound, rfl⟩] at hvalue
      rw [Except.ok.inj hvalue]

/-- A type whose payloads are canonical makes the round trip in both directions. -/
theorem Canonical.roundTrips (h : Canonical ρ domain) : RoundTrips ρ domain records capacity where
  save_eq medium id value := if_neg (Nat.not_lt.mpr h.size_le)
  save_isOk_iff medium id value := by
    constructor
    · rintro ⟨after, hsave⟩
      obtain ⟨hknown, hfits, hbudget, -⟩ := RamMedium.commit_eq_ok (commit_of_save hsave).2
      rw [length_image] at hfits
      exact ⟨hknown, hfits, hbudget⟩
    · rintro ⟨hknown, hfits, hbudget⟩
      obtain ⟨after, hsave, -⟩ := save_isOk h.size_le hknown hfits hbudget value
      exact ⟨after, hsave⟩
  saved medium after id value hdomain hsave := by
    have hvalue : decode (encode value) = .ok value := (h.decode_iff _ _).mpr ⟨hdomain, rfl⟩
    exact ⟨load_save hvalue hsave, fun other hne room =>
      LawfulMedium.load_commit_of_ne (commit_of_save hsave).2 hne⟩
  loaded_iff medium id room image himage value := h.loaded_iff himage value
  reproduced medium id room image himage value hload target after other hsave := by
    obtain ⟨-, rfl⟩ := (h.loaded_iff himage value).mp hload
    exact LawfulMedium.load_commit (commit_of_save hsave).2 (RamMedium.load_of_load himage).1
  tooLarge_iff medium id room image himage := by
    rcases h.load_cases himage with
      ⟨hlarge, hload⟩ | ⟨hsmall, -, hload⟩ | ⟨payload, rfl, -, hload⟩ | ⟨value, -, rfl, hload⟩
    · exact iff_of_true hload hlarge
    · exact iff_of_false (by rw [hload]; exact nofun) (Nat.not_lt.mpr hsmall)
    · exact iff_of_false (by rw [hload]; exact nofun)
        (Nat.not_lt.mpr (length_framed_le h.size_le _))
    · exact iff_of_false (by rw [hload]; exact nofun)
        (Nat.not_lt.mpr (length_framed_le h.size_le _))
  damaged_iff medium id room image himage := by
    rcases h.load_cases himage with
      ⟨hlarge, hload⟩ | ⟨hsmall, hne, hload⟩ | ⟨payload, rfl, -, hload⟩ | ⟨value, -, rfl, hload⟩
    · exact iff_of_false (by rw [hload]; exact nofun) fun hsmall =>
        absurd hsmall.1 (Nat.not_le.mpr hlarge)
    · exact iff_of_true hload ⟨hsmall, hne⟩
    · exact iff_of_false (by rw [hload]; exact nofun) fun hne => hne.2 payload rfl
    · exact iff_of_false (by rw [hload]; exact nofun) fun hne => hne.2 (encode value) rfl
  outOfDomain_iff medium id room image himage := by
    rcases h.load_cases himage with
      ⟨hlarge, hload⟩ | ⟨-, hne, hload⟩ | ⟨payload, rfl, hnone, hload⟩ |
        ⟨value, hdomain, rfl, hload⟩
    · refine iff_of_false (by rw [hload]; exact nofun) ?_
      rintro ⟨payload, rfl, -⟩
      exact absurd (length_framed_le h.size_le _) (Nat.not_le.mpr hlarge)
    · exact iff_of_false (by rw [hload]; exact nofun) fun ⟨payload, heq, _⟩ => hne payload heq
    · exact iff_of_true hload ⟨payload, rfl, hnone⟩
    · refine iff_of_false (by rw [hload]; exact nofun) ?_
      rintro ⟨payload, heq, hnone⟩
      exact hnone value hdomain (framed_inj heq)

/-- A medium with a limit saves a value, and has one commit less from then on. -/
theorem RoundTrips.exists_save (h : RoundTrips ρ domain records capacity)
    {medium : RamMedium records capacity} {count : Nat}
    (hbudget : medium.budget = some (count + 1)) {id : RecordId} (hknown : id.index < records)
    (hfits : imageSize ρ ≤ capacity) (value : ρ) :
    ∃ after, save medium id value = .ok after ∧ after.budget = some count := by
  have hleft : medium.budget ≠ some 0 := by
    rw [hbudget]
    exact nofun
  obtain ⟨after, hsave⟩ := (h.save_isOk_iff medium id value).mpr ⟨hknown, hfits, hleft⟩
  have hafter := RamMedium.budget_commit (commit_of_save hsave).2
  rw [hbudget] at hafter
  exact ⟨after, hsave, hafter⟩

end

end Persistent

/-! ## The records of the element -/

open Persistent

theorem Slot.canonical : Canonical Slot fun slot => slot.failures ≤ maxFailures where
  size_le := by decide
  decode_iff payload slot := by
    constructor
    · exact fun h => ⟨failures_le_of_decode h, encode_of_decode h⟩
    · rintro ⟨hfailures, rfl⟩
      exact decode_encode hfailures
  decode_error _ _ := decode_eq_error

theorem Locks.canonical : Canonical Locks InDomain where
  size_le := by decide
  decode_iff payload locks := by
    constructor
    · exact fun h => ⟨inDomain_of_decode h, encode_of_decode h⟩
    · rintro ⟨hdomain, rfl⟩
      exact decode_encode hdomain
  decode_error _ _ := decode_eq_error

theorem BootState.canonical : Canonical BootState fun _ => True where
  size_le := by decide
  decode_iff payload state := by
    constructor
    · exact fun h => ⟨trivial, encode_of_decode h⟩
    · rintro ⟨-, rfl⟩
      exact decode_encode state
  decode_error _ _ := nofun

theorem ScratchImage.canonical : Canonical ScratchImage fun _ => True where
  size_le := Nat.le_refl scratchSize
  decode_iff payload image := by
    constructor
    · intro h
      exact ⟨trivial, (congrArg ScratchImage.block (Except.ok.inj h)).symm⟩
    · rintro ⟨-, rfl⟩
      exact decode_encode image
  decode_error _ _ := nofun

/-- Every record of the element makes the round trip.  On a medium of any size: a slot whose failure
count is in range, locks whose mask has no bit but those of the locks, and any boot state and
scratchpad contents are loaded as they were saved, and saving them changes no other image.  The save
is the commit of the image, and takes effect wherever the medium has the record, room for the image
and commits left.  Whatever image is found on the medium, it is loaded as such a value if and only if
it is the value's payload followed by the payload's checksum, so that saving the value again
reproduces it.  Any other image is refused: as too large above the size of the largest image, else as
damaged if its length or its checksum is wrong, and only an intact one for a field that is out of its
domain. -/
theorem records_roundTrip (records capacity : Nat) :
    RoundTrips Slot (fun slot => slot.failures ≤ maxFailures) records capacity ∧
      RoundTrips Locks Locks.InDomain records capacity ∧
      RoundTrips BootState (fun _ => True) records capacity ∧
      RoundTrips ScratchImage (fun _ => True) records capacity :=
  ⟨Slot.canonical.roundTrips, Locks.canonical.roundTrips, BootState.canonical.roundTrips,
    ScratchImage.canonical.roundTrips⟩

/-- A medium with four commits left takes a slot, locks, a boot state and the contents of the
scratchpad one after another, has all four in the end, and takes nothing more. -/
theorem records_roundTrip_inTurn :
    let slot : Slot := ⟨.fill 16 7, .fill 16 9, 3, ⟨5000⟩⟩
    let locks : Locks := ⟨0x03, ⟨9⟩, .fill 32 0x2A⟩
    let state : BootState := ⟨.replicate registerCount (.fill 32 1), .replicate floorCount 6⟩
    let contents : ScratchImage := ⟨.fill scratchSize 0xA5⟩
    ∃ withSlot withLocks withState last : RamMedium 67 4100,
      (save (RamMedium.limitCommits .empty 4) ⟨3⟩ slot = .ok withSlot ∧
        save withSlot LockController.defaultRecord locks = .ok withLocks ∧
        save withLocks MeasuredBoot.defaultRecord state = .ok withState ∧
        save withState Scratchpad.defaultRecord contents = .ok last) ∧
      (load Slot last ⟨3⟩ = .ok (some slot) ∧
        load Locks last LockController.defaultRecord = .ok (some locks) ∧
        load BootState last MeasuredBoot.defaultRecord = .ok (some state) ∧
        load ScratchImage last Scratchpad.defaultRecord = .ok (some contents)) ∧
      ¬ ∃ after, save last ⟨3⟩ slot = .ok after := by
  intro slot locks state contents
  obtain ⟨hslots, hlocks, hstates, hcontents⟩ := records_roundTrip 67 4100
  have hmask : locks.InDomain := by
    show (0x03 : UInt8) &&& ~~~Lock.fullMask = 0
    decide
  have hslot : RecordId.index ⟨3⟩ < 67 := by decide
  have hlock : LockController.defaultRecord.index < 67 := by decide
  have hstate : MeasuredBoot.defaultRecord.index < 67 := by decide
  have hpad : Scratchpad.defaultRecord.index < 67 := by decide
  have hfour : (RamMedium.limitCommits .empty 4 : RamMedium 67 4100).budget = some 4 := rfl
  obtain ⟨withSlot, hfirst, hthree⟩ := hslots.exists_save hfour hslot (by decide) slot
  obtain ⟨withLocks, hsecond, htwo⟩ := hlocks.exists_save hthree hlock (by decide) locks
  obtain ⟨withState, hthird, hone⟩ := hstates.exists_save htwo hstate (by decide) state
  obtain ⟨last, hlast, hnone⟩ := hcontents.exists_save hone hpad (by decide) contents
  refine ⟨withSlot, withLocks, withState, last, ⟨hfirst, hsecond, hthird, hlast⟩,
    ⟨?_, ?_, ?_, ?_⟩, fun htaken => ?_⟩
  -- each is loaded as it was saved, and the saves that follow are about other records
  · calc load Slot last ⟨3⟩
      _ = load Slot withState ⟨3⟩ := load_save_of_ne Slot hlast (by decide)
      _ = load Slot withLocks ⟨3⟩ := load_save_of_ne Slot hthird (by decide)
      _ = load Slot withSlot ⟨3⟩ := load_save_of_ne Slot hsecond (by decide)
      _ = .ok (some slot) := (hslots.saved _ _ _ slot (by decide) hfirst).1
  · calc load Locks last LockController.defaultRecord
      _ = load Locks withState LockController.defaultRecord :=
        load_save_of_ne Locks hlast (by decide)
      _ = load Locks withLocks LockController.defaultRecord :=
        load_save_of_ne Locks hthird (by decide)
      _ = .ok (some locks) := (hlocks.saved _ _ _ locks hmask hsecond).1
  · calc load BootState last MeasuredBoot.defaultRecord
      _ = load BootState withState MeasuredBoot.defaultRecord :=
        load_save_of_ne BootState hlast (by decide)
      _ = .ok (some state) := (hstates.saved _ _ _ state trivial hthird).1
  · exact (hcontents.saved _ _ _ contents trivial hlast).1
  · obtain ⟨-, -, hleft⟩ := (hslots.save_isOk_iff last ⟨3⟩ slot).mp htaken
    exact hleft hnone

end SecureElement
