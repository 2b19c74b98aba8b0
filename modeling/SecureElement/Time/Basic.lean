/-
  SecureElement.Time.Basic

  Instants in milliseconds since power-on and durations in milliseconds.  All arithmetic
  saturates: a sum stays at the largest word and a difference at zero, so a deadline computed near
  the end of the range is late rather than early.
-/
import SecureElement.Bytes.Endian

namespace SecureElement

/-! ## Durations -/

/-- A span of time in milliseconds. -/
@[ext]
structure Duration where
  ms : UInt32
deriving DecidableEq, Inhabited

namespace Duration

def zero : Duration :=
  ⟨0⟩

/-- The longest duration that is no longer than `ms` milliseconds. -/
def clamp (ms : Nat) : Duration :=
  ⟨UInt32.ofNatClamp ms⟩

def ofSeconds (seconds : UInt32) : Duration :=
  clamp (seconds.toNat * 1000)

def seconds (span : Duration) : UInt32 :=
  span.ms / 1000

def isZero (span : Duration) : Bool :=
  span.ms == 0

instance : Add Duration :=
  ⟨fun first second => clamp (first.ms.toNat + second.ms.toNat)⟩

instance : Sub Duration :=
  ⟨fun first second => clamp (first.ms.toNat - second.ms.toNat)⟩

instance : Ord Duration :=
  ⟨fun first second => compare first.ms second.ms⟩

instance : LE Duration :=
  ⟨fun first second => first.ms ≤ second.ms⟩

instance : DecidableLE Duration :=
  fun first second => inferInstanceAs (Decidable (first.ms ≤ second.ms))

end Duration

/-! ## Instants -/

/-- A point in time, in milliseconds on a clock that never goes back. -/
@[ext]
structure Instant where
  ms : UInt64
deriving DecidableEq, Inhabited

namespace Instant

def zero : Instant :=
  ⟨0⟩

/-- The latest instant that is no later than `ms` milliseconds. -/
def clamp (ms : Nat) : Instant :=
  ⟨UInt64.ofNatClamp ms⟩

instance : Ord Instant :=
  ⟨fun first second => compare first.ms second.ms⟩

instance : LT Instant :=
  ⟨fun first second => first.ms < second.ms⟩

instance : DecidableLT Instant :=
  fun first second => inferInstanceAs (Decidable (first.ms < second.ms))

instance : LE Instant :=
  ⟨fun first second => first.ms ≤ second.ms⟩

instance : DecidableLE Instant :=
  fun first second => inferInstanceAs (Decidable (first.ms ≤ second.ms))

/-- The milliseconds from `start` to `stop`; zero if `stop` comes first. -/
def elapsed (start stop : Instant) : UInt64 :=
  UInt64.ofNatClamp (stop.ms.toNat - start.ms.toNat)

/-- The time left at `now` until `deadline`: zero once it has passed, and the longest duration
while it is further away than a duration can say. -/
def remaining (deadline now : Instant) : Duration :=
  Duration.clamp (deadline.ms.toNat - now.ms.toNat)

/-- The instant that follows `start` by `span`. -/
def after (start : Instant) (span : Duration) : Instant :=
  clamp (start.ms.toNat + span.ms.toNat)

/-- An instant as eight bytes, least significant first. -/
def toBlock (instant : Instant) : Block 8 :=
  Block.littleEndian 8 instant.ms.toNat

/-- The instant in eight bytes, least significant first. -/
def ofBlock (block : Block 8) : Instant :=
  ⟨UInt64.ofNat block.toNat⟩

/-- An instant is read back from its bytes. -/
@[simp] theorem ofBlock_toBlock (instant : Instant) : ofBlock instant.toBlock = instant := by
  ext1
  apply UInt64.toNat_inj.mp
  have := instant.ms.toNat_lt
  simp only [ofBlock, toBlock, Block.toNat_littleEndian, UInt64.toNat_ofNat', Bytes.population]
  omega

/-- Every block of eight bytes is the bytes of the instant that it holds. -/
@[simp] theorem toBlock_ofBlock (block : Block 8) : (ofBlock block).toBlock = block := by
  have h : block.toNat < UInt64.size := block.toNat_lt
  rw [toBlock, ofBlock, UInt64.toNat_ofNat_of_lt' h, Block.littleEndian_toNat]

instance : HAdd Instant Duration Instant :=
  ⟨after⟩

instance : HSub Instant Instant UInt64 :=
  ⟨fun stop start => elapsed start stop⟩

end Instant

end SecureElement
