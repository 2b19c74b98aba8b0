/-
  SecureElement.Time.Clock

  A clock that moves in steps.  It can be advanced by a duration or set to a later instant; nothing
  moves it back.
-/
import SecureElement.Time.Basic

namespace SecureElement

/-- A clock that stands still until it is moved. -/
structure SteppedClock where
  now : Instant := .zero
deriving DecidableEq, Inhabited

namespace SteppedClock

def advance (clock : SteppedClock) (span : Duration) : SteppedClock :=
  ⟨clock.now.after span⟩

/-- The clock moved to `instant`, unless it shows a later time already. -/
def set (clock : SteppedClock) (instant : Instant) : SteppedClock :=
  if clock.now < instant then ⟨instant⟩ else clock

end SteppedClock

end SecureElement
