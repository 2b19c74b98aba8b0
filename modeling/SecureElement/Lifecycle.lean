/-
  SecureElement.Lifecycle

  Whether the device is still in the factory.  No record keeps this; a command that depends on it is
  told.
-/

namespace SecureElement

/-- The stage of a device's life. -/
inductive LifecycleStage where
  /-- The device is being made and set up. -/
  | factory
  | production
deriving DecidableEq, Repr, Inhabited

namespace LifecycleStage

/-- The stage of a device that has or has not left the factory. -/
def ofProduction : Bool → LifecycleStage
  | true => production
  | false => factory

/-- Whether the device has left the factory. -/
def isProduction : LifecycleStage → Bool
  | production => true
  | factory => false

end LifecycleStage

end SecureElement
