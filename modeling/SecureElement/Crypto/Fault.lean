/-
  SecureElement.Crypto.Fault

  Why a key or a signature is not accepted, and how a command that needed it is refused.
-/
import SecureElement.Refusal

namespace SecureElement

/-- Why a key or a signature was not accepted. -/
inductive CryptoFault where
  /-- The numbers do not form a key that may be used. -/
  | unusableKey
  | badSignature
  /-- The signature is not as long as the key asks for. -/
  | badSignatureLength
  | internalFault
deriving DecidableEq, Repr, Inhabited

namespace CryptoFault

def code : CryptoFault → UInt16
  | unusableKey => 0x0101
  | badSignature => 0x0102
  | badSignatureLength => 0x0103
  | internalFault => 0x01FF

def cause : CryptoFault → String
  | unusableKey => "invalid key"
  | badSignature => "invalid signature"
  | badSignatureLength => "invalid signature length"
  | internalFault => "internal error"

def message (fault : CryptoFault) : String :=
  Text.coded fault.code fault.cause

/-- How a command that met the fault is refused.  A signature that does not verify is a matter of
authorisation; a key that cannot be used is not. -/
def toRefusal : CryptoFault → Refusal
  | badSignature | badSignatureLength => .notAuthorised
  | unusableKey | internalFault => .cryptoFailed

end CryptoFault

end SecureElement
