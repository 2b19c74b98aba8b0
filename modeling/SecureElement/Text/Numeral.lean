/-
  SecureElement.Text.Numeral

  Numbers and bytes as text: decimal numerals padded to a least width, hexadecimal numerals of
  either case, and byte strings as two lower-case digits a byte.
-/
import SecureElement.Bytes.Basic

namespace SecureElement

namespace Text

/-- The decimal numeral of `n`, with no leading zero. -/
def decimal (n : Nat) : String :=
  String.ofList (Nat.toDigits 10 n)

/-- The decimal numeral of `n`, led by zeros to at least `width` digits. -/
def paddedDecimal (width n : Nat) : String :=
  String.ofList ((Nat.toDigits 10 n).leftpad width '0')

/-- The upper-case hexadecimal numeral of `n`, led by zeros to at least `width` digits. -/
def upperHex (width n : Nat) : String :=
  String.ofList (((Nat.toDigits 16 n).map Char.toUpper).leftpad width '0')

/-- The two lower-case hexadecimal digits of a byte. -/
def hexDigits (byte : UInt8) : List Char :=
  [Nat.digitChar (byte.toNat / 16), Nat.digitChar (byte.toNat % 16)]

/-- A byte string as two lower-case hexadecimal digits a byte. -/
def lowerHex (data : Bytes) : String :=
  String.ofList (data.flatMap hexDigits)

/-- A coded message: the code as four upper-case hexadecimal digits in brackets, then its
cause. -/
def coded (code : UInt16) (cause : String) : String :=
  "[0x" ++ upperHex 4 code.toNat ++ "] " ++ cause

end Text

end SecureElement
