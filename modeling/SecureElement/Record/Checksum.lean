/-
  SecureElement.Record.Checksum

  CRC-32 as records carry it: the reflected checksum over the polynomial 0xEDB88320, starting from
  all ones and complemented at the end.  `Crc32.checksum` looks up a table a byte at a time;
  `Crc32.bitwise` is the same checksum one bit at a time, and the table is made of its steps.
-/
import SecureElement.Bytes.Basic

namespace SecureElement

namespace Crc32

/-- The generator polynomial, least significant coefficient in the highest bit. -/
def polynomial : UInt32 :=
  0xEDB88320

/-- One step of the register: the lowest bit leaves, and if it is set the polynomial is added. -/
def shift (register : UInt32) : UInt32 :=
  if register &&& 1 = 0 then register >>> 1 else (register >>> 1) ^^^ polynomial

def shiftBy : (count : Nat) → UInt32 → UInt32
  | 0, register => register
  | count + 1, register => shiftBy count (shift register)

/-! ## One bit at a time -/

/-- The register after one byte, least significant bit first. -/
def feedBits (register : UInt32) (byte : UInt8) : UInt32 :=
  shiftBy 8 (register ^^^ byte.toUInt32)

/-- The checksum, one bit at a time. -/
def bitwise (data : Bytes) : UInt32 :=
  ~~~data.foldl feedBits 0xFFFFFFFF

/-! ## One byte at a time -/

/-- The register that each byte leaves behind after eight steps. -/
def table : Vector UInt32 UInt8.size :=
  Vector.ofFn fun byte => shiftBy 8 (UInt32.ofNat byte)

/-- The register after one byte, by look-up. -/
def feed (register : UInt32) (byte : UInt8) : UInt32 :=
  (register >>> 8) ^^^ table.get (register.toUInt8 ^^^ byte).toFin

def checksum (data : Bytes) : UInt32 :=
  ~~~data.foldl feed 0xFFFFFFFF

end Crc32

end SecureElement
