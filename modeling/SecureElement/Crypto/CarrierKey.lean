/-
  SecureElement.Crypto.CarrierKey

  The key that release tokens are signed under.  Its public half is built in, so another key takes
  another build.
-/
import SecureElement.Crypto.Rsa

namespace SecureElement

namespace CarrierKey

/-- The modulus of the carrier's key, 2048 bits, most significant byte first. -/
def modulus : Bytes :=
  [
    0xaa, 0x61, 0x74, 0xb8, 0x9e, 0xdd, 0x39, 0x79, 0xca, 0x4d, 0x79, 0xd8, 0x5b, 0xdd, 0x5f, 0xab,
    0x1d, 0xfd, 0x6c, 0x50, 0xc2, 0xfb, 0x93, 0x73, 0x20, 0x33, 0xd9, 0x2c, 0xe9, 0x19, 0x70, 0x73,
    0xcb, 0x0f, 0x51, 0x52, 0xad, 0xa6, 0x85, 0xfa, 0x57, 0x6f, 0xd3, 0x06, 0xe1, 0x8f, 0x96, 0xf6,
    0x9f, 0xdc, 0xc8, 0x21, 0x4c, 0xbe, 0x0a, 0x59, 0xca, 0xd6, 0x78, 0x8f, 0x4f, 0xeb, 0xd9, 0xbb,
    0x77, 0x14, 0x92, 0xf3, 0x6c, 0x24, 0xbc, 0x74, 0xe5, 0xfa, 0xc7, 0x59, 0x4e, 0x17, 0xeb, 0x0c,
    0xdf, 0x50, 0xfe, 0x85, 0xed, 0x8f, 0xfb, 0xad, 0x58, 0x75, 0xac, 0xde, 0x02, 0xa9, 0xcd, 0xb3,
    0x08, 0xd3, 0xef, 0xcf, 0xf8, 0xda, 0x0f, 0xac, 0xfa, 0xce, 0xa7, 0xaf, 0x2c, 0x38, 0x87, 0xce,
    0x49, 0x16, 0x2b, 0xfa, 0x1f, 0xf8, 0x9c, 0x9a, 0x1b, 0xe4, 0xa4, 0x9d, 0x63, 0x5b, 0xbf, 0x6e,
    0x6c, 0x7f, 0x29, 0x91, 0x9a, 0x64, 0xdf, 0xe3, 0x69, 0x8d, 0xe7, 0x8e, 0x2e, 0xd3, 0x01, 0x5d,
    0xef, 0xf9, 0x0e, 0x08, 0x6d, 0xa9, 0xf1, 0x63, 0x36, 0xb4, 0x62, 0x4b, 0x7e, 0x83, 0xb4, 0x88,
    0x93, 0x08, 0x13, 0x0c, 0x26, 0x52, 0x16, 0x33, 0x4a, 0x4d, 0xe3, 0xa5, 0x4b, 0xcb, 0x2b, 0x63,
    0x81, 0xf8, 0x31, 0xf3, 0xbf, 0xce, 0xaa, 0x93, 0x01, 0xd6, 0x49, 0x6d, 0x13, 0x7b, 0xfe, 0x06,
    0xa2, 0x57, 0x05, 0xde, 0x48, 0x48, 0x8c, 0xd6, 0x2c, 0x54, 0x1f, 0xcf, 0x24, 0x97, 0x31, 0x51,
    0x9a, 0x7f, 0x1e, 0x10, 0xae, 0xff, 0xe3, 0x6c, 0xc3, 0x11, 0x73, 0xd8, 0xb8, 0x5b, 0x3f, 0x98,
    0x82, 0x67, 0x6d, 0x6e, 0x2a, 0xe8, 0x08, 0x46, 0x64, 0x06, 0x84, 0x3b, 0xa7, 0x50, 0x81, 0x5c,
    0x78, 0x77, 0xc1, 0x35, 0xd7, 0x75, 0x17, 0xb3, 0x6a, 0x79, 0xa6, 0x2f, 0x62, 0xdb, 0x87, 0x41
  ]

/-- The exponent of the carrier's key, most significant byte first. -/
def exponent : Bytes :=
  [0x01, 0x00, 0x01]

/-- The public half of the carrier's key. -/
def publicKey : Except CryptoFault RsaKey :=
  RsaKey.ofBytes modulus exponent

end CarrierKey

end SecureElement
