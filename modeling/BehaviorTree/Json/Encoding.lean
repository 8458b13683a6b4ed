import BehaviorTree.Json.Reader

/-!
# The encoding of a document

A document may arrive as bytes. Its encoding is told from a byte order mark, or from where the zero
bytes lie among the first four: the first two characters of a document are ASCII, so the zeros show
the width of a unit and the order of its bytes.

* `Encoding.detect`: the encoding and the bytes without the mark.
* `Encoding.decode?`: the characters of the bytes, if all of them can be decoded.
-/

namespace BehaviorTree.Json

/-- The encodings of a document; wide ones come with the order of their bytes. -/
inductive Encoding where
  | utf8
  | utf16 (bigEndian : Bool)
  | utf32 (bigEndian : Bool)
  deriving DecidableEq, Repr

/-- The encoding without a mark, by the zero bytes at the start. -/
def Encoding.ofZeros : List UInt8 → Encoding
  | 0 :: 0 :: _ :: _ :: _ => .utf32 true
  | 0 :: _ :: _ :: _ :: _ => .utf16 true
  | _ :: 0 :: 0 :: 0 :: _ => .utf32 false
  | _ :: 0 :: _ :: _ :: _ => .utf16 false
  | [0, _] => .utf16 true
  | [_, 0] => .utf16 false
  | _ => .utf8

/-- The encoding of a document, and its bytes without a byte order mark. -/
def Encoding.detect : List UInt8 → Encoding × List UInt8
  | 0x00 :: 0x00 :: 0xFE :: 0xFF :: rest => (.utf32 true, rest)
  | 0xFF :: 0xFE :: 0x00 :: 0x00 :: rest => (.utf32 false, rest)
  | 0xFE :: 0xFF :: rest => (.utf16 true, rest)
  | 0xFF :: 0xFE :: rest => (.utf16 false, rest)
  | 0xEF :: 0xBB :: 0xBF :: rest => (.utf8, rest)
  | bytes => (.ofZeros bytes, bytes)

/-- The number of two bytes. -/
def unit16 (bigEndian : Bool) (a b : UInt8) : Nat :=
  if bigEndian then a.toNat * 256 + b.toNat else b.toNat * 256 + a.toNat

/-- The units of two bytes each; none when a byte is left over. -/
def units16? (bigEndian : Bool) : List UInt8 → Option (List Nat)
  | [] => some []
  | a :: b :: rest => (units16? bigEndian rest).map (unit16 bigEndian a b :: ·)
  | [_] => none

/-- The units of four bytes each; none when bytes are left over. -/
def units32? (bigEndian : Bool) : List UInt8 → Option (List Nat)
  | [] => some []
  | a :: b :: c :: d :: rest =>
    let first := unit16 bigEndian a b
    let second := unit16 bigEndian c d
    let unit := if bigEndian then first * 65536 + second else second * 65536 + first
    (units32? bigEndian rest).map (unit :: ·)
  | _ => none

/-- The bytes of a text in which each half of a surrogate pair that is written as a character, by three
bytes, has become the character that stands for it. -/
def passHalves (half : Char) : List UInt8 → List UInt8
  | 0xED :: a :: b :: rest =>
    if 0xA0 ≤ a && a ≤ 0xBF && 0x80 ≤ b && b ≤ 0xBF then
      (String.singleton half).toUTF8.toList ++ passHalves half rest
    else 0xED :: passHalves half (a :: b :: rest)
  | byte :: rest => byte :: passHalves half rest
  | [] => []

/-- The characters of units of two bytes, surrogate pairs joined. -/
def chars16 (half : Char) : List Nat → List Char
  | high :: low :: rest =>
    if isHighSurrogate high && isLowSurrogate low then joinSurrogates high low :: chars16 half rest
    else charOfCode half high :: chars16 half (low :: rest)
  | [unit] => [charOfCode half unit]
  | [] => []

/-- The characters of units of four bytes; none when one is past the last character. -/
def chars32? (half : Char) (units : List Nat) : Option (List Char) :=
  units.mapM fun unit => if unit < 0x110000 then some (charOfCode half unit) else none

/-- The characters of bytes in an encoding. -/
def Encoding.decode? (encoding : Encoding) (half : Char) (bytes : List UInt8) :
    Option (List Char) :=
  match encoding with
  | .utf8 => (String.fromUTF8? (ByteArray.mk (passHalves half bytes).toArray)).map String.toList
  | .utf16 bigEndian => (units16? bigEndian bytes).map (chars16 half)
  | .utf32 bigEndian => (units32? bigEndian bytes).bind (chars32? half)

/-- The characters of a document that arrives as bytes; `half` stands for half a surrogate pair. -/
def decodeBytes? (half : Char) (bytes : List UInt8) : Option (List Char) :=
  let (encoding, body) := Encoding.detect bytes
  encoding.decode? half body

end BehaviorTree.Json
