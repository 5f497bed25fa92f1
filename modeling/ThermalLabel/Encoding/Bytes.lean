/-
  Byte strings and the texts that they stand for.

  Latin-1 has one byte for each of the first 256 characters. Jobs are sent in it, so that control
  characters reach the printer as single bytes. UTF-8 has one to four bytes a character. Reading
  it is strict: overlong forms, surrogates, codes above U+10FFFF, stray and missing continuation
  bytes are errors.
-/
import ThermalLabel.Text.Quoted

namespace ThermalLabel

/-- A byte string. -/
abbrev Bytes := List UInt8

namespace Bytes

/-- The text whose characters have the codes of the bytes. -/
def toText (bytes : Bytes) : Text := bytes.map fun b => Char.ofNat b.toNat

end Bytes

/-! ## Latin-1 -/

namespace Latin1

/-- The character has a byte. -/
def isEncodable (c : Char) : Bool := c.toNat < 0x100

/-- The bytes of a text; none if a character has no byte. -/
def encode? (t : Text) : Option Bytes :=
  if t.all isEncodable then some (t.map fun c => UInt8.ofNat c.toNat) else none

/-- The characters without a byte that stand first in a text, and their offset. -/
def firstFailure (t : Text) : Nat × Text :=
  ((t.takeWhile isEncodable).length, (t.dropWhile isEncodable).takeWhile fun c => !isEncodable c)

/-- What is said of a text that cannot be encoded. -/
def failureMessage (t : Text) : String :=
  let (offset, failed) := firstFailure t
  let which :=
    match failed with
    | [c] =>
      "character '" ++ Text.shown (Text.escapeCode c) ++ "' in position " ++ toString offset
    | _ =>
      "characters in position " ++ toString offset ++ "-" ++
        toString (offset + failed.length - 1)
  "'latin-1' codec can't encode " ++ which ++ ": ordinal not in range(256)"

end Latin1

/-! ## UTF-8 -/

namespace Utf8

/-- The bytes of a character. -/
def encodeChar (c : Char) : Bytes :=
  let n := c.toNat
  if n < 0x80 then [UInt8.ofNat n]
  else if n < 0x800 then [UInt8.ofNat (0xC0 + n / 0x40), UInt8.ofNat (0x80 + n % 0x40)]
  else if n < 0x10000 then
    [UInt8.ofNat (0xE0 + n / 0x1000), UInt8.ofNat (0x80 + n / 0x40 % 0x40),
      UInt8.ofNat (0x80 + n % 0x40)]
  else
    [UInt8.ofNat (0xF0 + n / 0x40000), UInt8.ofNat (0x80 + n / 0x1000 % 0x40),
      UInt8.ofNat (0x80 + n / 0x40 % 0x40), UInt8.ofNat (0x80 + n % 0x40)]

/-- The bytes of a text. -/
def encode (t : Text) : Bytes := t.flatMap encodeChar

/-- The six bits of a continuation byte. -/
def continuation? (b : UInt8) : Option Nat :=
  if 0x80 ≤ b.toNat ∧ b.toNat < 0xC0 then some (b.toNat - 0x80) else none

/-- The character of a code that is at least `least` and no surrogate. -/
def char? (least code : Nat) : Option Char :=
  if h : code.isValidChar then if least ≤ code then some (Char.ofNatAux code h) else none
  else none

/-- The text of a byte string. -/
def decode? : Bytes → Option Text
  | [] => some []
  | a :: rest =>
    if a.toNat < 0x80 then (decode? rest).map (Char.ofNat a.toNat :: ·)
    else if a.toNat < 0xC0 then none
    else if a.toNat < 0xE0 then
      match rest with
      | b :: rest => do
        let y ← continuation? b
        let c ← char? 0x80 ((a.toNat - 0xC0) * 0x40 + y)
        (decode? rest).map (c :: ·)
      | _ => none
    else if a.toNat < 0xF0 then
      match rest with
      | b :: b' :: rest => do
        let y ← continuation? b
        let z ← continuation? b'
        let c ← char? 0x800 (((a.toNat - 0xE0) * 0x40 + y) * 0x40 + z)
        (decode? rest).map (c :: ·)
      | _ => none
    else
      match rest with
      | b :: b' :: b'' :: rest => do
        let x ← continuation? b
        let y ← continuation? b'
        let z ← continuation? b''
        let c ← char? 0x10000 ((((a.toNat - 0xF0) * 0x40 + x) * 0x40 + y) * 0x40 + z)
        (decode? rest).map (c :: ·)
      | _ => none

end Utf8

end ThermalLabel
