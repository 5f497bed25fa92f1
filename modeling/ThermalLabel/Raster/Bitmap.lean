/-
  Bitmaps in hexadecimal.

  The bits of a row are packed eight to a byte, the first being the most significant. Every row
  starts a byte, and the missing bits of its last byte are zero. A byte is written as two
  capital hexadecimal digits.

  A bit is a whole number, of which only 0 and 1 are meant. Others follow the same arithmetic:
  a byte is built by doubling and by the bitwise or of whole numbers in two's complement, and
  may come out negative or longer than two digits.
-/
import ThermalLabel.Fault
import ThermalLabel.Raster.Image

namespace ThermalLabel

namespace Bitmap

/-- The bitwise or in two's complement. -/
def or : Int → Int → Int
  | .ofNat m, .ofNat n => .ofNat (m ||| n)
  | .ofNat m, .negSucc n => .negSucc (n - (n &&& m))
  | .negSucc m, .ofNat n => .negSucc (m - (m &&& n))
  | .negSucc m, .negSucc n => .negSucc (m &&& n)

/-- A natural number in capital hexadecimal digits. -/
def hexadecimal (n : Nat) : Text := (Nat.toDigits 16 n).map Char.toUpper

/-- A byte in at least two places, the sign being one of them. -/
def byteText (n : Int) : Text :=
  let digits := hexadecimal n.natAbs
  if n < 0 then '-' :: List.replicate (1 - digits.length) '0' ++ digits
  else List.replicate (2 - digits.length) '0' ++ digits

/-- The bytes of the rest of a row in hexadecimal, the first of which has `count` bits already. -/
def rowTextFrom (byte : Int) (count : Nat) : List Int → Text
  | [] => if count = 0 then [] else byteText (byte * Int.pow 2 (8 - count))
  | bit :: bits =>
    if count + 1 = 8 then byteText (or (2 * byte) bit) ++ rowTextFrom 0 0 bits
    else rowTextFrom (or (2 * byte) bit) (count + 1) bits

/-- The bytes of a row in hexadecimal. -/
def rowText (bits : List Int) : Text := rowTextFrom 0 0 bits

/-- The rows of a bitmap in hexadecimal. -/
def rowsText (bits : List Int) (width height : Nat) : Text :=
  (rowsOf width height bits).flatMap rowText

/-- A bitmap in hexadecimal. It must have as many bits as its dimensions say; a height below
    zero means no rows. -/
def pack (bits : List Int) (width height : Int) : Except Fault Text :=
  if (bits.length : Int) = width * height then .ok (rowsText bits width.toNat height.toNat)
  else .error .bitCount

end Bitmap

end ThermalLabel
