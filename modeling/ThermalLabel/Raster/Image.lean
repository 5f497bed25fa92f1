/-
  Images: pixels in red, green and blue, row by row.

  `PixelFormat` says how a pixel is held in bytes. Gray is repeated in the three channels, a
  palette is looked up, and transparency is dropped.
-/
import ThermalLabel.Encoding.Bytes

namespace ThermalLabel

/-- A pixel. -/
structure Pixel where
  red : UInt8
  green : UInt8
  blue : UInt8
  deriving DecidableEq

namespace Pixel

/-- A pixel with three equal channels. -/
def gray (level : UInt8) : Pixel := ⟨level, level, level⟩

/-- The sum of the channels. -/
def sum (p : Pixel) : Nat := p.red.toNat + p.green.toNat + p.blue.toNat

end Pixel

/-- An image with as many pixels as its dimensions say. -/
structure Image where
  width : Nat
  height : Nat
  pixels : List Pixel
  length_pixels : pixels.length = width * height

namespace Image

/-- The image of a list of pixels; none if they are too few or too many. -/
def ofPixels? (width height : Nat) (pixels : List Pixel) : Option Image :=
  if h : pixels.length = width * height then some ⟨width, height, pixels, h⟩ else none

/-- The bytes of an image, three to a pixel. -/
def bytes (image : Image) : Bytes := image.pixels.flatMap fun p => [p.red, p.green, p.blue]

end Image

/-- Cuts a list into `count` pieces of `size` items. -/
def rowsOf {α : Type} (size : Nat) : (count : Nat) → List α → List (List α)
  | 0, _ => []
  | count + 1, items => items.take size :: rowsOf size count (items.drop size)

/-! ## Pixels in bytes -/

/-- How pixels are held in bytes. -/
inductive PixelFormat where
  | rgb
  /-- Red, green, blue and opacity. -/
  | rgba
  | gray
  /-- Gray and opacity. -/
  | grayAlpha
  /-- An index into the colours. -/
  | palette (colours : List Pixel)
  /-- One bit a pixel, the most significant first, each row in whole bytes; set is white. -/
  | bilevel
  /-- The same with set bits black. -/
  | bilevelInverted
  deriving DecidableEq

namespace PixelFormat

/-- The bytes of a row. -/
def rowBytes (width : Nat) : PixelFormat → Nat
  | rgb => 3 * width
  | rgba => 4 * width
  | gray => width
  | grayAlpha => 2 * width
  | palette _ => width
  | bilevel => (width + 7) / 8
  | bilevelInverted => (width + 7) / 8

/-- Pixels of three bytes. -/
def triples : Bytes → List Pixel
  | r :: g :: b :: rest => ⟨r, g, b⟩ :: triples rest
  | _ => []

/-- Pixels of three bytes and one of opacity. -/
def quadruples : Bytes → List Pixel
  | r :: g :: b :: _ :: rest => ⟨r, g, b⟩ :: quadruples rest
  | _ => []

/-- Pixels of one byte of gray and one of opacity. -/
def pairs : Bytes → List Pixel
  | level :: _ :: rest => .gray level :: pairs rest
  | _ => []

/-- The bits of a byte, the most significant first. -/
def bits (b : UInt8) : List Bool :=
  [7, 6, 5, 4, 3, 2, 1, 0].map fun i => b.toNat.testBit i

/-- Black for a clear and white for a set bit. -/
def ofBit (set : Bool) : Pixel := .gray (if set then 255 else 0)

/-- The pixels of a row. -/
def row (width : Nat) (bytes : Bytes) : PixelFormat → List Pixel
  | rgb => triples bytes
  | rgba => quadruples bytes
  | gray => bytes.map .gray
  | grayAlpha => pairs bytes
  | palette colours => bytes.map fun b => colours[b.toNat]?.getD (.gray 0)
  | bilevel => ((bytes.flatMap bits).take width).map ofBit
  | bilevelInverted => ((bytes.flatMap bits).take width).map fun set => ofBit (!set)

/-- The image of rows of bytes; none if bytes are missing. Bytes behind the last row are
    ignored. -/
def image? (format : PixelFormat) (width height : Nat) (bytes : Bytes) : Option Image :=
  let size := format.rowBytes width
  if bytes.length < size * height then none
  else
    Image.ofPixels? width height
      ((rowsOf size height bytes).flatMap fun bytes => format.row width bytes)

end PixelFormat

end ThermalLabel
