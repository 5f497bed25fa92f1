/-
  Layout records: the drawing instructions of a label script.

  A record starts with the letter of its kind and ends with a carriage return. Coordinates come
  row first; a box and a line give their far corner, and a box its thickness twice.
-/
import ThermalLabel.Script.Position
import ThermalLabel.Script.Size

namespace ThermalLabel

/-- One drawing instruction. -/
inductive Record where
  | text (y x : Position) (body : Text)
  | qrCode (y x : Position) (code : Text)
  | barcode (symbology : Text) (y x : Position) (code : Text)
  | box (y x endY endX : Position) (thickness : Size)
  | circle (y x : Position) (diameter thickness : Size)
  | line (y x endY endX : Position) (thickness : Size)
  | recallImage (y x : Position) (name : Text)
  deriving DecidableEq

namespace Record

/-- The mark at the end of a record. -/
def terminator : Char := '\r'

/-- The record without its terminator. -/
def body : Record → Text
  | text y x body => ['1', '2', '1', '1', '0', '0', '0'] ++ y.field ++ x.field ++ body
  | qrCode y x code =>
    ['B', ' ', 'Q', ',', 'M', ',', 'S', '7'] ++ y.field ++ ',' :: x.field ++
      [',', 'd', '2', ','] ++ code
  | barcode symbology y x code => 'B' :: symbology ++ y.field ++ x.field ++ code
  | box y x endY endX thickness =>
    'E' :: y.field ++ ',' :: x.field ++ ',' :: endY.field ++ ',' :: endX.field ++
      ',' :: thickness.field ++ ',' :: thickness.field
  | circle y x diameter thickness =>
    'C' :: y.field ++ ',' :: x.field ++ ',' :: diameter.field ++ ',' :: thickness.field
  | line y x endY endX thickness =>
    'X' :: y.field ++ ',' :: x.field ++ ',' :: endY.field ++ ',' :: endX.field ++
      ',' :: thickness.field
  | recallImage y x name => 'Y' :: y.field ++ ',' :: x.field ++ ',' :: name

/-- The text of a record. -/
def render (r : Record) : Text := r.body ++ [terminator]

end Record

end ThermalLabel
