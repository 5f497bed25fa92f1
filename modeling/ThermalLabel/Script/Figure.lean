/-
  Figures: what is to be drawn, at coordinates and sizes as they are given.

  `Figure.record` reads the quantities of a figure into the fields of its record, or says why
  it cannot be drawn. Coordinates are read row first, then the far corner, then the sizes, and
  the first that cannot be read decides the fault.
-/
import ThermalLabel.Script.Record

namespace ThermalLabel

/-- Something to draw. -/
inductive Figure where
  | text (x y : Quantity) (body : Text)
  | barcode (x y : Quantity) (code symbology : Text)
  | box (x y width height thickness : Quantity)
  | circle (x y diameter thickness : Quantity)
  /-- A diagonal from the given corner to the far one. -/
  | line (x y width height thickness : Quantity)
  | recallImage (x y : Quantity) (name : Text)
  deriving DecidableEq

namespace Figure

/-- The symbology of linear barcodes that do not name one. -/
def defaultSymbology : Text := ['C']

/-- The thickness of figures that do not give one. -/
def defaultThickness : Int := 1

/-- The letter of the QR code among the symbologies. -/
def qrCodeLetter : Text := ['Q']

/-- The name of the QR code among the symbologies. -/
def qrCodeName : Text := "qrcode".toList

/-- The symbology is the QR code. -/
def isQrCode (symbology : Text) : Bool := symbology == qrCodeLetter || symbology == qrCodeName

/-- The record that draws a figure. -/
def record : Figure → Except Fault Record
  | text x y body => do
    let row ← Position.read y
    let column ← Position.read x
    return .text row column body
  | barcode x y code symbology => do
    let row ← Position.read y
    let column ← Position.read x
    return if isQrCode symbology then .qrCode row column code
      else .barcode symbology row column code
  | box x y width height thickness => do
    let row ← Position.read y
    let column ← Position.read x
    let endRow ← Position.read (← y.plus height)
    let endColumn ← Position.read (← x.plus width)
    return .box row column endRow endColumn (← Size.read thickness)
  | circle x y diameter thickness => do
    let row ← Position.read y
    let column ← Position.read x
    let across ← Size.read diameter
    return .circle row column across (← Size.read thickness)
  | line x y width height thickness => do
    let row ← Position.read y
    let column ← Position.read x
    let endRow ← Position.read (← y.plus height)
    let endColumn ← Position.read (← x.plus width)
    return .line row column endRow endColumn (← Size.read thickness)
  | recallImage x y name => do
    let row ← Position.read y
    let column ← Position.read x
    return .recallImage row column name

end Figure

end ThermalLabel
