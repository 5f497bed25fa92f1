/-
  Calls that build a label.

  A call stores an image or draws a figure, with its arguments as they are given: each may be a
  number, a truth value, a text or missing. The arguments are read one after the other. The first
  that cannot be read ends the call; when all are read, the call adds to the label.
-/
import ThermalLabel.Script.Label

namespace ThermalLabel

namespace Quantity

/-- A quantity as it is written into a line. A whole number of more digits than are read is not
    written either. -/
def written : Quantity → Except Fault Text
  | number (.integer n) =>
    if Decimal.length n.natAbs ≤ Numeral.digitLimit then .ok (Decimal.ofInt n)
    else .error (.tooManyDigits (Decimal.length n.natAbs))
  | number (.real x) => .ok x.text
  | flag b => .ok (flagText b)
  | text t => .ok t
  | missing => .ok ['N', 'o', 'n', 'e']

/-- The symbology is the QR code. -/
def isQrCode : Quantity → Bool
  | text t => Figure.isQrCode t
  | _ => false

end Quantity

/-- A call with its arguments as they are given. -/
inductive LabelCall where
  | storeImage (name data : Quantity)
  | writeText (x y body : Quantity)
  | barcode (x y code symbology : Quantity)
  | drawBox (x y width height thickness : Quantity)
  | drawCircle (x y diameter thickness : Quantity)
  | drawLine (x y width height thickness : Quantity)
  | recallImage (x y name : Quantity)
  deriving DecidableEq

/-- A course of building: it ends with a label also where it fails, and what was added before
    stays. -/
abbrev Building := EStateM Fault Label

namespace Building

/-- An argument that was read, or the end of the call for what is wrong with it. -/
def argument {α : Type} : Except Fault α → Building α
  | .ok a => pure a
  | .error reason => throw reason

/-- The end of the call unless the condition holds. -/
def require (condition : Bool) (reason : Fault) : Building Unit :=
  if condition then pure () else throw reason

def store (image : StoredImage) : Building Unit :=
  modify fun label => { label with images := label.images ++ [image] }

def draw (record : Record) : Building Unit :=
  modify fun label => { label with records := label.records ++ [record] }

end Building

namespace LabelCall

open Building

/-- What a call does to the label. -/
def build : LabelCall → Building Unit
  | storeImage name data => do
    let name ← argument name.literal
    require (name ≠ [] && name.all Text.isWord) .storedNameNotWord
    let data ← argument data.literal
    require (data.all StoredImage.isHexadecimal) .storedDataNotHexadecimal
    store ⟨name, data⟩
  | writeText x y body => do
    let row ← argument (Position.read y)
    let column ← argument (Position.read x)
    draw (.text row column (← argument body.written))
  | barcode x y code symbology => do
    let row ← argument (Position.read y)
    let column ← argument (Position.read x)
    if symbology.isQrCode then
      draw (.qrCode row column (← argument code.written))
    else
      let symbology ← argument symbology.written
      draw (.barcode symbology row column (← argument code.written))
  | drawBox x y width height thickness => do
    let row ← argument (Position.read y)
    let column ← argument (Position.read x)
    let bottom ← argument (y.plus height)
    let endRow ← argument (Position.read bottom)
    let right ← argument (x.plus width)
    let endColumn ← argument (Position.read right)
    draw (.box row column endRow endColumn (← argument (Size.read thickness)))
  | drawCircle x y diameter thickness => do
    let row ← argument (Position.read y)
    let column ← argument (Position.read x)
    let across ← argument (Size.read diameter)
    draw (.circle row column across (← argument (Size.read thickness)))
  | drawLine x y width height thickness => do
    let row ← argument (Position.read y)
    let column ← argument (Position.read x)
    let bottom ← argument (y.plus height)
    let endRow ← argument (Position.read bottom)
    let right ← argument (x.plus width)
    let endColumn ← argument (Position.read right)
    draw (.line row column endRow endColumn (← argument (Size.read thickness)))
  | recallImage x y name => do
    let row ← argument (Position.read y)
    let column ← argument (Position.read x)
    draw (.recallImage row column (← argument name.written))

/-- The call is for an image, not for the layout. -/
def stores : LabelCall → Bool
  | storeImage .. => true
  | _ => false

/-- The label behind a call, also behind one that fails. -/
def after (call : LabelCall) (label : Label) : Label :=
  match call.build label with
  | .ok _ next => next
  | .error _ left => left

/-- The call that makes a request. -/
def ofRequest : LabelRequest → LabelCall
  | .store name data => storeImage (.text name) (.text data)
  | .draw (.text x y body) => writeText x y (.text body)
  | .draw (.barcode x y code symbology) => barcode x y (.text code) (.text symbology)
  | .draw (.box x y width height thickness) => drawBox x y width height thickness
  | .draw (.circle x y diameter thickness) => drawCircle x y diameter thickness
  | .draw (.line x y width height thickness) => drawLine x y width height thickness
  | .draw (.recallImage x y name) => recallImage x y (.text name)

end LabelCall

namespace Label

/-- The label behind several calls. -/
def afterCalls (label : Label) (calls : List LabelCall) : Label :=
  calls.foldl (fun l call => call.after l) label

@[simp]
theorem afterCalls_cons (label : Label) (call : LabelCall) (calls : List LabelCall) :
    label.afterCalls (call :: calls) = (call.after label).afterCalls calls := rfl

end Label

end ThermalLabel
