/-
  Downloads: the graphics that a label text brings along.

  A download is `~DG`, an optional device letter with a colon, a name of word characters, an
  optional `.GRF`, two numbers and a payload of ASCII letters, digits and line breaks, with a
  comma before each number and before the payload. It may stand anywhere. None of its parts
  can hold a tilde, so the downloads of a text are found by trying every position.

  A recall refers to its graphic by the name that the download gave it, with an optional device
  before a colon and an optional file extension, in letters of either case; parameters may follow
  after a comma.
-/
import ThermalLabel.Fault
import ThermalLabel.Text.Uppercase
import ThermalLabel.Text.Word

namespace ThermalLabel

/-- A graphic to be stored, with its payload still compressed and free of line breaks. -/
structure Download where
  name : Text
  totalBytes : Nat
  bytesPerRow : Nat
  payload : Text
  deriving DecidableEq

namespace Download

/-- A download as it stands in the text: the parts of its header and its payload. -/
structure Source where
  name : Text
  totalBytes : Text
  bytesPerRow : Text
  payload : Text
  deriving DecidableEq

/-! ## Recognition -/

/-- A character of a payload. -/
def isPayload (c : Char) : Bool := c.isAlphanum || c == '\n' || c == '\r'

/-- What follows an optional device letter and its colon. -/
def afterDevice : Text → Text
  | c :: ':' :: rest => if c.isUpper then rest else c :: ':' :: rest
  | t => t

/-- What follows an optional file extension. -/
def afterExtension : Text → Text
  | '.' :: 'G' :: 'R' :: 'F' :: rest => rest
  | t => t

/-- What follows a comma. -/
def afterComma? : Text → Option Text
  | ',' :: rest => some rest
  | _ => none

/-- The longest non-empty piece of a class at the front, and what follows it. -/
def piece? (p : Char → Bool) (t : Text) : Option (Text × Text) :=
  if t.takeWhile p = [] then none else some (t.takeWhile p, t.dropWhile p)

/-- The download at the front of a text. -/
def source? : Text → Option Source
  | '~' :: 'D' :: 'G' :: rest => do
    let (name, rest) ← piece? Text.isWord (afterDevice rest)
    let (total, rest) ← piece? Text.isDecimalDigit (← afterComma? (afterExtension rest))
    let (row, rest) ← piece? Text.isDecimalDigit (← afterComma? rest)
    let (payload, _) ← piece? isPayload (← afterComma? rest)
    return ⟨name, total, row, payload.filter fun c => c != '\n' && c != '\r'⟩
  | _ => none

/-- The downloads of a text, in order. -/
def sources : Text → List Source
  | [] => []
  | c :: rest =>
    match source? (c :: rest) with
    | some s => s :: sources rest
    | none => sources rest

/-! ## Numbers -/

/-- The number that a run of digits denotes. -/
def number (digits : Text) : Except Fault Nat :=
  if digits.length ≤ Numeral.digitLimit then .ok (Decimal.value (Numeral.digits digits).1)
  else .error (.tooManyDigits digits.length)

/-- The download with its numbers read. -/
def Source.read (s : Source) : Except Fault Download := do
  let total ← number s.totalBytes
  let row ← number s.bytesPerRow
  return ⟨s.name, total, row, s.payload⟩

/-- The downloads of a text, in order, with their numbers read. -/
def all (zpl : Text) : Except Fault (List Download) := (sources zpl).mapM Source.read

end Download

/-! ## References -/

namespace Reference

/-- What follows the first colon; the whole text if there is none. -/
def afterColon (t : Text) : Text :=
  match t.dropWhile (· ≠ ':') with
  | [] => t
  | _ :: rest => rest

/-- The text without its last four characters if its capital form ends in the file extension. -/
def withoutExtension (t : Text) : Text :=
  if ['.', 'G', 'R', 'F'].isSuffixOf (Text.uppercase t) then t.take (t.length - 4) else t

/-- The name of the graphic that a reference is to. -/
def graphicName (reference : Text) : Text :=
  withoutExtension (afterColon (Text.trim (reference.takeWhile (· ≠ ','))))

end Reference

end ThermalLabel
