/-
  The conversion of a label text into a label.

  Each download of the text and each command of its label block has one outcome, and nothing
  else is produced: the images, the records, the diagnostics and the log of a conversion are
  views of the outcomes. An outcome depends on the item itself, on the origin that the moves
  before it set, on the commands behind it, and on which graphics are stored; it never depends
  on what an earlier item was skipped for.
-/
import ThermalLabel.Command.FieldData
import ThermalLabel.Command.Origin
import ThermalLabel.Diagnostic
import ThermalLabel.Graphic.Download
import ThermalLabel.Graphic.RunLength
import ThermalLabel.Log
import ThermalLabel.Script.Label

namespace ThermalLabel

/-! ## Graphics -/

/-- What is done about a corrupt payload. -/
inductive Strictness where
  /-- The graphic is skipped. -/
  | lenient
  /-- The conversion ends. -/
  | strict
  deriving DecidableEq

/-- What became of a download. -/
inductive GraphicOutcome where
  | stored (image : StoredImage)
  | skipped (reason : Fault)
  deriving DecidableEq

namespace GraphicOutcome

/-- The image that was stored. -/
def image? : GraphicOutcome → Option StoredImage
  | stored image => some image
  | skipped _ => none

end GraphicOutcome

namespace Download

/-- Expanded data look hexadecimal: a line end behind the digits is let through. -/
def looksHexadecimal (data : Text) : Bool :=
  ((Text.dropEnding? ['\n'] data).getD data).all StoredImage.isHexadecimal

/-- The bits of a download in hexadecimal. -/
def expansion (d : Download) : Except Fault Text := do
  let data ← RunLength.decode d.payload
  if looksHexadecimal data then return data else throw (.notHexadecimal d.name)

/-- What becomes of a download. -/
def outcome (strictness : Strictness) (d : Download) : Except Fault GraphicOutcome :=
  match d.expansion with
  | .ok data => (StoredImage.make d.name data).map .stored
  | .error reason => if strictness = .strict then .error reason else .ok (.skipped reason)

/-- The outcomes of downloads in order, up to the first that ends the conversion. -/
def outcomesBeforeFault (strictness : Strictness) :
    List Download → List (Download × GraphicOutcome)
  | [] => []
  | d :: later =>
    match d.outcome strictness with
    | .ok result => (d, result) :: outcomesBeforeFault strictness later
    | .error _ => []

end Download

/-! ## Commands -/

/-- What a command asks for. -/
inductive Instruction where
  | moveOrigin
  | fieldData
  | qrCode
  | barcode (symbology : Char)
  | box
  | circle
  | line
  | recallImage
  | other
  deriving DecidableEq

/-- What became of a command. -/
inductive CommandOutcome where
  | drawn (record : Record)
  | moved (origin : Origin)
  | skipped (cause : Cause)
  | ignored
  deriving DecidableEq

namespace CommandOutcome

/-- The record that was drawn. -/
def record? : CommandOutcome → Option Record
  | drawn record => some record
  | _ => none

/-- Why the command was skipped. -/
def cause? : CommandOutcome → Option Cause
  | skipped cause => some cause
  | _ => none

/-- The origin of the next command. -/
def originAfter (current : Origin) : CommandOutcome → Origin
  | moved origin => origin
  | _ => current

end CommandOutcome

namespace Command

/-- What an opcode asks for. -/
def instruction (c : Command) : Instruction :=
  if c.opcode = ['F', 'O'] then .moveOrigin
  else if c.opcode = fieldDataOpcode then .fieldData
  else if c.opcode = ['G', 'B'] then .box
  else if c.opcode = ['G', 'C'] then .circle
  else if c.opcode = ['G', 'D'] then .line
  else if c.opcode = ['X', 'G'] then .recallImage
  else
    match c.opcode with
    | ['B', symbology] =>
      if symbology = 'Y' then .other
      else if symbology = 'Q' then .qrCode
      else .barcode symbology
    | _ => .other

/-- The data of a QR code without the error correction level and input mode at their front. -/
def qrData : Text → Text
  | level :: mode :: ',' :: rest =>
    if level ∈ ['H', 'Q', 'M', 'L'] ∧ mode ∈ ['A', 'M'] then rest
    else level :: mode :: ',' :: rest
  | data => data

/-- The field data that a barcode takes from the commands behind it. -/
def barcodeData (later : List Command) : Except Cause Text :=
  (fieldData? later).elim (.error .noFieldData) .ok

/-- The figure that a command draws at the origin, none if it draws nothing. `stored` are the
    names of the graphics that can be recalled, `later` the commands behind this one. -/
def figure (stored : List Text) (origin : Origin) (later : List Command) (c : Command) :
    Except Cause (Option Figure) :=
  let x := Quantity.number origin.x
  let y := Quantity.number origin.y
  -- there are as many numbers as defaults, so the other lists do not occur
  let numbers defaults := (c.integers defaults).mapError Cause.fault
  match c.instruction with
  | .fieldData => .ok (some (.text x y c.params))
  | .qrCode => do
    return some (.barcode x y (qrData (← barcodeData later)) Figure.qrCodeLetter)
  | .barcode symbology => do return some (.barcode x y (← barcodeData later) [symbology])
  | .box => do
    match ← numbers [none, none, some Figure.defaultThickness] with
    | [width, height, some thickness] =>
      return some (.box x y (.ofInt (width.getD thickness)) (.ofInt (height.getD thickness))
        (.ofInt thickness))
    | _ => return none
  | .circle => do
    match ← numbers [some 3, some Figure.defaultThickness] with
    | [some diameter, some thickness] =>
      return some (.circle x y (.ofInt diameter) (.ofInt thickness))
    | _ => return none
  | .line => do
    match ← numbers [some 3, some 3, some Figure.defaultThickness] with
    | [some width, some height, some thickness] =>
      return some (.line x y (.ofInt width) (.ofInt height) (.ofInt thickness))
    | _ => return none
  | .recallImage =>
    let name := Reference.graphicName c.params
    if name ∈ stored then .ok (some (.recallImage x y name)) else .error (.notStored name)
  | .moveOrigin | .other => .ok none

/-- What becomes of a command. -/
def outcome (stored : List Text) (origin : Origin) (later : List Command) (c : Command) :
    Except Fault CommandOutcome :=
  if c.instruction = .moveOrigin then
    match origin.move c with
    | .ok moved => .ok (.moved moved)
    | .error reason => (Cause.ofFault reason).map .skipped
  else
    match c.figure stored origin later with
    | .ok none => .ok .ignored
    | .ok (some figure) =>
      match figure.record with
      | .ok record => .ok (.drawn record)
      | .error reason => (Cause.ofFault reason).map .skipped
    | .error cause => .ok (.skipped cause)

/-- The outcomes of commands in order, from an origin on. -/
def outcomes (stored : List Text) (origin : Origin) :
    List Command → Except Fault (List (Command × CommandOutcome))
  | [] => .ok []
  | c :: later => do
    let result ← c.outcome stored origin later
    let others ← outcomes stored (result.originAfter origin) later
    return (c, result) :: others

/-- The outcomes of commands in order, up to the first that ends the conversion. -/
def outcomesBeforeFault (stored : List Text) (origin : Origin) :
    List Command → List (Command × CommandOutcome)
  | [] => []
  | c :: later =>
    match c.outcome stored origin later with
    | .ok result =>
      (c, result) :: outcomesBeforeFault stored (result.originAfter origin) later
    | .error _ => []

end Command

/-! ## The whole text -/

/-- What became of a label text. -/
structure Conversion where
  config : Text
  graphics : List (Download × GraphicOutcome)
  /-- The commands of the label block, none if there is no block. -/
  layout : Option (List (Command × CommandOutcome))

namespace Conversion

/-- Converts a label text. -/
def ofText (strictness : Strictness) (config zpl : Text) : Except Fault Conversion := do
  let downloads ← Download.all zpl
  let graphics ← downloads.mapM fun d => do return (d, ← d.outcome strictness)
  let stored := graphics.filterMap fun g => g.2.image?.map StoredImage.name
  match labelBlock? zpl with
  | none => return ⟨config, graphics, none⟩
  | some block =>
    return ⟨config, graphics, some (← Command.outcomes stored .initial (Command.parse block))⟩

/-- What has become of a label text before the conversion ends in a fault; all of it, if there is no
    fault. -/
def untilFault (strictness : Strictness) (config zpl : Text) : Conversion :=
  match Download.all zpl with
  | .error _ => ⟨config, [], some []⟩
  | .ok downloads =>
    let graphics := Download.outcomesBeforeFault strictness downloads
    let stored := graphics.filterMap fun g => g.2.image?.map StoredImage.name
    if graphics.length < downloads.length then ⟨config, graphics, some []⟩
    else
      match labelBlock? zpl with
      | none => ⟨config, graphics, none⟩
      | some block =>
        ⟨config, graphics,
          some (Command.outcomesBeforeFault stored .initial (Command.parse block))⟩

/-- The label that a conversion made. -/
def label (c : Conversion) : Label where
  config := c.config
  images := c.graphics.filterMap fun g => g.2.image?
  records := (c.layout.getD []).filterMap fun l => l.2.record?

/-- The script of the label. -/
def script (c : Conversion) : Text := c.label.script

/-! ## Diagnostics and log -/

/-- The diagnostic of a download, if it was skipped. -/
def graphicDiagnostic? (index : Nat) : Download × GraphicOutcome → Option Diagnostic
  | (d, .skipped reason) => some ⟨some index, d.name, .fault reason⟩
  | (_, .stored _) => none

/-- The diagnostic of a missing label block. -/
def blockDiagnostic : Diagnostic := ⟨none, ['X', 'A'], .noLabelBlock⟩

/-- The diagnostic of a command, if it was skipped. -/
def commandDiagnostic? (index : Nat) : Command × CommandOutcome → Option Diagnostic
  | (c, .skipped cause) => some ⟨some index, c.opcode, cause⟩
  | _ => none

/-- The diagnostics of a conversion: those of the graphics, then those of the layout. -/
def diagnostics (c : Conversion) : List Diagnostic :=
  c.graphics.zipIdx.filterMap (fun g => graphicDiagnostic? g.2 g.1) ++
    match c.layout with
    | none => [blockDiagnostic]
    | some commands => commands.zipIdx.filterMap fun l => commandDiagnostic? l.2 l.1

/-- The log line of a download. -/
def graphicLine? : Download × GraphicOutcome → Option LogLine
  | (d, .skipped reason) =>
    some ⟨.error, .conversion, "Skipping graphic " ++ Text.shown d.name ++ ": " ++ reason.message⟩
  | (_, .stored _) => none

/-- The log line of a missing label block. -/
def blockLine : LogLine := ⟨.warning, .conversion, "No ^XA...^XZ label block found"⟩

/-- The log line of a skipped command. -/
def skippedLine (c : Command) : Cause → LogLine
  | .noFieldData =>
    ⟨.warning, .conversion, "^" ++ Text.shown c.opcode ++ " has no field data"⟩
  | .notStored name =>
    ⟨.warning, .conversion, "^XG recalls unknown graphic " ++ Text.shown name⟩
  | cause =>
    ⟨.warning, .conversion, "Skipping ^" ++ Text.shown c.opcode ++ ": " ++ cause.message⟩

/-- The log line of a command. -/
def commandLine? : Command × CommandOutcome → Option LogLine
  | (c, .skipped cause) => some (skippedLine c cause)
  | (c, .ignored) =>
    some ⟨.debug, .conversion, "Ignoring ^" ++ Text.shown c.opcode ++ Text.shown c.params⟩
  | _ => none

/-- The log of a conversion. -/
def log (c : Conversion) : List LogLine :=
  c.graphics.filterMap graphicLine? ++
    match c.layout with
    | none => [blockLine]
    | some commands => commands.filterMap commandLine?

end Conversion

end ThermalLabel
