/-
  Diagnostics: the problems that a conversion met without ending.

  A diagnostic says which item was skipped, by its index and its own name, and why. Its kind
  and its message follow from the cause.
-/
import ThermalLabel.Fault

namespace ThermalLabel

/-- Why an item was skipped. -/
inductive Cause where
  | fault (reason : Fault)
  /-- The text has no label block. -/
  | noLabelBlock
  /-- No field data follow a barcode. -/
  | noFieldData
  /-- A recall names a graphic that was not stored. -/
  | notStored (name : Text)
  /-- An earlier image has the same name. -/
  | nameTaken (name : Text)
  /-- Image loading was cancelled. -/
  | cancelled
  deriving DecidableEq

namespace Cause

/-- The kind of a cause. A fault that ends a run makes no diagnostic and has no kind of its
    own; it counts as malformed. -/
def kind : Cause → DiagnosticKind
  | fault reason => reason.diagnosticKind?.getD .malformed
  | noLabelBlock => .structural
  | noFieldData | notStored _ => .reference
  | nameTaken _ => .malformed
  | cancelled => .cancelled

/-- The wording of a cause. -/
def message : Cause → String
  | fault reason => reason.message
  | noLabelBlock => "no ^XA...^XZ label block"
  | noFieldData => "barcode without following ^FD"
  | notStored name => "graphic " ++ Text.shown name ++ " was not stored"
  | nameTaken name => "image name " ++ Text.shown name ++ " is already used"
  | cancelled => "image load cancelled"

/-- The cause that a fault becomes if it only skips an item; otherwise the fault itself. -/
def ofFault (reason : Fault) : Except Fault Cause :=
  if reason.diagnosticKind?.isSome then .ok (.fault reason) else .error reason

end Cause

/-- A skipped item and why it was skipped. -/
structure Diagnostic where
  index : Option Nat
  source : Text
  cause : Cause
  deriving DecidableEq

namespace Diagnostic

/-- The kind of a diagnostic. -/
def kind (d : Diagnostic) : DiagnosticKind := d.cause.kind

/-- The message of a diagnostic. -/
def message (d : Diagnostic) : String := d.cause.message

end Diagnostic

end ThermalLabel
