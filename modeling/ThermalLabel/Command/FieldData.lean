/-
  Field data: the text that a barcode takes from a later command.

  In a list of commands the field data of the command at an index is the first one behind it
  whose offset is larger. An index below zero counts from the end of the list, and so do the
  indexes of the search that starts there; the comparison of offsets keeps such a search from
  taking field data that stands before the command.
-/
import ThermalLabel.Command.Basic
import ThermalLabel.Fault

namespace ThermalLabel

namespace Command

/-- The opcode of field data. -/
def fieldDataOpcode : Text := ['F', 'D']

/-- The command at an index, where indexes below zero count from the end. -/
def at? (commands : List Command) (index : Int) : Option Command :=
  if 0 ≤ index then commands[index.toNat]?
  else if -(commands.length : Int) ≤ index then commands[(commands.length + index).toNat]?
  else none

/-- The indexes behind a given one. -/
def indexesAfter (commands : List Command) (index : Int) : List Int :=
  (List.range ((commands.length : Int) - (index + 1)).toNat).map fun (k : Nat) => index + 1 + k

/-- The index of the field data of the command at an index, none if the list ends first. -/
def fieldDataIndex (commands : List Command) (index : Int) : Except Fault (Option Int) :=
  match at? commands index with
  | none => .error .noSuchCommand
  | some start =>
    .ok ((indexesAfter commands index).find? fun i =>
      match at? commands i with
      | some c => c.opcode = fieldDataOpcode ∧ start.offset < c.offset
      | none => false)

/-- The parameters of the first field data among the commands that follow a barcode. -/
def fieldData? (later : List Command) : Option Text :=
  (later.find? fun c => c.opcode = fieldDataOpcode).map Command.params

end Command

end ThermalLabel
