/-
  Commands of a label block.

  A command is a caret, an opcode of two capital letters or digits, and parameters that run up
  to the next caret or tilde. A caret without an opcode, and what stands after a tilde, belongs
  to no command. Parameters hold no caret, so the commands are found by trying every position.
  Those that are whole numbers are read in a row, with a default for each that is empty.
-/
import ThermalLabel.Fault

namespace ThermalLabel

/-- A command and where its caret stands. -/
structure Command where
  opcode : Text
  params : Text
  offset : Int
  deriving DecidableEq

namespace Command

/-- A character of an opcode. -/
def isOpcode (c : Char) : Bool := c.isUpper || c.isDigit

/-- A character of parameters. -/
def isParameter (c : Char) : Bool := c != '^' && c != '~'

/-- The command at the front of a text that stands at `offset`. -/
def command? (offset : Nat) : Text → Option Command
  | '^' :: a :: b :: rest =>
    if isOpcode a && isOpcode b then some ⟨[a, b], rest.takeWhile isParameter, offset⟩ else none
  | _ => none

/-- The commands of a text that stands at `offset`. -/
def parseFrom (offset : Nat) : Text → List Command
  | [] => []
  | c :: rest =>
    match command? offset (c :: rest) with
    | some command => command :: parseFrom (offset + 1) rest
    | none => parseFrom (offset + 1) rest

/-- The commands of a label block, in order. -/
def parse (block : Text) : List Command := parseFrom 0 block

/-- The parameters between the commas, without the blanks around them. -/
def parameters (c : Command) : List Text := (Text.fields ',' c.params).map Text.trim

/-- The parameter with the given number, from 0; empty if there are fewer. -/
def parameter (c : Command) (i : Nat) : Text := (c.parameters[i]?).getD []

/-- A whole-number parameter; none if it is empty. -/
def integer? (c : Command) (i : Nat) : Except Fault (Option Int) :=
  if c.parameter i = [] then .ok none
  else
    match Numeral.integer? (c.parameter i) with
    | some n => .ok (some n)
    | none => .error (.notInteger (c.parameter i) c.opcode c.params)

/-- The leading whole-number parameters, those that are empty by their defaults. -/
def integers (c : Command) (defaults : List (Option Int)) : Except Fault (List (Option Int)) :=
  defaults.zipIdx.mapM fun (default, i) => do return (← c.integer? i).orElse fun _ => default

/-- The text of a command. -/
def render (c : Command) : Text := '^' :: c.opcode ++ c.params

end Command

/-- What stands between the first `^XA` of a text and the next `^XZ`. -/
def labelBlock? (zpl : Text) : Option Text := do
  let (_, after) ← Text.cut? ['^', 'X', 'A'] zpl
  let (block, _) ← Text.cut? ['^', 'X', 'Z'] after
  return block

end ThermalLabel
