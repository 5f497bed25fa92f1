/-
  Run-length payloads of graphics.

  A payload is a row of tokens: a count character with the one character that it repeats, or a
  character that stands for itself. `G` to `Y` count 1 to 19 and `g` to `y` count 20 to 380 in
  steps of twenty. The character after a count is always repeated, also where it is a count
  character itself; a count at the end has nothing to repeat. The expansion is upper-cased.
-/
import ThermalLabel.Fault
import ThermalLabel.Text.Uppercase

namespace ThermalLabel

namespace RunLength

/-- The number that a count character stands for. -/
def count? (c : Char) : Option Nat :=
  if 'G' ≤ c ∧ c ≤ 'Y' then some (c.toNat - 'F'.toNat)
  else if 'g' ≤ c ∧ c ≤ 'y' then some (20 * (c.toNat - 'f'.toNat))
  else none

/-- A piece of a payload. -/
inductive Token where
  | single (c : Char)
  | run (count : Nat) (c : Char)
  deriving DecidableEq

/-- The characters that a token stands for. -/
def Token.expand : Token → Text
  | single c => [c]
  | run count c => List.replicate count c

/-- The tokens of a payload that stands at `offset`. -/
def tokens (offset : Nat) : Text → Except Fault (List Token)
  | [] => .ok []
  | c :: rest =>
    match count? c with
    | none => (tokens (offset + 1) rest).map (.single c :: ·)
    | some n =>
      match rest with
      | [] => .error (.danglingCount c offset)
      | d :: rest => (tokens (offset + 2) rest).map (.run n d :: ·)

/-- The expansion of a payload, in capitals. -/
def decode (payload : Text) : Except Fault Text := do
  let ts ← tokens 0 payload
  return Text.uppercase (ts.flatMap Token.expand)

end RunLength

end ThermalLabel
