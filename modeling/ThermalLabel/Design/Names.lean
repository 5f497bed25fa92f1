/-
  The names of a design's images.

  An image keeps the name it is given; a second image of that name is not loaded. An image
  without a name gets `IMG` and the next number whose name is not given to any image of the
  design. Names do not depend on what becomes of the images.
-/
import ThermalLabel.Design.Element

namespace ThermalLabel

/-- An image of a design: to be loaded under a name, or left out because its name is taken. -/
inductive ImagePlan where
  | load (index : Nat) (source : Quantity) (name : Text)
  | taken (index : Nat) (name : Text)
  deriving DecidableEq

namespace ImagePlan

/-- The generated name with a number. -/
def generatedName (n : Nat) : Text := ['I', 'M', 'G'] ++ Decimal.padded 3 n

/-- The names given to the images among elements. -/
def givenNames (elements : List (Nat × Element)) : List Text :=
  elements.filterMap fun e =>
    match e.2 with
    | .image _ _ _ name => name
    | _ => none

/-- The least number above `last` whose name is not given. One of the next numbers, one more
    than there are given names, is free. -/
def nextNumber (given : List Text) (last : Nat) : Nat :=
  let candidates := (List.range (given.length + 1)).map (last + 1 + ·)
  (candidates.find? fun n => generatedName n ∉ given).getD (last + 1)

/-- The plan for the images among elements, after the names `seen` were used up and the
    number `last` was given out. -/
def plan (given seen : List Text) (last : Nat) : List (Nat × Element) → List ImagePlan
  | [] => []
  | (i, .image _ _ source (some name)) :: rest =>
    if name ∈ seen then taken i name :: plan given seen last rest
    else load i source name :: plan given (name :: seen) last rest
  | (i, .image _ _ source none) :: rest =>
    let n := nextNumber given last
    load i source (generatedName n) :: plan given seen n rest
  | _ :: rest => plan given seen last rest

/-- The plan for the images of a design. -/
def ofElements (elements : List (Nat × Element)) : List ImagePlan :=
  plan (givenNames elements) [] 0 elements

end ImagePlan

end ThermalLabel
