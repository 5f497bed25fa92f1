/-
  Shapes that can be written as commands or handed over as elements of a design.

  A shape has whole numbers for its coordinates and sizes. Its commands move the origin to the
  doubles nearest to the coordinates and draw a figure with the whole-number sizes
  (`Shape.move_origin`, `Shape.figure_drawing`); its element is resolved to one with doubles
  throughout (`Shape.resolve_element`). Both figures come to the same (`Shape.sameResult_figure`).
-/
import ThermalLabel.Design.Conversion
import ThermalLabel.Proofs.Command.Writing
import ThermalLabel.Proofs.Script.Sameness

namespace ThermalLabel

namespace Binary64

/-- The double nearest to a whole number, an infinity if the number is out of range. -/
def nearestInt (n : Int) : Binary64 := ofRatio (n < 0) n.natAbs 1

theorem ofInt?_of_lt {n : Int} (h : n.natAbs < 10 ^ 300) : ofInt? n = some (nearestInt n) := by
  have hlimit : 10 ^ 300 ≤ overflowLimit := by decide +kernel
  cases hn : ofInt? n with
  | none => exact absurd (ofInt?_eq_none_iff.mp hn) (Nat.not_le_of_lt (h.trans_le hlimit))
  | some x => rw [nearestInt, eq_of_finite? hn]

end Binary64

/-- A shape at a place, with whole numbers for its coordinates and sizes. -/
inductive Shape where
  | text (x y : Int) (body : Text)
  | box (x y width height thickness : Int)
  | circle (x y diameter thickness : Int)
  /-- A diagonal from the given corner to the far one. -/
  | line (x y width height thickness : Int)
  deriving DecidableEq

namespace Shape

def x : Shape → Int
  | text x .. | box x .. | circle x .. | line x .. => x

def y : Shape → Int
  | text _ y _ | box _ y .. | circle _ y .. | line _ y .. => y

/-- The sizes of a shape, as its command has them. -/
def sizes : Shape → List Int
  | text .. => []
  | box _ _ width height thickness | line _ _ width height thickness => [width, height, thickness]
  | circle _ _ diameter thickness => [diameter, thickness]

/-- The text of a shape that is a text. -/
def body : Shape → Text
  | text _ _ body => body
  | box .. | circle .. | line .. => []

/-- The numbers are well within the range of doubles, and the text holds no caret and no tilde. -/
structure IsPlain (s : Shape) : Prop where
  numbers : ∀ n ∈ s.x :: s.y :: s.sizes, n.natAbs < 10 ^ 300
  body : ∀ c ∈ s.body, c ≠ '^' ∧ c ≠ '~'

/-! ### As commands -/

/-- The command that draws a shape at the origin. -/
def drawing : Shape → Command
  | text _ _ body => ⟨['F', 'D'], body, 0⟩
  | box _ _ width height thickness => .ofNumbers ['G', 'B'] [width, height, thickness]
  | circle _ _ diameter thickness => .ofNumbers ['G', 'C'] [diameter, thickness]
  | line _ _ width height thickness => .ofNumbers ['G', 'D'] [width, height, thickness]

/-- The commands of a shape: to move the origin, to draw and to end the field. -/
def commands (s : Shape) : List Command :=
  [.ofNumbers ['F', 'O'] [s.x, s.y], s.drawing, ⟨['F', 'S'], [], 0⟩]

/-- The label text of shapes. -/
def labelText (shapes : List Shape) : Text :=
  ['^', 'X', 'A'] ++ Command.renderAll (shapes.flatMap commands) ++ ['^', 'X', 'Z']

/-! ### As elements of a design -/

/-- The element of a shape, its thickness as an attribute in digits. -/
def element : Shape → PlacedElement
  | text x y body =>
    ⟨"text".toList, .ofInt x, .ofInt y, .missing, .missing, [("text".toList, .text body)]⟩
  | box x y width height thickness =>
    ⟨"box".toList, .ofInt x, .ofInt y, .ofInt width, .ofInt height,
      [("thickness".toList, .text (Decimal.ofInt thickness))]⟩
  | circle x y diameter thickness =>
    ⟨"circle".toList, .ofInt x, .ofInt y, .ofInt diameter, .ofInt diameter,
      [("thickness".toList, .text (Decimal.ofInt thickness))]⟩
  | line x y width height thickness =>
    ⟨"diagonal-line".toList, .ofInt x, .ofInt y, .ofInt width, .ofInt height,
      [("thickness".toList, .text (Decimal.ofInt thickness))]⟩

open Binary64 (nearestInt)

/-- What the element of a shape is resolved to. -/
def resolved : Shape → Element
  | text x y body => .text (nearestInt x) (nearestInt y) body
  | box x y width height thickness =>
    .box (nearestInt x) (nearestInt y) (nearestInt width) (nearestInt height)
      (nearestInt thickness)
  | circle x y diameter thickness =>
    .circle (nearestInt x) (nearestInt y) (nearestInt diameter) (nearestInt thickness)
  | line x y width height thickness =>
    .line (nearestInt x) (nearestInt y) (nearestInt width) (nearestInt height)
      (nearestInt thickness)

variable {s : Shape}

theorem thickness_ofInt {e : PlacedElement} {n : Int}
    (he : e.attributes = [("thickness".toList, .text (Decimal.ofInt n))])
    (hn : n.natAbs < 10 ^ 300) : e.thickness = .ok (nearestInt n) := by
  have hgiven : e.attribute? "thickness" = some (.text (Decimal.ofInt n)) := by
    unfold PlacedElement.attribute?
    rw [he]
    simp [Quantity.isVoid, Decimal.ofInt_ne_nil]
  rw [PlacedElement.thickness, hgiven]
  exact Quantity.pixels_text_ofInt (Binary64.ofInt?_of_lt hn)

theorem size_ofInt (e : PlacedElement) (dimension : String) {n : Int}
    (hn : n.natAbs < 10 ^ 300) : e.size dimension (.ofInt n) = .ok (nearestInt n) := by
  rw [PlacedElement.size, if_neg (by simp [Quantity.ofInt])]
  exact Quantity.pixels_ofInt (Binary64.ofInt?_of_lt hn)

theorem drawnText_text (e : PlacedElement) (body : Text)
    (he : e.attributes = [("text".toList, .text body)]) : e.drawnText "text" = body := by
  unfold PlacedElement.drawnText PlacedElement.attribute?
  rw [he, List.lookup_cons_self, Option.filter_some]
  split
  · rfl
  · next hvoid =>
    have hbody : body = [] := by simpa [Quantity.isVoid] using hvoid
    exact hbody.symm

theorem ofTag?_text : ElementKind.ofTag? "text".toList = some .text := by decide

theorem ofTag?_box : ElementKind.ofTag? "box".toList = some .box := by decide

theorem ofTag?_circle : ElementKind.ofTag? "circle".toList = some .circle := by decide

theorem ofTag?_line : ElementKind.ofTag? "diagonal-line".toList = some .line := by decide

theorem resolve_element (h : s.IsPlain) : s.element.resolve = .ok s.resolved := by
  have hx := Binary64.ofInt?_of_lt (h.numbers s.x (by simp))
  have hy := Binary64.ofInt?_of_lt (h.numbers s.y (by simp))
  have hleft : s.element.left.pixels = .ok (nearestInt s.x) := by
    cases s <;> exact Quantity.pixels_ofInt hx
  have htop : s.element.top.pixels = .ok (nearestInt s.y) := by
    cases s <;> exact Quantity.pixels_ofInt hy
  have hsizes : ∀ n ∈ s.sizes, n.natAbs < 10 ^ 300 := fun n hn => h.numbers n (by simp [hn])
  rw [PlacedElement.resolve, hleft, htop, ok_bind, ok_bind, PlacedElement.resolveAt]
  cases s with
  | text x y body =>
    have hkind : ElementKind.ofTag? (text x y body).element.tag = some .text := ofTag?_text
    rw [hkind]
    dsimp only
    rw [drawnText_text (text x y body).element body rfl]
    rfl
  | box x y width height thickness =>
    let e := (box x y width height thickness).element
    have hkind : ElementKind.ofTag? e.tag = some .box := ofTag?_box
    have hwidth : e.size "width" e.width = _ := size_ofInt e _ (hsizes width (by simp [sizes]))
    have hheight : e.size "height" e.height = _ := size_ofInt e _ (hsizes height (by simp [sizes]))
    rw [hkind]
    dsimp only
    rw [hwidth, hheight, thickness_ofInt rfl (hsizes thickness (by simp [sizes]))]
    rfl
  | circle x y diameter thickness =>
    let e := (circle x y diameter thickness).element
    have hkind : ElementKind.ofTag? e.tag = some .circle := ofTag?_circle
    have hwidth : e.size "width" e.width = _ := size_ofInt e _ (hsizes diameter (by simp [sizes]))
    rw [hkind]
    dsimp only
    rw [hwidth, thickness_ofInt rfl (hsizes thickness (by simp [sizes]))]
    rfl
  | line x y width height thickness =>
    let e := (line x y width height thickness).element
    have hkind : ElementKind.ofTag? e.tag = some .line := ofTag?_line
    have hwidth : e.size "width" e.width = _ := size_ofInt e _ (hsizes width (by simp [sizes]))
    have hheight : e.size "height" e.height = _ := size_ofInt e _ (hsizes height (by simp [sizes]))
    rw [hkind]
    dsimp only
    rw [hwidth, hheight, thickness_ofInt rfl (hsizes thickness (by simp [sizes]))]
    rfl

/-! ### Drawn both ways -/

/-- What the command of a shape draws at its coordinates. -/
def figure : Shape → Figure
  | text x y body => .text (.ofReal (nearestInt x)) (.ofReal (nearestInt y)) body
  | box x y width height thickness =>
    .box (.ofReal (nearestInt x)) (.ofReal (nearestInt y)) (.ofInt width) (.ofInt height)
      (.ofInt thickness)
  | circle x y diameter thickness =>
    .circle (.ofReal (nearestInt x)) (.ofReal (nearestInt y)) (.ofInt diameter) (.ofInt thickness)
  | line x y width height thickness =>
    .line (.ofReal (nearestInt x)) (.ofReal (nearestInt y)) (.ofInt width) (.ofInt height)
      (.ofInt thickness)

/-- The origin behind the move of a shape. -/
def origin (s : Shape) : Origin := ⟨.real (nearestInt s.x), .real (nearestInt s.y)⟩

theorem figure_drawing (h : s.IsPlain) (stored : List Text) (later : List Command) :
    s.drawing.figure stored s.origin later = .ok (some s.figure) := by
  have hsizes : ∀ {i : Nat} {n : Int} {opcode : Text}, s.sizes[i]? = some n →
      (Command.ofNumbers opcode s.sizes).integer? i = .ok (some n) := by
    intro i n opcode hn
    have hbound := h.numbers n (by simp [List.mem_of_getElem? hn])
    exact Command.integer?_ofNumbers hn (Binary64.ofInt?_of_lt hbound)
  rw [Command.figure_eq_some_iff]
  cases s with
  | text x y body => exact .text rfl
  | box x y width height thickness =>
    exact .box rfl (hsizes (i := 0) rfl) (hsizes (i := 1) rfl) (hsizes (i := 2) rfl)
  | circle x y diameter thickness =>
    exact .circle rfl (hsizes (i := 0) rfl) (hsizes (i := 1) rfl)
  | line x y width height thickness =>
    exact .line rfl (hsizes (i := 0) rfl) (hsizes (i := 1) rfl) (hsizes (i := 2) rfl)

theorem move_origin (h : s.IsPlain) (current : Origin) :
    current.move (.ofNumbers ['F', 'O'] [s.x, s.y]) = .ok s.origin := by
  have hx := Binary64.ofInt?_of_lt (h.numbers s.x (by simp))
  have hy := Binary64.ofInt?_of_lt (h.numbers s.y (by simp))
  let move := Command.ofNumbers ['F', 'O'] [s.x, s.y]
  have hcolumn : Origin.coordinate? current.x (move.parameter 0) = _ :=
    Command.coordinate?_ofNumbers rfl hx current.x
  have hrow : Origin.coordinate? current.y (move.parameter 1) = _ :=
    Command.coordinate?_ofNumbers rfl hy current.y
  rw [Origin.move, hcolumn, hrow]
  rfl

/-- The element of a shape is drawn as its command is. -/
theorem sameResult_figure (h : s.IsPlain) :
    ∃ drawn, s.resolved.figure? none = some drawn ∧ SameResult s.figure.record drawn.record := by
  have hsizes : ∀ n ∈ s.sizes, Binary64.ofInt? n = some (nearestInt n) :=
    fun n hn => Binary64.ofInt?_of_lt (h.numbers n (by simp [hn]))
  cases s with
  | text x y body => exact ⟨_, rfl, Figure.sameResult_text body⟩
  | box x y width height thickness =>
    refine ⟨_, rfl, ?_⟩
    rw [figure, Figure.record_box, Figure.record_box]
    exact Figure.sameResult_cornered (hsizes width (by simp [sizes]))
      (hsizes height (by simp [sizes])) (hsizes thickness (by simp [sizes]))
  | circle x y diameter thickness =>
    exact ⟨_, rfl, Figure.sameResult_circle (hsizes diameter (by simp [sizes]))
      (hsizes thickness (by simp [sizes]))⟩
  | line x y width height thickness =>
    refine ⟨_, rfl, ?_⟩
    rw [figure, Figure.record_line, Figure.record_line]
    exact Figure.sameResult_cornered (hsizes width (by simp [sizes]))
      (hsizes height (by simp [sizes])) (hsizes thickness (by simp [sizes]))

end Shape

end ThermalLabel
