/-
  Label blocks as they are written.

  Commands written one behind the other are parsed as themselves but for their offsets
  (`Command.map_bare_parse_renderAll`). Between the marks of a block they are the label block of
  the text, whatever stands around it (`labelBlock?_written`), as long as none of them is the mark
  at its end. Whole numbers written as parameters are read back (`Command.integer?_ofNumbers`,
  `Command.coordinate?_ofNumbers`).
-/
import ThermalLabel.Command.Basic
import ThermalLabel.Proofs.Command.Exchange
import ThermalLabel.Proofs.Number.Reading

namespace ThermalLabel

/-! ## Several commands -/

namespace Command

/-- The text of several commands. -/
def renderAll (list : List Command) : Text := list.flatMap render

theorem renderAll_cons (c : Command) (list : List Command) :
    renderAll (c :: list) = c.render ++ renderAll list := List.flatMap_cons

theorem isBreak_renderAll (list : List Command) : (renderAll list).IsBreak := by
  induction list with
  | nil => exact fun c hc => by cases hc
  | cons c list ih => exact isBreak_render_append c ih

variable {list : List Command}

theorem map_bare_parse_renderAll (h : ∀ c ∈ list, c.IsWritten) :
    (parse (renderAll list)).map bare = list.map bare := by
  induction list with
  | nil => rfl
  | cons c list ih =>
    rw [List.forall_mem_cons] at h
    rw [renderAll_cons, parse, parseFrom_append (isBreak_renderAll list), parseFrom_render h.1,
      List.map_append, map_bare_parseFrom _ 0, ← parse, ih h.2]
    rfl

theorem sources_renderAll (h : ∀ c ∈ list, c.IsWritten) :
    Download.sources (renderAll list) = [] := by
  induction list with
  | nil => rfl
  | cons c list ih =>
    rw [List.forall_mem_cons] at h
    rw [renderAll_cons, Download.sources_append _ (isBreak_renderAll list), sources_render h.1,
      ih h.2]
    rfl

theorem cut?_renderAll {a b : Char} (ha : a ≠ '^' ∧ a ≠ '~') (hb : b ≠ '^' ∧ b ≠ '~')
    (h : ∀ c ∈ list, c.IsWritten ∧ c.opcode ≠ [a, b]) :
    Text.cut? ['^', a, b] (renderAll list) = none := by
  induction list with
  | nil => rfl
  | cons c list ih =>
    rw [List.forall_mem_cons] at h
    rw [renderAll_cons, Text.cut?_append ha hb _ (isBreak_renderAll list),
      cut?_render h.1.1 h.1.2, ih h.2]
    rfl

end Command

/-! ## The block -/

/-- What stands between the first start of a block and the end behind it is the block. -/
theorem labelBlock?_between {before block : Text}
    (hbefore : Text.cut? ['^', 'X', 'A'] before = none)
    (hblock : Text.cut? ['^', 'X', 'Z'] block = none) (after : Text) :
    labelBlock? (before ++ ['^', 'X', 'A'] ++ (block ++ (['^', 'X', 'Z'] ++ after))) =
      some block := by
  have hx : 'X' ≠ '^' ∧ 'X' ≠ '~' := by decide
  have ha : 'A' ≠ '^' ∧ 'A' ≠ '~' := by decide
  have hz : 'Z' ≠ '^' ∧ 'Z' ≠ '~' := by decide
  unfold labelBlock?
  rw [List.append_assoc, Text.cut?_append_mark hx ha hbefore]
  simp only [Option.bind_eq_bind, Option.bind_some]
  rw [Text.cut?_append_mark hx hz hblock]
  rfl

/-- A piece of no command and commands none of which is the mark at the end make a block. -/
theorem labelBlock?_written {before front : Text} {list : List Command}
    (hbefore : Text.cut? ['^', 'X', 'A'] before = none) (hfront : '^' ∉ front)
    (h : ∀ c ∈ list, c.IsWritten ∧ c.opcode ≠ ['X', 'Z']) (after : Text) :
    labelBlock? (before ++ ['^', 'X', 'A'] ++
        (front ++ Command.renderAll list ++ (['^', 'X', 'Z'] ++ after))) =
      some (front ++ Command.renderAll list) := by
  have hx : 'X' ≠ '^' ∧ 'X' ≠ '~' := by decide
  have hz : 'Z' ≠ '^' ∧ 'Z' ≠ '~' := by decide
  refine labelBlock?_between hbefore ?_ after
  rw [Text.cut?_append hx hz front (Command.isBreak_renderAll list),
    Text.cut?_of_no_caret hfront, Command.cut?_renderAll hx hz h]
  rfl

/-! ## Whole numbers as parameters -/

namespace Text

/-- Pieces without separators are the fields of the text that joins them. -/
theorem fields_intercalate {separator : Char} {pieces : List Text} (hne : pieces ≠ [])
    (h : ∀ piece ∈ pieces, separator ∉ piece) :
    fields separator ([separator].intercalate pieces) = pieces := by
  induction pieces with
  | nil => exact absurd rfl hne
  | cons piece pieces ih =>
    rw [List.forall_mem_cons] at h
    cases pieces with
    | nil =>
      rw [List.intercalate_singleton]
      exact fields_of_not_mem h.1
    | cons next pieces =>
      rw [List.intercalate_cons_cons, List.append_assoc, List.singleton_append, fields_append h.1,
        ih (List.cons_ne_nil _ _) h.2]

/-- A character of joined pieces is the separator or stands in a piece. -/
theorem mem_of_mem_intercalate {separator c : Char} {pieces : List Text}
    (h : c ∈ [separator].intercalate pieces) : c = separator ∨ ∃ piece ∈ pieces, c ∈ piece := by
  induction pieces with
  | nil => cases h
  | cons piece pieces ih =>
    cases pieces with
    | nil =>
      rw [List.intercalate_singleton] at h
      exact .inr ⟨piece, List.mem_cons_self, h⟩
    | cons next pieces =>
      rw [List.intercalate_cons_cons, List.mem_append, List.mem_append, List.mem_singleton] at h
      rcases h with (h | h) | h
      · exact .inr ⟨piece, List.mem_cons_self, h⟩
      · exact .inl h
      · rcases ih h with h | ⟨found, hfound, h⟩
        · exact .inl h
        · exact .inr ⟨found, List.mem_cons_of_mem _ hfound, h⟩

end Text

namespace Command

/-- A command with whole numbers as its parameters. -/
def ofNumbers (opcode : Text) (numbers : List Int) : Command :=
  ⟨opcode, [','].intercalate (numbers.map Decimal.ofInt), 0⟩

variable {opcode : Text} {numbers : List Int}

theorem parameters_ofNumbers (hne : numbers ≠ []) :
    (ofNumbers opcode numbers).parameters = numbers.map Decimal.ofInt := by
  have htrim : ∀ n, Text.trim (Decimal.ofInt n) = Decimal.ofInt n :=
    fun n => Numeral.trimBy_ofInt (by decide) n
  rw [parameters, ofNumbers, Text.fields_intercalate]
  · simp [htrim]
  · simpa using hne
  · simpa using fun n _ => Decimal.not_mem_ofInt (by decide) n

theorem isWritten_ofNumbers (hopcode : ∃ a b, opcode = [a, b] ∧ isOpcode a ∧ isOpcode b) :
    (ofNumbers opcode numbers).IsWritten := by
  refine ⟨hopcode, fun x hx => ?_⟩
  have hparameter : (',' :: Decimal.integral).all isParameter := by decide
  refine List.all_eq_true.mp hparameter x (List.mem_cons.mpr ?_)
  rcases Text.mem_of_mem_intercalate hx with hcomma | ⟨piece, hpiece, hx⟩
  · exact .inl hcomma
  · obtain ⟨n, -, rfl⟩ := List.mem_map.mp hpiece
    exact .inr (Decimal.mem_integral_of_mem_ofInt hx)

theorem parameter_ofNumbers {i : Nat} {n : Int} (h : numbers[i]? = some n) :
    (ofNumbers opcode numbers).parameter i = Decimal.ofInt n := by
  have hne : numbers ≠ [] := by
    rintro rfl
    cases h
  rw [parameter, parameters_ofNumbers hne, List.getElem?_map, h]
  rfl

/-- A whole number among the parameters is read back, if it has a nearest double. -/
theorem integer?_ofNumbers {i : Nat} {n : Int} (h : numbers[i]? = some n) {x : Binary64}
    (hx : Binary64.ofInt? n = some x) : (ofNumbers opcode numbers).integer? i = .ok (some n) := by
  have hlength : Decimal.length n.natAbs ≤ Numeral.digitLimit :=
    (Numeral.length_le_of_ofInt? hx).trans (by decide)
  rw [integer?, parameter_ofNumbers h, if_neg (Decimal.ofInt_ne_nil n),
    Numeral.integer?_ofInt hlength]

/-- A whole number among the parameters of a move sets the coordinate to the double nearest to
    it. -/
theorem coordinate?_ofNumbers {i : Nat} {n : Int} (h : numbers[i]? = some n) {x : Binary64}
    (hx : Binary64.ofInt? n = some x) (current : Number) :
    Origin.coordinate? current ((ofNumbers opcode numbers).parameter i) = some (.real x) := by
  rw [parameter_ofNumbers h, Origin.coordinate?, if_neg (Decimal.ofInt_ne_nil n),
    Numeral.real?_ofInt hx]
  rfl

end Command

end ThermalLabel
