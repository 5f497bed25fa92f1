/-
  The label block of a text.

  The block stands between the first start mark of the text and the nearest end mark behind it
  (`labelBlock?_eq_some_iff`), and there is none exactly if no start mark has an end mark somewhere
  behind it (`labelBlock?_eq_none_iff`). So a later start is never needed: a search that goes on to
  the next start where a start has no end finds no other block (`labelBlock?_eq_search`). A block of
  commands as they are written is found and parsed again, whatever stands around it. All of this
  together is `labelBlock_from_first_start`.
-/
import Mathlib.Order.Nat
import ThermalLabel.Proofs.Command.Writing
import ThermalLabel.Proofs.Text.Places

namespace ThermalLabel

/-- The mark at the start of a label block. -/
def startMark : Text := ['^', 'X', 'A']

/-- The mark at the end of a label block. -/
def endMark : Text := ['^', 'X', 'Z']

theorem startMark_ne_nil : startMark ≠ [] := List.cons_ne_nil _ _

theorem endMark_ne_nil : endMark ≠ [] := List.cons_ne_nil _ _

/-- A start mark stands at the first place and an end mark at the second, behind it. -/
structure Delimits (zpl : Text) (i j : Nat) : Prop where
  start : startMark.StandsAt zpl i
  behind : i + 3 ≤ j
  finish : endMark.StandsAt zpl j

instance (zpl : Text) (i j : Nat) : Decidable (Delimits zpl i j) :=
  decidable_of_iff (startMark.StandsAt zpl i ∧ i + 3 ≤ j ∧ endMark.StandsAt zpl j)
    ⟨fun h => ⟨h.1, h.2.1, h.2.2⟩, fun h => ⟨h.start, h.behind, h.finish⟩⟩

/-- The block between the first start that has an end behind it and the nearest such end. -/
def searchBlock? (zpl : Text) : Option Text := do
  let places := List.range zpl.length
  let i ← places.find? fun i => places.any fun j => Delimits zpl i j
  let j ← places.find? fun j => Delimits zpl i j
  return (zpl.take j).drop (i + 3)

variable {zpl block : Text} {i j : Nat}

/-! ## The marks of the block -/

/-- A mark holds no other mark, so that one which stands behind another does not overlap it. -/
theorem delimits_iff :
    Delimits zpl i j ↔ i < j ∧ startMark.StandsAt zpl i ∧ endMark.StandsAt zpl j := by
  constructor
  · intro h
    have hbehind := h.behind
    exact ⟨by omega, h.start, h.finish⟩
  · rintro ⟨hij, hi, hj⟩
    refine ⟨hi, ?_, hj⟩
    have hcaret : zpl[j]? = some '^' := hj.getElem? (k := 0) (by decide)
    have hfirst : zpl[i + 1]? = some 'X' := hi.getElem? (k := 1) (by decide)
    have hsecond : zpl[i + 2]? = some 'A' := hi.getElem? (k := 2) (by decide)
    by_contra hlt
    obtain rfl | rfl : j = i + 1 ∨ j = i + 2 := by omega
    · rw [hfirst] at hcaret
      exact absurd hcaret (by decide)
    · rw [hsecond] at hcaret
      exact absurd hcaret (by decide)

theorem labelBlock?_eq_some_iff :
    labelBlock? zpl = some block ↔
      ∃ i j, IsLeast {p | startMark.StandsAt zpl p} i ∧
        IsLeast {q | i + 3 ≤ q ∧ endMark.StandsAt zpl q} j ∧
          block = (zpl.take j).drop (i + 3) := by
  unfold labelBlock?
  simp only [Option.bind_eq_bind, Option.bind_eq_some_iff, Option.pure_def, Option.some.injEq]
  constructor
  · rintro ⟨⟨before, after⟩, hstart, ⟨found, rest⟩, hend, rfl⟩
    obtain ⟨i, hi, -, rfl⟩ := (Text.cut?_eq_some_iff startMark_ne_nil).mp hstart
    obtain ⟨p, hp, rfl, -⟩ := (Text.cut?_eq_some_iff endMark_ne_nil).mp hend
    refine ⟨i, i + 3 + p, hi, Text.isLeast_standsAt_drop_iff.mp hp, ?_⟩
    rw [List.drop_take, Nat.add_sub_cancel_left]
    rfl
  · rintro ⟨i, j, hi, hj, rfl⟩
    obtain ⟨p, rfl⟩ := Nat.exists_eq_add_of_le hj.1.1
    refine ⟨_, (Text.cut?_eq_some_iff startMark_ne_nil).mpr ⟨i, hi, rfl, rfl⟩, _,
      (Text.cut?_eq_some_iff endMark_ne_nil).mpr
        ⟨p, Text.isLeast_standsAt_drop_iff.mpr hj, rfl, rfl⟩, ?_⟩
    rw [List.drop_take, Nat.add_sub_cancel_left]
    rfl

theorem labelBlock?_eq_none_iff :
    labelBlock? zpl = none ↔
      ¬ ∃ i j, i < j ∧ startMark.StandsAt zpl i ∧ endMark.StandsAt zpl j := by
  simp only [← delimits_iff]
  constructor
  · rintro h ⟨i, j, hij⟩
    have hfirst := Nat.isLeast_find ⟨i, hij.start⟩
    have hnearer := delimits_iff.mp hij
    -- the first start stands no later than `i`, so the end at `j` stands behind it as well
    have hbehind := delimits_iff.mpr
      ⟨Nat.lt_of_le_of_lt (hfirst.2 hij.start) hnearer.1, hfirst.1, hij.finish⟩
    have hblock := labelBlock?_eq_some_iff.mpr
      ⟨_, _, hfirst, Nat.isLeast_find ⟨j, hbehind.behind, hbehind.finish⟩, rfl⟩
    rw [h] at hblock
    cases hblock
  · intro h
    cases hblock : labelBlock? zpl with
    | none => rfl
    | some block =>
      obtain ⟨i, j, hi, hj, -⟩ := labelBlock?_eq_some_iff.mp hblock
      exact absurd ⟨i, j, hi.1, hj.1.1, hj.1.2⟩ h

/-! ## A search over all starts -/

theorem Delimits.mem_places (h : Delimits zpl i j) :
    i ∈ List.range zpl.length ∧ j ∈ List.range zpl.length :=
  ⟨List.mem_range.mpr (h.start.lt_length startMark_ne_nil),
    List.mem_range.mpr (h.finish.lt_length endMark_ne_nil)⟩

/-- No start but the first has to be tried, and no end but the nearest. -/
theorem labelBlock?_eq_search (zpl : Text) : labelBlock? zpl = searchBlock? zpl := by
  unfold searchBlock?
  cases hblock : labelBlock? zpl with
  | none =>
    have hnowhere : ∀ i j, ¬ Delimits zpl i j :=
      fun i j h => labelBlock?_eq_none_iff.mp hblock ⟨i, j, delimits_iff.mp h⟩
    have hstart : (List.range zpl.length).find?
        (fun p => (List.range zpl.length).any fun q => Delimits zpl p q) = none := by
      rw [List.find?_eq_none]
      intro p _
      simp [hnowhere]
    dsimp only
    rw [hstart]
    rfl
  | some block =>
    obtain ⟨i, j, hi, hj, rfl⟩ := labelBlock?_eq_some_iff.mp hblock
    have hdelimits : Delimits zpl i j := ⟨hi.1, hj.1.1, hj.1.2⟩
    have hplaces := hdelimits.mem_places
    have hstart : (List.range zpl.length).find?
        (fun p => (List.range zpl.length).any fun q => Delimits zpl p q) = some i := by
      rw [List.find?_range_eq_some]
      refine ⟨List.any_eq_true.mpr ⟨j, hplaces.2, decide_eq_true hdelimits⟩, hplaces.1, ?_⟩
      intro p hp
      have hno : ∀ q, ¬ Delimits zpl p q := fun q h => absurd (hi.2 h.start) (Nat.not_le_of_lt hp)
      simp [hno]
    have hend : (List.range zpl.length).find? (fun q => Delimits zpl i q) = some j := by
      rw [List.find?_range_eq_some]
      refine ⟨decide_eq_true hdelimits, hplaces.2, ?_⟩
      intro q hq
      have hno : ¬ Delimits zpl i q :=
        fun h => absurd (hj.2 ⟨h.behind, h.finish⟩) (Nat.not_le_of_lt hq)
      simp [hno]
    dsimp only
    rw [hstart, Option.bind_eq_bind, Option.bind_some, hend]
    rfl

/-! ## Blocks as they are written -/

/-- Behind a piece of no command, commands are parsed as they were written. -/
theorem map_bare_parse_block {front : Text} (hfront : '^' ∉ front) {list : List Command}
    (h : ∀ c ∈ list, c.IsWritten) :
    (Command.parse (front ++ Command.renderAll list)).map Command.bare =
      list.map Command.bare := by
  rw [Command.parse, Command.parseFrom_append (Command.isBreak_renderAll list),
    Command.parseFrom_of_no_caret hfront, List.nil_append, Command.map_bare_parseFrom _ 0]
  exact Command.map_bare_parse_renderAll h

/-- The block stands between the first start mark and the nearest end mark behind it, and there is
    none exactly if no start mark is followed by an end mark, so that no later start is ever taken.
    Commands written between the marks are parsed as themselves, whatever stands before the first
    start mark and behind the end. -/
theorem labelBlock_from_first_start :
    (∀ zpl block : Text, labelBlock? zpl = some block ↔
      ∃ i j, IsLeast {p | startMark.StandsAt zpl p} i ∧
        IsLeast {q | i + 3 ≤ q ∧ endMark.StandsAt zpl q} j ∧
          block = (zpl.take j).drop (i + 3)) ∧
    (∀ zpl : Text, labelBlock? zpl = none ↔
      ¬ ∃ i j, i < j ∧ startMark.StandsAt zpl i ∧ endMark.StandsAt zpl j) ∧
    (∀ zpl : Text, labelBlock? zpl = searchBlock? zpl) ∧
    ∀ (before front after : Text) (list : List Command),
      ¬ startMark <:+: before → '^' ∉ front →
      (∀ c ∈ list, c.IsWritten ∧ c.opcode ≠ ['X', 'Z']) →
      labelBlock? (before ++ startMark ++
          (front ++ Command.renderAll list ++ (endMark ++ after))) =
        some (front ++ Command.renderAll list) ∧
      (Command.parse (front ++ Command.renderAll list)).map Command.bare =
        list.map Command.bare := by
  refine ⟨fun zpl block => labelBlock?_eq_some_iff, fun zpl => labelBlock?_eq_none_iff,
    labelBlock?_eq_search, ?_⟩
  intro before front after list hbefore hfront h
  refine ⟨labelBlock?_written (Text.cut?_of_not_infix hbefore) hfront h after, ?_⟩
  exact map_bare_parse_block hfront fun c hc => (h c hc).1

/-- Three commands, the second with the opcode of a start mark. -/
def nestedCommands : List Command :=
  [⟨['F', 'O'], ['1', ',', '2'], 0⟩, ⟨['X', 'A'], [], 0⟩, ⟨['F', 'D'], ['x'], 0⟩]

/-- A block with another start in it, an end mark and the front of a start mark before it, and
    another block behind it. -/
theorem labelBlock_from_first_start_of_nestedCommands :
    (¬ startMark <:+: "^XZ^X".toList ∧ '^' ∉ "a~b".toList ∧
      ∀ c ∈ nestedCommands, c.IsWritten ∧ c.opcode ≠ ['X', 'Z']) ∧
    labelBlock? "^XZ^X^XAa~b^FO1,2^XA^FDx^XZ^XA^FDy^XZ".toList =
      some "a~b^FO1,2^XA^FDx".toList ∧
    (Command.parse "a~b^FO1,2^XA^FDx".toList).map Command.bare = nestedCommands := by
  have hbefore : ¬ startMark <:+: "^XZ^X".toList := by decide
  have hfront : '^' ∉ "a~b".toList := by decide
  have hwritten : ∀ c ∈ nestedCommands, c.IsWritten ∧ c.opcode ≠ ['X', 'Z'] := by
    unfold nestedCommands
    simp only [List.forall_mem_cons, List.not_mem_nil, false_imp_iff, implies_true, and_true]
    refine ⟨⟨⟨⟨'F', 'O', rfl, rfl, rfl⟩, List.all_eq_true.mp ?_⟩, ?_⟩,
      ⟨⟨⟨'X', 'A', rfl, rfl, rfl⟩, List.all_eq_true.mp ?_⟩, ?_⟩,
      ⟨⟨'F', 'D', rfl, rfl, rfl⟩, List.all_eq_true.mp ?_⟩, ?_⟩
    all_goals decide
  refine ⟨⟨hbefore, hfront, hwritten⟩, ?_⟩
  obtain ⟨-, -, -, hblock⟩ := labelBlock_from_first_start
  have hnested := hblock "^XZ^X".toList "a~b".toList "^XA^FDy^XZ".toList nestedCommands hbefore
    hfront hwritten
  exact hnested

end ThermalLabel
