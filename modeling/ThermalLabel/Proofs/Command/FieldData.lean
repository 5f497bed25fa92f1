/-
  Field data of a command, by index.

  From an index of zero or above the answer is the next field data behind it. From an index below
  zero the search goes on at the front of the list; as offsets grow along a block, what stands
  there is not taken, and the answer is that for the same command counted from the front
  (`Command.fieldDataIndex_is_next`).
-/
import Mathlib.Order.Bounds.Basic
import ThermalLabel.Proofs.Command.Grammar
import ThermalLabel.Command.FieldData

namespace ThermalLabel

/-- The least whole number with a property, none if there is none. -/
def IsFirst (p : Int → Prop) : Option Int → Prop
  | some first => IsLeast {i | p i} first
  | none => ∀ i, ¬ p i

namespace IsFirst

variable {p q : Int → Prop} {answer other : Option Int}

theorem unique (h : IsFirst p answer) (hother : IsFirst p other) : answer = other := by
  cases answer with
  | none =>
    cases other with
    | none => rfl
    | some i => exact absurd hother.1 (h i)
  | some i =>
    cases other with
    | none => exact absurd h.1 (hother i)
    | some j => rw [IsLeast.unique h hother]

/-- More numbers with the property change nothing if a smaller one has it already. -/
theorem of_le (h : IsFirst p answer) (hpq : ∀ i, p i → q i) (hqp : ∀ i, q i → ∃ j ≤ i, p j) :
    IsFirst q answer := by
  cases answer with
  | none =>
    intro i hi
    obtain ⟨j, -, hj⟩ := hqp i hi
    exact h j hj
  | some first =>
    refine ⟨hpq first h.1, fun i hi => ?_⟩
    obtain ⟨j, hji, hj⟩ := hqp i hi
    exact (h.2 hj).trans hji

theorem congr (h : IsFirst p answer) (hpq : ∀ i, p i ↔ q i) : IsFirst q answer :=
  h.of_le (fun i => (hpq i).mp) fun i hi => ⟨i, le_rfl, (hpq i).mpr hi⟩

theorem shift (h : IsFirst p answer) (n : Int) :
    IsFirst (fun i => p (n + i)) (answer.map fun i => i - n) := by
  cases answer with
  | none => exact fun i => h (n + i)
  | some first =>
    refine ⟨?_, fun i hi => ?_⟩
    · show p (n + (first - n))
      rw [show n + (first - n) = first by omega]
      exact h.1
    · have hle := h.2 hi
      show first - n ≤ i
      omega

end IsFirst

namespace Command

variable {commands : List Command} {index i : Int} {c : Command}

/-! ## Commands by index -/

theorem at?_of_nonneg (h : 0 ≤ index) : at? commands index = commands[index.toNat]? := by
  rw [at?, if_pos h]

/-- An index below zero names the command that stands as far from the end. -/
theorem at?_of_neg (h : index < 0) (hlength : -(commands.length : Int) ≤ index) :
    at? commands index = at? commands (commands.length + index) := by
  have hnonneg : 0 ≤ commands.length + index := by omega
  rw [at?, if_neg (by omega), if_pos hlength, at?_of_nonneg hnonneg]

theorem exists_at?_iff :
    (∃ c, at? commands index = some c) ↔
      -(commands.length : Int) ≤ index ∧ index < commands.length := by
  have hnonneg : ∀ {i : Int}, 0 ≤ i →
      ((∃ c, at? commands i = some c) ↔ i < commands.length) := by
    intro i hi
    rw [at?_of_nonneg hi, ← Option.ne_none_iff_exists', Ne, List.getElem?_eq_none_iff]
    omega
  by_cases hindex : 0 ≤ index
  · rw [hnonneg hindex]
    omega
  · by_cases hlength : -(commands.length : Int) ≤ index
    · rw [at?_of_neg (by omega) hlength, hnonneg (by omega)]
      omega
    · rw [at?, if_neg hindex, if_neg hlength]
      simp [hlength]

theorem mem_indexesAfter : i ∈ indexesAfter commands index ↔ index < i ∧ i < commands.length := by
  rw [indexesAfter, List.mem_map]
  constructor
  · rintro ⟨k, hk, rfl⟩
    rw [List.mem_range] at hk
    omega
  · rintro ⟨hi, hlength⟩
    refine ⟨(i - (index + 1)).toNat, List.mem_range.mpr ?_, ?_⟩
    · omega
    · omega

theorem pairwise_indexesAfter (commands : List Command) (index : Int) :
    (indexesAfter commands index).Pairwise (· < ·) := by
  refine List.pairwise_lt_range.map _ ?_
  intro j k hjk
  omega

/-- The search along the indexes comes to the least of them that is looked for. -/
theorem isFirst_find? (p : Int → Bool) :
    IsFirst (fun i => index < i ∧ i < commands.length ∧ p i)
      ((indexesAfter commands index).find? p) := by
  cases hfind : (indexesAfter commands index).find? p with
  | none =>
    rintro i ⟨hi, hlength, hp⟩
    exact List.find?_eq_none.mp hfind i (mem_indexesAfter.mpr ⟨hi, hlength⟩) hp
  | some first =>
    obtain ⟨hp, before, after, hsplit, hbefore⟩ := List.find?_eq_some_iff_append.mp hfind
    have hmem : first ∈ indexesAfter commands index := List.mem_of_find?_eq_some hfind
    obtain ⟨hfirst, hlength⟩ := mem_indexesAfter.mp hmem
    refine ⟨⟨hfirst, hlength, hp⟩, ?_⟩
    rintro i ⟨hi, hi', hpi⟩
    have hin := mem_indexesAfter.mpr ⟨hi, hi'⟩
    have hsorted := pairwise_indexesAfter commands index
    rw [hsplit, List.mem_append, List.mem_cons] at hin
    rw [hsplit, List.pairwise_append, List.pairwise_cons] at hsorted
    rcases hin with hin | rfl | hin
    · have hno := hbefore i hin
      rw [hpi] at hno
      cases hno
    · exact le_rfl
    · exact (hsorted.2.1.1 i hin).le

/-! ## The search -/

/-- Field data stands at the index. -/
def HasFieldDataAt (commands : List Command) (i : Int) : Prop :=
  ∃ c, at? commands i = some c ∧ c.opcode = fieldDataOpcode

/-- Field data with a larger offset than that of a command stands at the index. -/
def SuppliedAt (commands : List Command) (start : Command) (i : Int) : Prop :=
  ∃ c, at? commands i = some c ∧ c.opcode = fieldDataOpcode ∧ start.offset < c.offset

variable {start : Command} {answer : Option Int}

/-- The search from a command that there is comes to an end, at the first index behind it that
    supplies the command. -/
theorem exists_fieldDataIndex (h : at? commands index = some start) :
    ∃ answer, fieldDataIndex commands index = .ok answer ∧
      IsFirst (fun i => index < i ∧ i < commands.length ∧ SuppliedAt commands start i)
        answer := by
  rw [fieldDataIndex, h]
  refine ⟨_, rfl, (isFirst_find? _).congr fun i => ?_⟩
  refine and_congr_right fun _ => and_congr_right fun _ => ?_
  unfold SuppliedAt
  cases at? commands i with
  | none => simp
  | some c => simp

theorem fieldDataIndex_of_isFirst (h : at? commands index = some start)
    (hfirst : IsFirst (fun i => index < i ∧ i < commands.length ∧ SuppliedAt commands start i)
      answer) : fieldDataIndex commands index = .ok answer := by
  obtain ⟨found, hfound, hsearch⟩ := exists_fieldDataIndex h
  rw [hfound, hsearch.unique hfirst]

/-- Whatever the offsets are, what is found is field data with a larger one. -/
theorem supplied_of_fieldDataIndex (h : fieldDataIndex commands index = .ok (some i)) :
    ∃ start c, at? commands index = some start ∧ at? commands i = some c ∧
      c.opcode = fieldDataOpcode ∧ start.offset < c.offset := by
  cases hstart : at? commands index with
  | none =>
    rw [fieldDataIndex, hstart] at h
    cases h
  | some start =>
    obtain ⟨answer, hanswer, hfirst⟩ := exists_fieldDataIndex hstart
    rw [h] at hanswer
    cases hanswer
    obtain ⟨-, -, c, hc, hopcode, hoffset⟩ := hfirst.1
    exact ⟨start, c, rfl, hc, hopcode, hoffset⟩

/-! ## The commands of a block -/

section Block

variable {block : Text}

/-- Offsets grow along a block. -/
theorem offset_lt_of_lt {d : Command} (hi : 0 ≤ i) (hlt : i < index)
    (hc : at? (parse block) i = some c) (hd : at? (parse block) index = some d) :
    c.offset < d.offset := by
  rw [at?_of_nonneg hi] at hc
  rw [at?_of_nonneg (by omega)] at hd
  obtain ⟨hi', rfl⟩ := List.getElem?_eq_some_iff.mp hc
  obtain ⟨hindex, rfl⟩ := List.getElem?_eq_some_iff.mp hd
  exact List.pairwise_iff_getElem.mp (pairwise_parseFrom 0 block) _ _ hi' hindex (by omega)

/-- Of two commands the one with the larger offset stands behind the other. -/
theorem lt_of_offset_lt {d : Command} (hindex : 0 ≤ index)
    (hc : at? (parse block) i = some c) (hd : at? (parse block) index = some d)
    (h : c.offset < d.offset) : i < index := by
  by_contra hle
  obtain rfl | hlt : i = index ∨ index < i := by omega
  · rw [hc] at hd
    cases hd
    omega
  · have hbefore := offset_lt_of_lt hindex hlt hd hc
    omega

/-- From the front of the list, every field data behind a command supplies it. -/
theorem isFirst_hasFieldDataAt (hindex : 0 ≤ index) (h : at? (parse block) index = some start)
    (hfirst : IsFirst
      (fun i => index < i ∧ i < (parse block).length ∧ SuppliedAt (parse block) start i) answer) :
    IsFirst (fun i => index < i ∧ HasFieldDataAt (parse block) i) answer := by
  refine hfirst.congr fun i => ?_
  constructor
  · rintro ⟨hi, -, c, hc, hopcode, -⟩
    exact ⟨hi, c, hc, hopcode⟩
  · rintro ⟨hi, c, hc, hopcode⟩
    exact ⟨hi, (exists_at?_iff.mp ⟨c, hc⟩).2, c, hc, hopcode, offset_lt_of_lt hindex hi h hc⟩

/-- The indexes at the front that a search from below zero goes on with lie no nearer than those
    behind the command: one of them supplies it only where it stands behind it itself. -/
theorem isFirst_of_neg (hindex : index < 0) (hlength : -((parse block).length : Int) ≤ index)
    (h : at? (parse block) ((parse block).length + index) = some start)
    (hfirst : IsFirst (fun i => (parse block).length + index < i ∧ i < (parse block).length ∧
      SuppliedAt (parse block) start i) answer) :
    IsFirst (fun i => index < i ∧ i < (parse block).length ∧ SuppliedAt (parse block) start i)
      (answer.map fun i => i - (parse block).length) := by
  refine (hfirst.shift (parse block).length).of_le ?_ ?_
  · rintro i ⟨hi, hi', hsupplied⟩
    refine ⟨by omega, by omega, ?_⟩
    rw [SuppliedAt, at?_of_neg (by omega) (by omega)]
    exact hsupplied
  · rintro i ⟨hi, hi', c, hc, hopcode, hoffset⟩
    by_cases hneg : i < 0
    · refine ⟨i, le_rfl, by omega, by omega, c, ?_, hopcode, hoffset⟩
      rw [← at?_of_neg hneg (by omega)]
      exact hc
    · have hbehind := lt_of_offset_lt (by omega) h hc hoffset
      refine ⟨i - (parse block).length, by omega, by omega, by omega, c, ?_, hopcode, hoffset⟩
      rw [show (parse block).length + (i - (parse block).length) = i by omega]
      exact hc

end Block

/-! ## The data of a barcode -/

theorem getElem?_drop_succ (commands : List Command) (h : 0 ≤ index) (k : Nat) :
    (commands.drop (index.toNat + 1))[k]? = at? commands (index + 1 + k) := by
  have hplace : (index + 1 + k).toNat = index.toNat + 1 + k := by omega
  rw [List.getElem?_drop, at?_of_nonneg (by omega), hplace]

/-- The data that a command takes from those behind it is that of the command which is found. -/
theorem fieldData?_drop_of_isFirst (hindex : 0 ≤ index)
    (h : IsFirst (fun i => index < i ∧ HasFieldDataAt commands i) answer) :
    fieldData? (commands.drop (index.toNat + 1)) =
      answer.bind fun i => (at? commands i).map params := by
  unfold fieldData?
  cases answer with
  | none =>
    rw [List.find?_eq_none.mpr, Option.map_none, Option.bind_none]
    intro c hc hopcode
    obtain ⟨k, hk⟩ := List.mem_iff_getElem?.mp hc
    rw [getElem?_drop_succ commands hindex] at hk
    exact h (index + 1 + k) ⟨by omega, c, hk, of_decide_eq_true hopcode⟩
  | some i =>
    obtain ⟨hi, c, hc, hopcode⟩ := h.1
    obtain ⟨k, rfl⟩ : ∃ k : Nat, i = index + 1 + k := ⟨(i - (index + 1)).toNat, by omega⟩
    have hgiven := getElem?_drop_succ commands hindex k
    rw [hc] at hgiven
    obtain ⟨hlt, hget⟩ := List.getElem?_eq_some_iff.mp hgiven
    have hfind : (commands.drop (index.toNat + 1)).find? (fun c => c.opcode = fieldDataOpcode) =
        some c := by
      rw [List.find?_eq_some_iff_getElem]
      refine ⟨decide_eq_true hopcode, k, hlt, hget, ?_⟩
      intro m hm
      have hearlier := getElem?_drop_succ commands hindex m
      rw [List.getElem?_eq_getElem (hm.trans hlt)] at hearlier
      rw [Bool.not_eq_true', decide_eq_false_iff_not]
      intro hno
      have hle := h.2 ⟨by omega, _, hearlier.symm, hno⟩
      omega
    rw [hfind, Option.map_some, Option.bind_some, hc, Option.map_some]

/-- From an index of the list the answer is the next field data behind it, which is what a barcode
    there is drawn with. An index below zero has the answer of the same command counted from the
    front, so field data before the command is never taken. In a list with other offsets as well,
    what is found is field data with a larger offset than that of the command. -/
theorem fieldDataIndex_is_next :
    (∀ (block : Text) (index : Int),
      -((parse block).length : Int) ≤ index → index < (parse block).length →
        (0 ≤ index → ∃ answer, fieldDataIndex (parse block) index = .ok answer ∧
          IsFirst (fun i => index < i ∧ HasFieldDataAt (parse block) i) answer ∧
          fieldData? ((parse block).drop (index.toNat + 1)) =
            answer.bind fun i => (at? (parse block) i).map params) ∧
        (index < 0 → ∃ answer,
          fieldDataIndex (parse block) ((parse block).length + index) = .ok answer ∧
          fieldDataIndex (parse block) index =
            .ok (answer.map fun i => i - (parse block).length) ∧
          ∀ i ∈ answer, (parse block).length + index < i)) ∧
    ∀ (commands : List Command) (index i : Int),
      fieldDataIndex commands index = .ok (some i) →
        ∃ start c, at? commands index = some start ∧ at? commands i = some c ∧
          c.opcode = fieldDataOpcode ∧ start.offset < c.offset := by
  refine ⟨fun block index hlength hlt => ⟨fun hindex => ?_, fun hindex => ?_⟩,
    fun commands index i => supplied_of_fieldDataIndex⟩
  · obtain ⟨start, hstart⟩ := exists_at?_iff.mpr ⟨hlength, hlt⟩
    obtain ⟨answer, hanswer, hfirst⟩ := exists_fieldDataIndex hstart
    have hnext := isFirst_hasFieldDataAt hindex hstart hfirst
    exact ⟨answer, hanswer, hnext, fieldData?_drop_of_isFirst hindex hnext⟩
  · obtain ⟨start, hstart⟩ := exists_at?_iff.mpr ⟨hlength, hlt⟩
    have hfront := hstart
    rw [at?_of_neg hindex hlength] at hfront
    obtain ⟨answer, hanswer, hfirst⟩ := exists_fieldDataIndex hfront
    refine ⟨answer, hanswer, fieldDataIndex_of_isFirst hstart ?_, fun i hi => ?_⟩
    · exact isFirst_of_neg hindex hlength hfront hfirst
    · rw [Option.mem_def] at hi
      subst hi
      exact hfirst.1.1

/-- A barcode between field data, and more field data behind it. -/
def surroundedBarcode : Text := "^FDa^BCN^FDb^FS^FDc".toList

/-- Commands whose offsets fall. -/
def fallingCommands : List Command :=
  [⟨fieldDataOpcode, ['x'], 9⟩, ⟨['B', 'C'], [], 5⟩, ⟨fieldDataOpcode, ['y'], 1⟩]

theorem fieldDataIndex_is_next_of_surroundedBarcode :
    ((parse surroundedBarcode).length = 5 ∧ (0 : Int) ≤ 1 ∧ (-5 : Int) ≤ -4 ∧ (-4 : Int) < 0) ∧
    (∃ answer, fieldDataIndex (parse surroundedBarcode) 1 = .ok answer ∧
      IsFirst (fun i => 1 < i ∧ HasFieldDataAt (parse surroundedBarcode) i) answer ∧
      fieldData? ((parse surroundedBarcode).drop 2) =
        answer.bind fun i => (at? (parse surroundedBarcode) i).map params) ∧
    (∃ answer, fieldDataIndex (parse surroundedBarcode) (5 + -4) = .ok answer ∧
      fieldDataIndex (parse surroundedBarcode) (-4) = .ok (answer.map fun i => i - 5) ∧
      ∀ i ∈ answer, 5 + -4 < i) ∧
    fieldDataIndex fallingCommands (-2) = .ok (some 0) ∧
    ∃ start c, at? fallingCommands (-2) = some start ∧ at? fallingCommands 0 = some c ∧
      c.opcode = fieldDataOpcode ∧ start.offset < c.offset := by
  obtain ⟨hblock, hany⟩ := fieldDataIndex_is_next
  have hlength : (parse surroundedBarcode).length = 5 := by decide
  have hfalling : fieldDataIndex fallingCommands (-2) = .ok (some 0) := by decide
  have hpos := (hblock surroundedBarcode 1 (by omega) (by omega)).1 (by omega)
  have hneg := (hblock surroundedBarcode (-4) (by omega) (by omega)).2 (by omega)
  rw [hlength] at hneg
  exact ⟨⟨hlength, by omega, by omega, by omega⟩, hpos, hneg, hfalling,
    hany fallingCommands (-2) 0 hfalling⟩

end Command

end ThermalLabel
