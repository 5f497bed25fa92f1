/-
  Items and their indexes.

  A view of a list by index, with none where there is nothing to see, lists what it sees over a
  range of indexes. So a list is its own view by index (`filterMap_range_bind`), a list whose items
  carry increasing keys is the view that finds an item by its key (`filterMap_range_find?`), and
  reports that carry the indexes of their items stand in their order (`indexes_increasing`).
-/
import Mathlib.Data.List.Basic
import ThermalLabel.Diagnostic

namespace ThermalLabel

/-! ## Lists by position -/

theorem filterMap_range_bind {α β : Type} (l : List α) (f : Nat → α → Option β) :
    (List.range l.length).filterMap (fun i => l[i]?.bind (f i)) =
      l.zipIdx.filterMap fun x => f x.2 x.1 := by
  induction l generalizing f with
  | nil => rfl
  | cons a l ih =>
    rw [List.length_cons, List.range_succ_eq_map, List.zipIdx_cons, List.zipIdx_succ,
      List.filterMap_cons, List.filterMap_cons, List.filterMap_map, List.filterMap_map]
    have h := ih fun i => f (i + 1)
    cases hf : f 0 a with
    | none =>
      simp only [List.getElem?_cons_zero, Option.bind_some, hf]
      exact h
    | some b =>
      simp only [List.getElem?_cons_zero, Option.bind_some, hf]
      exact congrArg (b :: ·) h

theorem filterMap_zipIdx_fst {α β : Type} (l : List α) (f : α → Option β) :
    l.zipIdx.filterMap (fun x => f x.1) = l.filterMap f := by
  conv => rhs; rw [← List.zipIdx_map_fst 0 l, List.filterMap_map]
  rfl

theorem filterMap_range_bind_const {α β : Type} (l : List α) (f : α → Option β) :
    (List.range l.length).filterMap (fun i => l[i]?.bind f) = l.filterMap f := by
  rw [filterMap_range_bind l fun _ => f, filterMap_zipIdx_fst]

theorem pairwise_zipIdx {α : Type} (l : List α) : l.zipIdx.Pairwise fun a b => a.2 < b.2 := by
  rw [← List.pairwise_map, List.zipIdx_map_snd]
  exact List.pairwise_lt_range'

/-- An item that stays has as many that stay before it as its position says. -/
theorem exists_of_getElem?_filter {α : Type} {p : α → Bool} {l : List α} {k : Nat} {a : α}
    (h : (l.filter p)[k]? = some a) :
    ∃ i : Nat, l[i]? = some a ∧ p a ∧ (l.take i).countP p = k := by
  induction l generalizing k with
  | nil => cases h
  | cons b l ih =>
    by_cases hb : p b
    · rw [List.filter_cons_of_pos hb] at h
      cases k with
      | zero =>
        cases h
        exact ⟨0, rfl, hb, rfl⟩
      | succ k =>
        obtain ⟨i, hi, ha, hcount⟩ := ih h
        refine ⟨i + 1, hi, ha, ?_⟩
        rw [List.take_succ_cons, List.countP_cons_of_pos hb, hcount]
    · rw [List.filter_cons_of_neg hb] at h
      obtain ⟨i, hi, ha, hcount⟩ := ih h
      refine ⟨i + 1, hi, ha, ?_⟩
      rw [List.take_succ_cons, List.countP_cons_of_neg hb, hcount]

/-! ## Lists by key -/

section Keyed

variable {α : Type} {key : α → Nat} {l : List α}

/-- Among items with increasing keys the key tells the item. -/
theorem find?_key_eq_some_iff (h : l.Pairwise fun a b => key a < key b) {a : α} {i : Nat} :
    l.find? (fun b => key b = i) = some a ↔ a ∈ l ∧ key a = i := by
  induction l with
  | nil => simp
  | cons b l ih =>
    rw [List.pairwise_cons] at h
    rw [List.find?_cons, List.mem_cons]
    by_cases hb : key b = i
    · rw [decide_eq_true hb]
      constructor
      · intro hab
        cases hab
        exact ⟨.inl rfl, hb⟩
      · rintro ⟨rfl | ha, hi⟩
        · rfl
        · have hlt := h.1 a ha
          omega
    · rw [decide_eq_false hb, ih h.2]
      constructor
      · rintro ⟨ha, hi⟩
        exact ⟨.inr ha, hi⟩
      · rintro ⟨rfl | ha, hi⟩
        · exact absurd hi hb
        · exact ⟨ha, hi⟩

theorem getElem?_key_inj (h : l.Pairwise fun a b => key a < key b) {p q : Nat} {a b : α}
    (ha : l[p]? = some a) (hb : l[q]? = some b) (hkey : key a = key b) : p = q := by
  obtain ⟨hp, rfl⟩ := List.getElem?_eq_some_iff.mp ha
  obtain ⟨hq, rfl⟩ := List.getElem?_eq_some_iff.mp hb
  rw [List.pairwise_iff_getElem] at h
  rcases Nat.lt_trichotomy p q with hlt | heq | hgt
  · have hless := h p q hp hq hlt
    omega
  · exact heq
  · have hless := h q p hq hp hgt
    omega

/-- What is found behind one key is what the item with this key shows. -/
theorem findSome?_key (h : l.Pairwise fun a b => key a < key b) (i : Nat) {β : Type}
    (f : α → Option β) :
    (l.findSome? fun a => if key a = i then f a else none) =
      (l.find? fun a => key a = i).bind f := by
  induction l with
  | nil => rfl
  | cons a l ih =>
    rw [List.pairwise_cons] at h
    rw [List.findSome?_cons, List.find?_cons]
    by_cases ha : key a = i
    · have hnone : (l.find? fun b => key b = i) = none := by
        refine List.find?_eq_none.mpr fun b hb => ?_
        have hab := h.1 b hb
        simp only [decide_eq_true_eq]
        omega
      rw [if_pos ha, decide_eq_true ha, ih h.2, hnone]
      cases hf : f a with
      | none => exact hf.symm
      | some b => exact hf.symm
    · rw [if_neg ha, decide_eq_false ha]
      exact ih h.2

theorem filter_lt_succ (h : l.Pairwise fun a b => key a < key b) (n : Nat) :
    l.filter (fun a => key a < n + 1) =
      l.filter (fun a => key a < n) ++ (l.find? fun a => key a = n).toList := by
  induction l with
  | nil => rfl
  | cons a l ih =>
    rw [List.pairwise_cons] at h
    rw [List.filter_cons, List.filter_cons, List.find?_cons, ih h.2]
    rcases Nat.lt_trichotomy (key a) n with hlt | heq | hgt
    · simp [hlt, Nat.lt_succ_of_lt hlt, Nat.ne_of_lt hlt]
    · -- the items behind this one have larger keys
      have hnone : ∀ m ≤ n, l.filter (fun b => key b < m) = [] := by
        intro m hm
        refine List.filter_eq_nil_iff.mpr fun b hb => ?_
        have hab := h.1 b hb
        simp only [decide_eq_true_eq]
        omega
      have hfind : l.find? (fun b => key b = n) = none := by
        refine List.find?_eq_none.mpr fun b hb => ?_
        have hab := h.1 b hb
        simp only [decide_eq_true_eq]
        omega
      simp [heq, hnone, hfind]
    · have hle : ¬ key a < n + 1 := by omega
      simp [hle, Nat.not_lt_of_gt hgt, Nat.ne_of_gt hgt]

/-- Items with increasing keys are found by their keys one after the other. -/
theorem filterMap_range_find? (h : l.Pairwise fun a b => key a < key b) {n : Nat}
    (hn : ∀ a ∈ l, key a < n) {β : Type} (f : α → Option β) :
    (List.range n).filterMap (fun i => (l.find? fun a => key a = i).bind f) = l.filterMap f := by
  have hitems : ∀ m, (List.range m).filterMap (fun i => l.find? fun a => key a = i) =
      l.filter fun a => key a < m := by
    intro m
    induction m with
    | zero => simp
    | succ m ih =>
      rw [List.range_succ, List.filterMap_append, ih, filter_lt_succ h]
      cases hm : l.find? fun a => key a = m <;> simp [hm]
  have hall : l.filter (fun a => key a < n) = l :=
    List.filter_eq_self.mpr fun a ha => decide_eq_true (hn a ha)
  rw [← List.filterMap_filterMap, hitems, hall]

end Keyed

/-! ## Reports -/

/-- Reports that have the indexes of their items have them in increasing order. -/
theorem indexes_increasing {report? : Nat → Option Diagnostic}
    (h : ∀ (i : Nat) report, report? i = some report → report.index = some i) (n : Nat) :
    (((List.range n).filterMap report?).filterMap Diagnostic.index).Pairwise (· < ·) := by
  rw [List.filterMap_filterMap]
  refine List.pairwise_lt_range.filterMap _ fun i j hij a ha b hb => ?_
  obtain ⟨report, hreport, ha⟩ := Option.bind_eq_some_iff.mp ha
  obtain ⟨other, hother, hb⟩ := Option.bind_eq_some_iff.mp hb
  rw [h i report hreport, Option.some.injEq] at ha
  rw [h j other hother, Option.some.injEq] at hb
  omega

theorem exists_index_of_mem {report? : Nat → Option Diagnostic}
    (h : ∀ (i : Nat) report, report? i = some report → report.index = some i) {n : Nat}
    {report : Diagnostic} (hreport : report ∈ (List.range n).filterMap report?) :
    ∃ i < n, report.index = some i := by
  obtain ⟨i, hi, hreport⟩ := List.mem_filterMap.mp hreport
  exact ⟨i, List.mem_range.mp hi, h i report hreport⟩

/-- Of reports that have the indexes of their items, those with one index. -/
theorem filter_index {report? : Nat → Option Diagnostic}
    (h : ∀ (i : Nat) report, report? i = some report → report.index = some i) {i n : Nat}
    (hi : i < n) :
    ((List.range n).filterMap report?).filter (fun report => report.index = some i) =
      (report? i).toList := by
  have hother : ∀ m ≤ i,
      ((List.range m).filterMap report?).filter (fun report => report.index = some i) = [] := by
    intro m hm
    refine List.filter_eq_nil_iff.mpr fun report hreport => ?_
    obtain ⟨j, hj, hreport⟩ := List.mem_filterMap.mp hreport
    have hjm := List.mem_range.mp hj
    rw [h j report hreport]
    simp only [Option.some.injEq, decide_eq_true_eq]
    omega
  induction n with
  | zero => exact absurd hi (Nat.not_lt_zero i)
  | succ n ih =>
    rw [List.range_succ, List.filterMap_append, List.filter_append]
    rcases Nat.lt_succ_iff_lt_or_eq.mp hi with hlt | rfl
    · rw [ih hlt]
      cases hn : report? n with
      | none => simp [hn]
      | some report =>
        have hne : report.index ≠ some i := by
          rw [h n report hn, ne_eq, Option.some.injEq]
          omega
        simp [hn, hne]
    · rw [hother i (Nat.le_refl i)]
      cases hreport : report? i with
      | none => simp [hreport]
      | some report => simp [hreport, h i report hreport]

end ThermalLabel
