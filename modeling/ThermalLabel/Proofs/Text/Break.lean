/-
  Breaks: the places where a scan of a label text starts afresh.

  Commands, marks and downloads start at a caret or a tilde and hold no other one. A scan of two
  pieces of which the second starts so (or is empty) is therefore the scan of the first followed
  by that of the second. Here for the cuts at a mark; commands and downloads have their own
  modules.
-/
import ThermalLabel.Text.Basic

namespace ThermalLabel

namespace Text

/-- The text is empty or starts with a caret or a tilde. -/
def IsBreak (t : Text) : Prop := ∀ c ∈ t.head?, c = '^' ∨ c = '~'

theorem isBreak_caret (t : Text) : IsBreak ('^' :: t) := by
  intro c h
  cases h
  exact .inl rfl

theorem isBreak_append {s t : Text} (hs : s.IsBreak) (ht : t.IsBreak) : (s ++ t).IsBreak := by
  cases s with
  | nil => exact ht
  | cons c s => exact hs

/-- The character of a class at the front of a break is a caret or a tilde, or there is none. -/
theorem takeWhile_of_isBreak {p : Char → Bool} (hcaret : p '^' = false) (htilde : p '~' = false)
    {t : Text} (ht : t.IsBreak) : t.takeWhile p = [] := by
  cases t with
  | nil => rfl
  | cons c t =>
    rcases ht c rfl with rfl | rfl
    · rw [List.takeWhile_cons_of_neg (by rw [hcaret]; exact Bool.false_ne_true)]
    · rw [List.takeWhile_cons_of_neg (by rw [htilde]; exact Bool.false_ne_true)]

theorem takeWhile_append_break {p : Char → Bool} (hcaret : p '^' = false)
    (htilde : p '~' = false) (s : Text) {t : Text} (ht : t.IsBreak) :
    (s ++ t).takeWhile p = s.takeWhile p := by
  induction s with
  | nil => exact takeWhile_of_isBreak hcaret htilde ht
  | cons c s ih => rw [List.cons_append, List.takeWhile_cons, List.takeWhile_cons, ih]

theorem dropWhile_append_break {p : Char → Bool} (hcaret : p '^' = false)
    (htilde : p '~' = false) (s : Text) {t : Text} (ht : t.IsBreak) :
    (s ++ t).dropWhile p = s.dropWhile p ++ t := by
  have h := List.takeWhile_append_dropWhile (p := p) (l := s ++ t)
  rw [takeWhile_append_break hcaret htilde s ht] at h
  have hs := List.takeWhile_append_dropWhile (p := p) (l := s)
  rw [← List.append_right_inj (s.takeWhile p), h, ← List.append_assoc, hs]

/-- A mark without carets and tildes at the front of two pieces lies within the first. -/
theorem isPrefixOf_append_break {mark : Text} (hmark : ∀ c ∈ mark, c ≠ '^' ∧ c ≠ '~') (s : Text)
    {t : Text} (ht : t.IsBreak) : mark.isPrefixOf (s ++ t) = mark.isPrefixOf s := by
  induction mark generalizing s with
  | nil => rfl
  | cons m mark ih =>
    cases s with
    | nil =>
      cases t with
      | nil => rfl
      | cons y t =>
        have hm := hmark m List.mem_cons_self
        have hy : m ≠ y := by rcases ht y rfl with rfl | rfl <;> simp [hm]
        simp [List.isPrefixOf, hy]
    | cons x s =>
      rw [List.cons_append, List.isPrefixOf, List.isPrefixOf,
        ih (fun c hc => hmark c (List.mem_cons_of_mem _ hc))]

/-! ## Cuts at a mark -/

theorem eq_append_of_cut? {mark t before after : Text} (h : cut? mark t = some (before, after)) :
    t = before ++ mark ++ after := by
  induction t generalizing before with
  | nil => cases h
  | cons c t ih =>
    rw [cut?] at h
    split at h
    · next hmark =>
      obtain ⟨rest, hrest⟩ := List.isPrefixOf_iff_prefix.mp hmark
      cases h
      rw [← hrest, List.drop_left]
      rfl
    · obtain ⟨⟨front, back⟩, hcut, hparts⟩ := Option.map_eq_some_iff.mp h
      cases hparts
      rw [ih hcut]
      rfl

theorem cut?_of_not_infix {mark t : Text} (h : ¬ mark <:+: t) : cut? mark t = none := by
  cases hcut : cut? mark t with
  | none => rfl
  | some parts => exact absurd ⟨parts.1, parts.2, (eq_append_of_cut? hcut).symm⟩ h

section Mark

variable {a b : Char}

theorem cut?_cons_of_ne {c : Char} (hc : c ≠ '^') (t : Text) :
    cut? ['^', a, b] (c :: t) = (cut? ['^', a, b] t).map fun parts => (c :: parts.1, parts.2) := by
  rw [cut?, if_neg]
  simp [List.isPrefixOf, Ne.symm hc]

theorem cut?_of_no_caret {t : Text} (h : '^' ∉ t) : cut? ['^', a, b] t = none := by
  induction t with
  | nil => rfl
  | cons c t ih =>
    rw [List.mem_cons, not_or] at h
    rw [cut?_cons_of_ne (Ne.symm h.1), ih h.2]
    rfl

/-- The first occurrence of a mark does not depend on what follows it. -/
theorem cut?_exchange_after {before after : Text}
    (h : cut? ['^', a, b] (before ++ ['^', a, b] ++ after) = some (before, after)) (other : Text) :
    cut? ['^', a, b] (before ++ ['^', a, b] ++ other) = some (before, other) := by
  induction before with
  | nil => simp [cut?]
  | cons c before ih =>
    have hfront : List.isPrefixOf ['^', a, b] (c :: (before ++ ['^', a, b] ++ after)) =
        List.isPrefixOf ['^', a, b] (c :: (before ++ ['^', a, b] ++ other)) := by
      rcases before with _ | ⟨d, _ | ⟨e, before⟩⟩ <;> rfl
    rw [List.cons_append, List.cons_append, cut?] at h ⊢
    split at h
    · cases h
    · next hno =>
      rw [if_neg (hfront ▸ hno)]
      obtain ⟨parts, hcut, hparts⟩ := Option.map_eq_some_iff.mp h
      cases hparts
      rw [ih hcut]
      rfl

/-- A mark is found in the first of two pieces or, if it is not there, in the second. -/
theorem cut?_append (ha : a ≠ '^' ∧ a ≠ '~') (hb : b ≠ '^' ∧ b ≠ '~') (s : Text) {t : Text}
    (ht : t.IsBreak) :
    cut? ['^', a, b] (s ++ t) =
      match cut? ['^', a, b] s with
      | some parts => some (parts.1, parts.2 ++ t)
      | none => (cut? ['^', a, b] t).map fun parts => (s ++ parts.1, parts.2) := by
  induction s with
  | nil =>
    cases h : cut? ['^', a, b] t <;> simp [h, cut?]
  | cons c s ih =>
    -- the mark at the front lies within the first piece, as it holds no break
    have hfront : List.isPrefixOf ['^', a, b] (c :: (s ++ t)) =
        List.isPrefixOf ['^', a, b] (c :: s) := by
      rw [List.isPrefixOf, List.isPrefixOf, isPrefixOf_append_break (by simp [ha, hb]) s ht]
    rw [List.cons_append, cut?, cut?, hfront, ih]
    split
    · next hmark =>
      have hlength := (List.isPrefixOf_iff_prefix.mp hmark).length_le
      rw [← List.cons_append, List.drop_append_of_le_length hlength]
    · cases cut? ['^', a, b] s with
      | some parts => rfl
      | none => cases cut? ['^', a, b] t <;> rfl

/-- A mark that cuts behind the first of two pieces is found in the second and not in the
    first. -/
theorem cut?_append_eq_some_iff (ha : a ≠ '^' ∧ a ≠ '~') (hb : b ≠ '^' ∧ b ≠ '~') {s t : Text}
    (ht : t.IsBreak) {before after : Text} :
    cut? ['^', a, b] (s ++ t) = some (s ++ before, after) ↔
      cut? ['^', a, b] s = none ∧ cut? ['^', a, b] t = some (before, after) := by
  rw [cut?_append ha hb s ht]
  cases hs : cut? ['^', a, b] s with
  | some parts =>
    simp only [Option.some.injEq, Prod.mk.injEq, reduceCtorEq, false_and, iff_false, not_and]
    intro h
    have hlength := congrArg List.length (eq_append_of_cut? hs)
    rw [h] at hlength
    simp only [List.length_append, List.length_cons, List.length_nil] at hlength
    omega
  | none =>
    cases cut? ['^', a, b] t with
    | none => simp
    | some parts =>
      obtain ⟨front, back⟩ := parts
      simp

/-- A text without the mark ends at the mark behind it. -/
theorem cut?_append_mark (ha : a ≠ '^' ∧ a ≠ '~') (hb : b ≠ '^' ∧ b ≠ '~') {s : Text}
    (h : cut? ['^', a, b] s = none) (t : Text) :
    cut? ['^', a, b] (s ++ (['^', a, b] ++ t)) = some (s, t) := by
  have hfront : cut? ['^', a, b] (['^', a, b] ++ t) = some ([], t) := by simp [cut?]
  have hbreak : IsBreak (['^', a, b] ++ t) := isBreak_caret _
  rw [cut?_append ha hb s hbreak, h, hfront]
  simp

end Mark

end Text

end ThermalLabel
