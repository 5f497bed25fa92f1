/-
  Places of a mark in a text.

  A cut is made at the first place where its mark stands (`Text.cut?_eq_some_iff`), and there is
  none exactly if the mark stands nowhere (`Text.cut?_eq_none_iff`). Behind a given place the first
  one is that of the rest of the text (`Text.isLeast_standsAt_drop_iff`).
-/
import Mathlib.Order.Bounds.Basic
import ThermalLabel.Proofs.Text.Break

namespace ThermalLabel

namespace Text

/-- The mark stands at a place of the text. -/
def StandsAt (mark t : Text) (p : Nat) : Prop := mark <+: t.drop p

instance (mark t : Text) : DecidablePred (mark.StandsAt t) :=
  fun p => inferInstanceAs (Decidable (mark <+: t.drop p))

variable {mark t : Text} {p : Nat}

theorem standsAt_drop_iff {k : Nat} :
    mark.StandsAt (t.drop k) p ↔ mark.StandsAt t (k + p) := by
  rw [StandsAt, StandsAt, List.drop_drop]

theorem StandsAt.getElem? (h : mark.StandsAt t p) {k : Nat} (hk : k < mark.length) :
    t[p + k]? = mark[k]? := by
  obtain ⟨rest, hrest⟩ := h
  rw [← List.getElem?_drop, ← hrest, List.getElem?_append_left hk]

theorem StandsAt.lt_length (h : mark.StandsAt t p) (hmark : mark ≠ []) : p < t.length := by
  have hlength := List.IsPrefix.length_le h
  have hpos := List.length_pos_iff.mpr hmark
  rw [List.length_drop] at hlength
  omega

theorem exists_standsAt_iff : (∃ q, mark.StandsAt t q) ↔ mark <:+: t := by
  constructor
  · rintro ⟨q, hq⟩
    exact hq.isInfix.trans (List.drop_suffix q t).isInfix
  · rintro ⟨front, back, rfl⟩
    refine ⟨front.length, ?_⟩
    rw [StandsAt, List.append_assoc, List.drop_left]
    exact List.prefix_append mark back

/-- The first place behind `k` is the first one of the rest. -/
theorem isLeast_standsAt_drop_iff {k : Nat} :
    IsLeast {q | mark.StandsAt (t.drop k) q} p ↔
      IsLeast {q | k ≤ q ∧ mark.StandsAt t q} (k + p) := by
  constructor
  · rintro ⟨hp, hleast⟩
    refine ⟨⟨Nat.le_add_right k p, standsAt_drop_iff.mp hp⟩, ?_⟩
    rintro q ⟨hkq, hq⟩
    have hrest : mark.StandsAt (t.drop k) (q - k) := by
      rw [standsAt_drop_iff, Nat.add_sub_cancel' hkq]
      exact hq
    have hle := hleast hrest
    omega
  · rintro ⟨⟨-, hp⟩, hleast⟩
    refine ⟨standsAt_drop_iff.mpr hp, fun q hq => ?_⟩
    have hle := hleast ⟨Nat.le_add_right k q, standsAt_drop_iff.mp hq⟩
    omega

/-! ## The cut at the first place -/

theorem isLeast_of_cut? {parts : Text × Text} (h : cut? mark t = some parts) :
    IsLeast {q | mark.StandsAt t q} parts.1.length := by
  induction t generalizing parts with
  | nil => cases h
  | cons c t ih =>
    rw [cut?] at h
    split at h
    · next hfront =>
      cases h
      exact ⟨List.isPrefixOf_iff_prefix.mp hfront, fun q _ => Nat.zero_le q⟩
    · next hfront =>
      obtain ⟨rest, hrest, rfl⟩ := Option.map_eq_some_iff.mp h
      obtain ⟨hplace, hleast⟩ := ih hrest
      refine ⟨hplace, fun q hq => ?_⟩
      cases q with
      | zero => exact absurd (List.isPrefixOf_iff_prefix.mpr hq) hfront
      | succ q => exact Nat.succ_le_succ (hleast hq)

theorem cut?_eq_none_iff (hmark : mark ≠ []) :
    cut? mark t = none ↔ ∀ q, ¬ mark.StandsAt t q := by
  constructor
  · intro h
    induction t with
    | nil =>
      intro q hq
      exact absurd (hq.lt_length hmark) (Nat.not_lt_zero q)
    | cons c t ih =>
      rw [cut?] at h
      split at h
      · cases h
      · next hfront =>
        intro q hq
        cases q with
        | zero => exact hfront (List.isPrefixOf_iff_prefix.mpr hq)
        | succ q => exact ih (Option.map_eq_none_iff.mp h) q hq
  · intro h
    apply cut?_of_not_infix
    rw [← exists_standsAt_iff, not_exists]
    exact h

theorem cut?_eq_some_iff (hmark : mark ≠ []) {before after : Text} :
    cut? mark t = some (before, after) ↔
      ∃ q, IsLeast {q | mark.StandsAt t q} q ∧
        before = t.take q ∧ after = t.drop (q + mark.length) := by
  have hparts : ∀ {front back : Text}, cut? mark t = some (front, back) →
      front = t.take front.length ∧ back = t.drop (front.length + mark.length) := by
    intro front back h
    rw [eq_append_of_cut? h, ← List.length_append, List.drop_left, List.append_assoc,
      List.take_left]
    exact ⟨rfl, rfl⟩
  constructor
  · intro h
    exact ⟨before.length, isLeast_of_cut? h, hparts h⟩
  · rintro ⟨q, hq, rfl, rfl⟩
    cases hcut : cut? mark t with
    | none => exact absurd hq.1 ((cut?_eq_none_iff hmark).mp hcut q)
    | some parts =>
      obtain ⟨front, back⟩ := parts
      have hplace : q = front.length := hq.unique (isLeast_of_cut? hcut)
      obtain ⟨hfront, hback⟩ := hparts hcut
      rw [hplace, ← hfront, ← hback]

end Text

end ThermalLabel
