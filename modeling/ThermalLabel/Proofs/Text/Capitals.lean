/-
  Texts whose capital form ends in the file extension `.GRF`.

  The capital form of a character above U+007F ends in no character of the extension, but for that
  of the ligature of two letters f, which ends in two letters F (`upper_of_foreign`). So a text
  whose capital form ends in the extension ends in it itself, in letters of either case, although
  its capital form may be longer than the text (`isSuffixOf_uppercase_iff`).
-/
import Mathlib.Data.Bool.AllAny
import Mathlib.Data.List.Basic
import ThermalLabel.Text.Uppercase

namespace ThermalLabel

namespace Text

/-! ## Characters -/

/-- What is checked of every character of ASCII, code by code, holds of it. -/
theorem forall_ascii {P : Char → Prop} (h : ∀ code < 128, P (Char.ofNat code)) {c : Char}
    (hc : c.toNat < 128) : P c := by
  have hcode := h c.toNat hc
  rwa [Char.ofNat_toNat] at hcode

theorem toNat_lt_of_isAlphanum {c : Char} (h : c.isAlphanum) : c.toNat < 128 := by
  have hends : (c.val ≤ 'Z'.val ∨ c.val ≤ 'z'.val) ∨ c.val ≤ '9'.val := by
    rcases (Bool.or_eq_true _ _).mp h with hletter | hdigit
    · rcases (Bool.or_eq_true _ _).mp hletter with hupper | hlower
      · exact .inl (.inl (of_decide_eq_true hupper).2)
      · exact .inl (.inr (of_decide_eq_true ((Bool.and_eq_true _ _).mp hlower).2))
    · exact .inr (of_decide_eq_true ((Bool.and_eq_true _ _).mp hdigit).2)
  rcases hends with (hlast | hlast) | hlast
  all_goals exact Nat.lt_of_le_of_lt (UInt32.le_iff_toNat_le.mp hlast) (by decide)

theorem eq_toNat_of_ofNat {n : Nat} {x : Char} (h : Char.ofNat n = x) (hx : x.toNat ≠ 0) :
    n = x.toNat := by
  subst h
  by_cases hn : n.isValidChar
  · rw [Char.ofNat, dif_pos hn]
    exact (UInt32.toNat_ofNatLT ..).symm
  · rw [Char.ofNat, dif_neg hn] at hx
    exact absurd rfl hx

theorem upper_of_ascii {c : Char} (hc : c.toNat < 128) : upper c = [c.toUpper] := if_pos hc

theorem upper_ne_nil (c : Char) : upper c ≠ [] := by
  have hexpansions : ∀ e ∈ Uppercase.expansions, e.2 ≠ [] := by decide
  rw [upper]
  split
  · exact List.cons_ne_nil _ _
  · split
    · next codes hcodes =>
      obtain ⟨before, after, hlist, -⟩ := List.lookup_eq_some_iff.mp hcodes
      have hne := hexpansions (c.toNat, codes) (by rw [hlist]; simp)
      exact fun h => hne (List.map_eq_nil_iff.mp h)
    · split
      · exact List.cons_ne_nil _ _
      · exact List.cons_ne_nil _ _

/-- A character above U+007F has no capital form that ends in a character of the file extension, but
    for the ligature of two letters f. -/
theorem upper_of_foreign {c : Char} (hc : 128 ≤ c.toNat) {front : Text} {x : Char}
    (hx : x ∈ ['.', 'G', 'R', 'F']) (h : upper c = front ++ [x]) : x = 'F' ∧ front = ['F'] := by
  have hsmall : ∀ x ∈ ['.', 'G', 'R', 'F'], x.toNat ≠ 0 ∧ x.toNat < 128 :=
    List.all_iff_forall_prop.mp (by decide)
  have hexpansions : ∀ x ∈ ['.', 'G', 'R', 'F'], ∀ e ∈ Uppercase.expansions,
      e.2.getLast? = some x.toNat → x = 'F' ∧ e.2.dropLast = ['F'.toNat] :=
    List.all_iff_forall_prop.mp (by decide +kernel)
  have hshifts : ∀ x ∈ ['.', 'G', 'R', 'F'], ∀ s ∈ Uppercase.shifts,
      (x.toNat : Int) < s.first + s.distance ∨ s.last + s.distance < x.toNat :=
    List.all_iff_forall_prop.mp (by decide +kernel)
  obtain ⟨hpositive, hless⟩ := hsmall x hx
  rw [upper, if_neg (by omega)] at h
  split at h
  · next codes hcodes =>
    obtain ⟨before, after, hlist, -⟩ := List.lookup_eq_some_iff.mp hcodes
    obtain ⟨codes, last, rfl, rfl, hlast⟩ := List.map_eq_append_iff.mp h
    obtain ⟨code, rfl, hcode⟩ := List.map_eq_singleton_iff.mp hlast
    have hcode := eq_toNat_of_ofNat hcode hpositive
    have hend := hexpansions x hx (c.toNat, codes ++ [code]) (by rw [hlist]; simp)
      (by rw [List.getLast?_concat, hcode])
    rw [List.dropLast_concat] at hend
    exact ⟨hend.1, by rw [hend.2]; rfl⟩
  · split at h
    · next s hs =>
      obtain ⟨rfl, hx'⟩ := List.append_eq_singleton_iff.mp h.symm |>.resolve_right (by simp)
      have hcode := eq_toNat_of_ofNat (List.cons.inj hx').1.symm hpositive
      have hcovers := List.find?_some hs
      have hapart := hshifts x hx s (List.mem_of_find?_eq_some hs)
      simp only [Uppercase.Shift.covers, Bool.and_eq_true, decide_eq_true_eq] at hcovers
      omega
    · obtain ⟨rfl, hx'⟩ := List.append_eq_singleton_iff.mp h.symm |>.resolve_right (by simp)
      rw [← (List.cons.inj hx').1] at hc
      omega

/-! ## The end of a text -/

theorem uppercase_concat (s : Text) (c : Char) : uppercase (s ++ [c]) = uppercase s ++ upper c := by
  simp [uppercase]

/-- The last character of a text is the one at the end of its capital form, in either case. -/
theorem exists_concat_of_suffix {w t : Text} {x : Char} (hx : x ∈ ['.', 'G', 'R', 'F'])
    (hw : x = 'F' → ∃ v y, w = v ++ [y] ∧ y ≠ 'F') (h : w ++ [x] <:+ uppercase t) :
    ∃ s c, t = s ++ [c] ∧ c.toLower = x.toLower ∧ w <:+ uppercase s := by
  rcases t.eq_nil_or_concat with rfl | ⟨s, c, rfl⟩
  · exact absurd (List.suffix_nil.mp h) (by simp)
  · obtain ⟨front, y, hupper⟩ := (List.eq_nil_or_concat (upper c)).resolve_left (upper_ne_nil c)
    obtain ⟨rest, hrest⟩ := h
    rw [List.concat_eq_append, uppercase_concat, hupper, List.concat_eq_append, ← List.append_assoc,
      ← List.append_assoc] at hrest
    obtain ⟨hfront, hlast⟩ := List.append_inj' hrest rfl
    obtain rfl : x = y := (List.cons.inj hlast).1
    rw [List.concat_eq_append] at hupper
    refine ⟨s, c, by simp, ?_⟩
    rcases Nat.lt_or_ge c.toNat 128 with hc | hc
    · rw [upper_of_ascii hc] at hupper
      obtain ⟨rfl, hcapital⟩ :=
        (List.append_eq_singleton_iff.mp hupper.symm).resolve_right (by simp)
      rw [(List.cons.inj hcapital).1]
      refine ⟨forall_ascii (P := fun c => c.toLower = c.toUpper.toLower) (by decide) hc, rest, ?_⟩
      rw [hfront, List.append_nil]
    · -- the ligature would put an F where the extension has another letter
      obtain ⟨rfl, rfl⟩ := upper_of_foreign hc hx hupper
      obtain ⟨v, y, rfl, hy⟩ := hw rfl
      rw [← List.append_assoc] at hfront
      exact absurd (List.cons.inj (List.append_inj' hfront rfl).2).1 hy

theorem toNat_lt_of_toLower {c : Char} (h : c.toLower.toNat < 128) : c.toNat < 128 := by
  by_contra hc
  have hlast : ¬ c.toNat ≤ 90 := by omega
  have hself : c.toLower = c := dif_neg fun h => hlast h.2
  rw [hself] at h
  exact hc h

theorem upper_of_toLower {c x : Char} (hx : x ∈ ['.', 'G', 'R', 'F'])
    (h : c.toLower = x.toLower) : upper c = [x] := by
  have hsmall : ∀ x ∈ ['.', 'G', 'R', 'F'], x.toLower.toNat < 128 :=
    List.all_iff_forall_prop.mp (by decide)
  have hc : c.toNat < 128 := toNat_lt_of_toLower (by rw [h]; exact hsmall x hx)
  have hall : ∀ x ∈ ['.', 'G', 'R', 'F'], ∀ code < 128,
      (Char.ofNat code).toLower = x.toLower → upper (Char.ofNat code) = [x] :=
    List.all_iff_forall_prop.mp (by decide +kernel)
  exact forall_ascii (P := fun c => c.toLower = x.toLower → upper c = [x]) (hall x hx) hc h

/-- The capital form of a text ends in the file extension exactly if the text ends in it, in letters
    of either case. -/
theorem isSuffixOf_uppercase_iff {t : Text} :
    ['.', 'G', 'R', 'F'].isSuffixOf (uppercase t) ↔
      ∃ s e, t = s ++ e ∧ lowercase e = ['.', 'g', 'r', 'f'] := by
  rw [List.isSuffixOf_iff_suffix]
  constructor
  · intro h
    obtain ⟨s, f, rfl, hf, h⟩ := exists_concat_of_suffix (w := ['.', 'G', 'R']) (by simp)
      (fun _ => ⟨['.', 'G'], 'R', rfl, by decide⟩) h
    obtain ⟨s, r, rfl, hr, h⟩ := exists_concat_of_suffix (w := ['.', 'G']) (by simp)
      (fun h => absurd h (by decide)) h
    obtain ⟨s, g, rfl, hg, h⟩ := exists_concat_of_suffix (w := ['.']) (by simp)
      (fun h => absurd h (by decide)) h
    obtain ⟨s, p, rfl, hp, -⟩ := exists_concat_of_suffix (w := []) (by simp)
      (fun h => absurd h (by decide)) h
    refine ⟨s, [p, g, r, f], by simp, ?_⟩
    rw [lowercase, List.map_cons, List.map_cons, List.map_cons, List.map_cons, hp, hg, hr, hf]
    rfl
  · rintro ⟨s, e, rfl, he⟩
    obtain ⟨p, e, rfl, hp, he⟩ := List.map_eq_cons_iff.mp he
    obtain ⟨g, e, rfl, hg, he⟩ := List.map_eq_cons_iff.mp he
    obtain ⟨r, e, rfl, hr, he⟩ := List.map_eq_cons_iff.mp he
    obtain ⟨f, e, rfl, hf, he⟩ := List.map_eq_cons_iff.mp he
    obtain rfl := List.map_eq_nil_iff.mp he
    refine ⟨uppercase s, ?_⟩
    have hp' : upper p = ['.'] := upper_of_toLower (by simp) hp
    have hg' : upper g = ['G'] := upper_of_toLower (by simp) hg
    have hr' : upper r = ['R'] := upper_of_toLower (by simp) hr
    have hf' : upper f = ['F'] := upper_of_toLower (by simp) hf
    simp [uppercase, hp', hg', hr', hf']

end Text

end ThermalLabel
