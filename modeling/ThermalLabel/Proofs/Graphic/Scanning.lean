/-
  Scanning for downloads piece by piece: the downloads of a text are those of its pieces, cut at
  breaks. A download starts at a tilde and holds no caret and no other tilde.
-/
import Mathlib.Data.List.TakeWhile
import ThermalLabel.Graphic.Download
import ThermalLabel.Proofs.Fallible
import ThermalLabel.Proofs.Text.Break

namespace ThermalLabel

namespace Download

open Text (IsBreak)

/-! ## Parts of a download -/

theorem isWord_caret : Text.isWord '^' = false := by decide

theorem isWord_tilde : Text.isWord '~' = false := by decide

theorem isDecimalDigit_caret : Text.isDecimalDigit '^' = false := by decide

theorem isDecimalDigit_tilde : Text.isDecimalDigit '~' = false := by decide

theorem isPayload_caret : isPayload '^' = false := by decide

theorem isPayload_tilde : isPayload '~' = false := by decide

variable {t : Text}

theorem afterDevice_append (s : Text) (ht : t.IsBreak) :
    afterDevice (s ++ t) = afterDevice s ++ t := by
  rcases t with _ | ⟨y, t⟩
  · rw [List.append_nil, List.append_nil]
  rcases s with _ | ⟨a, _ | ⟨b, s⟩⟩
  · have hupper : y.isUpper = false := by rcases ht y rfl with rfl | rfl <;> rfl
    rw [List.nil_append, afterDevice.eq_def]
    split
    · next heq =>
      cases heq
      simp [hupper, afterDevice]
    · rfl
  · have hcolon : y ≠ ':' := by rcases ht y rfl with rfl | rfl <;> decide
    simp [afterDevice, hcolon]
  · by_cases hb : b = ':'
    · subst hb
      simp only [List.cons_append, afterDevice]
      split <;> rfl
    · simp [afterDevice, hb]

theorem afterExtension_eq (s : Text) :
    afterExtension s = if ['.', 'G', 'R', 'F'].isPrefixOf s then s.drop 4 else s := by
  rw [afterExtension.eq_def]
  split
  · rfl
  · next hno =>
    rw [if_neg]
    intro h
    obtain ⟨rest, rfl⟩ := List.isPrefixOf_iff_prefix.mp h
    exact hno rest rfl

theorem afterExtension_append (s : Text) (ht : t.IsBreak) :
    afterExtension (s ++ t) = afterExtension s ++ t := by
  rw [afterExtension_eq, afterExtension_eq, Text.isPrefixOf_append_break (by simp) s ht]
  split
  · next h =>
    have hlength := (List.isPrefixOf_iff_prefix.mp h).length_le
    exact List.drop_append_of_le_length hlength
  · rfl

theorem afterComma?_append (s : Text) (ht : t.IsBreak) :
    afterComma? (s ++ t) = (afterComma? s).map (· ++ t) := by
  rcases t with _ | ⟨y, t⟩
  · cases h : afterComma? s <;> simp [h]
  have hy : y ≠ ',' := by rcases ht y rfl with rfl | rfl <;> decide
  rcases s with _ | ⟨a, s⟩
  · simp [afterComma?, hy]
  · by_cases ha : a = ','
    · subst ha
      rfl
    · simp [afterComma?, ha]

theorem piece?_append {p : Char → Bool} (hcaret : p '^' = false) (htilde : p '~' = false)
    (s : Text) (ht : t.IsBreak) :
    piece? p (s ++ t) = (piece? p s).map fun parts => (parts.1, parts.2 ++ t) := by
  rw [piece?, piece?, Text.takeWhile_append_break hcaret htilde s ht,
    Text.dropWhile_append_break hcaret htilde s ht]
  split <;> rfl

/-! ## Downloads -/

theorem source?_eq_none {s : Text} (h : ¬ ['~', 'D', 'G'].isPrefixOf s) : source? s = none := by
  rw [source?.eq_def]
  split
  · exact absurd rfl h
  · rfl

/-- A download at the front of a text ends within its first piece. -/
theorem source?_append (x : Char) (s : Text) (ht : t.IsBreak) :
    source? (x :: s ++ t) = source? (x :: s) := by
  have hfront : List.isPrefixOf ['~', 'D', 'G'] (x :: s ++ t) =
      List.isPrefixOf ['~', 'D', 'G'] (x :: s) := by
    rw [List.cons_append, List.isPrefixOf, List.isPrefixOf,
      Text.isPrefixOf_append_break (by simp) s ht]
  by_cases h : List.isPrefixOf ['~', 'D', 'G'] (x :: s)
  · obtain ⟨rest, hrest⟩ := List.isPrefixOf_iff_prefix.mp h
    rw [← hrest, List.append_assoc]
    simp only [List.cons_append, List.nil_append, source?]
    rw [afterDevice_append rest ht, piece?_append isWord_caret isWord_tilde _ ht]
    rcases piece? Text.isWord (afterDevice rest) with _ | ⟨name, rest⟩
    · rfl
    simp only [Option.map_some, Option.bind_eq_bind, Option.bind_some]
    rw [afterExtension_append rest ht, afterComma?_append _ ht]
    rcases afterComma? (afterExtension rest) with _ | rest
    · rfl
    simp only [Option.map_some, Option.bind_some]
    rw [piece?_append isDecimalDigit_caret isDecimalDigit_tilde _ ht]
    rcases piece? Text.isDecimalDigit rest with _ | ⟨total, rest⟩
    · rfl
    simp only [Option.map_some, Option.bind_some]
    rw [afterComma?_append _ ht]
    rcases afterComma? rest with _ | rest
    · rfl
    simp only [Option.map_some, Option.bind_some]
    rw [piece?_append isDecimalDigit_caret isDecimalDigit_tilde _ ht]
    rcases piece? Text.isDecimalDigit rest with _ | ⟨row, rest⟩
    · rfl
    simp only [Option.map_some, Option.bind_some]
    rw [afterComma?_append _ ht]
    rcases afterComma? rest with _ | rest
    · rfl
    simp only [Option.map_some, Option.bind_some]
    rw [piece?_append isPayload_caret isPayload_tilde _ ht]
    cases piece? isPayload rest <;> rfl
  · rw [source?_eq_none h, source?_eq_none (hfront ▸ h)]

theorem sources_append (s : Text) (ht : t.IsBreak) :
    sources (s ++ t) = sources s ++ sources t := by
  induction s with
  | nil => rfl
  | cons x s ih =>
    rw [List.cons_append, sources, sources, ← List.cons_append, source?_append x s ht, ih]
    cases source? (x :: s) <;> rfl

theorem sources_of_no_tilde {s : Text} (h : '~' ∉ s) : sources s = [] := by
  induction s with
  | nil => rfl
  | cons x s ih =>
    rw [List.mem_cons, not_or] at h
    have hno : ¬ List.isPrefixOf ['~', 'D', 'G'] (x :: s) := by
      simp [List.isPrefixOf, h.1]
    rw [sources, source?_eq_none hno]
    exact ih h.2

/-! ## Names and numbers -/

theorem piece?_eq_some {p : Char → Bool} {s : Text} {parts : Text × Text}
    (h : piece? p s = some parts) : parts.1 ≠ [] ∧ ∀ c ∈ parts.1, p c := by
  rw [piece?] at h
  split at h
  · cases h
  · next hne =>
    cases h
    exact ⟨hne, fun c hc => List.mem_takeWhile_imp hc⟩

theorem source?_name {s : Text} {found : Source} (h : source? s = some found) :
    found.name ≠ [] ∧ ∀ c ∈ found.name, Text.isWord c := by
  rw [source?.eq_def] at h
  split at h
  · next rest =>
    simp only [Option.bind_eq_bind, Option.bind_eq_some_iff] at h
    obtain ⟨name, hname, _, -, _, -, _, -, _, -, _, -, _, -, h⟩ := h
    cases h
    exact piece?_eq_some hname
  · cases h

/-- Without its line breaks a payload has letters and digits of ASCII only. -/
theorem source?_payload {s : Text} {found : Source} (h : source? s = some found) :
    ∀ c ∈ found.payload, c.isAlphanum := by
  rw [source?.eq_def] at h
  split at h
  · next rest =>
    simp only [Option.bind_eq_bind, Option.bind_eq_some_iff] at h
    obtain ⟨_, -, _, -, _, -, _, -, _, -, _, -, payload, hpayload, h⟩ := h
    cases h
    intro c hc
    obtain ⟨hmem, hbreak⟩ := List.mem_filter.mp hc
    have hclass := (piece?_eq_some hpayload).2 c hmem
    simp only [isPayload, Bool.or_eq_true, beq_iff_eq] at hclass
    simp only [Bool.and_eq_true, bne_iff_ne] at hbreak
    exact (hclass.resolve_right hbreak.2).resolve_right hbreak.1
  · cases h

/-- What holds of each download at the front of a text holds of all downloads of a text. -/
theorem forall_sources {P : Source → Prop} (h : ∀ s found, source? s = some found → P found)
    {s : Text} {found : Source} (hfound : found ∈ sources s) : P found := by
  induction s with
  | nil => cases hfound
  | cons x s ih =>
    rw [sources] at hfound
    cases hfront : source? (x :: s) with
    | none =>
      rw [hfront] at hfound
      exact ih hfound
    | some first =>
      rw [hfront] at hfound
      rcases List.mem_cons.mp hfound with rfl | hfound
      · exact h _ _ hfront
      · exact ih hfound

theorem sources_name {s : Text} {found : Source} (h : found ∈ sources s) :
    found.name ≠ [] ∧ ∀ c ∈ found.name, Text.isWord c :=
  forall_sources (P := fun found => found.name ≠ [] ∧ ∀ c ∈ found.name, Text.isWord c)
    (fun _ _ => source?_name) h

theorem sources_payload {s : Text} {found : Source} (h : found ∈ sources s) :
    ∀ c ∈ found.payload, c.isAlphanum :=
  forall_sources (P := fun found => ∀ c ∈ found.payload, c.isAlphanum)
    (fun _ _ => source?_payload) h

theorem number_eq_error {digits : Text} {reason : Fault} (h : number digits = .error reason) :
    Numeral.digitLimit < digits.length ∧ reason = .tooManyDigits digits.length := by
  rw [number] at h
  split at h
  · cases h
  · next hlong =>
    cases h
    exact ⟨Nat.lt_of_not_le hlong, rfl⟩

theorem exists_number_ok_iff {digits : Text} :
    (∃ n, number digits = .ok n) ↔ digits.length ≤ Numeral.digitLimit := by
  rw [number]
  split
  · next h => simp [h]
  · next h => simp [h]

theorem Source.exists_read_ok_iff {s : Source} :
    (∃ d, s.read = .ok d) ↔
      s.totalBytes.length ≤ Numeral.digitLimit ∧ s.bytesPerRow.length ≤ Numeral.digitLimit := by
  rw [← exists_number_ok_iff, ← exists_number_ok_iff]
  constructor
  · rintro ⟨d, h⟩
    obtain ⟨total, htotal, h⟩ := bind_eq_ok_iff.mp h
    obtain ⟨row, hrow, -⟩ := bind_eq_ok_iff.mp h
    exact ⟨⟨total, htotal⟩, row, hrow⟩
  · rintro ⟨⟨total, htotal⟩, row, hrow⟩
    rw [Source.read, htotal, hrow]
    exact ⟨_, rfl⟩

theorem Source.read_eq_error {s : Source} :
    ∀ reason, s.read = .error reason →
      ∃ count, Numeral.digitLimit < count ∧ reason = .tooManyDigits count := by
  refine forall_error_bind (fun _ h => ⟨_, number_eq_error h⟩) fun _ =>
    forall_error_bind (fun _ h => ⟨_, number_eq_error h⟩) fun _ _ h => ?_
  cases h

theorem Source.read_name {s : Source} {d : Download} (h : s.read = .ok d) : d.name = s.name := by
  obtain ⟨total, -, h⟩ := bind_eq_ok_iff.mp h
  obtain ⟨row, -, h⟩ := bind_eq_ok_iff.mp h
  cases h
  rfl

theorem Source.read_payload {s : Source} {d : Download} (h : s.read = .ok d) :
    d.payload = s.payload := by
  obtain ⟨total, -, h⟩ := bind_eq_ok_iff.mp h
  obtain ⟨row, -, h⟩ := bind_eq_ok_iff.mp h
  cases h
  rfl

/-- The name of a download has word characters only, and at least one. -/
theorem all_name {zpl : Text} {downloads : List Download} (h : all zpl = .ok downloads)
    {d : Download} (hd : d ∈ downloads) : d.name ≠ [] ∧ ∀ c ∈ d.name, Text.isWord c := by
  obtain ⟨found, hfound, hread⟩ := exists_of_mem_mapM h hd
  rw [Source.read_name hread]
  exact sources_name hfound

theorem all_payload {zpl : Text} {downloads : List Download} (h : all zpl = .ok downloads)
    {d : Download} (hd : d ∈ downloads) : ∀ c ∈ d.payload, c.isAlphanum := by
  obtain ⟨found, hfound, hread⟩ := exists_of_mem_mapM h hd
  rw [Source.read_payload hread]
  exact sources_payload hfound

end Download

end ThermalLabel
