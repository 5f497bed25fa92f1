/-
  Graphics are found as they were written.

  A graphic ends at the first character that cannot go on its payload, and a text without a tilde
  holds no graphic. So graphics that are written into a text, with such texts around them, are
  found in their order and nothing else is (`Download.sources_interspersed`), and the numbers of
  each are those that its digits denote (`Download.number_of_denotes`).
-/
import Mathlib.Data.Nat.Digits.Defs
import ThermalLabel.Proofs.Graphic.Placement

namespace ThermalLabel

/-! ## Numbers -/

theorem Decimal.value_eq_ofDigits (values : List Nat) :
    value values = Nat.ofDigits 10 values.reverse := by
  unfold value
  rw [Nat.ofDigits_eq_foldr, List.foldr_reverse]
  congr 1
  funext n d
  simp only [Nat.cast_id]
  omega

namespace Download

/-- The text has decimal digits only, of any script, and at least one; their values, the most
    significant first, make the number. -/
structure Denotes (digits : Text) (n : Nat) : Prop where
  nonempty : digits ≠ []
  values : ∃ values : List Nat, digits.map Text.digitValue? = values.map some ∧
    Nat.ofDigits 10 values.reverse = n

theorem digits_of_values {digits : Text} {values : List Nat}
    (h : digits.map Text.digitValue? = values.map some) : Numeral.digits digits = (values, []) := by
  induction digits generalizing values with
  | nil =>
    cases values with
    | nil => rfl
    | cons v values => cases h
  | cons c digits ih =>
    cases values with
    | nil => cases h
    | cons v values =>
      obtain ⟨hc, hrest⟩ := List.cons.inj h
      rw [Numeral.digits, hc, ih hrest]

theorem number_of_denotes {digits : Text} {n : Nat} (h : Denotes digits n)
    (hlength : digits.length ≤ Numeral.digitLimit) : number digits = .ok n := by
  obtain ⟨values, hvalues, hn⟩ := h.values
  rw [number, if_pos hlength, digits_of_values hvalues, Decimal.value_eq_ofDigits, hn]

/-! ## Graphics with their numbers -/

/-- A graphic as it is written, with the numbers that its digits denote. They are as short as
    numbers that are read have to be. -/
structure Numbered extends Written where
  total : Nat
  row : Nat
  denotes_total : Denotes totalBytes total
  denotes_row : Denotes bytesPerRow row
  totalBytes_short : totalBytes.length ≤ Numeral.digitLimit
  bytesPerRow_short : bytesPerRow.length ≤ Numeral.digitLimit

/-- The graphic that is found. -/
def Numbered.download (g : Numbered) : Download :=
  ⟨g.name, g.total, g.row, g.payload.filter fun c => c != '\n' && c != '\r'⟩

theorem Numbered.read_source (g : Numbered) : g.source.read = .ok g.download := by
  have htotal := number_of_denotes g.denotes_total g.totalBytes_short
  have hrow := number_of_denotes g.denotes_row g.bytesPerRow_short
  rw [Source.read, Written.source, htotal, ok_bind, hrow]
  rfl

/-! ## Graphics in a text -/

/-- A text that can stand behind a graphic: it holds no graphic and cannot go on a payload. -/
structure Filler where
  text : Text
  no_tilde : '~' ∉ text
  apart : ∀ c ∈ text.head?, isPayload c = false

/-- The text of graphics with fillers behind them. -/
def interspersed (items : List (Numbered × Filler)) : Text :=
  items.flatMap fun item => item.1.text ++ item.2.text

theorem isBreak_interspersed (items : List (Numbered × Filler)) :
    (interspersed items).IsBreak := by
  cases items with
  | nil => exact fun c hc => by cases hc
  | cons item items =>
    rw [interspersed, List.flatMap_cons, List.append_assoc]
    exact item.1.isAside.isBreak_append _

theorem sources_interspersed (items : List (Numbered × Filler)) :
    sources (interspersed items) = items.map fun item => item.1.source := by
  induction items with
  | nil => rfl
  | cons item items ih =>
    have hitem := item.1.sources_text_append item.2.apart item.2.no_tilde
    rw [interspersed, List.flatMap_cons, ← interspersed,
      sources_append _ (isBreak_interspersed items), hitem, ih]
    rfl

/-- The graphics that are found in a text are those that were written into it, in their order, with
    their numbers and with their payloads free of line breaks. -/
theorem all_interspersed {before : Text} (hbefore : '~' ∉ before)
    (items : List (Numbered × Filler)) :
    all (before ++ interspersed items) = .ok (items.map fun item => item.1.download) := by
  have hread : ∀ list : List (Numbered × Filler),
      (list.map fun item => item.1.source).mapM Source.read =
        .ok (list.map fun item => item.1.download) := by
    intro list
    induction list with
    | nil => rfl
    | cons item list ih =>
      rw [List.map_cons, List.mapM_cons, item.1.read_source, ok_bind, ih]
      rfl
  rw [all, sources_append _ (isBreak_interspersed items), sources_of_no_tilde hbefore,
    List.nil_append, sources_interspersed, hread]

/-- A graphic with a device and an extension, and two digits for a number of one. -/
def numberedLogo : Numbered where
  toWritten := { Conversion.logo with
    totalBytes := ['0', '2']
    totalBytes_isDigit := ⟨by simp, List.all_eq_true.mp (by decide +kernel)⟩ }
  total := 2
  row := 1
  denotes_total := ⟨by simp, [0, 2], by decide +kernel, by decide⟩
  denotes_row := ⟨by simp [Conversion.logo], [1], by decide +kernel, by decide⟩
  totalBytes_short := by decide
  bytesPerRow_short := by decide

/-- A graphic with neither, whose numbers are in digits of another script, and whose payload could
    be taken for a name. -/
def numberedBadge : Numbered where
  device := none
  name := ['R', '_', '1']
  hasExtension := false
  totalBytes := ['٣', '٤']
  bytesPerRow := ['٢']
  payload := ['G', 'R', 'F']
  device_isUpper c hc := by cases hc
  name_isWord := ⟨by simp, List.all_eq_true.mp (by decide +kernel)⟩
  totalBytes_isDigit := ⟨by simp, List.all_eq_true.mp (by decide +kernel)⟩
  bytesPerRow_isDigit := ⟨by simp, List.all_eq_true.mp (by decide +kernel)⟩
  payload_isPayload := ⟨by simp, List.all_eq_true.mp (by decide +kernel)⟩
  total := 34
  row := 2
  denotes_total := ⟨by simp, [3, 4], by decide +kernel, by decide⟩
  denotes_row := ⟨by simp, [2], by decide +kernel, by decide⟩
  totalBytes_short := by decide
  bytesPerRow_short := by decide

/-- Two graphics with nothing between them, and the first one again behind a text that could be its
    extension. -/
def sampleItems : List (Numbered × Filler) :=
  [(numberedLogo, ⟨[], by simp, fun c hc => by cases hc⟩),
    (numberedBadge, ⟨".GRF,1".toList, by decide, fun c hc => by cases hc; rfl⟩),
    (numberedLogo, ⟨"^XZ".toList, by decide, fun c hc => by cases hc; rfl⟩)]

theorem all_interspersed_of_sampleItems :
    '~' ∉ "^XA".toList ∧
      all "^XA~DGR:LOGO.GRF,02,1,FF\n00~DGR_1,٣٤,٢,GRF.GRF,1~DGR:LOGO.GRF,02,1,FF\n00^XZ".toList =
        .ok [⟨"LOGO".toList, 2, 1, "FF00".toList⟩, ⟨"R_1".toList, 34, 2, "GRF".toList⟩,
          ⟨"LOGO".toList, 2, 1, "FF00".toList⟩] := by
  have hbefore : '~' ∉ "^XA".toList := by decide
  exact ⟨hbefore, all_interspersed hbefore sampleItems⟩

end Download

end ThermalLabel
