/-
  Where a graphic stands in a label text does not matter.

  A graphic starts with a tilde and holds no caret, so it belongs to no command. Put before a
  caret or a tilde of a text, or at its end, it leaves the label block with its commands
  (`labelBlock?_insert`), and the downloads of the text are those of the two pieces around it with
  the graphic between them (`Download.sources_insert`). So it can be put at any other such place
  with the same result, as long as no other graphic stands between the two
  (`Conversion.ofText_insertAt`).
-/
import ThermalLabel.Proofs.Offsets

namespace ThermalLabel

/-! ## Pieces of no command -/

namespace Text

/-- The piece starts with a tilde and holds no caret, so it belongs to no command. -/
structure IsAside (g : Text) : Prop where
  tilde : ∃ rest, g = '~' :: rest
  no_caret : '^' ∉ g

/-- A text with a piece put in at a place. -/
def insertAt (t g : Text) (place : Nat) : Text := t.take place ++ (g ++ t.drop place)

variable {g s t : Text}

theorem IsAside.isBreak_append (h : g.IsAside) (t : Text) : (g ++ t).IsBreak := by
  obtain ⟨rest, rfl⟩ := h.tilde
  intro c hc
  cases hc
  exact .inr rfl

/-- What stands before a mark in a text that is a break is a break. -/
theorem isBreak_of_cut? {mark before after : Text} (ht : t.IsBreak)
    (h : cut? mark t = some (before, after)) : before.IsBreak := by
  have hparts := eq_append_of_cut? h
  subst hparts
  cases before with
  | nil => exact fun c hc => by cases hc
  | cons x before => exact ht

/-- A mark is found before a piece of no command or behind it. -/
theorem cut?_insert {a b : Char} (ha : a ≠ '^' ∧ a ≠ '~') (hb : b ≠ '^' ∧ b ≠ '~')
    (hg : g.IsAside) (s : Text) (ht : t.IsBreak) :
    cut? ['^', a, b] (s ++ (g ++ t)) =
      match cut? ['^', a, b] s with
      | some parts => some (parts.1, parts.2 ++ (g ++ t))
      | none => (cut? ['^', a, b] t).map fun parts => (s ++ (g ++ parts.1), parts.2) := by
  rw [cut?_append ha hb s (hg.isBreak_append t), cut?_append ha hb g ht,
    cut?_of_no_caret hg.no_caret, Option.map_map]
  rfl

end Text

open Text (IsAside IsBreak insertAt)

/-! ## Commands -/

section Insert

variable {g s t : Text}

theorem Command.map_bare_parse_insert (hg : g.IsAside) (s : Text) (ht : t.IsBreak) :
    (parse (s ++ (g ++ t))).map bare = (parse (s ++ t)).map bare := by
  unfold parse
  rw [parseFrom_append (hg.isBreak_append t), parseFrom_append ht, parseFrom_append ht,
    parseFrom_of_no_caret hg.no_caret, List.nil_append, List.map_append, List.map_append,
    map_bare_parseFrom _ (0 + s.length) t]

/-- A piece of no command leaves the commands of the label block as they are but for their
    offsets, wherever it is put. -/
theorem labelBlock?_insert (hg : g.IsAside) (s : Text) (ht : t.IsBreak) :
    (labelBlock? (s ++ (g ++ t))).map (fun block => (Command.parse block).map Command.bare) =
      (labelBlock? (s ++ t)).map fun block => (Command.parse block).map Command.bare := by
  have hxa : 'X' ≠ '^' ∧ 'X' ≠ '~' := by decide
  have haa : 'A' ≠ '^' ∧ 'A' ≠ '~' := by decide
  have hzz : 'Z' ≠ '^' ∧ 'Z' ≠ '~' := by decide
  unfold labelBlock?
  rw [Text.cut?_insert hxa haa hg s ht, Text.cut?_append hxa haa s ht]
  cases hstart : Text.cut? ['^', 'X', 'A'] s with
  | none =>
    -- the block starts behind the piece
    cases Text.cut? ['^', 'X', 'A'] t <;> rfl
  | some start =>
    simp only [Option.bind_eq_bind, Option.bind_some]
    rw [Text.cut?_insert hxa hzz hg start.2 ht, Text.cut?_append hxa hzz start.2 ht]
    cases Text.cut? ['^', 'X', 'Z'] start.2 with
    | some parts => rfl
    | none =>
      cases hend : Text.cut? ['^', 'X', 'Z'] t with
      | none => rfl
      | some parts =>
        -- the piece stands in the block
        have hbreak := Text.isBreak_of_cut? ht hend
        exact congrArg some (Command.map_bare_parse_insert hg start.2 hbreak)

end Insert

/-! ## Graphics as they are written -/

namespace Download

/-- A graphic as it can be written in a label text. -/
structure Written where
  device : Option Char
  name : Text
  hasExtension : Bool
  totalBytes : Text
  bytesPerRow : Text
  payload : Text
  device_isUpper : ∀ c ∈ device, c.isUpper
  name_isWord : name ≠ [] ∧ ∀ c ∈ name, Text.isWord c
  totalBytes_isDigit : totalBytes ≠ [] ∧ ∀ c ∈ totalBytes, Text.isDecimalDigit c
  bytesPerRow_isDigit : bytesPerRow ≠ [] ∧ ∀ c ∈ bytesPerRow, Text.isDecimalDigit c
  payload_isPayload : payload ≠ [] ∧ ∀ c ∈ payload, isPayload c

namespace Written

def devicePart (g : Written) : Text := g.device.elim [] fun c => [c, ':']

def extensionPart (g : Written) : Text := if g.hasExtension then ['.', 'G', 'R', 'F'] else []

/-- What follows the tilde. -/
def body (g : Written) : Text :=
  'D' :: 'G' :: (g.devicePart ++ (g.name ++ (g.extensionPart ++ ',' :: (g.totalBytes ++
    ',' :: (g.bytesPerRow ++ ',' :: g.payload)))))

def text (g : Written) : Text := '~' :: g.body

/-- What is found of the graphic. -/
def source (g : Written) : Source :=
  ⟨g.name, g.totalBytes, g.bytesPerRow, g.payload.filter fun c => c != '\n' && c != '\r'⟩

/-- A character that no part of a graphic has is not in its body. -/
theorem not_mem_body (g : Written) {c : Char} (hupper : c.isUpper = false)
    (hword : Text.isWord c = false) (hdigit : Text.isDecimalDigit c = false)
    (hpayload : isPayload c = false) (hmarks : c ∉ ['D', 'G', ':', '.', 'R', 'F', ',']) :
    c ∉ g.body := by
  simp only [List.mem_cons, List.not_mem_nil, or_false, not_or] at hmarks
  have hdevice : c ∉ g.devicePart := by
    unfold devicePart
    cases h : g.device with
    | none => exact List.not_mem_nil
    | some d =>
      have hd : c ≠ d := by
        rintro rfl
        exact absurd (g.device_isUpper c h) (by rw [hupper]; exact Bool.false_ne_true)
      simp [hd, hmarks]
  have hextension : c ∉ g.extensionPart := by
    unfold extensionPart
    split <;> simp [hmarks]
  have hout : ∀ {p : Char → Bool} {s : Text}, p c = false → (∀ d ∈ s, p d) → c ∉ s := by
    intro p s hp hs hc
    exact absurd (hs c hc) (by rw [hp]; exact Bool.false_ne_true)
  simp only [body, List.mem_cons, List.mem_append, not_or]
  exact ⟨hmarks.1, hmarks.2.1, hdevice, hout hword g.name_isWord.2, hextension, hmarks.2.2.2.2.2.2,
    hout hdigit g.totalBytes_isDigit.2, hmarks.2.2.2.2.2.2, hout hdigit g.bytesPerRow_isDigit.2,
    hmarks.2.2.2.2.2.2, hout hpayload g.payload_isPayload.2⟩

theorem isAside (g : Written) : g.text.IsAside := by
  refine ⟨⟨g.body, rfl⟩, ?_⟩
  rw [text, List.mem_cons, not_or]
  exact ⟨by decide, g.not_mem_body rfl isWord_caret isDecimalDigit_caret isPayload_caret
    (by decide)⟩

end Written

/-- A piece of a class is read up to the first character out of it. -/
theorem piece?_append_of_not {p : Char → Bool} {s t : Text} (hs : s ≠ [] ∧ ∀ c ∈ s, p c)
    (ht : ∀ c ∈ t.head?, p c = false) : piece? p (s ++ t) = some (s, t) := by
  have htake : t.takeWhile p = [] := by
    cases t with
    | nil => rfl
    | cons c t => rw [List.takeWhile_cons_of_neg (by rw [ht c rfl]; exact Bool.false_ne_true)]
  have hdrop : t.dropWhile p = t := by
    cases t with
    | nil => rfl
    | cons c t => rw [List.dropWhile_cons_of_neg (by rw [ht c rfl]; exact Bool.false_ne_true)]
  rw [piece?, List.takeWhile_append_of_pos hs.2, List.dropWhile_append_of_pos hs.2, htake, hdrop,
    List.append_nil, if_neg hs.1]

namespace Written

theorem afterDevice_body (g : Written) {rest : Text}
    (hrest : ∀ c ∈ rest.head?, c ≠ ':') :
    afterDevice (g.devicePart ++ (g.name ++ rest)) = g.name ++ rest := by
  unfold devicePart
  cases h : g.device with
  | some d =>
    have hd := g.device_isUpper d h
    simp [afterDevice, hd]
  | none =>
    obtain ⟨hname, hword⟩ := g.name_isWord
    have hcolon : Text.isWord ':' = false := by decide
    rw [Option.elim_none, List.nil_append]
    -- the character behind the first of the name is no colon
    rcases hparts : g.name with _ | ⟨a, _ | ⟨b, name⟩⟩
    · exact absurd hparts hname
    · rcases rest with _ | ⟨c, rest⟩
      · rfl
      · have hc := hrest c rfl
        simp [afterDevice, hc]
    · have hb : b ≠ ':' := by
        rintro rfl
        have := hword ':' (by rw [hparts]; simp)
        rw [hcolon] at this
        cases this
      simp [afterDevice, hb]

/-- A graphic is read up to the first character that cannot go on its payload. -/
theorem source?_text_append (g : Written) {rest : Text}
    (hrest : ∀ c ∈ rest.head?, isPayload c = false) :
    source? (g.text ++ rest) = some g.source := by
  have hcomma : ∀ {p : Char → Bool} {t : Text}, p ',' = false →
      ∀ c ∈ (',' :: t).head?, p c = false := by
    intro p t hp c hc
    cases hc
    exact hp
  have hextension : ∀ t, ∀ c ∈ (g.extensionPart ++ ',' :: t).head?,
      c ≠ ':' ∧ Text.isWord c = false := by
    intro t c hc
    unfold extensionPart at hc
    split at hc <;> cases hc <;> decide
  have hafter : ∀ t, afterExtension (g.extensionPart ++ ',' :: t) = ',' :: t := by
    intro t
    unfold extensionPart
    split <;> rfl
  simp only [text, body, List.cons_append, List.append_assoc, source?]
  rw [g.afterDevice_body fun c hc => (hextension _ c hc).1,
    piece?_append_of_not g.name_isWord fun c hc => (hextension _ c hc).2]
  simp only [Option.bind_eq_bind, Option.bind_some, hafter, afterComma?]
  rw [piece?_append_of_not g.totalBytes_isDigit (hcomma (by decide))]
  simp only [Option.bind_some]
  rw [piece?_append_of_not g.bytesPerRow_isDigit (hcomma (by decide))]
  simp only [Option.bind_some]
  rw [piece?_append_of_not g.payload_isPayload hrest]
  rfl

theorem tilde_not_mem_body (g : Written) : '~' ∉ g.body :=
  g.not_mem_body rfl isWord_tilde isDecimalDigit_tilde isPayload_tilde (by decide)

/-- A graphic is the one download of its text, also with text behind it that cannot go on its
    payload and holds no tilde. -/
theorem sources_text_append (g : Written) {rest : Text}
    (hrest : ∀ c ∈ rest.head?, isPayload c = false) (hno : '~' ∉ rest) :
    sources (g.text ++ rest) = [g.source] := by
  have htail : '~' ∉ g.body ++ rest := by
    rw [List.mem_append, not_or]
    exact ⟨g.tilde_not_mem_body, hno⟩
  have hfirst := g.source?_text_append hrest
  rw [text, List.cons_append] at hfirst ⊢
  rw [sources, hfirst]
  dsimp only
  rw [sources_of_no_tilde htail]

theorem sources_text (g : Written) : sources g.text = [g.source] := by
  have hnil : sources (g.text ++ []) = [g.source] :=
    g.sources_text_append (fun c hc => by cases hc) List.not_mem_nil
  rwa [List.append_nil] at hnil

end Written

/-- The downloads of a text with a graphic put in at a break. -/
theorem sources_insert (g : Written) (s : Text) {t : Text} (ht : t.IsBreak) :
    sources (s ++ (g.text ++ t)) = sources s ++ g.source :: sources t := by
  rw [sources_append s (g.isAside.isBreak_append t), sources_append _ ht, g.sources_text]
  rfl

theorem sources_eq_nil {s : Text} (h : ∀ i < s.length, source? (s.drop i) = none) :
    sources s = [] := by
  induction s with
  | nil => rfl
  | cons c s ih =>
    have hfirst : source? (c :: s) = none := h 0 (Nat.succ_pos _)
    rw [sources, hfirst]
    exact ih fun i hi => h (i + 1) (Nat.succ_lt_succ hi)

/-- No download is found in the piece of a text up to a break, if none starts there. -/
theorem sources_take_eq_nil {t : Text} {n : Nat} (hbreak : IsBreak (t.drop n))
    (hno : ∀ i < n, source? (t.drop i) = none) : sources (t.take n) = [] := by
  apply sources_eq_nil
  intro i hi
  have hin : i < n := Nat.lt_of_lt_of_le hi (List.length_take_le n t)
  have hparts : t.drop i = (t.take n).drop i ++ t.drop n := by
    rw [← List.drop_append_of_le_length hi.le, List.take_append_drop]
  have hnone := hno i hin
  rw [hparts, List.drop_eq_getElem_cons hi, source?_append _ _ hbreak,
    ← List.drop_eq_getElem_cons hi] at hnone
  exact hnone

end Download

/-! ## Another place for a graphic -/

namespace Conversion

/-- A graphic can stand at any break of a label text, as long as no other graphic starts between
    the places: the result is the same, with its script and its diagnostics, or its failure. -/
theorem ofText_insertAt (strictness : Strictness) (config zpl : Text) (g : Download.Written)
    {p q : Nat} (hpq : p ≤ q) (hp : IsBreak (zpl.drop p)) (hq : IsBreak (zpl.drop q))
    (hno : ∀ i, p ≤ i → i < q → Download.source? (zpl.drop i) = none) :
    (ofText strictness config (insertAt zpl g.text p)).map (fun c => (c.script, c.diagnostics)) =
      (ofText strictness config (insertAt zpl g.text q)).map
        fun c => (c.script, c.diagnostics) := by
  have hsources : Download.sources (insertAt zpl g.text p) =
      Download.sources (insertAt zpl g.text q) := by
    have hdrop : (zpl.drop p).drop (q - p) = zpl.drop q := by
      rw [List.drop_drop, Nat.add_sub_cancel' hpq]
    have htake : zpl.take q = zpl.take p ++ (zpl.drop p).take (q - p) := by
      rw [← List.take_add, Nat.add_sub_cancel' hpq]
    have hbetween : Download.sources ((zpl.drop p).take (q - p)) = [] := by
      apply Download.sources_take_eq_nil
      · rwa [hdrop]
      · intro i hi
        rw [List.drop_drop]
        exact hno _ (Nat.le_add_right p i) (by omega)
    have hbreak : IsBreak ((zpl.drop p).take (q - p)) := by
      intro c hc
      rw [List.head?_take] at hc
      split at hc
      · cases hc
      · exact hp c hc
    have hrest : Download.sources (zpl.drop p) = Download.sources (zpl.drop q) := by
      rw [← List.take_append_drop (q - p) (zpl.drop p), hdrop, Download.sources_append _ hq,
        hbetween, List.nil_append]
    rw [insertAt, insertAt, Download.sources_insert g _ hp, Download.sources_insert g _ hq, hrest,
      htake, Download.sources_append _ hbreak, hbetween, List.append_nil]
  have hblock : ∀ place, IsBreak (zpl.drop place) →
      (labelBlock? (insertAt zpl g.text place)).map
          (fun block => (Command.parse block).map Command.bare) =
        (labelBlock? zpl).map fun block => (Command.parse block).map Command.bare := by
    intro place hplace
    rw [insertAt, labelBlock?_insert g.isAside _ hplace, List.take_append_drop]
  have hview : ∀ result : Except Fault Conversion,
      result.map (fun c => (c.script, c.diagnostics)) =
        (result.map bare).map fun c => (c.script, c.diagnostics) := by
    intro result
    cases result with
    | error reason => rfl
    | ok c => simp [Except.map, script_bare, diagnostics_bare]
  rw [hview, map_bare_ofText hsources ((hblock p hp).trans (hblock q hq).symm), ← hview]

/-- A label with a recall, and a graphic for it. -/
def recallLabel : Text := "^XA^FO1,2^XGR:LOGO.GRF^XZ".toList

def logo : Download.Written where
  device := some 'R'
  name := ['L', 'O', 'G', 'O']
  hasExtension := true
  totalBytes := ['2']
  bytesPerRow := ['1']
  payload := ['F', 'F', '\n', '0', '0']
  device_isUpper c hc := by
    cases hc
    rfl
  name_isWord := ⟨by simp, List.all_eq_true.mp (by decide +kernel)⟩
  totalBytes_isDigit := ⟨by simp, List.all_eq_true.mp (by decide +kernel)⟩
  bytesPerRow_isDigit := ⟨by simp, List.all_eq_true.mp (by decide +kernel)⟩
  payload_isPayload := ⟨by simp, List.all_eq_true.mp (by decide +kernel)⟩

/-- Behind the block the graphic is stored for the recall in it as before the block. -/
theorem ofText_insertAt_of_recallLabel :
    ∃ c c', ofText .strict Label.defaultConfig (insertAt recallLabel logo.text 0) = .ok c ∧
      ofText .strict Label.defaultConfig (insertAt recallLabel logo.text 25) = .ok c' ∧
      c.recordOf? 1 = some (.recallImage 2 1 logo.name) ∧
      c.script = c'.script ∧ c.diagnostics = c'.diagnostics := by
  have hno : ∀ i < 25, Download.source? (recallLabel.drop i) = none := by decide +kernel
  have hplaces := ofText_insertAt .strict Label.defaultConfig recallLabel logo (p := 0) (q := 25)
    (by decide) (fun c hc => .inl (by cases hc; rfl)) (fun c hc => by cases hc)
    fun i _ hi => hno i hi
  obtain ⟨c, h⟩ := exists_of_isOk
    (x := ofText .strict Label.defaultConfig (insertAt recallLabel logo.text 0))
    (by decide +kernel)
  have hrecord : (ofText .strict Label.defaultConfig (insertAt recallLabel logo.text 0)).map
      (fun c => c.recordOf? 1) = .ok (some (.recallImage 2 1 logo.name)) := by decide +kernel
  rw [h] at hplaces hrecord
  obtain ⟨c', h', hsame⟩ := map_eq_ok_iff.mp hplaces.symm
  obtain ⟨hscript, hdiagnostics⟩ := Prod.mk.inj hsame
  exact ⟨c, c', h, h', Except.ok.inj hrecord, hscript.symm, hdiagnostics.symm⟩

end Conversion

end ThermalLabel
