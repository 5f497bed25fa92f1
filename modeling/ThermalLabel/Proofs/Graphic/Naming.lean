/-
  A graphic is recalled by the name that it was stored under.

  A download and a recall reduce a reference to a name in two ways: the one reads a device, word
  characters and an extension from the front, the other cuts at a comma and at a colon and drops an
  extension from the end. However the reference of a recall is written, with blanks around it, with
  any device, with the extension in letters of either case and with parameters behind it, what
  remains is the name (`Reference.graphicName_text`), and that is what the download with this name
  is found under (`Download.recalled_as_named`).
-/
import ThermalLabel.Proofs.Graphic.Placement
import ThermalLabel.Proofs.Text.Capitals

namespace ThermalLabel

namespace Text

/-! ## Blanks -/

theorem not_inRanges_of_apart {first second : List (Nat × Nat)}
    (h : ∀ r ∈ first, ∀ s ∈ second, r.2 < s.1 ∨ s.2 < r.1) {c : Char} (hc : inRanges first c) :
    inRanges second c = false := by
  obtain ⟨r, hr, hin⟩ := List.any_eq_true.mp hc
  simp only [Bool.and_eq_true, decide_eq_true_eq] at hin
  refine Bool.eq_false_iff.mpr fun hsecond => ?_
  obtain ⟨s, hs, hin'⟩ := List.any_eq_true.mp hsecond
  simp only [Bool.and_eq_true, decide_eq_true_eq] at hin'
  have hapart := h r hr s hs
  omega

/-- A word character is no blank. -/
theorem not_isBlank_of_isWord {c : Char} (h : isWord c) : isBlank c = false := by
  rcases Nat.lt_or_ge c.toNat 128 with hc | hc
  · exact forall_ascii (P := fun c => isWord c → isBlank c = false) (by decide +kernel) hc h
  · rw [isWord, if_neg (by omega)] at h
    have hspace : isSpace c = false := not_inRanges_of_apart (by decide +kernel) h
    have hseparator : inRanges [(0x1C, 0x1F)] c = false :=
      not_inRanges_of_apart (by decide +kernel) h
    rw [isBlank, hspace, hseparator]
    rfl

theorem dropWhile_append_of_head {p : Char → Bool} (front : Text) {rest : Text}
    (hrest : rest.dropWhile p = rest) :
    (front ++ rest).dropWhile p = front.dropWhile p ++ rest := by
  rw [List.dropWhile_append, hrest]
  split
  · next h => rw [List.isEmpty_iff.mp h, List.nil_append]
  · rfl

theorem dropWhile_eq_self {p : Char → Bool} {t : Text} (h : ∀ c ∈ t.head?, p c = false) :
    t.dropWhile p = t := by
  cases t with
  | nil => rfl
  | cons c t => rw [List.dropWhile_cons_of_neg (by rw [h c rfl]; exact Bool.false_ne_true)]

/-- Of a piece without characters of the class, trimming leaves all, and in front of it what it does
    not reach. -/
theorem trimBy_around {p : Char → Bool} (front : Text) {middle back : Text} (hne : middle ≠ [])
    (hmiddle : ∀ c ∈ middle, p c = false) (hback : ∀ c ∈ back, p c) :
    trimBy p (front ++ (middle ++ back)) = front.dropWhile p ++ middle := by
  have hhead : (middle ++ back).dropWhile p = middle ++ back := by
    refine dropWhile_eq_self fun c hc => hmiddle c ?_
    rw [List.head?_append_of_ne_nil middle hne] at hc
    exact List.mem_of_mem_head? hc
  have htail : (middle.reverse ++ (front.dropWhile p).reverse).dropWhile p =
      middle.reverse ++ (front.dropWhile p).reverse := by
    refine dropWhile_eq_self fun c hc => hmiddle c ?_
    rw [List.head?_append_of_ne_nil _ (by simpa using hne)] at hc
    exact List.mem_reverse.mp (List.mem_of_mem_head? hc)
  rw [trimBy, dropWhile_append_of_head front hhead, List.reverse_append, List.reverse_append,
    List.append_assoc, List.dropWhile_append_of_pos fun c hc => hback c (List.mem_reverse.mp hc),
    htail, List.reverse_append, List.reverse_reverse, List.reverse_reverse]

end Text

/-! ## References as they are written -/

namespace Reference

/-- A reference as it can be written: a name with an optional device before a colon and an optional
    extension in letters of either case, with blanks around all this and with parameters behind a
    comma. -/
structure Written where
  before : Text
  device : Option Text
  name : Text
  extension : Text
  behind : Text
  tail : Text
  before_isBlank : ∀ c ∈ before, Text.isBlank c
  device_plain : ∀ d ∈ device, ':' ∉ d ∧ ',' ∉ d
  name_isWord : name ≠ [] ∧ ∀ c ∈ name, Text.isWord c
  extension_any : extension = [] ∨ Text.lowercase extension = ['.', 'g', 'r', 'f']
  behind_isBlank : ∀ c ∈ behind, Text.isBlank c
  tail_comma : tail = [] ∨ ∃ parameters, tail = ',' :: parameters

namespace Written

def devicePart (r : Written) : Text := r.device.elim [] fun d => d ++ [':']

def text (r : Written) : Text :=
  r.before ++ (r.devicePart ++ (r.name ++ (r.extension ++ (r.behind ++ r.tail))))

end Written

theorem dropWhile_of_no_colon {d : Text} (h : ':' ∉ d) (t : Text) :
    (d ++ t).dropWhile (· ≠ ':') = t.dropWhile (· ≠ ':') := by
  refine List.dropWhile_append_of_pos fun c hc => decide_eq_true ?_
  rintro rfl
  exact h hc

theorem afterColon_of_no_colon {t : Text} (h : ':' ∉ t) : afterColon t = t := by
  have hnone := dropWhile_of_no_colon h []
  rw [List.append_nil] at hnone
  rw [afterColon, hnone]
  rfl

theorem afterColon_append {d : Text} (h : ':' ∉ d) (t : Text) : afterColon (d ++ ':' :: t) = t := by
  rw [afterColon, dropWhile_of_no_colon h]
  rfl

theorem withoutExtension_append {e : Text} (h : Text.lowercase e = ['.', 'g', 'r', 'f'])
    (s : Text) : withoutExtension (s ++ e) = s := by
  have hlength : e.length = 4 := by
    have := congrArg List.length h
    rwa [Text.lowercase, List.length_map] at this
  rw [withoutExtension, if_pos (Text.isSuffixOf_uppercase_iff.mpr ⟨s, e, rfl, h⟩),
    List.length_append, hlength, Nat.add_sub_cancel, List.take_left]

theorem withoutExtension_of_no_point {t : Text} (h : '.' ∉ t) : withoutExtension t = t := by
  rw [withoutExtension, if_neg]
  intro hends
  obtain ⟨s, e, rfl, he⟩ := Text.isSuffixOf_uppercase_iff.mp hends
  obtain ⟨c, e, rfl, hc, -⟩ := List.map_eq_cons_iff.mp he
  have hsmall : c.toNat < 128 := Text.toNat_lt_of_toLower (by rw [hc]; decide)
  have hpoint : c = '.' :=
    Text.forall_ascii (P := fun c => c.toLower = '.' → c = '.') (by decide) hsmall hc
  exact h (by simp [hpoint])

namespace Written

/-- The characters of the name and the extension are neither blanks nor commas nor colons. -/
theorem plain_of_mem (r : Written) {c : Char} (hc : c ∈ r.name ++ r.extension) :
    Text.isBlank c = false ∧ c ≠ ',' ∧ c ≠ ':' := by
  rcases List.mem_append.mp hc with hc | hc
  · have hword := r.name_isWord.2 c hc
    refine ⟨Text.not_isBlank_of_isWord hword, ?_, ?_⟩
    · rintro rfl
      exact absurd hword (by decide)
    · rintro rfl
      exact absurd hword (by decide)
  · have hlower : c.toLower ∈ ['.', 'g', 'r', 'f'] := by
      rcases r.extension_any with hnone | hany
      · rw [hnone] at hc
        cases hc
      · rw [← hany]
        exact List.mem_map_of_mem hc
    have hsmall : ∀ x ∈ ['.', 'g', 'r', 'f'], x.toNat < 128 :=
      List.all_iff_forall_prop.mp (by decide)
    exact Text.forall_ascii
      (P := fun c => c.toLower ∈ ['.', 'g', 'r', 'f'] → Text.isBlank c = false ∧ c ≠ ',' ∧ c ≠ ':')
      (by decide +kernel) (Text.toNat_lt_of_toLower (hsmall _ hlower)) hlower

theorem withoutExtension_name (r : Written) :
    withoutExtension (r.name ++ r.extension) = r.name := by
  rcases r.extension_any with hnone | hany
  · rw [hnone, List.append_nil]
    refine withoutExtension_of_no_point fun hpoint => ?_
    exact absurd (r.name_isWord.2 '.' hpoint) (by decide)
  · exact withoutExtension_append hany r.name

/-- What stands before the comma has no comma. -/
theorem takeWhile_text (r : Written) :
    r.text.takeWhile (· ≠ ',') =
      r.before ++ (r.devicePart ++ (r.name ++ r.extension ++ r.behind)) := by
  have hblank : ∀ c, Text.isBlank c → c ≠ ',' := by
    rintro _ hc rfl
    exact absurd hc (by decide)
  have hdevice : ∀ c ∈ r.devicePart, c ≠ ',' := by
    intro c hc
    unfold devicePart at hc
    cases hd : r.device with
    | none =>
      rw [hd] at hc
      cases hc
    | some d =>
      rw [hd] at hc
      rcases List.mem_append.mp hc with hc | hc
      · rintro rfl
        exact (r.device_plain d hd).2 hc
      · rw [List.mem_singleton.mp hc]
        decide
  have hplain : ∀ c ∈ r.before ++ (r.devicePart ++ (r.name ++ r.extension ++ r.behind)),
      c ≠ ',' := by
    intro c hc
    rcases List.mem_append.mp hc with hc | hc
    · exact hblank c (r.before_isBlank c hc)
    rcases List.mem_append.mp hc with hc | hc
    · exact hdevice c hc
    rcases List.mem_append.mp hc with hc | hc
    · exact (r.plain_of_mem hc).2.1
    · exact hblank c (r.behind_isBlank c hc)
  have htail : r.tail.takeWhile (· ≠ ',') = [] := by
    rcases r.tail_comma with hnone | ⟨parameters, htail⟩
    · rw [hnone]
      rfl
    · rw [htail]
      rfl
  have htext : r.text =
      r.before ++ (r.devicePart ++ (r.name ++ r.extension ++ r.behind)) ++ r.tail := by
    simp only [text, List.append_assoc]
  rw [htext, List.takeWhile_append_of_pos fun c hc => decide_eq_true (hplain c hc), htail,
    List.append_nil]

/-- What remains between the blanks, behind the device. -/
theorem afterColon_trim (r : Written) :
    afterColon (Text.trim (r.before ++ (r.devicePart ++ (r.name ++ r.extension ++ r.behind)))) =
      r.name ++ r.extension := by
  have hname : r.name ++ r.extension ≠ [] := by simp [r.name_isWord.1]
  have hbefore : ':' ∉ r.before := fun h => absurd (r.before_isBlank ':' h) (by decide)
  unfold devicePart
  cases hd : r.device with
  | none =>
    have hdrop : r.before.dropWhile Text.isBlank = [] :=
      List.dropWhile_eq_nil_iff.mpr r.before_isBlank
    rw [Option.elim_none, List.nil_append, Text.trim, Text.trimBy_around r.before hname
      (fun c hc => (r.plain_of_mem hc).1) r.behind_isBlank, hdrop, List.nil_append]
    exact afterColon_of_no_colon fun h => (r.plain_of_mem h).2.2 rfl
  | some d =>
    have hfront : ':' ∉ (r.before ++ d).dropWhile Text.isBlank := by
      intro h
      rcases List.mem_append.mp ((List.dropWhile_sublist _).subset h) with h | h
      · exact hbefore h
      · exact (r.device_plain d hd).1 h
    have hmiddle : ∀ c ∈ ':' :: (r.name ++ r.extension), Text.isBlank c = false := by
      intro c hc
      rcases List.mem_cons.mp hc with rfl | hc
      · decide
      · exact (r.plain_of_mem hc).1
    -- blanks at the front of the device are trimmed with those before it
    have hparts : r.before ++ (d ++ [':'] ++ (r.name ++ r.extension ++ r.behind)) =
        r.before ++ d ++ (':' :: (r.name ++ r.extension) ++ r.behind) := by simp
    rw [Option.elim_some, hparts, Text.trim,
      Text.trimBy_around _ (List.cons_ne_nil _ _) hmiddle r.behind_isBlank]
    exact afterColon_append hfront _

end Written

/-- Whatever a reference is written with, it is to the graphic with its name. -/
theorem graphicName_text (r : Written) : graphicName r.text = r.name := by
  rw [graphicName, r.takeWhile_text, r.afterColon_trim, r.withoutExtension_name]

end Reference

/-! ## Downloads and recalls -/

namespace Download

/-- The reference of a download, as a recall can take it over. -/
def Written.reference (g : Written) : Reference.Written where
  before := []
  device := g.device.map fun c => [c]
  name := g.name
  extension := g.extensionPart
  behind := []
  tail := []
  before_isBlank := by simp
  device_plain d hd := by
    obtain ⟨c, hc, rfl⟩ := Option.map_eq_some_iff.mp hd
    have hupper := g.device_isUpper c hc
    constructor
    · intro h
      rw [← List.mem_singleton.mp h] at hupper
      exact absurd hupper (by decide)
    · intro h
      rw [← List.mem_singleton.mp h] at hupper
      exact absurd hupper (by decide)
  name_isWord := g.name_isWord
  extension_any := by
    unfold Written.extensionPart
    split
    · exact .inr rfl
    · exact .inl rfl
  behind_isBlank := by simp
  tail_comma := .inl rfl

theorem Written.text_reference (g : Written) :
    g.reference.text = g.devicePart ++ (g.name ++ g.extensionPart) := by
  have hdevice : g.reference.devicePart = g.devicePart := by
    show (g.device.map fun c => [c]).elim [] (fun d => d ++ [':']) =
      g.device.elim [] fun c => [c, ':']
    cases g.device <;> rfl
  show g.reference.devicePart ++ (g.name ++ (g.extensionPart ++ [])) = _
  rw [hdevice, List.append_nil]

/-- A download that is read alone is read under the name that its own reference is to, and so is
    every reference with this name: with blanks around it, with the extension in letters of either
    case or without it, with another device or none, and with parameters behind a comma. -/
theorem recalled_as_named (g : Written) {downloads : List Download}
    (h : all g.text = .ok downloads) :
    ∃ d, downloads = [d] ∧
      Reference.graphicName (g.devicePart ++ (g.name ++ g.extensionPart)) = d.name ∧
      ∀ r : Reference.Written, r.name = g.name → Reference.graphicName r.text = d.name := by
  rw [all, g.sources_text] at h
  obtain ⟨d, hread, rest, hrest, rfl⟩ := mapM_cons_eq_ok_iff.mp h
  cases hrest
  have hname : d.name = g.name := Source.read_name hread
  refine ⟨d, rfl, ?_, fun r hr => ?_⟩
  · rw [hname, ← g.text_reference]
    exact Reference.graphicName_text g.reference
  · rw [hname, ← hr]
    exact Reference.graphicName_text r

/-- A graphic with a name of characters whose capital forms are longer. -/
def ligature : Written where
  device := some 'E'
  name := ['ß', 'ﬀ', '٣']
  hasExtension := true
  totalBytes := ['6']
  bytesPerRow := ['3']
  payload := ['J', 'F']
  device_isUpper c hc := by
    cases hc
    rfl
  name_isWord := ⟨by simp, List.all_eq_true.mp (by decide +kernel)⟩
  totalBytes_isDigit := ⟨by simp, List.all_eq_true.mp (by decide +kernel)⟩
  bytesPerRow_isDigit := ⟨by simp, List.all_eq_true.mp (by decide +kernel)⟩
  payload_isPayload := ⟨by simp, List.all_eq_true.mp (by decide +kernel)⟩

/-- A reference to it with blanks, another device, letters of both cases and parameters. -/
def spacedLigature : Reference.Written where
  before := [' ']
  device := some ['e', '1', '.', ' ']
  name := ligature.name
  extension := ['.', 'g', 'R', 'f']
  behind := ['\t']
  tail := [',', '1', ',', '1']
  before_isBlank := List.all_eq_true.mp (by decide)
  device_plain d hd := by
    cases hd
    decide
  name_isWord := ligature.name_isWord
  extension_any := .inr rfl
  behind_isBlank := List.all_eq_true.mp (by decide)
  tail_comma := .inr ⟨_, rfl⟩

theorem recalled_as_named_of_ligature :
    all "~DGE:ßﬀ٣.GRF,6,3,JF".toList = .ok [⟨ligature.name, 6, 3, ['J', 'F']⟩] ∧
      Reference.graphicName "E:ßﬀ٣.GRF".toList = ligature.name ∧
      Reference.graphicName " e1. :ßﬀ٣.gRf\t,1,1".toList = ligature.name := by
  have hall : all ligature.text = .ok [⟨ligature.name, 6, 3, ['J', 'F']⟩] := by decide +kernel
  obtain ⟨d, hd, hown, hother⟩ := recalled_as_named ligature hall
  cases hd
  exact ⟨hall, hown, hother spacedLigature rfl⟩

end Download

end ThermalLabel
