/-
  Which graphics of a label text are kept, and how much of each.

  A graphic stands where `~DG` is followed by the whole of a header and at least one character of a
  payload; its payload goes on up to the first character that no payload has. What the scan finds
  are the graphics at these places (`Download.exists_sites`), so a lenient conversion stores or
  reports as many as there are, each from its own place (`Conversion.graphics_kept`). A `~DG` with
  anything else behind it is no graphic, and a payload that is cut short by another character is
  kept as far as it goes (`Conversion.not_all_marks_kept`).
-/
import ThermalLabel.Proofs.Command.Grammar
import ThermalLabel.Proofs.Graphic.Placement
import ThermalLabel.Proofs.Strictness

namespace ThermalLabel

namespace Download

/-! ## Headers -/

theorem not_of_mem_head?_dropWhile {p : Char → Bool} (t : Text) :
    ∀ c ∈ (t.dropWhile p).head?, p c = false := by
  intro c hc
  have hnot := List.head?_dropWhile_not p t
  rw [Option.mem_def] at hc
  rw [hc] at hnot
  simpa using hnot

theorem eq_append_of_piece? {p : Char → Bool} {t : Text} {parts : Text × Text}
    (h : piece? p t = some parts) :
    t = parts.1 ++ parts.2 ∧ ∀ c ∈ parts.2.head?, p c = false := by
  rw [piece?] at h
  split at h
  · cases h
  · cases h
    exact ⟨List.takeWhile_append_dropWhile.symm, not_of_mem_head?_dropWhile t⟩

theorem eq_cons_of_afterComma? {t rest : Text} (h : afterComma? t = some rest) :
    t = ',' :: rest := by
  rw [afterComma?.eq_def] at h
  split at h
  · cases h
    rfl
  · cases h

theorem exists_device (t : Text) :
    ∃ device : Option Char, (∀ c ∈ device, c.isUpper) ∧
      t = device.elim [] (fun c => [c, ':']) ++ afterDevice t := by
  rw [afterDevice.eq_def]
  split
  · next c rest =>
    by_cases hc : c.isUpper
    · exact ⟨some c, by simp [hc], by simp [hc]⟩
    · exact ⟨none, by simp, by simp [hc]⟩
  · exact ⟨none, by simp, rfl⟩

theorem exists_extension (t : Text) :
    ∃ hasExtension : Bool,
      t = (if hasExtension then ['.', 'G', 'R', 'F'] else []) ++ afterExtension t := by
  rw [afterExtension.eq_def]
  split
  · exact ⟨true, rfl⟩
  · exact ⟨false, rfl⟩

/-- What is read at the front of a text is a graphic that stands there, with a payload that goes on
    as far as it can. -/
theorem exists_written_of_source? {t : Text} {found : Source} (h : source? t = some found) :
    ∃ (g : Written) (rest : Text), t = g.text ++ rest ∧
      (∀ c ∈ rest.head?, isPayload c = false) ∧ g.source = found := by
  rw [source?.eq_def] at h
  split at h
  · next body =>
    simp only [Option.bind_eq_bind, Option.bind_eq_some_iff] at h
    obtain ⟨⟨name, t₁⟩, hname, t₂, hcomma, ⟨total, t₃⟩, htotal, t₄, hcomma', ⟨row, t₅⟩, hrow, t₆,
      hcomma'', ⟨payload, rest⟩, hpayload, h⟩ := h
    cases h
    obtain ⟨device, hdevice, hbody⟩ := exists_device body
    obtain ⟨hasExtension, hextension⟩ := exists_extension t₁
    obtain ⟨hpart, hends⟩ := eq_append_of_piece? hpayload
    -- the pieces are what was cut off one after the other
    have hparts : body = device.elim [] (fun c => [c, ':']) ++ (name ++
        ((if hasExtension then ['.', 'G', 'R', 'F'] else []) ++ ',' :: (total ++ ',' :: (row ++
          ',' :: (payload ++ rest))))) := by
      rw [← hpart, ← eq_cons_of_afterComma? hcomma'', ← (eq_append_of_piece? hrow).1,
        ← eq_cons_of_afterComma? hcomma', ← (eq_append_of_piece? htotal).1,
        ← eq_cons_of_afterComma? hcomma, ← hextension, ← (eq_append_of_piece? hname).1]
      exact hbody
    refine ⟨⟨device, name, hasExtension, total, row, payload, hdevice, piece?_eq_some hname,
      piece?_eq_some htotal, piece?_eq_some hrow, piece?_eq_some hpayload⟩, rest, ?_, hends, rfl⟩
    simp only [Written.text, Written.body, Written.devicePart, Written.extensionPart,
      List.cons_append, List.append_assoc]
    exact congrArg (fun t => '~' :: 'D' :: 'G' :: t) hparts
  · cases h

/-! ## Places -/

/-- The places of a text where `~DG` stands. -/
def marks (zpl : Text) : List Nat :=
  (List.range zpl.length).filter fun p => ['~', 'D', 'G'].isPrefixOf (zpl.drop p)

/-- A text starts with a graphic: `~DG` with a whole header and some payload. -/
def StartsGraphic (t : Text) : Prop := ∃ g : Written, g.text <+: t

/-- A place of a text where a graphic stands. Its payload goes on as far as it can. -/
structure Site (zpl : Text) where
  place : Nat
  graphic : Written
  rest : Text
  drop_eq : zpl.drop place = graphic.text ++ rest
  ends : ∀ c ∈ rest.head?, isPayload c = false

/-- A payload without its line breaks. -/
def unbroken (payload : Text) : Text := payload.filter fun c => c != '\n' && c != '\r'

namespace Site

variable {zpl : Text}

/-- All that stands behind the third comma of a header, up to the next caret, the next tilde or the
    end of the text. -/
def following (site : Site zpl) : Text :=
  (site.graphic.payload ++ site.rest).takeWhile Command.isParameter

/-- The payload is the longest piece of it that has the characters of payloads only. -/
theorem payload_eq (site : Site zpl) :
    site.graphic.payload = site.following.takeWhile isPayload := by
  have hplain : ∀ c, isPayload c → Command.isParameter c := by
    intro c hc
    rw [Command.isParameter_iff]
    constructor
    · rintro rfl
      exact absurd hc (by rw [isPayload_caret]; exact Bool.false_ne_true)
    · rintro rfl
      exact absurd hc (by rw [isPayload_tilde]; exact Bool.false_ne_true)
  have hpayload := site.graphic.payload_isPayload.2
  rw [following, List.takeWhile_append_of_pos fun c hc => hplain c (hpayload c hc),
    List.takeWhile_append_of_pos hpayload]
  have hrest : (site.rest.takeWhile Command.isParameter).takeWhile isPayload = [] := by
    cases hsplit : site.rest with
    | nil => rfl
    | cons c rest =>
      have hc : isPayload c = false := site.ends c (by rw [hsplit]; rfl)
      rw [List.takeWhile_cons]
      split
      · rw [List.takeWhile_cons_of_neg (by rw [hc]; exact Bool.false_ne_true)]
      · rfl
  rw [hrest, List.append_nil]

end Site

/-- A graphic starts a text exactly if one is read there. -/
theorem startsGraphic_iff {t : Text} : StartsGraphic t ↔ (source? t).isSome := by
  constructor
  · rintro ⟨g, rest, rfl⟩
    -- the payload of `g` may go on in what is behind it
    have hpayload : g.payload ++ rest.takeWhile isPayload ≠ [] ∧
        ∀ c ∈ g.payload ++ rest.takeWhile isPayload, isPayload c := by
      refine ⟨by simp [g.payload_isPayload.1], fun c hc => ?_⟩
      rcases List.mem_append.mp hc with hc | hc
      · exact g.payload_isPayload.2 c hc
      · exact List.mem_takeWhile_imp hc
    have htext : g.text ++ rest =
        Written.text { g with
          payload := g.payload ++ rest.takeWhile isPayload, payload_isPayload := hpayload } ++
          rest.dropWhile isPayload := by
      simp only [Written.text, Written.body, Written.devicePart, Written.extensionPart,
        List.cons_append, List.append_assoc, List.takeWhile_append_dropWhile]
    rw [htext, Written.source?_text_append _ (not_of_mem_head?_dropWhile rest)]
    rfl
  · intro h
    obtain ⟨found, hfound⟩ := Option.isSome_iff_exists.mp h
    obtain ⟨g, rest, rfl, -⟩ := exists_written_of_source? hfound
    exact ⟨g, List.prefix_append _ _⟩

instance : DecidablePred StartsGraphic := fun _ => decidable_of_iff _ startsGraphic_iff.symm

theorem isPrefixOf_of_source? {t : Text} (h : (source? t).isSome) :
    ['~', 'D', 'G'].isPrefixOf t := by
  by_contra hno
  rw [source?_eq_none hno] at h
  cases h

/-- The graphics of a text are those at its places, each read as if the text started there. -/
theorem sources_eq_filterMap (zpl : Text) :
    sources zpl = (List.range zpl.length).filterMap fun p => source? (zpl.drop p) := by
  induction zpl with
  | nil => rfl
  | cons c zpl ih =>
    rw [sources, ih, List.length_cons, List.range_succ_eq_map, List.filterMap_cons,
      List.filterMap_map, List.drop_zero]
    cases source? (c :: zpl) <;> rfl

/-- The graphics that are found are those at the marks where one stands, in the order of the
    places. -/
theorem exists_sites (zpl : Text) :
    ∃ sites : List (Site zpl),
      sites.map Site.place = (marks zpl).filter (fun p => StartsGraphic (zpl.drop p)) ∧
      sites.map (fun site => site.graphic.source) = sources zpl := by
  have hplaces : (marks zpl).filter (fun p => StartsGraphic (zpl.drop p)) =
      (List.range zpl.length).filter fun p => (source? (zpl.drop p)).isSome := by
    rw [marks, List.filter_filter]
    refine List.filter_congr fun p _ => ?_
    rw [Bool.eq_iff_iff, Bool.and_eq_true, decide_eq_true_eq, startsGraphic_iff]
    exact ⟨fun h => h.1, fun h => ⟨h, isPrefixOf_of_source? h⟩⟩
  have hlist : ∀ places : List Nat, ∃ sites : List (Site zpl),
      sites.map Site.place = places.filter (fun p => (source? (zpl.drop p)).isSome) ∧
      sites.map (fun site => site.graphic.source) =
        places.filterMap fun p => source? (zpl.drop p) := by
    intro places
    induction places with
    | nil => exact ⟨[], rfl, rfl⟩
    | cons p places ih =>
      obtain ⟨sites, hplace, hsource⟩ := ih
      cases hp : source? (zpl.drop p) with
      | none =>
        refine ⟨sites, ?_, ?_⟩
        · rw [List.filter_cons_of_neg (by rw [hp]; exact Bool.false_ne_true), hplace]
        · rw [List.filterMap_cons_none (f := fun p => source? (zpl.drop p)) hp, hsource]
      | some found =>
        obtain ⟨g, rest, hdrop, hends, hg⟩ := exists_written_of_source? hp
        refine ⟨⟨p, g, rest, hdrop, hends⟩ :: sites, ?_, ?_⟩
        · rw [List.filter_cons_of_pos (by rw [hp]; rfl), List.map_cons, hplace]
        · rw [List.filterMap_cons_some (f := fun p => source? (zpl.drop p)) hp, List.map_cons,
            hsource, hg]
  obtain ⟨sites, hplace, hsource⟩ := hlist (List.range zpl.length)
  exact ⟨sites, hplace.trans hplaces.symm, hsource.trans (sources_eq_filterMap zpl).symm⟩

/-! ## What is kept of a site -/

theorem decode_of_expansion {d : Download} {data : Text} (h : d.expansion = .ok data) :
    RunLength.decode d.payload = .ok data := by
  obtain ⟨expanded, hdecode, h⟩ := bind_eq_ok_iff.mp h
  split at h
  · cases h
    exact hdecode
  · cases h

/-- The downloads of a text are those of the sites, one for each. -/
theorem all_getElem? {zpl : Text} {downloads : List Download} (hall : all zpl = .ok downloads)
    {sites : List (Site zpl)}
    (hsites : sites.map (fun site => site.graphic.source) = sources zpl) :
    downloads.length = sites.length ∧
      ∀ (k : Nat) site, sites[k]? = some site → ∃ d, downloads[k]? = some d ∧
        d.name = site.graphic.name ∧ d.payload = unbroken site.graphic.payload := by
  rw [all, ← hsites] at hall
  obtain ⟨hlength, hitems⟩ := mapM_getElem? hall
  rw [List.length_map] at hlength
  refine ⟨hlength, fun k site hsite => ?_⟩
  obtain ⟨d, hread, hd⟩ := hitems k site.graphic.source (by rw [List.getElem?_map, hsite]; rfl)
  exact ⟨d, hd, Source.read_name hread, Source.read_payload hread⟩

end Download

namespace Conversion

open Download (Site StartsGraphic marks isPayload unbroken)

/-- The graphic at a site, the sites being counted from 0, is either stored with the expansion of
    its payload or reported as not decoded, and not both. -/
def SiteKept {zpl : Text} (c : Conversion) (k : Nat) (site : Site zpl) : Prop :=
  (∃ data, RunLength.decode (unbroken (site.following.takeWhile isPayload)) = .ok data ∧
    c.imageOf? k = some ⟨site.graphic.name, data⟩ ∧ c.graphicReport? k = none) ∨
  ∃ reason, (Cause.fault reason).kind = .decode ∧ c.imageOf? k = none ∧
    c.graphicReport? k = some ⟨some k, site.graphic.name, .fault reason⟩

variable {config zpl : Text} {c : Conversion}

theorem siteKept_of_accounted {k : Nat} {site : Site zpl} {d : Download}
    (hname : d.name = site.graphic.name) (hpayload : d.payload = unbroken site.graphic.payload)
    (h : c.GraphicAccounted k d) : c.SiteKept k site := by
  rw [site.payload_eq] at hpayload
  rcases h with ⟨data, hexpansion, himage, hreport⟩ | ⟨reason, -, hkind, himage, hreport⟩
  · rw [hname] at himage
    refine .inl ⟨data, ?_, himage, hreport⟩
    rw [← hpayload]
    exact Download.decode_of_expansion hexpansion
  · rw [hname] at hreport
    exact .inr ⟨reason, hkind, himage, hreport⟩

/-- Of two views of which exactly one sees something at each index, both together see as many
    things as there are indexes. -/
theorem length_filterMap_add {α β : Type} {f : Nat → Option α} {g : Nat → Option β}
    {indexes : List Nat} (h : ∀ k ∈ indexes, (f k).isSome = !(g k).isSome) :
    (indexes.filterMap f).length + (indexes.filterMap g).length = indexes.length := by
  induction indexes with
  | nil => rfl
  | cons k indexes ih =>
    rw [List.forall_mem_cons] at h
    have hrest := ih h.2
    cases hf : f k with
    | none =>
      cases hg : g k with
      | none => simp [hf, hg] at h
      | some b =>
        rw [List.filterMap_cons_none hf, List.filterMap_cons_some hg, List.length_cons,
          List.length_cons, ← hrest]
        omega
    | some a =>
      cases hg : g k with
      | none =>
        rw [List.filterMap_cons_some hf, List.filterMap_cons_none hg, List.length_cons,
          List.length_cons, ← hrest]
        omega
      | some b => simp [hf, hg] at h

/-- A lenient conversion stores or reports, in the order of the text, the graphics at its marks, as
    many as there are marks where a graphic stands. So it keeps all marks exactly if a graphic
    stands at each. -/
theorem graphics_kept (h : ofText .lenient config zpl = .ok c) :
    ∃ sites : List (Site zpl),
      sites.map Site.place = (marks zpl).filter (fun p => StartsGraphic (zpl.drop p)) ∧
      c.label.images.length + c.decodeReports.length = sites.length ∧
      ((marks zpl).length = c.label.images.length + c.decodeReports.length ↔
        ∀ p ∈ marks zpl, StartsGraphic (zpl.drop p)) ∧
      c.label.images = (List.range sites.length).filterMap c.imageOf? ∧
      c.decodeReports = (List.range sites.length).filterMap c.graphicReport? ∧
      ∀ (k : Nat) site, sites[k]? = some site → c.SiteKept k site := by
  obtain ⟨downloads, hall, hgraphics, -⟩ := ofText_eq_ok_iff.mp h
  obtain ⟨hgraphicsLength, houtcomes⟩ := graphics_getElem? hgraphics
  obtain ⟨sites, hplaces, hsources⟩ := Download.exists_sites zpl
  obtain ⟨hlength, hdownloads⟩ := Download.all_getElem? hall hsources
  have hcount : c.graphics.length = sites.length := hgraphicsLength.trans hlength
  have hkept : ∀ (k : Nat) site, sites[k]? = some site → c.SiteKept k site := by
    intro k site hsite
    obtain ⟨d, hd, hname, hpayload⟩ := hdownloads k site hsite
    obtain ⟨outcome, houtcome, hat⟩ := houtcomes k d hd
    have haccounted := graphicAccounted_of_outcome hall (List.mem_of_getElem? hd) houtcome hat
    exact siteKept_of_accounted hname hpayload haccounted
  have himages : c.label.images = (List.range sites.length).filterMap c.imageOf? := by
    rw [images_eq, hcount]
  have hreports : c.decodeReports = (List.range sites.length).filterMap c.graphicReport? := by
    rw [decodeReports_eq h, hcount]
  have hboth : c.label.images.length + c.decodeReports.length = sites.length := by
    rw [himages, hreports, length_filterMap_add, List.length_range]
    intro k hk
    have hsite := List.getElem?_eq_getElem (List.mem_range.mp hk)
    rcases hkept k _ hsite with ⟨data, -, himage, hreport⟩ | ⟨reason, -, himage, hreport⟩
    · rw [himage, hreport]
      rfl
    · rw [himage, hreport]
      rfl
  refine ⟨sites, hplaces, hboth, ?_, himages, hreports, hkept⟩
  rw [hboth, ← List.length_map Site.place, hplaces, eq_comm,
    List.length_filter_eq_length_iff]
  simp only [decide_eq_true_eq]

/-- A label text with a graphic whose payload goes on behind a comma, a mark with a device in a
    small letter, and a graphic that is corrupt. -/
def cutLabel : Text := "~DGR:A.GRF,2,1,F\nF,00~DGr:C,1,1,FF~DGB,1,1,G^XA^XZ".toList

theorem graphics_kept_of_cutLabel :
    ∃ c, ofText .lenient Label.defaultConfig cutLabel = .ok c ∧
      ∃ sites : List (Site cutLabel), sites.map Site.place = [0, 34] ∧
        c.label.images.length + c.decodeReports.length = 2 ∧
        c.label.images = [⟨['A'], ['F', 'F']⟩] ∧
        ∀ (k : Nat) site, sites[k]? = some site → c.SiteKept k site := by
  obtain ⟨c, h⟩ : ∃ c, ofText .lenient Label.defaultConfig cutLabel = .ok c :=
    exists_of_isOk (by decide +kernel)
  have himages : (ofText .lenient Label.defaultConfig cutLabel).map (fun c => c.label.images) =
      .ok [⟨['A'], ['F', 'F']⟩] := by decide +kernel
  rw [h] at himages
  obtain ⟨sites, hplaces, hboth, -, -, -, hkept⟩ := graphics_kept h
  have hmarks : (marks cutLabel).filter (fun p => StartsGraphic (cutLabel.drop p)) = [0, 34] := by
    decide +kernel
  rw [hmarks] at hplaces
  have hlength := congrArg List.length hplaces
  rw [List.length_map] at hlength
  exact ⟨c, h, sites, hplaces, hboth.trans hlength, Except.ok.inj himages, hkept⟩

/-- A graphic at the front of a text, with a payload that goes on behind a comma. -/
def cutSite : Site "~DGB:A,4,4,FF,00^XA^XZ".toList where
  place := 0
  graphic :=
    { device := some 'B'
      name := ['A']
      hasExtension := false
      totalBytes := ['4']
      bytesPerRow := ['4']
      payload := ['F', 'F']
      device_isUpper := fun _ hc => by cases hc; rfl
      name_isWord := ⟨by simp, List.all_eq_true.mp (by decide +kernel)⟩
      totalBytes_isDigit := ⟨by simp, List.all_eq_true.mp (by decide +kernel)⟩
      bytesPerRow_isDigit := ⟨by simp, List.all_eq_true.mp (by decide +kernel)⟩
      payload_isPayload := ⟨by simp, List.all_eq_true.mp (by decide +kernel)⟩ }
  rest := ",00^XA^XZ".toList
  drop_eq := by decide
  ends c hc := by
    cases hc
    rfl

/-- A mark with an extension in small letters is not kept, and of a payload with a comma in it only
    what stands before the comma is. -/
theorem not_all_marks_kept :
    (¬ ∀ config zpl c, ofText .lenient config zpl = .ok c →
      (marks zpl).length = c.label.images.length + c.decodeReports.length) ∧
    ¬ ∀ config zpl c, ofText .lenient config zpl = .ok c → ∀ site : Site zpl,
      ∀ image ∈ c.label.images, image.name = site.graphic.name →
        RunLength.decode (unbroken site.following) = .ok image.data := by
  constructor
  · intro hall
    have hcounts : (ofText .lenient Label.defaultConfig "~DGA.grf,2,1,FF00^XA^XZ".toList).map
        (fun c => (c.label.images.length, c.decodeReports.length)) = .ok (0, 0) := by
      decide +kernel
    obtain ⟨c, hc, hcount⟩ := map_eq_ok_iff.mp hcounts
    obtain ⟨himages, hreports⟩ := Prod.mk.inj hcount
    have hmarks : (marks "~DGA.grf,2,1,FF00^XA^XZ".toList).length = 1 := by decide +kernel
    have hclaim := hall _ _ c hc
    omega
  · intro hall
    have himages : (ofText .lenient Label.defaultConfig "~DGB:A,4,4,FF,00^XA^XZ".toList).map
        (fun c => c.label.images) = .ok [⟨['A'], ['F', 'F']⟩] := by decide +kernel
    obtain ⟨c, hc, himage⟩ := map_eq_ok_iff.mp himages
    have hdecode : RunLength.decode (unbroken cutSite.following) = .ok "FF,00".toList := by
      decide +kernel
    have hclaim := hall _ _ c hc cutSite ⟨['A'], ['F', 'F']⟩ (by simp [himage]) rfl
    rw [hdecode] at hclaim
    cases hclaim

end Conversion

end ThermalLabel
