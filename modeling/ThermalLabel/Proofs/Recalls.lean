/-
  Recalled images are in the memory of the printer.

  The images of a conversion are the downloads whose payloads expand, wherever they stand in the
  text (`images_eq_filterMap`). A recall has a record exactly if one of them has the name it asks
  for and the origin fits the fields; if there is none, the recall has one diagnostic of a missing
  reference (`recalls_resident`). As the images of a script stand before the layout, a recall in it
  finds its image stored.
-/
import ThermalLabel.Proofs.Overflow
import ThermalLabel.Proofs.Terminators

namespace ThermalLabel

/-! ## Images -/

namespace Download

/-- The image that a download stores, if its payload expands. -/
def image? (d : Download) : Option StoredImage :=
  d.expansion.toOption.map fun data => ⟨d.name, data⟩

/-- One of the downloads has the name and a payload that expands. -/
def Stores (downloads : List Download) (name : Text) : Prop :=
  ∃ d ∈ downloads, d.name = name ∧ ∃ data, d.expansion = .ok data

variable {strictness : Strictness} {d : Download} {outcome : GraphicOutcome}

/-- What becomes of a download is its image, or the fault of its payload. -/
theorem outcome_cases (h : d.outcome strictness = .ok outcome) :
    (∃ data, d.expansion = .ok data ∧ outcome = .stored ⟨d.name, data⟩) ∨
      ∃ reason, d.expansion = .error reason ∧ outcome = .skipped reason := by
  rw [Download.outcome] at h
  cases hexpansion : d.expansion with
  | ok data =>
    rw [hexpansion] at h
    obtain ⟨image, himage, rfl⟩ := map_eq_ok_iff.mp h
    rw [StoredImage.eq_of_make himage]
    exact .inl ⟨data, rfl, rfl⟩
  | error reason =>
    rw [hexpansion] at h
    dsimp only at h
    split at h <;> cases h
    exact .inr ⟨reason, rfl, rfl⟩

theorem image?_of_outcome (h : d.outcome strictness = .ok outcome) : outcome.image? = d.image? := by
  unfold image?
  rcases outcome_cases h with ⟨data, hdata, rfl⟩ | ⟨reason, hreason, rfl⟩
  · rw [hdata]
    rfl
  · rw [hreason]
    rfl

theorem mem_names_iff_stores {downloads : List Download} {name : Text} :
    name ∈ (downloads.filterMap image?).map StoredImage.name ↔ Stores downloads name := by
  unfold Stores image?
  constructor
  · intro h
    obtain ⟨image, himage, rfl⟩ := List.mem_map.mp h
    obtain ⟨d, hd, hfound⟩ := List.mem_filterMap.mp himage
    cases hexpansion : d.expansion with
    | error reason =>
      rw [hexpansion] at hfound
      cases hfound
    | ok data =>
      rw [hexpansion] at hfound
      cases hfound
      exact ⟨d, hd, rfl, data, hexpansion⟩
  · rintro ⟨d, hd, rfl, data, hexpansion⟩
    refine List.mem_map.mpr ⟨⟨d.name, data⟩, List.mem_filterMap.mpr ⟨d, hd, ?_⟩, rfl⟩
    rw [hexpansion]
    rfl

end Download

/-! ## Recalls -/

namespace Command

variable {stored : List Text} {origin : Origin} {later : List Command} {c : Command}

theorem instruction_of_recall (h : c.opcode = ['X', 'G']) : c.instruction = .recallImage := by
  simp [instruction, h, fieldDataOpcode]

theorem figure_of_recall (h : c.instruction = .recallImage) :
    c.figure stored origin later =
      if Reference.graphicName c.params ∈ stored then
        .ok (some (.recallImage (.number origin.x) (.number origin.y)
          (Reference.graphicName c.params)))
      else .error (.notStored (Reference.graphicName c.params)) := by
  unfold figure
  rw [h]

/-- All that a recall can do. -/
theorem recall_cases (hopcode : c.opcode = ['X', 'G']) {result : CommandOutcome}
    (h : c.outcome stored origin later = .ok result) :
    (Reference.graphicName c.params ∉ stored ∧
      result = .skipped (.notStored (Reference.graphicName c.params))) ∨
    (Reference.graphicName c.params ∈ stored ∧
      ((∃ row column, Position.read (.number origin.y) = .ok row ∧
          Position.read (.number origin.x) = .ok column ∧
          result = .drawn (.recallImage row column (Reference.graphicName c.params))) ∨
        ¬ origin.OnLabel ∧ ∃ reason, reason.IsOfField ∧ result = .skipped (.fault reason))) := by
  have hasked := instruction_of_recall hopcode
  have hmove : c.instruction ≠ .moveOrigin := by
    rw [hasked]
    exact Instruction.noConfusion
  rw [outcome_of_figure hmove, figure_of_recall hasked] at h
  by_cases hfound : Reference.graphicName c.params ∈ stored
  · refine .inr ⟨hfound, ?_⟩
    rw [if_pos hfound] at h
    dsimp only at h
    cases hrecord : (Figure.recallImage (.number origin.x) (.number origin.y)
        (Reference.graphicName c.params)).record with
    | ok record =>
      rw [hrecord] at h
      cases h
      obtain ⟨row, hrow, hrecord⟩ := bind_eq_ok_iff.mp hrecord
      obtain ⟨column, hcolumn, hrecord⟩ := bind_eq_ok_iff.mp hrecord
      cases hrecord
      exact .inl ⟨row, column, hrow, hcolumn, rfl⟩
    | error reason =>
      rw [hrecord] at h
      dsimp only at h
      rw [ofFault_map_skipped] at h
      split at h <;> cases h
      refine .inr ⟨?_, reason, Figure.isOfField_of_record reason hrecord, rfl⟩
      rintro ⟨⟨row, hrow⟩, column, hcolumn⟩
      rw [Figure.record, hrow, hcolumn] at hrecord
      cases hrecord
  · rw [if_neg hfound] at h
    cases h
    exact .inl ⟨hfound, rfl⟩

end Command

namespace Conversion

variable {strictness : Strictness} {config zpl : Text} {c : Conversion}

/-- The images of a conversion are those of the downloads, in their order. -/
theorem images_eq_filterMap {downloads : List Download}
    (h : downloads.mapM (fun d => do return (d, ← d.outcome strictness)) = .ok c.graphics) :
    c.label.images = downloads.filterMap Download.image? := by
  obtain ⟨hlength, hitems⟩ := graphics_getElem? h
  have hdownloads : downloads.filterMap Download.image? =
      (List.range downloads.length).filterMap fun k => downloads[k]?.bind Download.image? :=
    (filterMap_range_bind_const _ _).symm
  rw [images_eq, hlength, hdownloads]
  refine List.filterMap_congr fun k hk => ?_
  have hat := List.getElem?_eq_getElem (List.mem_range.mp hk)
  obtain ⟨outcome, houtcome, hgraphic⟩ := hitems k _ hat
  rw [imageOf?, hgraphic, hat]
  exact Download.image?_of_outcome houtcome

/-- The reports of graphics are of payloads that do not expand. -/
theorem kind_of_graphicReport? {downloads : List Download}
    (h : downloads.mapM (fun d => do return (d, ← d.outcome strictness)) = .ok c.graphics)
    {k : Nat} {report : Diagnostic} (hreport : c.graphicReport? k = some report) :
    report.kind = .decode := by
  obtain ⟨⟨d, outcome⟩, hat, hreport⟩ := Option.bind_eq_some_iff.mp hreport
  obtain ⟨d', -, hd⟩ := exists_of_mem_mapM h (List.mem_of_getElem? hat)
  obtain ⟨outcome', houtcome, hpair⟩ := bind_eq_ok_iff.mp hd
  cases hpair
  rcases Download.outcome_cases houtcome with ⟨data, -, rfl⟩ | ⟨reason, hreason, rfl⟩
  · cases hreport
  · cases hreport
    exact Download.expansion_eq_error hreason

/-! ## Diagnostics of one item -/

/-- The diagnostics of a missing reference that a command with an index has. -/
def missingReferences (c : Conversion) (i : Nat) : List Diagnostic :=
  c.diagnostics.filter fun report => report.index = some i ∧ report.kind = .reference

theorem missingReferences_eq {downloads : List Download}
    (hgraphics : downloads.mapM (fun d => do return (d, ← d.outcome strictness)) = .ok c.graphics)
    {i : Nat} (hi : i < (c.layout.getD []).length) :
    c.missingReferences i =
      (c.commandReport? i).toList.filter fun report => report.kind = .reference := by
  have hsplit : ∀ reports : List Diagnostic,
      reports.filter (fun report => report.index = some i ∧ report.kind = .reference) =
        (reports.filter fun report => report.index = some i).filter
          fun report => report.kind = .reference := by
    intro reports
    rw [List.filter_filter]
    refine List.filter_congr fun report _ => ?_
    simp [Bool.and_comm]
  have hdecode : ((List.range c.graphics.length).filterMap c.graphicReport?).filter
      (fun report => report.index = some i ∧ report.kind = .reference) = [] := by
    refine List.filter_eq_nil_iff.mpr fun report hreport => ?_
    obtain ⟨k, -, hreport⟩ := List.mem_filterMap.mp hreport
    simp [kind_of_graphicReport? hgraphics hreport]
  have hblock : (if c.layout = none then [blockDiagnostic] else []).filter
      (fun report => report.index = some i ∧ report.kind = .reference) = [] := by
    split
    · simp [blockDiagnostic]
    · rfl
  rw [missingReferences, diagnostics_eq, List.filter_append, List.filter_append, hdecode, hblock,
    List.nil_append, List.nil_append, hsplit,
    filter_index (fun _ _ => index_of_commandReport?) hi]

/-! ## The whole text -/

/-- What a conversion makes of the recall with an index: its record and its diagnostics of a
    missing reference. -/
structure RecallSettled (c : Conversion) (downloads : List Download) (origin : Origin) (i : Nat)
    (name : Text) : Prop where
  record : ∀ record, c.recordOf? i = some record ↔
    Download.Stores downloads name ∧ ∃ row column,
      Position.read (.number origin.y) = .ok row ∧ Position.read (.number origin.x) = .ok column ∧
      record = .recallImage row column name
  written : (c.recordOf? i).isSome ↔ Download.Stores downloads name ∧ origin.OnLabel
  present : Download.Stores downloads name → c.missingReferences i = []
  missing : ¬ Download.Stores downloads name →
    c.missingReferences i = [⟨some i, ['X', 'G'], .notStored name⟩]

theorem recallSettled_of_outcome {downloads : List Download} {origin : Origin}
    {later : List Command} {i : Nat} {command : Command} {result : CommandOutcome}
    (hgraphics : downloads.mapM (fun d => do return (d, ← d.outcome strictness)) = .ok c.graphics)
    (hopcode : command.opcode = ['X', 'G'])
    (houtcome : command.outcome c.storedNames origin later = .ok result)
    (hat : (c.layout.getD [])[i]? = some (command, result)) :
    c.RecallSettled downloads origin i (Reference.graphicName command.params) := by
  have hstores : Reference.graphicName command.params ∈ c.storedNames ↔
      Download.Stores downloads (Reference.graphicName command.params) := by
    rw [storedNames, images_eq_filterMap hgraphics, Download.mem_names_iff_stores]
  have hrecord := recordOf?_of_getElem? hat
  have hreport := commandReport?_of_getElem? hat
  have hmissing := missingReferences_eq hgraphics (List.getElem?_eq_some_iff.mp hat).1
  rw [hopcode] at hreport
  rw [hreport] at hmissing
  rcases Command.recall_cases hopcode houtcome with
    ⟨hnot, rfl⟩ | ⟨hfound, ⟨row, column, hrow, hcolumn, rfl⟩ | ⟨hoff, reason, hfield, rfl⟩⟩
  · -- the recall has a diagnostic of a missing reference
    rw [hstores] at hnot
    refine ⟨fun record => ?_, ?_, fun h => absurd h hnot, fun _ => hmissing⟩
    · simp [hrecord, CommandOutcome.record?, hnot]
    · simp [hrecord, CommandOutcome.record?, hnot]
  · -- the recall has a record
    rw [hstores] at hfound
    refine ⟨fun record => ?_, ?_, fun _ => hmissing, fun h => absurd hfound h⟩
    · rw [hrecord, hrow, hcolumn]
      simp [CommandOutcome.record?, hfound, eq_comm]
    · rw [hrecord]
      exact iff_of_true rfl ⟨hfound, ⟨row, hrow⟩, column, hcolumn⟩
  · -- the origin does not fit the fields
    rw [hstores] at hfound
    refine ⟨fun record => ?_, ?_, fun _ => ?_, fun h => absurd hfound h⟩
    · simp only [hrecord, CommandOutcome.record?, reduceCtorEq, false_iff]
      rintro ⟨-, row, column, hrow, hcolumn, -⟩
      exact hoff ⟨⟨row, hrow⟩, column, hcolumn⟩
    · simp [hrecord, CommandOutcome.record?, hoff]
    · rw [hmissing]
      rcases hfield with hkind | hkind
      · simp [CommandOutcome.cause?, Diagnostic.kind, hkind]
      · simp [CommandOutcome.cause?, Diagnostic.kind, hkind]

/-- A record that recalls an image is of an image that the conversion stored. -/
theorem exists_image_of_recall (h : ofText strictness config zpl = .ok c) {row column : Position}
    {name : Text} (hrecord : .recallImage row column name ∈ c.label.records) :
    ∃ image ∈ c.label.images, image.name = name := by
  obtain ⟨i, command, drawn, -, hdraw, hdrawn⟩ := exists_draw_of_mem_records h hrecord
  obtain ⟨x, y, rfl⟩ := (Figure.record_texts _ hdrawn).2 row column name rfl
  exact List.mem_map.mp (Command.mem_stored_of_draw hdraw)

/-- What every recall of a label text comes to, and that a script stores an image before it recalls
    it. -/
theorem recalls_resident (h : ofText strictness config zpl = .ok c) :
    ∃ downloads, Download.all zpl = .ok downloads ∧
      (∀ (i : Nat) command, (commands zpl)[i]? = some command → command.opcode = ['X', 'G'] →
        c.RecallSettled downloads (Origin.initial.along ((commands zpl).take i)) i
          (Reference.graphicName command.params)) ∧
      ∀ before row column name after,
        c.label.records = before ++ .recallImage row column name :: after →
        ∃ images image others, c.label.images = images ++ image :: others ∧ image.name = name ∧
          c.script = (['\x02', 'L', '\r'] ++ config ++ '\r' :: images.flatMap StoredImage.render) ++
            image.render ++
            (others.flatMap StoredImage.render ++ before.flatMap Record.render) ++
            (Record.recallImage row column name).render ++
            (after.flatMap Record.render ++ ['E', '\r']) := by
  obtain ⟨downloads, hall, hgraphics, hconfig, -, hlayout⟩ := ofText_eq_ok_iff.mp h
  refine ⟨downloads, hall, fun i command hcommand hopcode => ?_,
    fun before row column name after hrecords => ?_⟩
  · obtain ⟨result, hat, houtcome⟩ := (Command.outcomes_getElem? hlayout).2 i command hcommand
    exact recallSettled_of_outcome hgraphics hopcode houtcome hat
  · have hmem : .recallImage row column name ∈ c.label.records := by
      rw [hrecords]
      exact List.mem_append_right _ List.mem_cons_self
    obtain ⟨image, himage, hname⟩ := exists_image_of_recall h hmem
    obtain ⟨images, others, himages⟩ := List.append_of_mem himage
    refine ⟨images, image, others, himages, hname, ?_⟩
    have hframe : c.label.config = config := hconfig
    rw [script, Label.script, Label.imageLines, Label.layoutLines, himages, hrecords, hframe]
    simp

/-- A recall of the stored graphic and one of a name that no graphic has. -/
theorem recalls_resident_of_mixedLabel :
    ∃ c, ofText .lenient Label.defaultConfig mixedLabel = .ok c ∧
      c.recordOf? 8 = some (.recallImage 2 3 ['A']) ∧
      c.missingReferences 9 = [⟨some 9, ['X', 'G'], .notStored ['N', 'O']⟩] := by
  obtain ⟨c, h⟩ := exists_ofText_mixedLabel
  obtain ⟨downloads, hall, hrecalls, -⟩ := recalls_resident h
  have hdownloads : Download.all mixedLabel =
      .ok [⟨['A'], 1, 1, ['G', 'F']⟩, ⟨['B'], 1, 1, ['G']⟩] := by decide +kernel
  rw [hdownloads] at hall
  cases hall
  have hname : Reference.graphicName ['A'] = ['A'] := by decide +kernel
  have hother : Reference.graphicName ['N', 'O'] = ['N', 'O'] := by decide +kernel
  have hstored := hrecalls 8 ⟨['X', 'G'], ['A'], 34⟩ (by decide +kernel) rfl
  have hmissing := hrecalls 9 ⟨['X', 'G'], ['N', 'O'], 38⟩ (by decide +kernel) rfl
  rw [hname] at hstored
  rw [hother] at hmissing
  refine ⟨c, h, (hstored.record _).mpr ⟨?_, 2, 3, by decide +kernel, by decide +kernel, rfl⟩,
    hmissing.missing ?_⟩
  · exact ⟨_, List.mem_cons_self, rfl, ['F'], by decide +kernel⟩
  · rintro ⟨d, hd, hsame, -⟩
    simp only [List.mem_cons, List.not_mem_nil, or_false] at hd
    rcases hd with rfl | rfl
    · cases hsame
    · cases hsame

end Conversion

end ThermalLabel
