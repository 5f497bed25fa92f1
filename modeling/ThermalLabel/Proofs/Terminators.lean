/-
  The carriage returns of the scripts of label texts and of designs.

  Carriage returns that end no line of a script come from its records, whose texts are taken over
  as they are given: from field data in a label text, from three attributes of the elements in a
  design. Both are said by `count_returns`.
-/
import ThermalLabel.Proofs.Accounting
import ThermalLabel.Proofs.Design.Drawing

namespace ThermalLabel

/-! ## Commands of a label text -/

namespace Command

variable {stored : List Text} {origin : Origin} {later : List Command} {c : Command}

theorem mem_of_fieldData? {list : List Command} {data : Text} (h : fieldData? list = some data) :
    ∃ d ∈ list, d.opcode = fieldDataOpcode ∧ d.params = data := by
  obtain ⟨d, hd, rfl⟩ := Option.map_eq_some_iff.mp h
  exact ⟨d, List.mem_of_find?_eq_some hd, by simpa using List.find?_some hd, rfl⟩

theorem mem_of_qrData {data : Text} {x : Char} (h : x ∈ qrData data) : x ∈ data := by
  unfold qrData at h
  split at h
  · split at h
    · exact List.mem_cons_of_mem _ (List.mem_cons_of_mem _ (List.mem_cons_of_mem _ h))
    · exact h
  · exact h

theorem isOpcode_of_barcode (hwritten : c.IsWritten) {symbology : Char}
    (h : c.instruction = .barcode symbology) : isOpcode symbology := by
  obtain ⟨a, b, hab, -, hb⟩ := hwritten.opcode
  rw [opcode_of_instruction h rfl] at hab
  cases hab
  exact hb

/-- The texts of a figure come from its opcode and from field data: its own, or for a barcode that
    of a command behind it. -/
theorem mem_fieldText_of_draw (hwritten : c.IsWritten) {drawn : Figure}
    (h : c.Draw stored origin later drawn) {x : Char} (hx : x ∈ drawn.fieldText) :
    isOpcode x ∨ ∃ d ∈ c :: later, d.opcode = fieldDataOpcode ∧ x ∈ d.params := by
  cases h with
  | text asked =>
    exact .inr ⟨c, List.mem_cons_self, instruction_eq_fieldData_iff.mp asked, hx⟩
  | qrCode asked found =>
    obtain ⟨d, hd, hopcode, rfl⟩ := mem_of_fieldData? found
    rcases List.mem_append.mp hx with hx | hx
    · rw [List.mem_singleton.mp hx]
      exact .inl rfl
    · exact .inr ⟨d, List.mem_cons_of_mem _ hd, hopcode, mem_of_qrData hx⟩
  | barcode asked found =>
    obtain ⟨d, hd, hopcode, rfl⟩ := mem_of_fieldData? found
    rcases List.mem_append.mp hx with hx | hx
    · rw [List.mem_singleton.mp hx]
      exact .inl (isOpcode_of_barcode hwritten asked)
    · exact .inr ⟨d, List.mem_cons_of_mem _ hd, hopcode, hx⟩
  | box | line | circle | recallImage => cases hx

theorem mem_stored_of_draw {x y : Quantity} {name : Text}
    (h : c.Draw stored origin later (.recallImage x y name)) : name ∈ stored := by
  cases h with
  | recallImage asked found => exact found

theorem exists_draw_of_outcome {r : Record} (h : c.outcome stored origin later = .ok (.drawn r)) :
    ∃ drawn, c.Draw stored origin later drawn ∧ drawn.record = .ok r := by
  rcases outcome_cases h with ⟨-, ⟨_, -, h⟩ | ⟨_, -, h⟩⟩ | ⟨-, h⟩ |
    ⟨-, ⟨drawn, record, hfigure, hrecord, h⟩ | ⟨_, _, -, -, h⟩ | ⟨_, -, h⟩⟩
  case inr.inr.inl =>
    cases h
    exact ⟨drawn, figure_eq_some_iff.mp hfigure, hrecord⟩
  all_goals cases h

end Command

theorem Download.isChecked_of_outcome {strictness : Strictness} {d : Download}
    {image : StoredImage} (h : d.outcome strictness = .ok (.stored image)) : image.IsChecked := by
  unfold outcome at h
  split at h
  · obtain ⟨made, hmake, hmade⟩ := map_eq_ok_iff.mp h
    cases hmade
    exact StoredImage.isChecked_of_make hmake
  · split at h <;> cases h

namespace Conversion

variable {strictness : Strictness} {config zpl : Text} {c : Conversion}

theorem isChecked_of_mem_images (h : ofText strictness config zpl = .ok c) {image : StoredImage}
    (himage : image ∈ c.label.images) : image.IsChecked := by
  obtain ⟨downloads, -, hgraphics, -⟩ := ofText_eq_ok_iff.mp h
  obtain ⟨⟨d, outcome⟩, hmem, hstored⟩ := List.mem_filterMap.mp himage
  obtain ⟨d', -, hd⟩ := exists_of_mem_mapM hgraphics hmem
  obtain ⟨outcome', houtcome, hpair⟩ := bind_eq_ok_iff.mp hd
  cases hpair
  cases outcome with
  | stored made =>
    cases hstored
    exact Download.isChecked_of_outcome houtcome
  | skipped reason => cases hstored

/-- A record is what one of the commands drew. -/
theorem exists_draw_of_mem_records (h : ofText strictness config zpl = .ok c) {r : Record}
    (hr : r ∈ c.label.records) :
    ∃ (i : Nat) (command : Command) (drawn : Figure), (commands zpl)[i]? = some command ∧
      command.Draw c.storedNames (Origin.initial.along ((commands zpl).take i))
        ((commands zpl).drop (i + 1)) drawn ∧
      drawn.record = .ok r := by
  obtain ⟨downloads, -, -, -, -, hlayout⟩ := ofText_eq_ok_iff.mp h
  obtain ⟨hlength, hitems⟩ := Command.outcomes_getElem? hlayout
  rw [records_eq] at hr
  obtain ⟨i, hi, hrecord⟩ := List.mem_filterMap.mp hr
  rw [List.mem_range, hlength] at hi
  have hcommand := List.getElem?_eq_getElem hi
  obtain ⟨result, hat, houtcome⟩ := hitems i _ hcommand
  rw [recordOf?_of_getElem? hat] at hrecord
  cases result with
  | drawn record =>
    cases hrecord
    obtain ⟨drawn, hdraw, hrecord⟩ := Command.exists_draw_of_outcome houtcome
    exact ⟨i, _, drawn, hcommand, hdraw, hrecord⟩
  | moved | skipped | ignored => cases hrecord

theorem isChecked_label (h : ofText strictness config zpl = .ok c) : c.label.IsChecked := by
  refine ⟨fun image himage => isChecked_of_mem_images h himage, fun r hr y x name hname => ?_⟩
  obtain ⟨i, command, drawn, -, hdraw, hrecord⟩ := exists_draw_of_mem_records h hr
  obtain ⟨column, row, rfl⟩ := (Figure.record_texts r hrecord).2 y x name hname
  obtain ⟨image, himage, rfl⟩ := List.mem_map.mp (Command.mem_stored_of_draw hdraw)
  exact (isChecked_of_mem_images h himage).name

/-- A carriage return in a text of a record comes from field data. -/
theorem exists_of_return_mem (h : ofText strictness config zpl = .ok c) {r : Record}
    (hr : r ∈ c.label.records) (hreturn : '\r' ∈ r.fieldText) :
    ∃ d ∈ commands zpl, d.opcode = ['F', 'D'] ∧ '\r' ∈ d.params := by
  obtain ⟨i, command, drawn, hcommand, hdraw, hrecord⟩ := exists_draw_of_mem_records h hr
  have hmem := List.mem_of_getElem? hcommand
  have htext := (Figure.record_texts r hrecord).1 _ hreturn
  rcases Command.mem_fieldText_of_draw (isWritten_of_mem_commands hmem) hdraw htext with
    hopcode | ⟨d, hd, hopcode, hparams⟩
  · cases hopcode
  · rcases List.mem_cons.mp hd with rfl | hd
    · exact ⟨d, hmem, hopcode, hparams⟩
    · exact ⟨d, List.mem_of_mem_drop hd, hopcode, hparams⟩

end Conversion

/-! ## Both ways to a label -/

/-- The lines of a script: three of its frame, two for each image and one for each record. -/
def Label.lineCount (label : Label) : Nat := 3 + 2 * label.images.length + label.records.length

theorem Label.count_script_of_config {label : Label} (h : label.IsChecked)
    (hconfig : '\r' ∉ label.config) :
    label.script.count '\r' = label.lineCount + label.fieldReturns := by
  rw [count_script h, List.count_eq_zero_of_not_mem hconfig, lineCount]

/-- A script has as many carriage returns as lines, and those of the texts of its records, which
    are taken over as they are given. So it has one for each line exactly if no text of a record
    has any, as when no field data and no attribute for texts has any. -/
theorem count_returns {config : Text} (hconfig : '\r' ∉ config) :
    (∀ strictness zpl c, Conversion.ofText strictness config zpl = .ok c →
      c.script.count '\r' = c.label.lineCount + c.label.fieldReturns ∧
      (c.script.count '\r' = c.label.lineCount ↔ ∀ r ∈ c.label.records, '\r' ∉ r.fieldText) ∧
      ((∀ d ∈ Conversion.commands zpl, d.opcode = ['F', 'D'] → '\r' ∉ d.params) →
        c.script.count '\r' = c.label.lineCount)) ∧
    ∀ settings placed d, (DesignConversion.ofElements settings config placed).2 = .ok d →
      d.script.count '\r' = d.label.lineCount + d.label.fieldReturns ∧
      (d.script.count '\r' = d.label.lineCount ↔ ∀ r ∈ d.label.records, '\r' ∉ r.fieldText) ∧
      ((∀ e ∈ placed, ∀ name ∈ ["text", "data", "type"], '\r' ∉ e.drawnText name) →
        d.script.count '\r' = d.label.lineCount) := by
  have hexact : ∀ label : Label, label.script.count '\r' = label.lineCount + label.fieldReturns →
      (label.script.count '\r' = label.lineCount ↔
        ∀ r ∈ label.records, '\r' ∉ r.fieldText) := by
    intro label h
    rw [← Label.fieldReturns_eq_zero_iff, h]
    omega
  refine ⟨fun strictness zpl c h => ?_, fun settings placed d h => ?_⟩
  · obtain ⟨downloads, -, -, hsame, -⟩ := Conversion.ofText_eq_ok_iff.mp h
    have hcount := Label.count_script_of_config (Conversion.isChecked_label h)
      (show '\r' ∉ c.config from hsame ▸ hconfig)
    refine ⟨hcount, hexact _ hcount, fun hclean => (hexact _ hcount).mpr fun r hr hreturn => ?_⟩
    obtain ⟨command, hcommand, hopcode, hparams⟩ := Conversion.exists_of_return_mem h hr hreturn
    exact hclean command hcommand hopcode hparams
  · have hsame := (DesignConversion.ofElements_eq_ok h).1
    have hcount := Label.count_script_of_config (DesignConversion.isChecked_label h)
      (show '\r' ∉ d.config from hsame ▸ hconfig)
    refine ⟨hcount, hexact _ hcount, fun hclean => (hexact _ hcount).mpr fun r hr hreturn => ?_⟩
    obtain ⟨e, he, name, hname, hmem⟩ := DesignConversion.exists_of_return_mem h hr hreturn
    exact hclean e he name hname hmem

/-- A text element at the corner of a design. -/
def cornerElement : PlacedElement :=
  ⟨"text".toList, .ofInt 0, .ofInt 0, .missing, .missing, [("text".toList, .text "hi".toList)]⟩

theorem count_returns_of_clean_texts :
    (∃ c, Conversion.ofText .lenient Label.defaultConfig Conversion.mixedLabel = .ok c ∧
      c.script.count '\r' = c.label.lineCount) ∧
    ∃ d, (DesignConversion.ofElements
        ⟨fun _ => .error (.crashed "no loader"), .ofInt 128, .never⟩ Label.defaultConfig
        [cornerElement]).2 = .ok d ∧
      d.script.count '\r' = d.label.lineCount := by
  have hconfig : '\r' ∉ Label.defaultConfig := by decide
  have hreturns := count_returns hconfig
  obtain ⟨c, hc⟩ := Conversion.exists_ofText_mixedLabel
  obtain ⟨d, hd⟩ : ∃ d, (DesignConversion.ofElements
      ⟨fun _ => .error (.crashed "no loader"), .ofInt 128, .never⟩ Label.defaultConfig
      [cornerElement]).2 = .ok d :=
    exists_of_isOk (by decide +kernel)
  refine ⟨⟨c, hc, ?_⟩, d, hd, ?_⟩
  · exact (hreturns.1 _ _ c hc).2.2 (by decide +kernel)
  · exact (hreturns.2 _ _ d hd).2.2 (by decide +kernel)

/-- Field data with a carriage return has a record of two lines. -/
theorem not_one_return_per_line :
    ¬ ∀ strictness config zpl c, '\r' ∉ config → Conversion.ofText strictness config zpl = .ok c →
      c.script.count '\r' = 3 + 2 * c.label.images.length + c.label.records.length := by
  intro h
  have hcounts : ((Conversion.ofText .lenient Label.defaultConfig
      "^XA^FDa\rb^XZ".toList).map fun c =>
        (c.script.count '\r', c.label.images.length, c.label.records.length)).toOption =
      some (5, 0, 1) := by decide +kernel
  obtain ⟨c, hc⟩ : ∃ c, Conversion.ofText .lenient Label.defaultConfig
      "^XA^FDa\rb^XZ".toList = .ok c := exists_of_isOk (by decide +kernel)
  have hclaim := h _ _ _ c (by decide) hc
  rw [hc] at hcounts
  simp only [Except.map, Except.toOption, Option.some.injEq, Prod.mk.injEq] at hcounts
  omega

end ThermalLabel
