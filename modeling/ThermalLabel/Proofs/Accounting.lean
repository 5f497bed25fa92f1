/-
  Nothing is lost and nothing is done twice.

  Of a text that is converted leniently, each graphic is either stored or reported, and each
  command that asks for a record either has one or is reported (`lenient_accounted`). Images,
  records and reports stand in the order of the items that they come from.
-/
import ThermalLabel.Proofs.Conversion
import ThermalLabel.Proofs.Fields
import ThermalLabel.Proofs.Text.Capitals

namespace ThermalLabel

/-! ## Graphics -/

namespace RunLength

theorem tokens_eq_error {offset : Nat} {payload : Text} {reason : Fault}
    (h : tokens offset payload = .error reason) : ∃ c i, reason = .danglingCount c i := by
  fun_induction tokens offset payload with
  | case1 => cases h
  | case2 offset c rest hc ih => exact ih (map_eq_error_iff.mp h)
  | case3 offset c n hc =>
    cases h
    exact ⟨c, offset, rfl⟩
  | case4 offset c n hc d rest ih => exact ih (map_eq_error_iff.mp h)

/-- The tokens of a payload bring in no character of their own. -/
theorem mem_of_tokens {offset : Nat} {payload : Text} {ts : List Token}
    (h : tokens offset payload = .ok ts) {c : Char} (hc : c ∈ ts.flatMap Token.expand) :
    c ∈ payload := by
  fun_induction tokens offset payload generalizing ts with
  | case1 =>
    cases h
    exact hc
  | case2 offset d rest hd ih =>
    obtain ⟨others, hothers, rfl⟩ := map_eq_ok_iff.mp h
    rw [List.flatMap_cons, Token.expand, List.mem_append, List.mem_singleton] at hc
    exact List.mem_cons.mpr (hc.imp_right (ih hothers))
  | case3 => cases h
  | case4 offset d n hd e rest ih =>
    obtain ⟨others, hothers, rfl⟩ := map_eq_ok_iff.mp h
    rw [List.flatMap_cons, Token.expand, List.mem_append] at hc
    refine List.mem_cons_of_mem d (List.mem_cons.mpr ?_)
    exact hc.imp (fun h => (List.mem_replicate.mp h).2) (ih hothers)

/-- What a payload of letters and digits decodes to has letters and digits only. -/
theorem isAlphanum_of_decode {payload data : Text} (hpayload : ∀ c ∈ payload, c.isAlphanum)
    (h : decode payload = .ok data) : ∀ c ∈ data, c.isAlphanum := by
  have hascii : ∀ code < 128, (Char.ofNat code).isAlphanum →
      (Char.ofNat code).toUpper.isAlphanum := by decide
  obtain ⟨ts, hts, h⟩ := bind_eq_ok_iff.mp h
  cases h
  intro c hc
  obtain ⟨a, ha, hc⟩ := List.mem_flatMap.mp hc
  have halnum := hpayload a (mem_of_tokens hts ha)
  have hsmall : a.toNat < 128 := Text.toNat_lt_of_isAlphanum halnum
  rw [Text.upper_of_ascii hsmall, List.mem_singleton] at hc
  rw [hc]
  exact Text.forall_ascii (P := fun a => a.isAlphanum → a.toUpper.isAlphanum) hascii hsmall halnum

end RunLength

namespace Download

variable {d : Download}

theorem expansion_eq_error {reason : Fault} (h : d.expansion = .error reason) :
    (Cause.fault reason).kind = .decode := by
  rcases bind_eq_error_iff.mp h with h | ⟨data, -, h⟩
  · rcases bind_eq_error_iff.mp h with h | ⟨_, -, h⟩
    · obtain ⟨c, i, rfl⟩ := RunLength.tokens_eq_error h
      rfl
    · cases h
  · split at h
    · cases h
    · cases h
      rfl

theorem looksHexadecimal_of_no_line_end {data : Text} (h : '\n' ∉ data) :
    looksHexadecimal data = data.all StoredImage.isHexadecimal := by
  have hno : Text.dropEnding? ['\n'] data = none := by
    rw [Text.dropEnding?, if_neg]
    intro hsuffix
    obtain ⟨front, rfl⟩ := List.isSuffixOf_iff_suffix.mp hsuffix
    exact h (by simp)
  rw [looksHexadecimal, hno, Option.getD_none]

/-- The line end that the check of the digits lets through cannot stand there: a payload has
    letters and digits only. -/
theorem expansion_hexadecimal (hpayload : ∀ c ∈ d.payload, c.isAlphanum) {data : Text}
    (h : d.expansion = .ok data) : data.all StoredImage.isHexadecimal := by
  obtain ⟨expanded, hdecode, h⟩ := bind_eq_ok_iff.mp h
  have hno : '\n' ∉ expanded := fun hmem =>
    absurd (RunLength.isAlphanum_of_decode hpayload hdecode _ hmem) (by decide)
  rw [looksHexadecimal_of_no_line_end hno] at h
  split at h
  · next hall =>
    cases h
    exact hall
  · cases h

/-- What becomes of a download whose name can be an image's: a corrupt one is skipped. -/
theorem outcome_lenient (hname : d.name ≠ [] ∧ ∀ c ∈ d.name, Text.isWord c)
    (hpayload : ∀ c ∈ d.payload, c.isAlphanum) :
    d.outcome .lenient =
      .ok (match d.expansion with
        | .ok data => .stored ⟨d.name, data⟩
        | .error reason => .skipped reason) := by
  rw [outcome]
  cases h : d.expansion with
  | error reason => simp
  | ok data =>
    have hword : d.name.all Text.isWord := List.all_eq_true.mpr hname.2
    simp only [StoredImage.make]
    rw [if_neg (by simp [hname.1, hword]), if_neg (by simp [expansion_hexadecimal hpayload h])]
    rfl

end Download

/-! ## Commands -/

namespace Command

variable {stored : List Text} {origin : Origin} {later : List Command} {c : Command}

theorem integer?_eq_error {i : Nat} {reason : Fault} (h : c.integer? i = .error reason) :
    reason = .notInteger (c.parameter i) c.opcode c.params := by
  rw [integer?] at h
  split at h
  · cases h
  · split at h
    · cases h
    · cases h
      rfl

theorem barcodeData_eq_error {cause : Cause} (h : barcodeData later = .error cause) :
    cause = .noFieldData :=
  elim_eq_error h

/-- What can be wrong with a command that draws: a parameter that is no whole number, missing field
    data, or a name that is not stored. -/
inductive FigureError (c : Command) : Cause → Prop
  | parameter (i : Nat) : FigureError c (.fault (.notInteger (c.parameter i) c.opcode c.params))
  | noFieldData : FigureError c .noFieldData
  | notStored (name : Text) : FigureError c (.notStored name)

theorem figureError_of_figure :
    ∀ cause, c.figure stored origin later = .error cause → c.FigureError cause := by
  have hnumber : ∀ i cause, c.number i = .error cause → c.FigureError cause := by
    intro i cause h
    obtain ⟨reason, hreason, rfl⟩ := mapError_eq_error_iff.mp h
    rw [integer?_eq_error hreason]
    exact .parameter i
  have hbarcode : ∀ cause, barcodeData later = .error cause → c.FigureError cause := by
    intro cause h
    rw [barcodeData_eq_error h]
    exact .noFieldData
  cases hasked : c.instruction with
  | moveOrigin | fieldData | other =>
    rw [figure, hasked]
    intro cause h
    cases h
  | qrCode | barcode =>
    rw [figure, hasked]
    refine forall_error_bind hbarcode fun _ _ h => ?_
    cases h
  | box =>
    rw [figure_of_box hasked]
    refine forall_error_bind (hnumber 0) fun _ => forall_error_bind (hnumber 1) fun _ =>
      forall_error_bind (hnumber 2) fun _ _ h => ?_
    cases h
  | line =>
    rw [figure_of_line hasked]
    refine forall_error_bind (hnumber 0) fun _ => forall_error_bind (hnumber 1) fun _ =>
      forall_error_bind (hnumber 2) fun _ _ h => ?_
    cases h
  | circle =>
    rw [figure_of_circle hasked]
    refine forall_error_bind (hnumber 0) fun _ =>
      forall_error_bind (hnumber 1) fun _ _ h => ?_
    cases h
  | recallImage =>
    rw [figure, hasked]
    intro cause h
    dsimp only at h
    split at h
    · cases h
    · cases h
      exact .notStored _

theorem figure_error_kind {cause : Cause} (h : c.figure stored origin later = .error cause) :
    cause.kind = .malformed ∨ cause.kind = .reference := by
  cases figureError_of_figure cause h with
  | parameter => exact .inl rfl
  | noFieldData | notStored => exact .inr rfl

end Command

/-! ## The whole text -/

namespace Conversion

/-- A graphic is stored or reported as not decoded, and not both. -/
def GraphicAccounted (c : Conversion) (k : Nat) (d : Download) : Prop :=
  (∃ data, d.expansion = .ok data ∧
    c.imageOf? k = some ⟨d.name, data⟩ ∧ c.graphicReport? k = none) ∨
  ∃ reason, d.expansion = .error reason ∧ (Cause.fault reason).kind = .decode ∧
    c.imageOf? k = none ∧ c.graphicReport? k = some ⟨some k, d.name, .fault reason⟩

/-- A command that asks for a record has one or is reported, and not both; a move has no record
    and may be reported; any other command has neither. -/
structure CommandAccounted (c : Conversion) (i : Nat) (command : Command) : Prop where
  drawing : command.Draws →
    (∃ record, c.recordOf? i = some record ∧ c.commandReport? i = none) ∨
    ∃ cause, cause.kind ∈ [.position, .malformed, .reference] ∧
      c.recordOf? i = none ∧ c.commandReport? i = some ⟨some i, command.opcode, cause⟩
  move : command.opcode = ['F', 'O'] →
    c.recordOf? i = none ∧
      ∀ report, c.commandReport? i = some report →
        report.index = some i ∧ report.source = command.opcode ∧ report.kind = .malformed
  other : ¬ command.Draws → command.opcode ≠ ['F', 'O'] →
    c.recordOf? i = none ∧ c.commandReport? i = none

/-- All that a conversion writes and reports, item by item and in the order of the items. -/
structure Accounted (zpl : Text) (downloads : List Download) (c : Conversion) : Prop where
  graphics : ∀ (k : Nat) d, downloads[k]? = some d → c.GraphicAccounted k d
  layout : ∀ (i : Nat) command, (commands zpl)[i]? = some command → c.CommandAccounted i command
  script : c.script = ['\x02', 'L', '\r'] ++ c.config ++ '\r' ::
    ((List.range downloads.length).filterMap c.imageOf?).flatMap StoredImage.render ++
    ((List.range (commands zpl).length).filterMap c.recordOf?).flatMap Record.render ++ ['E', '\r']
  diagnostics : c.diagnostics =
    (List.range downloads.length).filterMap c.graphicReport? ++
      (if labelBlock? zpl = none then [blockDiagnostic] else []) ++
      (List.range (commands zpl).length).filterMap c.commandReport?
  graphicIndexes :
    (((List.range downloads.length).filterMap c.graphicReport?).filterMap
      Diagnostic.index).Pairwise (· < ·)
  layoutIndexes :
    (((List.range (commands zpl).length).filterMap c.commandReport?).filterMap
      Diagnostic.index).Pairwise (· < ·)

variable {config zpl : Text} {c : Conversion}

theorem graphicAccounted_of_outcome {downloads : List Download}
    (hall : Download.all zpl = .ok downloads) {k : Nat} {d : Download} (hd : d ∈ downloads)
    {outcome : GraphicOutcome} (houtcome : d.outcome .lenient = .ok outcome)
    (hat : c.graphics[k]? = some (d, outcome)) : c.GraphicAccounted k d := by
  rw [Download.outcome_lenient (Download.all_name hall hd) (Download.all_payload hall hd)]
    at houtcome
  cases houtcome
  cases h : d.expansion with
  | ok data =>
    rw [h] at hat
    refine .inl ⟨data, h, ?_, ?_⟩
    · rw [imageOf?, hat]
      rfl
    · rw [graphicReport?, hat]
      rfl
  | error reason =>
    rw [h] at hat
    refine .inr ⟨reason, h, Download.expansion_eq_error h, ?_, ?_⟩
    · rw [imageOf?, hat]
      rfl
    · rw [graphicReport?, hat]
      rfl

theorem commandAccounted_of_outcome {stored : List Text} {origin : Origin} {later : List Command}
    {i : Nat} {command : Command} {result : CommandOutcome} (hwritten : command.IsWritten)
    (houtcome : command.outcome stored origin later = .ok result)
    (hat : (c.layout.getD [])[i]? = some (command, result)) : c.CommandAccounted i command := by
  have hdraws := Command.draws_iff hwritten.opcode_length
  have hmoves := Command.instruction_eq_moveOrigin_iff (c := command)
  have hrecord := recordOf?_of_getElem? hat
  have hreport := commandReport?_of_getElem? hat
  rcases Command.outcome_cases houtcome with ⟨hmove, hm⟩ | ⟨hother, rfl⟩ | ⟨hdraw, hd⟩
  · have hnot : ¬ command.Draws := fun h => (hdraws.mp h).1 hmove
    have hopcode : command.opcode = ['F', 'O'] := hmoves.mp hmove
    refine ⟨fun h => absurd h hnot, fun _ => ⟨?_, fun report h => ?_⟩, fun _ h => absurd hopcode h⟩
    · rcases hm with ⟨moved, -, rfl⟩ | ⟨reason, -, rfl⟩
      · exact hrecord
      · exact hrecord
    · rw [hreport] at h
      rcases hm with ⟨moved, -, rfl⟩ | ⟨reason, hreason, rfl⟩
      · cases h
      · cases h
        rw [Origin.move_eq_error hreason]
        exact ⟨rfl, rfl, rfl⟩
  · have hnot : ¬ command.Draws := fun h => (hdraws.mp h).2 hother
    have hopcode : command.opcode ≠ ['F', 'O'] := by
      intro h
      rw [hmoves.mpr h] at hother
      cases hother
    exact ⟨fun h => absurd h hnot, fun h => absurd h hopcode, fun _ _ => ⟨hrecord, hreport⟩⟩
  · have hopcode : command.opcode ≠ ['F', 'O'] := fun h => hdraw.1 (hmoves.mpr h)
    have hdrawing : command.Draws := hdraws.mpr hdraw
    refine ⟨fun _ => ?_, fun h => absurd h hopcode, fun h => absurd hdrawing h⟩
    rcases hd with ⟨_, record, -, -, rfl⟩ | ⟨_, reason, -, hreason, rfl⟩ | ⟨cause, hcause, rfl⟩
    · exact .inl ⟨record, hrecord, hreport⟩
    · refine .inr ⟨.fault reason, ?_, hrecord, hreport⟩
      rcases Figure.isOfField_of_record reason hreason with h | h
      · rw [h]
        decide
      · rw [h]
        decide
    · refine .inr ⟨cause, ?_, hrecord, hreport⟩
      rcases Command.figure_error_kind hcause with h | h
      · rw [h]
        decide
      · rw [h]
        decide

/-- A lenient conversion accounts for every graphic and every command of its text. -/
theorem lenient_accounted (h : ofText .lenient config zpl = .ok c) :
    c.config = config ∧ ∃ downloads, Download.all zpl = .ok downloads ∧
      Accounted zpl downloads c := by
  obtain ⟨downloads, hall, hgraphics, hconfig, hblock, hlayout⟩ := ofText_eq_ok_iff.mp h
  obtain ⟨hgraphicsLength, hgraphicsAt⟩ := graphics_getElem? hgraphics
  obtain ⟨hlayoutLength, hlayoutAt⟩ := Command.outcomes_getElem? hlayout
  refine ⟨hconfig, downloads, hall, ?_, ?_, ?_, ?_, ?_, ?_⟩
  · intro k d hd
    obtain ⟨outcome, houtcome, hat⟩ := hgraphicsAt k d hd
    exact graphicAccounted_of_outcome hall (List.mem_of_getElem? hd) houtcome hat
  · intro i command hcommand
    obtain ⟨result, hat, houtcome⟩ := hlayoutAt i command hcommand
    exact commandAccounted_of_outcome (isWritten_of_mem_commands (List.mem_of_getElem? hcommand))
      houtcome hat
  · rw [← hgraphicsLength, ← hlayoutLength, ← images_eq, ← records_eq]
    rfl
  · rw [diagnostics_eq, hgraphicsLength, hlayoutLength]
    simp only [hblock]
  · exact indexes_increasing (fun _ _ => index_of_graphicReport?) _
  · exact indexes_increasing (fun _ _ => index_of_commandReport?) _

/-- A label text with a graphic that is stored and one that is corrupt, and with commands that
    draw, that move, that do neither and that are skipped. -/
def mixedLabel : Text :=
  "~DGR:A.GRF,1,1,GF~DGB,1,1,G^XA^FO1,2^FDhi^FS^GBx^BY2^BC^FO3^FD12^XGA^XGNO^XZ".toList

theorem exists_ofText_mixedLabel :
    ∃ c, ofText .lenient Label.defaultConfig mixedLabel = .ok c :=
  exists_of_isOk (by decide +kernel)

theorem lenient_accounted_of_mixedLabel :
    ∃ c, ofText .lenient Label.defaultConfig mixedLabel = .ok c ∧ c.config = Label.defaultConfig ∧
      ∃ downloads, Download.all mixedLabel = .ok downloads ∧ Accounted mixedLabel downloads c := by
  obtain ⟨c, h⟩ := exists_ofText_mixedLabel
  exact ⟨c, h, lenient_accounted h⟩

end Conversion

end ThermalLabel
