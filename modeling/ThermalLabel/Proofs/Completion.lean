/-
  When a lenient conversion ends with a label.

  It does unless a header of a download has a number of more digits than are read, or a command
  has a size that is out of the range of doubles (`lenient_completes_iff`). Every other problem is
  reported, and the graphic or the command that has it is skipped.
-/
import ThermalLabel.Proofs.Accounting
import ThermalLabel.Proofs.Overflow

namespace ThermalLabel

namespace Conversion

/-- What is wrong with a command is reported, and the command has no record. -/
structure CommandReported (c : Conversion) (origin : Origin) (later : List Command) (i : Nat)
    (command : Command) : Prop where
  move : ∀ reason, command.opcode = ['F', 'O'] → origin.move command = .error reason →
    c.recordOf? i = none ∧ c.commandReport? i = some ⟨some i, command.opcode, .fault reason⟩
  figure : ∀ cause, command.figure c.storedNames origin later = .error cause →
    c.recordOf? i = none ∧ c.commandReport? i = some ⟨some i, command.opcode, cause⟩
  record : ∀ drawn reason, command.figure c.storedNames origin later = .ok (some drawn) →
    drawn.record = .error reason →
    c.recordOf? i = none ∧ c.commandReport? i = some ⟨some i, command.opcode, .fault reason⟩

/-- Every problem of a graphic or of a command is reported. -/
structure Reported (zpl : Text) (downloads : List Download) (c : Conversion) : Prop where
  graphics : ∀ (k : Nat) d reason, downloads[k]? = some d → d.expansion = .error reason →
    c.imageOf? k = none ∧ c.graphicReport? k = some ⟨some k, d.name, .fault reason⟩
  layout : ∀ (i : Nat) command, (commands zpl)[i]? = some command →
    c.CommandReported (Origin.initial.along ((commands zpl).take i)) ((commands zpl).drop (i + 1))
      i command

variable {config zpl : Text} {c : Conversion}

theorem commandReported_of_outcome {origin : Origin} {later : List Command} {i : Nat}
    {command : Command} {result : CommandOutcome}
    (houtcome : command.outcome c.storedNames origin later = .ok result)
    (hat : (c.layout.getD [])[i]? = some (command, result)) :
    c.CommandReported origin later i command := by
  have hskipped : ∀ cause, result = .skipped cause →
      c.recordOf? i = none ∧ c.commandReport? i = some ⟨some i, command.opcode, cause⟩ := by
    rintro cause rfl
    exact ⟨recordOf?_of_getElem? hat, commandReport?_of_getElem? hat⟩
  have hmoves := Command.instruction_eq_moveOrigin_iff (c := command)
  have hno : command.figure c.storedNames origin later ≠ .ok none →
      command.instruction ≠ .moveOrigin :=
    fun h hmove => h (Command.figure_eq_none_iff.mpr (.inl hmove))
  refine ⟨fun reason hopcode hmove => ?_, fun cause hfigure => ?_,
    fun drawn reason hfigure hrecord => ?_⟩
  · rw [Command.outcome_of_moveOrigin (hmoves.mpr hopcode), hmove] at houtcome
    cases houtcome
    exact hskipped _ rfl
  · rw [Command.outcome_of_figure (hno (by simp [hfigure])), hfigure] at houtcome
    cases houtcome
    exact hskipped _ rfl
  · rw [Command.outcome_of_figure (hno (by simp [hfigure])), hfigure] at houtcome
    dsimp only at houtcome
    rw [hrecord] at houtcome
    dsimp only at houtcome
    rw [Command.ofFault_map_skipped] at houtcome
    split at houtcome
    · cases houtcome
      exact hskipped _ rfl
    · cases houtcome

theorem reported_of_ok (h : ofText .lenient config zpl = .ok c) :
    ∃ downloads, Download.all zpl = .ok downloads ∧ Reported zpl downloads c := by
  obtain ⟨downloads, hall, hgraphics, -, -, hlayout⟩ := ofText_eq_ok_iff.mp h
  refine ⟨downloads, hall, fun k d reason hd hreason => ?_, fun i command hcommand => ?_⟩
  · obtain ⟨outcome, houtcome, hat⟩ := (graphics_getElem? hgraphics).2 k d hd
    rcases graphicAccounted_of_outcome hall (List.mem_of_getElem? hd) houtcome hat with
      ⟨data, hdata, -⟩ | ⟨found, hfound, -, himage, hreport⟩
    · rw [hreason] at hdata
      cases hdata
    · rw [hreason] at hfound
      cases hfound
      exact ⟨himage, hreport⟩
  · obtain ⟨result, hat, houtcome⟩ := (Command.outcomes_getElem? hlayout).2 i command hcommand
    exact commandReported_of_outcome houtcome hat

/-- A graphic alone does not end a lenient conversion. -/
theorem exists_graphics {downloads : List Download} (hall : Download.all zpl = .ok downloads) :
    ∃ graphics,
      downloads.mapM (fun d => do return (d, ← d.outcome .lenient)) =
        (.ok graphics : Except Fault (List (Download × GraphicOutcome))) := by
  rw [exists_mapM_ok_iff]
  intro d hd
  rw [Download.outcome_lenient (Download.all_name hall hd) (Download.all_payload hall hd)]
  exact ⟨_, rfl⟩

theorem exists_ofText_ok {downloads : List Download} (hall : Download.all zpl = .ok downloads)
    (houtcomes : ∀ stored, ∃ results,
      Command.outcomes stored .initial (commands zpl) = .ok results) :
    ∃ c, ofText .lenient config zpl = .ok c := by
  obtain ⟨graphics, hgraphics⟩ := exists_graphics hall
  obtain ⟨results, hresults⟩ :=
    houtcomes (graphics.filterMap fun g => g.2.image?.map StoredImage.name)
  cases hblock : labelBlock? zpl with
  | none =>
    refine ⟨⟨config, graphics, none⟩,
      ofText_eq_ok_iff.mpr ⟨downloads, hall, hgraphics, rfl, ?_, ?_⟩⟩
    · simp [hblock]
    · rw [commands, hblock]
      rfl
  | some block =>
    refine ⟨⟨config, graphics, some results⟩,
      ofText_eq_ok_iff.mpr ⟨downloads, hall, hgraphics, rfl, ?_, ?_⟩⟩
    · simp [hblock]
    · rw [storedNames_eq]
      exact hresults

theorem exists_outcomes_ok_iff_not_overflows {stored : List Text} {list : List Command} :
    (∃ results, Command.outcomes stored .initial list = .ok results) ↔
      ∀ (i : Nat) command, list[i]? = some command →
        ¬ command.Overflows (Origin.initial.along (list.take i)) := by
  rw [Command.exists_outcomes_ok_iff]
  refine forall_congr' fun i => forall_congr' fun command => imp_congr_right fun _ => ?_
  have hmeasured := Origin.isMeasured_along Origin.isMeasured_initial (list.take i)
  rw [exists_ok_iff]
  simp only [ne_eq, Command.outcome_eq_error_iff_overflows hmeasured]
  exact ⟨fun h ho => h _ ⟨ho, rfl⟩, fun h _ ho => h ho.1⟩

theorem exists_all_ok_iff :
    (∃ downloads, Download.all zpl = .ok downloads) ↔
      ∀ s ∈ Download.sources zpl,
        s.totalBytes.length ≤ Numeral.digitLimit ∧ s.bytesPerRow.length ≤ Numeral.digitLimit := by
  rw [Download.all, exists_mapM_ok_iff]
  simp only [Download.Source.exists_read_ok_iff]

theorem ofText_lenient_eq_error {reason : Fault} (h : ofText .lenient config zpl = .error reason) :
    reason = .outOfRange ∨ ∃ count, Numeral.digitLimit < count ∧ reason = .tooManyDigits count := by
  rcases bind_eq_error_iff.mp h with h | ⟨downloads, hall, h⟩
  · obtain ⟨s, -, hread⟩ := mapM_eq_error h
    exact .inr (Download.Source.read_eq_error reason hread)
  obtain ⟨graphics, hgraphics⟩ := exists_graphics hall
  rw [hgraphics] at h
  rcases bind_eq_error_iff.mp h with h | ⟨_, -, h⟩
  · cases h
  · split at h
    · cases h
    · rcases bind_eq_error_iff.mp h with h | ⟨_, -, h⟩
      · obtain ⟨i, command, -, hend⟩ := Command.outcomes_eq_error h
        have hmeasured := Origin.isMeasured_along Origin.isMeasured_initial
        exact .inl ((Command.outcome_eq_error_iff_overflows (hmeasured _)).mp hend).2
      · cases h

/-- A lenient conversion ends with a label exactly if no number of a download has too many digits
    and no command overflows. It has no other fault, and a label comes with a report of every
    other problem. -/
theorem lenient_completes_iff (config zpl : Text) :
    ((∃ c, ofText .lenient config zpl = .ok c) ↔
      (∀ s ∈ Download.sources zpl,
        s.totalBytes.length ≤ Numeral.digitLimit ∧ s.bytesPerRow.length ≤ Numeral.digitLimit) ∧
      ∀ (i : Nat) command, (commands zpl)[i]? = some command →
        ¬ command.Overflows (Origin.initial.along ((commands zpl).take i))) ∧
    (∀ reason, ofText .lenient config zpl = .error reason →
      reason = .outOfRange ∨
        ∃ count, Numeral.digitLimit < count ∧ reason = .tooManyDigits count) ∧
    ∀ c, ofText .lenient config zpl = .ok c →
      ∃ downloads, Download.all zpl = .ok downloads ∧ Reported zpl downloads c := by
  refine ⟨?_, fun _ => ofText_lenient_eq_error, fun _ => reported_of_ok⟩
  rw [← exists_all_ok_iff]
  constructor
  · rintro ⟨c, h⟩
    obtain ⟨downloads, hall, -, -, -, hlayout⟩ := ofText_eq_ok_iff.mp h
    exact ⟨⟨downloads, hall⟩, exists_outcomes_ok_iff_not_overflows.mp ⟨_, hlayout⟩⟩
  · rintro ⟨⟨downloads, hall⟩, hno⟩
    exact exists_ofText_ok hall fun _ => exists_outcomes_ok_iff_not_overflows.mpr hno

/-- A circle of more dots than a double counts ends the conversion. -/
theorem not_completes_of_huge_circle :
    ¬ ∃ c, ofText .lenient Label.defaultConfig
      ("^XA^GC".toList ++ List.replicate 310 '9' ++ "^XZ".toList) = .ok c := by
  have herror : (match ofText .lenient Label.defaultConfig
      ("^XA^GC".toList ++ List.replicate 310 '9' ++ "^XZ".toList) with
      | .error reason => some reason
      | .ok _ => none) = some .outOfRange := by decide +kernel
  rintro ⟨c, h⟩
  rw [h] at herror
  cases herror

end Conversion

end ThermalLabel
