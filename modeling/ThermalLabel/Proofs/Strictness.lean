/-
  Strict and lenient conversions of one label text.

  A strict conversion does what a lenient one does until it meets a corrupt graphic, and ends there
  with the fault that the lenient one reports first (`strict_agrees_or_stops`). Only the outcome of
  a corrupt graphic depends on the strictness (`Download.outcome_strict`).
-/
import ThermalLabel.Proofs.Recalls

namespace ThermalLabel

/-! ## Graphics -/

/-- Why a graphic was skipped. -/
def GraphicOutcome.reason? : GraphicOutcome → Option Fault
  | stored _ => none
  | skipped reason => some reason

namespace Download

variable {d : Download} {outcome : GraphicOutcome}

/-- Where a lenient conversion skips a graphic, a strict one ends with the same fault. -/
theorem outcome_strict (h : d.outcome .lenient = .ok outcome) :
    d.outcome .strict = outcome.reason?.elim (.ok outcome) .error := by
  rw [Download.outcome] at h ⊢
  cases hexpansion : d.expansion with
  | ok data =>
    rw [hexpansion] at h
    obtain ⟨image, himage, rfl⟩ := map_eq_ok_iff.mp h
    exact h
  | error reason =>
    rw [hexpansion] at h
    cases h
    rfl

theorem outcome_lenient_of_strict (h : d.outcome .strict = .ok outcome) :
    d.outcome .lenient = .ok outcome := by
  rw [Download.outcome] at h ⊢
  cases hexpansion : d.expansion with
  | ok data =>
    rw [hexpansion] at h
    exact h
  | error reason =>
    rw [hexpansion] at h
    cases h

end Download

/-- A fault of another kind than malformed has the kind for its diagnostics. -/
theorem Cause.diagnosticKind?_of_kind {reason : Fault} {kind : DiagnosticKind}
    (h : (Cause.fault reason).kind = kind) (hkind : kind ≠ .malformed) :
    reason.diagnosticKind? = some kind := by
  rw [Cause.kind] at h
  cases hreason : reason.diagnosticKind? with
  | none =>
    rw [hreason] at h
    exact absurd h.symm hkind
  | some found =>
    rw [hreason] at h
    exact congrArg some h

/-! ## Commands -/

namespace Command

variable {stored : List Text} {origin : Origin} {later : List Command} {c : Command}

/-- A command is skipped for its position, for its parameters or for what it refers to. -/
theorem kind_of_outcome {cause : Cause}
    (h : c.outcome stored origin later = .ok (.skipped cause)) :
    cause.kind = .position ∨ cause.kind = .malformed ∨ cause.kind = .reference := by
  rcases outcome_cases h with ⟨-, ⟨_, -, h⟩ | ⟨reason, hmove, h⟩⟩ | ⟨-, h⟩ |
    ⟨-, ⟨_, _, -, -, h⟩ | ⟨figure, reason, -, hrecord, h⟩ | ⟨found, hfigure, h⟩⟩
  · cases h
  · cases h
    rw [Origin.move_eq_error hmove]
    exact .inr (.inl rfl)
  · cases h
  · cases h
  · cases h
    rcases Figure.isOfField_of_record reason hrecord with hkind | hkind
    · exact .inl hkind
    · exact .inr (.inl hkind)
  · cases h
    exact .inr (figure_error_kind hfigure)

/-- A command is never skipped for a graphic that does not expand. -/
theorem kind_ne_decode_of_outcome {cause : Cause}
    (h : c.outcome stored origin later = .ok (.skipped cause)) : cause.kind ≠ .decode := by
  intro hdecode
  rcases kind_of_outcome h with hkind | hkind | hkind <;> rw [hdecode] at hkind <;> cases hkind

end Command

/-! ## The whole text -/

namespace Conversion

variable {strictness : Strictness} {config zpl : Text} {c : Conversion}

/-- Why graphics were skipped, in their order. -/
def reasons (c : Conversion) : List Fault := c.graphics.filterMap fun g => g.2.reason?

/-- The diagnostics of graphics that do not expand. -/
def decodeReports (c : Conversion) : List Diagnostic :=
  c.diagnostics.filter fun report => report.kind = .decode

theorem kind_ne_decode_of_commandReport? (h : ofText strictness config zpl = .ok c) {i : Nat}
    {report : Diagnostic} (hreport : c.commandReport? i = some report) : report.kind ≠ .decode := by
  obtain ⟨downloads, -, -, -, -, hlayout⟩ := ofText_eq_ok_iff.mp h
  obtain ⟨hlength, hitems⟩ := Command.outcomes_getElem? hlayout
  obtain ⟨⟨command, outcome⟩, hat, hreport⟩ := Option.bind_eq_some_iff.mp hreport
  have hi : i < (commands zpl).length := hlength ▸ (List.getElem?_eq_some_iff.mp hat).1
  obtain ⟨result, hresult, houtcome⟩ := hitems i _ (List.getElem?_eq_getElem hi)
  rw [hat] at hresult
  cases hresult
  cases outcome with
  | drawn | moved | ignored => cases hreport
  | skipped cause =>
    cases hreport
    exact Command.kind_ne_decode_of_outcome houtcome

/-- The diagnostics of graphics that do not expand are those of the skipped graphics. -/
theorem decodeReports_eq (h : ofText strictness config zpl = .ok c) :
    c.decodeReports = (List.range c.graphics.length).filterMap c.graphicReport? := by
  obtain ⟨downloads, -, hgraphics, -⟩ := ofText_eq_ok_iff.mp h
  have hdecode : ((List.range c.graphics.length).filterMap c.graphicReport?).filter
      (fun report => report.kind = .decode) =
        (List.range c.graphics.length).filterMap c.graphicReport? := by
    refine List.filter_eq_self.mpr fun report hreport => ?_
    obtain ⟨k, -, hreport⟩ := List.mem_filterMap.mp hreport
    exact decide_eq_true (kind_of_graphicReport? hgraphics hreport)
  have hblock : (if c.layout = none then [blockDiagnostic] else []).filter
      (fun report => report.kind = .decode) = [] := by
    split
    · rfl
    · rfl
  have hlayout : ((List.range (c.layout.getD []).length).filterMap c.commandReport?).filter
      (fun report => report.kind = .decode) = [] := by
    refine List.filter_eq_nil_iff.mpr fun report hreport => ?_
    obtain ⟨i, -, hreport⟩ := List.mem_filterMap.mp hreport
    simp [kind_ne_decode_of_commandReport? h hreport]
  rw [decodeReports, diagnostics_eq, List.filter_append, List.filter_append, hdecode, hblock,
    hlayout, List.append_nil, List.append_nil]

theorem map_cause_decodeReports (h : ofText strictness config zpl = .ok c) :
    c.decodeReports.map Diagnostic.cause = c.reasons.map Cause.fault := by
  have hcause : ∀ g : (Download × GraphicOutcome) × Nat,
      (graphicDiagnostic? g.2 g.1).map Diagnostic.cause = g.1.2.reason?.map Cause.fault := by
    rintro ⟨⟨d, outcome⟩, k⟩
    cases outcome <;> rfl
  have hzip : (List.range c.graphics.length).filterMap c.graphicReport? =
      c.graphics.zipIdx.filterMap fun g => graphicDiagnostic? g.2 g.1 :=
    filterMap_range_bind _ _
  rw [decodeReports_eq h, hzip, List.map_filterMap, reasons, List.map_filterMap]
  simp only [hcause]
  exact filterMap_zipIdx_fst c.graphics fun g => g.2.reason?.map Cause.fault

/-- A strict conversion of a text that converts leniently ends with the fault of the first skipped
    graphic, and is the lenient one if there is none. -/
theorem ofText_strict (h : ofText .lenient config zpl = .ok c) :
    ofText .strict config zpl = c.reasons.head?.elim (.ok c) .error := by
  obtain ⟨downloads, hall, hgraphics, hrest⟩ := ofText_eq_ok_iff.mp h
  have hstep : ∀ (d : Download) (g : Download × GraphicOutcome),
      (do return (d, ← d.outcome .lenient)) = (.ok g : Except Fault (Download × GraphicOutcome)) →
      (do return (d, ← d.outcome .strict)) =
        (g.2.reason?.elim (.ok g) .error : Except Fault (Download × GraphicOutcome)) := by
    intro d g hg
    obtain ⟨outcome, houtcome, hpair⟩ := bind_eq_ok_iff.mp hg
    cases hpair
    rw [Download.outcome_strict houtcome]
    cases outcome.reason? <;> rfl
  have hstrict := mapM_of_stops hstep hgraphics
  rw [← List.head?_filterMap] at hstrict
  cases hreasons : c.reasons.head? with
  | none =>
    rw [reasons] at hreasons
    rw [hreasons] at hstrict
    exact ofText_eq_ok_iff.mpr ⟨downloads, hall, hstrict, hrest⟩
  | some reason =>
    rw [reasons] at hreasons
    rw [hreasons] at hstrict
    exact bind_eq_error_iff.mpr (.inr ⟨downloads, hall, bind_eq_error_iff.mpr (.inl hstrict)⟩)

theorem ofText_lenient_of_strict (h : ofText .strict config zpl = .ok c) :
    ofText .lenient config zpl = .ok c := by
  obtain ⟨downloads, hall, hgraphics, hrest⟩ := ofText_eq_ok_iff.mp h
  refine ofText_eq_ok_iff.mpr ⟨downloads, hall, mapM_ok_of_ok (fun d g hg => ?_) hgraphics, hrest⟩
  obtain ⟨outcome, houtcome, hpair⟩ := bind_eq_ok_iff.mp hg
  exact bind_eq_ok_iff.mpr ⟨outcome, Download.outcome_lenient_of_strict houtcome, hpair⟩

/-- A strict conversion differs from a lenient one only by failing: on a text that converts
    leniently it makes the same label with the same diagnostics if no graphic is reported as not
    decoded, and else it ends with the fault that is reported first. Where it makes a label, the
    lenient one makes the same. -/
theorem strict_agrees_or_stops (config zpl : Text) :
    (∀ c, ofText .lenient config zpl = .ok c →
      (c.decodeReports = [] → ofText .strict config zpl = .ok c) ∧
      ∀ report others, c.decodeReports = report :: others →
        ∃ reason, ofText .strict config zpl = .error reason ∧
          reason.diagnosticKind? = some .decode ∧ reason.message = report.message) ∧
    ∀ c, ofText .strict config zpl = .ok c → ofText .lenient config zpl = .ok c := by
  refine ⟨fun c h => ⟨fun hnone => ?_, fun report others hreports => ?_⟩,
    fun c => ofText_lenient_of_strict⟩
  · have hcauses := map_cause_decodeReports h
    rw [hnone, List.map_nil, eq_comm, List.map_eq_nil_iff] at hcauses
    rw [ofText_strict h, hcauses]
    rfl
  · have hcauses := map_cause_decodeReports h
    rw [hreports, List.map_cons, eq_comm, List.map_eq_cons_iff] at hcauses
    obtain ⟨reason, reasons, hreasons, hcause, -⟩ := hcauses
    have hmem : report ∈ c.decodeReports := by
      rw [hreports]
      exact List.mem_cons_self
    have hkind := of_decide_eq_true (List.mem_filter.mp hmem).2
    rw [Diagnostic.kind, ← hcause] at hkind
    refine ⟨reason, ?_, Cause.diagnosticKind?_of_kind hkind DiagnosticKind.noConfusion, ?_⟩
    · rw [ofText_strict h, hreasons]
      rfl
    · rw [Diagnostic.message, ← hcause]
      rfl

/-- The label text with a corrupt graphic, and one of its graphics alone. -/
theorem strict_agrees_or_stops_of_mixedLabel :
    (∃ c, ofText .lenient Label.defaultConfig mixedLabel = .ok c ∧
      c.decodeReports.map Diagnostic.message =
        ["count character 'G' at offset 0 has no data character"] ∧
      ∃ reason, ofText .strict Label.defaultConfig mixedLabel = .error reason ∧
        reason.message = "count character 'G' at offset 0 has no data character") ∧
    ∃ c, ofText .strict Label.defaultConfig "~DGA,1,1,GF^XA^XGA^XZ".toList = .ok c ∧
      ofText .lenient Label.defaultConfig "~DGA,1,1,GF^XA^XGA^XZ".toList = .ok c := by
  obtain ⟨c, h⟩ := exists_ofText_mixedLabel
  obtain ⟨plain, hplain⟩ : ∃ c, ofText .strict Label.defaultConfig
      "~DGA,1,1,GF^XA^XGA^XZ".toList = .ok c := exists_of_isOk (by decide +kernel)
  have hmessages : (ofText .lenient Label.defaultConfig mixedLabel).map
      (fun c => c.decodeReports.map Diagnostic.message) =
        .ok ["count character 'G' at offset 0 has no data character"] := by decide +kernel
  rw [h] at hmessages
  have hreports := Except.ok.inj hmessages
  refine ⟨⟨c, h, hreports, ?_⟩, plain, hplain,
    (strict_agrees_or_stops Label.defaultConfig _).2 plain hplain⟩
  obtain ⟨report, others, hlist, hmessage, -⟩ := List.map_eq_cons_iff.mp hreports
  obtain ⟨reason, hstrict, -, hsame⟩ :=
    ((strict_agrees_or_stops Label.defaultConfig mixedLabel).1 c h).2 report others hlist
  exact ⟨reason, hstrict, hsame.trans hmessage⟩

end Conversion

end ThermalLabel
