/-
  The log of a conversion tells its diagnostics.

  What is reported is logged at the same place, a corrupt graphic as an error and everything else as
  a warning. Beside that only commands that ask for nothing are logged, for debugging. So without
  the lines for debugging the log is the list of the diagnostics, each as its line
  (`log_eq_diagnostics`). A conversion that ends in a fault has logged in the same way what it
  reported before (`log_untilFault`).
-/
import ThermalLabel.Proofs.Strictness

namespace ThermalLabel

namespace Diagnostic

/-- What the log says about a diagnostic. -/
def logMessage (report : Diagnostic) : String :=
  match report.cause with
  | .noLabelBlock => "No ^XA...^XZ label block found"
  | .noFieldData => "^" ++ Text.shown report.source ++ " has no field data"
  | .notStored name => "^XG recalls unknown graphic " ++ Text.shown name
  | cause =>
    (if report.kind = .decode then "Skipping graphic " else "Skipping ^") ++
      Text.shown report.source ++ ": " ++ cause.message

/-- The log line of a diagnostic. -/
def logLine (report : Diagnostic) : LogLine :=
  ⟨if report.kind = .decode then .error else .warning, .conversion, report.logMessage⟩

theorem isShown_logLine (report : Diagnostic) (verbose : Bool) :
    report.logLine.isShown verbose = true := by
  have hlevel : report.logLine.level ≠ .debug := by
    unfold logLine
    dsimp only
    split <;> exact LogLevel.noConfusion
  simp [LogLine.isShown, hlevel]

end Diagnostic

namespace Conversion

/-! ## One item -/

theorem graphicLine?_eq {strictness : Strictness} {d : Download} {outcome : GraphicOutcome}
    (h : d.outcome strictness = .ok outcome) (k : Nat) :
    graphicLine? (d, outcome) = (graphicDiagnostic? k (d, outcome)).map Diagnostic.logLine := by
  rcases Download.outcome_cases h with ⟨data, -, rfl⟩ | ⟨reason, hreason, rfl⟩
  · rfl
  · have hkind : (Diagnostic.mk (some k) d.name (.fault reason)).kind = .decode :=
      Download.expansion_eq_error hreason
    rw [graphicLine?, graphicDiagnostic?, Option.map_some, Diagnostic.logLine,
      Diagnostic.logMessage, if_pos hkind, if_pos hkind]
    rfl

theorem skippedLine_eq {c : Command} {cause : Cause} (i : Nat)
    (h : cause.kind = .position ∨ cause.kind = .malformed ∨ cause.kind = .reference) :
    skippedLine c cause = (Diagnostic.mk (some i) c.opcode cause).logLine := by
  have hkind : (Diagnostic.mk (some i) c.opcode cause).kind ≠ .decode := by
    intro hdecode
    rcases h with hkind | hkind | hkind <;> exact absurd (hdecode.symm.trans hkind) (by decide)
  rw [Diagnostic.logLine, Diagnostic.logMessage, if_neg hkind]
  cases cause with
  | noFieldData | notStored => rfl
  | noLabelBlock => rcases h with hkind | hkind | hkind <;> cases hkind
  | fault | nameTaken | cancelled =>
    dsimp only
    rw [if_neg hkind]
    rfl

/-- Of the lines of a command one is for debugging, and the others are those of its diagnostic. -/
theorem commandLine?_eq {stored : List Text} {origin : Origin} {later : List Command} {c : Command}
    {result : CommandOutcome} (h : c.outcome stored origin later = .ok result) (i : Nat) :
    (commandLine? (c, result)).filter (LogLine.isShown false) =
      (commandDiagnostic? i (c, result)).map Diagnostic.logLine := by
  cases result with
  | drawn | moved | ignored => rfl
  | skipped cause =>
    have hline := skippedLine_eq (c := c) i (Command.kind_of_outcome h)
    rw [commandLine?, commandDiagnostic?, Option.map_some, hline, Option.filter_some,
      if_pos (Diagnostic.isShown_logLine _ false)]

/-! ## The whole text -/

variable {strictness : Strictness} {config zpl : Text} {c : Conversion}

theorem graphicLines_eq {graphics : List (Download × GraphicOutcome)}
    (h : ∀ g ∈ graphics, g.1.outcome strictness = .ok g.2) :
    (graphics.filterMap graphicLine?).filter (LogLine.isShown false) =
      (graphics.zipIdx.filterMap fun g => graphicDiagnostic? g.2 g.1).map Diagnostic.logLine := by
  rw [List.map_filterMap, List.filter_filterMap, ← filterMap_zipIdx_fst]
  refine List.filterMap_congr fun g hg => ?_
  obtain ⟨⟨d, outcome⟩, k⟩ := g
  rw [graphicLine?_eq (h _ (List.fst_mem_of_mem_zipIdx hg)) k]
  cases graphicDiagnostic? k (d, outcome) with
  | none => rfl
  | some report => exact Option.filter_some_pos (Diagnostic.isShown_logLine report false)

theorem commandLines_eq {results : List (Command × CommandOutcome)}
    (h : ∀ l ∈ results, ∃ stored origin later, l.1.outcome stored origin later = .ok l.2) :
    (results.filterMap commandLine?).filter (LogLine.isShown false) =
      (results.zipIdx.filterMap fun l => commandDiagnostic? l.2 l.1).map Diagnostic.logLine := by
  rw [List.map_filterMap, List.filter_filterMap, ← filterMap_zipIdx_fst]
  refine List.filterMap_congr fun l hl => ?_
  obtain ⟨⟨command, result⟩, i⟩ := l
  obtain ⟨stored, origin, later, houtcome⟩ := h _ (List.fst_mem_of_mem_zipIdx hl)
  exact commandLine?_eq houtcome i

/-- What became of the items of a text, as far as the conversion came. -/
structure Ran (strictness : Strictness) (c : Conversion) : Prop where
  graphics : ∀ g ∈ c.graphics, g.1.outcome strictness = .ok g.2
  layout : ∀ results, c.layout = some results →
    ∀ l ∈ results, ∃ stored origin later, l.1.outcome stored origin later = .ok l.2

theorem log_of_ran (h : Ran strictness c) :
    c.log.filter (LogLine.isShown false) = c.diagnostics.map Diagnostic.logLine := by
  rw [log, diagnostics, List.filter_append, List.map_append, graphicLines_eq h.graphics]
  congr 1
  cases hlayout : c.layout with
  | none => rfl
  | some results => exact commandLines_eq (h.layout results hlayout)

end Conversion

/-! ### Up to a fault -/

namespace Download

variable {strictness : Strictness} {downloads : List Download}

theorem outcome_of_mem_beforeFault {g : Download × GraphicOutcome}
    (h : g ∈ outcomesBeforeFault strictness downloads) : g.1.outcome strictness = .ok g.2 := by
  induction downloads with
  | nil => cases h
  | cons d later ih =>
    rw [outcomesBeforeFault] at h
    split at h
    · next hresult =>
      rcases List.mem_cons.mp h with rfl | h
      · exact hresult
      · exact ih h
    · cases h

/-- Without a fault there is an outcome for each download. -/
theorem outcomesBeforeFault_eq {graphics : List (Download × GraphicOutcome)}
    (h : downloads.mapM (fun d => do return (d, ← d.outcome strictness)) = .ok graphics) :
    outcomesBeforeFault strictness downloads = graphics := by
  induction downloads generalizing graphics with
  | nil =>
    cases h
    rfl
  | cons d later ih =>
    obtain ⟨g, hg, rest, hrest, rfl⟩ := mapM_cons_eq_ok_iff.mp h
    obtain ⟨result, hresult, hpair⟩ := bind_eq_ok_iff.mp hg
    cases hpair
    rw [outcomesBeforeFault, hresult]
    exact congrArg _ (ih hrest)

end Download

namespace Command

variable {stored : List Text} {origin : Origin} {commands : List Command}

theorem outcome_of_mem_beforeFault {l : Command × CommandOutcome}
    (h : l ∈ outcomesBeforeFault stored origin commands) :
    ∃ origin later, l.1.outcome stored origin later = .ok l.2 := by
  induction commands generalizing origin with
  | nil => cases h
  | cons c later ih =>
    rw [outcomesBeforeFault] at h
    split at h
    · next hresult =>
      rcases List.mem_cons.mp h with rfl | h
      · exact ⟨origin, later, hresult⟩
      · exact ih h
    · cases h

/-- Without a fault there is an outcome for each command. -/
theorem outcomesBeforeFault_eq {results : List (Command × CommandOutcome)}
    (h : outcomes stored origin commands = .ok results) :
    outcomesBeforeFault stored origin commands = results := by
  induction commands generalizing origin results with
  | nil =>
    cases h
    rfl
  | cons c later ih =>
    rw [outcomes] at h
    obtain ⟨result, hresult, h⟩ := bind_eq_ok_iff.mp h
    obtain ⟨others, hothers, h⟩ := bind_eq_ok_iff.mp h
    cases h
    rw [outcomesBeforeFault, hresult]
    exact congrArg _ (ih hothers)

end Command

namespace Conversion

variable {strictness : Strictness} {config zpl : Text} {c : Conversion}

theorem untilFault_of_block {downloads : List Download} (hall : Download.all zpl = .ok downloads)
    (hgraphics : downloads.mapM (fun d => do return (d, ← d.outcome strictness)) = .ok c.graphics) :
    untilFault strictness config zpl =
      match labelBlock? zpl with
      | none => ⟨config, c.graphics, none⟩
      | some block =>
        ⟨config, c.graphics,
          some (Command.outcomesBeforeFault c.storedNames .initial (Command.parse block))⟩ := by
  unfold untilFault
  rw [hall]
  dsimp only
  rw [Download.outcomesBeforeFault_eq hgraphics,
    if_neg (Nat.not_lt.mpr (mapM_getElem? hgraphics).1.ge)]
  cases labelBlock? zpl with
  | none => rfl
  | some block =>
    dsimp only
    rw [storedNames_eq]

/-- A conversion without a fault is all of it. -/
theorem untilFault_eq (h : ofText strictness config zpl = .ok c) :
    untilFault strictness config zpl = c := by
  obtain ⟨downloads, hall, hgraphics, hconfig, hnone, hlayout⟩ := ofText_eq_ok_iff.mp h
  rw [untilFault_of_block hall hgraphics]
  obtain ⟨config', graphics, layout⟩ := c
  obtain rfl : config' = config := hconfig
  cases hblock : labelBlock? zpl with
  | none =>
    obtain rfl : layout = none := hnone.mpr hblock
    rfl
  | some block =>
    cases layout with
    | none =>
      have hmissing := hnone.mp rfl
      rw [hblock] at hmissing
      cases hmissing
    | some results =>
      rw [commands, hblock] at hlayout
      exact congrArg (fun results => Conversion.mk config' graphics (some results))
        (Command.outcomesBeforeFault_eq hlayout)

theorem ran_untilFault (strictness : Strictness) (config zpl : Text) :
    Ran strictness (untilFault strictness config zpl) := by
  unfold untilFault
  split
  · exact ⟨by simp, by simp⟩
  · next downloads hall =>
    have hgraphics := @Download.outcome_of_mem_beforeFault strictness downloads
    dsimp only
    split
    · exact ⟨fun g => hgraphics, by simp⟩
    · split
      · exact ⟨fun g => hgraphics, by simp⟩
      · next block hblock =>
        refine ⟨fun g => hgraphics, fun results hresults l hl => ?_⟩
        cases hresults
        exact ⟨_, Command.outcome_of_mem_beforeFault hl⟩

/-- Without its lines for debugging the log is the list of the diagnostics, as far as the conversion
    came. -/
theorem log_untilFault (strictness : Strictness) (config zpl : Text) :
    (untilFault strictness config zpl).log.filter (LogLine.isShown false) =
      (untilFault strictness config zpl).diagnostics.map Diagnostic.logLine :=
  log_of_ran (ran_untilFault strictness config zpl)

/-- Without its lines for debugging the log of a whole conversion is the list of the diagnostics. -/
theorem log_eq_diagnostics (h : ofText strictness config zpl = .ok c) :
    c.log.filter (LogLine.isShown false) = c.diagnostics.map Diagnostic.logLine := by
  rw [← untilFault_eq h]
  exact log_untilFault strictness config zpl

end Conversion

end ThermalLabel
