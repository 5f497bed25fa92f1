/-
  What the log of a command line tells, and that asking for more of it changes nothing else.

  A quiet run that succeeds logs its diagnostics, one line each and nothing beside them, because
  all that a delivery without a fault logs is for debugging. A run that fails behind its input has
  logged its diagnostics before (`diagnostics_prefix`). A flag for a verbose run in front of a
  command line sets nothing but that the run is verbose (`parse_verbose`), and no part of a run but
  its log depends on that (`logs_diagnostics`).
-/
import ThermalLabel.Proofs.CommandLine.Running
import ThermalLabel.Proofs.Reporting

namespace ThermalLabel

namespace Arguments

/-! ## One more flag -/

/-- The argument that asks for a verbose run. -/
def verboseFlag : Text := "-v".toList

/-- The same arguments of a verbose run. -/
def loud (a : Arguments) : Arguments := { a with verbose := true }

/-- The same values of a verbose run. -/
def Collected.loud (c : Collected) : Collected := { c with rest := c.rest.loud }

theorem Collected.setValue_loud (c : Collected) (value : Text) (o : CommandOption) :
    c.loud.setValue value o = loud <$> c.setValue value o := by
  cases o with
  | service =>
    unfold setValue
    cases givenValue value with
    | none => rfl
    | some given =>
      cases Numeral.integer? value with
      | none => rfl
      | some n => rfl
  | help | output | host | strict | encoding | verbose => rfl

theorem Collected.setFlag_loud (c : Collected) (o : CommandOption) :
    c.loud.setFlag o = loud <$> c.setFlag o := by
  cases o <;> rfl

theorem Collected.setFlags_loud (c : Collected) (flags : List CommandOption) :
    c.loud.setFlags flags = loud <$> c.setFlags flags := by
  unfold setFlags
  induction flags generalizing c with
  | nil => rfl
  | cons o flags ih =>
    rw [List.foldlM_cons, List.foldlM_cons, setFlag_loud, map_bind, bind_map_left]
    exact bind_congr ih

theorem Collected.setGroup_loud (c : Collected) (g : Group) :
    c.loud.setGroup g = (fun r => (r.1.loud, r.2)) <$> c.setGroup g := by
  unfold setGroup
  cases g with
  | flags flags => simp only [setFlags_loud, map_bind, bind_map_left, map_pure]
  | waiting flags last => rfl
  | value flags last v =>
    simp only [setFlags_loud, setValue_loud, map_bind, bind_map_left, map_pure]

/-- Arguments set the same values and have the same faults whether the run is verbose or not. -/
theorem collect_loud (c : Collected) (waiting : Option Waiting) (words : List Word) :
    collect c.loud waiting words = Collected.loud <$> collect c waiting words := by
  fun_induction collect c waiting words with
  | case1 c waiting hwaiting =>
    rw [collect, if_pos hwaiting]
    rfl
  | case2 c waiting hwaiting =>
    rw [collect, if_neg hwaiting]
    rfl
  | case3 c rest w t ih =>
    rw [collect, Collected.setFlags_loud]
    simp only [Collected.setValue_loud, map_bind, bind_map_left, ih]
  | case4 c word rest w hword =>
    rw [collect]
    · rfl
    · exact hword
  | case5 c rest t hinput ih =>
    rw [← ih, collect.eq_def]
    exact if_pos hinput
  | case6 c t hinput rest ih =>
    rw [← ih]
    exact if_neg hinput
  | case7 c t hinput rest hrest ih =>
    rw [← ih, collect]
    · exact if_neg hinput
    · exact hrest
  | case8 c rest ih => exact ih
  | case9 c rest ih => exact ih
  | case10 c rest o short joined ih =>
    rw [collect]
    simp only [Collected.setGroup_loud, map_bind, bind_map_left, ih]
  | case11 c rest o short hvalue ih => rw [← ih, collect, if_pos hvalue]
  | case12 c rest o short hvalue ih =>
    rw [collect, if_neg hvalue, Collected.setFlag_loud, map_bind, bind_map_left]
    exact bind_congr ih

theorem classify_verboseFlag : classify verboseFlag = .ok (.option .verbose true none) := by
  decide

/-- The flag in front asks for the same, in a verbose run. -/
theorem parse_verbose (argv : List Text) : parse (verboseFlag :: argv) = loud <$> parse argv := by
  unfold parse
  rw [classifyAll, if_neg (by decide), classify_verboseFlag, ok_bind]
  cases classifyAll argv with
  | error reason => rfl
  | ok words =>
    show collect Collected.start.loud none words >>= _ = _ <$> (collect .start none words >>= _)
    rw [collect_loud, bind_map_left, map_bind]
    refine bind_congr fun c => ?_
    obtain ⟨input, excess, rest⟩ := c
    cases input with
    | none => rfl
    | some input =>
      cases excess with
      | true => rfl
      | false => rfl

/-! ## The log of a delivery -/

theorem isShown_failureLines (reason : DeliveryFault) :
    (failureLines reason).filter (LogLine.isShown false) = failureLines reason := by
  unfold failureLines
  split <;> rfl

theorem connectLines_quiet (host : Text) (service : Option Int) (failure : List LogLine) :
    (connectLines host service failure).filter (LogLine.isShown false) =
      failure.filter (LogLine.isShown false) := by
  unfold connectLines
  rw [List.filter_append]
  exact List.append_nil _

theorem sendLines_quiet (script : Text) (failure : List LogLine) :
    (sendLines script failure).filter (LogLine.isShown false) =
      failure.filter (LogLine.isShown false) := by
  unfold sendLines
  rw [List.filter_append]
  exact List.append_nil _

/-- But for its failure, all that a connection logs is for debugging. -/
theorem deliveryLog_tcp_quiet (script host : Text) (service : Option Int)
    (timeout : Option Number) (fault : Option DeliveryFault) :
    (deliveryLog script fault (.tcp host service timeout)).filter (LogLine.isShown false) =
      fault.elim [] failureLines := by
  unfold deliveryLog
  cases fault with
  | none =>
    dsimp only
    rw [List.filter_append, connectLines_quiet, sendLines_quiet]
    rfl
  | some reason =>
    dsimp only
    split
    · exact (connectLines_quiet host service _).trans (isShown_failureLines _)
    · exact (connectLines_quiet host service _).trans (isShown_failureLines _)
    · exact (connectLines_quiet host service _).trans (isShown_failureLines _)
    · rw [List.filter_append, connectLines_quiet, sendLines_quiet]
      exact isShown_failureLines reason

/-- All that a delivery without a fault logs is for debugging. -/
theorem deliveryLog_quiet (script : Text) (p : Printer) :
    (deliveryLog script none p).filter (LogLine.isShown false) = [] := by
  cases p with
  | console => rfl
  | file path mode => rfl
  | tcp host service timeout => exact deliveryLog_tcp_quiet script host service timeout none

/-! ## The log of a job -/

/-- The log of a job begins with what was reported, as far as the conversion came. -/
theorem prefix_job (a : Arguments) (zpl : Text) :
    (Conversion.untilFault a.strictness Label.defaultConfig zpl).log <+: (a.job zpl).log := by
  unfold job
  dsimp only
  split
  · split
    · exact List.prefix_rfl
    · exact List.prefix_append _ _
  · split
    · exact List.prefix_append _ _
    · exact List.prefix_rfl

end Arguments

/-- A diagnostic as standard error has it. -/
def Diagnostic.logText (report : Diagnostic) : String :=
  (if report.kind = .decode then "ERROR" else "WARNING") ++ " zpl2dpl.converter: " ++
    report.logMessage ++ "\n"

theorem Diagnostic.render_logLine (report : Diagnostic) :
    report.logLine.render = report.logText := by
  unfold LogLine.render logLine logText
  by_cases hkind : report.kind = .decode
  · rw [if_pos hkind, if_pos hkind]
    rfl
  · rw [if_neg hkind, if_neg hkind]
    rfl

theorem LogLine.render_of_hidden {line : LogLine} (h : line.isShown false = false) :
    ∃ rest, line.render = "DEBUG " ++ rest := by
  have hlevel : line.level = .debug := by
    unfold isShown at h
    simpa using h
  refine ⟨loggerName line.logger ++ ": " ++ line.message ++ "\n", ?_⟩
  unfold render
  rw [hlevel]
  simp only [String.append_assoc]
  rfl

namespace RunResult

variable {argv : List Text} {s : Surroundings}

/-! ## The log of a run -/

/-- The log of a run has one line for each diagnostic, in their order: an error for each corrupt
    graphic, a warning for everything else. -/
structure TellsDiagnostics (diagnostics : List Diagnostic) (r : RunResult) : Prop where
  lines : r.log = diagnostics.map Diagnostic.logLine
  levels : r.log.map LogLine.level =
    diagnostics.map fun d => if d.kind = .decode then LogLevel.error else .warning
  /-- This is all that standard error has. -/
  text : r.logText = String.join (diagnostics.map Diagnostic.logText)

/-- The verbose run is the other one but for its log, and that has only more lines for
    debugging. -/
structure DiffersInDebugging (r verbose : RunResult) : Prop where
  ending : verbose.ending = r.ending
  shown : verbose.shown = r.shown
  network : verbose.network = r.network
  files : verbose.files = r.files
  deposit : verbose.deposit = r.deposit
  /-- No line is lost, and their order is the same. -/
  kept : r.log.Sublist verbose.log
  /-- Each line that is added is for debugging. -/
  added : verbose.log.filter (LogLine.isShown false) = r.log.filter (LogLine.isShown false)
  /-- Standard error has the records of the verbose run without some, which begin with their
      level. -/
  text : ∃ records : List (String × Bool),
    verbose.logText = String.join (records.map Prod.fst) ∧
      r.logText = String.join ((records.filter Prod.snd).map Prod.fst) ∧
      ∀ record ∈ records, record.2 = false → ∃ rest, record.1 = "DEBUG " ++ rest

/-- The log of a run that has its label text, beside all other results. -/
theorem log_of_reads {a : Arguments} {zpl : Text} (hparse : Arguments.parse argv = .ok a)
    (hreads : a.Reads s zpl) :
    (ofCommandLine argv s).log =
      (ofJob s (a.job zpl)).log.filter (LogLine.isShown a.verbose) := by
  unfold ofCommandLine ofArguments
  rw [hparse]
  dsimp only
  rw [Arguments.text_eq_ok_iff.mpr hreads]

theorem prefix_ofJob (s : Surroundings) (job : Job) : job.log <+: (ofJob s job).log := by
  unfold ofJob
  split
  · exact List.prefix_rfl
  · exact List.prefix_rfl
  · exact List.prefix_append _ _

theorem filter_isShown (verbose : Bool) (log : List LogLine) :
    (log.filter (LogLine.isShown verbose)).filter (LogLine.isShown false) =
      log.filter (LogLine.isShown false) := by
  rw [List.filter_filter]
  refine List.filter_congr fun line _ => ?_
  -- what a quiet run shows, every run shows
  cases verbose with
  | false => exact Bool.and_self _
  | true => exact Bool.and_true _

/-- Whatever ends a run that has its label text, the diagnostics up to there are logged first. -/
theorem diagnostics_prefix {a : Arguments} {zpl : Text} (hparse : Arguments.parse argv = .ok a)
    (hreads : a.Reads s zpl) :
    (Conversion.untilFault a.strictness Label.defaultConfig zpl).diagnostics.map
        Diagnostic.logLine <+:
      (ofCommandLine argv s).log.filter (LogLine.isShown false) := by
  rw [log_of_reads hparse hreads, filter_isShown, ← Conversion.log_untilFault]
  exact ((Arguments.prefix_job a zpl).trans (prefix_ofJob s (a.job zpl))).filter _

theorem log_of_success {a : Arguments} {zpl : Text} {c : Conversion}
    (hparse : Arguments.parse argv = .ok a) (hreads : a.Reads s zpl)
    (hconversion : Conversion.ofText a.strictness Label.defaultConfig zpl = .ok c)
    (h : (ofCommandLine argv s).ending = .ok 0) :
    (ofCommandLine argv s).log =
      (c.log ++ Arguments.deliveryLog c.script none a.printer).filter
        (LogLine.isShown a.verbose) := by
  rcases undelivered_or_delivered argv s with
    ⟨ending, log, hrun, hzero, -⟩ |
    ⟨a', zpl', c', log, hparse', hreads', hconversion', hbytes, hrun⟩
  · rw [hrun] at h
    exact absurd h hzero
  · obtain rfl := Except.ok.inj (hparse'.symm.trans hparse)
    have htext := Arguments.text_eq_ok_iff.mpr hreads
    obtain rfl := Except.ok.inj ((Arguments.text_eq_ok_iff.mpr hreads').symm.trans htext)
    obtain rfl := Except.ok.inj (hconversion'.symm.trans hconversion)
    rw [hrun] at h
    rw [log_of_reads hparse hreads, Arguments.job_of_script hconversion hbytes]
    unfold ofJob delivered
    dsimp only
    rw [(ending_eq_ok_iff.mp h).2]

theorem tells_of_quiet {a : Arguments} (hparse : Arguments.parse argv = .ok a)
    (hquiet : a.verbose = false) (h : (ofCommandLine argv s).ending = .ok 0) :
    ∃ zpl c, a.Reads s zpl ∧
      Conversion.ofText a.strictness Label.defaultConfig zpl = .ok c ∧
      TellsDiagnostics c.diagnostics (ofCommandLine argv s) := by
  rcases undelivered_or_delivered argv s with
    ⟨ending, log, hrun, hzero, -⟩ | ⟨a', zpl, c, -, hparse', hreads, hconversion, -, -⟩
  · rw [hrun] at h
    exact absurd h hzero
  · obtain rfl := Except.ok.inj (hparse'.symm.trans hparse)
    have hlog := log_of_success hparse hreads hconversion h
    rw [hquiet, List.filter_append, Arguments.deliveryLog_quiet, List.append_nil,
      Conversion.log_eq_diagnostics hconversion] at hlog
    refine ⟨zpl, c, hreads, hconversion, hlog, ?_, ?_⟩
    · rw [hlog, List.map_map]
      rfl
    · rw [logText, hlog, List.map_map]
      exact congrArg String.join (List.map_congr_left fun d _ => d.render_logLine)

theorem differs_verbose (argv : List Text) (s : Surroundings) :
    DiffersInDebugging (ofCommandLine argv s)
      (ofCommandLine (Arguments.verboseFlag :: argv) s) := by
  unfold ofCommandLine
  rw [Arguments.parse_verbose]
  cases Arguments.parse argv with
  | error reason =>
    exact ⟨rfl, rfl, rfl, rfl, rfl, List.Sublist.refl _, rfl, [], rfl, rfl, by simp⟩
  | ok a =>
    show DiffersInDebugging _
      { ofArguments a s with log := (ofArguments a s).log.filter (LogLine.isShown true) }
    have hall : ∀ log : List LogLine, log.filter (LogLine.isShown true) = log :=
      fun log => List.filter_eq_self.mpr fun _ _ => rfl
    rw [hall]
    refine ⟨rfl, rfl, rfl, rfl, rfl, List.filter_sublist, (filter_isShown _ _).symm,
      (ofArguments a s).log.map fun line => (line.render, line.isShown a.verbose), ?_, ?_, ?_⟩
    · rw [List.map_map]
      rfl
    · rw [List.filter_map, List.map_map]
      rfl
    · intro record hrecord hhidden
      obtain ⟨line, -, rfl⟩ := List.mem_map.mp hrecord
      have hquiet : line.isShown false = false := (Bool.or_eq_false_iff.mp hhidden).2
      exact LogLine.render_of_hidden hquiet

/-- A quiet run that succeeds logs its diagnostics and nothing else, every other run that has its
    label text logs them first, and the flag for a verbose run in front of a command line adds lines
    for debugging and changes nothing else. -/
theorem logs_diagnostics (argv : List Text) (s : Surroundings) :
    (∀ a, Arguments.parse argv = .ok a → a.verbose = false →
        (ofCommandLine argv s).ending = .ok 0 →
        ∃ zpl c, a.Reads s zpl ∧
          Conversion.ofText a.strictness Label.defaultConfig zpl = .ok c ∧
          TellsDiagnostics c.diagnostics (ofCommandLine argv s)) ∧
      (∀ a zpl, Arguments.parse argv = .ok a → a.Reads s zpl →
        (Conversion.untilFault a.strictness Label.defaultConfig zpl).diagnostics.map
            Diagnostic.logLine <+:
          (ofCommandLine argv s).log.filter (LogLine.isShown false)) ∧
      DiffersInDebugging (ofCommandLine argv s)
        (ofCommandLine (Arguments.verboseFlag :: argv) s) :=
  ⟨fun _ hparse hquiet h => tells_of_quiet hparse hquiet h,
    fun _ _ hparse hreads => diagnostics_prefix hparse hreads, differs_verbose argv s⟩

theorem logs_diagnostics_of_hostAndFile :
    (∃ zpl c, Conversion.ofText .lenient Label.defaultConfig zpl = .ok c ∧
        TellsDiagnostics c.diagnostics (ofCommandLine hostAndFile labelFile) ∧
        c.diagnostics.length = 3) ∧
      (ofCommandLine hostAndFile labelFile).log.Sublist
        (ofCommandLine (Arguments.verboseFlag :: hostAndFile) labelFile).log := by
  have hzero : (ofCommandLine hostAndFile labelFile).ending = .ok 0 := by decide +kernel
  have hlevels : (ofCommandLine hostAndFile labelFile).log.map LogLine.level =
      [.error, .warning, .warning] := by decide +kernel
  obtain ⟨htells, -, hdiffers⟩ := logs_diagnostics hostAndFile labelFile
  obtain ⟨zpl, c, -, hconversion, hlog⟩ := htells _ parse_hostAndFile rfl hzero
  have hlength := congrArg List.length (hlog.levels.symm.trans hlevels)
  rw [List.length_map] at hlength
  exact ⟨⟨zpl, c, hconversion, hlog, hlength⟩, hdiffers.kept⟩

end RunResult

end ThermalLabel
