/-
  What a run of the command line leaves behind.

  A run ends in one of six ways, and in five of them it leaves its log and nothing else (`course`).
  A run that succeeds has read its label text, converted it and delivered the whole job to one
  place, the first of host, output file and console that is asked for (`delivers_once`). A run
  that ends before its delivery has no half job anywhere, and once it delivers, the job can be sent
  and the connection is closed (`fails_clean`). All of it holds for every system that keeps files,
  for all codecs and for every standard input.
-/
import ThermalLabel.CommandLine.Run
import ThermalLabel.Encoding.Charset
import ThermalLabel.Proofs.Completion
import ThermalLabel.Proofs.Delivery.Sending
import ThermalLabel.Proofs.Encoding.Reading
import ThermalLabel.Proofs.Reporting

namespace ThermalLabel

/-! ## Input -/

namespace Surroundings

variable {s : Surroundings}

theorem stream_of_file {path encoding : Text} {stream : TextStream} :
    s.stream (.file path encoding) = .ok stream ↔
      ∃ bytes codec, s.system.find s.files path = .ok bytes ∧ s.codecs encoding = some codec ∧
        .ofFile bytes codec = stream := by
  rw [Surroundings.stream]
  constructor
  · intro h
    obtain ⟨bytes, hfound, h⟩ := bind_eq_ok_iff.mp h
    obtain ⟨codec, hknown, h⟩ := bind_eq_ok_iff.mp h
    obtain ⟨_, hcodec, rfl⟩ := elim_eq_ok_iff.mp hknown
    cases h
    exact ⟨bytes, _, mapError_eq_ok_iff.mp hfound, hcodec, rfl⟩
  · rintro ⟨bytes, codec, hfound, hcodec, rfl⟩
    rw [mapError_eq_ok_iff.mpr hfound, ok_bind, hcodec]
    rfl

end Surroundings

namespace Arguments

variable {a : Arguments} {s : Surroundings} {zpl : Text}

/-- The label text that is read: what the standard input gives, or the lines of the file, in the
    codec that has the name of the encoding. -/
inductive Reads (a : Arguments) (s : Surroundings) : Text → Prop
  | standardInput {t : Text} (input : a.input = standardInputName)
      (given : s.standardInput.Gives t) : Reads a s t
  | file {name : Text} {codec : Codec} {bytes : Bytes} {raw t : Text}
      (input : a.input ≠ standardInputName) (encoding : a.encoding = some name)
      (plain : '\x00' ∉ name) (known : s.codecs name = some codec)
      (found : s.system.find s.files a.input = .ok bytes) (decoded : codec bytes = some raw)
      (lines : SameLines raw t) : Reads a s t

/-- What is known of a label text beside that it is read: the codec of UTF-8 reads a text from its
    encoding only, and line ends are unified. -/
structure ReadsLines (a : Arguments) (s : Surroundings) (zpl : Text) : Prop where
  standardInput : a.input = standardInputName → s.standardInput.unifies = true →
    s.standardInput.codec = Utf8.decode? →
    ∃ raw, Utf8.encode raw = s.standardInput.bytes ∧ SameLines raw zpl
  file : a.input ≠ standardInputName → ∀ name bytes, a.encoding = some name →
    s.codecs name = some Utf8.decode? → s.system.find s.files a.input = .ok bytes →
    ∃ raw, Utf8.encode raw = bytes ∧ SameLines raw zpl
  /-- No carriage return is left, whatever the codec. -/
  unified : (a.input = standardInputName → s.standardInput.unifies = true) → '\r' ∉ zpl

theorem encodingName_eq_ok_iff {name : Text} :
    a.encodingName = .ok name ↔ a.encoding = some name ∧ '\x00' ∉ name := by
  unfold encodingName
  cases a.encoding with
  | none => simp
  | some given =>
    by_cases hnull : given.contains '\x00' = true
    · simp only [if_pos hnull, Option.some.injEq, reduceCtorEq, false_iff]
      rintro ⟨rfl, hplain⟩
      exact hplain (List.contains_iff_mem.mp hnull)
    · simp only [if_neg hnull, Except.ok.injEq, Option.some.injEq]
      constructor
      · rintro rfl
        exact ⟨rfl, fun hmem => hnull (List.contains_iff_mem.mpr hmem)⟩
      · rintro ⟨rfl, -⟩
        rfl

theorem source_of_standardInput (h : a.input = standardInputName) :
    a.source = .ok .standardInput := by
  unfold source
  exact if_pos h

theorem source_of_file (h : a.input ≠ standardInputName) :
    a.source = (a.encodingName >>= fun name => .ok (.file a.input name)) := by
  unfold source
  exact if_neg h

theorem stream_eq_ok_iff {stream : TextStream} :
    (a.source >>= s.stream) = .ok stream ↔
      (a.input = standardInputName ∧ s.standardInput = stream) ∨
        a.input ≠ standardInputName ∧ ∃ name bytes codec, a.encoding = some name ∧
          '\x00' ∉ name ∧ s.codecs name = some codec ∧
          s.system.find s.files a.input = .ok bytes ∧ .ofFile bytes codec = stream := by
  by_cases hinput : a.input = standardInputName
  · rw [source_of_standardInput hinput, ok_bind]
    simp [hinput, Surroundings.stream]
  · rw [source_of_file hinput]
    simp only [hinput, false_and, false_or, ne_eq, not_false_eq_true, true_and]
    constructor
    · intro h
      obtain ⟨input, hsource, h⟩ := bind_eq_ok_iff.mp h
      obtain ⟨name, hname, hfile⟩ := bind_eq_ok_iff.mp hsource
      cases hfile
      obtain ⟨hencoding, hplain⟩ := encodingName_eq_ok_iff.mp hname
      obtain ⟨bytes, codec, hfound, hcodec, hstream⟩ := Surroundings.stream_of_file.mp h
      exact ⟨name, bytes, codec, hencoding, hplain, hcodec, hfound, hstream⟩
    · rintro ⟨name, bytes, codec, hencoding, hplain, hcodec, hfound, hstream⟩
      rw [encodingName_eq_ok_iff.mpr ⟨hencoding, hplain⟩, ok_bind, ok_bind]
      exact Surroundings.stream_of_file.mpr ⟨bytes, codec, hfound, hcodec, hstream⟩

theorem text_eq_ok_iff : a.text s = .ok zpl ↔ a.Reads s zpl := by
  have htext : a.text s = .ok zpl ↔
      ∃ stream, (a.source >>= s.stream) = .ok stream ∧ stream.Gives zpl := by
    unfold text
    rw [← bind_assoc, bind_eq_ok_iff]
    refine exists_congr fun stream => and_congr_right fun _ => ?_
    rw [elim_eq_ok_iff, ← TextStream.text?_eq_some_iff]
    simp only [exists_eq_right]
  rw [htext]
  constructor
  · rintro ⟨stream, hstream, hgives⟩
    rcases stream_eq_ok_iff.mp hstream with
      ⟨hinput, rfl⟩ | ⟨hinput, name, bytes, codec, hencoding, hplain, hcodec, hfound, rfl⟩
    · exact .standardInput hinput hgives
    · cases hgives with
      | unified _ hraw hlines => exact .file hinput hencoding hplain hcodec hfound hraw hlines
      | plain hkept => cases hkept
  · rintro (⟨hinput, hgives⟩ | ⟨hinput, hencoding, hplain, hcodec, hfound, hraw, hlines⟩)
    · exact ⟨_, stream_eq_ok_iff.mpr (.inl ⟨hinput, rfl⟩), hgives⟩
    · exact ⟨_, stream_eq_ok_iff.mpr
        (.inr ⟨hinput, _, _, _, hencoding, hplain, hcodec, hfound, rfl⟩), .unified rfl hraw hlines⟩

theorem Reads.readsLines (h : a.Reads s zpl) : a.ReadsLines s zpl := by
  cases h with
  | standardInput hinput hgives =>
    refine ⟨fun _ hunifies hcodec => hgives.lines_of_utf8 hunifies hcodec,
      fun hfile => absurd hinput hfile, fun hunifies => ?_⟩
    cases hgives with
    | unified _ _ hlines => exact hlines.not_mem
    | plain hplain =>
      rw [hunifies hinput] at hplain
      cases hplain
  | file hinput hencoding hplain hcodec hfound hraw hlines =>
    refine ⟨fun hstandard => absurd hstandard hinput, fun _ name bytes hname hutf8 hbytes => ?_,
      fun _ => hlines.not_mem⟩
    obtain rfl := Option.some.inj (hencoding.symm.trans hname)
    obtain rfl := Option.some.inj (hcodec.symm.trans hutf8)
    obtain rfl := Except.ok.inj (hfound.symm.trans hbytes)
    exact ⟨_, Utf8.decode?_eq_some_iff.mp hraw, hlines⟩

/-! ### Faults of the input -/

theorem encodingName_ne_delivery (fault : DeliveryFault) :
    ∀ reason, a.encodingName = .error reason → reason ≠ .delivery fault := by
  intro reason h
  unfold encodingName at h
  split at h
  · cases h
    exact RunFault.noConfusion
  · split at h
    · cases h
      exact RunFault.noConfusion
    · cases h

theorem source_ne_delivery (fault : DeliveryFault) :
    ∀ reason, a.source = .error reason → reason ≠ .delivery fault := by
  by_cases hinput : a.input = standardInputName
  · intro reason h
    rw [source_of_standardInput hinput] at h
    cases h
  · rw [source_of_file hinput]
    exact forall_error_bind (encodingName_ne_delivery fault) fun name reason h => by cases h

theorem stream_ne_delivery (fault : DeliveryFault) (input : Input) :
    ∀ reason, s.stream input = .error reason → reason ≠ .delivery fault := by
  cases input with
  | standardInput =>
    intro reason h
    cases h
  | file path encoding =>
    rw [Surroundings.stream]
    refine forall_error_bind ?_ fun bytes => forall_error_bind ?_ fun codec reason h => ?_
    · intro reason h
      obtain ⟨found, -, rfl⟩ := mapError_eq_error_iff.mp h
      exact RunFault.noConfusion
    · intro reason h
      rw [elim_eq_error h]
      exact RunFault.noConfusion
    · cases h

/-- What keeps the input from being read is no fault of a delivery. -/
theorem text_ne_delivery {reason : RunFault} (h : a.text s = .error reason)
    (fault : DeliveryFault) : reason ≠ .delivery fault := by
  refine forall_error_bind (source_ne_delivery fault) (fun input =>
    forall_error_bind (stream_ne_delivery fault input) fun stream reason hdecode => ?_) reason h
  rw [elim_eq_error hdecode]
  exact RunFault.noConfusion

/-! ## Job and printer -/

/-- Only a strict conversion is ended by a corrupt graphic. -/
theorem strict_of_decode {strictness : Strictness} {config : Text} {reason : Fault}
    (h : Conversion.ofText strictness config zpl = .error reason)
    (hkind : reason.diagnosticKind? = some .decode) : strictness = .strict := by
  cases strictness with
  | strict => rfl
  | lenient =>
    rcases Conversion.ofText_lenient_eq_error h with rfl | ⟨count, -, rfl⟩
    · cases hkind
    · cases hkind

theorem job_of_corrupt {reason : Fault}
    (h : Conversion.ofText a.strictness Label.defaultConfig zpl = .error reason)
    (hkind : reason.diagnosticKind? = some .decode) :
    a.job zpl = ⟨(Conversion.untilFault a.strictness Label.defaultConfig zpl).log ++
      [corruptLine reason], .refuse⟩ := by
  unfold job
  rw [h]
  exact if_pos hkind

theorem job_of_fault {reason : Fault}
    (h : Conversion.ofText a.strictness Label.defaultConfig zpl = .error reason)
    (hkind : reason.diagnosticKind? ≠ some .decode) :
    a.job zpl =
      ⟨(Conversion.untilFault a.strictness Label.defaultConfig zpl).log, .fail reason⟩ := by
  unfold job
  rw [h]
  exact if_neg hkind

theorem job_of_unencodable {c : Conversion}
    (h : Conversion.ofText a.strictness Label.defaultConfig zpl = .ok c)
    (hbytes : ¬ c.script.all Latin1.isEncodable) :
    a.job zpl = ⟨c.log ++ [unencodableLine c.script], .refuse⟩ := by
  unfold job
  rw [h, Conversion.untilFault_eq h]
  exact if_neg hbytes

theorem job_of_script {c : Conversion}
    (h : Conversion.ofText a.strictness Label.defaultConfig zpl = .ok c)
    (hbytes : c.script.all Latin1.isEncodable) :
    a.job zpl = ⟨c.log, .deliver c.script a.printer⟩ := by
  unfold job
  rw [h, Conversion.untilFault_eq h]
  exact if_pos hbytes

theorem printer_of_host (h : a.host.getD [] ≠ []) :
    a.printer = .tcp (a.host.getD []) a.service (some timeout) := by
  unfold printer
  split
  · contradiction
  · contradiction
  · rfl

theorem printer_of_output (h : a.host.getD [] = []) (hpath : a.output.getD [] ≠ []) :
    a.printer = .file (a.output.getD []) FileMode.default := by
  unfold printer
  split
  · contradiction
  · rfl
  · contradiction

theorem printer_of_neither (h : a.host.getD [] = []) (hpath : a.output.getD [] = []) :
    a.printer = .console := by
  unfold printer
  rw [h, hpath]

end Arguments

/-- The fault ends a run before its delivery. That help is asked for is no fault. -/
def RunFault.isEarly : RunFault → Bool
  | .arguments .help | .delivery _ => false
  | _ => true

namespace RunResult

variable {argv : List Text} {s : Surroundings}

/-! ## The ways in which a run ends -/

/-- What a delivery leaves of a run with some log. -/
def afterDelivery (log : List LogLine) (d : Delivery) : RunResult :=
  ⟨d.fault.elim (.ok 0) fun reason => .error (.delivery reason), log, d.shown, d.network, d.files,
    d.deposit⟩

/-- Every way in which a run of a command line ends. The log is left open. -/
inductive Course (argv : List Text) (s : Surroundings) : RunResult → Prop
  /-- The arguments are in error, or help was asked for. -/
  | misread {reason : ArgumentsFault} {log : List LogLine}
      (parsed : Arguments.parse argv = .error reason) :
      Course argv s (undelivered s (.error (.arguments reason)) log)
  /-- There is no label text. -/
  | unread {a : Arguments} {reason : RunFault} {log : List LogLine}
      (parsed : Arguments.parse argv = .ok a) (text : a.text s = .error reason) :
      Course argv s (undelivered s (.error reason) log)
  /-- The conversion ended for another reason than a corrupt graphic. -/
  | unconverted {a : Arguments} {zpl : Text} {reason : Fault} {log : List LogLine}
      (parsed : Arguments.parse argv = .ok a) (text : a.text s = .ok zpl)
      (conversion : Conversion.ofText a.strictness Label.defaultConfig zpl = .error reason)
      (kind : reason.diagnosticKind? ≠ some .decode) :
      Course argv s (undelivered s (.error (.conversion reason)) log)
  /-- A corrupt graphic ended the conversion. -/
  | corrupt {a : Arguments} {zpl : Text} {reason : Fault} {log : List LogLine}
      (parsed : Arguments.parse argv = .ok a) (text : a.text s = .ok zpl)
      (conversion : Conversion.ofText a.strictness Label.defaultConfig zpl = .error reason)
      (kind : reason.diagnosticKind? = some .decode) :
      Course argv s (undelivered s (.ok 1) log)
  /-- A character of the job has no byte. -/
  | unencodable {a : Arguments} {zpl : Text} {c : Conversion} {log : List LogLine}
      (parsed : Arguments.parse argv = .ok a) (text : a.text s = .ok zpl)
      (conversion : Conversion.ofText a.strictness Label.defaultConfig zpl = .ok c)
      (bytes : ¬ c.script.all Latin1.isEncodable) :
      Course argv s (undelivered s (.ok 1) log)
  /-- The job was delivered, or the delivery failed. -/
  | delivered {a : Arguments} {zpl : Text} {c : Conversion} {log : List LogLine}
      (parsed : Arguments.parse argv = .ok a) (text : a.text s = .ok zpl)
      (conversion : Conversion.ofText a.strictness Label.defaultConfig zpl = .ok c)
      (bytes : c.script.all Latin1.isEncodable) :
      Course argv s
        (afterDelivery log (Session.deliver s.system s.network s.files [c.script] a.printer))

theorem course (argv : List Text) (s : Surroundings) : Course argv s (ofCommandLine argv s) := by
  unfold ofCommandLine
  cases hparse : Arguments.parse argv with
  | error reason => exact .misread hparse
  | ok a =>
    dsimp only
    unfold ofArguments
    cases htext : a.text s with
    | error reason => exact .unread hparse htext
    | ok zpl =>
      dsimp only
      cases hconversion : Conversion.ofText a.strictness Label.defaultConfig zpl with
      | error reason =>
        by_cases hkind : reason.diagnosticKind? = some .decode
        · rw [Arguments.job_of_corrupt hconversion hkind]
          exact .corrupt hparse htext hconversion hkind
        · rw [Arguments.job_of_fault hconversion hkind]
          exact .unconverted hparse htext hconversion hkind
      | ok c =>
        by_cases hbytes : c.script.all Latin1.isEncodable = true
        · rw [Arguments.job_of_script hconversion hbytes]
          exact .delivered hparse htext hconversion hbytes
        · rw [Arguments.job_of_unencodable hconversion hbytes]
          exact .unencodable hparse htext hconversion hbytes

theorem ending_eq_ok_iff {log : List LogLine} {d : Delivery} {code : Nat} :
    (afterDelivery log d).ending = .ok code ↔ code = 0 ∧ d.fault = none := by
  unfold afterDelivery
  cases d.fault with
  | none => simp [eq_comm]
  | some fault => simp

theorem ending_eq_error_iff {log : List LogLine} {d : Delivery} {reason : RunFault} :
    (afterDelivery log d).ending = .error reason ↔
      ∃ fault, d.fault = some fault ∧ .delivery fault = reason := by
  unfold afterDelivery
  cases d.fault with
  | none => simp
  | some fault => simp

theorem early_of_error {reason : RunFault} (h : ∀ fault, reason ≠ .delivery fault) :
    (.error reason : Except RunFault Nat) ≠ .ok 0 ∧
      ∀ fault, (.error reason : Except RunFault Nat) ≠ .error (.delivery fault) := by
  constructor
  · intro heq
    cases heq
  · intro fault heq
    exact h fault (Except.error.inj heq)

theorem early_of_one :
    (.ok 1 : Except RunFault Nat) ≠ .ok 0 ∧
      ∀ fault, (.ok 1 : Except RunFault Nat) ≠ .error (.delivery fault) := by
  constructor
  · intro heq
    cases heq
  · intro fault heq
    cases heq

/-- A run ends before its delivery, or it delivers a job that can be sent. -/
theorem undelivered_or_delivered (argv : List Text) (s : Surroundings) :
    (∃ ending log, ofCommandLine argv s = undelivered s ending log ∧ ending ≠ .ok 0 ∧
        ∀ fault, ending ≠ .error (.delivery fault)) ∨
      ∃ a zpl c log, Arguments.parse argv = .ok a ∧ a.Reads s zpl ∧
        Conversion.ofText a.strictness Label.defaultConfig zpl = .ok c ∧
        c.script.all Latin1.isEncodable ∧
        ofCommandLine argv s =
          afterDelivery log (Session.deliver s.system s.network s.files [c.script] a.printer) := by
  have hcourse := course argv s
  generalize ofCommandLine argv s = r at hcourse
  cases hcourse with
  | misread => exact .inl ⟨_, _, rfl, early_of_error fun _ => RunFault.noConfusion⟩
  | unread _ htext => exact .inl ⟨_, _, rfl, early_of_error (Arguments.text_ne_delivery htext)⟩
  | unconverted => exact .inl ⟨_, _, rfl, early_of_error fun _ => RunFault.noConfusion⟩
  | corrupt => exact .inl ⟨_, _, rfl, early_of_one⟩
  | unencodable => exact .inl ⟨_, _, rfl, early_of_one⟩
  | delivered hparse htext hconversion hbytes =>
    exact .inr ⟨_, _, _, _, hparse, Arguments.text_eq_ok_iff.mp htext, hconversion, hbytes, rfl⟩

/-! ## Success -/

/-- The job is at the one place that is asked for first, and there is no trace of it elsewhere. -/
structure DeliveredOnce (a : Arguments) (s : Surroundings) (script : Text) (bytes : Bytes)
    (r : RunResult) : Prop where
  /-- The job is sent to the host in one sending, even if an output file is named. -/
  host : a.host.getD [] ≠ [] →
    r.network = [.connect (a.host.getD []) a.service (some (.integer 5)), .send bytes, .close] ∧
      r.shown = [] ∧ r.files = s.files ∧ r.deposit = none
  /-- The job is all that is in the output file. -/
  output : a.host.getD [] = [] → a.output.getD [] ≠ [] →
    Session.StoredAt s.system s.files (a.output.getD []) bytes r.files r.deposit ∧ r.shown = [] ∧
      r.network = []
  /-- The job is shown, with a line end behind it. -/
  console : a.host.getD [] = [] → a.output.getD [] = [] →
    r.shown = script ++ ['\n'] ∧ r.network = [] ∧ r.files = s.files ∧ r.deposit = none

theorem deliveredOnce_of_fault {a : Arguments} {script : Text} {bytes : Bytes}
    {log : List LogLine} (hbytes : Latin1.encode? script = some bytes) (hne : bytes ≠ [])
    (hfault : (Session.deliver s.system s.network s.files [script] a.printer).fault = none) :
    DeliveredOnce a s script bytes
      (afterDelivery log (Session.deliver s.system s.network s.files [script] a.printer)) := by
  constructor
  case host =>
    intro hhost
    rw [Arguments.printer_of_host hhost] at hfault ⊢
    exact ⟨Session.overNetwork_job hbytes hfault, rfl, rfl, rfl⟩
  case output =>
    intro hhost hpath
    rw [Arguments.printer_of_output hhost hpath] at hfault ⊢
    obtain ⟨hnetwork, hshown⟩ :=
      Session.quiet_toFile s.system s.files (a.output.getD []) FileMode.default [script]
    exact ⟨Session.toFile_job hbytes hne hfault, hshown, hnetwork⟩
  case console =>
    intro hhost hpath
    rw [Arguments.printer_of_neither hhost hpath]
    exact ⟨List.append_nil _, rfl, rfl, rfl⟩

/-- A run that succeeds has delivered the whole job of its label text to one place. -/
theorem delivers_once (argv : List Text) (s : Surroundings)
    (h : (ofCommandLine argv s).ending = .ok 0) :
    ∃ a zpl c bytes, Arguments.parse argv = .ok a ∧ a.Reads s zpl ∧ a.ReadsLines s zpl ∧
      Conversion.ofText a.strictness Label.defaultConfig zpl = .ok c ∧
      Latin1.encode? c.script = some bytes ∧ Bytes.toText bytes = c.script ∧
      DeliveredOnce a s c.script bytes (ofCommandLine argv s) := by
  rcases undelivered_or_delivered argv s with
    ⟨ending, log, hrun, hzero, -⟩ | ⟨a, zpl, c, log, hparse, hreads, hconversion, hall, hrun⟩
  · rw [hrun] at h
    exact absurd h hzero
  · have hbytes := Latin1.encode?_eq_some_iff.mpr ⟨hall, rfl⟩
    have hscript := Latin1.toText_of_encode? hbytes
    have hne : c.script.map (fun ch => UInt8.ofNat ch.toNat) ≠ [] := fun hnil =>
      List.cons_ne_nil _ _ (List.map_eq_nil_iff.mp hnil)
    rw [hrun] at h ⊢
    exact ⟨a, zpl, c, _, hparse, hreads, hreads.readsLines, hconversion, hbytes, hscript,
      deliveredOnce_of_fault hbytes hne (ending_eq_ok_iff.mp h).2⟩

/-- A command line that names both a host and an output file. -/
def hostAndFile : List Text :=
  ["in.zpl", "-o", "out.dpl", "--host", "printer"].map String.toList

/-- What it asks for. -/
def hostAndFileArguments : Arguments where
  input := "in.zpl".toList
  output := some "out.dpl".toList
  host := some "printer".toList
  service := some 9100
  strictness := .lenient
  encoding := some "utf-8".toList
  verbose := false

theorem parse_hostAndFile : Arguments.parse hostAndFile = .ok hostAndFileArguments := by
  decide +kernel

/-- A label file with line ends of two kinds. -/
def mixedLines : Text :=
  "~DGA,1,1,GF\r\n~DGB,1,1,G\r\n^XA^FO1,2^FDa\rb\r\n^FS^GBx^XGA^XGNO^XZ".toList

/-- The job of that file. -/
def mixedJob : Text := "\x02L\rD11\rIDA\rF\r121100000020001a\nb\n\rY0002,0001,A\rE\r".toList

/-- A directory with the label file, and a network that does not fail. -/
def labelFile : Surroundings :=
  ⟨.flat, [("in.zpl".toList, Utf8.encode mixedLines)], Charset.codecs, ⟨[], Utf8.decode?, true⟩,
    none⟩

-- the line ends of the field data reach the printer as line feeds, the others are in no record
theorem delivers_once_of_hostAndFile :
    (ofCommandLine hostAndFile labelFile).network =
        [.connect "printer".toList (some 9100) (some (.integer 5)),
          .send (mixedJob.map fun c => UInt8.ofNat c.toNat), .close] ∧
      (ofCommandLine hostAndFile labelFile).shown = [] ∧
      (ofCommandLine hostAndFile labelFile).files = labelFile.files := by
  have hzero : (ofCommandLine hostAndFile labelFile).ending = .ok 0 := by decide +kernel
  obtain ⟨a, zpl, c, bytes, hparse, hreads, -, hconversion, hbytes, -, honce⟩ :=
    delivers_once _ _ hzero
  obtain rfl := Except.ok.inj (parse_hostAndFile.symm.trans hparse)
  have hscript : ((hostAndFileArguments.text labelFile).toOption.bind fun zpl =>
      (Conversion.ofText .lenient Label.defaultConfig zpl).toOption.map Conversion.script) =
        some mixedJob := by decide +kernel
  have hjob : c.script = mixedJob := by
    rw [Arguments.text_eq_ok_iff.mpr hreads] at hscript
    have hconverted : (Conversion.ofText .lenient Label.defaultConfig zpl).toOption.map
        Conversion.script = some c.script := congrArg (·.toOption.map Conversion.script) hconversion
    exact Option.some.inj (hconverted.symm.trans hscript)
  obtain ⟨-, rfl⟩ := Latin1.encode?_eq_some_iff.mp hbytes
  obtain ⟨hnetwork, hshown, hfiles, -⟩ := honce.host (by decide)
  rw [hjob] at hnetwork
  exact ⟨hnetwork, hshown, hfiles⟩

/-! ## Failure -/

/-- There is no trace of a run but its log. -/
structure Traceless (s : Surroundings) (r : RunResult) : Prop where
  shown : r.shown = []
  network : r.network = []
  files : r.files = s.files
  deposit : r.deposit = none

/-- What a run that fails leaves behind, and when it fails. -/
structure FailsClean (argv : List Text) (s : Surroundings) (r : RunResult) : Prop where
  /-- A run that does not get to its delivery leaves nothing but its log. -/
  traceless : (r.ending = .ok 1 ∨ ∃ reason, r.ending = .error reason ∧ reason.isEarly) →
    Traceless s r
  /-- The exit code is 1 if a corrupt graphic ends the conversion or the job cannot be sent, and
      else never. -/
  refused : r.ending = .ok 1 ↔ ∃ a zpl, Arguments.parse argv = .ok a ∧ a.Reads s zpl ∧
    ((∃ reason, Conversion.ofText a.strictness Label.defaultConfig zpl = .error reason ∧
        reason.diagnosticKind? = some .decode) ∨
      ∃ c, Conversion.ofText a.strictness Label.defaultConfig zpl = .ok c ∧
        ∃ ch ∈ c.script, 0xFF < ch.toNat)
  /-- A corrupt graphic ends a strict conversion only. -/
  strict : ∀ a zpl reason, Arguments.parse argv = .ok a → a.Reads s zpl →
    Conversion.ofText a.strictness Label.defaultConfig zpl = .error reason →
    reason.diagnosticKind? = some .decode → a.strictness = .strict
  /-- A job that is delivered can be sent. -/
  encodable : r.ending ≠ .error (.delivery .unencodable)
  /-- A connection that was opened is closed once, behind all that was sent. -/
  closed : Session.connectFailure? s.network = none → r.network ≠ [] →
    ∃ events, r.network = events ++ [.close] ∧ .close ∉ events

theorem traceless_ofCommandLine (h : (ofCommandLine argv s).ending = .ok 1 ∨
      ∃ reason, (ofCommandLine argv s).ending = .error reason ∧ reason.isEarly) :
    Traceless s (ofCommandLine argv s) := by
  rcases undelivered_or_delivered argv s with
    ⟨ending, log, hrun, -⟩ | ⟨a, zpl, c, log, -, -, -, -, hrun⟩
  · rw [hrun]
    exact ⟨rfl, rfl, rfl, rfl⟩
  · -- a delivery ends with 0 or with a fault of its own
    rw [hrun, ending_eq_ok_iff] at h
    rcases h with ⟨hzero, -⟩ | ⟨reason, hreason, hearly⟩
    · cases hzero
    · obtain ⟨fault, -, rfl⟩ := ending_eq_error_iff.mp hreason
      cases hearly

theorem ending_of_refusal {a : Arguments} {zpl : Text} {log : List LogLine}
    (hparse : Arguments.parse argv = .ok a) (htext : a.text s = .ok zpl)
    (hjob : a.job zpl = ⟨log, .refuse⟩) : (ofCommandLine argv s).ending = .ok 1 := by
  unfold ofCommandLine ofArguments
  rw [hparse]
  dsimp only
  rw [htext]
  dsimp only
  rw [hjob]
  rfl

theorem refused_iff : (ofCommandLine argv s).ending = .ok 1 ↔
    ∃ a zpl, Arguments.parse argv = .ok a ∧ a.Reads s zpl ∧
      ((∃ reason, Conversion.ofText a.strictness Label.defaultConfig zpl = .error reason ∧
          reason.diagnosticKind? = some .decode) ∨
        ∃ c, Conversion.ofText a.strictness Label.defaultConfig zpl = .ok c ∧
          ∃ ch ∈ c.script, 0xFF < ch.toNat) := by
  constructor
  · intro h
    have hcourse := course argv s
    generalize ofCommandLine argv s = r at h hcourse
    cases hcourse with
    | misread => cases h
    | unread => cases h
    | unconverted => cases h
    | delivered => exact absurd (ending_eq_ok_iff.mp h).1 Nat.one_ne_zero
    | corrupt hparse htext hconversion hkind =>
      exact ⟨_, _, hparse, Arguments.text_eq_ok_iff.mp htext, .inl ⟨_, hconversion, hkind⟩⟩
    | unencodable hparse htext hconversion hbytes =>
      exact ⟨_, _, hparse, Arguments.text_eq_ok_iff.mp htext,
        .inr ⟨_, hconversion, Latin1.exists_of_not_encodable.mp hbytes⟩⟩
  · rintro ⟨a, zpl, hparse, hreads, hrefused⟩
    have htext := Arguments.text_eq_ok_iff.mpr hreads
    rcases hrefused with ⟨reason, hconversion, hkind⟩ | ⟨c, hconversion, hbytes⟩
    · exact ending_of_refusal hparse htext (Arguments.job_of_corrupt hconversion hkind)
    · exact ending_of_refusal hparse htext
        (Arguments.job_of_unencodable hconversion (Latin1.exists_of_not_encodable.mpr hbytes))

theorem encodable_ofCommandLine (argv : List Text) (s : Surroundings) :
    (ofCommandLine argv s).ending ≠ .error (.delivery .unencodable) := by
  rcases undelivered_or_delivered argv s with
    ⟨ending, log, hrun, -, hearly⟩ | ⟨a, zpl, c, log, -, -, -, hbytes, hrun⟩
  · rw [hrun]
    exact hearly _
  · have hsendable : ∀ job ∈ [c.script], job.all Latin1.isEncodable := by
      intro job hjob
      rw [List.mem_singleton.mp hjob]
      exact hbytes
    have hfault : (Session.deliver s.system s.network s.files [c.script] a.printer).fault ≠
        some .unencodable := Session.deliver_ne_unencodable hsendable a.printer
    rw [hrun]
    intro h
    obtain ⟨fault, hfound, hreason⟩ := ending_eq_error_iff.mp h
    cases hreason
    exact hfault hfound

theorem closed_ofCommandLine (hopen : Session.connectFailure? s.network = none)
    (hnetwork : (ofCommandLine argv s).network ≠ []) :
    ∃ events, (ofCommandLine argv s).network = events ++ [.close] ∧ .close ∉ events := by
  rcases undelivered_or_delivered argv s with
    ⟨ending, log, hrun, -⟩ | ⟨a, zpl, c, log, -, -, -, -, hrun⟩
  · rw [hrun] at hnetwork
    exact absurd rfl hnetwork
  · rw [hrun] at hnetwork ⊢
    exact Session.closed_deliver hopen hnetwork

/-- A run that fails leaves no half job: before its delivery it leaves nothing, and once it
    delivers, the job can be sent and the connection is closed. -/
theorem fails_clean (argv : List Text) (s : Surroundings) :
    FailsClean argv s (ofCommandLine argv s) where
  traceless := traceless_ofCommandLine
  refused := refused_iff
  strict := fun _ _ _ _ _ => Arguments.strict_of_decode
  encodable := encodable_ofCommandLine argv s
  closed := closed_ofCommandLine

-- the connection is closed even where the sending failed
example : (ofCommandLine hostAndFile { labelFile with network := some .sendBroken }).network =
    [.connect "printer".toList (some 9100) (some (.integer 5)), .close] := by decide +kernel

end RunResult

end ThermalLabel
