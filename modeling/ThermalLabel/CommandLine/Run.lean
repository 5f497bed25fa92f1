/-
  A run of the command line.

  The label file is read, decoded and converted before anything is delivered, and a job that
  cannot be sent as Latin-1 is not delivered at all. So a run that fails before its delivery
  leaves no trace but its log. The job goes to exactly one place: to the host if one is given,
  else to the output file, else to the console.

  What a run finds is given to it: the system that keeps the files, the codecs, the standard
  input and the network (`Surroundings`). What it does is decided by the arguments and the label
  text alone (`Arguments.input`, `Arguments.job`).
-/
import ThermalLabel.CommandLine.Arguments
import ThermalLabel.Delivery.Session
import ThermalLabel.Encoding.Stream

namespace ThermalLabel

/-- What a run finds: the system, its files and its codecs, the standard input, and how the network
    fails, if it does. -/
structure Surroundings where
  system : FileSystem
  files : Directory
  codecs : Codecs
  standardInput : TextStream
  network : Option NetworkFailure

/-- Why a run ended without an exit code of its own. -/
inductive RunFault where
  | arguments (reason : ArgumentsFault)
  | path (reason : PathFault)
  /-- The encoding is named without a name. -/
  | noEncoding
  /-- The name of the encoding holds a null character. -/
  | nullInEncoding
  /-- No codec has the name. -/
  | unknownEncoding
  /-- The bytes of the input are no text in its codec. -/
  | undecodable
  | conversion (reason : Fault)
  | delivery (reason : DeliveryFault)
  deriving DecidableEq

namespace RunFault

/-- The wording of a fault. -/
def message : RunFault → String
  | arguments _ => "the arguments ask for no conversion"
  | path reason => reason.message
  | noEncoding => "the encoding has no name"
  | nullInEncoding => "embedded null character"
  | unknownEncoding => "unknown encoding"
  | undecodable => "the input is no text in its encoding"
  | conversion reason => reason.message
  | delivery reason => reason.message

end RunFault

/-- Where a label text comes from. -/
inductive Input where
  | standardInput
  /-- The file that a path leads to, by the name of its codec. -/
  | file (path encoding : Text)
  deriving DecidableEq

/-- What a run does with its label text. -/
inductive Decision where
  /-- The conversion ends the run. -/
  | fail (reason : Fault)
  /-- There is no job, or none that can be sent. -/
  | refuse
  | deliver (script : Text) (printer : Printer)
  deriving DecidableEq

/-- A label text that is done with: what was logged, and what is to be done. -/
structure Job where
  log : List LogLine
  decision : Decision
  deriving DecidableEq

/-- What came of a run. -/
structure RunResult where
  /-- The exit code, or why there is none. -/
  ending : Except RunFault Nat
  log : List LogLine
  /-- What was printed. -/
  shown : Text
  network : List NetworkEvent
  files : Directory
  /-- What was written to a device, if to one. -/
  deposit : Option Deposit

namespace Surroundings

/-- The stream of an input. A file is looked for before its codec is. -/
def stream (s : Surroundings) : Input → Except RunFault TextStream
  | .standardInput => .ok s.standardInput
  | .file path encoding => do
    let bytes ← (s.system.find s.files path).mapError .path
    let codec ← (s.codecs encoding).elim (.error .unknownEncoding) .ok
    return .ofFile bytes codec

end Surroundings

namespace Arguments

/-! ## Input -/

/-- The name that stands for the standard input. -/
def standardInputName : Text := ['-']

/-- The name of the encoding of label files. It has to be fit to be looked up before the file is
    looked for. -/
def encodingName (a : Arguments) : Except RunFault Text :=
  match a.encoding with
  | none => .error .noEncoding
  | some name => if name.contains '\x00' then .error .nullInEncoding else .ok name

/-- Where the label text comes from. -/
def source (a : Arguments) : Except RunFault Input :=
  if a.input = standardInputName then .ok .standardInput
  else do return .file a.input (← a.encodingName)

/-- The label text. -/
def text (a : Arguments) (s : Surroundings) : Except RunFault Text := do
  let stream ← s.stream (← a.source)
  stream.text?.elim (.error .undecodable) .ok

/-! ## Job -/

/-- The log line of a conversion that a corrupt graphic ended. -/
def corruptLine (reason : Fault) : LogLine :=
  ⟨.error, .conversion, "Conversion failed: " ++ reason.message⟩

/-- The log line of a job that cannot be sent. -/
def unencodableLine (script : Text) : LogLine :=
  ⟨.error, .conversion, "Label text cannot be sent as latin-1: " ++ Latin1.failureMessage script⟩

/-- The seconds that a connection may take. -/
def timeout : Number := .integer 5

/-- Where the job goes. -/
def printer (a : Arguments) : Printer :=
  match (a.host.getD []), (a.output.getD []) with
  | [], [] => .console
  | [], path => .file path FileMode.default
  | host, _ => .tcp host a.service (some timeout)

/-- What is done with a label text. -/
def job (a : Arguments) (zpl : Text) : Job :=
  let log := (Conversion.untilFault a.strictness Label.defaultConfig zpl).log
  match Conversion.ofText a.strictness Label.defaultConfig zpl with
  | .ok c =>
    if c.script.all Latin1.isEncodable then ⟨log, .deliver c.script a.printer⟩
    else ⟨log ++ [unencodableLine c.script], .refuse⟩
  | .error reason =>
    if reason.diagnosticKind? = some .decode then ⟨log ++ [corruptLine reason], .refuse⟩
    else ⟨log, .fail reason⟩

/-! ## Log of a delivery -/

/-- The number of a service in the log. -/
def serviceText (service : Option Int) : Text := service.elim ['[', ']'] Decimal.ofInt

/-- What is logged when a connection fails, and when a sending does. A failure that is neither in
    time nor in the network is not logged. -/
def failureLines : DeliveryFault → List LogLine
  | .network .connectTimeout => [⟨.error, .delivery, "Socket create timeout"⟩]
  | .network (.connectRefused reason) =>
    [⟨.error, .delivery, "Socket create exception: " ++ reason⟩]
  | .network .sendTimeout => [⟨.error, .delivery, "Send timeout"⟩]
  | .network .sendBroken => [⟨.error, .delivery, "Send failed"⟩]
  | _ => []

/-- The log lines of a connection being opened, given what was logged for its failure. -/
def connectLines (host : Text) (service : Option Int) (failure : List LogLine) : List LogLine :=
  ⟨.debug, .delivery,
      "Socket create: " ++ Text.shown host ++ ":" ++ Text.shown (serviceText service)⟩ ::
    failure ++ [⟨.debug, .delivery, "Socket create finished"⟩]

/-- How much of a script the log shows. -/
def loggedLength : Nat := 80

/-- The log lines of a script being sent, given what was logged for its failure. -/
def sendLines (script : Text) (failure : List LogLine) : List LogLine :=
  ⟨.debug, .delivery, "Send: " ++ Text.shown (Text.quoted (script.take loggedLength))⟩ ::
    failure ++ [⟨.debug, .delivery, "Send finished"⟩]

/-- The log lines of the delivery of a script, given what ended it. -/
def deliveryLog (script : Text) (fault : Option DeliveryFault) : Printer → List LogLine
  | .console | .file .. => []
  | .tcp host service _ =>
    match fault with
    | none => connectLines host service [] ++ sendLines script []
    | some reason =>
      match reason with
      | .network .connectTimeout | .network (.connectRefused _) | .network (.noAddress _) =>
        connectLines host service (failureLines reason)
      | _ => connectLines host service [] ++ sendLines script (failureLines reason)

end Arguments

namespace RunResult

/-! ## The run -/

/-- A run that ended before its delivery. -/
def undelivered (s : Surroundings) (ending : Except RunFault Nat) (log : List LogLine) :
    RunResult :=
  ⟨ending, log, [], [], s.files, none⟩

/-- A run that delivered its job, or tried to. -/
def delivered (printer : Printer) (log : List LogLine) (script : Text) (d : Delivery) :
    RunResult where
  ending := d.fault.elim (.ok 0) fun reason => .error (.delivery reason)
  log := log ++ Arguments.deliveryLog script d.fault printer
  shown := d.shown
  network := d.network
  files := d.files
  deposit := d.deposit

/-- A run that is through with its label text. -/
def ofJob (s : Surroundings) (job : Job) : RunResult :=
  match job.decision with
  | .fail reason => undelivered s (.error (.conversion reason)) job.log
  | .refuse => undelivered s (.ok 1) job.log
  | .deliver script printer =>
    delivered printer job.log script
      (Session.deliver s.system s.network s.files [script] printer)

/-- A run with arguments. -/
def ofArguments (a : Arguments) (s : Surroundings) : RunResult :=
  match a.text s with
  | .error reason => undelivered s (.error reason) []
  | .ok zpl => ofJob s (a.job zpl)

/-- A run of a command line: its result without the log lines that it does not show. -/
def ofCommandLine (argv : List Text) (s : Surroundings) : RunResult :=
  match Arguments.parse argv with
  | .error reason => undelivered s (.error (.arguments reason)) []
  | .ok a =>
    let result := ofArguments a s
    { result with log := result.log.filter (LogLine.isShown a.verbose) }

/-- The text of the log, as the standard error output has it. -/
def logText (r : RunResult) : String := String.join (r.log.map LogLine.render)

end RunResult

end ThermalLabel
