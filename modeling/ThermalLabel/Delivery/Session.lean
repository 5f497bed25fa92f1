/-
  Sessions: the delivery of jobs to one printer.

  A session opens its printer, sends its jobs in order up to the first that fails, and closes
  the printer. A console shows each job on a line of its own; a file gets the Latin-1 bytes of
  the jobs and nothing else; a connection gets them in one sending each. Its results are what
  is shown, what happens on the network, the files afterwards, and what was written to a device.
  A console shows any text, and a regular file has room for any job.
-/
import ThermalLabel.FileSystem
import ThermalLabel.Number.Quantity

namespace ThermalLabel

/-- A printer. -/
inductive Printer where
  | console
  /-- A file and the letter of the mode that it is opened in. -/
  | file (path mode : Text)
  /-- A host, the number of its printing service, if one is named, and the seconds to wait for
      it. -/
  | tcp (host : Text) (service : Option Int) (timeout : Option Number)
  deriving DecidableEq

/-- What happens on the network. -/
inductive NetworkEvent where
  | connect (host : Text) (service : Option Int) (timeout : Option Number)
  | send (bytes : Bytes)
  | close
  deriving DecidableEq

/-- How the network may fail. What else than time is in the way of a connection is told in the words
    of the system. -/
inductive NetworkFailure where
  | connectTimeout
  | connectRefused (reason : String)
  /-- The host and the service make no address. -/
  | noAddress (reason : String)
  | sendTimeout
  | sendBroken
  deriving DecidableEq

/-- Why a session failed. -/
inductive DeliveryFault where
  /-- The mode is neither to write nor to append. -/
  | unknownMode
  /-- The mode is empty. -/
  | emptyMode
  /-- The mode is both to write and to append. -/
  | doubleMode
  /-- The path leads to no place for a file. -/
  | path (reason : PathFault)
  /-- A character of the job has no byte in Latin-1. -/
  | unencodable
  /-- There is no space for the job. -/
  | noSpace
  /-- The network failed. -/
  | network (failure : NetworkFailure)
  deriving DecidableEq

namespace DeliveryFault

/-- The wording of a fault. -/
def message : DeliveryFault → String
  | unknownMode => "only write 'w' or append 'a' is supported as mode"
  | emptyMode => "Must have exactly one of create/read/write/append mode and at most one plus"
  | doubleMode => "must have exactly one of create/read/write/append mode"
  | path reason => reason.message
  | unencodable => "job cannot be sent as latin-1"
  | noSpace => "no space left on device"
  | network .connectTimeout | network .sendTimeout => "timed out"
  | network (.connectRefused reason) | network (.noAddress reason) => reason
  | network .sendBroken => "broken pipe"

end DeliveryFault

/-- What a file session does to the former content. -/
inductive FileMode where
  | replace
  | append
  deriving DecidableEq

namespace FileMode

/-- The mode of files that are given none. -/
def default : Text := ['w']

/-- The mode of its letter. -/
def ofText : Text → Except DeliveryFault FileMode
  | ['w'] => .ok replace
  | ['a'] => .ok append
  | [] => .error .emptyMode
  | ['w', 'a'] => .error .doubleMode
  | _ => .error .unknownMode

end FileMode

/-- What is written to a device. -/
structure Deposit where
  device : Text
  mode : FileMode
  bytes : Bytes
  deriving DecidableEq

/-- What came of a session. -/
structure Delivery where
  shown : Text
  network : List NetworkEvent
  files : Directory
  /-- What was written to a device, if to one. -/
  deposit : Option Deposit
  fault : Option DeliveryFault
  deriving DecidableEq

namespace Delivery

/-- A session without any effect. -/
def none (files : Directory) : Delivery := ⟨[], [], files, .none, .none⟩

end Delivery

namespace Session

/-! ## Files -/

/-- The jobs that are sent before one fails. -/
def sendable (jobs : List Text) : List Text := jobs.takeWhile fun job => job.all Latin1.isEncodable

/-- The fault of jobs of which one cannot be encoded. -/
def encodingFault (jobs : List Text) : Option DeliveryFault :=
  if jobs.all (·.all Latin1.isEncodable) then none else some .unencodable

/-- The bytes of jobs that can be encoded. -/
def jobBytes (jobs : List Text) : Bytes := jobs.flatMap fun job => (Latin1.encode? job).getD []

/-- The content that a session leaves in a file of the given content. -/
def written (former : Bytes) (jobs : List Text) : FileMode → Bytes
  | .replace => jobBytes (sendable jobs)
  | .append => former ++ jobBytes (sendable jobs)

/-- The fault of jobs that are sent to a device without space. -/
def fullFault (jobs : List Text) : Option DeliveryFault :=
  if jobBytes (sendable jobs) = [] then encodingFault jobs else some .noSpace

/-- A file session with a destination. -/
def toDestination (files : Directory) (mode : FileMode) (jobs : List Text) :
    Destination → Delivery
  | .file name =>
    { Delivery.none files with
      files := files.put name (written ((files.get? name).getD []) jobs mode)
      fault := encodingFault jobs }
  | .device name =>
    { Delivery.none files with
      deposit := some ⟨name, mode, jobBytes (sendable jobs)⟩
      fault := encodingFault jobs }
  | .full => { Delivery.none files with fault := fullFault jobs }

/-- The fault of a mode and a path. The mode counts before the path, but that it is empty is
    only seen after the path is found to be free of null characters. -/
def openingFault (mode : DeliveryFault) (path : Option PathFault) : DeliveryFault :=
  if mode = .emptyMode ∧ path = some .nullInPath then .path .nullInPath else mode

/-- A file session. -/
def toFile (system : FileSystem) (files : Directory) (path mode : Text) (jobs : List Text) :
    Delivery :=
  match FileMode.ofText mode, system.destination files path with
  | .ok mode, .ok destination => toDestination files mode jobs destination
  | .ok _, .error fault => { Delivery.none files with fault := some (.path fault) }
  | .error fault, .ok _ => { Delivery.none files with fault := some (openingFault fault none) }
  | .error fault, .error reason =>
    { Delivery.none files with fault := some (openingFault fault (some reason)) }

/-! ## Connections -/

/-- The sendings of jobs over a connection, and what ended them. A job that cannot be encoded
    fails before the network can. -/
def sendAll (failure : Option NetworkFailure) : List Text → List NetworkEvent × Option DeliveryFault
  | [] => ([], none)
  | job :: rest =>
    match Latin1.encode? job, failure with
    | none, _ => ([], some .unencodable)
    | some _, some failure => ([], some (.network failure))
    | some bytes, none =>
      let others := sendAll failure rest
      (.send bytes :: others.1, others.2)

/-- The failure of a connection before anything is sent. -/
def connectFailure? : Option NetworkFailure → Option NetworkFailure
  | some .connectTimeout => some .connectTimeout
  | some (.connectRefused reason) => some (.connectRefused reason)
  | some (.noAddress reason) => some (.noAddress reason)
  | _ => none

/-- What happens on the network in a session, and what ended it. An open connection is closed
    whatever happens. -/
def overNetwork (failure : Option NetworkFailure) (host : Text) (service : Option Int)
    (timeout : Option Number) (jobs : List Text) : List NetworkEvent × Option DeliveryFault :=
  let connect := NetworkEvent.connect host service timeout
  match connectFailure? failure with
  | some failure => ([connect], some (.network failure))
  | none =>
    let sent := sendAll failure jobs
    (connect :: sent.1 ++ [.close], sent.2)

/-! ## All printers -/

/-- The lines that a console shows. -/
def shownJobs (jobs : List Text) : Text := jobs.flatMap fun job => job ++ ['\n']

/-- A session with a printer. `failure` is how the network fails, if it does. -/
def deliver (system : FileSystem) (failure : Option NetworkFailure) (files : Directory)
    (jobs : List Text) : Printer → Delivery
  | .console => { Delivery.none files with shown := shownJobs jobs }
  | .file path mode => toFile system files path mode jobs
  | .tcp host service timeout =>
    let (network, fault) := overNetwork failure host service timeout jobs
    { Delivery.none files with network, fault }

/-- Sessions one after the other on one system. -/
def deliverAll (system : FileSystem) (files : Directory) :
    List (Printer × Option NetworkFailure × List Text) → List Delivery
  | [] => []
  | (printer, failure, jobs) :: rest =>
    let delivery := deliver system failure files jobs printer
    delivery :: deliverAll system delivery.files rest

end Session

end ThermalLabel
