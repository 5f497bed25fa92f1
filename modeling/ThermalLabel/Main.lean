/-
  The command line program: reads a label file, prints, stores or sends its job.

  Only this module acts. Where the label text is, what is delivered, where to and what is logged
  are the decisions of `Arguments.source`, `Arguments.job` and `Arguments.deliveryLog`; here they
  meet the file system, the standard streams and the network. The standard input is in UTF-8, and
  its line ends are left as they are.
-/
import Std.Async.DNS
import Std.Async.TCP
import Std.Async.Timer
import ThermalLabel.CommandLine.Run
import ThermalLabel.Encoding.Charset

namespace ThermalLabel

namespace Program

/-- How the program is called. -/
def usage : String :=
  "usage: zpl2dpl [-h] [-o OUTPUT] [--host HOST] [--port PORT] [--strict] " ++
    "[--encoding ENCODING] [-v] input\n"

/-- Shows the log lines that the arguments ask for. -/
def tell (a : Arguments) (lines : List LogLine) : IO Unit :=
  (lines.filter (LogLine.isShown a.verbose)).forM fun line => IO.eprint line.render

/-- The result of a step, or the end of the run for its fault. -/
def orEnd {α : Type} : Except RunFault α → IO α
  | .ok a => return a
  | .error reason => throw (IO.userError reason.message)

/-- The stream of an input. -/
def stream : Input → IO TextStream
  | .standardInput => do
    let bytes ← (← IO.getStdin).readBinToEnd
    return ⟨bytes.toList, Utf8.decode?, false⟩
  | .file path encoding => do
    let bytes ← IO.FS.readBinFile (Text.shown path)
    let codec ← orEnd ((Charset.codecs encoding).elim (.error .unknownEncoding) .ok)
    return .ofFile bytes.toList codec

/-- The address of a service at a host. -/
def address (host : Text) (service : Int) : IO Std.Net.SocketAddress := do
  if service < 0 ∨ 65535 < service then throw (IO.userError "service number outside 0..65535")
  let number := UInt16.ofNat service.toNat
  let found ← Std.Async.Async.block (Std.Async.DNS.getAddrInfo (Text.shown host) "")
  match found.toList with
  | .v4 addr :: _ => return .v4 ⟨addr, number⟩
  | .v6 addr :: _ => return .v6 ⟨addr, number⟩
  | [] => throw (IO.userError ("unknown host: " ++ Text.shown host))

/-- How long a connection may take to be opened. -/
def patience : Std.Time.Millisecond.Offset := 5000

/-- An open connection to a service at a host, none if it is not open in time. -/
def connect (host : Text) (service : Int) : IO (Option Std.Async.TCP.Socket.Client) := do
  let target ← address host service
  let socket ← Std.Async.TCP.Socket.Client.mk
  let opened ← (Std.Async.Async.race
    (do socket.connect target; return true) (do Std.Async.sleep patience; return false)).block
  return if opened then some socket else none

/-- Sends bytes over an open connection and closes it. -/
def sendOver (socket : Std.Async.TCP.Socket.Client) (bytes : Bytes) :
    IO (Option NetworkFailure) := do
  try
    (socket.send (ByteArray.mk bytes.toArray)).block
    socket.shutdown.block
    return none
  catch _ => return some .sendBroken

/-- Sends bytes over a connection of their own, and tells how the network failed, if it did. -/
def send (host : Text) (service : Int) (bytes : Bytes) : IO (Option NetworkFailure) := do
  try
    match ← connect host service with
    | some socket => sendOver socket bytes
    | none => return some .connectTimeout
  catch e => return some (.connectRefused (toString e))

/-- Delivers a script, which Latin-1 can hold, and tells what ended the delivery, if it failed. -/
def deliver (script : Text) : Printer → IO (Option DeliveryFault)
  | .console => do
    IO.print (Text.shown (Session.shownJobs [script]))
    return none
  | .file path _ => do
    try
      IO.FS.writeBinFile (Text.shown path) (ByteArray.mk (Session.jobBytes [script]).toArray)
      return none
    catch e => return some (.path (.refused (toString e)))
  | .tcp host (some service) _ => do
    return (← send host service (Session.jobBytes [script])).map .network
  | .tcp _ none _ => return some (.network (.noAddress "no service is named"))

/-- Runs the program with arguments and gives its exit code. -/
def run (a : Arguments) : IO UInt32 := do
  let input ← stream (← orEnd a.source)
  let zpl ← orEnd (input.text?.elim (.error .undecodable) .ok)
  let job := a.job zpl
  tell a job.log
  match job.decision with
  | .fail reason => orEnd (.error (.conversion reason))
  | .refuse => return 1
  | .deliver script printer =>
    let fault ← deliver script printer
    tell a (Arguments.deliveryLog script fault printer)
    orEnd (fault.elim (.ok 0) fun reason => .error (.delivery reason))

end Program

end ThermalLabel

open ThermalLabel in
/-- Runs the command line. -/
def main (argv : List String) : IO UInt32 := do
  match Arguments.parse (argv.map String.toList) with
  | .error .help =>
    IO.print Program.usage
    return 0
  | .error .usage =>
    IO.eprint Program.usage
    return 2
  | .ok a =>
    try Program.run a
    catch e =>
      IO.eprintln (toString e)
      return 1
