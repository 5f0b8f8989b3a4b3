import CloudSpace.Cloud.Wire
import CloudSpace.Program
import Std.Async.DNS
import Std.Async.TCP
import Std.Async.Timer

/-!
# Command line

The host that the operating system is, and the entry point. Requests go over plain connections,
one for each; addresses that ask for a secure connection cannot be reached.
-/
namespace CloudSpace.Console

/-! ### Files -/

/-- Why something could not be read. -/
def reasonOf : IO.Error → String
  | .permissionDenied _ code details => s!"{details} (os error {code})"
  | .inappropriateType _ code details => s!"{details} (os error {code})"
  | .otherError code details => s!"{details} (os error {code})"
  | error => toString error

/-- The number by which the system says that a directory was read as a file. -/
def directoryCode : UInt32 := 21

def entryAt? (path : String) : IO (Option Entry) := do
  match ← (IO.FS.readBinFile path).toBaseIO with
  | .ok content => return some (.file content.toList)
  | .error (.noFileOrDirectory ..) => return none
  | .error (.inappropriateType file code details) =>
    return if code = directoryCode then some .directory
      else some (.unreadable (reasonOf (.inappropriateType file code details)))
  | .error error => return some (.unreadable (reasonOf error))

/-! ### Connections -/

/-- How many milliseconds a reply may take. -/
def patience : Std.Time.Millisecond.Offset := 30000

/-- Everything that comes on a connection until it is closed. -/
def receiveAll (socket : Std.Async.TCP.Socket.Client) : Std.Async.Async ByteArray := do
  let mut received := ByteArray.empty
  repeat
    match ← socket.recv? 65536 with
    | some bytes => received := received ++ bytes
    | none => break
  return received

/-- Send bytes to a port of a host, and receive what comes back. -/
def exchange (host : String) (port : UInt16) (bytes : ByteArray) :
    Std.Async.Async ByteArray := do
  let addresses ← Std.Async.DNS.getAddrInfo host (toString port)
  match addresses[0]? with
  | none => throw (IO.userError s!"no address for {host}")
  | some address =>
    let socket ← Std.Async.TCP.Socket.Client.mk
    socket.connect (match address with
      | .v4 address => .v4 ⟨address, port⟩
      | .v6 address => .v6 ⟨address, port⟩)
    socket.send bytes
    receiveAll socket

def giveUp : Std.Async.Async ByteArray := do
  Std.Async.sleep patience
  throw (IO.userError "operation timed out")

/-- Send a request to a host over a plain connection. -/
def sendTo (host : String) (port : Nat) (request : Cloud.Request) : IO Cloud.Reply := do
  let exchanged :=
    Std.Async.Async.race (exchange host port.toUInt16 request.wireText.toUTF8) giveUp
  match ← exchanged.block.toBaseIO with
  | .error error => return .failure (toString error)
  | .ok bytes => return (Cloud.Reply.ofBytes? bytes.toList).getD (.failure "incomplete reply")

def send (request : Cloud.Request) : IO Cloud.Reply := do
  let url := request.url
  if url.scheme != "http" then return .failure s!"cannot connect by {url.scheme}"
  if !request.isSendable then return .failure "the token cannot be sent"
  match url.host with
  | some host => sendTo host (url.port.getD 80) request
  | none => return .failure "the address has no host"

def transport : Cloud.Transport IO where
  send := send
  wait milliseconds := IO.sleep milliseconds.toUInt32

/-! ### The host -/

def write (stream : IO.FS.Stream) (text : String) : IO Unit := do
  stream.putStr text
  stream.flush

def typedLine : IO (Option String) := do
  return (← (← IO.getStdin).getLine.toBaseIO).toOption

def host : IO (Host IO) := do
  let output ← IO.getStdout
  let other ← IO.getStderr
  return {
    environment := NameMap.ofList (← Std.Internal.UV.System.osEnviron).toList
    terminal := ← output.isTty
    entryAt? := entryAt?
    transport
    now := return ⟨(← Std.Time.Timestamp.now).toMillisecondsSinceUnixEpoch.val⟩
    newName := return Report.runName (← IO.getRandomBytes 16).toList
    print := write output
    tell := write other
    log := fun warning => write other s!"Warning: {warning}\n"
    ask := typedLine }

end CloudSpace.Console

def main (words : List String) : IO UInt32 := do
  let host ← CloudSpace.Console.host
  return (← host.run words).toUInt32
