import OperatorNames.Log.Clock
import OperatorNames.Program
import Std.Async.DNS
import Std.Async.TCP
import Std.Time.DateTime.Timestamp

/-!
# The executable

`Program.run` decides everything; this module only carries its surroundings in and out.  The files
that a run can look at are read before it, and those that it has changed are written after it.  A
run that asks a server for something not known yet is made again once the answer is there.
-/

namespace OperatorNames.Executable

open Transfer

/-- Records what stands on the way from a directory along a path. -/
def survey (files : FileSystem) (here : Place) (path : Text) : IO FileSystem := do
  let mut files := files
  let mut place : Place := if FileSystem.isAbsolute path then [] else here
  for step in FileSystem.steps path do
    match files.enter place step with
    | .error _ => break
    | .ok next =>
      place := next
      if (files.at? place).isNone then
        let written := String.ofList (FileSystem.pathOf true place)
        match ← (IO.FS.readBinFile written).toBaseIO with
        | .ok content => files := files.put place (.file content.toList)
        | .error (.inappropriateType ..) => files := files.put place .directory
        | .error _ => break
  return files

/-- Writes the files that a run has changed. -/
def settle (before after : FileSystem) : IO Unit := do
  for (place, entry) in after.entries do
    let path := String.ofList (FileSystem.pathOf true place)
    let old := before.at? place
    if old ≠ some entry then
      match entry, old with
      | .directory, _ => IO.FS.createDirAll path
      | .file content, some (.file begun) =>
        if begun.isPrefixOf content then
          let handle ← IO.FS.Handle.mk path .append
          handle.write (ByteArray.mk (content.drop begun.length).toArray)
        else IO.FS.writeBinFile path (ByteArray.mk content.toArray)
      | .file content, _ => IO.FS.writeBinFile path (ByteArray.mk content.toArray)

/-- The variables that a run looks at. -/
def variableNames : List String :=
  ["HOME", "TMPDIR", "XDG_CONFIG_HOME", "XDG_STATE_HOME", "RUST_LOG"]

/-- The variables that are set. -/
def readVariables : IO (List (Text × Text)) :=
  variableNames.filterMapM fun name => do
    return (← IO.getEnv name).map fun value => (name.toList, value.toList)

/-- The paths that a run may look at. -/
def paths (arguments : List Text) (s : Surroundings) : List Text :=
  let named := match CommandLine.read arguments with
    | .ok (.command (.operators _ _ (some file)) _) => [file]
    | _ => []
  [s.herePath, s.configPath, s.logPath, Fetch.temporaryDirectory s] ++ named

/-- The surroundings of this process. -/
def surroundings (arguments : List Text) : IO Surroundings := do
  let here := FileSystem.steps (← IO.currentDir).toString.toList
  let now ← Std.Time.Timestamp.now
  let microseconds := now.toNanosecondsSinceUnixEpoch.val.toNat / 1000
  let s : Surroundings :=
    { here, values := ← readVariables, time := Log.Clock.text microseconds }
  let files ← (paths arguments s).foldlM (fun files path => survey files here path) s.files
  return { s with files }

/-- The name or number of a server as it is looked up: an IPv6 address stands without brackets. -/
def lookupName (a : Address) : String :=
  String.ofList (a.host.filter fun c => !(c = '[' || c = ']'))

/-- The address of a socket. -/
def socketAddress (address : Std.Net.IPAddr) (port : UInt16) : Std.Net.SocketAddress :=
  match address with
  | .v4 addr => .v4 { addr, port }
  | .v6 addr => .v6 { addr, port }

/-- What is sent to ask for an address.  The server is to close the connection once it has answered,
since the answer is taken to the end. -/
def requestText (a : Address) : Text :=
  a.requestLine ++ "\r\nHost: ".toList ++ a.host
    ++ (if a.port = a.scheme.port then [] else ':' :: Text.decimal a.port)
    ++ "\r\nAccept: */*\r\nConnection: close\r\n\r\n".toList

/-- The greatest number of portions in which an answer is received. -/
def maxPortions : Nat := 0x100000000

/-- Asks one server at one of its addresses and takes what it sends before it closes. -/
def converse (a : Address) (address : Std.Net.IPAddr) : Std.Async.Async Bytes := do
  let client ← Std.Async.TCP.Socket.Client.mk
  client.connect (socketAddress address a.port.toUInt16)
  client.send (ByteArray.mk (Text.Utf8.encode (requestText a)).toArray)
  let mut received := ByteArray.empty
  for _ in [0 : maxPortions] do
    match ← client.recv? 65536 with
    | some portion => received := received ++ portion
    | none => break
  return received.toList

/-- What comes back for an address.  Connections are not secured. -/
def ask (a : Address) : IO (Except TransferFault Bytes) := do
  if a.scheme = .https then return .error .insecure
  match ← (Std.Async.DNS.getAddrInfo (lookupName a) "").block.toBaseIO with
  | .error _ => return .error { code := 6 }
  | .ok addresses =>
    for address in addresses do
      match ← (converse a address).block.toBaseIO with
      | .ok sent => return .ok sent
      | .error _ => continue
    return .error .refused

/-- What is known of addresses: what they send, or why nothing can be asked there. -/
abbrev Known := List (Address × Except TransferFault Bytes)

/-- The network as far as it is known; what is not known sends nothing. -/
def Known.network (known : Known) : Network :=
  fun a => (known.lookup a).getD (.ok [])

/-- The first address that a run has asked without anything being known of it. -/
def Known.gap? (known : Known) (s : Surroundings) : Option Address :=
  s.requests.find? fun a => (known.lookup a).isNone

/-- The greatest number of times that a run is made. -/
def maxAttempts : Nat := 0x200000000

/-- A run against the servers that it asks. -/
def runConnected (arguments : List Text) (s : Surroundings) : IO (Nat × Surroundings) := do
  let mut known : Known := []
  let mut outcome := Program.run arguments { s with network := Known.network known }
  for _ in [0 : maxAttempts] do
    match Known.gap? known outcome.2 with
    | none => break
    | some a =>
      known := (a, ← ask a) :: known
      outcome := Program.run arguments { s with network := Known.network known }
  return outcome

/-- Writes octets on a stream. -/
def write (stream : IO.FS.Stream) (b : Bytes) : IO Unit := do
  unless b.isEmpty do
    stream.write (ByteArray.mk b.toArray)
    stream.flush

end OperatorNames.Executable

open OperatorNames OperatorNames.Executable in
/-- Runs the program with the arguments of this process. -/
def main (arguments : List String) : IO UInt32 := do
  let arguments := arguments.map String.toList
  let before ← surroundings arguments
  let (status, after) ← runConnected arguments before
  settle before.files after.files
  write (← IO.getStderr) after.messages
  write (← IO.getStdout) after.output.taken
  return status.toUInt32
