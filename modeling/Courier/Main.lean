import Courier.Command.Program
import Courier.Web.Message
import Std.Async.DNS
import Std.Async.TCP
import Std.Async.Timer
import Std.Time.DateTime.Timestamp
/-!
The program on a real system: its files, its clock, its network and its terminal. Requests go out
over plain connections; an address that asks for an encrypted one cannot be reached, and a redirect
is not followed.
-/

namespace Courier

/-! ### Files -/

def systemError : IO.Error → Option (UInt32 × String)
  | .alreadyExists _ code details => some (code, details)
  | .otherError code details => some (code, details)
  | .resourceBusy code details => some (code, details)
  | .resourceVanished code details => some (code, details)
  | .unsupportedOperation code details => some (code, details)
  | .hardwareFault code details => some (code, details)
  | .unsatisfiedConstraints code details => some (code, details)
  | .illegalOperation code details => some (code, details)
  | .protocolError code details => some (code, details)
  | .timeExpired code details => some (code, details)
  | .interrupted _ code details => some (code, details)
  | .noFileOrDirectory _ code details => some (code, details)
  | .invalidArgument _ code details => some (code, details)
  | .permissionDenied _ code details => some (code, details)
  | .resourceExhausted _ code details => some (code, details)
  | .inappropriateType _ code details => some (code, details)
  | .noSuchThing _ code details => some (code, details)
  | .unexpectedEof => none
  | .userError _ => none

/-- The number of an error, which some calls give as a negative one. -/
def errorNumber (code : UInt32) : Nat :=
  code.toInt32.toInt.natAbs

def faultOf (error : IO.Error) : IoFault :=
  match (systemError error).map fun (code, details) => (errorNumber code, details) with
  | some (2, _) => .noEntry
  | some (17, _) => .entryExists
  | some (20, _) => .notDirectory
  | some (21, _) => .isDirectory
  | some (36, _) => .nameTooLong
  | some (code, details) => .reported .other (details ++ " (os error " ++ toString code ++ ")")
  | none => .reported .other (toString error)

section

variable {m : Type → Type} [MonadLiftT IO m]

def attempt {α : Type} (path : Path) (action : String → IO α) : FileAction m α :=
  ExceptT.mk (liftM (show IO (Except IoFault α) from do
    if '\x00' ∈ path.text.toList then return .error .nulInPath
    try return .ok (← action path.text)
    catch error => return .error (faultOf error)))

def probe (path : Path) : FileAction IO Unit :=
  attempt path fun name => do
    let handle ← IO.FS.Handle.mk name .read
    let _ ← handle.read 1

/-- Whether there is something at a path, so far as this can be seen. -/
def isThere (path : Path) : IO Bool := do
  match ← (probe path).run with
  | .ok () => return true
  | .error .isDirectory => return true
  | .error (.reported ..) => return true
  | .error _ => return false

def systemFiles : FileAccess m where
  present path := liftM (isThere path)
  isDirectory path := liftM (show IO Bool from do
    return (← (probe path).run) matches .error .isDirectory)
  read path := attempt path fun name => return (← IO.FS.readBinFile name).toList
  makeDirectory path := attempt path fun name => IO.FS.createDir name
  create path := attempt path fun name => do
    let _ ← IO.FS.Handle.mk name .write
  append path bytes := attempt path fun name => do
    (← IO.FS.Handle.mk name .append).write bytes.toByteArray
  sync path := attempt path fun name => do
    (← IO.FS.Handle.mk name .append).flush
  rename source target := attempt source fun name => IO.FS.rename name target.text
  remove path := attempt path fun name => IO.FS.removeFile name

end

/-! ### Clock and network -/

def systemNanos : IO Int64 := do
  return Int64.ofInt (← Std.Time.Timestamp.now).toNanosecondsSinceUnixEpoch.toInt

open Std.Async Std.Net

def receiveSize : UInt64 := 65536

partial def receive (socket : TCP.Socket.Client) (arrived : IO.Ref ByteArray) : Async Unit := do
  if let some bytes ← socket.recv? receiveSize then
    arrived.modify (· ++ bytes)
    receive socket arrived

def socketAddress (address : IPAddr) (port : UInt16) : SocketAddress :=
  match address with
  | .v4 address => .v4 ⟨address, port⟩
  | .v6 address => .v6 ⟨address, port⟩

def lookupName : Host → String
  | .ipv6 groups => Text.trimChar ']' (Text.trimChar '[' (Host.ipv6 groups).text)
  | host => host.text

def converse (host : Host) (port : Nat) (request : Request) (arrived : IO.Ref ByteArray) :
    Async Unit := do
  let addresses ← DNS.getAddrInfo (lookupName host) (toString port)
  let some address := addresses[0]? | throw (IO.userError "no address")
  let socket ← TCP.Socket.Client.mk
  socket.connect (socketAddress address port.toUInt16)
  socket.send (Message.write request).toByteArray
  receive socket arrived

def askHost (host : Host) (port : Nat) (request : Request) : IO Reply := do
  let arrived ← IO.mkRef ByteArray.empty
  let conversation : Async Bool := do
    converse host port request arrived
    return true
  let limit : Async Bool := do
    sleep (Std.Time.Millisecond.Offset.ofNat request.timeoutMillis)
    return false
  let ended ← try (Async.race conversation limit).block catch _ => pure true
  match Message.read (← arrived.get).toList with
  | .unreachable => return if ended then .unreachable else .timedOut
  | reply => return reply

def ask (request : Request) : IO Reply := do
  match request.url.scheme, request.url.host with
  | "http", some host => askHost host (request.url.port.getD 80) request
  | _, _ => return .unreachable

/-! ### The program -/

abbrev Terminal := StateT DocumentMemory (StateT RepositoryMemory IO)

def systemSession (places : Places) : Session Terminal :=
  { around :=
      { files := systemFiles
        network := fun request => liftM (ask request)
        clock := liftM systemNanos }
    places
    say := fun line => liftM (IO.println line) }

def systemPlaces : IO Places := do
  let home := (← IO.getEnv "HOME").getD "."
  let temporary := (← IO.getEnv "TMPDIR").getD "/tmp"
  let caches := (← IO.getEnv "XDG_CACHE_HOME").map Path.mk
  return { home := ⟨home⟩, temporary := ⟨temporary⟩, caches }

end Courier

open Courier in
def main (arguments : List String) : IO UInt32 := do
  let session := systemSession (← systemPlaces)
  let ((ending, _), _) ← ((session.perform arguments).run none).run {}
  ending.complaints.forM IO.eprintln
  return ending.exitCode
