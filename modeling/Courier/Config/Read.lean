import Courier.Config.Basic
import Courier.Files.Fault
import Courier.Ini.Read
/-!
Reading settings. Every section and key that is not known is passed over, and a blank value sets
nothing.
-/

namespace Courier

inductive ConfigFault where
  | malformed (fault : IniFault)
  | unreadable (fault : IoFault)
  | unwritable (fault : IoFault)
  | invalidValue (sectionName key value reason : String)
  | noDirectory (fault : IoFault)
  deriving DecidableEq, Repr, Inhabited

def ConfigFault.message : ConfigFault → String
  | .malformed fault => "Failed to read config file: " ++ fault.message
  | .unreadable fault => "Failed to read config file: " ++ fault.message
  | .unwritable fault => "Failed to write config file: " ++ fault.message
  | .invalidValue sectionName key value reason =>
    "Invalid configuration: " ++ sectionName ++ "." ++ key ++ " = '" ++ value ++ "' - " ++ reason
  | .noDirectory fault => "Failed to create config directory: " ++ fault.message

namespace Settings

/-- The number of 64 bits that decimal digits spell; a plus sign may stand in front of them. -/
def wholeNumber? (text : String) : Option UInt64 :=
  let digits := match text.toList with
    | '+' :: rest => rest
    | chars => chars
  if digits.isEmpty ∨ !digits.all Char.isDigit then none
  else
    let value := digits.foldl (fun value digit => 10 * value + (digit.toNat - 0x30)) 0
    if value < UInt64.size then some (UInt64.ofNat value) else none

/-- A value of a section without blanks around it, unless there is none or it is blank. -/
def value? (ini : Ini) (sectionName key : String) : Option String :=
  (((ini.section? sectionName).bind (·.get? key)).map Text.trim).filter (!·.isEmpty)

/-- Sets what a value says, if there is one. -/
def overlay {α : Type} (value : Option String) (set : String → α → Except ConfigFault α)
    (start : α) : Except ConfigFault α :=
  match value with
  | some text => set text start
  | none => .ok start

def timeout (sectionName text : String) : Except ConfigFault UInt64 :=
  match wholeNumber? text with
  | some seconds =>
    if 0 < seconds then .ok seconds
    else .error (.invalidValue sectionName "timeout" text "must be a positive integer (seconds)")
  | none =>
    .error (.invalidValue sectionName "timeout" text "must be a positive integer (seconds)")

def endpoint (text : String) : Except ConfigFault String :=
  if (Text.after? "http://" text).isSome ∨ (Text.after? "https://" text).isSome then
    .ok (Text.trimRightChar '/' text)
  else .error (.invalidValue "service" "endpoint" text "must be an http:// or https:// URL")

def archive (text : String) : Except ConfigFault ArchiveKind :=
  match ArchiveKind.parse text with
  | .ok kind => .ok kind
  | .error _ => .error (.invalidValue "service" "archive" text "must be 'document' or 'repository'")

def readService (ini : Ini) : Except ConfigFault ServiceSettings := do
  let value := value? ini "service"
  let service : ServiceSettings := {}
  let service ← overlay (value "endpoint") (fun text service =>
    (endpoint text).map fun endpoint => { service with endpoint := some endpoint }) service
  let service ← overlay (value "archive") (fun text service =>
    (archive text).map fun archive => { service with archive }) service
  overlay (value "timeout") (fun text service =>
    (timeout "service" text).map fun seconds => { service with timeoutSeconds := seconds }) service

def readDownload (places : Places) (ini : Ini) : Except ConfigFault DownloadSettings := do
  let value := value? ini "download"
  let directory := ((value "directory").map places.expand).getD places.downloadDirectory
  overlay (value "timeout") (fun text download =>
    (timeout "download" text).map fun seconds => { download with timeoutSeconds := seconds })
    { directory }

def readHost (ini : Ini) : HostSettings :=
  let value := value? ini "host"
  { platform := (value "platform").map Text.lower
    platformVersion := value "platform_version"
    architecture := value "architecture"
    instanceId := value "instance_id"
    instanceType := value "instance_type"
    region := value "region"
    availabilityZone := value "availability_zone" }

def ofIni (places : Places) (ini : Ini) : Except ConfigFault Settings := do
  let directory (sectionName : String) (otherwise : Path) : Path :=
    ((value? ini sectionName "directory").map places.expand).getD otherwise
  return {
    service := ← readService ini
    cacheDirectory := directory "cache" places.cacheDirectory
    download := ← readDownload places ini
    host := readHost ini
    logDirectory := directory "logging" places.logDirectory }

def parse (places : Places) (text : String) : Except ConfigFault Settings :=
  match Ini.read text with
  | .ok ini => ofIni places ini
  | .error fault => .error (.malformed fault)

end Settings

end Courier
