import Courier.Config.Read
import Courier.Failure
/-!
Why a command fails, what it says then, and what it advises.
-/

namespace Courier

inductive CommandFault where
  | logging (fault : IoFault)
  | misconfigured (reason : String)
  | config (fault : ConfigFault)
  | service (failure : Failure)
  | unreadable (path : Path) (fault : IoFault)
  | unwritable (path : Path) (fault : IoFault)
  | invalidContent (path : Path) (reason : String)
  deriving DecidableEq, Repr, Inhabited

namespace CommandFault

def message : CommandFault → String
  | .logging fault => "Failed to initialize logging: " ++ fault.message
  | .misconfigured reason => "Configuration error: " ++ reason
  | .config fault => fault.message
  | .service failure => failure.message
  | .unreadable path fault => "Failed to read file '" ++ path.text ++ "': " ++ fault.message
  | .unwritable path fault => "Failed to write file '" ++ path.text ++ "': " ++ fault.message
  | .invalidContent path reason => "Invalid content in '" ++ path.text ++ "': " ++ reason

def configAdvice : List String := [
  "",
  "Create a config file with: pkgfetch config init",
  "then set [service] endpoint, or pass --endpoint."]

def advice : CommandFault → List String
  | .misconfigured _ => configAdvice
  | .service (.invalidConfig _) => configAdvice
  | .service (.noMatch ..) => [
    "",
    "The manifest has no package for this host.",
    "Check the detected values with: pkgfetch resolve --manifest <file>",
    "Override wrong values in the [host] section of config.ini."]
  | .service (.timeout ..) => [
    "",
    "Raise [service] timeout or [download] timeout in config.ini."]
  | _ => []

def lines (fault : CommandFault) : List String :=
  ("Error: " ++ fault.message) :: fault.advice

end CommandFault

end Courier
