import Courier.Command.Run
/-!
The program as a whole: from the words of a command line to an exit code and the lines of complaint
that go with it.
-/

namespace Courier

structure Ending where
  exitCode : UInt32 := 0
  complaints : List String := []
  deriving DecidableEq, Repr, Inhabited

def programVersion : String := "0.1.0"

def usageLines : List String := [
  "Usage: pkgfetch [--config FILE] [-v] [--log] COMMAND",
  "",
  "Commands:",
  "  manifest PACKAGE    download a package manifest and say whether it changed",
  "  download PACKAGE    download the package artifact for this host",
  "  resolve             resolve a local manifest against this host",
  "  report              report the result of an operation",
  "  config              init, path or show: manage the configuration file",
  "",
  "Options of manifest, download and report:",
  "  --endpoint URL      control plane, overrides [service] endpoint",
  "  --archive NAME      document or repository, overrides [service] archive",
  "  --manifest-file FILE",
  "                      a manifest already in hand (repository archive only)",
  "  --trace             print what was done",
  "",
  "Options of manifest and download:",
  "  --version VERSION   package version, the newest one if not given",
  "",
  "Option of download:",
  "  --result-out FILE   write the outcome for a later report",
  "",
  "Options of resolve:",
  "  --manifest FILE     the manifest",
  "  --platform NAME, --platform-version VERSION, --arch NAME",
  "                      the host, as far as it is not to be detected",
  "",
  "Options of report:",
  "  --result FILE       the outcome to report",
  "  --dry-run           print the report and do not submit it",
  "",
  "Option of config init:",
  "  --force             replace a configuration file that is there"]

def Session.perform {m : Type → Type} [Monad m] [MonadStateOf DocumentMemory m]
    [MonadStateOf RepositoryMemory m] (session : Session m) (arguments : List String) :
    m Ending := do
  match Invocation.read arguments with
  | .error .mistaken => return { exitCode := 2, complaints := usageLines }
  | .error .help =>
    usageLines.forM session.say
    return {}
  | .error .version =>
    session.say ("pkgfetch " ++ programVersion)
    return {}
  | .ok invocation =>
    match ← (session.run invocation).run with
    | .ok () => return {}
    | .error fault => return { exitCode := 1, complaints := fault.lines }

end Courier
