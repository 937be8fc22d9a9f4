import Courier.Archive.Basic
import Courier.Command.Words
import Courier.Config.Basic
/-!
What a command line asks for. Some options may stand at every level; the value at the deepest level
counts, and a flag is set wherever it stands.
-/

namespace Courier

structure ServiceOptions where
  endpoint : Option String := none
  archive : Option ArchiveKind := none
  /-- A file with a manifest, so that none is fetched. -/
  manifestFile : Option Path := none
  deriving DecidableEq, Repr, Inhabited

structure PackageOptions where
  package : String
  version : String := latestVersion
  service : ServiceOptions := {}
  trace : Bool := false
  deriving DecidableEq, Repr, Inhabited

structure ResolveOptions where
  manifest : Path
  platform : Option String := none
  platformVersion : Option String := none
  architecture : Option String := none
  deriving DecidableEq, Repr, Inhabited

structure ReportOptions where
  result : Path
  dryRun : Bool := false
  service : ServiceOptions := {}
  trace : Bool := false
  deriving DecidableEq, Repr, Inhabited

inductive ConfigCommand where
  | init (force : Bool)
  | path
  | show
  deriving DecidableEq, Repr, Inhabited

inductive Command where
  | manifest (options : PackageOptions)
  | download (options : PackageOptions) (resultFile : Option Path)
  | resolve (options : ResolveOptions)
  | report (options : ReportOptions)
  | config (command : ConfigCommand)
  deriving DecidableEq, Repr, Inhabited

structure Invocation where
  config : Option Path := none
  verbose : Bool := false
  log : Bool := false
  command : Command
  deriving DecidableEq, Repr, Inhabited

namespace Invocation

def globalOptions : List OptionSpec := [
  { name := "config", kind := .file },
  { name := "verbose", short := some 'v', kind := .flag },
  { name := "log", kind := .flag }]

def serviceOptions : List OptionSpec := [
  { name := "endpoint", kind := .text },
  { name := "archive", kind := .choice ["document", "repository"] },
  { name := "manifest-file", kind := .file }]

def packageOptions : List OptionSpec :=
  globalOptions ++ [{ name := "version", kind := .text }, { name := "trace", kind := .flag }] ++
    serviceOptions

def topGrammar : WordGrammar :=
  { options := globalOptions
    commands := ["manifest", "download", "resolve", "report", "config", "help"]
    versioned := true }

def manifestGrammar : WordGrammar :=
  { options := packageOptions, operands := 1 }

def downloadGrammar : WordGrammar :=
  { options := packageOptions ++ [{ name := "result-out", kind := .file }], operands := 1 }

def resolveGrammar : WordGrammar :=
  { options := globalOptions ++ [
      { name := "manifest", kind := .file }, { name := "platform", kind := .text },
      { name := "platform-version", kind := .text }, { name := "arch", kind := .text }] }

def reportGrammar : WordGrammar :=
  { options := globalOptions ++ [
      { name := "result", kind := .file }, { name := "dry-run", kind := .flag },
      { name := "trace", kind := .flag }] ++ serviceOptions }

def configGrammar : WordGrammar :=
  { options := globalOptions, commands := ["init", "path", "show", "help"] }

def initGrammar : WordGrammar :=
  { options := globalOptions ++ [{ name := "force", kind := .flag }] }

def plainGrammar : WordGrammar :=
  { options := globalOptions }

/-- What asking for help comes to, with the names of commands after one another. -/
def helpOn (commands : List String) : List String → Usage
  | [] => .help
  | name :: rest =>
    if commands.contains name then
      helpOn (if name = "config" then configGrammar.commands else []) rest
    else .mistaken

def required {α : Type} : Option α → Except Usage α
  | some value => .ok value
  | none => .error .mistaken

def fileOption (words : Words) (name : String) : Option Path :=
  (words.value? name).map Path.mk

def readService (words : Words) : ServiceOptions :=
  { endpoint := words.value? "endpoint"
    archive := (words.value? "archive").bind fun name => (ArchiveKind.parse name).toOption
    manifestFile := fileOption words "manifest-file" }

def readPackage (words : Words) : Except Usage PackageOptions := do
  return {
    package := ← required words.operands.head?
    version := (words.value? "version").getD latestVersion
    service := readService words
    trace := words.has "trace" }

def readCommand (name : String) (rest : List String) : Except Usage (Command × List Words) := do
  match name with
  | "manifest" =>
    let words ← Words.read manifestGrammar {} rest
    return (.manifest (← readPackage words), [words])
  | "download" =>
    let words ← Words.read downloadGrammar {} rest
    return (.download (← readPackage words) (fileOption words "result-out"), [words])
  | "resolve" =>
    let words ← Words.read resolveGrammar {} rest
    let manifest ← required (fileOption words "manifest")
    return (.resolve {
      manifest
      platform := words.value? "platform"
      platformVersion := words.value? "platform-version"
      architecture := words.value? "arch" }, [words])
  | "report" =>
    let words ← Words.read reportGrammar {} rest
    let result ← required (fileOption words "result")
    return (.report {
      result
      dryRun := words.has "dry-run"
      service := readService words
      trace := words.has "trace" }, [words])
  | "config" =>
    let words ← Words.read configGrammar {} rest
    let (name, rest) ← required words.command
    match name with
    | "init" =>
      let below ← Words.read initGrammar {} rest
      return (.config (.init (below.has "force")), [words, below])
    | "path" => return (.config .path, [words, ← Words.read plainGrammar {} rest])
    | "show" => return (.config .show, [words, ← Words.read plainGrammar {} rest])
    | _ => throw (helpOn configGrammar.commands rest)
  | _ => throw (helpOn topGrammar.commands rest)

def read (arguments : List String) : Except Usage Invocation := do
  let words ← Words.read topGrammar {} arguments
  let (name, rest) ← required words.command
  let (command, below) ← readCommand name rest
  let levels := words :: below
  return {
    config := (levels.reverse.findSome? (·.value? "config")).map Path.mk
    verbose := levels.any (·.has "verbose")
    log := levels.any (·.has "log")
    command }

end Invocation

end Courier
