import EdgeRoutes.CommandLine.Invocation
import EdgeRoutes.CommandLine.Usage
import EdgeRoutes.Model.Build
import EdgeRoutes.Model.View
import EdgeRoutes.Settings.File

/-! What the commands do: configurations are read from files, shown, validated, and turned into sources. Findings go to
the error stream, and what was asked for goes to the output or to files. -/

namespace EdgeRoutes

open CommandLine Files

/-- The status that a program ends with. -/
abbrev Status := Nat

/-- Writes a line to the output. -/
def printLine (text : String) : Run Unit :=
  Run.lift (Script.print (text ++ "\n"))

/-- Writes texts to the error stream, each on a line that starts with a label. -/
def complainAll (label : String) (texts : List String) : Run Unit :=
  Run.lift (Script.forEach (fun text => Script.complain (label ++ text ++ "\n")) texts)

def warnAll (warnings : List String) : Run Unit := complainAll "warning: " warnings

/-- Makes a text the content of a file. -/
def writeText (p : Path) (text : String) : Run Unit :=
  Run.ofFile (Script.request (.write p (encode text)))

/-- Makes one directory. That it is there already is no failure. -/
def makeOneDirectory (p : Path) : Script (Except FileError Unit) := do
  match ← Script.request (.makeDirectory p) with
  | .ok _ => return .ok ()
  | .error e =>
    if e.refusal = .notFound then return .error e
    let isThere : Bool ← Script.request (.isDirectory p)
    return if isThere then .ok () else .error e

/-- Makes a directory, and up to `depth` directories above it if they are not there. -/
def makeDirectoriesUpTo (depth : Nat) (p : Path) : Run Unit := do
  match ← Run.lift (makeOneDirectory p) with
  | .ok _ => return
  | .error e =>
    if e.refusal = .notFound then
      match depth with
      | 0 => throw (.file e)
      | depth + 1 =>
        makeDirectoriesUpTo depth p.parent
        Run.ofFile (makeOneDirectory p)
    else throw (.file e)

def makeDirectories (p : Path) : Run Unit :=
  makeDirectoriesUpTo p.names.length p

/-- Reads the configuration from the file with its directive tree, and passes on the warnings about it. -/
def loadConfig (setup : LogSetup) (tree : Option String) : Run Config := do
  match tree with
  | none => throw (.notPath "list")
  | some file =>
    let path := Path.ofString file
    let bytes ← Run.ofFile (Script.request (.read path))
    let text ← (decode bytes).mapError Fault.encoding
    let config ← setup.carryOut do
      let tree ← Tree.read path.text text
      Config.build tree
    warnAll config.warnings
    return config

/-- The line about a target in the list of all targets. -/
def Target.summary (t : Target) : String :=
  let padded (text : String) (width : Nat) : String := text ++ Js.spaces (width - text.length)
  let aliases := if t.aliases.isEmpty then ""
    else " (aliases: " ++ Text.joined ", " t.aliases ++ ")"
  padded t.name 12 ++ " " ++ padded t.filename 14 ++ " " ++ t.description ++ aliases

def listTargets : Run Status := do
  Target.all.forM fun t => printLine t.summary
  return 0

/-- Shows the configuration model, or writes it to a file. -/
def showModel (setup : LogSetup) (tree : Option String) (output : String) (pretty : Bool) :
    Run Status := do
  let config ← loadConfig setup tree
  let text := if pretty then Json.page 0 config.view else Json.line config.view
  if output.isEmpty then printLine text
  else
    writeText (Path.ofString output) (text ++ "\n")
    printLine ("Configuration model written to " ++ output)
  return 0

/-- Tells whether the configuration can be converted for a target. -/
def checkConfig (setup : LogSetup) (options : Options) (target : String) (tree : Option String) :
    Run Status := do
  let config ← loadConfig setup tree
  let (target, v) ← setup.carryOut do
    let g ← Generator.create target config options
    let v ← g.validate
    return (g.target, v)
  warnAll v.warnings
  complainAll "error: " v.errors
  if v.valid then
    printLine ("Configuration is valid for target '" ++ target.name ++ "' (" ++
      toString v.warnings.length ++ " warning(s))")
    return 0
  else
    printLine ("Configuration is not valid for target '" ++ target.name ++ "' (" ++
      toString v.errors.length ++ " error(s))")
    return 1

/-- Writes a source to its file, and says so. -/
def writeSource (target : Target) (p : Path) (source : String) : Run Unit := do
  writeText p source
  printLine (target.name ++ ": wrote " ++ p.text)

/-- Reports what came of a target, and writes its source into a directory. -/
def deliver (directory : Path) (o : Outcome) : Run Unit := do
  let mark := "[" ++ o.target.name ++ "] "
  warnAll (o.findings.warnings.map (mark ++ ·))
  match o.source with
  | none => complainAll "error: " (o.findings.errors.map (mark ++ ·))
  | some source => writeSource o.target (directory.child o.target.filename) source

/-- Generates sources for the targets that the settings name. A refused target shows in the status. -/
def generateBatch (setup : LogSetup) (settings : Settings) (config : Config)
    (directory : String) : Run Status := do
  let directory ← if directory.isEmpty then settings.directoryPath
    else pure (Path.ofString directory)
  makeDirectories directory
  let outcomes ← setup.carryOut (generateAll config settings.options settings.targets)
  outcomes.forM (deliver directory)
  return if outcomes.all Outcome.ok then 0 else 1

/-- Generates the source for one target, to the output unless a file or a directory is given. -/
def generateOne (setup : LogSetup) (options : Options) (config : Config) (target : String)
    (output directory : String) : Run Status := do
  let (target, source, warnings) ← setup.carryOut do
    let g ← Generator.create target config options
    let source ← g.generate
    let v ← g.validate
    return (g.target, source, v.warnings)
  warnAll warnings
  if output.isEmpty && directory.isEmpty then Run.lift (Script.print source)
  else
    let path := if output.isEmpty then (Path.ofString directory).child target.filename
      else Path.ofString output
    makeDirectories path.parent
    writeSource target path source
  return 0

/-- Carries out a command. -/
def CommandLine.Command.perform (setup : LogSetup) (settings : Settings) : Command → Run Status
  | .targets => listTargets
  | .parse tree output pretty => showModel setup tree output pretty
  | .validate target tree => checkConfig setup settings.options target tree
  | .generate target tree output directory => do
    let config ← loadConfig setup tree
    if target == "all" then generateBatch setup settings config directory
    else generateOne setup settings.options config target output directory

/-- Reports a fault that a user can do something about. Other faults are passed on. -/
def reportFault (fault : Fault) : Run Status :=
  match fault with
  | .refused target errors _ => do
    complainAll "error: " errors
    complainAll "Generation refused for target " ["'" ++ target ++ "'"]
    return 1
  | .general _ _ | .unknownTarget _ _ | .treeFormat _ _ | .upstreamUrl _ _ | .file _ => do
    complainAll "Error: " [fault.message]
    return 1
  | _ => throw fault

/-- Tells why a command line is not carried out. -/
def CommandLine.Stop.report : Stop → Script Status
  | .help form => do
    Script.print form.help
    return 0
  | .version => do
    Script.print versionLine
    return 0
  | .misuse form what => do
    Script.complain form.usage
    Script.complain (form.program ++ ": error: " ++ what.message ++ "\n")
    return 2

/-- Does what the settings and an invocation ask for. Faults of the settings are passed on. -/
def CommandLine.Invocation.perform (yaml : YamlLibrary) (setup : LogSetup) (i : Invocation) : Run Status := do
  let loaded ← loadSettings setup (some i.settings) yaml
  let settings := loaded.settings
  let file ← settings.logPath
  let level := if i.verbose then Level.debug.label else settings.level
  let (setup, opened) ← Run.lift (LogSetup.start (weightNamed level) file)
  let _ ← (opened : Run Unit)
  tryCatch (i.command.perform setup settings) reportFault

def runProgram (words : List String) (yaml : YamlLibrary := Yaml.byIndentation) : Run Status := do
  let weight ← Run.lift (LogSetup.requestedWeight none)
  match Invocation.read words with
  | .error stop => Run.lift stop.report
  | .ok invocation => invocation.perform yaml { weight }

end EdgeRoutes
