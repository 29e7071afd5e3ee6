import EdgeRoutes.Data.Json.Writer
import EdgeRoutes.Data.Yaml.Library
import EdgeRoutes.Script.Report
import EdgeRoutes.Settings.Basic

/-! Settings files. Their names tell the format: YAML, for which there is a library, or JSON. A file that is missing or
malformed is reported, and the defaults are used instead. -/

namespace EdgeRoutes

open Files

/-- The source of events about settings. -/
def settingsSource : String := "edgeconf.utils.config"

def settingsVariable : String := "EDGECONF_CONFIG"

structure LoadedSettings where
  file : Option Path
  settings : Settings

/-- The file holds YAML; any other file holds JSON. -/
def isYamlPath (p : Path) : Bool :=
  [".yaml", ".yml"].contains (Text.lower p.suffix)

/-- Why a settings file cannot be used. -/
def jsonFailure : Json.ReadError → String
  | .integer cause => Fault.integerMessage cause
  | .defect what place =>
    what.message ++ ": line " ++ toString place.line ++ " column " ++ toString place.column ++
      " (char " ++ toString place.offset ++ ")"

/-- The data in the bytes of a settings file, or why there is none. -/
def parseSettings (yaml : YamlLibrary) (p : Path) (bytes : Bytes) : Except String Data :=
  match decode bytes with
  | .error e => .error e.message
  | .ok text => if isYamlPath p then yaml.load text else (Json.read text).mapError jsonFailure

/-- Reports an event about settings. -/
def reportSettings (setup : LogSetup) (level : Level) (message : String) : Script Unit :=
  setup.write ⟨settingsSource, level, message⟩

/-- The data of a settings file; nothing where it cannot be used. -/
def readSettings (yaml : YamlLibrary) (setup : LogSetup) (p : Path) : Script Data := do
  if !(← Script.request (.isPresent p)) then
    reportSettings setup .warning ("Configuration file " ++ p.text ++ " not found, using defaults")
    return .map []
  let parsed : Except String Data := match ← Script.request (.read p) with
    | .error e => .error e.message
    | .ok bytes => parseSettings yaml p bytes
  match parsed with
  | .error reason =>
    reportSettings setup .error ("Failed to load configuration: " ++ reason)
    return .map []
  | .ok (.map entries) =>
    reportSettings setup .info ("Loaded configuration from " ++ p.text)
    return .map entries
  | .ok _ =>
    reportSettings setup .warning
      ("Configuration file " ++ p.text ++ " is not a mapping, using defaults")
    return .map []

/-- The settings file to use: the one that is named, else the one that the environment names. -/
def settingsPath (file : Option String) : Script (Option Path) := do
  match file.filter (· != "") with
  | some file => return some (Path.ofString file)
  | none =>
    let file ← Script.environmentValue settingsVariable
    return (file.filter (· != "")).map Path.ofString

def loadSettings (setup : LogSetup) (file : Option String) (yaml : YamlLibrary := Yaml.byIndentation) :
    Run LoadedSettings := do
  let path ← Run.lift (settingsPath file)
  let data ← match path with
    | none => pure (.map [])
    | some p => Run.lift (readSettings yaml setup p)
  let level ← Run.lift (Script.environmentValue LogSetup.levelVariable)
  let settings ← Settings.ofData data level
  return { file := path, settings }

def settingsText (yaml : YamlLibrary) (p : Path) (s : Settings) : String :=
  if isYamlPath p then yaml.dump (s.entries.map fun (name, d) => (.text name, d))
  else Json.page 0 s.toData

/-- Saves settings, by default to the file they came from. -/
def saveSettings (setup : LogSetup) (s : LoadedSettings) (file : Option String)
    (yaml : YamlLibrary := Yaml.byIndentation) : Run Unit := do
  let named := (file.filter (· != "")).map Path.ofString
  match named <|> s.file with
  | none => throw .noSettingsPath
  | some p =>
    Run.ofFile (Script.request (.write p (encode (settingsText yaml p s.settings))))
    Run.lift (reportSettings setup .info ("Configuration saved to " ++ p.text))

/-- The settings that the whole program shares, once there are any. -/
structure SharedSettings where
  current : Option LoadedSettings := none

/-- The shared settings. Where there are none yet, they are loaded from the file that the environment names. -/
def SharedSettings.get (shared : SharedSettings) (setup : LogSetup) (yaml : YamlLibrary := Yaml.byIndentation) :
    Run (LoadedSettings × SharedSettings) := do
  match shared.current with
  | some s => return (s, shared)
  | none =>
    let s ← loadSettings setup none yaml
    return (s, { current := some s })

def SharedSettings.set (_ : SharedSettings) (s : LoadedSettings) : SharedSettings := { current := some s }

end EdgeRoutes
