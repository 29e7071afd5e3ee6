import EdgeRoutes.Files.Path
import EdgeRoutes.Target

/-! Settings of the converter: how code is written, what is logged, and where code for several targets goes. They come
from a settings file in which every part may be missing. -/

namespace EdgeRoutes

open Number

/-- The settings. What a file gives for the log file and for the directory is kept as it is. -/
structure Settings where
  options : Options := {}
  level : String := "INFO"
  logsToFile : Bool := false
  logFile : Data := .text "edgeconf.log"
  directory : Data := .text "./edge-configs"
  targets : List String := Target.all.map Target.name

/-- The whole number that data stands for. -/
def Data.toInteger : Data → Except Fault Int
  | .scalar (.int n) => .ok n
  | .scalar (.bool b) => .ok (if b then 1 else 0)
  | .scalar (.float .nan) => .error .notANumber
  | .scalar (.float (.infinite _)) => .error .infinite
  | .scalar (.float (.finite negative x)) =>
    let n : Int := x.floor
    .ok (if negative then -n else n)
  | .scalar (.text s) => (readInteger s).mapError .integer
  | d => .error (.notNumeric d.kind)

namespace Settings

/-- A part of a settings file. What is no map has no entries. -/
def part (data : Data) (name : String) : Data :=
  match data.get? name with
  | some (.map entries) => .map entries
  | _ => .map []

/-- The targets that a settings file names; a value that counts as false names none. -/
def targetsOf (value : Option Data) : Except Fault (List String) :=
  match value with
  | none => .ok []
  | some data =>
    if !data.truthy then .ok []
    else
      match data.members? with
      | some members => .ok (members.map Data.display)
      | none => .error (.notIterable data.kind)

/-- The settings that data gives. A level from the environment comes before that of the file. -/
def ofData (data : Data) (environmentLevel : Option String) : Except Fault Settings := do
  let base : Settings := {}
  let generation := part data "generation"
  let logging := part data "logging"
  let output := part data "output"
  let indentSize ← match generation.get? "indent_size" with
    | some d => d.toInteger
    | none => pure base.options.indentSize
  let named ← targetsOf (output.get? "targets")
  return {
    options := {
      indentSize
      comments := ((generation.get? "emit_comments").map Data.truthy).getD base.options.comments }
    level := match environmentLevel.filter (· != "") with
      | some level => level
      | none => ((logging.get? "level").map Data.display).getD base.level
    logsToFile := ((logging.get? "enable_file_logging").map Data.truthy).getD base.logsToFile
    logFile := (logging.get? "log_file").getD base.logFile
    directory := (output.get? "directory").getD base.directory
    targets := if named.isEmpty then base.targets else named }

/-- The parts of a settings file that gives these settings. -/
def entries (s : Settings) : Fields Data :=
  [("generation", .object
      [("indent_size", .int s.options.indentSize), ("emit_comments", .bool s.options.comments)]),
    ("logging", .object
      [("level", .text s.level), ("enable_file_logging", .bool s.logsToFile),
        ("log_file", s.logFile)]),
    ("output", .object [("directory", s.directory), ("targets", .texts s.targets)])]

def toData (s : Settings) : Data := .object s.entries

/-- The text that names a file. -/
def pathText (data : Data) : Except Fault String :=
  match data with
  | .scalar (.text s) => .ok s
  | d => .error (.notPath d.kind)

/-- The file that events are logged to besides the error stream. A value that counts as false names none. -/
def logPath (s : Settings) : Except Fault (Option String) :=
  if s.logsToFile && s.logFile.truthy then (pathText s.logFile).map some else .ok none

/-- The directory for the sources of several targets. -/
def directoryPath (s : Settings) : Except Fault Files.Path :=
  (pathText s.directory).map Files.Path.ofString

end Settings

end EdgeRoutes
