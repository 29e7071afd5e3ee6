import EdgeRoutes.Log.Logged
import EdgeRoutes.Log.Setup
import EdgeRoutes.Script.Basic

/-! Events written out while a script runs, and computations that can stop with a fault inside scripts. -/

namespace EdgeRoutes

open Files

/-- A script that may stop with a fault. -/
abbrev Run (α : Type) := ExceptT Fault Script α

namespace Run

/-- A script that does not stop. -/
def lift {α : Type} (s : Script α) : Run α := ExceptT.mk (Except.ok <$> s)

/-- Stops unless the answer to a request about a file is good. -/
def ofFile {α : Type} (s : Script (Except FileError α)) : Run α :=
  ExceptT.mk ((Except.mapError Fault.file ·) <$> s)

end Run

namespace LogSetup

def write (setup : LogSetup) (e : Event) : Script Unit :=
  if setup.admits e then do
    let time ← Script.request .clock
    Script.complain (e.line time)
    match setup.file with
    | none => return
    | some file =>
      let _ ← Script.request (.append (Path.ofString file) (encode (e.line time)))
      return
  else return

def writeAll (setup : LogSetup) (events : List Event) : Script Unit :=
  Script.forEach setup.write events

/-- Carries out a computation, writing what it reports. -/
def carryOut {α : Type} (setup : LogSetup) (x : Logged α) : Run α := do
  Run.lift (setup.writeAll x.events)
  x.result

/-- The variable that names the level unless something else does. -/
def levelVariable : String := "EDGECONF_LOG_LEVEL"

/-- The weight for a level; without one the environment names it. -/
def requestedWeight (level : Option String) : Script Nat := do
  match level with
  | some name => return weightNamed name
  | none =>
    match ← Script.environmentValue levelVariable with
    | some name => return weightNamed name
    | none => return Level.info.weight

/-- Sets up for a level. A file is opened for writing at its end and is there from then on; one that cannot be opened is a
fault, and then the setup is without it. -/
def start (weight : Nat) (file : Option String) : Script (LogSetup × Except Fault Unit) := do
  match file with
  | none => return ({ weight }, .ok ())
  | some file =>
    let directory ← Script.request .workingDirectory
    let path := (Path.ofString file).absolute directory
    match ← Script.request (.append path []) with
    | .ok _ => return ({ weight, file := some path.text }, .ok ())
    | .error e => return ({ weight }, .error (.file e))

end LogSetup

end EdgeRoutes
