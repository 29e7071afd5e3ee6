import EdgeRoutes.Script.Report

/-! The logger that all sources of events share. It passes an event to its handlers, and to the handlers above it unless
that is turned off. Setting it up replaces its handlers. -/

namespace EdgeRoutes

open Files

/-- Where a handler writes. -/
inductive Sink where
  | errorStream
  | file (path : Path)
  deriving DecidableEq

/-- A handler writes the events that have at least its weight. -/
structure Handler where
  sink : Sink
  weight : Nat
  deriving DecidableEq

/-- Writes an event of the given time. -/
def Handler.emit (h : Handler) (time : String) (e : Event) : Script Unit :=
  if h.weight ≤ e.level.weight then
    match h.sink with
    | .errorStream => Script.complain (e.line time)
    | .file path => do
      let _ ← Script.request (.append path (encode (e.line time)))
      return
  else return

/-- A logger. A new one has no handlers of its own. -/
structure Logger where
  weight : Nat := 0
  handlers : List Handler := []
  /-- Events go on to the handlers above. -/
  propagates : Bool := true
  deriving DecidableEq

namespace Logger

/-- The least weight that is passed on. A logger of weight zero takes that of the logger above it, which is set to
warnings. -/
def threshold (l : Logger) : Nat :=
  if l.weight = 0 then Level.warning.weight else l.weight

/-- Passes an event to the handlers of the logger and to those above it. Where there are none at all, the text of a
warning or of anything worse is still shown. -/
def log (l : Logger) (above : List (Event → Script Unit)) (e : Event) : Script Unit :=
  if l.threshold ≤ e.level.weight then do
    let time ← Script.request .clock
    match l.handlers.map (·.emit time) ++ (if l.propagates then above else []) with
    | [] => if Level.warning.weight ≤ e.level.weight then Script.complain (e.message ++ "\n") else return
    | handlers => Script.forEach (· e) handlers
  else return

def add (l : Logger) (h : Handler) : Logger :=
  { l with handlers := l.handlers ++ [h] }

def remove (l : Logger) (h : Handler) : Logger :=
  { l with handlers := l.handlers.erase h }

def clear (l : Logger) : Logger :=
  l.handlers.foldl remove l

/-- Sets up for a level and a file, in place of whatever was set up before. A file that cannot be opened is a fault, and
then the logger is left half set up. -/
def setUp (l : Logger) (level file : Option String) : Script (Logger × Except Fault Unit) := do
  let weight ← LogSetup.requestedWeight level
  let l := clear { l with weight }
  let l := l.add ⟨.errorStream, weight⟩
  match file.filter (· != "") with
  | none => return ({ l with propagates := false }, .ok ())
  | some file =>
    let directory ← Script.request .workingDirectory
    let path := (Path.ofString file).absolute directory
    match ← Script.request (.append path []) with
    | .ok _ =>
      let l := l.add ⟨.file path, weight⟩
      return ({ l with propagates := false }, .ok ())
    | .error e => return (l, .error (.file e))

end Logger

end EdgeRoutes
