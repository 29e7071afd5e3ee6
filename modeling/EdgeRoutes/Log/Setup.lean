import EdgeRoutes.Data.Fields
import EdgeRoutes.Log.Event
import EdgeRoutes.Text.Cut

/-! Where events go: which ones are written, to which file besides the error stream, and how their lines look. -/

namespace EdgeRoutes

/-- The source that all events of the converter have in common. -/
def rootSource : String := "edgeconf"

/-- The full name of an event source. -/
def sourceNamed (name : String) : String :=
  if name == rootSource || Text.startsWith name (rootSource ++ ".") then name
  else rootSource ++ "." ++ name

def weightNames : Fields Nat :=
  [("CRITICAL", 50), ("FATAL", 50), ("ERROR", 40), ("WARNING", 30), ("WARN", 30), ("INFO", 20),
    ("DEBUG", 10), ("NOTSET", 0)]

/-- The capital of a letter, where that is an ASCII letter. -/
def capital (c : Char) : Char :=
  if c = '\u0131' then 'I' else if c = '\u017f' then 'S' else c.toUpper

/-- The weight that a name stands for, letter case apart; other names stand for that of information. -/
def weightNamed (name : String) : Nat :=
  (weightNames.get? (String.ofList (name.toList.map capital))).getD Level.info.weight

/-- What is written of the events. -/
structure LogSetup where
  /-- The least weight that is written. -/
  weight : Nat
  /-- A file that gets the lines too. -/
  file : Option String := none
  deriving DecidableEq

namespace LogSetup

/-- The least weight in effect. Weight zero asks for nothing in particular, and then warnings are the least. -/
def threshold (s : LogSetup) : Nat :=
  if s.weight = 0 then Level.warning.weight else s.weight

/-- The event is written. -/
def admits (s : LogSetup) (e : Event) : Bool :=
  s.threshold ≤ e.level.weight

end LogSetup

def Event.line (e : Event) (time : String) : String :=
  time ++ " - " ++ e.source ++ " - " ++ e.level.label ++ " - " ++ e.message ++ "\n"

end EdgeRoutes
