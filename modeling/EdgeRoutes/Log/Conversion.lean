import EdgeRoutes.Directive.Basic
import EdgeRoutes.Log.Event

/-! The events that every conversion has: its start, what validation found, locations that only answer with an error,
and directives that could not be taken over. -/

namespace EdgeRoutes.Event

/-- Code for a target is about to be generated. -/
def started (source target : String) (servers : Int) : Event :=
  ⟨source, .info, "Generating '" ++ target ++ "' output for " ++ toString servers ++ " server block(s)"⟩

/-- What a validation found: warnings, then errors, then how many there are. -/
def findings (source target : String) (errors warnings : List String) : List Event :=
  let event (level : Level) (text : String) : Event := ⟨source, level, "[" ++ target ++ "] " ++ text⟩
  warnings.map (event .warning) ++ errors.map (event .error) ++
    [event .debug ("validation finished: " ++ toString errors.length ++ " error(s), " ++
      toString warnings.length ++ " warning(s)")]

/-- A location answers with an error because its upstream cannot be reached. -/
def degraded (source target path reason : String) : Event :=
  ⟨source, .warning,
    "[" ++ target ++ "] location '" ++ path ++ "' degraded to 502 response: " ++ reason⟩

/-- A directive cannot be taken over as it is. -/
def anomaly (source message : String) (line : Option LineMark) : Event :=
  ⟨source, .warning, message ++ LineMark.remark line⟩

end EdgeRoutes.Event
