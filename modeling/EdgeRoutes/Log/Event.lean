/-! Events: what a conversion reports while it runs. -/

namespace EdgeRoutes

/-- How important an event is. -/
inductive Level where
  | debug
  | info
  | warning
  | error
  | critical
  deriving DecidableEq

namespace Level

/-- Levels are compared by their weight. -/
def weight : Level → Nat
  | .debug => 10
  | .info => 20
  | .warning => 30
  | .error => 40
  | .critical => 50

def label : Level → String
  | .debug => "DEBUG"
  | .info => "INFO"
  | .warning => "WARNING"
  | .error => "ERROR"
  | .critical => "CRITICAL"

end Level

/-- One thing reported: who reports it, how important it is, and the text. -/
structure Event where
  source : String
  level : Level
  message : String
  deriving DecidableEq

end EdgeRoutes
