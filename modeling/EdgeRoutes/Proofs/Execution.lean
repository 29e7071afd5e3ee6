import EdgeRoutes.Program.Print

/-! What emitted code does with a request. How patterns match, what they are replaced by and how variables are filled
in is left to an engine, so that everything said here holds for each of them. -/

namespace EdgeRoutes

/-- The parts of a runtime that emitted code relies on. Of all variables only the one for the path changes while a
request is handled, so the others belong to the engine. -/
structure Engine where
  matchesPattern : (source : String) → (ignoreCase : Bool) → (value : String) → Bool
  /-- The path with the first match replaced. -/
  substitute : (s : Substitution) → (path : String) → String
  /-- A text with its variables filled in, `uri` being the one for the path. -/
  expand : (uri : String) → (text : String) → String

/-- What statements read and change: the path, the variable for it, and whether a rule has changed the path. -/
structure RequestState where
  path : String
  uri : String
  rewritten : Bool
  deriving DecidableEq

/-- A request whose variable for the path agrees with the path. Every request is one when routing starts. -/
def RequestState.ofPath (path : String) (rewritten : Bool) : RequestState := ⟨path, path, rewritten⟩

/-- How statements leave a request. -/
inductive Verdict where
  | redirected (url : String) (code : Nat) (headers : Fields String)
  /-- Any other ending, for the request as it was then. -/
  | ended (ending : Ending) (request : RequestState)
  /-- The statements came to their end. -/
  | passed (request : RequestState)

namespace Engine

variable (e : Engine)

def tests (p : PathPattern) (path : String) : Bool :=
  e.matchesPattern p.source p.ignoreCase path

/-- The text that the substitution gives for a request, with its variables filled in. -/
def replaced (s : Substitution) (r : RequestState) : String :=
  e.expand r.uri (e.substitute s r.path)

/-- The three assignments that change the path. -/
def rewrite (s : Substitution) (r : RequestState) : RequestState :=
  RequestState.ofPath (e.replaced s r) true

def finish (r : RequestState) : Ending → Verdict
  | .redirect (.url text) code headers => .redirected (e.expand r.uri text) code headers
  | .redirect (.replaced s) code headers => .redirected (e.replaced s r) code headers
  | ending => .ended ending r

end Engine

mutual

def Statement.run (e : Engine) : Statement → RequestState → Verdict
  | .comment _, r => .passed r
  | .rewrite s, r => .passed (e.rewrite s r)
  | .branch p body none, r => if e.tests p r.path then Statement.runAll e body r else .passed r
  | .branch p body (some otherwise), r =>
    if e.tests p r.path then Statement.runAll e body r else Statement.runAll e otherwise r
  | .finish ending, r => e.finish r ending

/-- What statements do one after the other, up to the first that ends the request. -/
def Statement.runAll (e : Engine) : List Statement → RequestState → Verdict
  | [], r => .passed r
  | s :: ss, r =>
    match s.run e r with
    | .passed next => Statement.runAll e ss next
    | verdict => verdict

end

/-- A test on a value. Segments are tested by the pattern that they are written as. -/
def Test.holds (e : Engine) (value : String) : Test → Bool
  | .constant b => b
  | .equals text => value == text
  | .startsWith text => Text.startsWith value text
  | .matchesPattern source ignoreCase => e.matchesPattern source ignoreCase value
  | .matchesSegments segments =>
    e.matchesPattern ("^" ++ String.join (segments.map Segment.render) ++ "$") true value

/-- One of the tests succeeds. -/
def Condition.holds (e : Engine) (value : String) (c : Condition) : Bool :=
  c.tests.any (Test.holds e value)

end EdgeRoutes
