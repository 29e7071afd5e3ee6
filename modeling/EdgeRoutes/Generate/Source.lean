import EdgeRoutes.Generate.Matchers
import EdgeRoutes.Generate.Validate
import EdgeRoutes.Template.Files

/-! Source files: a configuration is validated, and unless that finds an error its routing code is put into the file of
the target. -/

namespace EdgeRoutes

/-- The version that generated files name. -/
def version : String := "0.1.0"

/-- The file around the routing code of a target. -/
def Target.template : Target → List Template.Piece
  | .worker => Template.worker
  | .middleware => Template.middleware
  | .edgeHook => Template.edgeHook
  | .minimal => Template.minimal

/-- The path of that file's template. -/
def Target.templatePath : Target → String
  | .worker => "worker.js.j2"
  | .middleware => "middleware.ts.j2"
  | .edgeHook => "edge_hook.js.j2"
  | .minimal => "minimal.js.j2"

namespace Generator

/-- Makes a generator for the target that a name denotes. -/
def create (name : String) (config : Config) (options : Options) : Logged Generator := do
  let target ← Target.named name
  Logged.report "edgeconf.codegen.registry" .debug
    ("Creating " ++ target.generatorName ++ " for target '" ++ target.name ++ "'")
  return { target, config, options }

/-- What the file of the target says about the configuration: its routing code. -/
def sections (g : Generator) : Logged Template.Context := do
  match g.target with
  | .edgeHook =>
    let viewer ← g.routing (locationBody g.target) 1
    let request ← g.routes originRequestBody 1
    let response ← g.routes originResponseBody 1
    return [("viewer_request", .text viewer), ("origin_request", .text request),
      ("origin_response", .text response)]
  | .middleware =>
    let routing ← g.routing (locationBody g.target) 1
    return [("routing", .text routing), ("typescript", .bool true),
      ("matchers", .texts g.config.matchers)]
  | _ =>
    let routing ← g.routing (locationBody g.target) 1
    return [("routing", .text routing)]

/-- What the head of the file says. -/
def preamble (g : Generator) (v : Validation) : Template.Context :=
  [("version", .text version), ("target", .text g.target.name),
    ("server_count", .int g.config.servers.length),
    ("warnings", .texts (if g.options.comments then v.warnings else []))]

/-- The source for the target. -/
def generate (g : Generator) : Logged String := do
  let v ← g.validate
  if !v.valid then
    return ← Logged.fail (.refused g.target.name v.errors v.warnings)
  Logged.recorded [Event.started g.target.eventSource g.target.name g.config.servers.length]
  let sections ← g.sections
  let text ← Template.render g.target.templatePath (Fields.update (g.preamble v) sections)
  let source ← Js.reindent text g.options.indent "  "
  g.report .info ("Generated " ++ toString source.length ++ " characters of '" ++ g.target.name ++
    "' code")
  return source

end Generator

/-- What came of one target. -/
structure Outcome where
  target : Target
  /-- The source; a refused target has none. -/
  source : Option String := none
  findings : Validation := {}

def Outcome.ok (o : Outcome) : Bool := o.source.isSome

/-- Reports an event about several targets. -/
def reportBatch (level : Level) (message : String) : Logged Unit :=
  Logged.report "edgeconf.codegen.registry" level message

/-- Generates for one target; a refusal is an outcome too. -/
def generateOutcome (g : Generator) : Logged Outcome :=
  match g.generate with
  | ⟨events, .ok source⟩ => do
    Logged.recorded events
    let v ← g.validate
    return { target := g.target, source := some source, findings := ⟨[], v.warnings⟩ }
  | ⟨events, .error (.refused target errors warnings)⟩ => do
    Logged.recorded events
    reportBatch .error ("Target '" ++ g.target.name ++ "' failed: " ++
      (Fault.refused target errors warnings).message)
    return { target := g.target, findings := ⟨errors, warnings⟩ }
  | ⟨events, .error fault⟩ => ⟨events, .error fault⟩

/-- Puts an outcome in the place of an earlier one for the same target, or at the end. -/
def Outcome.put (outcomes : List Outcome) (o : Outcome) : List Outcome :=
  match outcomes with
  | [] => [o]
  | p :: rest => if p.target = o.target then o :: rest else p :: Outcome.put rest o

/-- Generates for the targets that names denote, without an end report. -/
def generateEach (config : Config) (options : Options) (outcomes : List Outcome) :
    List String → Logged (List Outcome)
  | [] => return outcomes
  | name :: names => do
    let target ← Target.named name
    let o ← generateOutcome { target, config, options }
    generateEach config options (Outcome.put outcomes o) names

/-- Generates for several targets, by default for all. One that is refused does not stop the others. -/
def generateAll (config : Config) (options : Options) (targets : List String) :
    Logged (List Outcome) := do
  let names := if targets.isEmpty then Target.all.map Target.name else targets
  let outcomes ← generateEach config options [] names
  reportBatch .info ("Generated " ++ toString (outcomes.filter Outcome.ok).length ++ " of " ++
    toString outcomes.length ++ " target(s)")
  return outcomes

end EdgeRoutes
