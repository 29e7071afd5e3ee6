import EdgeRoutes.Fault
import EdgeRoutes.Js.Layout
import EdgeRoutes.Pattern.Translation
import EdgeRoutes.Text.LowerCase

/-! Targets: the runtimes that code is generated for. Everything that names a target or tells one from another is
here. -/

namespace EdgeRoutes

open Pattern

/-- A runtime that code is generated for. -/
inductive Target where
  /-- A script that answers fetch events. -/
  | worker
  /-- A function that a web framework calls before its own routing. -/
  | middleware
  /-- Handlers that a content delivery network calls in the phases of a request. -/
  | edgeHook
  /-- A small embedded engine whose host provides the network. -/
  | minimal
  deriving DecidableEq

namespace Target

def all : List Target := [.worker, .middleware, .edgeHook, .minimal]

def name : Target → String
  | .worker => "worker"
  | .middleware => "middleware"
  | .edgeHook => "edge-hook"
  | .minimal => "minimal"

/-- Other names of the target. -/
def aliases : Target → List String
  | .worker => ["cloudflare", "cf"]
  | .middleware => ["nextjs", "next"]
  | .edgeHook => ["lambda-edge", "lambda"]
  | .minimal => ["quickjs"]

/-- The file that the code goes to unless another one is asked for. -/
def filename : Target → String
  | .worker => "worker.js"
  | .middleware => "middleware.ts"
  | .edgeHook => "edge-hook.js"
  | .minimal => "minimal.js"

def extension : Target → String
  | .middleware => ".ts"
  | _ => ".js"

def description : Target → String
  | .worker => "Fetch-event worker (Cloudflare Workers style)"
  | .middleware => "HTTP middleware (Next.js style)"
  | .edgeHook => "CDN request/response hooks (Lambda@Edge style)"
  | .minimal => "Minimal embeddable runtime (QuickJS style)"

/-- The engine that runs the patterns of the emitted code. -/
def dialect : Target → Dialect
  | .minimal => .minimal
  | _ => .ecmascript

/-- The name under which events speak of the target's generator. -/
def generatorName : Target → String
  | .worker => "WorkerGenerator"
  | .middleware => "MiddlewareGenerator"
  | .edgeHook => "EdgeHookGenerator"
  | .minimal => "MinimalRuntimeGenerator"

/-- The source of the events that a generator of the target reports. -/
def eventSource : Target → String
  | .worker => "edgeconf.codegen.targets.worker"
  | .middleware => "edgeconf.codegen.targets.middleware"
  | .edgeHook => "edgeconf.codegen.targets.edge_hook"
  | .minimal => "edgeconf.codegen.targets.minimal_runtime"

/-- The name or alias denotes the target. -/
def answersTo (t : Target) (name : String) : Bool :=
  name == t.name || t.aliases.contains name

/-- The target that a name denotes. Letter case and blanks around the name do not matter. -/
def named (name : String) : Except Fault Target :=
  match all.find? (·.answersTo (Text.lower (Text.trim name))) with
  | some target => .ok target
  | none => .error (.unknownTarget name (all.map Target.name))

end Target

/-- How the code is written. -/
structure Options where
  /-- Blanks for each level of nesting. -/
  indentSize : Int := 2
  /-- Comments are written. -/
  comments : Bool := true
  deriving DecidableEq

/-- One level of indentation. -/
def Options.indent (o : Options) : String :=
  Js.spaces o.indentSize.toNat

end EdgeRoutes
