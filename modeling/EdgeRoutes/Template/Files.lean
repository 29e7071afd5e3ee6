import EdgeRoutes.Template.EdgeHook
import EdgeRoutes.Template.Middleware
import EdgeRoutes.Template.Minimal
import EdgeRoutes.Template.Worker

/-! The template files that come with the converter. They are found by their paths. -/

namespace EdgeRoutes.Template

def files : List (String × List Piece) :=
  [("_header.j2", header), ("_vars.js.j2", variableExpansion), ("worker.js.j2", worker),
    ("middleware.ts.j2", middleware), ("edge_hook.js.j2", edgeHook), ("minimal.js.j2", minimal)]

/-- The names that a path leads through; those that lead nowhere else are left out. -/
def steps (path : String) : List String :=
  ((path.toList.splitOn '/').map String.ofList).filter fun step => step != "" && step != "."

def named (path : String) : Except Fault (List Piece) :=
  match files.find? fun (name, _) => name == Text.joined "/" (steps path) with
  | some (_, template) => .ok template
  | none => .error (.general ("Template rendering failed: " ++ path) [("template", .text path)])

def render (path : String) (context : Context) : Except Fault String :=
  (named path).bind (Piece.fillAll context)

end EdgeRoutes.Template
