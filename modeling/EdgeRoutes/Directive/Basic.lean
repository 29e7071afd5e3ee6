/-! Directive trees: what a parsed configuration file looks like before its directives are understood. -/

namespace EdgeRoutes

/-- The line that a directive carries. Parsers write a number; a truth value in its place is kept. -/
inductive LineMark where
  | number (n : Int)
  | flag (b : Bool)
  deriving DecidableEq

namespace LineMark

/-- The mark as messages write it. -/
def display : LineMark → String
  | .number n => toString n
  | .flag b => if b then "True" else "False"

/-- The remark that ends a message about a directive with a line. -/
def remark : Option LineMark → String
  | none => ""
  | some line => " (line " ++ line.display ++ ")"

end LineMark

/-- A directive without its block: a name, arguments and the line it came from. -/
structure Directive where
  name : String
  args : List String
  line : Option LineMark
  deriving DecidableEq

/-- A directive that stands alone or opens a block. -/
inductive Node where
  | simple (head : Directive)
  | block (head : Directive) (body : List Node)

namespace Node

def head : Node → Directive
  | .simple head => head
  | .block head _ => head

def name (n : Node) : String := n.head.name

def args (n : Node) : List String := n.head.args

def line (n : Node) : Option LineMark := n.head.line

def isBlock : Node → Bool
  | .simple _ => false
  | .block _ _ => true

/-- The directives inside the block; none when there is no block. -/
def children : Node → List Node
  | .simple _ => []
  | .block _ body => body

mutual

/-- The directive and everything in its block, depth first. -/
def walk : Node → List Directive
  | .simple head => [head]
  | .block head body => head :: walkAll body

/-- All directives of a list of nodes, depth first. -/
def walkAll : List Node → List Directive
  | [] => []
  | n :: ns => n.walk ++ walkAll ns

end

end Node

end EdgeRoutes
