import EdgeRoutes.CommandLine.Words

/-! Invocations: what a whole command line asks for. -/

namespace EdgeRoutes.CommandLine

/-- A command with all it needs. An empty text stands for an option that is not given. -/
inductive Command where
  | targets
  | parse (tree : Option String) (output : String) (pretty : Bool)
  | validate (target : String) (tree : Option String)
  | generate (target : String) (tree : Option String) (output directory : String)
  deriving DecidableEq

structure Invocation where
  settings : String
  verbose : Bool
  command : Command
  deriving DecidableEq

/-- The command that the words after it complete. -/
def Command.ofReading (v : Verb) (r : Reading) : Command :=
  match v with
  | .targets => .targets
  | .parse => .parse (r.operand .tree) (r.value .modelFile) (r.has .pretty)
  | .validate => .validate ((r.operand .target).getD "") (r.operand .tree)
  | .generate =>
    .generate ((r.operand .targets).getD "") (r.operand .tree) (r.value .sourceFile)
      (r.value .directory)

/-- Reads a command line. Words that mean nothing are refused at the end, as far as nothing else was wrong. -/
def Invocation.read (words : List String) : Except Stop Invocation := do
  let outer ← Form.main.read words
  match outer.tail with
  | [] => .error (.misuse Form.main (.missing ["command"]))
  | word :: rest =>
    match Verb.named? word with
    | none => .error (.misuse Form.main (.unknownVerb word))
    | some v =>
      let form := Form.ofVerb v
      let inner ← form.read rest
      if !inner.missing.isEmpty then
        .error (.misuse form (.missing (inner.missing.map Operand.name)))
      else if !(outer.extras ++ inner.extras).isEmpty then
        .error (.misuse Form.main (.unrecognized (outer.extras ++ inner.extras)))
      else
        .ok {
          settings := outer.value .settings
          verbose := outer.has .verbose
          command := Command.ofReading v inner }

end EdgeRoutes.CommandLine
