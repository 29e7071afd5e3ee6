import EdgeRoutes.Generate.Source

/-! The command line: its commands, and the options and operands that each of them takes. -/

namespace EdgeRoutes.CommandLine

inductive Verb where
  | targets
  | parse
  | validate
  | generate
  deriving DecidableEq

namespace Verb

def all : List Verb := [.targets, .parse, .validate, .generate]

def name : Verb → String
  | .targets => "targets"
  | .parse => "parse"
  | .validate => "validate"
  | .generate => "generate"

def meaning : Verb → String
  | .targets => "List supported targets"
  | .parse => "Print the Configuration Model as JSON"
  | .validate => "Validate a configuration for a target"
  | .generate => "Generate code for a target or 'all'"

/-- The command that a word names. It has to be spelled out. -/
def named? (word : String) : Option Verb :=
  all.find? (·.name == word)

end Verb

/-- An option. -/
inductive Switch where
  | help
  | version
  /-- The settings file. -/
  | settings
  | verbose
  /-- The file for the configuration model. -/
  | modelFile
  | pretty
  /-- The file for the source of one target. -/
  | sourceFile
  /-- The directory for sources. -/
  | directory
  deriving DecidableEq

namespace Switch

/-- The spellings of the option. One with a single dash has a single letter. -/
def spellings : Switch → List String
  | .help => ["-h", "--help"]
  | .version => ["--version"]
  | .settings => ["--config"]
  | .verbose => ["--verbose", "-v"]
  | .modelFile | .sourceFile => ["-o", "--output"]
  | .pretty => ["--pretty"]
  | .directory => ["-d", "--output-dir"]

/-- What stands for the value of the option; an option without it takes no value. -/
def placeholder? : Switch → Option String
  | .settings => some "CONFIG"
  | .modelFile | .sourceFile => some "OUTPUT"
  | .directory => some "OUTPUT_DIR"
  | _ => none

def takesValue (s : Switch) : Bool := s.placeholder?.isSome

def meaning : Switch → String
  | .help => "show this help message and exit"
  | .version => "show program's version number and exit"
  | .settings => "Converter configuration file (YAML or JSON)"
  | .verbose => "Verbose output"
  | .modelFile => "Write to a file instead of stdout"
  | .pretty => "Indent the JSON output"
  | .sourceFile => "Output file (single target)"
  | .directory => "Output directory (default from configuration)"

/-- All spellings, as messages name the option. -/
def title (s : Switch) : String := Text.joined "/" s.spellings

end Switch

/-- A word that a command needs. -/
inductive Operand where
  | target
  /-- A target, or all of them. -/
  | targets
  /-- The file with the directive tree. -/
  | tree
  deriving DecidableEq

namespace Operand

def name : Operand → String
  | .target | .targets => "target"
  | .tree => "tree"

def meaning : Operand → String
  | .target => "Target name or alias"
  | .targets => "Target name, alias, or 'all'"
  | .tree => "JSON directive tree"

end Operand

/-- What the words after some point of the command line may be. -/
structure Form where
  /-- The words up to there. -/
  program : String
  description : String := ""
  switches : List Switch
  operands : List Operand := []
  /-- The commands that can follow. A form with commands has no operands. -/
  verbs : List Verb := []

namespace Form

def programName : String := "edgeconf"

def main : Form where
  program := programName
  description := "Convert a parsed nginx configuration into edge runtime code"
  switches := [.help, .version, .settings, .verbose]
  verbs := Verb.all

def ofVerb (v : Verb) : Form where
  program := programName ++ " " ++ v.name
  switches := .help :: match v with
    | .targets | .validate => []
    | .parse => [.modelFile, .pretty]
    | .generate => [.sourceFile, .directory]
  operands := match v with
    | .targets => []
    | .parse => [.tree]
    | .validate => [.target, .tree]
    | .generate => [.targets, .tree]

/-- The spellings of all options. -/
def spellings (f : Form) : List (String × Switch) :=
  f.switches.flatMap fun s => s.spellings.map fun spelling => (spelling, s)

def switch? (f : Form) (spelling : String) : Option Switch :=
  (f.spellings.find? (·.1 == spelling)).map (·.2)

end Form

/-- What the program says about its version. -/
def versionLine : String := Form.programName ++ " " ++ version ++ "\n"

end EdgeRoutes.CommandLine
