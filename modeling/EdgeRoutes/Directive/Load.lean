import EdgeRoutes.Data.Json.Reader
import EdgeRoutes.Directive.Basic
import EdgeRoutes.Log.Logged

/-! Loading directive trees from data. A tree is a list of nodes, or a payload: an object whose `config` lists files,
each with the nodes parsed from it. The nodes of all files are joined in order. Blocks may be nested to any depth. -/

namespace EdgeRoutes

namespace Directive

/-- Where events about trees come from. -/
def source : String := "edgeconf.model.tree"

/-- The line of a node; anything but a number or a truth value counts as no line. -/
def lineOf (entries : List (Scalar × Data)) : Option LineMark :=
  match (Data.map entries).get? "line" with
  | some (.scalar (.int n)) => some (.number n)
  | some (.scalar (.bool b)) => some (.flag b)
  | _ => none

/-- The name, arguments and line of a node. Arguments of any kind become text. -/
def ofEntries (entries : List (Scalar × Data)) : Except Fault Directive :=
  let line := lineOf entries
  match (Data.map entries).get? "directive" with
  | some (.scalar (.text name)) =>
    if name.isEmpty then .error (.treeFormat "Directive node has no 'directive' name" line)
    else
      match ((Data.map entries).get? "args").getD .null with
      | .scalar .null => .ok ⟨name, [], line⟩
      | .list args => .ok ⟨name, args.map Data.display, line⟩
      | _ => .error (.treeFormat ("Arguments of '" ++ name ++ "' must be a list") line)
  | _ => .error (.treeFormat "Directive node has no 'directive' name" line)

end Directive

namespace Node

def notAnObject (kind : String) : Fault :=
  .treeFormat ("Directive node must be an object, got " ++ kind) none

mutual

def ofData : Data → Except Fault Node
  | .map entries => do
    let head ← Directive.ofEntries entries
    match ← blockOf head entries with
    | none => return .simple head
    | some body => return .block head body
  | .list _ => .error (notAnObject "list")
  | .scalar s => .error (notAnObject s.kind)

/-- The block among the entries of a node. -/
def blockOf (head : Directive) : List (Scalar × Data) → Except Fault (Option (List Node))
  | [] => .ok none
  | (key, .list items) :: rest =>
    if key = .text "block" then (listOfData items).map some else blockOf head rest
  | (key, .scalar s) :: rest =>
    if key = .text "block" then
      if s = .null then .ok none
      else .error (.treeFormat ("Block of '" ++ head.name ++ "' must be a list") head.line)
    else blockOf head rest
  | (key, .map _) :: rest =>
    if key = .text "block" then
      .error (.treeFormat ("Block of '" ++ head.name ++ "' must be a list") head.line)
    else blockOf head rest

/-- The nodes that the items of a list describe. -/
def listOfData : List Data → Except Fault (List Node)
  | [] => .ok []
  | d :: ds => do
    let n ← ofData d
    let ns ← listOfData ds
    return n :: ns

end

def headEntries (head : Directive) : Fields Data :=
  [("directive", .text head.name), ("args", .texts head.args)] ++
    (head.line.map fun line => ("line", Fault.lineData line)).toList

mutual

def toData : Node → Data
  | .simple head => .object (headEntries head)
  | .block head body => .object (headEntries head ++ [("block", .list (listToData body))])

def listToData : List Node → List Data
  | [] => []
  | n :: ns => n.toData :: listToData ns

end

end Node

/-- A directive tree. -/
abbrev Tree := List Node

namespace Tree

/-- The members of an optional part of a payload: absent and false values count as empty. -/
def membersOf (part : Option Data) : Except Fault (List Data) :=
  match part with
  | none => .ok []
  | some data =>
    if data.truthy then
      match data.members? with
      | some members => .ok members
      | none => .error (.notIterable data.kind)
    else .ok []

/-- Reports an error that the parser recorded for a file. -/
def reportError (file : Data) (error : Data) : Logged Unit :=
  .report Directive.source .warning
    ("Parser reported error in " ++ file.display ++ ": " ++ error.display)

/-- The nodes of one file of a payload. Errors that the parser recorded are passed on as warnings. -/
def ofFile (entry : Data) : Logged Tree :=
  match entry with
  | .map _ => do
    let errors ← membersOf (entry.get? "errors")
    let _ ← Logged.forEach (reportError ((entry.get? "file").getD (.text "<unknown>"))) errors
    let nodes ← membersOf (entry.get? "parsed")
    Node.listOfData nodes
  | _ => .fail (.treeFormat "Payload 'config' entries must be objects" none)

/-- The parser's verdict on a payload is fine when it is absent or `ok`. -/
def statusWarning (status : Option Data) : Logged Unit :=
  match status with
  | none | some (.scalar .null) | some (.scalar (.text "ok")) => pure ()
  | some data =>
    .report Directive.source .warning
      ("Parser payload reports status '" ++ data.display ++ "'")

def load (data : Data) : Logged Tree :=
  match data with
  | .map _ =>
    match data.get? "config" with
    | none => .fail (.treeFormat "Payload object has no 'config' list" none)
    | some (.list files) => do
      statusWarning (data.get? "status")
      let trees ← Logged.forEach ofFile files
      return trees.flatten
    | some _ => .fail (.treeFormat "Payload 'config' must be a list" none)
  | .list items => Node.listOfData items
  | .scalar s =>
    .fail (.treeFormat ("Directive tree must be a list or payload object, got " ++ s.kind) none)

/-- What may stand in a list that is loaded: a node as it is, or data that describes one. -/
inductive Item where
  | node (n : Node)
  | data (d : Data)

/-- The node of an item, if it is one as it stands. -/
def Item.node? : Item → Option Node
  | .node n => some n
  | .data _ => none

def Item.read : Item → Except Fault Node
  | .node n => .ok n
  | .data d => Node.ofData d

/-- What a tree is loaded from: data, or a list in which nodes may stand as they are. -/
inductive Source where
  | data (d : Data)
  | list (items : List Item)

def Source.load : Source → Logged Tree
  | .data d => Tree.load d
  | .list items => Logged.lift (items.mapM Item.read)

/-- The nodes of a list in which nothing else stands. -/
def Source.nodes? : Source → Option (List Node)
  | .data _ => none
  | .list items => items.mapM Item.node?

/-- Loads a tree from the text of the file at `path`. -/
def read (path text : String) : Logged Tree :=
  match Json.read text with
  | .error (.integer cause) => .fail (.integer cause)
  | .error (.defect what place) =>
    .fail (.treeFormat (path ++ " is not valid JSON: " ++ what.message) (some (.number place.line)))
  | .ok data => do
    let tree ← load data
    .report Directive.source .debug
      ("Loaded " ++ toString tree.length ++ " top-level directive(s) from " ++ path)
    return tree

end Tree

end EdgeRoutes
