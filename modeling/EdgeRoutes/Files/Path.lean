import EdgeRoutes.Text.Cut

/-! Paths of files: names separated by slashes. Empty names and names for the place itself are left out. -/

namespace EdgeRoutes.Files

structure Path where
  /-- The slashes that a path from the root starts with; empty for a path from the working directory. -/
  root : String
  names : List String
  deriving DecidableEq

namespace Path

/-- The slashes at the start of a path. Two of them are kept apart; more count as one. -/
def rootOf (cs : List Char) : String :=
  match (cs.takeWhile (· == '/')).length with
  | 0 => ""
  | 2 => "//"
  | _ => "/"

def ofString (s : String) : Path :=
  let names := (s.toList.splitOn '/').map String.ofList
  { root := rootOf s.toList
    names := names.filter fun name => name != "" && name != "." }

/-- The path as it is shown. -/
def text (p : Path) : String :=
  if p.root.isEmpty && p.names.isEmpty then "." else p.root ++ Text.joined "/" p.names

def child (p : Path) (name : String) : Path :=
  let q := ofString name
  if q.root.isEmpty then { p with names := p.names ++ q.names } else q

/-- The directory that holds the file at `p`. -/
def parent (p : Path) : Path :=
  { p with names := p.names.dropLast }

/-- What follows the last dot of the file's name, with the dot. A name that only starts or ends with a dot has
nothing after it. -/
def suffix (p : Path) : String :=
  match Text.cutLast? '.' (p.names.getLast?.getD "").toList with
  | some (_ :: _, c :: rest) => String.ofList ('.' :: c :: rest)
  | _ => ""

/-- The names of a path with the steps upwards carried out. -/
def collapsed (names : List String) : List String :=
  names.foldl (fun done name => if name == ".." then done.dropLast else done ++ [name]) []

/-- The path from the root, by way of a working directory if need be, with the steps upwards carried out. -/
def absolute (p : Path) (directory : List String) : Path :=
  if p.root.isEmpty then ⟨"/", collapsed (directory ++ p.names)⟩
  else ⟨p.root, collapsed p.names⟩

end Path

end EdgeRoutes.Files
