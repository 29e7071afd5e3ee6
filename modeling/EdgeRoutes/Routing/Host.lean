import EdgeRoutes.Routing.Condition
import EdgeRoutes.Text.LowerCase

/-! Conditions on the host name. A server without names, or with the name `*`, answers for every host. -/

namespace EdgeRoutes

open Pattern

namespace Host

def pattern? (name : String) : Option String :=
  match name.toList with
  | '~' :: cs => some (String.ofList cs)
  | _ => none

def globSegments (name : List Char) : List Segment :=
  ((name.splitOn '*').map fun piece => Segment.text (String.ofList piece)).intersperse .anything

/-- The test that a server name makes. -/
def test (dialect : Dialect) (name : String) : Except Fault Test :=
  match pattern? name with
  | some pattern => (translate pattern dialect false).map Translation.test
  | none =>
    .ok <|
      if name.toList.contains '*' then .matchesSegments (globSegments (Text.lower name).toList)
      else match name.toList with
        | '.' :: domain =>
          .matchesSegments [.subdomains, .text (Text.lower (String.ofList domain))]
        | _ => .equals (Text.lower name)

/-- The condition that the names of a server put on the host. -/
def condition (names : List String) (dialect : Dialect) : Except Fault Condition :=
  if names.isEmpty || names.contains "*" then .ok ⟨[.constant true], false⟩
  else do
    let tests ← names.mapM (test dialect)
    return ⟨tests, false⟩

def nameProblems (dialect : Dialect) (name : String) : Except Fault (List String) :=
  match pattern? name with
  | none => .ok []
  | some pattern => do
    let t ← translate pattern dialect false
    return t.problems.map fun p => "server_name " ++ name ++ ": " ++ p.message

/-- The problems of the server names that are patterns. -/
def problems (names : List String) (dialect : Dialect) : Except Fault (List String) := do
  let found ← names.mapM (nameProblems dialect)
  return found.flatten

end Host

end EdgeRoutes
