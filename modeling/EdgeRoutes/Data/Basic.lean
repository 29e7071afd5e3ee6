import EdgeRoutes.Data.Fields
import EdgeRoutes.Number.Shortest
import EdgeRoutes.Text.Cut
import EdgeRoutes.Text.Quoted

/-! Plain data: the values that tree files and settings files hold. Maps keep the order of their entries.

Two limits of a runtime are left out: a whole number is shown in full even if it has more than 4300 digits, which is
where a runtime may refuse to, and lists and maps are nested as deeply as they are, whatever the depth of a stack. -/

namespace EdgeRoutes

open Number

/-- A value without parts. Scalars also serve as the keys of maps. -/
inductive Scalar where
  | null
  | bool (b : Bool)
  | int (n : Int)
  | float (x : Binary64)
  | text (s : String)
  deriving DecidableEq

/-- Plain data. -/
inductive Data where
  | scalar (s : Scalar)
  | list (items : List Data)
  | map (entries : List (Scalar × Data))

namespace Scalar

/-- The name of the scalar's kind, as messages give it. -/
def kind : Scalar → String
  | .null => "NoneType"
  | .bool _ => "bool"
  | .int _ => "int"
  | .float _ => "float"
  | .text _ => "str"

/-- Absent, zero and empty values count as false. -/
def truthy : Scalar → Bool
  | .null => false
  | .bool b => b
  | .int n => n != 0
  | .float x => !x.isZero
  | .text s => !s.isEmpty

/-- The number that a scalar stands for where keys are compared. -/
def keyNumber? : Scalar → Option Binary64
  | .bool b => Magnitude.ofNat b.toNat |>.map (.finite false ·)
  | .int n => Magnitude.ofNat n.natAbs |>.map (.finite (n < 0) ·)
  | .float x => some (if x.isZero then .finite false .zero else x)
  | _ => none

/-- Two keys name the same entry: equal scalars do, and so do equal numbers of different kinds. -/
def sameKey (a b : Scalar) : Bool :=
  a == b ||
    match a, b with
    | .int _, .int _ => false
    | _, _ => (a.keyNumber?).isSome && a.keyNumber? == b.keyNumber?

/-- The scalar as messages write it inside other data, text in quotes. -/
def literal : Scalar → String
  | .null => "None"
  | .bool b => if b then "True" else "False"
  | .int n => toString n
  | .float x => x.text
  | .text s => Text.quoted s

/-- The scalar as messages write it by itself. -/
def display : Scalar → String
  | .text s => s
  | s => s.literal

end Scalar

namespace Data

abbrev null : Data := .scalar .null

abbrev bool (b : Bool) : Data := .scalar (.bool b)

abbrev int (n : Int) : Data := .scalar (.int n)

abbrev text (s : String) : Data := .scalar (.text s)

def texts (ss : List String) : Data := .list (ss.map text)

/-- A map with names for keys. -/
def object (entries : Fields Data) : Data := .map (entries.map fun (k, v) => (.text k, v))

def textMap (entries : Fields String) : Data := .object (entries.map fun (k, v) => (k, text v))

/-- The name of the kind of data, as messages give it. -/
def kind : Data → String
  | .scalar s => s.kind
  | .list _ => "list"
  | .map _ => "dict"

/-- Absent, zero and empty values count as false. -/
def truthy : Data → Bool
  | .scalar s => s.truthy
  | .list items => !items.isEmpty
  | .map entries => !entries.isEmpty

def get? : Data → String → Option Data
  | .map entries, name => (entries.find? (·.1 == .text name)).map (·.2)
  | _, _ => none

mutual

/-- The data as messages write it inside other data. -/
def literal : Data → String
  | .scalar s => s.literal
  | .list items => "[" ++ Text.joined ", " (literals items) ++ "]"
  | .map entries => "\x7b" ++ Text.joined ", " (entryLiterals entries) ++ "\x7d"

def literals : List Data → List String
  | [] => []
  | d :: ds => d.literal :: literals ds

def entryLiterals : List (Scalar × Data) → List String
  | [] => []
  | (k, d) :: es => (k.literal ++ ": " ++ d.literal) :: entryLiterals es

end

/-- The data as messages write it by itself. -/
def display : Data → String
  | .scalar s => s.display
  | d => d.literal

/-- The members that a loop over the data visits: the items of a list, the keys of a map, the characters of
a text. Other data has none to visit. -/
def members? : Data → Option (List Data)
  | .list items => some items
  | .map entries => some (entries.map fun e => .scalar e.1)
  | .scalar (.text s) => some (s.toList.map fun c => text (String.singleton c))
  | .scalar _ => none

end Data

end EdgeRoutes
