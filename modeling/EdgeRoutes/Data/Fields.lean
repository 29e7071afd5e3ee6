/-! Ordered maps as lists of pairs. Putting a value under a key that is already there keeps the key's place and
replaces the value; a new key goes to the end. -/

namespace EdgeRoutes

/-- A map from names to values in the order of first insertion. -/
abbrev Fields (β : Type) := List (String × β)

namespace Fields

variable {κ β : Type}

/-- Puts a value under a key, keys being compared by `same`. -/
def putBy (same : κ → κ → Bool) (m : List (κ × β)) (key : κ) (value : β) : List (κ × β) :=
  match m with
  | [] => [(key, value)]
  | (k, v) :: m => if same k key then (k, value) :: m else (k, v) :: putBy same m key value

def put (m : Fields β) (name : String) (value : β) : Fields β :=
  putBy (· == ·) m name value

/-- The value under a name. -/
def get? (m : Fields β) (name : String) : Option β :=
  (m.find? (·.1 == name)).map (·.2)

/-- The name is a key. -/
def has (m : Fields β) (name : String) : Bool :=
  m.any (·.1 == name)

/-- Puts the entries of `n`, in order, into `m`. -/
def update (m n : Fields β) : Fields β :=
  n.foldl (fun m e => put m e.1 e.2) m

/-- The map that a list of entries builds. -/
def ofList (entries : List (String × β)) : Fields β :=
  update [] entries

/-- The keys in order. -/
def keys (m : Fields β) : List String :=
  m.map (·.1)

end Fields

end EdgeRoutes
