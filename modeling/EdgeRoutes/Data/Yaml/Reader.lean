import EdgeRoutes.Data.Yaml.Plain
import EdgeRoutes.Data.Yaml.Token

/-! Reading settings files: maps and lists by indentation or in brackets, plain and quoted text, comments, and marks
around the one document. A file that is malformed gives nothing. -/

namespace EdgeRoutes.Yaml

def scalarValue (text : String) (plain : Bool) : Option Scalar :=
  if plain then plainValue text else some (.text text)

/-- Puts an entry into a map. Only a scalar can be a key. -/
def putEntry (entries : List (Scalar × Data)) (key value : Data) : Option (List (Scalar × Data)) :=
  match key with
  | .scalar k => some (Fields.putBy Scalar.sameKey entries k value)
  | _ => none

mutual

/-- The value at the start of the tokens. Outside brackets blocks are allowed; `indentless` allows a list whose
entries are not indented. Each call spends one unit of fuel. -/
def node (fuel : Nat) (block indentless : Bool) (ts : List Token) : Option (Data × List Token) :=
  match fuel with
  | 0 => none
  | fuel + 1 =>
    match ts with
    | .entry :: _ =>
      if indentless then (listEntries fuel true ts).map fun (items, ts) => (.list items, ts) else none
    | .scalar text plain :: ts => (scalarValue text plain).map fun s => (.scalar s, ts)
    | .flowListStart :: ts => (flowItems fuel true ts).map fun (items, ts) => (.list items, ts)
    | .flowMapStart :: ts => (flowEntries fuel true [] ts).map fun (es, ts) => (.map es, ts)
    | .listStart :: ts =>
      if block then
        match listEntries fuel false ts with
        | some (items, .blockEnd :: ts) => some (.list items, ts)
        | _ => none
      else none
    | .mapStart :: ts =>
      if block then (mapEntries fuel [] ts).map fun (es, ts) => (.map es, ts) else none
    | _ => none

def listEntries (fuel : Nat) (indentless : Bool) (ts : List Token) :
    Option (List Data × List Token) :=
  match fuel with
  | 0 => none
  | fuel + 1 =>
    match ts with
    | .entry :: ts => do
      let isEmpty := match ts with
        | [] | .entry :: _ | .blockEnd :: _ => true
        | .key :: _ | .value :: _ => indentless
        | _ => false
      let (item, ts) ← if isEmpty then some (.null, ts) else node fuel true false ts
      let (items, ts) ← listEntries fuel indentless ts
      return (item :: items, ts)
    | _ => some ([], ts)

/-- A key or a value in a block, or nothing where one could be. -/
def blockPart (fuel : Nat) (ts : List Token) : Option (Data × List Token) :=
  match fuel with
  | 0 => none
  | fuel + 1 =>
    match ts with
    | .key :: _ | .value :: _ | .blockEnd :: _ => some (.null, ts)
    | _ => node fuel true true ts

/-- The entries of a map in a block, put into those already read. -/
def mapEntries (fuel : Nat) (read : List (Scalar × Data)) (ts : List Token) :
    Option (List (Scalar × Data) × List Token) :=
  match fuel with
  | 0 => none
  | fuel + 1 =>
    match ts with
    | .blockEnd :: ts => some (read, ts)
    | .key :: ts => do
      let (key, ts) ← blockPart fuel ts
      let (value, ts) ← match ts with
        | .value :: ts => blockPart fuel ts
        | ts => some (.null, ts)
      mapEntries fuel (← putEntry read key value) ts
    | _ => none

/-- A key or a value in brackets, or nothing where one could be. -/
def flowPart (fuel : Nat) (ts : List Token) : Option (Data × List Token) :=
  match fuel with
  | 0 => none
  | fuel + 1 =>
    match ts with
    | .value :: _ | .comma :: _ | .flowListEnd :: _ | .flowMapEnd :: _ => some (.null, ts)
    | _ => node fuel false false ts

/-- A key in brackets and its value. -/
def flowPair (fuel : Nat) (ts : List Token) : Option (Data × Data × List Token) :=
  match fuel with
  | 0 => none
  | fuel + 1 => do
    let (key, ts) ← flowPart fuel ts
    let (value, ts) ← match ts with
      | .value :: ts => flowPart fuel ts
      | ts => some (.null, ts)
    return (key, value, ts)

/-- The items of a list in brackets. A pair by itself is a map. -/
def flowItems (fuel : Nat) (first : Bool) (ts : List Token) : Option (List Data × List Token) :=
  match fuel with
  | 0 => none
  | fuel + 1 => do
    let ts ← match ts with
      | .flowListEnd :: _ => some ts
      | .comma :: rest => if first then some ts else some rest
      | _ => if first then some ts else none
    match ts with
    | .flowListEnd :: ts => return ([], ts)
    | .key :: ts =>
      let (key, value, ts) ← flowPair fuel ts
      let entries ← putEntry [] key value
      let (items, ts) ← flowItems fuel false ts
      return (.map entries :: items, ts)
    | _ =>
      let (item, ts) ← node fuel false false ts
      let (items, ts) ← flowItems fuel false ts
      return (item :: items, ts)

/-- The entries of a map in brackets, put into those already read. -/
def flowEntries (fuel : Nat) (first : Bool) (read : List (Scalar × Data)) (ts : List Token) :
    Option (List (Scalar × Data) × List Token) :=
  match fuel with
  | 0 => none
  | fuel + 1 => do
    let ts ← match ts with
      | .flowMapEnd :: _ => some ts
      | .comma :: rest => if first then some ts else some rest
      | _ => if first then some ts else none
    match ts with
    | .flowMapEnd :: ts => return (read, ts)
    | .key :: ts =>
      let (key, value, ts) ← flowPair fuel ts
      flowEntries fuel false (← putEntry read key value) ts
    | _ =>
      let (key, ts) ← node fuel false false ts
      flowEntries fuel false (← putEntry read key .null) ts

end

/-- The characters that a file may hold. -/
def isAllowed (c : Char) : Bool :=
  let n := c.toNat
  n == 9 || n == 10 || n == 13 || (0x20 ≤ n && n ≤ 0x7E) || n == 0x85 || (0xA0 ≤ n && n ≤ 0xD7FF) ||
    (0xE000 ≤ n && n ≤ 0xFFFD) || 0x10000 ≤ n

/-- The value of the one document that tokens hold; without a document it is nothing in particular. -/
def document (ts : List Token) : Option Data := do
  let fuel := 4 * ts.length + 4
  let (data, rest) ← match ts with
    | [] => some (.null, [])
    | .documentStart :: ts =>
      match ts with
      | [] | .documentStart :: _ | .documentEnd :: _ => some (.null, ts)
      | _ => node fuel true false ts
    | _ => node fuel true false ts
  if (rest.dropWhile (· == .documentEnd)).isEmpty then some data else none

/-- Reads a file. -/
def read (text : String) : Option Data := do
  let cs := text.toList
  if !cs.all isAllowed then none
  document (← tokens cs)

end EdgeRoutes.Yaml
