import EdgeRoutes.CommandLine.Form
import EdgeRoutes.Text.Digit
import EdgeRoutes.Text.Quoted

/-! The words of a command line: which are options, which are operands, and what the options of a form and its
operands get. An option may be cut short as long as only one can be meant, short ones can share a dash, and after two
dashes alone every word is an operand. -/

namespace EdgeRoutes.CommandLine

inductive Misuse where
  | ambiguous (word : String) (candidates : List String)
  /-- An option that takes no value has one. -/
  | ignoredValue (switch : Switch) (value : String)
  | missingValue (switch : Switch)
  | unknownVerb (word : String)
  /-- Words that are needed are not there. -/
  | missing (names : List String)
  | unrecognized (words : List String)
  deriving DecidableEq

def Misuse.message : Misuse → String
  | .ambiguous word candidates =>
    "ambiguous option: " ++ word ++ " could match " ++ Text.joined ", " candidates
  | .ignoredValue switch value =>
    "argument " ++ switch.title ++ ": ignored explicit argument " ++ Text.quoted value
  | .missingValue switch => "argument " ++ switch.title ++ ": expected one argument"
  | .unknownVerb word =>
    "argument command: invalid choice: " ++ Text.quoted word ++ " (choose from " ++
      Text.joined ", " (Verb.all.map fun v => Text.quoted v.name) ++ ")"
  | .missing names => "the following arguments are required: " ++ Text.joined ", " names
  | .unrecognized words => "unrecognized arguments: " ++ Text.joined " " words

/-- Two dashes, after which there are only operands. -/
def dashes : String := "--"

/-- An option as it is written: what the value is if it stands in the same word. -/
structure Written where
  switch : Switch
  spelling : String
  attached : Option String := none

/-- The spelling has one dash, and other letters can follow it. -/
def Written.isShort (w : Written) : Bool :=
  !Text.startsWith w.spelling dashes

inductive Word where
  | operand (text : String)
  | separator
  | option (text : String) (written : Written)
  /-- The word looks like an option but the form has none like it. -/
  | unknown (text : String)

def Word.text : Word → String
  | .operand text | .option text _ | .unknown text => text
  | .separator => dashes

/-- Digits with a dash before them, a point among them or not. -/
def isNegativeNumber (word : List Char) : Bool :=
  match word with
  | '-' :: rest =>
    let rest := if rest.getLast? = some '\n' then rest.dropLast else rest
    let digits (cs : List Char) : Bool := cs.all fun c => (Text.decimalValue? c).isSome
    match Text.cut? ['.'] rest with
    | none => digits rest && !rest.isEmpty
    | some (whole, fraction) => digits whole && digits fraction && !fraction.isEmpty
  | _ => false

namespace Form

/-- The options that a word with a dash can mean, unless it spells one out. -/
def readings (f : Form) (word : String) : List Written :=
  match word.toList with
  | '-' :: '-' :: _ =>
    let (stem, attached) := match Text.cut? ['='] word.toList with
      | some (stem, value) => (stem, some (String.ofList value))
      | none => (word.toList, none)
    (f.spellings.filter fun (spelling, _) => Text.starts stem spelling.toList).map
      fun (spelling, switch) => ⟨switch, spelling, attached⟩
  | '-' :: c :: rest =>
    let spelling := String.ofList ['-', c]
    (f.switch? spelling).toList.map fun switch => ⟨switch, spelling, some (String.ofList rest)⟩
  | _ => []

/-- The option that a word spells out, with a value behind an equals sign or without one. -/
def spelledOut? (f : Form) (word : String) : Option Written :=
  match f.switch? word with
  | some switch => some ⟨switch, word, none⟩
  | none => do
    let (spelling, value) ← Text.cut? ['='] word.toList
    let switch ← f.switch? (String.ofList spelling)
    return ⟨switch, String.ofList spelling, some (String.ofList value)⟩

/-- What a word is when no two dashes stand alone before it. Negative numbers and words with a blank are operands unless
they mean an option. -/
def classify (f : Form) (word : String) : Except Misuse Word :=
  match word.toList with
  | '-' :: _ :: _ =>
    match f.spelledOut? word with
    | some written => .ok (.option word written)
    | none =>
      match f.readings word with
      | [written] => .ok (.option word written)
      | [] =>
        if isNegativeNumber word.toList || word.toList.contains ' ' then .ok (.operand word)
        else .ok (.unknown word)
      | several => .error (.ambiguous word (several.map Written.spelling))
  | _ => .ok (.operand word)

def classifyAll (f : Form) : List String → Except Misuse (List Word)
  | [] => .ok []
  | word :: rest =>
    if word = dashes then .ok (.separator :: rest.map .operand)
    else do
      let first ← f.classify word
      let others ← f.classifyAll rest
      return first :: others

/-- Options and their values. -/
abbrev Values := List (Switch × String)

/-- An option with a value. Two dashes alone are no value. -/
def valued (s : Switch) (value : String) : Switch × String :=
  (s, if value = dashes then "" else value)

/-- An option whose value, if it takes one, is the next word. The number tells how many words that takes. -/
def separate (s : Switch) (next : Option String) : Except Misuse (Values × Nat) :=
  if s.takesValue then
    match next with
    | some value => .ok ([valued s value], 1)
    | none => .error (.missingValue s)
  else .ok ([(s, "")], 0)

/-- A short option with letters behind it: its value, or more short options. -/
def cluster (f : Form) (s : Switch) (next : Option String) :
    List Char → Except Misuse (Values × Nat)
  | [] => separate s next
  | c :: cs =>
    if s.takesValue then .ok ([valued s (String.ofList (c :: cs))], 0)
    else
      match f.switch? (String.ofList ['-', c]) with
      | none => .error (.ignoredValue s (String.ofList (c :: cs)))
      | some other => do
        let (values, used) ← f.cluster other next cs
        return ((s, "") :: values, used)

/-- What an option gets, and how many words behind it that takes. -/
def valuesOf (f : Form) (w : Written) (next : Option String) : Except Misuse (Values × Nat) :=
  match w.attached with
  | none => separate w.switch next
  | some value =>
    if w.switch.takesValue then .ok ([valued w.switch value], 0)
    else if w.isShort && !value.isEmpty then f.cluster w.switch next value.toList
    else .error (.ignoredValue w.switch value)

end Form

/-- What an operand gets from the first words, and how many words behind the first one that takes. Two dashes alone
next to the operand go with it. An operand that could only get two dashes gets nothing. -/
def takeOperand : List Word → Option (Option String × Nat)
  | .separator :: .operand text :: _ => some (some text, 1)
  | .operand text :: .separator :: _ => some (some text, 1)
  | .operand text :: _ => some (if text = dashes then none else some text, 0)
  | _ => none

/-- Why a command line is not carried out. -/
inductive Stop where
  | help (form : Form)
  | version
  | misuse (form : Form) (what : Misuse)

structure Reading where
  values : Form.Values := []
  operands : List (Operand × Option String) := []
  /-- Operands that got nothing. -/
  missing : List Operand := []
  /-- Words that mean nothing. -/
  extras : List String := []
  /-- A command and all words behind it. -/
  tail : List String := []

namespace Reading

/-- The value of an option; the last one counts. -/
def value (r : Reading) (s : Switch) : String :=
  ((r.values.reverse.find? (·.1 = s)).map (·.2)).getD ""

def has (r : Reading) (s : Switch) : Bool :=
  r.values.any (·.1 = s)

def operand (r : Reading) (o : Operand) : Option String :=
  ((r.operands.find? (·.1 = o)).map (·.2)).getD none

/-- Adds values. Asking for help or for the version stops there. -/
def add (f : Form) (r : Reading) : Form.Values → Except Stop Reading
  | [] => .ok r
  | (.help, _) :: _ => .error (.help f)
  | (.version, _) :: _ => .error .version
  | v :: vs => add f { r with values := r.values ++ [v] } vs

end Reading

namespace Form

/-- The text of the first word if that is an operand. -/
def operandText? : List Word → Option String
  | .operand text :: _ => some text
  | _ => none

/-- Gives each option and operand its words, in order. -/
def distribute (f : Form) (pending : List Operand) (r : Reading) (ws : List Word) :
    Except Stop Reading :=
  match ws with
  | [] => .ok { r with missing := pending }
  | .unknown text :: rest => f.distribute pending { r with extras := r.extras ++ [text] } rest
  | .option _ written :: rest =>
    match f.valuesOf written (operandText? rest) with
    | .error what => .error (.misuse f what)
    | .ok (values, used) => do
      let r ← r.add f values
      f.distribute pending r (rest.drop used)
  | word :: rest =>
    match takeOperand (word :: rest) with
    | none => f.distribute pending { r with extras := r.extras ++ [word.text] } rest
    | some (value, used) =>
      if !f.verbs.isEmpty then .ok { r with tail := (word :: rest).map Word.text }
      else
        match pending with
        | [] => f.distribute [] { r with extras := r.extras ++ [word.text] } rest
        | o :: others =>
          f.distribute others { r with operands := r.operands ++ [(o, value)] } (rest.drop used)
termination_by ws.length
decreasing_by
  all_goals
    simp only [List.length_cons, List.length_drop]
    omega

def read (f : Form) (words : List String) : Except Stop Reading := do
  let ws ← (f.classifyAll words).mapError (.misuse f)
  f.distribute f.operands {} ws

end Form

end EdgeRoutes.CommandLine
