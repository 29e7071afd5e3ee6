import EdgeRoutes.Files.Path
import EdgeRoutes.Files.Encoding

/-! Scripts: computations that ask their surroundings for something and go on with the answer. What an answer is like
is left to whoever runs the script. -/

namespace EdgeRoutes

open Files

/-- Something that a script asks for. -/
inductive Request where
  /-- The value of an environment variable. -/
  | environment (name : String)
  /-- The names that lead to the working directory. -/
  | workingDirectory
  /-- The present time. -/
  | clock
  | isPresent (path : Path)
  | isDirectory (path : Path)
  | read (path : Path)
  /-- The file at the path is to hold these bytes. -/
  | write (path : Path) (bytes : Bytes)
  /-- The file at the path is to end in these bytes. -/
  | append (path : Path) (bytes : Bytes)
  | makeDirectory (path : Path)
  /-- Text goes to the output. -/
  | print (text : String)
  /-- Text goes to the error stream. -/
  | complain (text : String)

/-- The answers to a request. -/
def Request.Answer : Request → Type
  | .environment _ => Option String
  | .workingDirectory => List String
  | .clock => String
  | .isPresent _ | .isDirectory _ => Bool
  | .read _ => Except FileError Bytes
  | .write _ _ | .append _ _ | .makeDirectory _ => Except FileError Unit
  | .print _ | .complain _ => Unit

/-- A computation that may ask for something before it goes on. -/
inductive Script (α : Type) where
  | done (a : α)
  | ask (r : Request) (next : r.Answer → Script α)

namespace Script

variable {α β : Type}

/-- Goes on with `f` when the script is done. -/
protected def bind (s : Script α) (f : α → Script β) : Script β :=
  match s with
  | .done a => f a
  | .ask r next => .ask r fun answer => Script.bind (next answer) f

instance : Monad Script where
  pure := .done
  bind := Script.bind

/-- Asks for one thing. -/
def request (r : Request) : Script r.Answer := .ask r .done

def environmentValue (name : String) : Script (Option String) := request (.environment name)

def print (text : String) : Script Unit := request (.print text)

def complain (text : String) : Script Unit := request (.complain text)

/-- Runs a script for each member of a list, in order. -/
def forEach (f : α → Script Unit) : List α → Script Unit
  | [] => .done ()
  | a :: as => do
    f a
    forEach f as

end Script

end EdgeRoutes
