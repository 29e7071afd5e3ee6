import EdgeRoutes.Commands
import Std.Time

/-! The program: what a script asks for comes from the operating system. -/

namespace EdgeRoutes

open Files

/-- The refusal behind an error of the operating system, if it is one that scripts know. -/
def refusal? : IO.Error → Option FileRefusal
  | .noFileOrDirectory _ _ _ => some .notFound
  | .alreadyExists _ _ _ => some .exists
  | .inappropriateType _ code _ => some (if code = 21 then .isDirectory else .notDirectory)
  | _ => none

/-- Does something with the file at a path. Errors that scripts do not know end the program. -/
def withFile {α : Type} (p : Path) (action : IO α) : IO (Except FileError α) := do
  try
    return .ok (← action)
  catch e =>
    match refusal? e with
    | some refusal => return .error ⟨refusal, p.text⟩
    | none => throw e

/-- Reads the first byte of the file at a path. -/
def touch (p : Path) : IO (Except FileError Unit) := withFile p do
  let handle ← IO.FS.Handle.mk p.text .read
  let _ ← handle.read 1

def leadsToFile (p : Path) : IO Bool := do
  match ← touch p with
  | .ok _ => return true
  | .error _ => return false

def leadsToDirectory (p : Path) : IO Bool := do
  match ← touch p with
  | .ok _ => return false
  | .error e => return e.refusal = .isDirectory

/-- Adds bytes to the file at a path. -/
def appendBytes (p : Path) (bytes : Bytes) : IO Unit := do
  let handle ← IO.FS.Handle.mk p.text .append
  handle.write ⟨bytes.toArray⟩

/-- The present time, to the thousandth of a second. -/
def timeStamp : IO String := do
  let now ← Std.Time.PlainDateTime.now
  return now.format "uuuu-MM-dd HH:mm:ss,SSS"

/-- Answers a request. -/
def Request.answer : (r : Request) → IO r.Answer
  | .environment name => IO.getEnv name
  | .workingDirectory => do
    let directory ← IO.currentDir
    return (Path.ofString directory.toString).names
  | .clock => timeStamp
  | .isPresent p => do
    let isFile ← leadsToFile p
    if isFile then return true else leadsToDirectory p
  | .isDirectory p => leadsToDirectory p
  | .read p => withFile p do
    let bytes ← IO.FS.readBinFile p.text
    return bytes.toList
  | .write p bytes => withFile p (IO.FS.writeBinFile p.text ⟨bytes.toArray⟩)
  | .append p bytes => withFile p (appendBytes p bytes)
  | .makeDirectory p => withFile p (IO.FS.createDir p.text)
  | .print text => IO.print text
  | .complain text => IO.eprint text

/-- Runs a script. -/
def Script.perform {α : Type} (s : Script α) : IO α :=
  match s with
  | .done a => return a
  | .ask r next => do
    let answer ← r.answer
    (next answer).perform

end EdgeRoutes

/-- Runs the program. A fault that it does not report itself is told at the end. -/
def main (words : List String) : IO UInt32 := do
  match ← (EdgeRoutes.runProgram words).run.perform with
  | .ok status => return status.toUInt32
  | .error fault =>
    IO.eprintln fault.message
    return 1
