import EdgeRoutes.Data.Fields
import EdgeRoutes.Files.System
import EdgeRoutes.Script.Basic

/-! Surroundings that a script runs in: environment, files, and what it has written so far. -/

namespace EdgeRoutes

open Files

/-- Everything that a script can ask about or change. -/
structure World where
  environment : Fields String := []
  files : FileSystem
  /-- The time, which stands still. -/
  clock : String
  output : String := ""
  complaints : String := ""

namespace World

/-- Keeps a change of the files, if it was possible. -/
def commit (w : World) (changed : Except FileError FileSystem) : Except FileError Unit × World :=
  match changed with
  | .ok files => (.ok (), { w with files })
  | .error e => (.error e, w)

/-- The answer to a request, and what the request changes. -/
def serve (w : World) : (r : Request) → r.Answer × World
  | .environment name => (w.environment.get? name, w)
  | .workingDirectory => (w.files.working, w)
  | .clock => (w.clock, w)
  | .isPresent path => ((w.files.lookup path).isSome, w)
  | .isDirectory path => (w.files.lookup path == some .directory, w)
  | .read path => (w.files.read path, w)
  | .write path bytes => w.commit (w.files.write path bytes)
  | .append path bytes => w.commit (w.files.append path bytes)
  | .makeDirectory path => w.commit (w.files.makeDirectory path)
  | .print text => ((), { w with output := w.output ++ text })
  | .complain text => ((), { w with complaints := w.complaints ++ text })

end World

namespace Script

variable {α β : Type}

def run (s : Script α) (w : World) : α × World :=
  match s with
  | .done a => (a, w)
  | .ask r next =>
    let (answer, w) := w.serve r
    (next answer).run w

@[simp] theorem run_pure (a : α) (w : World) : (pure a : Script α).run w = (a, w) := rfl

/-- A sequence runs its second part in the surroundings that the first part leaves. -/
@[simp] theorem run_bind (s : Script α) (f : α → Script β) (w : World) :
    (s >>= f).run w = (f (s.run w).1).run (s.run w).2 := by
  change (Script.bind s f).run w = _
  induction s generalizing w with
  | done a => rfl
  | ask r next ih => simp only [Script.bind, run, ih]

@[simp] theorem run_request (r : Request) (w : World) : (request r).run w = w.serve r := rfl

end Script

end EdgeRoutes
