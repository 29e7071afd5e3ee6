import EdgeRoutes.Fault
import EdgeRoutes.Log.Event

/-! Computations that report events and may stop with a fault. What was reported before a fault stays
reported. -/

namespace EdgeRoutes

/-- The events of a computation and how it ended. -/
structure Logged (α : Type) where
  events : List Event
  result : Except Fault α

namespace Logged

variable {α β : Type}

protected def pure (a : α) : Logged α := ⟨[], .ok a⟩

protected def bind (x : Logged α) (f : α → Logged β) : Logged β :=
  match x.result with
  | .ok a =>
    let y := f a
    ⟨x.events ++ y.events, y.result⟩
  | .error fault => ⟨x.events, .error fault⟩

instance : Monad Logged where
  pure := Logged.pure
  bind := Logged.bind

/-- Stops with a fault. -/
def fail (fault : Fault) : Logged α := ⟨[], .error fault⟩

/-- A computation that reports nothing. -/
def lift (x : Except Fault α) : Logged α := ⟨[], x⟩

instance : MonadLift (Except Fault) Logged := ⟨lift⟩

/-- Reports events that happened elsewhere. -/
def recorded (events : List Event) : Logged Unit := ⟨events, .ok ()⟩

/-- Reports one event. -/
def report (source : String) (level : Level) (message : String) : Logged Unit :=
  ⟨[⟨source, level, message⟩], .ok ()⟩

/-- Goes through a list in order and collects the results. -/
def forEach (f : α → Logged β) : List α → Logged (List β)
  | [] => pure []
  | a :: as => do
    let b ← f a
    let bs ← forEach f as
    return b :: bs

@[simp] theorem events_pure (a : α) : (pure a : Logged α).events = [] := rfl

@[simp] theorem result_pure (a : α) : (pure a : Logged α).result = .ok a := rfl

@[simp] theorem events_lift (x : Except Fault α) : (lift x).events = [] := rfl

@[simp] theorem result_lift (x : Except Fault α) : (lift x).result = x := rfl

@[simp] theorem result_report (source : String) (level : Level) (message : String) :
    (report source level message).result = .ok () := rfl

/-- The result of a sequence is decided by the results of its parts. -/
@[simp] theorem result_bind (x : Logged α) (f : α → Logged β) :
    (x >>= f).result = x.result.bind fun a => (f a).result := by
  change (Logged.bind x f).result = _
  unfold Logged.bind
  cases h : x.result <;> rfl

end Logged

end EdgeRoutes
