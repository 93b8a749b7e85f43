import Rulebook.Fault
import Rulebook.Notice

/-!
Runs: computations that send notices and can stop with a fault. The notices sent before a fault
remain.
-/

namespace Rulebook

structure Run (α : Type) where
  notices : List Notice
  result : Except Fault α

namespace Run

variable {α β : Type}

def ret (a : α) : Run α := ⟨[], .ok a⟩

/-- Runs the first part and then, unless it stopped, the second. -/
def andThen (x : Run α) (f : α → Run β) : Run β :=
  match x.result with
  | .ok a => ⟨x.notices ++ (f a).notices, (f a).result⟩
  | .error e => ⟨x.notices, .error e⟩

instance : Monad Run where
  pure := ret
  bind := andThen

/-- Sends one notice. -/
def note (n : Notice) : Run Unit := ⟨[n], .ok ()⟩

/-- Sends some notices. -/
def notes (ns : List Notice) : Run Unit := ⟨ns, .ok ()⟩

/-- Stops. -/
def stop (f : Fault) : Run α := ⟨[], .error f⟩

/-- A computation that sends nothing. -/
def ofExcept (r : Except Fault α) : Run α := ⟨[], r⟩

instance : MonadLift (Except Fault) Run := ⟨ofExcept⟩

end Run

end Rulebook
