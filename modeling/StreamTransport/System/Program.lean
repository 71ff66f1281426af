import StreamTransport.System.Call

/-!
# Programs over requests

A program is finished, or makes one request and goes on with the answer. It is
a tree over all answers the system could give, so what holds of the tree holds
against every system. A handler turns it into a run over a state.
-/

set_option autoImplicit false

namespace StreamTransport

inductive Program (α : Type) where
  | done (result : α)
  | call (request : Call) (next : request.Answer → Program α)

namespace Program

variable {α β γ σ : Type}

def bind : Program α → (α → Program β) → Program β
  | done result, f => f result
  | call request next, f => call request fun answer => bind (next answer) f

instance : Monad Program where
  pure := done
  bind := bind

theorem bind_done (p : Program α) : p.bind done = p := by
  induction p with
  | done _ => rfl
  | call request next ih => exact congrArg (call request) (funext ih)

theorem bind_assoc (p : Program α) (f : α → Program β) (g : β → Program γ) :
    (p.bind f).bind g = p.bind fun a => (f a).bind g := by
  induction p with
  | done _ => rfl
  | call request next ih => exact congrArg (call request) (funext ih)

instance : LawfulMonad Program := LawfulMonad.mk' Program bind_done (fun _ _ => rfl) bind_assoc

def perform (request : Call) : Program request.Answer := call request done

/-- Runs a program on a system that is described by its answers and what they leave behind. -/
def run (handle : (request : Call) → σ → request.Answer × σ) : Program α → σ → α × σ
  | done result, s => (result, s)
  | call request next, s =>
    let (answer, s) := handle request s
    run handle (next answer) s

theorem run_bind (handle : (request : Call) → σ → request.Answer × σ) (p : Program α)
    (f : α → Program β) (s : σ) :
    (p.bind f).run handle s = (f (p.run handle s).1).run handle (p.run handle s).2 := by
  induction p generalizing s with
  | done _ => rfl
  | call request next ih => exact ih _ _

instance : Journal Program := ⟨fun notice => perform (.note notice)⟩

end Program

/-- A program that may fail with an `ε`. -/
abbrev Attempt (ε : Type) (α : Type) := ExceptT ε Program α

namespace Attempt

variable {α ε ε₂ : Type}

/-- A program that cannot fail. -/
def always (p : Program α) : Attempt ε α := ExceptT.lift p

/-- A request that the kernel may refuse, with what a refusal means. -/
def ofReply (meaning : Errno → ε) (p : Program (Reply α)) : Attempt ε α :=
  ExceptT.mk do
    let answer ← p
    pure (answer.mapError meaning)

def mapError (f : ε → ε₂) (p : Attempt ε α) : Attempt ε₂ α :=
  ExceptT.mk do
    let result ← p.run
    pure (result.mapError f)

/-- Cleans up if the attempt fails, and fails as it did. -/
def orElseClean (p : Attempt ε α) (clean : Program Unit) : Attempt ε α :=
  ExceptT.mk do
    match ← p.run with
    | .ok a => pure (.ok a)
    | .error e =>
      clean
      pure (.error e)

end Attempt

/-- Gives a descriptor back to the kernel. -/
def Descriptor.close (d : Descriptor) : Program Unit := Program.perform (.close d)

end StreamTransport
