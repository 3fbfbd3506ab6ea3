import Mathlib.Logic.Basic

/-!
# Blocks that write through a mutable reference and may fail

The monad of code that holds `&mut σ`.  It writes the state as it goes, and it
stops early on an error it returns or on a panic.  What it wrote before it
stopped stays written.  This is `EStateM` with the two ways of stopping told
apart.
-/

/-- Why a block stopped early. -/
inductive Fault (ε : Type) where
  /-- An error value returned to the caller. -/
  | error (e : ε)
  /-- A panic, with its message. -/
  | panic (message : String)
deriving DecidableEq, Repr

/-- A block over a state `σ` that returns `α` or stops. -/
abbrev Exec (σ ε α : Type) := EStateM (Fault ε) σ α

namespace Exec

variable {σ ε α β : Type}

/-- Return an error. -/
def fail (e : ε) : Exec σ ε α := throw (.error e)

/-- `Option::expect`. -/
def expect (o : Option α) (message : String) : Exec σ ε α :=
  match o with
  | some a => pure a
  | none => throw (.panic message)

/-- `assert!`. -/
def assert (p : Prop) [Decidable p] (message : String) : Exec σ ε Unit :=
  if p then pure () else throw (.panic message)

@[simp] theorem run_fail (e : ε) (s : σ) :
    EStateM.run (fail e : Exec σ ε α) s = .error (.error e) s := rfl

@[simp] theorem run_throw (f : Fault ε) (s : σ) :
    EStateM.run (throw f : Exec σ ε α) s = .error f s := rfl

@[simp] theorem run_expect_some (a : α) (message : String) (s : σ) :
    EStateM.run (expect (some a) message : Exec σ ε α) s = .ok a s := rfl

@[simp] theorem run_expect_none (message : String) (s : σ) :
    EStateM.run (expect (none : Option α) message : Exec σ ε α) s =
      .error (.panic message) s := rfl

theorem run_assert_of {p : Prop} [Decidable p] (h : p) (message : String) (s : σ) :
    EStateM.run (assert p message : Exec σ ε Unit) s = .ok () s := by
  simp [assert, h]

end Exec
