import Paraegox.Lib.Transition
import Paraegox.Textual.Backend

/-!
# The coroutines of a backend

`JsonlBackend` on its own, with any number of `submit`, `cancel` and `shutdown`
coroutines beside the reader of `events`.  Here the reader may get any line, a drain
may fail, a task may be cancelled and the process may exit.  `shutdown` leaves its two
frames to `asyncio.wait_for`, which may begin them in a task of its own, so they begin
in a step of their own.
-/

namespace Paraegox.Textual

open Agent (SessionId TurnId)
open Stdio (InputFrame)

structure Coroutines where
  backend : Backend
  /-- `_request_graceful_shutdown` was handed over and has not begun. -/
  requesting : Bool
  /-- The process has a `returncode`. -/
  exited : Bool
  /-- All that was handed to `stdin.write`. -/
  written : List InputFrame

namespace Coroutines

/-- A step, up to where its coroutine waits next. -/
inductive Act where
  /-- `submit` is called, with the identifier it draws. -/
  | submit (text : String) (turnId : TurnId)
  | cancel
  | shutdown
  /-- `_request_graceful_shutdown` begins. -/
  | request
  /-- The write lock is handed on. -/
  | acquire
  /-- The drain of the coroutine that has the lock returns. -/
  | drained
  /-- It raises, as the pipe is closed. -/
  | broken
  /-- The task of that coroutine is cancelled. -/
  | interrupt
  /-- The task of one that waits for the lock is cancelled. -/
  | interruptWaiter (position : Nat)
  /-- `events` reads a line. -/
  | line (json : Json)
  /-- `events` reads none, or none that is JSON. -/
  | lost (error : BackendError)
  /-- The process exits. -/
  | exit

/-- What a step hands to the caller of `submit` or `cancel`. -/
abbrev Report := Option (Except BackendError Bool)

/-- `start` has returned. -/
def started (sessionId : SessionId) : Coroutines where
  backend := .started sessionId
  requesting := false
  exited := false
  written := []

variable (w : Coroutines)

/-! ## Writing -/

/-- `_write_frame` up to where it waits. -/
def writeFrame (writer : Writer) : Except BackendError Coroutines :=
  match w.backend.writeFrame writer with
  | .error error => .error error
  | .ok (backend, written) =>
      if w.exited then .error ⟨"Paraegox backend is not writable"⟩
      else .ok { w with backend, written := w.written ++ written }

/-- `submit`. -/
def submit (text : String) (turnId : TurnId) : Report × Coroutines :=
  if w.backend.activeTurnId.isSome then
    (some (.error ⟨"Only one Agent Turn may be active"⟩), w)
  else
    match validateInput text MAX_INPUT_BYTES with
    | .error error => (some (.error error), w)
    | .ok () =>
        let backend := { w.backend with activeTurnId := some turnId, cancelSent := false }
        match { w with backend }.writeFrame
            ⟨.submit 1 w.backend.sessionId turnId text, .submitReturns⟩ with
        | .ok w' => (none, w')
        | .error error =>
            (some (.error error), { w with backend := { backend with activeTurnId := none } })

/-- `cancel`. -/
def cancel : Report × Coroutines :=
  match w.backend.cancelTarget with
  | none => (some (.ok false), w)
  | some turnId =>
      match w.writeFrame ⟨.cancel 1 w.backend.sessionId turnId, .cancelReturns⟩ with
      | .ok w' => (none, w')
      | .error error => (some (.error error), w)

/-- `shutdown`, up to the request it hands over. -/
def shutdown : Coroutines :=
  if w.backend.shutdownStarted then w
  else { w with backend := { w.backend with shutdownStarted := true }, requesting := true }

/-- The second frame of `_request_graceful_shutdown`.  A `BackendError` is suppressed. -/
def writeShutdown : Coroutines :=
  match w.writeFrame ⟨.shutdown 1 w.backend.sessionId, .shutdownWaits⟩ with
  | .ok w' => w'
  | .error _ => w

/-- `_request_graceful_shutdown`. -/
def request : Coroutines :=
  let w := { w with requesting := false }
  if w.exited then w
  else
    match w.backend.cancelTarget with
    | none => w.writeShutdown
    | some turnId =>
        match w.writeFrame ⟨.cancel 1 w.backend.sessionId turnId, .shutdownGoesOn⟩ with
        | .ok w' => w'
        | .error _ => w

/-! ## Going on -/

/-- The lock goes to the first that waits, which writes its frame. -/
def acquire : Option Coroutines :=
  match w.backend.holder, w.backend.waiters with
  | none, writer :: waiters => some { w with
      backend := { w.backend with holder := some writer, waiters }
      written := w.written ++ [writer.frame] }
  | _, _ => none

/-- The lock is released. -/
def release : Coroutines := { w with backend := { w.backend with holder := none } }

/-- `_cancel_sent = True`. -/
def noteSent : Coroutines := { w with backend := { w.backend with cancelSent := true } }

/-- The pipe is drained: the lock is released, and the coroutine goes on. -/
def drained : Option (Report × Coroutines) :=
  match w.backend.holder with
  | none => none
  | some writer =>
      match writer.after with
      | .submitReturns => some (some (.ok true), w.release)
      | .cancelReturns => some (some (.ok true), w.release.noteSent)
      | .shutdownGoesOn => some (none, w.release.noteSent.writeShutdown)
      | .shutdownWaits => some (none, w.release)

/-- A coroutine leaves `_write_frame` by an exception.  Only `submit` catches it: it
gives up the active Turn, whichever that is by now. -/
def raise (writer : Writer) : Coroutines :=
  match writer.frame with
  | .submit _ _ _ _ => { w with backend := { w.backend with activeTurnId := none } }
  | .cancel _ _ _ | .shutdown _ _ => w

/-- What the caller gets if the pipe is closed; `shutdown` suppresses it. -/
def closedStdin (writer : Writer) : Report :=
  match writer.after with
  | .submitReturns | .cancelReturns => some (.error ⟨"Paraegox backend closed stdin"⟩)
  | .shutdownGoesOn | .shutdownWaits => none

def next : Act → Option (Report × Coroutines)
  | .submit text turnId => some (w.submit text turnId)
  | .cancel => some w.cancel
  | .shutdown => some (none, w.shutdown)
  | .request => if w.requesting then some (none, w.request) else none
  | .acquire => w.acquire.map fun w' => (none, w')
  | .drained => w.drained
  | .broken => w.backend.holder.map fun writer => (closedStdin writer, w.release.raise writer)
  | .interrupt => w.backend.holder.map fun writer => (none, w.release.raise writer)
  | .interruptWaiter position => w.backend.waiters[position]?.map fun writer =>
      (none, { w with backend :=
        { w.backend with waiters := w.backend.waiters.eraseIdx position } }.raise writer)
  | .line json =>
      if w.backend.reader = .reading then some (none, { w with backend := w.backend.event json })
      else none
  | .lost error =>
      if w.backend.reader = .reading then
        some (none, { w with backend := { w.backend with reader := .raised error } })
      else none
  | .exit => some (none, { w with exited := true })

/-- The coroutines as a labelled system. -/
def system : Transition.System Coroutines Act Report where
  next := next

/-! ## While the process runs -/

/-- The effect of a step of `Backend`. -/
def effect (e : Backend.Effect) : Report × Coroutines :=
  (e.result, { w with backend := e.backend, written := w.written ++ e.written })

variable {w}

theorem writeFrame_running (h : w.exited = false) (writer : Writer) :
    w.writeFrame writer = (w.backend.writeFrame writer).map fun p =>
      { w with backend := p.1, written := w.written ++ p.2 } := by
  rw [writeFrame]
  cases w.backend.writeFrame writer with
  | error _ => rfl
  | ok p =>
      dsimp only
      rw [h]
      rfl

theorem submit_running (h : w.exited = false) (text : String) (turnId : TurnId) :
    w.submit text turnId = w.effect (w.backend.submit text turnId) := by
  rw [submit, Backend.submit]
  split
  · simp [effect]
  · cases validateInput text MAX_INPUT_BYTES with
    | error _ => simp [effect]
    | ok _ =>
        dsimp only
        rw [writeFrame_running (by exact h)]
        dsimp only
        cases Backend.writeFrame _ _ with
        | error _ => simp [effect, Except.map]
        | ok _ => rfl

theorem cancel_running (h : w.exited = false) : w.cancel = w.effect w.backend.cancel := by
  rw [cancel, Backend.cancel]
  cases w.backend.cancelTarget with
  | none => simp [effect]
  | some turnId =>
      dsimp only
      rw [writeFrame_running h]
      cases w.backend.writeFrame _ with
      | error _ => simp [effect, Except.map]
      | ok _ => rfl

theorem writeShutdown_running (h : w.exited = false) :
    w.writeShutdown =
      (w.effect ⟨none, w.backend.writeShutdown.1, w.backend.writeShutdown.2⟩).2 := by
  rw [writeShutdown, Backend.writeShutdown, writeFrame_running h]
  cases w.backend.writeFrame _ with
  | error _ => simp [effect, Except.map]
  | ok _ => rfl

/-- Without a pause in between, the two steps of a first `shutdown` are the one of
`Backend`. -/
theorem shutdown_running (h : w.exited = false) (hfirst : w.backend.shutdownStarted = false) :
    w.shutdown.request = { (w.effect w.backend.shutdown).2 with requesting := false } := by
  obtain ⟨backend, requesting, exited, written⟩ := w
  cases h
  have hv : (Coroutines.mk { backend with shutdownStarted := true } false false written).exited =
      false := rfl
  simp only at hfirst
  simp only [shutdown, request, Backend.shutdown, hfirst, Bool.false_eq_true, ↓reduceIte]
  cases Backend.cancelTarget _ with
  | none =>
      dsimp only
      rw [writeShutdown_running hv]
      simp only [effect]
  | some turnId =>
      dsimp only
      rw [writeFrame_running hv]
      dsimp only
      cases Backend.writeFrame _ _ with
      | error _ => simp [effect, Except.map]
      | ok _ => simp [effect, Except.map]

theorem acquire_running : w.acquire = w.backend.acquire.map fun e => (w.effect e).2 := by
  rw [acquire, Backend.acquire]
  cases w.backend.holder with
  | some _ => rfl
  | none =>
      cases w.backend.waiters with
      | nil => rfl
      | cons _ _ => rfl

theorem drained_running (h : w.exited = false) :
    w.drained = w.backend.drained.map w.effect := by
  rw [drained, Backend.drained]
  cases w.backend.holder with
  | none => rfl
  | some writer =>
      dsimp only
      cases writer.after with
      | submitReturns => simp [effect, release]
      | cancelReturns => simp [effect, release, noteSent]
      | shutdownGoesOn =>
          dsimp only
          rw [writeShutdown_running (by exact h)]
          rfl
      | shutdownWaits => simp [effect, release]

/-- While the process runs, the calls and what follows them are those of `Backend`. -/
theorem running (h : w.exited = false) :
    (∀ text turnId, w.submit text turnId = w.effect (w.backend.submit text turnId)) ∧
      w.cancel = w.effect w.backend.cancel ∧
      (w.backend.shutdownStarted = false →
        w.shutdown.request = { (w.effect w.backend.shutdown).2 with requesting := false }) ∧
      w.acquire = w.backend.acquire.map (fun e => (w.effect e).2) ∧
      w.drained = w.backend.drained.map w.effect :=
  ⟨submit_running h, cancel_running h, shutdown_running h, acquire_running, drained_running h⟩

end Coroutines

end Paraegox.Textual
