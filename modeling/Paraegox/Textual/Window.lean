import Paraegox.Textual.App
import Paraegox.Textual.Coroutines
import Paraegox.Textual.Handshake

/-!
# The App and its backend

The App from its mount to its `exit`, with the whole life of its backend: `start` and its
ready frame, the coroutines of the Session, the reader, and the one `shutdown`.  The
handlers of the user's events run one after the other in the message pump of the App,
`_backend_loop` and `_shutdown_and_exit` beside them.  What the user does, what the
child says, when it exits and which side moves next is arbitrary.  The input is disabled
until `start` has returned, so nothing is submitted before.
-/

namespace Paraegox.Textual

open Agent (TurnId)

/-- `_process` and its `returncode`. -/
inductive Child where
  | absent
  | running
  | exited (returnCode : Int)
deriving DecidableEq, Repr

/-- The handler of the message pump that waits for the backend. -/
inductive Handler where
  | idle
  | submitting (text : String) (turnId : TurnId)
  | cancelling
deriving DecidableEq, Repr

/-- `start`, and the Session it opens. -/
inductive Session where
  /-- `create_subprocess_exec`. -/
  | spawning
  /-- The first `_read_frame`. -/
  | awaitingReady
  /-- `_force_stop` on the way out; an exception that is no `BackendError` has no text here. -/
  | stopping (error : Option BackendError)
  | failed
  | opened (coroutines : Coroutines)

/-- `_shutdown_and_exit`, with the code it is to exit with. -/
inductive Shutdown where
  | uncalled
  /-- The worker has not begun. -/
  | pending
  /-- `_request_graceful_shutdown` has not begun. -/
  | requesting (returnCode : Nat)
  | graceful (returnCode : Nat)
  /-- `_force_stop` after the deadline. -/
  | forcing (returnCode : Nat)
  | settled
deriving DecidableEq, Repr

structure Window where
  app : ParaegoxTextual
  handler : Handler
  session : Session
  child : Child
  shutdown : Shutdown
  /-- `_reader_done` is set. -/
  readerDone : Bool
  /-- A handler or worker has raised, other than a `BackendError` it expects. -/
  crashed : Bool

namespace Window

/-- A step, up to where its task waits next. -/
inductive Act where
  /-- The text of the input has changed. -/
  | change (value : String)
  /-- Enter, with the identifier a `submit` draws. -/
  | submit (text : String) (turnId : TurnId)
  | escape
  | quit
  | spawned
  /-- The process cannot be created. -/
  | spawnFails
  /-- The first line of the process. -/
  | ready (line : Json)
  /-- There is none that is JSON, or not in time. -/
  | notReady (error : Option BackendError)
  /-- A `_force_stop` has seen the process exit. -/
  | reap
  /-- `start` raises. -/
  | startRaises
  /-- The write lock is handed on. -/
  | acquire
  /-- The drain of the coroutine that has the lock returns. -/
  | drained
  /-- It raises, as the pipe is closed. -/
  | broken
  | line (json : Json)
  /-- `events` reads no line, or none that is JSON. -/
  | lost (error : BackendError)
  | exit (returnCode : Int)
  /-- `_shutdown_and_exit` begins. -/
  | shutdown
  /-- `_request_graceful_shutdown` begins. -/
  | request
  /-- `_graceful_exit` is over, with this on the standard error of the process. -/
  | settle (detail : String)
  /-- The deadline of the shutdown passes. -/
  | deadline
  /-- `shutdown` raises for it. -/
  | overdue

/-- `on_mount`. -/
def mounted : Window where
  app := .mounted
  handler := .idle
  session := .spawning
  child := .absent
  shutdown := .uncalled
  readerDone := false
  crashed := false

variable (w : Window)

/-- Tell a handler, which goes on up to its end. -/
def tell (told : Told) : Option Told × Window :=
  match w.app.hear told with
  | some app => (some told, { w with app })
  | none => (some told, { w with crashed := true })

/-! ## The message pump -/

/-- `action_quit_orderly`. -/
def quit : Window :=
  if w.app.quitRequested then w
  else { w with app := w.app.requestQuit, shutdown := .pending }

/-- `not text.strip()`. -/
def isBlank (text : String) : Bool := ((text.toList.dropWhile isSpace).rdropWhile isSpace).isEmpty

/-- `submit_message`. -/
def submitMessage (c : Coroutines) (text : String) (turnId : TurnId) : Option Told × Window :=
  if text = "/quit" then (none, w.quit)
  else if w.app.activeTurnId.isSome ∨ isBlank text then (none, w)
  else
    match c.submit text turnId with
    | (none, c') => (none, { w with session := .opened c', handler := .submitting text turnId })
    | (some (.ok _), c') => { w with session := .opened c' }.tell (.submitted turnId text)
    | (some (.error error), c') => { w with session := .opened c' }.tell
        (if c.backend.activeTurnId = none ∧
            validateInput text MAX_INPUT_BYTES = Except.error error then .invalid error
        else .refused error)

/-- `action_cancel_or_clear`. -/
def cancelOrClear : Option Told × Window :=
  if w.app.activeTurnId.isNone then (none, { w with app := w.app.clearInput })
  else
    match w.session with
    | .opened c =>
        match c.cancel with
        | (none, c') => (none, { w with session := .opened c', handler := .cancelling })
        | (some (.ok requested), c') => { w with session := .opened c' }.tell (.cancelled requested)
        | (some (.error error), c') => { w with session := .opened c' }.tell (.refused error)
    | _ => w.tell (.refused ⟨"Paraegox backend is not ready"⟩)

/-- A handler that waited goes on. -/
def deliver : Coroutines.Report → Option Told × Window
  | none => (none, w)
  | some result =>
      let w' := { w with handler := .idle }
      match w.handler, result with
      | .submitting text turnId, .ok _ => w'.tell (.submitted turnId text)
      | .cancelling, .ok requested => w'.tell (.cancelled requested)
      | .submitting _ _, .error error | .cancelling, .error error => w'.tell (.refused error)
      | .idle, _ => (none, w)

/-- A step of the coroutines that write. -/
def resume (act : Coroutines.Act) : Option (Option Told × Window) :=
  match w.session with
  | .opened c => (c.next act).map fun (report, c') =>
      { w with session := .opened c' }.deliver report
  | _ => none

/-! ## `start` and the reader -/

/-- The first line, where the client has this deadline configured. -/
def ready (configuredTimeoutMs : Nat) (line : Json) : Option (Option Told × Window) :=
  match receiveReady configuredTimeoutMs line with
  | .ok sessionId => (Uuid.fromStr sessionId).map fun uuid =>
      { w with session := .opened (.started ⟨uuid⟩) }.tell .started
  | .error error => some (none, { w with session := .stopping (some error) })

/-- `_backend_loop` is over. -/
def loopEnded (told : Option Told × Window) : Option Told × Window :=
  (told.1, { told.2 with app := told.2.app.loopEnded, readerDone := true })

/-- One round of `events`, and of the loop over it. -/
def line (c : Coroutines) (json : Json) : Option Told × Window :=
  let c' := { c with backend := c.backend.event json }
  let w := { w with session := .opened c' }
  match c'.backend.reader, json with
  | .raised error, _ => loopEnded (w.tell (.failed error))
  | .finished, .obj frame => loopEnded (w.tell (.event frame))
  | .reading, .obj frame => w.tell (.event frame)
  | _, _ => (none, w)

/-- `start` raises after its `_force_stop`. -/
def startRaises : Option BackendError → Option Told × Window
  | some error => loopEnded ({ w with session := .failed }.tell (.failed error))
  | none => loopEnded (none, { w with session := .failed, crashed := true })

/-! ## `shutdown` -/

end Window

/-- A coroutine of `_request_graceful_shutdown`. -/
def Writer.isShutdown (writer : Writer) : Bool :=
  writer.after = .shutdownGoesOn ∨ writer.after = .shutdownWaits

/-- `_request_graceful_shutdown` has a frame to write yet. -/
def Coroutines.closing (c : Coroutines) : Bool :=
  (c.backend.holder.toList ++ c.backend.waiters).any Writer.isShutdown

/-- It is cancelled at the deadline. -/
def Coroutines.giveUp (c : Coroutines) : Coroutines :=
  { c with backend := { c.backend with
      holder := c.backend.holder.filter fun writer => ! writer.isShutdown
      waiters := c.backend.waiters.filter fun writer => ! writer.isShutdown } }

/-- What a step does to the coroutines, where there are any. -/
def Session.map (f : Coroutines → Coroutines) : Session → Session
  | .opened c => .opened (f c)
  | session => session

namespace Window

variable (w : Window)

/-- What `_graceful_exit` raises. -/
def exitError (returnCode : Int) (detail : String) : BackendError :=
  ⟨"Paraegox backend exited with status " ++ toString returnCode ++
    if detail = "" then "" else ": " ++ detail⟩

/-- `_shutdown_and_exit`, up to where it waits. -/
def beginShutdown : Option Told × Window :=
  let returnCode := if w.app.backendFailed then 1 else 0
  match w.child with
  | .absent => { w with shutdown := .settled }.tell (.closed returnCode (.ok ()))
  | _ => (none, { w with shutdown := .requesting returnCode })

/-- `_graceful_exit`, once the process is gone. -/
def settle (returnCode : Nat) (detail : String) : Option (Option Told × Window) :=
  match w.child, w.session with
  | .exited code, .opened c =>
      if w.readerDone ∧ ¬ c.closing then some ({ w with shutdown := .settled }.tell
        (.closed returnCode (if code = 0 then .ok () else .error (exitError code detail))))
      else none
  | .exited code, _ =>
      if w.readerDone then some ({ w with shutdown := .settled }.tell
        (.closed returnCode (if code = 0 then .ok () else .error (exitError code detail))))
      else none
  | _, _ => none

/-- A `_force_stop` waits for the process. -/
def isForcing : Bool :=
  match w.session, w.shutdown with
  | .stopping _, _ | _, .forcing _ => true
  | _, _ => false

def step (configuredTimeoutMs : Nat) (act : Act) : Option (Option Told × Window) :=
  match act, w.session, w.handler with
  | .change value, _, .idle => some (none, { w with app := w.app.boundInput value })
  | .submit text turnId, .opened c, .idle => some (w.submitMessage c text turnId)
  | .escape, _, .idle => some w.cancelOrClear
  | .quit, _, .idle => some (none, w.quit)
  | .spawned, .spawning, _ =>
      some (none, { w with session := .awaitingReady, child := .running })
  | .spawnFails, .spawning, _ => some (w.startRaises none)
  | .ready json, .awaitingReady, _ => w.ready configuredTimeoutMs json
  | .notReady error, .awaitingReady, _ => some (none, { w with session := .stopping error })
  | .reap, _, _ =>
      if w.isForcing ∧ w.child ≠ .running then some (none, { w with readerDone := true })
      else none
  | .startRaises, .stopping error, _ =>
      if w.readerDone ∧ w.child ≠ .running then some (w.startRaises error) else none
  | .acquire, _, _ => w.resume .acquire
  | .drained, _, _ => w.resume .drained
  | .broken, _, _ => w.resume .broken
  | .line json, .opened c, _ =>
      if c.backend.reader = .reading then some (w.line c json) else none
  | .lost error, .opened c, _ =>
      if c.backend.reader = .reading then
        let c' := { c with backend := { c.backend with reader := .raised error } }
        some (loopEnded ({ w with session := .opened c' }.tell (.failed error)))
      else none
  | .exit code, session, _ =>
      if w.child = .running then some (none, { w with
        child := .exited code
        session := session.map fun c => { c with exited := true } })
      else none
  | .shutdown, _, _ => if w.shutdown = .pending then some w.beginShutdown else none
  | .request, session, _ =>
      match w.shutdown with
      | .requesting returnCode => some (none, { w with
          shutdown := .graceful returnCode
          session := session.map fun c => c.shutdown.request })
      | _ => none
  | .settle detail, _, _ =>
      match w.shutdown with
      | .graceful returnCode => w.settle returnCode detail
      | _ => none
  | .deadline, session, _ =>
      match w.shutdown with
      | .graceful returnCode => some (none, { w with
          shutdown := .forcing returnCode
          session := session.map Coroutines.giveUp })
      | _ => none
  | .overdue, _, _ =>
      match w.shutdown with
      | .forcing returnCode =>
          if w.readerDone ∧ w.child ≠ .running then some ({ w with shutdown := .settled }.tell
            (.closed returnCode
              (.error ⟨"Paraegox backend did not stop within the shutdown deadline"⟩)))
          else none
      | _ => none
  | _, _, _ => none

/-- The App is over once it was told to exit, or has crashed. -/
def next (configuredTimeoutMs : Nat) (act : Act) : Option (Option Told × Window) :=
  if w.app.returnCode.isSome ∨ w.crashed then none else w.step configuredTimeoutMs act

/-- The App and its backend as a labelled system. -/
def system (configuredTimeoutMs : Nat) : Transition.System Window Act (Option Told) where
  next w act := w.next configuredTimeoutMs act

end Window

end Paraegox.Textual
