import Paraegox.Stdio.Contract
import Paraegox.Textual.Backend

/-!
# A client and an adapter, joined by two pipes

The backend of the client writes commands to one pipe and the adapter writes frames
to the other; both deliver in order.  What the user does, what the Agent answers
and which side moves next is arbitrary.  No write fails but by the size of its
frame.
-/

namespace Paraegox.Textual

open Agent (AgentError TurnId)
open Stdio (Adapter Command InputFrame IoError OutputFrame Request Selected)

/-- A step of a conversation. -/
inductive Act where
  /-- A user's `submit`, with the identifier it draws. -/
  | submit (text : String) (turnId : TurnId)
  /-- A user's `cancel`. -/
  | cancel
  | shutdown
  /-- The write lock is handed on. -/
  | acquire
  /-- The drain of the writer that has the lock returns. -/
  | drained
  /-- `events` reads a frame. -/
  | event
  /-- The adapter passes the head of a loop. -/
  | resume
  /-- The adapter reads a command. -/
  | take
  /-- The Agent answers the request the adapter waits for. -/
  | reply (reply : Agent.Reply)
  /-- The Agent does not answer in time. -/
  | elapse
  /-- The adapter writes a frame. -/
  | write
  | close (result : Except AgentError Unit)

structure Conversation where
  /-- What is left of the adapter. -/
  adapter : Dialogue Request Request.Answer Adapter.Point
  backend : Backend
  /-- The commands on their way to the adapter. -/
  stdin : List InputFrame
  /-- The frames on their way to the backend. -/
  stdout : List OutputFrame

namespace Conversation

/-- The session is open and nothing was said yet. -/
def start (adapter : Adapter) : Conversation where
  adapter := .pure .protocol
  backend := .started adapter.sessionId
  stdin := []
  stdout := []

/-- A step of the client's coroutines. -/
def clientNext (w : Conversation) : Act → Option Backend.Effect
  | .submit text turnId => some (w.backend.submit text turnId)
  | .cancel => some w.backend.cancel
  | .shutdown => some w.backend.shutdown
  | .acquire => w.backend.acquire
  | .drained => w.backend.drained
  | _ => none

/-- A step of `events`. -/
def eventNext (w : Conversation) : Act → Option Conversation
  | .event =>
      match w.backend.reader, w.stdout with
      | .reading, frame :: stdout =>
          some { w with backend := w.backend.event frame.toJson, stdout }
      | _, _ => none
  | _ => none

/-- The frame reaches the pipe. -/
def put (frame : OutputFrame) : List OutputFrame :=
  match Stdio.JsonlOutput.send frame (.ok ()) with
  | .ok () => [frame]
  | .error _ => []

/-- A step of the adapter. -/
def adapterNext (adapter : Adapter) (w : Conversation) (act : Act) : Option Conversation :=
  match w.adapter, act with
  | .pure point, .resume => some { w with adapter := adapter.runTextualStdio.resume point }
  | .ask .nextCommand k, .take =>
      match w.stdin with
      | frame :: stdin => some { w with adapter := k (.ok (some frame) : Command), stdin }
      | [] => none
  | .ask (.select _) k, .take =>
      match w.stdin with
      | frame :: stdin =>
          some { w with adapter := k (.command (.ok (some frame)) : Selected), stdin }
      | [] => none
  | .ask (.select _) k, .reply reply => some { w with adapter := k (.submission reply : Selected) }
  | .ask (.cancel _) k, .reply reply => some { w with adapter := k reply }
  | .ask (.submission _) k, .reply reply =>
      some { w with adapter := k (some reply : Option Agent.Reply) }
  | .ask (.submission _) k, .elapse => some { w with adapter := k (none : Option Agent.Reply) }
  | .ask (.write frame) k, .write =>
      some { w with adapter := k (.ok () : Except IoError Unit), stdout := w.stdout ++ put frame }
  | .ask .close k, .close result => some { w with adapter := k result }
  | _, _ => none

/-- What a step hands to the caller of a method of the backend. -/
abbrev Report := Option (Except BackendError Bool)

def next (adapter : Adapter) (w : Conversation) (act : Act) : Option (Report × Conversation) :=
  match w.clientNext act with
  | some e => some (e.result, { w with backend := e.backend, stdin := w.stdin ++ e.written })
  | none =>
      match w.eventNext act with
      | some w' => some (none, w')
      | none => (w.adapterNext adapter act).map fun w' => (none, w')

/-- A conversation as a labelled system. -/
def system (adapter : Adapter) : Transition.System Conversation Act Report where
  next := next adapter

/-! ## The forms of a step -/

/-- The commands that are on their way or wait for the lock, in the order the
adapter will read them. -/
def requests (w : Conversation) : List InputFrame :=
  w.stdin ++ w.backend.waiters.map Writer.frame

/-- What a step does. -/
inductive Step (adapter : Adapter) (w : Conversation) : Act → Conversation → Prop where
  | client {act : Act} {e : Backend.Effect} (he : w.clientNext act = some e) :
      Step adapter w act { w with backend := e.backend, stdin := w.stdin ++ e.written }
  | event {frame : OutputFrame} {stdout : List OutputFrame}
      (hreader : w.backend.reader = .reading) (hstdout : w.stdout = frame :: stdout) :
      Step adapter w .event { w with backend := w.backend.event frame.toJson, stdout }
  | resume {point : Adapter.Point} (hd : w.adapter = .pure point) :
      Step adapter w .resume { w with adapter := adapter.runTextualStdio.resume point }
  | takeIdle {k : Command → Dialogue Request Request.Answer Adapter.Point} {frame : InputFrame}
      {stdin : List InputFrame} (hd : w.adapter = .ask .nextCommand k)
      (hstdin : w.stdin = frame :: stdin) :
      Step adapter w .take { w with adapter := k (.ok (some frame)), stdin }
  | takeActive {turnId : TurnId} {k : Selected → Dialogue Request Request.Answer Adapter.Point}
      {frame : InputFrame} {stdin : List InputFrame} (hd : w.adapter = .ask (.select turnId) k)
      (hstdin : w.stdin = frame :: stdin) :
      Step adapter w .take { w with adapter := k (.command (.ok (some frame))), stdin }
  | answer {act : Act} {request : Request}
      {k : request.Answer → Dialogue Request Request.Answer Adapter.Point} {a : request.Answer}
      (hd : w.adapter = .ask request k)
      (hexpects : ∀ stage, (Stdio.contract adapter.sessionId).expects stage ⟨request, a⟩)
      (hnext : ∀ stage, (Stdio.contract adapter.sessionId).next stage ⟨request, a⟩ = stage) :
      Step adapter w act { w with adapter := k a }
  | write {frame : OutputFrame}
      {k : Except IoError Unit → Dialogue Request Request.Answer Adapter.Point}
      (hd : w.adapter = .ask (.write frame) k) :
      Step adapter w .write { w with adapter := k (.ok ()), stdout := w.stdout ++ put frame }

theorem eventNext_step {adapter : Adapter} {w w' : Conversation} {act : Act}
    (h : w.eventNext act = some w') : Step adapter w act w' := by
  cases act with
  | event =>
      rw [eventNext] at h
      split at h
      · next frame stdout hreader hstdout =>
          cases h
          exact .event hreader hstdout
      · cases h
  | _ => cases h

/-- The steps of the adapter, one for each request it may wait for. -/
theorem adapterNext_step {adapter : Adapter} {w w' : Conversation} {act : Act}
    (h : w.adapterNext adapter act = some w') : Step adapter w act w' := by
  simp only [adapterNext] at h
  split at h
  · next point hd =>
      cases h
      exact .resume hd
  · next k hd =>
      split at h
      · next frame stdin hstdin =>
          cases h
          exact .takeIdle hd hstdin
      · cases h
  · next turnId k hd =>
      split at h
      · next frame stdin hstdin =>
          cases h
          exact .takeActive hd hstdin
      · cases h
  · next turnId k reply hd =>
      cases h
      exact .answer hd (fun _ => trivial) fun _ => rfl
  · next turnId k reply hd =>
      cases h
      exact .answer hd (fun _ => trivial) fun _ => rfl
  · next turnId k reply hd =>
      cases h
      exact .answer hd (fun _ => trivial) fun _ => rfl
  · next turnId k hd =>
      cases h
      exact .answer hd (fun _ => trivial) fun _ => rfl
  · next frame k hd =>
      cases h
      exact .write hd
  · next k result hd =>
      cases h
      exact .answer hd (fun _ => trivial) fun _ => rfl
  · cases h

theorem next_step {adapter : Adapter} {w w' : Conversation} {act : Act} {r : Report}
    (h : next adapter w act = some (r, w')) : Step adapter w act w' := by
  rw [next] at h
  cases he : w.clientNext act with
  | some e =>
      rw [he] at h
      cases h
      exact .client he
  | none =>
      rw [he] at h
      cases hevent : w.eventNext act with
      | some w₁ =>
          rw [hevent] at h
          cases h
          exact eventNext_step hevent
      | none =>
          rw [hevent] at h
          obtain ⟨w₁, hadapter, heq⟩ := Option.map_eq_some_iff.mp h
          cases heq
          exact adapterNext_step hadapter

end Conversation

end Paraegox.Textual
