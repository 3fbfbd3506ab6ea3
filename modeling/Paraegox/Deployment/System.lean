import Paraegox.Agent.Terminals
import Paraegox.Textual.Conversation
import Paraegox.Wire.Agreement

/-!
# A conversation with the service behind it

The client, the adapter and the service in one system.  Between the adapter and the
service there are only payloads: the client of the adapter encodes its requests,
`serve_wire_request` decodes them, and the answers come back the same way.  A payload
that was sent may arrive at any time, more than once or never, and the request of the
adapter may fail at any time.  Other clients of the service do as they like.
-/

namespace Paraegox

open Agent (TaskId WireRequest WireResponse decodeReply)
open Stdio (Adapter Request)
open Textual (Conversation)

namespace Agent

/-- The call `serve_wire_request` makes for a request. -/
def WireRequest.action (task : TaskId) : WireRequest → Action
  | .submit sessionId turnId input deadlineMs =>
      .submitTurn task sessionId turnId input (.fromMillis deadlineMs)
  | .cancel sessionId turnId => .cancel sessionId turnId

/-- The call that returns such an answer. -/
def WireResponse.report : WireResponse → Report
  | .turn result => .turn result
  | .cancel sessionId turnId result => .cancel sessionId turnId result

/-- The answer to a call that returned. -/
def Report.response? : Report → Option WireResponse
  | .turn result => some (.turn result)
  | .cancel sessionId turnId result => some (.cancel sessionId turnId result)
  | _ => none

theorem Report.response?_eq_some {r : Report} {response : WireResponse}
    (h : r.response? = some response) : response.report = r := by
  cases r with
  | turn result =>
      cases h
      rfl
  | cancel sessionId turnId result =>
      cases h
      rfl
  | _ => cases h

end Agent

/-- The adapter's client writes these while the adapter stands there: the submission is
sent when `drive_turn` begins. -/
def Stdio.Adapter.sends (adapter : Adapter) :
    Dialogue Request Request.Answer Adapter.Point → List WireRequest
  | .pure (.driving turnId input) =>
      match adapter.client.submitRequest turnId input adapter.turnTimeout with
      | .ok (request, _) => [request]
      | .error _ => []
  | .ask (.cancel turnId) _ => [adapter.client.cancelRequest turnId]
  | _ => []

/-- The Agent answers the adapter. -/
def Textual.Act.answers : Textual.Act → Bool
  | .reply (.ok _) => true
  | _ => false

structure Deployment where
  conversation : Conversation
  service : Agent.World
  /-- The payloads that were sent to the service. -/
  requests : List (List UInt8)
  /-- The payloads the service answered with. -/
  replies : List (List UInt8)

namespace Deployment

inductive Act where
  /-- A step of the conversation, no answer of the Agent. -/
  | conversation (act : Textual.Act)
  /-- A step of the service, for whomever. -/
  | service (action : Agent.Action)
  /-- A request of the adapter arrives. -/
  | request (task : TaskId) (payload : List UInt8)
  /-- An answer arrives, or is not one: then its error says so. -/
  | reply (detail : String) (payload : List UInt8)

inductive Report where
  | conversation (report : Conversation.Report)
  | service (report : Agent.Report)
  /-- `serve_wire_request` could not decode the request. -/
  | undecoded
deriving DecidableEq

/-- Nothing was said yet, and the service was just built. -/
def start (adapter : Adapter) (provider : Agent.CompletionProvider) : Deployment where
  conversation := .start adapter
  service := .created provider
  requests := []
  replies := []

/-- The conversation takes a step, and the adapter's client may write. -/
def converse (adapter : Adapter) (w : Deployment) (act : Textual.Act) :
    Option (Report × Deployment) :=
  (Conversation.next adapter w.conversation act).map fun p =>
    (.conversation p.1, { w with
      conversation := p.2
      requests := w.requests ++
        (adapter.sends p.2.adapter).map fun request => request.toJson.encode })

/-- The service takes a step, and may answer. -/
def serve (w : Deployment) (action : Agent.Action) : Option (Report × Deployment) :=
  (w.service.next action).map fun p =>
    (.service p.1, { w with
      service := p.2
      replies := w.replies ++ p.1.response?.toList.map fun response => response.toJson.encode })

def next (adapter : Adapter) (w : Deployment) : Act → Option (Report × Deployment)
  | .conversation act => if act.answers then none else w.converse adapter act
  | .service action => w.serve action
  | .request task payload =>
      if payload ∈ w.requests then
        match (Json.decode payload).bind WireRequest.ofJson with
        | some request => w.serve (request.action task)
        | none => some (.undecoded, w)
      else none
  | .reply detail payload =>
      if payload ∈ w.replies then w.converse adapter (.reply (decodeReply detail payload))
      else none

/-- A deployment as a labelled system. -/
def system (adapter : Adapter) : Transition.System Deployment Act Report where
  next := next adapter

/-- One step of a deployment. -/
abbrev Event := Transition.Event Deployment Act Report

/-! ## The forms of a step -/

/-- The call of the service a step makes. -/
def Act.action? : Act → Option Agent.Action
  | .service action => some action
  | .request task payload =>
      ((Json.decode payload).bind WireRequest.ofJson).map (WireRequest.action task)
  | _ => none

/-- The step of the service. -/
def served? (x : Event) : Option Agent.Event :=
  match x.act.action?, x.report with
  | some action, .service report => some ⟨x.pre.service, action, report, x.post.service⟩
  | _, _ => none

/-- What a step does. -/
inductive Step (adapter : Adapter) (x : Event) : Prop where
  | conversed {act : Textual.Act} {r : Conversation.Report} {c : Conversation}
      (hact : x.act = .conversation act ∧ act.answers = false ∨
        ∃ detail, ∃ payload ∈ x.pre.replies, x.act = .reply detail payload ∧
          act = .reply (decodeReply detail payload))
      (hserved : served? x = none) (hreport : x.report = .conversation r)
      (hnext : Conversation.next adapter x.pre.conversation act = some (r, c))
      (hpost : x.post = { x.pre with
        conversation := c
        requests := x.pre.requests ++
          (adapter.sends c.adapter).map fun request => request.toJson.encode })
  | served {z : Agent.Event}
      (hact : x.act = .service z.act ∨
        ∃ task, ∃ payload ∈ x.pre.requests, ∃ request, x.act = .request task payload ∧
          (Json.decode payload).bind WireRequest.ofJson = some request ∧
          z.act = request.action task)
      (hserved : served? x = some z) (hz : Agent.service.Takes z) (hpre : z.pre = x.pre.service)
      (hpost : x.post = { x.pre with
        service := z.post
        replies := x.pre.replies ++
          z.report.response?.toList.map fun response => response.toJson.encode })
  | undecoded (hserved : served? x = none) (hreport : x.report = .undecoded)
      (hpost : x.post = x.pre)

variable {adapter : Adapter}

theorem converse_step {w w' : Deployment} {a : Act} {act : Textual.Act} {r : Report}
    (h : w.converse adapter act = some (r, w'))
    (hact : a = .conversation act ∧ act.answers = false ∨
      ∃ detail, ∃ payload ∈ w.replies, a = .reply detail payload ∧
        act = .reply (decodeReply detail payload)) :
    Step adapter ⟨w, a, r, w'⟩ := by
  obtain ⟨⟨r', c⟩, hnext, heq⟩ := Option.map_eq_some_iff.mp h
  cases heq
  refine .conversed hact ?_ rfl hnext rfl
  rcases hact with ⟨rfl, -⟩ | ⟨detail, payload, -, rfl, -⟩
  · rfl
  · rfl

theorem serve_step {w w' : Deployment} {a : Act} {action : Agent.Action} {r : Report}
    (h : w.serve action = some (r, w')) (haction : a.action? = some action)
    (hact : a = .service action ∨
      ∃ task, ∃ payload ∈ w.requests, ∃ request, a = .request task payload ∧
        (Json.decode payload).bind WireRequest.ofJson = some request ∧
        action = request.action task) :
    Step adapter ⟨w, a, r, w'⟩ := by
  obtain ⟨⟨r', s⟩, hnext, heq⟩ := Option.map_eq_some_iff.mp h
  cases heq
  refine .served (z := ⟨w.service, action, r', s⟩) hact ?_ hnext rfl rfl
  simp only [served?, haction]

theorem takes_step {x : Event} (hx : (system adapter).Takes x) : Step adapter x := by
  obtain ⟨w, a, r, w'⟩ := x
  have hnext : next adapter w a = some (r, w') := hx
  cases a with
  | conversation act =>
      simp only [next, Option.ite_none_left_eq_some, Bool.not_eq_true] at hnext
      exact converse_step hnext.2 (.inl ⟨rfl, hnext.1⟩)
  | service action => exact serve_step hnext rfl (.inl rfl)
  | request task payload =>
      simp only [next, Option.ite_none_right_eq_some] at hnext
      obtain ⟨hmem, hnext⟩ := hnext
      split at hnext
      next request hdecode =>
        exact serve_step hnext (by rw [Act.action?, hdecode]; rfl)
          (.inr ⟨task, payload, hmem, request, rfl, hdecode, rfl⟩)
      next hdecode =>
        cases hnext
        exact .undecoded (by rw [served?, Act.action?, hdecode]; rfl) rfl rfl
  | reply detail payload =>
      simp only [next, Option.ite_none_right_eq_some] at hnext
      exact converse_step hnext.2 (.inr ⟨detail, payload, hnext.1, rfl, rfl⟩)

/-- The service of a deployment runs as a service. -/
theorem service_run {w w' : Deployment} {tr : List Event} (h : (system adapter).Run w tr w') :
    Agent.service.Run w.service (tr.filterMap served?) w'.service := by
  refine h.project (f := Deployment.service) fun x hx => ?_
  cases takes_step hx with
  | conversed _ hserved _ _ hpost => exact .inl ⟨hserved, by rw [hpost]⟩
  | served _ hserved hz hpre hpost => exact .inr ⟨_, hserved, hz, hpre, by rw [hpost]⟩
  | undecoded hserved _ hpost => exact .inl ⟨hserved, by rw [hpost]⟩

end Deployment

end Paraegox
