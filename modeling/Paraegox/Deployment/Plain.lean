import Paraegox.Deployment.System

/-!
# Messages that are not encoded

A deployment in which the adapter and the service hand each other their messages as they
are.  What it does, a deployment does with the payloads that encode them.
-/

namespace Paraegox

open Agent (TaskId WireRequest WireResponse decodeReply decodeReply_encode)
open Stdio (Adapter)
open Textual (Conversation)

namespace Deployment

/-- A deployment before its messages are encoded. -/
structure Plain where
  conversation : Conversation
  service : Agent.World
  /-- The requests that were sent to the service. -/
  requests : List WireRequest
  /-- The responses of the service. -/
  replies : List WireResponse

namespace Plain

inductive Act where
  | conversation (act : Textual.Act)
  | service (action : Agent.Action)
  | request (task : TaskId) (request : WireRequest)
  | reply (detail : String) (response : WireResponse)

def start (adapter : Adapter) (provider : Agent.CompletionProvider) : Plain where
  conversation := .start adapter
  service := .created provider
  requests := []
  replies := []

def converse (adapter : Adapter) (w : Plain) (act : Textual.Act) : Option (Report × Plain) :=
  (Conversation.next adapter w.conversation act).map fun p =>
    (.conversation p.1, { w with
      conversation := p.2
      requests := w.requests ++ adapter.sends p.2.adapter })

def serve (w : Plain) (action : Agent.Action) : Option (Report × Plain) :=
  (w.service.next action).map fun p =>
    (.service p.1, { w with
      service := p.2
      replies := w.replies ++ p.1.response?.toList })

/-- A request is served that a reader of its JSON takes for itself. -/
def next (adapter : Adapter) (w : Plain) : Act → Option (Report × Plain)
  | .conversation act => if act.answers then none else w.converse adapter act
  | .service action => w.serve action
  | .request task request =>
      if request ∈ w.requests ∧ WireRequest.ofJson request.toJson = some request then
        w.serve (request.action task)
      else none
  | .reply _ response =>
      if response ∈ w.replies then w.converse adapter (.reply (.ok response)) else none

def system (adapter : Adapter) : Transition.System Plain Act Report where
  next := next adapter

/-! ## Payloads -/

/-- The deployment with the payloads of the messages. -/
def encode (w : Plain) : Deployment where
  conversation := w.conversation
  service := w.service
  requests := w.requests.map fun request => request.toJson.encode
  replies := w.replies.map fun response => response.toJson.encode

def Act.encode : Act → Deployment.Act
  | .conversation act => .conversation act
  | .service action => .service action
  | .request task message => .request task message.toJson.encode
  | .reply detail message => .reply detail message.toJson.encode

variable {adapter : Adapter} {w : Plain}

theorem converse_encode (act : Textual.Act) : w.encode.converse adapter act =
    (w.converse adapter act).map fun p => (p.1, p.2.encode) := by
  rw [Deployment.converse, converse, Option.map_map]
  congr 1
  funext p
  simp [encode]

theorem serve_encode (action : Agent.Action) : w.encode.serve action =
    (w.serve action).map fun p => (p.1, p.2.encode) := by
  rw [Deployment.serve, serve, Option.map_map]
  congr 1
  funext p
  simp [encode]

/-- A request is read where its payload arrives. -/
theorem next_request {request : WireRequest} (hmem : request ∈ w.requests)
    (hread : WireRequest.ofJson request.toJson = some request) (task : TaskId) :
    Deployment.next adapter w.encode (.request task request.toJson.encode) =
      w.encode.serve (request.action task) := by
  have hpayload : request.toJson.encode ∈ w.encode.requests := List.mem_map_of_mem hmem
  rw [Deployment.next, if_pos hpayload, Json.decode_encode, Option.bind_some, hread]

/-- And so is a response. -/
theorem next_reply {response : WireResponse} (hmem : response ∈ w.replies) (detail : String) :
    Deployment.next adapter w.encode (.reply detail response.toJson.encode) =
      w.encode.converse adapter (.reply (.ok response)) := by
  have hpayload : response.toJson.encode ∈ w.encode.replies := List.mem_map_of_mem hmem
  rw [Deployment.next, if_pos hpayload, decodeReply_encode]

/-- What is done with messages is done with their payloads. -/
theorem takes_encode (x : Transition.Event Plain Act Report) (hx : (system adapter).Takes x) :
    (Deployment.system adapter).Takes (x.map encode Act.encode) := by
  obtain ⟨w, a, r, w'⟩ := x
  have hnext : next adapter w a = some (r, w') := hx
  show Deployment.next adapter w.encode a.encode = some (r, w'.encode)
  cases a with
  | conversation act =>
      rw [next, Option.ite_none_left_eq_some] at hnext
      rw [Act.encode, Deployment.next, if_neg hnext.1, converse_encode, hnext.2]
      rfl
  | service action =>
      rw [next] at hnext
      rw [Act.encode, Deployment.next, serve_encode, hnext]
      rfl
  | request task request =>
      rw [next, Option.ite_none_right_eq_some] at hnext
      obtain ⟨⟨hmem, hread⟩, hserve⟩ := hnext
      rw [Act.encode, next_request hmem hread, serve_encode, hserve]
      rfl
  | reply detail response =>
      rw [next, Option.ite_none_right_eq_some] at hnext
      rw [Act.encode, next_reply hnext.1, converse_encode, hnext.2]
      rfl

/-- A run is found where its messages need no encoding. -/
theorem exec_exists (adapter : Adapter) (provider : Agent.CompletionProvider) (as : List Act)
    {P : List Event → Deployment → Prop} [∀ tr w, Decidable (P tr w)]
    (h : ((system adapter).exec (start adapter provider) as).any
      (fun p => P (p.1.map (Transition.Event.map encode Act.encode)) p.2.encode) = true) :
    ∃ tr w, (Deployment.system adapter).Run (.start adapter provider) tr w ∧
      tr.map Transition.Event.act = as.map Act.encode ∧ P tr w :=
  Transition.System.exec_exists_map takes_encode (start adapter provider) as h

end Plain

end Deployment

end Paraegox
