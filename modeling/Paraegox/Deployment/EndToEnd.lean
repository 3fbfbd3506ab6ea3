import Paraegox.Agent.Context
import Paraegox.Agent.Ledger
import Paraegox.Deployment.Relay
import Paraegox.Textual.ConversationMetatheory

/-!
# From what the user typed to what the user reads

Along a run `Inv` says that nothing in the deployment is made up: commands, the Turn
that is driven, payloads, frames of the service and ledger entries all rest on `Facts`.
The facts of a run are what its own events say, so a terminal on its way to the user
leads back to the call that returned it, to the answer of the model and to the text the
user submitted.
-/

namespace Paraegox

open Agent (SessionId TaskId TurnId WireRequest WireResponse decodeReply)
open Stdio (Adapter InputFrame OutputFrame)
open Textual (Backend Conversation Writer)

namespace Agent

/-! ## In the service -/

/-- The ledger of a session and the frames that will write it hold typed inputs. -/
structure World.Backed (facts : Deployment.Facts) (s : SessionId) (w : World) : Prop where
  turns : ∀ completed ∈ (w.state.session s).turns, facts.typed completed.turnId completed.input
  frames : ∀ task call, w.calls.lookup task = some call → call.guard.sessionId = s →
    facts.typed call.guard.turnId call.guard.input

theorem Event.backed {facts : Deployment.Facts} {s : SessionId} {z : Event}
    (hz : service.Takes z) (hinv : z.pre.Inv)
    (hsubmit : ∀ task t input deadline, z.act = .submitTurn task s t input deadline →
      facts.typed t input)
    (h : z.pre.Backed facts s) : z.post.Backed facts s where
  turns completed hc := by
    cases Event.records hz hinv hc with
    | kept hold => exact h.turns completed hold
    | submitted hact _ _ => exact hsubmit _ _ _ _ hact
    | left hl hs _ => exact h.frames _ _ hl hs
  frames task call hl hs := by
    cases Event.frames hz hinv hl with
    | kept hold => exact h.frames _ _ hold hs
    | admitted hact _ _ =>
        obtain rfl := hs
        exact hsubmit _ _ _ _ hact
    | moved hold _ =>
        have htyped := h.frames _ _ hold hs
        exact htyped
    | decided _ hold _ =>
        have htyped := h.frames _ _ hold hs
        exact htyped

end Agent

namespace Deployment

variable {facts : Facts} {adapter : Adapter}

/-! ## In the client -/

/-- What waits and what is written rests on the facts. -/
def Facts.Queues (facts : Facts) (e : Backend.Effect) : Prop :=
  ∀ frame ∈ e.written ++ e.backend.waiters.map Writer.frame, facts.Typed frame

theorem writeFrame_typed {b b' : Backend} {w : Writer} {written : List InputFrame}
    (h : b.writeFrame w = .ok (b', written)) (hw : facts.Typed w.frame)
    (hold : ∀ frame ∈ b.waiters.map Writer.frame, facts.Typed frame)
    (result : Option (Except Textual.BackendError Bool)) :
    facts.Queues ⟨result, b', written⟩ := by
  rw [Facts.Queues, (Backend.writeFrame_spec h).2.2.2]
  exact List.forall_mem_append.mpr ⟨hold, List.forall_mem_singleton.mpr hw⟩

theorem writeShutdown_typed {b : Backend}
    (hold : ∀ frame ∈ b.waiters.map Writer.frame, facts.Typed frame)
    (result : Option (Except Textual.BackendError Bool)) :
    facts.Queues ⟨result, b.writeShutdown.1, b.writeShutdown.2⟩ := by
  rw [Backend.writeShutdown]
  split
  next p hwrite => exact writeFrame_typed hwrite trivial hold result
  · exact hold

theorem shutdown_typed {b : Backend}
    (hold : ∀ frame ∈ b.waiters.map Writer.frame, facts.Typed frame) :
    facts.Queues b.shutdown := by
  rw [Backend.shutdown]
  split
  · exact hold
  · dsimp only
    split
    · exact writeShutdown_typed (b := { b with shutdownStarted := true }) hold none
    · split
      next b' written hwrite =>
        exact writeFrame_typed (b := { b with shutdownStarted := true }) hwrite trivial hold none
      · exact hold

theorem drained_typed {b : Backend} {e : Backend.Effect} (h : b.drained = some e)
    (hold : ∀ frame ∈ b.waiters.map Writer.frame, facts.Typed frame) : facts.Queues e := by
  rw [Backend.drained] at h
  split at h
  · cases h
  · dsimp only at h
    split at h
    · cases h
      exact hold
    · cases h
      exact hold
    · cases h
      exact writeShutdown_typed (b := { b with holder := none, cancelSent := true }) hold none
    · cases h
      exact hold

/-- A step of the client queues no Submit but the one the user asks for. -/
theorem clientNext_typed {w : Conversation} {act : Textual.Act} {e : Backend.Effect}
    (h : w.clientNext act = some e)
    (hact : ∀ text turnId, act = .submit text turnId → facts.typed turnId text)
    (hold : ∀ frame ∈ w.backend.waiters.map Writer.frame, facts.Typed frame) :
    facts.Queues e := by
  cases act with
  | submit text turnId =>
      cases h
      rw [Backend.submit]
      split
      · exact hold
      · split
        · exact hold
        · split
          next b' written hwrite => exact writeFrame_typed hwrite (hact text turnId rfl) hold none
          · exact hold
  | cancel =>
      cases h
      rw [Backend.cancel]
      split
      · exact hold
      · split
        next b' written hwrite => exact writeFrame_typed hwrite trivial hold none
        · exact hold
  | shutdown =>
      cases h
      exact shutdown_typed hold
  | acquire =>
      simp only [Conversation.clientNext, Backend.acquire] at h
      split at h
      next writer waiters _ hwaiters =>
        cases h
        rw [hwaiters] at hold
        exact hold
      · cases h
  | drained => exact drained_typed h hold
  | _ => cases h

/-! ## In the conversation -/

/-- The commands, the adapter and the frames of a conversation rest on the facts. -/
structure Holds (facts : Facts) (adapter : Adapter) (c : Conversation) : Prop where
  commands : ∀ frame ∈ c.requests, facts.Typed frame
  obeys : c.adapter.Obeys (relay facts adapter.sessionId) (fun _ => facts.Drives) ()
  frames : ∀ frame ∈ c.stdout, facts.Backs adapter.sessionId frame

namespace Holds

variable {c c' : Conversation} {act : Textual.Act}

theorem start : Holds facts adapter (.start adapter) where
  commands := fun _ h => by cases h
  obeys := trivial
  frames := fun _ h => by cases h

theorem client (h : Holds facts adapter c) {e : Backend.Effect} (he : c.clientNext act = some e)
    (hact : ∀ text turnId, act = .submit text turnId → facts.typed turnId text) :
    Holds facts adapter { c with backend := e.backend, stdin := c.stdin ++ e.written } := by
  obtain ⟨hstdin, hwaiters⟩ := List.forall_mem_append.mp h.commands
  refine ⟨?_, h.obeys, h.frames⟩
  rw [Conversation.requests, List.append_assoc]
  exact List.forall_mem_append.mpr ⟨hstdin, clientNext_typed he hact hwaiters⟩

theorem event (h : Holds facts adapter c) (he : c.eventNext act = some c') :
    Holds facts adapter c' := by
  cases act with
  | event =>
      rw [Conversation.eventNext] at he
      split at he
      next frame stdout _ hstdout =>
        cases he
        have hframes := h.frames
        rw [hstdout] at hframes
        refine ⟨?_, h.obeys, fun f hf => hframes f (List.mem_cons_of_mem _ hf)⟩
        rw [Conversation.requests, Backend.event_waiters]
        exact h.commands
      · cases he
  | _ => cases he

/-- What the adapter reads from its input was typed. -/
theorem take (h : Holds facts adapter c) {frame : InputFrame} {stdin : List InputFrame}
    (hstdin : c.stdin = frame :: stdin) :
    facts.Typed frame ∧ ∀ f ∈ stdin ++ c.backend.waiters.map Writer.frame, facts.Typed f := by
  have hcommands := h.commands
  rw [Conversation.requests, hstdin, List.cons_append] at hcommands
  exact List.forall_mem_cons.mp hcommands

theorem adapterStep (h : Holds facts adapter c) (he : c.adapterNext adapter act = some c')
    (hreply : ∀ reply, act = .reply reply → facts.Answers reply) : Holds facts adapter c' := by
  have hobeys := h.obeys
  simp only [Conversation.adapterNext] at he
  split at he
  next point hd =>
    cases he
    rw [hd] at hobeys
    exact ⟨h.commands, resume_relays point hobeys, h.frames⟩
  next k hd =>
    split at he
    next frame stdin hstdin =>
      cases he
      obtain ⟨htyped, hrest⟩ := h.take hstdin
      rw [hd] at hobeys
      refine ⟨hrest, hobeys.2 (.ok (some frame) : Stdio.Command) ?_, h.frames⟩
      rintro f ⟨⟩
      exact htyped
    · cases he
  next turnId k hd =>
    split at he
    next frame stdin hstdin =>
      cases he
      obtain ⟨htyped, hrest⟩ := h.take hstdin
      rw [hd] at hobeys
      refine ⟨hrest, hobeys.2 (.command (.ok (some frame)) : Stdio.Selected) ?_, h.frames⟩
      rintro f ⟨⟩
      exact htyped
    · cases he
  next turnId k reply hd =>
    cases he
    rw [hd] at hobeys
    exact ⟨h.commands, hobeys.2 (.submission reply : Stdio.Selected) (hreply reply rfl), h.frames⟩
  next turnId k reply hd =>
    cases he
    rw [hd] at hobeys
    exact ⟨h.commands, hobeys.2 reply (hreply reply rfl), h.frames⟩
  next turnId k reply hd =>
    cases he
    rw [hd] at hobeys
    refine ⟨h.commands, hobeys.2 (some reply : Option Agent.Reply) ?_, h.frames⟩
    rintro r ⟨⟩
    exact hreply reply rfl
  next turnId k hd =>
    cases he
    rw [hd] at hobeys
    refine ⟨h.commands, hobeys.2 (none : Option Agent.Reply) ?_, h.frames⟩
    intro _ hnone
    cases hnone
  next frame k hd =>
    cases he
    rw [hd] at hobeys
    refine ⟨h.commands, hobeys.2 (.ok () : Except Stdio.IoError Unit) trivial, ?_⟩
    refine List.forall_mem_append.mpr ⟨h.frames, fun f hf => ?_⟩
    rw [Conversation.put] at hf
    split at hf
    · rw [List.mem_singleton.mp hf]
      exact hobeys.1
    · cases hf
  next k result hd =>
    cases he
    rw [hd] at hobeys
    exact ⟨h.commands, hobeys.2 result trivial, h.frames⟩
  · cases he

theorem next (h : Holds facts adapter c) {r : Conversation.Report}
    (he : Conversation.next adapter c act = some (r, c'))
    (hact : ∀ text turnId, act = .submit text turnId → facts.typed turnId text)
    (hreply : ∀ reply, act = .reply reply → facts.Answers reply) : Holds facts adapter c' := by
  rw [Conversation.next] at he
  cases hclient : c.clientNext act with
  | some e =>
      rw [hclient] at he
      cases he
      exact h.client hclient hact
  | none =>
      rw [hclient] at he
      cases hevent : c.eventNext act with
      | some c₁ =>
          rw [hevent] at he
          cases he
          exact h.event hevent
      | none =>
          rw [hevent] at he
          obtain ⟨c₁, hadapter, heq⟩ := Option.map_eq_some_iff.mp he
          cases heq
          exact h.adapterStep hadapter hreply

end Holds

/-! ## The invariant -/

/-- A submit the service decodes from a payload was typed. -/
def Facts.Requests (facts : Facts) (payload : List UInt8) : Prop :=
  ∀ s t input deadlineMs,
    (Json.decode payload).bind WireRequest.ofJson = some (.submit s t input deadlineMs) →
      facts.typed t input

/-- The adapter's client sends what the adapter stands for. -/
theorem sends_typed {d : Dialogue Stdio.Request Stdio.Request.Answer Adapter.Point}
    (h : d.Obeys (relay facts adapter.sessionId) (fun _ => facts.Drives) ()) :
    ∀ request ∈ adapter.sends d, facts.Requests request.toJson.encode := by
  intro request hrequest s t input deadlineMs hdecode
  rw [Json.decode_encode, Option.bind_some] at hdecode
  unfold Adapter.sends at hrequest
  split at hrequest
  next turnId input' =>
    split at hrequest
    next request' _ haccept =>
      rw [List.mem_singleton] at hrequest
      subst hrequest
      rw [Agent.AgentConversationClient.submitRequest] at haccept
      obtain ⟨_, -, haccept⟩ := Except.ok_of_bind haccept
      obtain ⟨ms, hms, haccept⟩ := Except.ok_of_bind haccept
      obtain ⟨_, -, haccept⟩ := Except.ok_of_bind haccept
      cases haccept
      have hrange := (Agent.wireDeadlineMs_ok hms).1.2
      rw [WireRequest.ofJson_submit _ _ _ (by omega)] at hdecode
      cases hdecode
      exact h
    · cases hrequest
  next turnId k =>
    rw [List.mem_singleton] at hrequest
    subst hrequest
    rw [Agent.AgentConversationClient.cancelRequest, WireRequest.ofJson_cancel] at hdecode
    cases hdecode
  · cases hrequest

/-- Nothing in the deployment is made up. -/
structure Inv (facts : Facts) (adapter : Adapter) (w : Deployment) : Prop where
  service : w.service.Inv
  backed : w.service.Backed facts adapter.sessionId
  holds : Holds facts adapter w.conversation
  requests : ∀ payload ∈ w.requests, facts.Requests payload
  replies : ∀ payload ∈ w.replies, ∃ response : WireResponse,
    payload = response.toJson.encode ∧ facts.said response.report

/-- The facts know of the step. -/
structure Facts.Knows (facts : Facts) (adapter : Adapter) (x : Event) : Prop where
  typed : ∀ text turnId, x.act = .conversation (.submit text turnId) → facts.typed turnId text
  /-- Another client that submits to this session. -/
  foreign : ∀ task t input deadline,
    x.act = .service (.submitTurn task adapter.sessionId t input deadline) → facts.typed t input
  said : ∀ r, x.report = .service r → facts.said r

theorem Inv.start (provider : Agent.CompletionProvider) :
    Inv facts adapter (.start adapter provider) where
  service := Agent.World.created_inv provider
  backed :=
    { turns := fun completed hc => by
        simp [Deployment.start, Agent.World.created, Agent.AgentState.created,
          Agent.AgentState.session] at hc
      frames := fun task call hl => by simp [Deployment.start, Agent.World.created] at hl }
  holds := .start
  requests := fun _ h => by cases h
  replies := fun _ h => by cases h

/-- The report of a step of the service. -/
theorem report_of_served {x : Event} {z : Agent.Event} (h : served? x = some z) :
    x.report = .service z.report ∧ z.post = x.post.service := by
  simp only [served?] at h
  split at h
  next hreport =>
    cases h
    exact ⟨hreport, rfl⟩
  · cases h

/-- A payload that stands for an answer repeats what was said. -/
theorem Inv.answers {w : Deployment} (h : Inv facts adapter w) {payload : List UInt8}
    (hpayload : payload ∈ w.replies) (detail : String) :
    facts.Answers (decodeReply detail payload) := by
  obtain ⟨response, rfl, hsaid⟩ := h.replies payload hpayload
  rw [Agent.decodeReply_encode]
  rintro _ ⟨⟩
  exact hsaid

theorem Inv.step {x : Event} (hx : (system adapter).Takes x) (h : Inv facts adapter x.pre)
    (hknows : facts.Knows adapter x) : Inv facts adapter x.post := by
  cases takes_step hx with
  | undecoded _ _ hpost =>
      rw [hpost]
      exact h
  | @conversed act r c hact _ _ hnext hpost =>
      have hholds : Holds facts adapter c := by
        refine h.holds.next hnext ?_ ?_
        · rintro text turnId rfl
          rcases hact with ⟨hact, -⟩ | ⟨_, _, _, _, hact⟩
          · exact hknows.typed text turnId hact
          · cases hact
        · rintro reply rfl
          rcases hact with ⟨-, hanswers⟩ | ⟨detail, payload, hpayload, -, hact⟩
          · cases reply with
            | ok response => cases hanswers
            | error error => exact nofun
          · cases hact
            exact h.answers hpayload detail
      rw [hpost]
      refine ⟨h.service, h.backed, hholds, ?_, h.replies⟩
      refine List.forall_mem_append.mpr ⟨h.requests, fun payload hpayload => ?_⟩
      obtain ⟨request, hrequest, rfl⟩ := List.mem_map.mp hpayload
      exact sends_typed hholds.obeys request hrequest
  | @served z hact hserved hz hpre hpost =>
      have hinv : z.pre.Inv := hpre ▸ h.service
      rw [hpost]
      refine ⟨Agent.Event.inv z hz hinv, ?_, h.holds, h.requests, ?_⟩
      · refine Agent.Event.backed hz hinv ?_ (hpre ▸ h.backed)
        intro task t input deadline hsubmit
        rcases hact with hact | ⟨_, payload, hpayload, request, -, hdecode, hact⟩
        · exact hknows.foreign task t input deadline (hact.trans (congrArg _ hsubmit))
        · rw [hact] at hsubmit
          cases request with
          | submit s t' input' deadlineMs =>
              cases hsubmit
              exact h.requests payload hpayload _ _ _ _ hdecode
          | cancel s t' => cases hsubmit
      · refine List.forall_mem_append.mpr ⟨h.replies, fun payload hpayload => ?_⟩
        obtain ⟨response, hresponse, rfl⟩ := List.mem_map.mp hpayload
        have hreport := Agent.Report.response?_eq_some (Option.mem_toList.mp hresponse)
        exact ⟨response, rfl, hreport ▸ hknows.said _ (report_of_served hserved).1⟩

/-- Every run whose events are known keeps it. -/
theorem Inv.run {provider : Agent.CompletionProvider} {tr : List Event} {w : Deployment}
    (h : (system adapter).Run (.start adapter provider) tr w)
    (hknows : ∀ x ∈ tr, facts.Knows adapter x) : Inv facts adapter w :=
  h.stable (I := fun _ => True) (fun _ _ _ => trivial) (fun _ hx _ hk hi => hi.step hx hk) trivial
    hknows (.start provider)

end Deployment

end Paraegox
