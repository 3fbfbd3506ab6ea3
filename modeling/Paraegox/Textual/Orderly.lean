import Paraegox.Textual.Requests

/-!
# A client that breaks no rule of the adapter

Over any run of a conversation.  What the adapter takes off its input is what the client
wrote, in order.  A Turn is driven from the Submit that `run_protocol` takes to the
outcome the adapter writes for it; `Inv` ties it to the stage of the contract, and so to
the Turn of the client.
-/

namespace Paraegox.Textual

open Agent (SessionId TurnId)
open Stdio (Adapter InputFrame IoError OutputFrame Request Selected Stage contract)

/-- One step of a conversation, with the states on both sides of it. -/
abbrev Event := Transition.Event Conversation Act Conversation.Report

/-! ## What a run says of both pipes -/

/-- The frames a step of the client writes. -/
def Conversation.writes (w : Conversation) (act : Act) : List InputFrame :=
  match w.clientNext act with
  | some e => e.written
  | none => []

/-- The frame a step of the adapter takes. -/
def Conversation.takes (w : Conversation) : Act → List InputFrame
  | .take => w.stdin.take 1
  | _ => []

/-- The frames the client wrote in a run. -/
def written (tr : List Event) : List InputFrame := tr.flatMap fun x => x.pre.writes x.act

/-- The frames the adapter took in a run. -/
def taken (tr : List Event) : List InputFrame := tr.flatMap fun x => x.pre.takes x.act

/-- The Turn that is driven after a step, where `turn` was before it. -/
def driving (turn : Option TurnId) (x : Event) : Option TurnId :=
  match x.act, x.pre.adapter with
  | .take, .ask .nextCommand _ => x.pre.stdin.head?.bind submitted?
  | .write, .ask (.write frame) _ =>
      if 0 < outcomes (Conversation.put frame) then none else turn
  | _, _ => turn

/-- The Turn that is driven after a run. -/
def driven (tr : List Event) : Option TurnId := tr.foldl driving none

/-! ## The input pipe delivers in order -/

theorem Conversation.adapterNext_stdin {adapter : Adapter} {w w' : Conversation} {act : Act}
    (h : w.adapterNext adapter act = some w') : w.stdin = w.takes act ++ w'.stdin := by
  simp only [adapterNext] at h
  split at h
  · cases h
    rfl
  · split at h
    · next hstdin =>
        cases h
        rw [takes, hstdin]
        rfl
    · cases h
  · split at h
    · next hstdin =>
        cases h
        rw [takes, hstdin]
        rfl
    · cases h
  · cases h
    rfl
  · cases h
    rfl
  · cases h
    rfl
  · cases h
    rfl
  · cases h
    rfl
  · cases h
    rfl
  · cases h

theorem Conversation.next_stdin {adapter : Adapter} {w w' : Conversation} {act : Act} {r : Report}
    (h : next adapter w act = some (r, w')) :
    w.stdin ++ w.writes act = w.takes act ++ w'.stdin := by
  rw [next] at h
  cases he : w.clientNext act with
  | some e =>
      rw [he] at h
      cases h
      have htakes : w.takes act = [] := by
        cases act with
        | take => cases he
        | _ => rfl
      rw [htakes, writes, he]
      rfl
  | none =>
      rw [he] at h
      have hwrites : w.writes act = [] := by rw [writes, he]
      rw [hwrites, List.append_nil]
      cases hevent : w.eventNext act with
      | some w₁ =>
          rw [hevent] at h
          cases h
          cases act with
          | event =>
              rw [eventNext] at hevent
              split at hevent
              · cases hevent
                rfl
              · cases hevent
          | _ => cases hevent
      | none =>
          rw [hevent] at h
          obtain ⟨w₁, hadapter, heq⟩ := Option.map_eq_some_iff.mp h
          cases heq
          exact adapterNext_stdin hadapter

/-! ## The Turn that is driven -/

/-- A frame that is written ends the Turn if it is an outcome. -/
theorem turn?_afterWrite (stage : Stage) (frame : OutputFrame) :
    turn? (afterWrite stage frame) =
      if 0 < outcomes (Conversation.put frame) then none else turn? stage := by
  rw [afterWrite, Conversation.put]
  cases Stdio.JsonlOutput.send frame (.ok ()) with
  | error _ => rfl
  | ok _ => cases frame <;> cases stage <;> rfl

theorem turn?_afterCommand (frame : InputFrame) :
    turn? (Stage.afterCommand frame) = submitted? frame := by
  cases frame <;> rfl

/-- An answer that does not move the stage drives the same Turn. -/
theorem driving_answer {adapter : Adapter} {stage : Stage} {x : Event} {request : Request}
    {k : request.Answer → Dialogue Request Request.Answer Adapter.Point} {a : request.Answer}
    (hd : x.pre.adapter = .ask request k)
    (hexpects : ∀ stage, (contract adapter.sessionId).expects stage ⟨request, a⟩)
    (hnext : ∀ stage, (contract adapter.sessionId).next stage ⟨request, a⟩ = stage) :
    driving (turn? stage) x = turn? stage := by
  rw [driving, hd]
  split
  · next hask =>
      cases hask
      obtain ⟨frame, rfl, -⟩ := hexpects .idle
      have hidle : Stage.afterCommand frame = .idle := hnext .idle
      have hother : Stage.afterCommand frame = .driving ⟨⟨0⟩⟩ := hnext (.driving ⟨⟨0⟩⟩)
      rw [hidle] at hother
      cases hother
  · next frame k _ hask =>
      cases hask
      obtain rfl : a = .ok () := hexpects .idle
      have hafter : afterWrite stage frame = stage := hnext stage
      rw [← turn?_afterWrite, hafter]
  · rfl

/-- A step keeps the invariant, and the stage drives the Turn the run does. -/
theorem Inv.step_driving {adapter : Adapter} {stage : Stage} {x : Event}
    (hx : (Conversation.system adapter).Takes x) (h : Inv adapter stage x.pre) :
    ∃ stage', Inv adapter stage' x.post ∧ turn? stage' = driving (turn? stage) x := by
  obtain ⟨w, act, report, w'⟩ := x
  have hstep : Conversation.Step adapter w act w' := Conversation.next_step hx
  cases hstep with
  | client he =>
      refine ⟨_, h.client he, ?_⟩
      cases act with
      | take => cases he
      | write => cases he
      | _ => rfl
  | event _ hstdout => exact ⟨_, h.event hstdout, rfl⟩
  | resume hd => exact ⟨_, h.resume hd, rfl⟩
  | takeIdle hd hstdin =>
      refine ⟨_, h.takeIdle hd hstdin, ?_⟩
      simp only [driving, hd, hstdin]
      exact turn?_afterCommand _
  | takeActive hd hstdin =>
      refine ⟨_, h.takeActive hd hstdin, ?_⟩
      simp only [driving, hd]
  | answer hd hexpects hnext =>
      exact ⟨_, h.answer hd (hexpects stage) (hnext stage),
        (driving_answer hd hexpects hnext).symm⟩
  | write hd =>
      refine ⟨_, h.write hd, ?_⟩
      simp only [driving, hd]
      exact turn?_afterWrite _ _

/-! ## Runs -/

/-- What holds between a conversation and the run that led to it. -/
structure Tracked (adapter : Adapter) (w : Conversation) (tr : List Event) : Prop where
  inv : ∃ stage, Inv adapter stage w ∧ turn? stage = driven tr
  waiting : ∀ frame ∈ w.backend.waiters.map Writer.frame, Fitting frame
  fitting : ∀ frame ∈ written tr, Fitting frame
  fifo : written tr = taken tr ++ w.stdin

theorem written_concat (tr : List Event) (x : Event) :
    written (tr ++ [x]) = written tr ++ x.pre.writes x.act := by
  rw [written, List.flatMap_append, ← written, List.flatMap_singleton]

theorem taken_concat (tr : List Event) (x : Event) :
    taken (tr ++ [x]) = taken tr ++ x.pre.takes x.act := by
  rw [taken, List.flatMap_append, ← taken, List.flatMap_singleton]

theorem driven_concat (tr : List Event) (x : Event) :
    driven (tr ++ [x]) = driving (driven tr) x := by
  rw [driven, List.foldl_append, ← driven, List.foldl_cons, List.foldl_nil]

namespace Tracked

variable {adapter : Adapter} {w : Conversation} {tr : List Event} {x : Event}

theorem start (adapter : Adapter) : Tracked adapter (.start adapter) [] where
  inv := ⟨.idle, .start adapter, rfl⟩
  waiting := fun _ h => by cases h
  fitting := fun _ h => by cases h
  fifo := rfl

/-- What a step writes and leaves waiting was checked. -/
theorem fits (hx : (Conversation.system adapter).Takes x)
    (h : ∀ frame ∈ x.pre.backend.waiters.map Writer.frame, Fitting frame) :
    ∀ frame ∈ x.pre.writes x.act ++ x.post.backend.waiters.map Writer.frame, Fitting frame := by
  obtain ⟨w, act, report, w'⟩ := x
  dsimp only at h ⊢
  rw [Conversation.writes]
  cases he : w.clientNext act with
  | some e =>
      have hnext : Conversation.next adapter w act = some (report, w') := hx
      rw [Conversation.next, he] at hnext
      cases hnext
      exact (Conversation.clientNext_runs he).fitting h
  | none =>
      have hwaiters : w'.backend.waiters = w.backend.waiters := by
        have hstep : Conversation.Step adapter w act w' := Conversation.next_step hx
        cases hstep with
        | client he' => cases he.symm.trans he'
        | event _ _ => exact Backend.event_waiters _ _
        | _ => rfl
      rw [hwaiters]
      exact h

theorem step (hx : (Conversation.system adapter).Takes x) (h : Tracked adapter x.pre tr) :
    Tracked adapter x.post (tr ++ [x]) := by
  obtain ⟨stage, hinv, hturn⟩ := h.inv
  have hfits := List.forall_mem_append.mp (fits hx h.waiting)
  refine ⟨?_, hfits.2, ?_, ?_⟩
  · obtain ⟨stage', hinv', hturn'⟩ := hinv.step_driving hx
    exact ⟨stage', hinv', by rw [driven_concat, hturn', hturn]⟩
  · rw [written_concat]
    exact List.forall_mem_append.mpr ⟨h.fitting, hfits.1⟩
  · rw [written_concat, taken_concat, h.fifo, List.append_assoc, List.append_assoc,
      Conversation.next_stdin hx]

theorem run (h : (Conversation.system adapter).Run (.start adapter) tr w) :
    Tracked adapter w tr :=
  h.trace (fun _ _ hx => step hx) (start adapter)

end Tracked

/-! ## The rules of the adapter -/

namespace Inv

variable {adapter : Adapter} {stage : Stage} {w : Conversation}

/-- A Turn is driven at the stage of its own. -/
theorem driving_stage {turnId : TurnId} (h : turn? stage = some turnId) :
    stage = .driving turnId := by
  cases stage with
  | idle => cases h
  | answering _ => cases h
  | driving _ => rw [Option.some.inj h]

/-- A command on its way is of the version and the session of the adapter. -/
theorem ensures (h : Inv adapter stage w) {frame : InputFrame} (hframe : frame ∈ w.requests) :
    frame.ensureVersion = .ok () ∧
      Stdio.ensureSession adapter.sessionId frame.sessionId = .ok () := by
  obtain ⟨hversion, hsession⟩ := h.proper frame hframe
  exact ⟨if_pos hversion, if_pos hsession.symm⟩

/-- While a Turn is driven, only commands that suit it are on their way. -/
theorem suits (h : Inv adapter stage w) {turnId : TurnId} (hturn : turn? stage = some turnId)
    {frame : InputFrame} (hframe : frame ∈ w.requests) : frame.Suits turnId := by
  have hprogress := h.progress
  rw [driving_stage hturn] at hprogress
  exact hprogress.driving.2.2 frame hframe

/-- `drive_turn` waits for the Turn that is driven. -/
theorem select_driving (h : Inv adapter stage w) {turnId : TurnId}
    {k : Selected → Dialogue Request Request.Answer Adapter.Point}
    (hd : w.adapter = .ask (.select turnId) k) : turn? stage = some turnId := by
  have hobeys := h.obeys
  rw [hd] at hobeys
  have hstage : stage = .driving turnId := hobeys.1
  rw [hstage]
  rfl

/-- An error of a Turn is about the Turn that is driven. -/
theorem turnError_driving (h : Inv adapter stage w) {v : UInt8} {sessionId : SessionId}
    {turnId : TurnId} {message : String}
    {k : Except IoError Unit → Dialogue Request Request.Answer Adapter.Point}
    (hd : w.adapter = .ask (.write (.turnError v sessionId turnId message)) k) :
    turn? stage = some turnId := by
  obtain ⟨-, -, hstage, -⟩ := h.allows hd
  rw [hstage]
  rfl

end Inv

theorem jsonLines_fitting {frames : List InputFrame} (h : ∀ frame ∈ frames, Fitting frame) :
    ∀ value ∈ frames.map requestJson, value.encodedLen ≤ Stdio.MAX_INPUT_FRAME_BYTES := by
  intro value hvalue
  obtain ⟨frame, hframe, rfl⟩ := List.mem_map.mp hvalue
  exact h frame hframe

/-- Over any run of a conversation: a frame the adapter takes is of its version and session,
and, while a Turn is driven, neither a Submit nor a cancel of another Turn; a `turn_error`
names the Turn that is driven; the adapter takes what was written in order; and its reader,
on the bytes of what was written and however they are cut, hands out these very frames. -/
theorem no_protocol_error {adapter : Adapter} {w : Conversation} {tr : List Event}
    (h : (Conversation.system adapter).Run (.start adapter) tr w) :
    (∀ tr₁ x tr₂ frame, tr = tr₁ ++ x :: tr₂ → frame ∈ x.pre.takes x.act →
      frame.ensureVersion = .ok () ∧
      Stdio.ensureSession adapter.sessionId frame.sessionId = .ok () ∧
      (∀ turnId k, x.pre.adapter = .ask (.select turnId) k → driven tr₁ = some turnId) ∧
      ∀ turnId, driven tr₁ = some turnId → frame.Suits turnId) ∧
    (∀ tr₁ x tr₂ v sessionId turnId message k, tr = tr₁ ++ x :: tr₂ → x.act = .write →
      x.pre.adapter = .ask (.write (.turnError v sessionId turnId message)) k →
      driven tr₁ = some turnId) ∧
    written tr = taken tr ++ w.stdin ∧
    ∀ reads feed,
      Stdio.framing.Run (.start (Stdio.jsonLines ((written tr).map requestJson))) reads feed →
      ∀ (k : Nat) (result : Stdio.FrameResult),
        (reads.filterMap fun x => x.report.result?)[k]? = some result →
        Stdio.nextCommand result = .ok ((written tr)[k]?) := by
  have htracked := Tracked.run h
  refine ⟨?_, ?_, htracked.fifo, ?_⟩
  · intro tr₁ x tr₂ frame htr hframe
    subst htr
    obtain ⟨hrun, -, -⟩ := h.at
    obtain ⟨stage, hinv, hturn⟩ := (Tracked.run hrun).inv
    have hrequests : frame ∈ x.pre.requests := by
      have hstdin : frame ∈ x.pre.stdin := by
        cases hact : x.act with
        | take =>
            rw [hact] at hframe
            exact List.mem_of_mem_take hframe
        | _ =>
            rw [hact] at hframe
            cases hframe
      exact List.mem_append_left _ hstdin
    obtain ⟨hversion, hsession⟩ := hinv.ensures hrequests
    refine ⟨hversion, hsession, fun turnId k hd => ?_, fun turnId hdriven => ?_⟩
    · rw [← hturn]
      exact hinv.select_driving hd
    · exact hinv.suits (hturn.trans hdriven) hrequests
  · intro tr₁ x tr₂ v sessionId turnId message k htr _ hd
    subst htr
    obtain ⟨hrun, -, -⟩ := h.at
    obtain ⟨stage, hinv, hturn⟩ := (Tracked.run hrun).inv
    rw [← hturn]
    exact hinv.turnError_driving hd
  · intro reads feed hreads k result hk
    obtain rfl := Stdio.Feed.results_jsonLines (jsonLines_fitting htracked.fitting) hreads hk
    rw [List.getElem?_map]
    cases (written tr)[k]? with
    | none => rfl
    | some frame => exact Stdio.nextCommand_encode (ofJson_requestJson frame)

/-- A Turn that is cancelled and then shut down. -/
theorem no_protocol_error_shutdown : ∃ tr w,
    (Conversation.system ⟨⟨⟨1⟩⟩, 1000000⟩).Run (.start ⟨⟨⟨1⟩⟩, 1000000⟩) tr w ∧
    tr.map Transition.Event.act = [.submit "hello" ⟨⟨2⟩⟩, .drained, .cancel, .drained, .resume,
      .take, .resume, .take, .reply (.ok (.cancel ⟨⟨1⟩⟩ ⟨⟨2⟩⟩ .cancellationRequested)), .write,
      .shutdown, .drained, .resume, .take] ∧
    driven tr = some ⟨⟨2⟩⟩ ∧ written tr = taken tr := by
  obtain ⟨tr, w, hrun, hacts, hw⟩ := Transition.System.exec_any
    (Conversation.system ⟨⟨⟨1⟩⟩, 1000000⟩) (.start ⟨⟨⟨1⟩⟩, 1000000⟩)
    [.submit "hello" ⟨⟨2⟩⟩, .drained, .cancel, .drained, .resume, .take, .resume, .take,
      .reply (.ok (.cancel ⟨⟨1⟩⟩ ⟨⟨2⟩⟩ .cancellationRequested)), .write, .shutdown, .drained,
      .resume, .take]
    (fun q => driven q.1 = some ⟨⟨2⟩⟩ ∧ q.2.stdin = []) (by decide +kernel)
  obtain ⟨hdriven, hstdin⟩ := of_decide_eq_true hw
  obtain ⟨-, -, hfifo, -⟩ := no_protocol_error hrun
  exact ⟨tr, w, hrun, hacts, hdriven, by rw [hfifo, hstdin, List.append_nil]⟩

end Paraegox.Textual
