import Paraegox.Stdio.Outcomes
import Paraegox.Textual.Conversation

/-!
# How far a Turn has got between the two sides

The client and the adapter each keep a Turn of their own.  `Progress` relates them
through what is on its way in both pipes: the client has a Turn from its Submit
to the outcome it reads, the adapter from the Submit it reads to the outcome it
writes.  `Inv` adds that the adapter keeps its contract, and every step keeps `Inv`.
-/

namespace Paraegox.Textual

open Agent (SessionId TurnId)
open Stdio (Adapter InputFrame IoError OutputFrame PointStage Request Selected Stage
  contract)

/-! ## What a step of the client does -/

/-- The Turn a Submit is for. -/
def submitted? : InputFrame → Option TurnId
  | .submit _ _ turnId _ => some turnId
  | _ => none

/-- A command about the Turn the client has. -/
def Backend.Sends (b : Backend) : InputFrame → Prop
  | .submit _ _ _ _ => False
  | .cancel v sessionId turnId =>
      v = Stdio.PROTOCOL_VERSION ∧ sessionId = b.sessionId ∧ b.activeTurnId = some turnId
  | .shutdown v sessionId => v = Stdio.PROTOCOL_VERSION ∧ sessionId = b.sessionId

namespace Backend.Sends

variable {b : Backend} {frame : InputFrame}

theorem proper (h : b.Sends frame) : frame.Proper b.sessionId := by
  cases frame with
  | submit _ _ _ _ => exact h.elim
  | cancel _ _ _ => exact ⟨h.1, h.2.1⟩
  | shutdown _ _ => exact ⟨h.1, h.2⟩

theorem submits_nothing (h : b.Sends frame) : submitted? frame = none := by
  cases frame with
  | submit _ _ _ _ => exact h.elim
  | cancel _ _ _ => rfl
  | shutdown _ _ => rfl

theorem suits (h : b.Sends frame) {turnId : TurnId} (hactive : b.activeTurnId = some turnId) :
    frame.Suits turnId := by
  cases frame with
  | submit _ _ _ _ => exact h.elim
  | cancel _ _ _ => exact Option.some.inj (h.2.2.symm.trans hactive)
  | shutdown _ _ => exact trivial

end Backend.Sends

/-- What a step of the client adds behind the commands that wait. -/
inductive Backend.Pushes (b : Backend) (e : Backend.Effect) : Prop where
  | commands {frames : List InputFrame} (hactive : e.backend.activeTurnId = b.activeTurnId)
      (hqueue : e.written ++ e.backend.waiters.map Writer.frame =
        b.waiters.map Writer.frame ++ frames)
      (hframes : ∀ frame ∈ frames, b.Sends frame)
  | submits {turnId : TurnId} {text : String} (hidle : b.activeTurnId = none)
      (hactive : e.backend.activeTurnId = some turnId)
      (hqueue : e.written ++ e.backend.waiters.map Writer.frame =
        b.waiters.map Writer.frame ++ [.submit Stdio.PROTOCOL_VERSION b.sessionId turnId text])

/-- What a step of the client does. -/
structure Backend.Goes (b : Backend) (e : Backend.Effect) : Prop where
  session : e.backend.sessionId = b.sessionId
  reader : e.backend.reader = b.reader
  pushes : b.Pushes e

/-- The same with the call that wrote: nothing is added, or one frame is written. -/
inductive Backend.Runs (b : Backend) (e : Backend.Effect) : Prop where
  | quiet (hsession : e.backend.sessionId = b.sessionId) (hreader : e.backend.reader = b.reader)
      (hactive : e.backend.activeTurnId = b.activeTurnId)
      (hqueue : e.written ++ e.backend.waiters.map Writer.frame = b.waiters.map Writer.frame)
  | writes {b₀ : Backend} {w : Writer} (hwrite : b₀.writeFrame w = .ok (e.backend, e.written))
      (hsession : b₀.sessionId = b.sessionId) (hreader : b₀.reader = b.reader)
      (hwaiters : b₀.waiters = b.waiters)
      (hframe : b₀.activeTurnId = b.activeTurnId ∧ b.Sends w.frame ∨
        b.activeTurnId = none ∧ ∃ turnId text, b₀.activeTurnId = some turnId ∧
          w.frame = .submit Stdio.PROTOCOL_VERSION b.sessionId turnId text)

namespace Backend

variable {b : Backend} {e : Effect}

/-- A frame is written behind those that wait. -/
theorem writeFrame_spec {b' : Backend} {w : Writer} {written : List InputFrame}
    (h : b.writeFrame w = .ok (b', written)) :
    b'.sessionId = b.sessionId ∧ b'.reader = b.reader ∧ b'.activeTurnId = b.activeTurnId ∧
      written ++ b'.waiters.map Writer.frame = b.waiters.map Writer.frame ++ [w.frame] := by
  rw [writeFrame] at h
  split_ifs at h with hlen hfree
  · cases h
    refine ⟨rfl, rfl, rfl, ?_⟩
    rw [hfree.2]
    rfl
  · cases h
    refine ⟨rfl, rfl, rfl, ?_⟩
    rw [List.nil_append, List.map_append, List.map_singleton]

theorem Runs.goes (h : b.Runs e) : b.Goes e := by
  cases h with
  | quiet hsession hreader hactive hqueue =>
      rw [← List.append_nil (b.waiters.map Writer.frame)] at hqueue
      exact ⟨hsession, hreader, .commands hactive hqueue fun _ h => by cases h⟩
  | writes hwrite hsession hreader hwaiters hframe =>
      obtain ⟨hsession', hreader', hactive', hqueue⟩ := writeFrame_spec hwrite
      rw [hwaiters] at hqueue
      refine ⟨hsession'.trans hsession, hreader'.trans hreader, ?_⟩
      rcases hframe with ⟨hactive, hsends⟩ | ⟨hidle, turnId, text, hactive, hsubmit⟩
      · refine .commands (hactive'.trans hactive) hqueue ?_
        intro frame hframe
        rw [List.mem_singleton.mp hframe]
        exact hsends
      · rw [hsubmit] at hqueue
        exact .submits hidle (hactive'.trans hactive) hqueue

theorem submit_runs (text : String) (turnId : TurnId) : b.Runs (b.submit text turnId) := by
  rw [submit]
  split
  · exact .quiet rfl rfl rfl rfl
  next hactive =>
    rw [Bool.not_eq_true, Option.isSome_eq_false_iff, Option.isNone_iff_eq_none] at hactive
    split
    · exact .quiet rfl rfl rfl rfl
    · split
      next b' written hwrite =>
        exact .writes hwrite rfl rfl rfl (.inr ⟨hactive, turnId, text, rfl, rfl⟩)
      · exact .quiet rfl rfl hactive.symm rfl

/-- The Turn a cancel is about is the active one. -/
theorem cancelTarget_active {turnId : TurnId} (h : b.cancelTarget = some turnId) :
    b.activeTurnId = some turnId := by
  rw [cancelTarget] at h
  split at h
  · cases h
  · exact h

theorem cancel_runs : b.Runs b.cancel := by
  rw [cancel]
  split
  · exact .quiet rfl rfl rfl rfl
  next turnId htarget =>
    split
    next b' written hwrite =>
      exact .writes hwrite rfl rfl rfl (.inl ⟨rfl, rfl, rfl, cancelTarget_active htarget⟩)
    · exact .quiet rfl rfl rfl rfl

theorem writeShutdown_runs {b₀ : Backend} {result : Option (Except BackendError Bool)}
    (hsession : b₀.sessionId = b.sessionId) (hreader : b₀.reader = b.reader)
    (hactive : b₀.activeTurnId = b.activeTurnId) (hwaiters : b₀.waiters = b.waiters) :
    b.Runs ⟨result, b₀.writeShutdown.1, b₀.writeShutdown.2⟩ := by
  rw [writeShutdown]
  split
  next p hwrite =>
    exact .writes hwrite hsession hreader hwaiters (.inl ⟨hactive, rfl, hsession⟩)
  · exact .quiet hsession hreader hactive (by rw [hwaiters]; rfl)

theorem shutdown_runs : b.Runs b.shutdown := by
  rw [shutdown]
  split
  · exact .quiet rfl rfl rfl rfl
  · dsimp only
    split
    · exact writeShutdown_runs rfl rfl rfl rfl
    next turnId htarget =>
      split
      next b' written hwrite =>
        exact .writes hwrite rfl rfl rfl
          (.inl ⟨rfl, rfl, rfl, cancelTarget_active (b := b) htarget⟩)
      · exact .quiet rfl rfl rfl rfl

theorem acquire_runs (h : b.acquire = some e) : b.Runs e := by
  rw [acquire] at h
  split at h
  next w waiters _ hwaiters =>
    cases h
    exact .quiet rfl rfl rfl (by rw [hwaiters]; rfl)
  · cases h

theorem drained_runs (h : b.drained = some e) : b.Runs e := by
  rw [drained] at h
  split at h
  · cases h
  next w hholder =>
    dsimp only at h
    split at h
    · cases h
      exact .quiet rfl rfl rfl rfl
    · cases h
      exact .quiet rfl rfl rfl rfl
    · cases h
      exact writeShutdown_runs rfl rfl rfl rfl
    · cases h
      exact .quiet rfl rfl rfl rfl

end Backend

theorem Conversation.clientNext_runs {w : Conversation} {act : Act} {e : Backend.Effect}
    (h : w.clientNext act = some e) : w.backend.Runs e := by
  cases act with
  | submit text turnId =>
      cases h
      exact Backend.submit_runs text turnId
  | cancel =>
      cases h
      exact Backend.cancel_runs
  | shutdown =>
      cases h
      exact Backend.shutdown_runs
  | acquire => exact Backend.acquire_runs h
  | drained => exact Backend.drained_runs h
  | _ => cases h

theorem Conversation.clientNext_goes {w : Conversation} {act : Act} {e : Backend.Effect}
    (h : w.clientNext act = some e) : w.backend.Goes e :=
  (clientNext_runs h).goes

/-! ## What `events` does -/

namespace Backend

variable (b : Backend)

/-- A frame leaves the Turn as it is or ends it, and the writers as they are. -/
theorem event_keeps (line : Json) :
    (b.event line).sessionId = b.sessionId ∧ (b.event line).waiters = b.waiters ∧
      ((b.event line).activeTurnId = b.activeTurnId ∨ (b.event line).activeTurnId = none) := by
  rw [event]
  split
  · exact ⟨rfl, rfl, .inl rfl⟩
  · split
    · exact ⟨rfl, rfl, .inr rfl⟩
    · exact ⟨rfl, rfl, .inr rfl⟩
    · exact ⟨rfl, rfl, .inl rfl⟩
    · exact ⟨rfl, rfl, .inl rfl⟩

theorem event_session (line : Json) : (b.event line).sessionId = b.sessionId :=
  (b.event_keeps line).1

theorem event_waiters (line : Json) : (b.event line).waiters = b.waiters :=
  (b.event_keeps line).2.1

theorem event_active (line : Json) :
    (b.event line).activeTurnId = b.activeTurnId ∨ (b.event line).activeTurnId = none :=
  (b.event_keeps line).2.2

/-- Only an outcome ends it. -/
theorem event_active_quiet {frame : OutputFrame} (h : frame.outcome? = none) :
    (b.event frame.toJson).activeTurnId = b.activeTurnId := by
  rw [event]
  split
  · rfl
  next fields hread =>
    have hfields : frame.toJson = .obj fields := by
      simp only [readFrame] at hread
      split_ifs at hread with hlen
      · cases hread
      · split at hread
        next fields' hobj =>
          obtain ⟨_, hvalid, hpure⟩ := Except.ok_of_bind (x := b.validateEvent fields') hread
          cases hpure
          exact hobj
        · cases hread
    cases frame with
    | ready v sessionId turnTimeoutMs maxInputBytes =>
        cases hfields
        rfl
    | cancelResult v sessionId turnId result =>
        cases hfields
        rfl
    | turnTerminal v result => cases h
    | turnError v sessionId turnId message => cases h
    | stopped v sessionId =>
        cases hfields
        rfl

end Backend

/-! ## How far a Turn has got -/

/-- The Turn that is driven. -/
def turn? : Stage → Option TurnId
  | .driving turnId => some turnId
  | _ => none

theorem submitted?_of_suits {turnId : TurnId} {frame : InputFrame} (h : frame.Suits turnId) :
    submitted? frame = none := by
  cases frame with
  | submit _ _ _ _ => exact h.elim
  | cancel _ _ _ => rfl
  | shutdown _ _ => rfl

/-- The Turn of the client, the commands on their way to an adapter at some stage,
and how many outcomes are on their way back. -/
inductive Progress : Stage → Option TurnId → List InputFrame → Nat → Prop where
  | rest {stage : Stage} {requests : List InputFrame} (hstage : turn? stage = none)
      (hrequests : ∀ frame ∈ requests, submitted? frame = none) :
      Progress stage none requests 0
  | sent {stage : Stage} {turnId : TurnId} {requests before after : List InputFrame} {v : UInt8}
      {sessionId : SessionId} {text : String} (hstage : turn? stage = none)
      (hrequests : requests = before ++ .submit v sessionId turnId text :: after)
      (hbefore : ∀ frame ∈ before, submitted? frame = none)
      (hafter : ∀ frame ∈ after, frame.Suits turnId) :
      Progress stage (some turnId) requests 0
  | driven {turnId : TurnId} {requests : List InputFrame}
      (hrequests : ∀ frame ∈ requests, frame.Suits turnId) :
      Progress (.driving turnId) (some turnId) requests 0
  | ended {stage : Stage} {turnId : TurnId} {requests : List InputFrame} {outcomes : Nat}
      (hstage : turn? stage = none) (hrequests : ∀ frame ∈ requests, submitted? frame = none)
      (houtcomes : outcomes ≤ 1) : Progress stage (some turnId) requests outcomes

namespace Progress

variable {stage : Stage} {active : Option TurnId} {requests : List InputFrame} {outcomes : Nat}
  {turnId : TurnId} {frame : InputFrame}

/-- Commands about the active Turn. -/
theorem push (h : Progress stage active requests outcomes) {frames : List InputFrame}
    (hsubmit : ∀ frame ∈ frames, submitted? frame = none)
    (hsuits : ∀ turnId, active = some turnId → ∀ frame ∈ frames, frame.Suits turnId) :
    Progress stage active (requests ++ frames) outcomes := by
  cases h with
  | rest hstage hrequests =>
      exact .rest hstage fun f hf => (List.mem_append.mp hf).elim (hrequests f) (hsubmit f)
  | @sent _ turnId _ before after _ _ _ hstage hrequests hbefore hafter =>
      subst hrequests
      rw [List.append_assoc, List.cons_append]
      exact .sent hstage rfl hbefore fun f hf =>
        (List.mem_append.mp hf).elim (hafter f) (hsuits turnId rfl f)
  | @driven turnId _ hrequests =>
      exact .driven fun f hf => (List.mem_append.mp hf).elim (hrequests f) (hsuits turnId rfl f)
  | ended hstage hrequests houtcomes =>
      exact .ended hstage (fun f hf => (List.mem_append.mp hf).elim (hrequests f) (hsubmit f))
        houtcomes

/-- A Submit of a client that has no Turn. -/
theorem submit (h : Progress stage none requests outcomes) (v : UInt8) (sessionId : SessionId)
    (turnId : TurnId) (text : String) :
    Progress stage (some turnId) (requests ++ [.submit v sessionId turnId text]) outcomes := by
  cases h with
  | rest hstage hrequests => exact .sent hstage rfl hrequests fun _ h => by cases h

theorem turn?_afterCommand (h : submitted? frame = none) :
    turn? (Stage.afterCommand frame) = none := by
  cases frame with
  | submit _ _ _ _ => cases h
  | cancel _ _ _ => rfl
  | shutdown _ _ => rfl

/-- The adapter reads a command while it is idle. -/
theorem read (h : Progress .idle active (frame :: requests) outcomes) :
    Progress (Stage.afterCommand frame) active requests outcomes := by
  generalize hall : frame :: requests = all at h
  generalize hidle : Stage.idle = stage at h
  cases h with
  | rest hstage hrequests =>
      subst hall
      exact .rest (turn?_afterCommand (hrequests frame List.mem_cons_self))
        fun f hf => hrequests f (List.mem_cons_of_mem _ hf)
  | @sent _ turnId _ before after _ _ _ hstage hrequests hbefore hafter =>
      subst hall
      cases before with
      | nil =>
          rw [List.nil_append, List.cons.injEq] at hrequests
          obtain ⟨rfl, rfl⟩ := hrequests
          exact .driven hafter
      | cons first before =>
          rw [List.cons_append, List.cons.injEq] at hrequests
          obtain ⟨rfl, rfl⟩ := hrequests
          exact .sent (turn?_afterCommand (hbefore frame List.mem_cons_self)) rfl
            (fun f hf => hbefore f (List.mem_cons_of_mem _ hf)) hafter
  | driven _ => cases hidle
  | ended hstage hrequests houtcomes =>
      subst hall
      exact .ended (turn?_afterCommand (hrequests frame List.mem_cons_self))
        (fun f hf => hrequests f (List.mem_cons_of_mem _ hf)) houtcomes

/-- While it drives a Turn, the client has the same one and all that is on its way
is about it. -/
theorem driving (h : Progress (.driving turnId) active requests outcomes) :
    active = some turnId ∧ outcomes = 0 ∧ ∀ frame ∈ requests, frame.Suits turnId := by
  cases h with
  | rest hstage _ => cases hstage
  | sent hstage _ _ _ => cases hstage
  | driven hrequests => exact ⟨rfl, rfl, hrequests⟩
  | ended hstage _ _ => cases hstage

/-- The stage does not matter while no Turn is driven. -/
theorem restage {stage' : Stage} (h : Progress stage active requests outcomes)
    (hstage : turn? stage = none) (hstage' : turn? stage' = none) :
    Progress stage' active requests outcomes := by
  cases h with
  | rest _ hrequests => exact .rest hstage' hrequests
  | sent _ hrequests hbefore hafter => exact .sent hstage' hrequests hbefore hafter
  | driven _ => cases hstage
  | ended _ hrequests houtcomes => exact .ended hstage' hrequests houtcomes

/-- The client reads an outcome, and gives the Turn up or not. -/
theorem hear {active' : Option TurnId} (h : Progress stage active requests (outcomes + 1))
    (hactive : active' = active ∨ active' = none) :
    Progress stage active' requests outcomes := by
  generalize hn : outcomes + 1 = n at h
  cases h with
  | rest _ _ => cases hn
  | sent _ _ _ _ => cases hn
  | driven _ => cases hn
  | ended hstage hrequests houtcomes =>
      obtain rfl : outcomes = 0 := by omega
      rcases hactive with rfl | rfl
      · exact .ended hstage hrequests (Nat.zero_le _)
      · exact .rest hstage hrequests

end Progress

/-- The outcomes among some frames. -/
def outcomes (frames : List OutputFrame) : Nat := frames.countP fun frame => frame.outcome?.isSome

/-- Where the adapter stands after it wrote a frame. -/
def afterWrite (stage : Stage) (frame : OutputFrame) : Stage :=
  match Stdio.JsonlOutput.send frame (.ok ()) with
  | .ok () => stage.afterFrame frame
  | .error _ => stage

/-- The adapter writes a frame its contract allows. -/
theorem Progress.write {stage : Stage} {active : Option TurnId} {requests : List InputFrame}
    {n : Nat} {sessionId : SessionId} {frame : OutputFrame}
    (h : Progress stage active requests n) (hallows : stage.Allows sessionId frame) :
    Progress (afterWrite stage frame) active requests (n + outcomes (Conversation.put frame)) := by
  simp only [afterWrite, Conversation.put]
  cases Stdio.JsonlOutput.send frame (.ok ()) with
  | error _ => exact h
  | ok _ =>
      dsimp only
      cases frame with
      | ready _ _ _ _ => exact hallows.elim
      | cancelResult v session turnId result =>
          rcases hallows.2.2 with rfl | rfl
          · exact h
          · exact h.restage rfl rfl
      | turnTerminal v result =>
          obtain rfl : stage = .driving result.turnId := hallows.2.2
          obtain ⟨rfl, rfl, hrequests⟩ := h.driving
          exact .ended rfl (fun f hf => submitted?_of_suits (hrequests f hf)) le_rfl
      | turnError v session turnId message =>
          obtain rfl : stage = .driving turnId := hallows.2.2.1
          obtain ⟨rfl, rfl, hrequests⟩ := h.driving
          exact .ended rfl (fun f hf => submitted?_of_suits (hrequests f hf)) le_rfl
      | stopped v session => exact h

/-! ## The invariant -/

/-- What holds between the two sides and their pipes. -/
structure Inv (adapter : Adapter) (stage : Stage) (w : Conversation) : Prop where
  session : w.backend.sessionId = adapter.sessionId
  proper : ∀ frame ∈ w.requests, frame.Proper adapter.sessionId
  obeys : w.adapter.Obeys (contract adapter.sessionId) PointStage stage
  progress : Progress stage w.backend.activeTurnId w.requests (outcomes w.stdout)

namespace Inv

variable {adapter : Adapter} {stage : Stage} {w : Conversation}

theorem start (adapter : Adapter) : Inv adapter .idle (Conversation.start adapter) where
  session := rfl
  proper := fun _ h => by cases h
  obeys := rfl
  progress := .rest rfl fun _ h => by cases h

/-- Commands join those on their way. -/
theorem requests_push {e : Backend.Effect} {frames : List InputFrame}
    (hqueue : e.written ++ e.backend.waiters.map Writer.frame =
      w.backend.waiters.map Writer.frame ++ frames) :
    Conversation.requests { w with backend := e.backend, stdin := w.stdin ++ e.written } =
      w.requests ++ frames := by
  simp only [Conversation.requests]
  rw [List.append_assoc, hqueue, List.append_assoc]

theorem client (h : Inv adapter stage w) {act : Act} {e : Backend.Effect}
    (he : w.clientNext act = some e) :
    Inv adapter stage { w with backend := e.backend, stdin := w.stdin ++ e.written } := by
  obtain ⟨hsession, -, hpushes⟩ := Conversation.clientNext_goes he
  have hprogress := h.progress
  cases hpushes with
  | @commands frames hactive hqueue hframes =>
      refine ⟨hsession.trans h.session, ?_, h.obeys, ?_⟩
      · rw [requests_push hqueue]
        intro frame hframe
        rcases List.mem_append.mp hframe with hframe | hframe
        · exact h.proper frame hframe
        · exact h.session ▸ (hframes frame hframe).proper
      · rw [requests_push hqueue]
        rw [← hactive] at hprogress
        exact hprogress.push (fun frame hframe => (hframes frame hframe).submits_nothing)
          fun turnId hturn frame hframe => (hframes frame hframe).suits (hactive ▸ hturn)
  | @submits turnId text hidle hactive hqueue =>
      refine ⟨hsession.trans h.session, ?_, h.obeys, ?_⟩
      · rw [requests_push hqueue]
        intro frame hframe
        rcases List.mem_append.mp hframe with hframe | hframe
        · exact h.proper frame hframe
        · rw [List.mem_singleton.mp hframe]
          exact ⟨rfl, h.session⟩
      · rw [requests_push hqueue]
        rw [hidle] at hprogress
        dsimp only
        rw [hactive]
        exact hprogress.submit _ _ _ _

theorem event (h : Inv adapter stage w) {frame : OutputFrame} {stdout : List OutputFrame}
    (hstdout : w.stdout = frame :: stdout) :
    Inv adapter stage { w with backend := w.backend.event frame.toJson, stdout } := by
  have hprogress := h.progress
  rw [hstdout] at hprogress
  have hrequests : Conversation.requests
      { w with backend := w.backend.event frame.toJson, stdout } = w.requests := by
    rw [Conversation.requests, Conversation.requests, Backend.event_waiters]
  refine ⟨(Backend.event_session _ _).trans h.session, ?_, h.obeys, ?_⟩
  · rw [hrequests]
    exact h.proper
  · rw [hrequests]
    dsimp only
    cases ho : frame.outcome? with
    | none =>
        rw [Backend.event_active_quiet _ ho]
        rwa [outcomes, List.countP_cons_of_neg (by simp [ho])] at hprogress
    | some _ =>
        rw [outcomes, List.countP_cons_of_pos (by simp [ho])] at hprogress
        exact hprogress.hear (Backend.event_active _ _)

theorem resume (h : Inv adapter stage w) {point : Adapter.Point} (hd : w.adapter = .pure point) :
    Inv adapter stage { w with adapter := adapter.runTextualStdio.resume point } := by
  have hobeys := h.obeys
  rw [hd] at hobeys
  exact ⟨h.session, h.proper, Adapter.resume_keeps stage point hobeys, h.progress⟩

/-- A command is taken from the front. -/
theorem requests_take {frame : InputFrame} {stdin : List InputFrame}
    (hstdin : w.stdin = frame :: stdin) :
    w.requests = frame :: (stdin ++ w.backend.waiters.map Writer.frame) := by
  rw [Conversation.requests, hstdin, List.cons_append]

theorem takeIdle (h : Inv adapter stage w)
    {k : Stdio.Command → Dialogue Request Request.Answer Adapter.Point} {frame : InputFrame}
    {stdin : List InputFrame} (hd : w.adapter = .ask .nextCommand k)
    (hstdin : w.stdin = frame :: stdin) :
    Inv adapter (Stage.afterCommand frame)
      { w with adapter := k (.ok (some frame)), stdin } := by
  have hobeys := h.obeys
  rw [hd] at hobeys
  obtain ⟨hidle, hobeys⟩ := hobeys
  obtain rfl : stage = .idle := hidle
  have hproper := h.proper
  have hprogress := h.progress
  rw [requests_take hstdin] at hproper hprogress
  exact ⟨h.session, fun f hf => hproper f (List.mem_cons_of_mem _ hf),
    hobeys (.ok (some frame)) ⟨frame, rfl, hproper frame List.mem_cons_self⟩, hprogress.read⟩

theorem takeActive (h : Inv adapter stage w) {turnId : TurnId}
    {k : Selected → Dialogue Request Request.Answer Adapter.Point} {frame : InputFrame}
    {stdin : List InputFrame} (hd : w.adapter = .ask (.select turnId) k)
    (hstdin : w.stdin = frame :: stdin) :
    Inv adapter stage { w with adapter := k (.command (.ok (some frame))), stdin } := by
  have hobeys := h.obeys
  rw [hd] at hobeys
  obtain ⟨hdriving, hobeys⟩ := hobeys
  obtain rfl : stage = .driving turnId := hdriving
  have hproper := h.proper
  have hprogress := h.progress
  rw [requests_take hstdin] at hproper hprogress
  obtain ⟨hactive, hnone, hsuits⟩ := hprogress.driving
  refine ⟨h.session, fun f hf => hproper f (List.mem_cons_of_mem _ hf),
    hobeys (.command (.ok (some frame)))
      ⟨frame, rfl, hproper frame List.mem_cons_self, hsuits frame List.mem_cons_self⟩, ?_⟩
  dsimp only
  rw [hactive, hnone]
  exact .driven fun f hf => hsuits f (List.mem_cons_of_mem _ hf)

theorem answer (h : Inv adapter stage w) {request : Request}
    {k : request.Answer → Dialogue Request Request.Answer Adapter.Point} {a : request.Answer}
    (hd : w.adapter = .ask request k)
    (hexpects : (contract adapter.sessionId).expects stage ⟨request, a⟩)
    (hnext : (contract adapter.sessionId).next stage ⟨request, a⟩ = stage) :
    Inv adapter stage { w with adapter := k a } := by
  have hobeys := h.obeys
  rw [hd] at hobeys
  have hrest := hobeys.2 a hexpects
  rw [hnext] at hrest
  exact ⟨h.session, h.proper, hrest, h.progress⟩

/-- The contract allows what the adapter is about to write. -/
theorem allows (h : Inv adapter stage w) {frame : OutputFrame}
    {k : Except IoError Unit → Dialogue Request Request.Answer Adapter.Point}
    (hd : w.adapter = .ask (.write frame) k) : stage.Allows adapter.sessionId frame := by
  have hobeys := h.obeys
  rw [hd] at hobeys
  exact hobeys.1

theorem write (h : Inv adapter stage w) {frame : OutputFrame}
    {k : Except IoError Unit → Dialogue Request Request.Answer Adapter.Point}
    (hd : w.adapter = .ask (.write frame) k) :
    Inv adapter (afterWrite stage frame)
      { w with adapter := k (.ok ()), stdout := w.stdout ++ Conversation.put frame } := by
  have hobeys := h.obeys
  rw [hd] at hobeys
  refine ⟨h.session, h.proper, hobeys.2 (.ok ()) rfl, ?_⟩
  dsimp only
  rw [outcomes, List.countP_append]
  exact h.progress.write (h.allows hd)

end Inv

/-- Every step keeps the invariant. -/
theorem Inv.step {adapter : Adapter} {stage : Stage} {w w' : Conversation} {act : Act}
    (h : Inv adapter stage w) (hstep : Conversation.Step adapter w act w') :
    ∃ stage', Inv adapter stage' w' := by
  cases hstep with
  | client he => exact ⟨_, h.client he⟩
  | event _ hstdout => exact ⟨_, h.event hstdout⟩
  | resume hd => exact ⟨_, h.resume hd⟩
  | takeIdle hd hstdin => exact ⟨_, h.takeIdle hd hstdin⟩
  | takeActive hd hstdin => exact ⟨_, h.takeActive hd hstdin⟩
  | answer hd hexpects hnext => exact ⟨_, h.answer hd (hexpects stage) (hnext stage)⟩
  | write hd => exact ⟨_, h.write hd⟩

/-- Every run keeps the invariant. -/
theorem Inv.run {adapter : Adapter} {w : Conversation}
    {tr : List (Transition.Event Conversation Act Conversation.Report)}
    (h : (Conversation.system adapter).Run (.start adapter) tr w) :
    ∃ stage, Inv adapter stage w := by
  refine h.invariant (I := fun w => ∃ stage, Inv adapter stage w) ?_ ⟨_, .start adapter⟩
  rintro x hx ⟨stage, hinv⟩
  exact hinv.step (Conversation.next_step hx)

end Paraegox.Textual
