import Paraegox.Agent.Calls

/-!
# The context the model sees

`contextMessages` says what a context is: the prompt, the exchanges that ended
`Final`, the current input.  `exchanges` reads the exchanges of a session off a
run, from what `submit_turn` returned since the session was inserted, without a
look at the ledger.  The two results join them to the code: the ledger's
successful part is `exchanges`, and `build_model_context` computes
`contextMessages` of it or reports that it is too long.
-/

namespace Paraegox.Agent

/-! ## What a context is -/

/-- An input and the content it was answered with. -/
structure Exchange where
  input : String
  content : String
deriving DecidableEq, Repr

def Exchange.messages (e : Exchange) : List ModelMessage :=
  [⟨.user, e.input⟩, ⟨.assistant, e.content⟩]

/-- The context of an input that follows some exchanges. -/
def contextMessages (systemPrompt : String) (history : List Exchange) (input : String) :
    List ModelMessage :=
  ⟨.system, systemPrompt⟩ :: history.flatMap Exchange.messages ++ [⟨.user, input⟩]

/-- The summed byte length of some messages. -/
def contextBytes (messages : List ModelMessage) : Nat :=
  (messages.map fun m => m.content.utf8ByteSize).sum

/-- The exchange a recorded Turn contributes. -/
def CompletedTurn.exchange? (turn : CompletedTurn) : Option Exchange :=
  match turn.terminal with
  | .final content => some ⟨turn.input, content⟩
  | _ => none

/-- The successful part of a ledger. -/
def SessionState.exchanges (session : SessionState) : List Exchange :=
  session.turns.filterMap CompletedTurn.exchange?

/-! ## What `build_model_context` computes -/

/-- Push a list of messages. -/
def pushMessages : List ModelMessage → List ModelMessage × Nat →
    Except TurnFailure (List ModelMessage × Nat)
  | [], acc => .ok acc
  | m :: ms, acc => do
      let acc ← pushContextMessage m.role m.content acc
      pushMessages ms acc

theorem pushContextMessage_eq (role : ModelRole) (content : String)
    (acc : List ModelMessage × Nat) :
    pushContextMessage role content acc =
      if acc.2 + content.utf8ByteSize ≤ MAX_MODEL_CONTEXT_BYTES then
        .ok (acc.1 ++ [⟨role, content⟩], acc.2 + content.utf8ByteSize)
      else .error .contextLimit := by
  simp only [pushContextMessage, checkedAdd]
  have hmax : MAX_MODEL_CONTEXT_BYTES < 2 ^ 64 := by decide
  split_ifs with hsmall hfit hfit
  · simp [Option.filter, hfit]
  · simp [Option.filter, hfit]
  · omega
  · rfl

theorem pushMessages_eq (ms : List ModelMessage) (acc : List ModelMessage × Nat)
    (h : acc.2 ≤ MAX_MODEL_CONTEXT_BYTES) :
    pushMessages ms acc =
      if acc.2 + contextBytes ms ≤ MAX_MODEL_CONTEXT_BYTES then
        .ok (acc.1 ++ ms, acc.2 + contextBytes ms)
      else .error .contextLimit := by
  induction ms generalizing acc with
  | nil => simp [pushMessages, contextBytes, h]
  | cons m ms ih =>
      have hbytes : contextBytes (m :: ms) = m.content.utf8ByteSize + contextBytes ms := rfl
      rw [pushMessages, pushContextMessage_eq, hbytes, ← Nat.add_assoc]
      by_cases hfit : acc.2 + m.content.utf8ByteSize ≤ MAX_MODEL_CONTEXT_BYTES
      · rw [if_pos hfit]
        change pushMessages ms _ = _
        rw [ih _ hfit, List.append_assoc]
        rfl
      · rw [if_neg hfit, if_neg (by omega)]
        rfl

theorem pushMessages_append (ms ns : List ModelMessage) (acc : List ModelMessage × Nat) :
    pushMessages (ms ++ ns) acc = pushMessages ms acc >>= pushMessages ns := by
  induction ms generalizing acc with
  | nil => rfl
  | cons m ms ih =>
      simp only [List.cons_append, pushMessages, bind_assoc, ih]

theorem pushHistory_eq (turns : List CompletedTurn) (acc : List ModelMessage × Nat) :
    pushHistory turns acc =
      pushMessages ((turns.filterMap CompletedTurn.exchange?).flatMap Exchange.messages) acc := by
  induction turns generalizing acc with
  | nil => rfl
  | cons turn turns ih =>
      cases ht : turn.terminal with
      | final content =>
          simp [pushHistory, ht, CompletedTurn.exchange?, Exchange.messages, pushMessages, ih]
      | cancelled => simp [pushHistory, ht, CompletedTurn.exchange?, ih]
      | timedOut => simp [pushHistory, ht, CompletedTurn.exchange?, ih]
      | failed reason => simp [pushHistory, ht, CompletedTurn.exchange?, ih]

/-- The context is what it should be, or it is too long. -/
theorem buildModelContext_eq (systemPrompt : String) (session : SessionState) (input : String) :
    buildModelContext systemPrompt session input =
      if contextBytes (contextMessages systemPrompt session.exchanges input) ≤
          MAX_MODEL_CONTEXT_BYTES then
        .ok ⟨contextMessages systemPrompt session.exchanges input⟩
      else .error .contextLimit := by
  have hpush : buildModelContext systemPrompt session input =
      pushMessages (contextMessages systemPrompt session.exchanges input) ([], 0) >>=
        fun acc => .ok ⟨acc.1⟩ := by
    rw [contextMessages, List.cons_append, pushMessages]
    simp only [buildModelContext, pushHistory_eq, pushMessages_append, pushMessages, bind_assoc]
    rfl
  rw [hpush, pushMessages_eq _ _ (Nat.zero_le _), Nat.zero_add]
  split_ifs <;> rfl

/-! ## What a run says of a session -/

/-- The exchange an event adds: a `submit_turn` that ran its Turn returned `Final`. -/
def Event.answered? (s : SessionId) (x : Event) : Option Exchange :=
  match x.act, x.report with
  | .complete task, .turn ⟨s', _, .final content⟩ =>
      if s' = s then (x.pre.calls.lookup task).map fun call => ⟨call.guard.input, content⟩
      else none
  | _, _ => none

/-- The exchanges after one more event; an absent session has none. -/
def Event.extend (s : SessionId) (history : List Exchange) (x : Event) : List Exchange :=
  if s ∈ x.post.state.sessions then history ++ (x.answered? s).toList else []

/-- The exchanges of a session since it was inserted. -/
def exchanges (s : SessionId) (tr : List Event) : List Exchange := tr.foldl (Event.extend s) []

@[simp] theorem SessionState.exchanges_record (session : SessionState) (t : TurnId)
    (input : String) (terminal : TurnTerminal) :
    (session.record t input terminal).exchanges =
      session.exchanges ++ (CompletedTurn.exchange? ⟨t, input, terminal⟩).toList := by
  simp only [exchanges, record, List.filterMap_append, List.filterMap_cons, List.filterMap_nil]
  cases CompletedTurn.exchange? ⟨t, input, terminal⟩ <;> rfl

@[simp] theorem SessionState.exchanges_consume (session : SessionState) (t : TurnId)
    (input : String) : (session.consume t input).exchanges = session.exchanges := by
  simp [exchanges, consume, CompletedTurn.exchange?]

@[simp] theorem SessionState.exchanges_bury (session : SessionState) (t : TurnId) :
    (session.bury t).exchanges = session.exchanges := rfl

/-- Only a completed frame adds an exchange, and it adds its own. -/
theorem Event.exchanges_step {x : Event} (hx : service.Takes x) (h : x.pre.Inv) {s : SessionId}
    (hs : s ∈ x.post.state.sessions) :
    (x.post.state.session s).exchanges =
      (x.pre.state.session s).exchanges ++ (x.answered? s).toList := by
  have hchange := change hx h
  obtain ⟨w, a, r, w'⟩ := x
  simp only at hchange hs ⊢
  -- where no frame completes, the exchanges are what they were
  have hnone : answered? s ⟨w, a, r, w'⟩ = none →
      (w'.state.session s).exchanges = (w.state.session s).exchanges →
      (w'.state.session s).exchanges =
        (w.state.session s).exchanges ++ (answered? s ⟨w, a, r, w'⟩).toList := by
    intro hans heq
    rw [hans, heq]
    exact (List.append_nil _).symm
  cases hchange with
  | refused _ => exact hnone (by cases a <;> rfl) rfl
  | waited _ _ _ hr _ => exact hnone (by rcases hr with rfl | rfl <;> cases a <;> rfl) rfl
  | stopped ha _ _ => exact hnone (by rcases ha with rfl | rfl <;> rfl) rfl
  | left ha _ _ _ => exact hnone (by rcases ha with rfl | ⟨branch, rfl⟩ <;> rfl) rfl
  | consumed _ _ _ =>
      refine hnone rfl ?_
      rw [AgentState.session_setSession]
      split_ifs with heq
      · rw [heq, SessionState.exchanges_consume]
      · rfl
  | overflowed _ _ _ _ _ _ _ =>
      refine hnone rfl ?_
      rw [AgentState.session_ensured_setSession hs]
      split_ifs with heq
      · rw [heq, SessionState.exchanges_record]
        exact List.append_nil _
      · rfl
  | tombstoned _ _ _ _ _ =>
      refine hnone rfl ?_
      rw [AgentState.session_ensured_setSession hs]
      split_ifs with heq
      · rw [heq, SessionState.exchanges_bury]
      · rfl
  | admitted _ _ _ _ _ _ _ _ => exact hnone rfl (congrArg _ (AgentState.session_ensured hs))
  | @settled _ _ task call flag terminal hl _ _ _ hreport =>
      have hsess : ((w.state.settle call.guard.sessionId call.guard.turnId call.guard.input
          terminal).session s).exchanges = (w.state.session s).exchanges ++
            (if call.guard.sessionId = s then
              CompletedTurn.exchange? ⟨call.guard.turnId, call.guard.input, terminal⟩
            else none).toList := by
        rw [AgentState.settle, AgentState.session_setSession]
        rcases eq_or_ne s call.guard.sessionId with rfl | hne
        · rw [if_pos rfl, if_pos rfl, SessionState.exchanges_record]
        · rw [if_neg hne, if_neg hne.symm]
          exact (List.append_nil _).symm
      refine hsess.trans (congrArg (fun e => _ ++ Option.toList e) ?_)
      rcases hreport with ⟨rfl, rfl⟩ | ⟨rfl, rfl, rfl⟩
      · cases terminal <;> simp [answered?, CompletedTurn.exchange?, hl]
      · simp [answered?, CompletedTurn.exchange?]
  | _ => exact hnone rfl rfl

/-- The successful part of a ledger is what the run returned as `Final`. -/
theorem exchanges_eq {provider : CompletionProvider} {tr : List Event} {w : World}
    (h : service.Run (World.created provider) tr w) (s : SessionId) :
    (w.state.session s).exchanges = exchanges s tr := by
  have hrel : w.Inv ∧ (w.state.session s).exchanges = exchanges s tr := by
    refine h.trace (R := fun w g => w.Inv ∧ (w.state.session s).exchanges = exchanges s g) ?_ ?_
    · rintro x g hx ⟨hinv, hg⟩
      refine ⟨Event.inv x hx hinv, ?_⟩
      rw [exchanges, List.foldl_append, List.foldl_cons, List.foldl_nil, Event.extend]
      split_ifs with hs
      · rw [Event.exchanges_step hx hinv hs, hg]
        rfl
      · rw [AgentState.session_of_notMem hs]
        rfl
    · exact ⟨World.created_inv provider, rfl⟩
  exact hrel.2

/-! ## The model sees exactly the successful history -/

/-- A submit passes every check but the one on the context. -/
structure World.OpenTo (w : World) (s : SessionId) (t : TurnId) (input : String)
    (deadline : Duration) (profile : ActiveProfile) : Prop where
  inputValid : validateInput input = .ok ()
  deadlineValid : validateTurnDeadline deadline = .ok ()
  upgrades : w.upgrades = true
  running : w.state.lifecycle = .running
  active : w.state.activeProfile = some profile
  notRecorded : w.state.completed? s t = none
  notTombstoned : ¬ w.state.Tombstoned s t
  idle : w.state.activeTurn = none
  slotFree : (w.state.occupied s).length < MAX_RETAINED_TURNS_PER_SESSION

/-- What a submit returns that passes every other check. -/
theorem World.OpenTo.submitTurn {w : World} {s : SessionId} {t : TurnId} {input : String}
    {deadline : Duration} {profile : ActiveProfile} (h : w.OpenTo s t input deadline profile)
    (hw : w.state.WellFormed) (task : TaskId) :
    if contextBytes (contextMessages profile.systemPrompt (w.state.session s).exchanges input) ≤
        MAX_MODEL_CONTEXT_BYTES then
      (w.submitTurn task s t input deadline).1 =
        .admitted ⟨contextMessages profile.systemPrompt (w.state.session s).exchanges input⟩
    else
      (w.submitTurn task s t input deadline).1 = .turn ⟨s, t, .failed .contextLimit⟩ ∧
      (w.submitTurn task s t input deadline).2.calls = w.calls ∧
      (w.submitTurn task s t input deadline).2.state.completed? s t =
        some ⟨t, input, .failed .contextLimit⟩ := by
  have hcase := submitTurn_case hw s t input
  rw [World.submitTurn]
  simp only [h.inputValid, h.deadlineValid, h.upgrades, not_true_eq_false, ↓reduceIte, locked]
  generalize EStateM.run (Agent.submitTurn s t input) w.state = result at hcase
  have hbuild := buildModelContext_eq profile.systemPrompt (w.state.session s) input
  cases hcase with
  | notRunning hrun => exact absurd h.running hrun
  | noProfile _ hp => cases h.active.symm.trans hp
  | conflict _ _ hc _ => cases h.notRecorded.symm.trans hc
  | replayed _ _ hc _ => cases h.notRecorded.symm.trans hc
  | consumed _ _ _ ht => exact absurd ht h.notTombstoned
  | busy _ _ _ _ ha => cases h.idle.symm.trans ha
  | full _ _ _ _ _ hfull => exact absurd h.slotFree (Nat.not_lt.mpr hfull)
  | overflow _ hp hc _ _ _ hb =>
      cases h.active.symm.trans hp
      rw [hb] at hbuild
      split_ifs at hbuild with hfit
      cases hbuild
      rw [if_neg hfit]
      exact ⟨rfl, rfl, AgentState.completed?_recorded hc _ _ _⟩
  | admitted _ hp _ _ _ _ hb =>
      cases h.active.symm.trans hp
      rw [hb] at hbuild
      split_ifs at hbuild with hfit
      cases hbuild
      rw [if_pos hfit]

/-- The admission of a Turn builds its context from the prompt of the active
profile, the exchanges of its session so far and its input. -/
theorem Event.admitted_context {provider : CompletionProvider} {tr : List Event} {x : Event}
    (h : service.Run (World.created provider) tr x.pre) (hx : service.Takes x) {task : TaskId}
    {s : SessionId} {t : TurnId} {input : String} {deadline : Duration} {context : ModelContext}
    (ha : x.act = .submitTurn task s t input deadline) (hr : x.report = .admitted context) :
    ∃ profile, x.pre.state.activeProfile = some profile ∧
      context.messages = contextMessages profile.systemPrompt (exchanges s tr) input := by
  have hchange := change hx (h.invariant Event.inv (World.created_inv provider))
  rw [ha, hr] at hchange
  obtain ⟨-, -, -, -, -, profile, hp, hb⟩ := hchange.admission
  rw [buildModelContext_eq, exchanges_eq h] at hb
  split_ifs at hb
  cases hb
  exact ⟨profile, hp, rfl⟩

/-- The context of every admission, and of every provider call, is the prompt, the
exchanges that ended `Final` since the session was inserted and the input.  A submit
that passes every other check is sealed as `Failed` without a frame exactly when
these messages are too long. -/
theorem model_context_exact {provider : CompletionProvider} {tr : List Event} {w : World}
    (h : service.Run (World.created provider) tr w) :
    (∀ before x after task s t input deadline context, tr = before ++ x :: after →
      x.act = .submitTurn task s t input deadline → x.report = .admitted context →
      ∃ profile, x.pre.state.activeProfile = some profile ∧
        context.messages =
          contextMessages profile.systemPrompt (exchanges s before) input) ∧
    (∀ before x after task context, tr = before ++ x :: after → x.act = .callProvider task →
      x.report = .providerCalled context →
      ∃ earlier y between s t input deadline profile, before = earlier ++ y :: between ∧
        y.act = .submitTurn task s t input deadline ∧ y.report = .admitted context ∧
        y.pre.state.activeProfile = some profile ∧
        context.messages =
          contextMessages profile.systemPrompt (exchanges s earlier) input) ∧
    ∀ before x after task s t input deadline profile, tr = before ++ x :: after →
      x.act = .submitTurn task s t input deadline → x.pre.OpenTo s t input deadline profile →
      (x.report = .turn ⟨s, t, .failed .contextLimit⟩ ↔
        MAX_MODEL_CONTEXT_BYTES <
          contextBytes (contextMessages profile.systemPrompt (exchanges s before) input)) ∧
      (x.report = .turn ⟨s, t, .failed .contextLimit⟩ → x.post.calls = x.pre.calls ∧
        x.post.state.completed? s t = some ⟨t, input, .failed .contextLimit⟩) := by
  refine ⟨?_, ?_, ?_⟩
  · rintro before x after task s t input deadline context rfl ha hr
    obtain ⟨h₁, hx, -⟩ := h.at
    exact Event.admitted_context h₁ hx ha hr
  · rintro before x after task context rfl ha hr
    obtain ⟨h₁, hx, -⟩ := h.at
    obtain ⟨call, hl, -, hr', -⟩ := Event.providerCall hx ha
    cases hr.symm.trans hr'
    obtain ⟨earlier, y, between, deadline, rfl, hya, hyr, -⟩ := frame_origin h₁ hl
    obtain ⟨h₀, hy, -⟩ := h₁.at
    obtain ⟨profile, hp, hmessages⟩ := Event.admitted_context h₀ hy hya hyr
    exact ⟨earlier, y, between, _, _, _, deadline, profile, rfl, hya, hyr, hp, hmessages⟩
  · rintro before x after task s t input deadline profile rfl ha hopen
    obtain ⟨h₁, hx, -⟩ := h.at
    have hinv := h₁.invariant Event.inv (World.created_inv provider)
    have hnext : x.pre.next (.submitTurn task s t input deadline) = some (x.report, x.post) :=
      ha ▸ hx
    simp only [World.next, Option.ite_none_left_eq_some, Option.some.injEq] at hnext
    have hsubmit := hopen.submitTurn hinv.wellFormed task
    rw [hnext.2, exchanges_eq h₁] at hsubmit
    split_ifs at hsubmit with hfit
    · have hadm : x.report =
          .admitted ⟨contextMessages profile.systemPrompt (exchanges s before) input⟩ := hsubmit
      simp [hadm, Nat.not_lt.mpr hfit]
    · exact ⟨iff_of_true hsubmit.1 (Nat.lt_of_not_le hfit), fun _ => hsubmit.2⟩

/-- A second Turn of a session whose first one ended `Final`. -/
theorem model_context_exact_second :
    ∃ (before : List Event) (x : Event) (profile : ActiveProfile),
      x.report = .admitted ⟨[⟨.system, "p"⟩, ⟨.user, "a"⟩, ⟨.assistant, "b"⟩, ⟨.user, "c"⟩]⟩ ∧
      x.pre.state.activeProfile = some profile ∧
      [⟨.system, "p"⟩, ⟨.user, "a"⟩, ⟨.assistant, "b"⟩, ⟨.user, "c"⟩] =
        contextMessages profile.systemPrompt (exchanges ⟨⟨1⟩⟩ before) "c" := by
  obtain ⟨tr, w, hrun, hacts, htest⟩ := service.exec_any (World.created .deterministic)
    ([.start, .activateProfile ⟨⟨1⟩⟩ ⟨BUILTIN_AGENT_DEFINITION⟩ "p",
      .submitTurn 0 ⟨⟨1⟩⟩ ⟨⟨2⟩⟩ "a" 1, .callProvider 0, .select 0 (.answered (.ok "b")),
      .complete 0, .notify 0] ++ [.submitTurn 0 ⟨⟨1⟩⟩ ⟨⟨3⟩⟩ "c" 1])
    (fun q => q.1.getLast?.map Transition.Event.report = some (.admitted
      ⟨[⟨.system, "p"⟩, ⟨.user, "a"⟩, ⟨.assistant, "b"⟩, ⟨.user, "c"⟩]⟩)) (by decide +kernel)
  obtain ⟨before, last, rfl, -, hlast⟩ := List.map_eq_append_iff.mp hacts
  obtain ⟨x, rfl, ha⟩ := List.map_eq_singleton_iff.mp hlast
  have hr : x.report = .admitted
      ⟨[⟨.system, "p"⟩, ⟨.user, "a"⟩, ⟨.assistant, "b"⟩, ⟨.user, "c"⟩]⟩ := by
    simpa using htest
  obtain ⟨profile, hp, hmessages⟩ := (model_context_exact hrun).1 before x [] 0 ⟨⟨1⟩⟩ ⟨⟨3⟩⟩ "c" 1
    _ rfl ha hr
  exact ⟨before, x, profile, hr, hp, hmessages⟩

end Paraegox.Agent
