import Paraegox.Agent.Content
import Paraegox.Deployment.EndToEnd
import Paraegox.Deployment.Plain

/-!
# What the user is told

The facts of a run are what its events say.  A terminal that is on its way to the user
was recorded for the text the user submitted, and a `Final` is what the model answered to
a context that ends with this text.  As long as the service keeps the session, all that
the user is ever told of a Turn agrees with the ledger, and with a cancellation that was
confirmed.
-/

namespace Paraegox

namespace Agent

theorem AgentState.mem_of_completed? {state : AgentState} {s : SessionId} {t : TurnId}
    {completed : CompletedTurn} (h : state.completed? s t = some completed) :
    completed ∈ (state.session s).turns ∧ completed.turnId = t := by
  rw [completed?_eq, SessionState.completed?] at h
  exact ⟨List.mem_of_find?_eq_some h, by simpa using List.find?_some h⟩

/-- `select!` hands nothing to a caller. -/
theorem Event.select_silent {z : Event} (hz : service.Takes z) {task : TaskId}
    {branch : SelectBranch} (hact : z.act = .select task branch) : z.report = .silent := by
  rw [Transition.System.Takes, hact] at hz
  simp only [service, World.next, Option.bind_eq_some_iff, World.select,
    Option.ite_none_right_eq_some, Option.map_eq_some_iff, Prod.mk.injEq] at hz
  obtain ⟨_, _, _, _, _, hreport, _⟩ := hz
  exact hreport.symm

end Agent

namespace Deployment

open Agent (SessionId TurnId TurnTerminal)
open Stdio (Adapter)

/-- What some events say. -/
def told (tr : List Event) : Facts where
  typed turnId text := ∃ x ∈ tr, x.act = .conversation (.submit text turnId)
  said r := ∃ x ∈ tr, x.report = .service r

/-- No other client submits to the session of the adapter. -/
def Alone (adapter : Adapter) (tr : List Event) : Prop :=
  ∀ x ∈ tr, ∀ task t input deadline,
    x.act ≠ .service (.submitTurn task adapter.sessionId t input deadline)

variable {adapter : Adapter} {provider : Agent.CompletionProvider} {tr : List Event}
  {w : Deployment}

theorem told_knows (halone : Alone adapter tr) : ∀ x ∈ tr, (told tr).Knows adapter x :=
  fun x hx =>
    { typed := fun _ _ hact => ⟨x, hx, hact⟩
      foreign := fun task t input deadline hact => absurd hact (halone x hx task t input deadline)
      said := fun _ hreport => ⟨x, hx, hreport⟩ }

theorem Alone.of_append {tr₁ tr₂ : List Event} (h : Alone adapter (tr₁ ++ tr₂)) :
    Alone adapter tr₁ :=
  fun x hx => h x (List.mem_append_left _ hx)

/-! ## Steps of the service in a run -/

/-- A step that reports from the service is one of the service. -/
theorem served_of_report {x : Event} (hx : (system adapter).Takes x) {r : Agent.Report}
    (hr : x.report = .service r) :
    ∃ z, served? x = some z ∧ Agent.service.Takes z ∧ z.pre = x.pre.service ∧
      z.report = r ∧ z.post = x.post.service := by
  cases takes_step hx with
  | conversed _ _ hreport _ _ => cases hr.symm.trans hreport
  | @served z _ hserved hz hpre _ =>
      obtain ⟨hreport, hpost⟩ := report_of_served hserved
      exact ⟨z, hserved, hz, hpre, Report.service.inj (hreport.symm.trans hr), hpost⟩
  | undecoded _ hreport _ => cases hr.symm.trans hreport

/-- The state a step of the service begins in. -/
theorem served_pre {x : Event} {z : Agent.Event} (h : served? x = some z) :
    z.pre = x.pre.service := by
  simp only [served?] at h
  split at h
  · cases h
    rfl
  · cases h

/-- A terminal on its way to the user was returned by the service. -/
theorem frame_said {facts : Facts} (h : Inv facts adapter w) {v : UInt8}
    {result : Agent.TurnResult} (hframe : .turnTerminal v result ∈ w.conversation.stdout) :
    result.sessionId = adapter.sessionId ∧
      ∃ r, facts.said r ∧ r.Carries result.sessionId result.turnId result.terminal :=
  h.holds.frames _ hframe

/-! ## One terminal -/

theorem given_run {tr : List Agent.Event} {w : Agent.World}
    (h : Agent.service.Run (.created provider) tr w) : w.Given tr := by
  refine (h.trace (R := fun w g => w.Inv ∧ w.Given g) ?_ ?_).2
  · rintro x g hx ⟨hinv, hg⟩
    exact ⟨Agent.Event.inv x hx hinv, Agent.Event.given hx hinv hg⟩
  · refine ⟨Agent.World.created_inv provider, ?_, ?_⟩
    · intro s completed hc
      simp [Agent.World.created, Agent.AgentState.created, Agent.AgentState.session] at hc
    · intro task call hl
      simp [Agent.World.created] at hl

/-- The context of a frame ends with the input of its Turn. -/
theorem context_getLast {tr : List Agent.Event} {w : Agent.World}
    (h : Agent.service.Run (.created provider) tr w) {task : Agent.TaskId} {call : Agent.Call}
    (hl : w.calls.lookup task = some call) :
    call.context.messages.getLast? = some ⟨.user, call.guard.input⟩ := by
  obtain ⟨before, y, after, deadline, rfl, hact, hreport, -⟩ := Agent.frame_origin h hl
  obtain ⟨h₁, hy, -⟩ := h.at
  obtain ⟨profile, -, hmessages⟩ := Agent.Event.admitted_context h₁ hy hact hreport
  rw [hmessages, Agent.contextMessages]
  exact List.getLast?_concat

/-- The text of the Turn, from the client to the model and back. -/
theorem terminal_end_to_end (h : (system adapter).Run (.start adapter provider) tr w)
    (halone : Alone adapter tr) {v : UInt8} {result : Agent.TurnResult}
    (hframe : .turnTerminal v result ∈ w.conversation.stdout) :
    result.sessionId = adapter.sessionId ∧
      ∃ before y after text, tr = before ++ y :: after ∧
        y.post.service.state.completed? adapter.sessionId result.turnId =
          some ⟨result.turnId, text, result.terminal⟩ ∧
        (∃ x ∈ before, x.act = .conversation (.submit text result.turnId)) ∧
        ∀ content, result.terminal = .final content →
          ∃ x ∈ before, ∃ z, served? x = some z ∧ ∃ task call,
            z.act = .select task (.answered (.ok content)) ∧
            z.pre.calls.lookup task = some call ∧
            call.guard = ⟨adapter.sessionId, result.turnId, text⟩ ∧
            call.context.messages.getLast? = some ⟨.user, text⟩ := by
  obtain ⟨hsession, r, ⟨y, hy, hreport⟩, hcarries⟩ :=
    frame_said (Inv.run h (told_knows halone)) hframe
  refine ⟨hsession, ?_⟩
  rw [hsession] at hcarries
  obtain ⟨before, after, rfl, h₁, hy, -⟩ := h.of_mem hy
  obtain ⟨z, hserved, hz, hpre, rfl, hpost⟩ := served_of_report hy hreport
  -- the invariant where the service returns the terminal, with the facts known there
  have hupto : (system adapter).Run (.start adapter provider) (before ++ [y]) y.post :=
    h₁.append (.single hy)
  have halone' : Alone adapter (before ++ [y]) :=
    fun x hx => halone x (by
      rw [List.append_cons]
      exact List.mem_append_left _ hx)
  have hinv := Inv.run hupto (told_knows halone')
  have hzinv : z.pre.Inv := hpre ▸ (Inv.run h₁ (told_knows halone.of_append)).service
  obtain ⟨⟨t, text, terminal⟩, hc, rfl⟩ := (Agent.Event.change hz hzinv).recorded hzinv hcarries
  obtain ⟨hmem, rfl⟩ := Agent.AgentState.mem_of_completed? hc
  have hgiven := given_run (service_run hupto)
  rw [hpost] at hc hmem
  refine ⟨before, y, after, text, rfl, hc, ?_, fun content hfinal => ?_⟩
  · obtain ⟨x, hx, hact⟩ := hinv.backed.turns _ hmem
    rcases List.mem_append.mp hx with hx | hx
    · exact ⟨x, hx, hact⟩
    · obtain rfl := List.mem_singleton.mp hx
      simp only [served?, hact, Act.action?] at hserved
      cases hserved
  · obtain ⟨z', hz', task, call, hact, hl, hguard⟩ := hgiven.recorded _ _ hmem content hfinal
    obtain ⟨x, hx, hserved'⟩ := List.mem_filterMap.mp hz'
    rcases List.mem_append.mp hx with hx | hx
    · obtain ⟨before', after', rfl, h₀, hx', -⟩ := h₁.of_mem hx
      have hl' : x.pre.service.calls.lookup task = some call := by
        rw [← served_pre hserved']
        exact hl
      have hlast := context_getLast (service_run h₀) hl'
      rw [hguard] at hlast
      exact ⟨x, hx, z', hserved', task, call, hact, hl, hguard, hlast⟩
    · -- the step that returns the terminal takes no answer
      obtain rfl := List.mem_singleton.mp hx
      cases hserved.symm.trans hserved'
      have hsilent := Agent.Event.select_silent hz hact
      rw [hsilent] at hcarries
      rcases hcarries with hcarries | hcarries <;> cases hcarries

/-- A Turn from the submit of the user to its terminal, over the wire. -/
theorem terminal_end_to_end_final : ∃ tr w,
    (system ⟨⟨⟨1⟩⟩, 1000000⟩).Run (.start ⟨⟨⟨1⟩⟩, 1000000⟩ .deterministic) tr w ∧
    tr.map Transition.Event.act = [.service .start,
      .service (.activateProfile ⟨⟨1⟩⟩ ⟨Agent.BUILTIN_AGENT_DEFINITION⟩ "p"),
      .conversation (.submit "hello" ⟨⟨2⟩⟩), .conversation .drained, .conversation .resume,
      .conversation .take, .conversation .resume,
      .request 0 (Agent.WireRequest.submit ⟨⟨1⟩⟩ ⟨⟨2⟩⟩ "hello" 1).toJson.encode,
      .service (.callProvider 0), .service (.select 0 (.answered (.ok "hi"))),
      .service (.complete 0),
      .reply "" (Agent.WireResponse.turn ⟨⟨⟨1⟩⟩, ⟨⟨2⟩⟩, .final "hi"⟩).toJson.encode,
      .conversation .write] ∧
    ∃ y ∈ tr, y.post.service.state.completed? ⟨⟨1⟩⟩ ⟨⟨2⟩⟩ = some ⟨⟨⟨2⟩⟩, "hello", .final "hi"⟩ := by
  refine Exists.imp (fun tr => Exists.imp fun w (h : _ ∧ _ ∧ _) => ⟨h.1, h.2.1, ?_⟩)
    (Plain.exec_exists ⟨⟨⟨1⟩⟩, 1000000⟩ .deterministic
      [.service .start, .service (.activateProfile ⟨⟨1⟩⟩ ⟨Agent.BUILTIN_AGENT_DEFINITION⟩ "p"),
        .conversation (.submit "hello" ⟨⟨2⟩⟩), .conversation .drained, .conversation .resume,
        .conversation .take, .conversation .resume, .request 0 (.submit ⟨⟨1⟩⟩ ⟨⟨2⟩⟩ "hello" 1),
        .service (.callProvider 0), .service (.select 0 (.answered (.ok "hi"))),
        .service (.complete 0), .reply "" (.turn ⟨⟨⟨1⟩⟩, ⟨⟨2⟩⟩, .final "hi"⟩),
        .conversation .write]
      (P := fun _ w => .turnTerminal 1 ⟨⟨⟨1⟩⟩, ⟨⟨2⟩⟩, .final "hi"⟩ ∈ w.conversation.stdout)
      (by decide +kernel))
  have halone : Alone ⟨⟨⟨1⟩⟩, 1000000⟩ tr := by
    intro x hx task t input deadline hact
    have hmem : x.act ∈ tr.map Transition.Event.act := List.mem_map.mpr ⟨x, hx, rfl⟩
    rw [h.2.1, hact] at hmem
    simp at hmem
  obtain ⟨-, before, y, after, text, htr, hrecorded, ⟨x, hx, hact⟩, -⟩ :=
    terminal_end_to_end h.1 halone h.2.2
  have hmem : x.act ∈ tr.map Transition.Event.act :=
    List.mem_map.mpr ⟨x, htr ▸ List.mem_append_left _ hx, rfl⟩
  rw [h.2.1, hact] at hmem
  obtain rfl : text = "hello" := by simpa using hmem
  exact ⟨y, htr ▸ List.mem_append_right _ List.mem_cons_self, hrecorded⟩

/-! ## One story -/

/-- The session is not evicted. -/
def Kept (s : SessionId) (tr : List Event) : Prop :=
  ∀ x ∈ tr, s ∈ x.pre.service.state.sessions → s ∈ x.post.service.state.sessions

instance (s : SessionId) (tr : List Event) : Decidable (Kept s tr) :=
  inferInstanceAs (Decidable (∀ x ∈ tr, _ → _))

/-- What is known of the outcome of a Turn after a step is not lost while the session is
kept. -/
theorem phase_mono {s : SessionId} {tr : List Event} {w w' : Deployment}
    (h : (system adapter).Run w tr w') (hinv : w.service.Inv) (hkept : Kept s tr)
    (hs : s ∈ w.service.state.sessions) (t : TurnId) :
    w.service.state.phase s t ≤ w'.service.state.phase s t := by
  refine (service_run h).monotone (C := fun z => s ∈ z.post.state.sessions)
    (f := fun w : Agent.World => w.state.phase s t) Agent.Event.inv (Agent.Event.phase_le t) hinv ?_
  intro z hz
  obtain ⟨x, hx, hserved⟩ := List.mem_filterMap.mp hz
  obtain ⟨-, hpost⟩ := h.stable_mem (I := fun _ => True) (C := fun x =>
      s ∈ x.pre.service.state.sessions → s ∈ x.post.service.state.sessions)
    (P := fun w => s ∈ w.service.state.sessions) (fun _ _ _ => trivial)
    (fun _ _ _ hc hp => hc hp) trivial (fun x hx => hkept x hx) hs hx
  rw [(report_of_served hserved).2]
  exact hpost

/-- A session whose Turn has a story is in the map. -/
theorem mem_of_phase {state : Agent.AgentState} (h : state.WellFormed) {s : SessionId}
    {t : TurnId} (hphase : state.phase s t ≠ .fresh) : s ∈ state.sessions := by
  by_contra hs
  refine hphase (Agent.AgentState.phase_fresh ?_ ?_ ?_)
  · rw [Agent.AgentState.completed?_eq, Agent.AgentState.session_of_notMem hs]
    rfl
  · rw [Agent.AgentState.Tombstoned, Agent.AgentState.session_of_notMem hs]
    exact List.not_mem_nil
  · rintro ⟨flag, hactive⟩
    exact hs (h.activeOwned _ hactive)

/-- What the service reported of a Turn shows in its ledger at the end of the run. -/
theorem phase_end (h : (system adapter).Run (.start adapter provider) tr w) {s : SessionId}
    (hkept : Kept s tr) {y : Event} (hy : y ∈ tr) {z : Agent.Event} (hserved : served? y = some z)
    {t : TurnId} (hphase : z.post.state.phase s t ≠ .fresh) :
    z.post.state.phase s t ≤ w.service.state.phase s t := by
  have hrun := service_run h
  obtain ⟨before, after, rfl, h₁, hy', h₂⟩ := h.of_mem hy
  have hinv : y.post.service.Inv := by
    have hend := (service_run (h₁.append (.single hy'))).invariant Agent.Event.inv
      (Agent.World.created_inv provider)
    exact hend
  rw [(report_of_served hserved).2] at hphase ⊢
  exact phase_mono h₂ hinv (fun x hx => hkept x (by simp [hx]))
    (mem_of_phase hinv.wellFormed hphase) t

/-- What is in the deployment after a step rests on what the run says, whatever was
typed. -/
theorem run_inv (h : (system adapter).Run (.start adapter provider) tr w) {x : Event}
    (hx : x ∈ tr) :
    Inv ⟨fun _ _ => True, (told tr).said⟩ adapter x.post := by
  obtain ⟨tr₁, tr₂, rfl, h₁, hx', -⟩ := h.of_mem hx
  refine Inv.run (h₁.append (.single hx')) fun y hy =>
    { typed := fun _ _ _ => trivial
      foreign := fun _ _ _ _ _ => trivial
      said := fun r hr => ⟨y, ?_, hr⟩ }
  rw [List.append_cons]
  exact List.mem_append_left _ hy

/-- A terminal the user is told is the one in the ledger at the end of the run. -/
theorem told_recorded (h : (system adapter).Run (.start adapter provider) tr w)
    (hkept : Kept adapter.sessionId tr) {x : Event} (hx : x ∈ tr) {v : UInt8} {t : TurnId}
    {terminal : TurnTerminal}
    (hframe : .turnTerminal v ⟨adapter.sessionId, t, terminal⟩ ∈ x.post.conversation.stdout) :
    ∃ completed, w.service.state.completed? adapter.sessionId t = some completed ∧
      completed.terminal = terminal := by
  obtain ⟨-, r, ⟨y, hy, hreport⟩, hcarries⟩ := frame_said (run_inv h hx) hframe
  obtain ⟨y₁, y₂, rfl, h₁, hy', -⟩ := h.of_mem hy
  obtain ⟨z, hserved, hz, hpre, rfl, -⟩ := served_of_report hy' hreport
  have hinv : z.pre.Inv := hpre ▸
    (service_run h₁).invariant Agent.Event.inv (Agent.World.created_inv provider)
  obtain ⟨completed, hc, rfl⟩ := (Agent.Event.change hz hinv).recorded hinv hcarries
  have hphase : z.post.state.phase adapter.sessionId t = .settled completed :=
    Agent.AgentState.phase_settled.mpr hc
  have hle := phase_end h hkept hy hserved (t := t) (by rw [hphase]; exact nofun)
  rw [hphase, Settlement.settled_le] at hle
  exact ⟨completed, Agent.AgentState.phase_settled.mp hle, rfl⟩

/-- As long as the service keeps the session, all terminals the user is told of a Turn are
the one in the ledger, and after a confirmed cancellation, before or behind it, the Turn
is `Cancelled`. -/
theorem one_story (h : (system adapter).Run (.start adapter provider) tr w)
    (hkept : Kept adapter.sessionId tr) (t : TurnId) :
    (∀ x ∈ tr, ∀ v terminal,
      .turnTerminal v ⟨adapter.sessionId, t, terminal⟩ ∈ x.post.conversation.stdout →
      ∃ completed, w.service.state.completed? adapter.sessionId t = some completed ∧
        completed.terminal = terminal) ∧
    (∀ x ∈ tr, ∀ y ∈ tr, ∀ v v' terminal terminal',
      .turnTerminal v ⟨adapter.sessionId, t, terminal⟩ ∈ x.post.conversation.stdout →
      .turnTerminal v' ⟨adapter.sessionId, t, terminal'⟩ ∈ y.post.conversation.stdout →
      terminal = terminal') ∧
    ∀ x ∈ tr, ∀ y ∈ tr, ∀ v v' terminal,
      .cancelResult v adapter.sessionId t .cancellationRequested ∈ x.post.conversation.stdout →
      .turnTerminal v' ⟨adapter.sessionId, t, terminal⟩ ∈ y.post.conversation.stdout →
      terminal = .cancelled := by
  refine ⟨fun x hx v terminal => told_recorded h hkept hx, ?_, ?_⟩
  · intro x hx y hy v v' terminal terminal' hframe hframe'
    obtain ⟨completed, hc, rfl⟩ := told_recorded h hkept hx hframe
    obtain ⟨completed', hc', rfl⟩ := told_recorded h hkept hy hframe'
    rw [Option.some.inj (hc.symm.trans hc')]
  · intro x hx y hy v v' terminal hcancel hframe
    obtain ⟨completed, hc, rfl⟩ := told_recorded h hkept hy hframe
    obtain ⟨-, q, hq, hreport⟩ := (run_inv h hx).holds.frames _ hcancel
    obtain ⟨q₁, q₂, rfl, h₁, hq', -⟩ := h.of_mem hq
    obtain ⟨z, hserved, hz, hpre, hr, -⟩ := served_of_report hq' hreport
    have hinv : z.pre.Inv := hpre ▸
      (service_run h₁).invariant Agent.Event.inv (Agent.World.created_inv provider)
    have hchange := Agent.Event.change hz hinv
    rw [hr] at hchange
    have hdoomed := hchange.doomed hinv
    have hle := phase_end h hkept hq hserved (t := t) (by rw [hdoomed]; exact nofun)
    rw [hdoomed, Agent.AgentState.phase_settled.mpr hc] at hle
    exact Settlement.doomed_le_settled.mp hle

/-- A cancellation that is confirmed before the Turn ends. -/
theorem one_story_cancelled : ∃ tr w,
    (system ⟨⟨⟨1⟩⟩, 1000000⟩).Run (.start ⟨⟨⟨1⟩⟩, 1000000⟩ .deterministic) tr w ∧
    tr.map Transition.Event.act = [.service .start,
      .service (.activateProfile ⟨⟨1⟩⟩ ⟨Agent.BUILTIN_AGENT_DEFINITION⟩ "p"),
      .conversation (.submit "hello" ⟨⟨2⟩⟩), .conversation .drained, .conversation .cancel,
      .conversation .drained, .conversation .resume, .conversation .take, .conversation .resume,
      .service (.submitTurn 0 ⟨⟨1⟩⟩ ⟨⟨2⟩⟩ "hello" 1000000), .conversation .take,
      .service (.cancel ⟨⟨1⟩⟩ ⟨⟨2⟩⟩),
      .reply "" (Agent.WireResponse.cancel ⟨⟨1⟩⟩ ⟨⟨2⟩⟩ .cancellationRequested).toJson.encode,
      .conversation .write, .conversation .resume, .service (.select 0 .cancelled),
      .service (.complete 0),
      .reply "" (Agent.WireResponse.turn ⟨⟨⟨1⟩⟩, ⟨⟨2⟩⟩, .cancelled⟩).toJson.encode,
      .conversation .write] ∧
    (∃ x ∈ tr, x.post.conversation.stdout = [.cancelResult 1 ⟨⟨1⟩⟩ ⟨⟨2⟩⟩ .cancellationRequested,
      .turnTerminal 1 ⟨⟨⟨1⟩⟩, ⟨⟨2⟩⟩, .cancelled⟩]) ∧
    ∀ y ∈ tr, ∀ v terminal,
      .turnTerminal v ⟨⟨⟨1⟩⟩, ⟨⟨2⟩⟩, terminal⟩ ∈ y.post.conversation.stdout →
      terminal = .cancelled := by
  refine Exists.imp (fun tr => Exists.imp fun w (h : _ ∧ _ ∧ _ ∧ _) =>
    ⟨h.1, h.2.1, h.2.2.2, fun y hy v terminal hframe => ?_⟩)
    (Plain.exec_exists ⟨⟨⟨1⟩⟩, 1000000⟩ .deterministic
      [.service .start, .service (.activateProfile ⟨⟨1⟩⟩ ⟨Agent.BUILTIN_AGENT_DEFINITION⟩ "p"),
        .conversation (.submit "hello" ⟨⟨2⟩⟩), .conversation .drained, .conversation .cancel,
        .conversation .drained, .conversation .resume, .conversation .take, .conversation .resume,
        .service (.submitTurn 0 ⟨⟨1⟩⟩ ⟨⟨2⟩⟩ "hello" 1000000), .conversation .take,
        .service (.cancel ⟨⟨1⟩⟩ ⟨⟨2⟩⟩), .reply "" (.cancel ⟨⟨1⟩⟩ ⟨⟨2⟩⟩ .cancellationRequested),
        .conversation .write, .conversation .resume, .service (.select 0 .cancelled),
        .service (.complete 0), .reply "" (.turn ⟨⟨⟨1⟩⟩, ⟨⟨2⟩⟩, .cancelled⟩),
        .conversation .write]
      (P := fun tr _ => Kept ⟨⟨1⟩⟩ tr ∧ ∃ x ∈ tr, x.post.conversation.stdout =
        [.cancelResult 1 ⟨⟨1⟩⟩ ⟨⟨2⟩⟩ .cancellationRequested,
          .turnTerminal 1 ⟨⟨⟨1⟩⟩, ⟨⟨2⟩⟩, .cancelled⟩]) (by decide +kernel))
  obtain ⟨hrun, -, hkept, x, hx, hstdout⟩ := h
  refine (one_story hrun hkept ⟨⟨2⟩⟩).2.2 x hx y hy 1 v terminal ?_ hframe
  rw [hstdout]
  exact List.mem_cons_self

end Deployment

end Paraegox
