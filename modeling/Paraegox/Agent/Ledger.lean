import Paraegox.Agent.ServiceMetatheory

/-!
# Where the entries of a ledger come from

An entry of a ledger is written by a `submit_turn` that settles at once, or by the
guard of a frame, with the terminal `select!` decided on or `Cancelled`.  A frame
comes from an admission and then only its phase moves.  `Event.records` and
`Event.frames` are the inversions, and what an invariant says of ledgers and frames is
checked on these sources.
-/

namespace Paraegox.Agent

/-! ## Sources -/

/-- Where an entry of the ledger of `s` comes from. -/
inductive Event.Records (x : Event) (s : SessionId) : CompletedTurn → Prop where
  | kept {completed : CompletedTurn} : completed ∈ (x.pre.state.session s).turns →
      Records x s completed
  | submitted {task : TaskId} {t : TurnId} {input : String} {deadline : Duration}
      {terminal : TurnTerminal} : x.act = .submitTurn task s t input deadline →
      validateInput input = .ok () → (∀ content, terminal ≠ .final content) →
      Records x s ⟨t, input, terminal⟩
  | left {task : TaskId} {call : Call} {terminal : TurnTerminal} :
      x.pre.calls.lookup task = some call → call.guard.sessionId = s →
      terminal = .cancelled ∨ call.phase = .decided terminal →
      Records x s ⟨call.guard.turnId, call.guard.input, terminal⟩

/-- Where a frame comes from. -/
inductive Event.Frames (x : Event) : TaskId → Call → Prop where
  | kept {task : TaskId} {call : Call} : x.pre.calls.lookup task = some call → Frames x task call
  | admitted {task : TaskId} {s : SessionId} {t : TurnId} {input : String} {deadline : Duration}
      {profile : ActiveProfile} {context : ModelContext} :
      x.act = .submitTurn task s t input deadline → validateInput input = .ok () →
      buildModelContext profile.systemPrompt (x.pre.state.session s) input = .ok context →
      Frames x task ⟨⟨s, t, input⟩, context, .admitted⟩
  | moved {task : TaskId} {call : Call} {phase : CallPhase} :
      x.pre.calls.lookup task = some call → (∀ proposed, phase ≠ .decided proposed) →
      Frames x task { call with phase }
  | decided {task : TaskId} {call : Call} {branch : SelectBranch} {terminal : TurnTerminal} :
      x.act = .select task branch → x.pre.calls.lookup task = some call →
      x.pre.proposal call branch = some terminal →
      Frames x task
        { call with
          phase := .decided
            (wireSafeTerminal call.guard.sessionId call.guard.turnId terminal) }

/-! ## Inversion -/

/-- A submit that is not refused has a valid input. -/
theorem Event.valid_of_submit {x : Event} (hx : service.Takes x) (task : TaskId) (s : SessionId)
    (t : TurnId) (input : String) (deadline : Duration)
    (ha : x.act = .submitTurn task s t input deadline)
    (hr : ∀ fault, x.report ≠ .failed fault) : validateInput input = .ok () := by
  rw [Transition.System.Takes, ha] at hx
  simp only [service, World.next, Option.ite_none_left_eq_some, Option.some.injEq] at hx
  rw [World.submitTurn] at hx
  cases hv : validateInput input with
  | ok _ => rfl
  | error error =>
      rw [hv] at hx
      exact absurd (congrArg Prod.fst hx.2).symm (hr _)

/-- A guard completes with what was decided, or with `Cancelled`. -/
theorem Event.completed {x : Event} (hx : service.Takes x) (h : x.pre.Inv) (task : TaskId)
    (ha : x.act = .complete task) :
    ∃ call proposed terminal, x.pre.calls.lookup task = some call ∧
      call.phase = .decided proposed ∧ (terminal = .cancelled ∨ terminal = proposed) ∧
      x.report = .turn ⟨call.guard.sessionId, call.guard.turnId, terminal⟩ := by
  rw [Transition.System.Takes, ha] at hx
  simp only [service, World.next, Option.bind_eq_some_iff] at hx
  obtain ⟨call, hl, hx⟩ := hx
  split at hx
  · next proposed hp =>
      have hact : x.pre.state.Active call.guard.sessionId call.guard.turnId :=
        (h.slot.armed _ _).mpr ⟨task, call, hl, by simp [Call.armed, hp], rfl, rfl⟩
      rw [World.complete, ActiveTurnGuard.complete_run h.wellFormed hact] at hx
      refine ⟨call, proposed, _, hl, hp, ?_, (congrArg Prod.fst (Option.some.inj hx)).symm⟩
      rw [AgentState.verdict]
      split_ifs
      · exact .inl rfl
      · exact .inr rfl
  · cases hx

/-- `select!` decides on a wire-safe form of what it proposes. -/
theorem Event.selected {x : Event} (hx : service.Takes x) (task : TaskId) (branch : SelectBranch)
    (ha : x.act = .select task branch) :
    ∃ call terminal, x.pre.calls.lookup task = some call ∧
      x.pre.proposal call branch = some terminal ∧
      x.post = x.pre.setCall task
        { call with
          phase := .decided
            (wireSafeTerminal call.guard.sessionId call.guard.turnId terminal) } := by
  rw [Transition.System.Takes, ha] at hx
  simp only [service, World.next, Option.bind_eq_some_iff, World.select,
    Option.ite_none_right_eq_some, Option.map_eq_some_iff, Prod.mk.injEq] at hx
  obtain ⟨call, hl, -, terminal, hprop, -, hpost⟩ := hx
  exact ⟨call, terminal, hl, hprop, hpost.symm⟩

/-- An aborted frame drops its guard. -/
theorem Event.aborted {x : Event} (hx : service.Takes x) (task : TaskId)
    (ha : x.act = .abort task) :
    ∃ call, x.pre.calls.lookup task = some call ∧
      x.post = x.pre.setCall task { call with phase := .dropping } := by
  rw [Transition.System.Takes, ha] at hx
  simp only [service, World.next, Option.bind_eq_some_iff, Option.ite_none_right_eq_some,
    Option.some.injEq, Prod.mk.injEq] at hx
  obtain ⟨call, hl, -, -, hpost⟩ := hx
  exact ⟨call, hl, hpost.symm⟩

theorem AgentState.turns_ensured {state : AgentState} {s s' : SessionId}
    {completed : CompletedTurn} (h : completed ∈ ((state.ensured s).session s').turns) :
    completed ∈ (state.session s').turns := by
  by_cases hs : s' ∈ (state.ensured s).sessions
  · rwa [session_ensured hs] at h
  · rw [session_of_notMem hs] at h
    cases h

/-- An entry of a session that was written is an old one or the new one. -/
theorem AgentState.turns_setSession {state : AgentState} {s s' : SessionId} {x : SessionState}
    {completed : CompletedTurn} (h : completed ∈ ((state.setSession s x).session s').turns) :
    completed ∈ (state.session s').turns ∨ s' = s ∧ completed ∈ x.turns := by
  rw [session_setSession] at h
  split_ifs at h with hs
  · exact .inr ⟨hs, h⟩
  · exact .inl h

theorem Event.records {x : Event} (hx : service.Takes x) (h : x.pre.Inv) {s : SessionId}
    {completed : CompletedTurn} (hc : completed ∈ (x.post.state.session s).turns) :
    x.Records s completed := by
  have hvalid := Event.valid_of_submit hx
  have hend := Event.completed hx h
  have hchange := Event.change hx h
  obtain ⟨w, a, r, w'⟩ := x
  simp only at hvalid hend hchange hc
  cases hchange with
  | consumed _ _ _ =>
      rcases AgentState.turns_setSession hc with hold | ⟨rfl, hnew⟩
      · exact .kept hold
      rcases List.mem_append.mp hnew with hold | hnew
      · exact .kept hold
      · rw [List.mem_singleton.mp hnew]
        exact .submitted rfl (hvalid _ _ _ _ _ rfl nofun) nofun
  | overflowed _ _ _ _ _ _ _ =>
      rcases AgentState.turns_setSession hc with hold | ⟨rfl, hnew⟩
      · exact .kept (AgentState.turns_ensured hold)
      rcases List.mem_append.mp hnew with hold | hnew
      · exact .kept hold
      · rw [List.mem_singleton.mp hnew]
        exact .submitted rfl (hvalid _ _ _ _ _ rfl nofun) nofun
  | admitted _ _ _ _ _ _ _ _ => exact .kept (AgentState.turns_ensured hc)
  | tombstoned _ _ _ _ _ =>
      rcases AgentState.turns_setSession hc with hold | ⟨rfl, hnew⟩
      · exact .kept (AgentState.turns_ensured hold)
      · exact .kept hnew
  | @settled _ _ task call flag terminal hl _ _ _ hreport =>
      rcases AgentState.turns_setSession hc with hold | ⟨rfl, hnew⟩
      · exact .kept hold
      rcases List.mem_append.mp hnew with hold | hnew
      · exact .kept hold
      rw [List.mem_singleton.mp hnew]
      refine .left hl rfl ?_
      rcases hreport with ⟨rfl, rfl⟩ | ⟨-, -, rfl⟩
      · obtain ⟨call', proposed, terminal', hl', hp, hterm, hrep⟩ := hend _ rfl
        cases hl.symm.trans hl'
        cases hrep
        rcases hterm with rfl | rfl
        · exact .inl rfl
        · exact .inr hp
      · exact .inl rfl
  | _ => exact .kept hc

theorem Event.frames {x : Event} (hx : service.Takes x) (h : x.pre.Inv) {task : TaskId}
    {call : Call} (hl : x.post.calls.lookup task = some call) : x.Frames task call := by
  have hvalid := Event.valid_of_submit hx
  have habort := Event.aborted hx
  have hselect := Event.selected hx
  have hchange := Event.change hx h
  obtain ⟨w, a, r, w'⟩ := x
  simp only at hvalid habort hselect hchange hl
  -- a frame written by the step, or one that was there
  have hwrite {task' : TaskId} {call' : Call} {calls : AList fun _ : TaskId => Call}
      (hl : (calls.insert task' call').lookup task = some call) :
      task = task' ∧ call = call' ∨ calls.lookup task = some call := by
    by_cases heq : task = task'
    · subst heq
      rw [AList.lookup_insert] at hl
      cases hl
      exact .inl ⟨rfl, rfl⟩
    · rw [AList.lookup_insert_ne heq] at hl
      exact .inr hl
  cases hchange with
  | admitted _ _ _ _ _ _ _ hb =>
      rcases hwrite hl with ⟨rfl, rfl⟩ | hold
      · exact .admitted rfl (hvalid _ _ _ _ _ rfl nofun) hb
      · exact .kept hold
  | called hl' _ =>
      rcases hwrite hl with ⟨rfl, rfl⟩ | hold
      · exact .moved hl' nofun
      · exact .kept hold
  | settled hl' _ _ _ _ =>
      rcases hwrite hl with ⟨rfl, rfl⟩ | hold
      · exact .moved hl' nofun
      · exact .kept hold
  | left ha hl' _ hphase =>
      rcases ha with rfl | ⟨branch, rfl⟩
      · obtain ⟨call', hl'', hpost⟩ := habort _ rfl
        rw [hpost] at hl
        rcases hwrite hl with ⟨rfl, rfl⟩ | hold
        · exact .moved hl'' nofun
        · exact .kept hold
      · obtain ⟨call', terminal, hl'', hprop, hpost⟩ := hselect _ _ rfl
        rw [hpost] at hl
        rcases hwrite hl with ⟨rfl, rfl⟩ | hold
        · exact .decided rfl hl'' hprop
        · exact .kept hold
  | @notified task' call' hl' _ =>
      by_cases heq : task = task'
      · subst heq
        rw [AList.lookup_erase] at hl
        cases hl
      · rw [AList.lookup_erase_ne heq] at hl
        exact .kept hl
  | _ => exact .kept hl

end Paraegox.Agent
