import Paraegox.Agent.ServiceMetatheory

/-!
# Provider calls

A frame is made by one admission and carries its context unchanged.  The armed
guard keeps provider calls apart, over all sessions.  Within a lifetime of a
session a Turn is spent once its provider was called, and a spent Turn is never
called again.
-/

namespace Paraegox.Agent

/-! ## Where a frame comes from -/

/-- The event is a `submit_turn` on this frame. -/
def Action.Submits (a : Action) (task : TaskId) : Prop :=
  ∃ s t input deadline, a = .submitTurn task s t input deadline

/-- A frame was there before, or the step is the admission that made it. -/
theorem World.Change.frame {w w' : World} {a : Action} {r : Report} (hc : w.Change a r w')
    {task : TaskId} {call' : Call} (hl : w'.calls.lookup task = some call') :
    (∃ call, w.calls.lookup task = some call ∧ call.guard = call'.guard ∧
      call.context = call'.context) ∨
    ∃ deadline, r = .admitted call'.context ∧ a = .submitTurn task call'.guard.sessionId
      call'.guard.turnId call'.guard.input deadline := by
  have hset : ∀ {task₀ : TaskId} {call₀ : Call} {phase : CallPhase},
      w.calls.lookup task₀ = some call₀ →
      (w.calls.insert task₀ { call₀ with phase }).lookup task = some call' →
      ∃ call, w.calls.lookup task = some call ∧ call.guard = call'.guard ∧
        call.context = call'.context := by
    intro task₀ call₀ phase h₀ hl
    rcases eq_or_ne task task₀ with rfl | hne
    · rw [AList.lookup_insert] at hl
      cases hl
      exact ⟨call₀, h₀, rfl, rfl⟩
    · rw [AList.lookup_insert_ne hne] at hl
      exact ⟨call', hl, rfl, rfl⟩
  cases hc with
  | called h₀ _ => exact .inl (hset h₀ hl)
  | left _ h₀ _ _ => exact .inl (hset h₀ hl)
  | settled h₀ _ _ _ _ => exact .inl (hset h₀ hl)
  | @notified task₀ call₀ _ _ =>
      rcases eq_or_ne task task₀ with rfl | hne
      · rw [AList.lookup_erase] at hl
        cases hl
      · rw [AList.lookup_erase_ne hne] at hl
        exact .inl ⟨call', hl, rfl, rfl⟩
  | @admitted task₀ s t input deadline profile context _ _ _ _ _ _ _ _ =>
      rcases eq_or_ne task task₀ with rfl | hne
      · rw [AList.lookup_insert] at hl
        cases hl
        exact .inr ⟨deadline, rfl, rfl⟩
      · rw [AList.lookup_insert_ne hne] at hl
        exact .inl ⟨call', hl, rfl, rfl⟩
  | _ => exact .inl ⟨call', hl, rfl, rfl⟩

/-- The frame was made by an event of the trace and its task was not reused since. -/
def FrameOrigin (tr : List Event) (task : TaskId) (call : Call) : Prop :=
  ∃ before y after deadline, tr = before ++ y :: after ∧
    y.act = .submitTurn task call.guard.sessionId call.guard.turnId call.guard.input deadline ∧
    y.report = .admitted call.context ∧ ∀ z ∈ after, ¬ z.act.Submits task

/-- Every frame has its admission in the run. -/
theorem frame_origin {provider : CompletionProvider} {tr : List Event} {w : World}
    (h : service.Run (World.created provider) tr w) {task : TaskId} {call : Call}
    (hl : w.calls.lookup task = some call) : FrameOrigin tr task call := by
  have hrel : w.Inv ∧ ∀ task call, w.calls.lookup task = some call → FrameOrigin tr task call := by
    refine h.trace (R := fun w g => w.Inv ∧
      ∀ task call, w.calls.lookup task = some call → FrameOrigin g task call) ?_ ?_
    · rintro x g hx ⟨hinv, hg⟩
      refine ⟨Event.inv x hx hinv, fun task call' hl => ?_⟩
      rcases (Event.change hx hinv).frame hl with ⟨call, hl₀, hguard, hcontext⟩ | ⟨d, hr, ha⟩
      · -- the task is taken, so this step does not submit on it
        obtain ⟨before, y, after, d, rfl, hact, hrep, hafter⟩ := hg task call hl₀
        refine ⟨before, y, after ++ [x], d, by simp, hguard ▸ hact, hcontext ▸ hrep, ?_⟩
        intro z hz
        rcases List.mem_append.mp hz with hz | hz
        · exact hafter z hz
        · rintro ⟨s, t, input, deadline, hz'⟩
          rw [List.mem_singleton.mp hz] at hz'
          have hmem : task ∈ x.pre.calls := AList.lookup_isSome.mp (by simp [hl₀])
          have hx' : x.pre.next (.submitTurn task s t input deadline) =
            some (x.report, x.post) := hz' ▸ hx
          simp [World.next, hmem] at hx'
      · exact ⟨g, x, [], d, rfl, ha, hr, by simp⟩
    · exact ⟨World.created_inv provider, fun task call hl => by simp [World.created] at hl⟩
  exact hrel.2 task call hl

/-- What an admission was granted on. -/
theorem World.Change.admission {w w' : World} {task : TaskId} {s : SessionId} {t : TurnId}
    {input : String} {deadline : Duration} {context : ModelContext}
    (hc : w.Change (.submitTurn task s t input deadline) (.admitted context) w') :
    w.state.completed? s t = none ∧ ¬ w.state.Tombstoned s t ∧ w.state.activeTurn = none ∧
      (w.state.occupied s).length < MAX_RETAINED_TURNS_PER_SESSION ∧
      w.state.lifecycle = .running ∧ ∃ profile, w.state.activeProfile = some profile ∧
        buildModelContext profile.systemPrompt (w.state.session s) input = .ok context := by
  cases hc with
  | waited _ _ hwaits _ _ => cases hwaits
  | settled _ _ _ _ hreport => rcases hreport with ⟨ha, -⟩ | ⟨ha, -⟩ <;> cases ha
  | admitted _ hrun hp hcomp ht hidle hfree hb =>
      exact ⟨hcomp, ht, hidle, hfree, hrun, _, hp, hb⟩

/-- A submit that is not admitted makes no frame. -/
theorem World.Change.no_frame {w w' : World} {task : TaskId} {s : SessionId} {t : TurnId}
    {input : String} {deadline : Duration} {r : Report}
    (hc : w.Change (.submitTurn task s t input deadline) r w')
    (hr : ∀ context, r ≠ .admitted context) : w'.calls = w.calls := by
  cases hc with
  | admitted _ _ _ _ _ _ _ _ => exact absurd rfl (hr _)
  | left ha _ _ _ => rcases ha with ha | ⟨branch, ha⟩ <;> cases ha
  | settled _ _ _ _ hreport => rcases hreport with ⟨ha, -⟩ | ⟨ha, -⟩ <;> cases ha
  | _ => rfl

/-! ## A Turn is called once -/

/-- The event calls the provider for this Turn. -/
def Event.callsProvider (s : SessionId) (t : TurnId) (x : Event) : Bool :=
  match x.act with
  | .callProvider task =>
      (x.pre.calls.lookup task).any fun call => call.guard.sessionId = s ∧ call.guard.turnId = t
  | _ => false

/-- The Turn is recorded, or its frame is past the point of calling the provider. -/
def World.Spent (w : World) (s : SessionId) (t : TurnId) : Prop :=
  (∃ completed, w.state.completed? s t = some completed) ∨
    ∃ task call, w.calls.lookup task = some call ∧ call.armed = true ∧
      call.guard.sessionId = s ∧ call.guard.turnId = t ∧ call.phase ≠ .admitted

/-- A Turn stays spent while its session stays in the map. -/
theorem World.Change.spent {w w' : World} {a : Action} {r : Report} (h : w.Inv)
    (hc : w.Change a r w') {s : SessionId} {t : TurnId} (hs : s ∈ w'.state.sessions)
    (hspent : w.Spent s t) : w'.Spent s t := by
  rcases hspent with ⟨completed, hcomp⟩ | ⟨task, call, hl, harmed, rfl, rfl, hphase⟩
  · -- a record stays
    have hle := hc.step.phase_le h.wellFormed hs t
    rw [AgentState.phase_settled.mpr hcomp, Settlement.settled_le] at hle
    exact .inl ⟨completed, AgentState.phase_settled.mp hle⟩
  · -- the frame stays past the call until its Turn is recorded
    have hthis : Armed w.calls task call.guard.sessionId call.guard.turnId :=
      ⟨call, hl, harmed, rfl, rfl⟩
    have hkeep : ∀ {calls : AList fun _ : TaskId => Call},
        calls.lookup task = some call → ∃ task call', calls.lookup task = some call' ∧
          call'.armed = true ∧ call'.guard.sessionId = call.guard.sessionId ∧
          call'.guard.turnId = call.guard.turnId ∧ call'.phase ≠ .admitted :=
      fun hl' => ⟨task, call, hl', harmed, rfl, rfl, hphase⟩
    cases hc with
    | @called task₀ call₀ hl₀ hp₀ =>
        rcases eq_or_ne task task₀ with rfl | hne
        · cases hl.symm.trans hl₀
          exact absurd hp₀ hphase
        · exact .inr (hkeep (by rw [AList.lookup_insert_ne hne, hl]))
    | @left a task₀ call₀ phase _ hl₀ hp₀ hphase₀ =>
        rcases eq_or_ne task task₀ with rfl | hne
        · cases hl.symm.trans hl₀
          refine .inr ⟨task, _, AList.lookup_insert _, ?_, rfl, rfl, ?_⟩
          · rcases hphase₀ with rfl | ⟨proposed, rfl⟩ <;> rfl
          · rcases hphase₀ with rfl | ⟨proposed, rfl⟩ <;> nofun
        · exact .inr (hkeep (by rw [AList.lookup_insert_ne hne, hl]))
    | @settled a r task₀ call₀ flag terminal hl₀ harmed₀ ha _ _ =>
        have heq : task = task₀ := h.slot.alone hthis ⟨call₀, hl₀, harmed₀, rfl, rfl⟩
        subst heq
        cases hl.symm.trans hl₀
        obtain ⟨hcomp, -⟩ := h.wellFormed.active_free ⟨_, ha⟩
        exact .inl ⟨_, AgentState.completed?_recorded hcomp _ _ _⟩
    | @notified task₀ call₀ hl₀ hp₀ =>
        rcases eq_or_ne task task₀ with rfl | hne
        · cases hl.symm.trans hl₀
          simp [Call.armed, hp₀] at harmed
        · exact .inr (hkeep (by rw [AList.lookup_erase_ne hne, hl]))
    | admitted _ _ _ _ _ hidle _ _ => exact absurd hthis (h.slot.not_armed hidle _ _ _)
    | _ => exact .inr (hkeep hl)

/-- The frame a call of the provider comes from. -/
theorem Event.providerCall {x : Event} (hx : service.Takes x) {task : TaskId}
    (ha : x.act = .callProvider task) :
    ∃ call, x.pre.calls.lookup task = some call ∧ call.phase = .admitted ∧
      x.report = .providerCalled call.context ∧
      x.post.calls.lookup task = some { call with phase := .calling } := by
  have hnext : x.pre.next (.callProvider task) = some (x.report, x.post) := ha ▸ hx
  simp only [World.next, Option.bind_eq_some_iff, Option.ite_none_right_eq_some, Option.some.injEq,
    Prod.mk.injEq] at hnext
  obtain ⟨call, hl, hp, hr, hpost⟩ := hnext
  exact ⟨call, hl, hp, hr.symm, by rw [← hpost]; exact AList.lookup_insert _⟩

theorem Event.callsProvider_frame {x : Event} (hx : service.Takes x) {s : SessionId} {t : TurnId}
    (hq : x.callsProvider s t = true) :
    ∃ task call, x.pre.calls.lookup task = some call ∧ call.phase = .admitted ∧
      call.guard.sessionId = s ∧ call.guard.turnId = t ∧
      x.post.calls.lookup task = some { call with phase := .calling } := by
  rw [callsProvider] at hq
  split at hq
  · next task ha =>
      obtain ⟨call, hl, hp, -, hpost⟩ := providerCall hx ha
      rw [hl, Option.any_some, decide_eq_true_eq] at hq
      exact ⟨task, call, hl, hp, hq.1, hq.2, hpost⟩
  · cases hq

/-- In a lifetime of its session a Turn's provider is called at most once. -/
theorem callsProvider_le_one {s : SessionId} {w w' : World} {life : List Event} (hw : w.Inv)
    (h : service.Run w life w') (hs : ∀ x ∈ life, s ∈ x.post.state.sessions) (t : TurnId) :
    life.countP (Event.callsProvider s t) ≤ 1 := by
  refine (h.countP_le_one (P := fun w => w.Spent s t) Event.inv ?_ ?_ ?_ hw hs).1
  · exact fun x hx hinv hs hspent => (Event.change hx hinv).spent hinv hs hspent
  · intro x hx hinv hq
    obtain ⟨task, call, -, -, hsess, hturn, hpost⟩ := Event.callsProvider_frame hx hq
    exact .inr ⟨task, _, hpost, rfl, hsess, hturn, nofun⟩
  · intro x hx hinv hspent
    by_contra hq
    obtain ⟨task, call, hl, hphase, rfl, rfl, -⟩ :=
      Event.callsProvider_frame hx (Bool.not_eq_false _ ▸ hq)
    have harmed : Armed x.pre.calls task call.guard.sessionId call.guard.turnId :=
      ⟨call, hl, by simp [Call.armed, hphase], rfl, rfl⟩
    rcases hspent with ⟨completed, hcomp⟩ | ⟨task', call', hl', harmed', hs', ht', hphase'⟩
    · have hact := (hinv.slot.armed _ _).mpr ⟨task, harmed⟩
      cases hcomp.symm.trans (hinv.wellFormed.active_free hact).1
    · have heq : task = task' := hinv.slot.alone harmed ⟨call', hl', harmed', hs', ht'⟩
      subst heq
      cases hl.symm.trans hl'
      exact hphase' hphase

/-! ## Provider calls are exclusive -/

/-- At most one provider call is in progress over all sessions.  In a lifetime of
its session a Turn's provider is called at most once.  Every call comes from a
submit that was admitted, with its Turn and its context.  An admitted Turn is
neither recorded nor tombstoned, no Turn is active and its session has a free slot,
and a submit that was answered or refused makes no frame to call from. -/
theorem provider_calls_exclusive {provider : CompletionProvider} {tr : List Event} {w : World}
    (h : service.Run (World.created provider) tr w) :
    (∀ task task' call call', w.calls.lookup task = some call →
      w.calls.lookup task' = some call' → call.phase = .calling → call'.phase = .calling →
      task = task') ∧
    (∀ before life s t, tr = before ++ life → (∀ x ∈ life, s ∈ x.post.state.sessions) →
      life.countP (Event.callsProvider s t) ≤ 1) ∧
    (∀ before x after task context, tr = before ++ x :: after → x.act = .callProvider task →
      x.report = .providerCalled context →
      ∃ call, x.pre.calls.lookup task = some call ∧ call.context = context ∧
        FrameOrigin before task call) ∧
    ∀ x ∈ tr, ∀ task s t input deadline, x.act = .submitTurn task s t input deadline →
      (∀ context, x.report = .admitted context →
        x.pre.state.completed? s t = none ∧ ¬ x.pre.state.Tombstoned s t ∧
          x.pre.state.activeTurn = none ∧
          (x.pre.state.occupied s).length < MAX_RETAINED_TURNS_PER_SESSION) ∧
      ((∀ context, x.report ≠ .admitted context) → x.post.calls = x.pre.calls) := by
  have hinv : (World.created provider).Inv := World.created_inv provider
  refine ⟨?_, ?_, ?_, ?_⟩
  · intro task task' call call' hl hl' hp hp'
    have hw : w.Inv := h.invariant Event.inv hinv
    exact hw.slot.alone ⟨call, hl, by simp [Call.armed, hp], rfl, rfl⟩
      ⟨call', hl', by simp [Call.armed, hp'], rfl, rfl⟩
  · rintro before life s t rfl hs
    obtain ⟨m, h₁, h₂⟩ := h.split
    exact callsProvider_le_one (h₁.invariant Event.inv hinv) h₂ hs t
  · rintro before x after task context rfl ha hr
    obtain ⟨h₁, hx, -⟩ := h.at
    obtain ⟨call, hl, -, hr', -⟩ := Event.providerCall hx ha
    cases hr.symm.trans hr'
    exact ⟨call, hl, rfl, frame_origin h₁ hl⟩
  · intro x hx task s t input deadline ha
    obtain ⟨tr₁, tr₂, rfl, h₁, hx', -⟩ := h.of_mem hx
    have hchange := Event.change hx' (h₁.invariant Event.inv hinv)
    rw [ha] at hchange
    refine ⟨fun context hr => ?_, hchange.no_frame⟩
    rw [hr] at hchange
    obtain ⟨hcomp, ht, hidle, hfree, -⟩ := hchange.admission
    exact ⟨hcomp, ht, hidle, hfree⟩

/-- One call, a retry while it runs and a replay after it. -/
theorem provider_calls_exclusive_retry :
    ∃ life : List Event, life.map Transition.Event.report =
        [.admitted ⟨[⟨.system, "p"⟩, ⟨.user, "a"⟩]⟩,
          .providerCalled ⟨[⟨.system, "p"⟩, ⟨.user, "a"⟩]⟩,
          .failed (.error ⟨"AgentService is busy with another turn"⟩), .silent,
          .turn ⟨⟨⟨1⟩⟩, ⟨⟨2⟩⟩, .final "b"⟩, .turn ⟨⟨⟨1⟩⟩, ⟨⟨2⟩⟩, .final "b"⟩] ∧
      life.countP (Event.callsProvider ⟨⟨1⟩⟩ ⟨⟨2⟩⟩) ≤ 1 := by
  obtain ⟨tr, w, hrun, -, htest⟩ := service.exec_any (World.created .deterministic)
    [.start, .activateProfile ⟨⟨1⟩⟩ ⟨BUILTIN_AGENT_DEFINITION⟩ "p",
      .submitTurn 0 ⟨⟨1⟩⟩ ⟨⟨2⟩⟩ "a" 1, .callProvider 0, .submitTurn 1 ⟨⟨1⟩⟩ ⟨⟨2⟩⟩ "a" 1,
      .select 0 (.answered (.ok "b")), .complete 0, .submitTurn 1 ⟨⟨1⟩⟩ ⟨⟨2⟩⟩ "a" 1]
    (fun q => (q.1.drop 2).all (fun x => ⟨⟨1⟩⟩ ∈ x.post.state.sessions) &&
      (q.1.drop 2).map Transition.Event.report =
        [.admitted ⟨[⟨.system, "p"⟩, ⟨.user, "a"⟩]⟩,
          .providerCalled ⟨[⟨.system, "p"⟩, ⟨.user, "a"⟩]⟩,
          .failed (.error ⟨"AgentService is busy with another turn"⟩), .silent,
          .turn ⟨⟨⟨1⟩⟩, ⟨⟨2⟩⟩, .final "b"⟩, .turn ⟨⟨⟨1⟩⟩, ⟨⟨2⟩⟩, .final "b"⟩])
    (by decide +kernel)
  rw [Bool.and_eq_true, List.all_eq_true] at htest
  refine ⟨tr.drop 2, of_decide_eq_true htest.2, ?_⟩
  exact (provider_calls_exclusive hrun).2.1 (tr.take 2) (tr.drop 2) ⟨⟨1⟩⟩ ⟨⟨2⟩⟩
    (List.take_append_drop 2 tr).symm fun x hx => of_decide_eq_true (htest.1 x hx)

end Paraegox.Agent
