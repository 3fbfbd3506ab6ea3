import Paraegox.Agent.ServiceMetatheory

/-!
# One terminal for a Turn, and cancellations that win

The results of this module are about a lifetime: a stretch of a run through
which a session stays in the map.  Along it the settlement of a Turn only goes
up, so the terminal of a Turn is one, every report carries it, and a Turn whose
cancellation was acknowledged ends `Cancelled`.
-/

namespace Paraegox.Agent

/-- A stretch of a run through which the session stays in the map. -/
structure Lifetime (s : SessionId) (w : World) (life : List Event) (w' : World) : Prop where
  reachable : w.Reachable
  run : service.Run w life w'
  present : ∀ x ∈ life, s ∈ x.post.state.sessions

/-- The report says that the Turn ended so. -/
def Report.Carries (r : Report) (s : SessionId) (t : TurnId) (terminal : TurnTerminal) : Prop :=
  r = .turn ⟨s, t, terminal⟩ ∨ r = .cancel s t (.alreadyTerminal terminal)

/-! ## One step -/

/-- A terminal is reported when it is in the ledger. -/
theorem World.Change.recorded {w w' : World} {a : Action} {r : Report} (h : w.Inv)
    (hc : w.Change a r w') {s : SessionId} {t : TurnId} {terminal : TurnTerminal}
    (hr : r.Carries s t terminal) :
    ∃ completed, w'.state.completed? s t = some completed ∧ completed.terminal = terminal := by
  cases hc with
  | waited _ _ _ hsil _ =>
      rcases hsil with rfl | rfl <;> rcases hr with hr | hr <;> cases hr
  | replayed _ hcomp _ =>
      rcases hr with hr | hr <;> cases hr
      exact ⟨_, hcomp, rfl⟩
  | consumed _ hcomp _ =>
      rcases hr with hr | hr <;> cases hr
      exact ⟨_, AgentState.completed?_consumed hcomp _, rfl⟩
  | overflowed _ _ hcomp _ _ _ _ =>
      rcases hr with hr | hr <;> cases hr
      exact ⟨_, AgentState.completed?_recorded hcomp _ _ _, rfl⟩
  | settled _ _ ha _ hreport =>
      rcases hreport with ⟨-, rfl⟩ | ⟨-, rfl, -⟩ <;> rcases hr with hr | hr <;> cases hr
      obtain ⟨hcomp, -⟩ := h.wellFormed.active_free ⟨_, ha⟩
      exact ⟨_, AgentState.completed?_recorded hcomp _ _ _, rfl⟩
  | alreadyTerminal hcomp =>
      rcases hr with hr | hr <;> cases hr
      exact ⟨_, hcomp, rfl⟩
  | _ => rcases hr with hr | hr <;> cases hr

/-- An acknowledged cancellation dooms the Turn. -/
theorem World.Change.doomed {w w' : World} {a : Action} {s : SessionId} {t : TurnId} (h : w.Inv)
    (hc : w.Change a (.cancel s t .cancellationRequested) w') :
    w'.state.phase s t = .doomed := by
  cases hc with
  | waited _ _ _ hsil _ => rcases hsil with hsil | hsil <;> cases hsil
  | settled _ _ _ _ hreport => rcases hreport with ⟨-, hr⟩ | ⟨-, hr, -⟩ <;> cases hr
  | flagged ha =>
      obtain ⟨hcomp, -⟩ := h.wellFormed.active_free ha
      obtain ⟨flag, ha⟩ := ha
      refine AgentState.phase_doomed hcomp (.inr ?_)
      simp [AgentState.cancelActiveTurn, ha]
  | pending ht => exact AgentState.phase_doomed (h.wellFormed.tombstoned_free ht) (.inl ht)
  | tombstoned _ hcomp _ _ _ =>
      refine AgentState.phase_doomed ?_ (.inl ?_)
      · rw [AgentState.completed?_eq] at hcomp
        simpa using hcomp
      · rw [AgentState.Tombstoned, AgentState.session_setSession, if_pos rfl]
        simp [SessionState.bury]

/-- A submit of a recorded Turn replays its terminal or is refused. -/
theorem World.Change.resubmitted {w w' : World} {r : Report} {task : TaskId} {s : SessionId}
    {t : TurnId} {input : String} {deadline : Duration} {completed : CompletedTurn}
    (hc : w.Change (.submitTurn task s t input deadline) r w')
    (hcomp : w.state.completed? s t = some completed) :
    w' = w ∧ ((∃ e, r = .failed (.error e)) ∨
      completed.input = input ∧ r = .turn ⟨s, t, completed.terminal⟩) := by
  cases hc with
  | refused _ => exact ⟨rfl, .inl ⟨_, rfl⟩⟩
  | waited _ _ hwaits _ _ => cases hwaits
  | stopped ha _ _ => rcases ha with ha | ha <;> cases ha
  | left ha _ _ _ => rcases ha with ha | ⟨branch, ha⟩ <;> cases ha
  | settled _ _ _ _ hreport => rcases hreport with ⟨ha, -⟩ | ⟨ha, -⟩ <;> cases ha
  | replayed _ hcomp' hin =>
      cases hcomp.symm.trans hcomp'
      exact ⟨rfl, .inr ⟨hin, rfl⟩⟩
  | consumed _ hnone _ => cases hcomp.symm.trans hnone
  | overflowed _ _ hnone _ _ _ _ => cases hcomp.symm.trans hnone
  | admitted _ _ _ hnone _ _ _ _ => cases hcomp.symm.trans hnone

theorem Event.phase_le {s : SessionId} (t : TurnId) (x : Event) (hx : service.Takes x)
    (h : x.pre.Inv) (hs : s ∈ x.post.state.sessions) :
    x.pre.state.phase s t ≤ x.post.state.phase s t :=
  (Event.change hx h).step.phase_le h.wellFormed hs t

/-! ## A lifetime -/

theorem Lifetime.takes {s : SessionId} {w w' : World} {life : List Event}
    (h : Lifetime s w life w') {x : Event} (hx : x ∈ life) : service.Takes x ∧ x.pre.Inv := by
  obtain ⟨tr₁, tr₂, rfl, h₁, hx, -⟩ := h.run.of_mem hx
  exact ⟨hx, h₁.invariant Event.inv h.reachable.inv⟩

theorem Lifetime.change {s : SessionId} {w w' : World} {life : List Event}
    (h : Lifetime s w life w') {x : Event} (hx : x ∈ life) :
    x.pre.Inv ∧ x.pre.Change x.act x.report x.post :=
  ⟨(h.takes hx).2, Event.change (h.takes hx).1 (h.takes hx).2⟩

/-- A list of labels whose last events keep the session in the map is a lifetime. -/
theorem Lifetime.of_exec (s : SessionId) (provider : CompletionProvider) (n : Nat)
    (as : List Action) (p : List Event → Bool)
    (h : (service.exec (World.created provider) as).any (fun q =>
      (q.1.drop n).all (fun x => s ∈ x.post.state.sessions) && p (q.1.drop n)) = true) :
    ∃ w life w', Lifetime s w life w' ∧ p life = true := by
  obtain ⟨tr, w', hrun, -, htest⟩ := service.exec_any _ as _ h
  rw [Bool.and_eq_true, List.all_eq_true] at htest
  rw [← List.take_append_drop n tr] at hrun
  obtain ⟨w, h₁, h₂⟩ := hrun.split
  exact ⟨w, _, w', ⟨⟨provider, _, h₁⟩, h₂, fun x hx => of_decide_eq_true (htest.1 x hx)⟩, htest.2⟩

/-- What is recorded in a lifetime is recorded at its end. -/
theorem Lifetime.completed_end {s : SessionId} {w w' : World} {life : List Event}
    (h : Lifetime s w life w') {x : Event} (hx : x ∈ life) {t : TurnId}
    {completed : CompletedTurn} (hc : x.post.state.completed? s t = some completed) :
    w'.state.completed? s t = some completed :=
  AgentState.phase_settled.mp <| Settlement.end_of_mem (f := fun w : World => w.state.phase s t)
    Event.inv (Event.phase_le t) h.run h.reachable.inv h.present hx
    (AgentState.phase_settled.mpr hc)

/-- What is recorded when a lifetime begins is recorded at its end. -/
theorem Lifetime.completed_stable {s : SessionId} {w w' : World} {life : List Event}
    (h : Lifetime s w life w') {t : TurnId} {completed : CompletedTurn}
    (hc : w.state.completed? s t = some completed) : w'.state.completed? s t = some completed := by
  have hle := h.run.monotone (f := fun w : World => w.state.phase s t) Event.inv
    (Event.phase_le t) h.reachable.inv h.present
  simp only [AgentState.phase_settled.mpr hc, Settlement.settled_le] at hle
  exact AgentState.phase_settled.mp hle

/-- A lifetime up to one of its events. -/
theorem Lifetime.upto {s : SessionId} {w w' : World} {life : List Event}
    (h : Lifetime s w life w') {y : Event} (hy : y ∈ life) : ∃ tr, Lifetime s w tr y.post := by
  obtain ⟨tr₁, tr₂, rfl, h₁, hy', -⟩ := h.run.of_mem hy
  refine ⟨tr₁ ++ [y], h.reachable, h₁.append (.single hy'), fun z hz => h.present z ?_⟩
  rcases List.mem_append.mp hz with hz | hz
  · exact List.mem_append_left _ hz
  · rw [List.mem_singleton.mp hz]
    exact hy

/-- The part of a lifetime after one of its events. -/
theorem Lifetime.after {s : SessionId} {w w' : World} {tr₁ tr₂ : List Event} {x : Event}
    (h : Lifetime s w (tr₁ ++ x :: tr₂) w') : Lifetime s x.post tr₂ w' := by
  obtain ⟨h₁, hx, h₂⟩ := h.run.at
  obtain ⟨provider, hr⟩ := h.reachable
  refine ⟨⟨provider, (hr.run h₁).run (.single hx)⟩, h₂, fun y hy => h.present y ?_⟩
  exact List.mem_append_right _ (List.mem_cons_of_mem _ hy)

/-- Every report about a Turn carries the terminal that is recorded at the end of
the lifetime. -/
theorem Lifetime.carried_end {s : SessionId} {w w' : World} {life : List Event}
    (h : Lifetime s w life w') {x : Event} (hx : x ∈ life) {t : TurnId} {terminal : TurnTerminal}
    (hr : x.report.Carries s t terminal) :
    ∃ completed, w'.state.completed? s t = some completed ∧ completed.terminal = terminal := by
  obtain ⟨hinv, hchange⟩ := h.change hx
  obtain ⟨completed, hc, hterm⟩ := hchange.recorded hinv hr
  exact ⟨completed, h.completed_end hx hc, hterm⟩

/-- The ledger never holds a Turn twice. -/
theorem AgentState.WellFormed.count_le {state : AgentState} (h : state.WellFormed) (s : SessionId)
    (t : TurnId) : ((state.session s).turns.map CompletedTurn.turnId).count t ≤ 1 := by
  have hnd := (h.session_tidy s).distinct
  rw [SessionState.occupied, List.append_assoc] at hnd
  exact List.nodup_iff_count_le_one.mp hnd.of_append_left t

/-! ## The terminal of a Turn is one -/

/-- In a lifetime of its session a Turn is recorded at most once, its record never
changes, every report about it carries the recorded terminal, and a submit with
another input is refused and changes nothing. -/
theorem Lifetime.terminal_authoritative {s : SessionId} {w w' : World} {life : List Event}
    (h : Lifetime s w life w') (t : TurnId) :
    (∀ x ∈ life, ((x.post.state.session s).turns.map CompletedTurn.turnId).count t ≤ 1) ∧
    (∀ tr₁ x tr₂ completed, life = tr₁ ++ x :: tr₂ →
      x.post.state.completed? s t = some completed →
      ∀ y ∈ tr₂, y.post.state.completed? s t = some completed) ∧
    (∀ x ∈ life, ∀ terminal, x.report.Carries s t terminal →
      ∃ completed, x.post.state.completed? s t = some completed ∧
        completed.terminal = terminal) ∧
    (∀ x ∈ life, ∀ y ∈ life, ∀ terminal terminal', x.report.Carries s t terminal →
      y.report.Carries s t terminal' → terminal = terminal') ∧
    ∀ x ∈ life, ∀ task input deadline completed, x.act = .submitTurn task s t input deadline →
      x.pre.state.completed? s t = some completed →
      if completed.input = input then
        x.report = .turn ⟨s, t, completed.terminal⟩ ∨ ∃ e, x.report = .failed (.error e)
      else (∃ e, x.report = .failed (.error e)) ∧ x.post = x.pre := by
  refine ⟨fun x hx => ?_, ?_, fun x hx terminal hr => ?_, ?_, ?_⟩
  · obtain ⟨hinv, hchange⟩ := h.change hx
    exact (hchange.inv hinv).wellFormed.count_le s t
  · rintro tr₁ x tr₂ completed rfl hc y hy
    obtain ⟨tr, hupto⟩ := h.after.upto hy
    exact hupto.completed_stable hc
  · obtain ⟨hinv, hchange⟩ := h.change hx
    exact hchange.recorded hinv hr
  · intro x hx y hy terminal terminal' hr hr'
    obtain ⟨completed, hc, rfl⟩ := h.carried_end hx hr
    obtain ⟨completed', hc', rfl⟩ := h.carried_end hy hr'
    rw [Option.some.inj (hc.symm.trans hc')]
  · intro x hx task input deadline completed hact hc
    obtain ⟨hinv, hchange⟩ := h.change hx
    rw [hact] at hchange
    obtain ⟨hpost, hrep⟩ := hchange.resubmitted hc
    split_ifs with hin
    · rcases hrep with hrep | ⟨-, hrep⟩
      · exact .inr hrep
      · exact .inl hrep
    · rcases hrep with hrep | ⟨hin', -⟩
      · exact ⟨hrep, hpost⟩
      · exact absurd hin' hin

/-- A Turn that runs, its replay, a conflicting submit and a late cancellation. -/
theorem Lifetime.terminal_authoritative_replay :
    ∃ w life w', Lifetime ⟨⟨1⟩⟩ w life w' ∧
      life.map Transition.Event.report =
        [.admitted ⟨[⟨.system, "p"⟩, ⟨.user, "a"⟩]⟩,
          .providerCalled ⟨[⟨.system, "p"⟩, ⟨.user, "a"⟩]⟩, .silent,
          .turn ⟨⟨⟨1⟩⟩, ⟨⟨2⟩⟩, .final "b"⟩, .turn ⟨⟨⟨1⟩⟩, ⟨⟨2⟩⟩, .final "b"⟩,
          .failed (.error ⟨"TurnId was already completed with different input"⟩),
          .cancel ⟨⟨1⟩⟩ ⟨⟨2⟩⟩ (.alreadyTerminal (.final "b"))] ∧
      ∀ x ∈ life, ∀ y ∈ life, ∀ terminal terminal', x.report.Carries ⟨⟨1⟩⟩ ⟨⟨2⟩⟩ terminal →
        y.report.Carries ⟨⟨1⟩⟩ ⟨⟨2⟩⟩ terminal' → terminal = terminal' := by
  obtain ⟨w, life, w', h, hreports⟩ := Lifetime.of_exec ⟨⟨1⟩⟩ .deterministic 2
    [.start, .activateProfile ⟨⟨1⟩⟩ ⟨BUILTIN_AGENT_DEFINITION⟩ "p",
      .submitTurn 0 ⟨⟨1⟩⟩ ⟨⟨2⟩⟩ "a" 1, .callProvider 0, .select 0 (.answered (.ok "b")),
      .complete 0, .submitTurn 1 ⟨⟨1⟩⟩ ⟨⟨2⟩⟩ "a" 1, .submitTurn 2 ⟨⟨1⟩⟩ ⟨⟨2⟩⟩ "c" 1,
      .cancel ⟨⟨1⟩⟩ ⟨⟨2⟩⟩]
    (fun life => life.map Transition.Event.report =
      [.admitted ⟨[⟨.system, "p"⟩, ⟨.user, "a"⟩]⟩,
        .providerCalled ⟨[⟨.system, "p"⟩, ⟨.user, "a"⟩]⟩, .silent,
        .turn ⟨⟨⟨1⟩⟩, ⟨⟨2⟩⟩, .final "b"⟩, .turn ⟨⟨⟨1⟩⟩, ⟨⟨2⟩⟩, .final "b"⟩,
        .failed (.error ⟨"TurnId was already completed with different input"⟩),
        .cancel ⟨⟨1⟩⟩ ⟨⟨2⟩⟩ (.alreadyTerminal (.final "b"))]) (by decide +kernel)
  exact ⟨w, life, w', h, of_decide_eq_true hreports, (h.terminal_authoritative ⟨⟨2⟩⟩).2.2.2.1⟩

/-! ## An acknowledged cancellation wins -/

/-- After an acknowledged cancellation, whatever is recorded of the Turn in the
rest of the lifetime is `Cancelled`, and so is whatever is reported of it. -/
theorem Lifetime.cancelled_after {s : SessionId} {t : TurnId} {x : Event} {life : List Event}
    {w' : World} (h : Lifetime s x.post life w') (hpre : x.pre.Inv) (hx : service.Takes x)
    (hrep : x.report = .cancel s t .cancellationRequested) {y : Event} (hy : y ∈ life) :
    (∀ completed, y.post.state.completed? s t = some completed →
        completed.terminal = .cancelled) ∧
      ∀ terminal, y.report.Carries s t terminal → terminal = .cancelled := by
  have hdoom : x.post.state.phase s t = .doomed := by
    have hchange := Event.change hx hpre
    rw [hrep] at hchange
    exact hchange.doomed hpre
  have hrec : ∀ completed, y.post.state.completed? s t = some completed →
      completed.terminal = .cancelled := fun completed hc =>
    Settlement.doomed_of_mem (f := fun w : World => w.state.phase s t) Event.inv
      (Event.phase_le t) h.run h.reachable.inv h.present hdoom hy
      (AgentState.phase_settled.mpr hc)
  refine ⟨hrec, fun terminal hr => ?_⟩
  obtain ⟨hinv, hchange⟩ := h.change hy
  obtain ⟨completed, hc, rfl⟩ := hchange.recorded hinv hr
  exact hrec completed hc

/-- An acknowledged cancellation wins for the rest of the lifetime, and where a
cancellation is answered with a terminal, every submit of the Turn in the lifetime
that returns `Ok` returns that terminal. -/
theorem cancellation_wins (s : SessionId) (t : TurnId) :
    (∀ x life w', x.pre.Reachable → service.Takes x →
      x.report = .cancel s t .cancellationRequested → Lifetime s x.post life w' →
      ∀ y ∈ life,
        (∀ completed, y.post.state.completed? s t = some completed →
          completed.terminal = .cancelled) ∧
        ∀ terminal, y.report.Carries s t terminal → terminal = .cancelled) ∧
    ∀ w life w', Lifetime s w life w' → ∀ x ∈ life, ∀ terminal,
      x.report = .cancel s t (.alreadyTerminal terminal) →
      ∀ y ∈ life, ∀ terminal', y.report = .turn ⟨s, t, terminal'⟩ → terminal' = terminal := by
  refine ⟨fun x life w' hpre hx hrep h y hy => h.cancelled_after hpre.inv hx hrep hy, ?_⟩
  intro w life w' h x hx terminal hr y hy terminal' hr'
  obtain ⟨completed, hc, rfl⟩ := h.carried_end hx (.inr hr)
  obtain ⟨completed', hc', rfl⟩ := h.carried_end hy (.inl hr')
  rw [Option.some.inj (hc'.symm.trans hc)]

/-- A Turn cancelled before it was submitted. -/
theorem cancellation_wins_early :
    ∃ w life w', Lifetime ⟨⟨1⟩⟩ w life w' ∧
      life.map Transition.Event.report = [.cancel ⟨⟨1⟩⟩ ⟨⟨2⟩⟩ .cancellationRequested,
        .turn ⟨⟨⟨1⟩⟩, ⟨⟨2⟩⟩, .cancelled⟩, .cancel ⟨⟨1⟩⟩ ⟨⟨2⟩⟩ (.alreadyTerminal .cancelled)] ∧
      ∀ y ∈ life, ∀ terminal, y.report = .turn ⟨⟨⟨1⟩⟩, ⟨⟨2⟩⟩, terminal⟩ →
        terminal = .cancelled := by
  obtain ⟨w, life, w', h, hreports⟩ := Lifetime.of_exec ⟨⟨1⟩⟩ .deterministic 2
    [.start, .activateProfile ⟨⟨1⟩⟩ ⟨BUILTIN_AGENT_DEFINITION⟩ "p", .cancel ⟨⟨1⟩⟩ ⟨⟨2⟩⟩,
      .submitTurn 0 ⟨⟨1⟩⟩ ⟨⟨2⟩⟩ "a" 1, .cancel ⟨⟨1⟩⟩ ⟨⟨2⟩⟩]
    (fun life => life.map Transition.Event.report = [.cancel ⟨⟨1⟩⟩ ⟨⟨2⟩⟩ .cancellationRequested,
      .turn ⟨⟨⟨1⟩⟩, ⟨⟨2⟩⟩, .cancelled⟩, .cancel ⟨⟨1⟩⟩ ⟨⟨2⟩⟩ (.alreadyTerminal .cancelled)])
    (by decide +kernel)
  have hreports := of_decide_eq_true hreports
  refine ⟨w, life, w', h, hreports, fun y hy terminal hr => ?_⟩
  obtain ⟨x, hx, hxr⟩ : ∃ x ∈ life,
      x.report = .cancel ⟨⟨1⟩⟩ ⟨⟨2⟩⟩ (.alreadyTerminal .cancelled) :=
    List.mem_map.mp (hreports ▸ by simp)
  exact (cancellation_wins ⟨⟨1⟩⟩ ⟨⟨2⟩⟩).2 w life w' h x hx .cancelled hxr y hy terminal hr

end Paraegox.Agent
