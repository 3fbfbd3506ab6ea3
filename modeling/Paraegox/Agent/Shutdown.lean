import Paraegox.Agent.Terminals

/-!
# Shutdown

A service that left `Running` admits nothing.  A service that stopped without an
active Turn is sealed: its sessions never change again.  A Turn that was active
when the profile was cleared carries a raised flag, and the flag is only lowered
by recording the Turn as `Cancelled`.
-/

namespace Paraegox.Agent

/-! ## After `Stopping` -/

theorem World.Change.not_admitted {w w' : World} {a : Action} {r : Report} (hc : w.Change a r w')
    (hl : w.state.lifecycle ≠ .running) (context : ModelContext) : r ≠ .admitted context := by
  rintro rfl
  cases hc with
  | waited _ _ _ hr _ => rcases hr with hr | hr <;> cases hr
  | settled _ _ _ _ hreport => rcases hreport with ⟨-, hr⟩ | ⟨-, hr, -⟩ <;> cases hr
  | admitted _ hrun _ _ _ _ _ _ => exact hl hrun

/-- The service is being stopped or is stopped. -/
def World.Closing (w : World) : Prop := 2 ≤ w.state.lifecycle.rank

theorem World.Closing.not_running {w : World} (h : w.Closing) : w.state.lifecycle ≠ .running := by
  intro hrun
  simp [Closing, hrun, ServiceLifecycle.rank] at h

theorem Event.closing {x : Event} (hx : service.Takes x) (hinv : x.pre.Inv)
    (h : x.pre.Closing) : x.post.Closing :=
  h.trans (change hx hinv).rank_le

/-- Nothing is admitted once the service is being stopped. -/
theorem closing_admits_nothing {w w' : World} {tr : List Event} (h : service.Run w tr w')
    (hinv : w.Inv) (hw : w.Closing) {y : Event} (hy : y ∈ tr) (context : ModelContext) :
    y.report ≠ .admitted context := by
  obtain ⟨tr₁, tr₂, rfl, h₁, hy', -⟩ := h.of_mem hy
  have hpre : y.pre.Closing := h₁.stable (C := fun _ => True) Event.inv
    (fun x hx hI _ hP => Event.closing hx hI hP) hinv (fun _ _ => trivial) hw
  exact (Event.change hy' (h₁.invariant Event.inv hinv)).not_admitted hpre.not_running context

/-! ## After `stop` returned -/

/-- The service stopped, no Turn is active and these are its sessions. -/
structure World.Sealed (w : World) (sessions : Sessions) : Prop where
  stopped : w.state.lifecycle = .stopped
  idle : w.state.activeTurn = none
  sessions : w.state.sessions = sessions

theorem World.Change.sealed {w w' : World} {a : Action} {r : Report} (hc : w.Change a r w')
    {sessions : Sessions} (h : w.Sealed sessions) : w'.Sealed sessions := by
  have hl := h.stopped
  have hrun : w.state.lifecycle ≠ .running := by simp [hl]
  have hidle := hc.idle h.idle hrun
  cases hc with
  | started hl' => cases hl.symm.trans hl'
  | stopping _ hl' => rcases hl' with hl' | hl' <;> cases hl.symm.trans hl'
  | stopped _ _ _ => exact ⟨rfl, hidle, h.sessions⟩
  | dropped _ _ => exact ⟨rfl, hidle, h.sessions⟩
  | activated hl' _ => exact absurd hl' hrun
  | consumed hl' _ _ => exact absurd hl' hrun
  | overflowed hl' _ _ _ _ _ _ => exact absurd hl' hrun
  | admitted _ hl' _ _ _ _ _ _ => exact absurd hl' hrun
  | tombstoned hl' _ _ _ _ => exact absurd hl' hrun
  | settled _ _ ha _ _ => cases h.idle.symm.trans ha
  | _ => exact ⟨hl, hidle, h.sessions⟩

/-- A `stop` that returns leaves no active Turn. -/
theorem World.Change.stop_returned {w w' : World} {a : Action} {r : Report}
    (hc : w.Change a r w') (ha : a = .stop ∨ a = .stopFinish) (hr : r = .done) :
    w'.Sealed w'.state.sessions := by
  cases hc with
  | refused _ => cases hr
  | waited _ _ hwaits _ _ => rcases ha with rfl | rfl <;> cases hwaits
  | stopped _ _ hidle => exact ⟨rfl, hidle, rfl⟩
  | stopping _ _ => cases hr
  | left hleft _ _ _ =>
      rcases hleft with rfl | ⟨branch, rfl⟩ <;> rcases ha with ha | ha <;> cases ha
  | settled _ _ _ _ hreport =>
      rcases hreport with ⟨rfl, -⟩ | ⟨rfl, -⟩ <;> rcases ha with ha | ha <;> cases ha
  | _ => rcases ha with ha | ha <;> cases ha

/-! ## A Turn whose profile was cleared -/

/-- A stop, a drop or the deactivation of the owning Card cleared the profile. -/
def Event.Revokes (x : Event) : Prop :=
  x.report = .silent ∧
    (x.act = .stop ∨ x.act = .dropService ∨ ∃ task c, x.act = .deactivateProfile task c)

theorem World.Change.revoked {w w' : World} {a : Action} (hc : w.Change a .silent w')
    (ha : a = .stop ∨ a = .dropService ∨ ∃ task c, a = .deactivateProfile task c) :
    ∃ l, w'.state = w.state.revoke l := by
  cases hc with
  | waited _ _ hwaits _ _ => rcases ha with rfl | rfl | ⟨task, c, rfl⟩ <;> cases hwaits
  | stopping _ _ => exact ⟨_, rfl⟩
  | dropped _ _ => exact ⟨_, rfl⟩
  | deactivated _ => exact ⟨_, rfl⟩
  | left hleft _ _ _ =>
      rcases hleft with rfl | ⟨branch, rfl⟩ <;> rcases ha with ha | ha | ⟨task, c, ha⟩ <;> cases ha
  | settled _ _ _ _ hreport =>
      rcases hreport with ⟨-, hr⟩ | ⟨rfl, -⟩
      · cases hr
      · rcases ha with ha | ha | ⟨task, c, ha⟩ <;> cases ha
  | _ => rcases ha with ha | ha | ⟨task, c, ha⟩ <;> cases ha

/-- The Turn is recorded as `Cancelled`. -/
def AgentState.Cancelled (state : AgentState) (s : SessionId) (t : TurnId) : Prop :=
  ∃ input, state.completed? s t = some ⟨t, input, .cancelled⟩

/-- A flagged Turn stays flagged or is recorded as `Cancelled`. -/
theorem World.Change.flagged_or {w w' : World} {a : Action} {r : Report} (h : w.Inv)
    (hc : w.Change a r w') {s : SessionId} {t : TurnId}
    (ha : w.state.activeTurn = some ⟨s, t, true⟩) :
    w'.state.activeTurn = some ⟨s, t, true⟩ ∨ w'.state.Cancelled s t := by
  cases hc with
  | stopping _ _ | dropped _ _ | deactivated _ | flagged _ =>
      exact .inl (by simp [AgentState.cancelActiveTurn, ha])
  | overflowed _ _ _ _ hidle _ _ => cases ha.symm.trans hidle
  | admitted _ _ _ _ _ hidle _ _ => cases ha.symm.trans hidle
  | tombstoned _ _ _ _ _ => exact .inl (by simpa using ha)
  | settled _ _ ha' hterm _ =>
      cases ha.symm.trans ha'
      cases hterm (.inl rfl)
      obtain ⟨hcomp, -⟩ := h.wellFormed.active_free ⟨_, ha⟩
      exact .inr ⟨_, AgentState.completed?_recorded hcomp _ _ _⟩
  | _ => exact .inl ha

/-! ### Its frame can always finish it -/

theorem World.reachable_next {w w' : World} {a : Action} {r : Report}
    (h : w.next a = some (r, w')) : service.Reachable w w' :=
  .of_next (S := service) (a := a) h

theorem World.Inv.complete_cancels {w : World} (h : w.Inv) {s : SessionId} {t : TurnId}
    (ha : w.state.activeTurn = some ⟨s, t, true⟩) {task : TaskId} {call : Call}
    {proposed : TurnTerminal} (hl : w.calls.lookup task = some call)
    (hp : call.phase = .decided proposed) :
    ∃ w', service.Reachable w w' ∧ w'.state.Cancelled s t := by
  have hnext : w.next (.complete task) = some (w.complete task call proposed) := by
    simp [World.next, hl, hp]
  refine ⟨(w.complete task call proposed).2, reachable_next hnext, ?_⟩
  have harmed : Armed w.calls task call.guard.sessionId call.guard.turnId :=
    ⟨call, hl, by simp [Call.armed, hp], rfl, rfl⟩
  have hidle : (w.complete task call proposed).2.state.activeTurn = none := by
    rw [complete]
    rw [ActiveTurnGuard.complete_run h.wellFormed ((h.slot.armed _ _).mpr ⟨task, harmed⟩)]
    rfl
  rcases (complete_change h hl hp).flagged_or h ha with hactive | hcancelled
  · cases hidle.symm.trans hactive
  · exact hcancelled

theorem World.Inv.drop_cancels {w : World} (h : w.Inv) {s : SessionId} {t : TurnId}
    (ha : w.state.activeTurn = some ⟨s, t, true⟩) {task : TaskId} {call : Call}
    (hl : w.calls.lookup task = some call) (hp : call.phase = .dropping) :
    ∃ w', service.Reachable w w' ∧ w'.state.Cancelled s t := by
  have hnext : w.next (.dropGuard task) = some (w.dropGuard task call) := by
    simp [World.next, hl, hp]
  refine ⟨(w.dropGuard task call).2, reachable_next hnext, ?_⟩
  have harmed : Armed w.calls task call.guard.sessionId call.guard.turnId :=
    ⟨call, hl, by simp [Call.armed, hp], rfl, rfl⟩
  have hidle : (w.dropGuard task call).2.state.activeTurn = none := by
    rw [dropGuard]
    rw [ActiveTurnGuard.drop_run h.wellFormed ((h.slot.armed _ _).mpr ⟨task, harmed⟩)]
    rfl
  rcases (dropGuard_change h hl hp).flagged_or h ha with hactive | hcancelled
  · cases hidle.symm.trans hactive
  · exact hcancelled

/-- The frame of a flagged Turn can always be run until the Turn is recorded. -/
theorem World.Inv.can_cancel {w : World} (h : w.Inv) {s : SessionId} {t : TurnId}
    (ha : w.state.activeTurn = some ⟨s, t, true⟩) :
    ∃ w', service.Reachable w w' ∧ w'.state.Cancelled s t := by
  obtain ⟨task, call, hl, harmed, hs, ht⟩ := (h.slot.armed s t).mp ⟨true, ha⟩
  have hselect : call.phase = .admitted ∨ call.phase = .calling →
      ∃ w', service.Reachable w w' ∧ w'.state.Cancelled s t := by
    intro hp
    -- the flag makes the cancellation branch of `select!` ready
    let decided : Call := { call with
      phase := .decided (wireSafeTerminal call.guard.sessionId call.guard.turnId .cancelled) }
    have hnext : w.next (.select task .cancelled) = some (.silent, w.setCall task decided) := by
      simp [World.next, hl, World.select, hp, World.proposal, World.cancellationSeen, ha, decided]
    have hinv : (w.setCall task decided).Inv :=
      Event.inv ⟨w, .select task .cancelled, .silent, _⟩ hnext h
    have hl' : (w.setCall task decided).calls.lookup task = some decided := AList.lookup_insert _
    obtain ⟨w', hreach, hcancelled⟩ := hinv.complete_cancels ha hl' rfl
    exact ⟨w', .trans (World.reachable_next hnext) hreach, hcancelled⟩
  cases hp : call.phase with
  | admitted => exact hselect (.inl hp)
  | calling => exact hselect (.inr hp)
  | decided proposed => exact h.complete_cancels ha hl hp
  | dropping => exact h.drop_cancels ha hl hp
  | notifying => simp [Call.armed, hp] at harmed

/-! ## Shutdown seals everything -/

/-- Once the lifecycle is `Stopping` nothing is admitted.  Once `stop` returned no
Turn is active, none is admitted and the sessions do not change.  A Turn that was
active when the profile was cleared is flagged until an event records it as
`Cancelled`, and its frame can always bring that about. -/
theorem shutdown_seals {provider : CompletionProvider} {tr : List Event} {w : World}
    (h : service.Run (World.created provider) tr w) :
    (∀ before x after, tr = before ++ x :: after → x.post.state.lifecycle = .stopping →
      ∀ y ∈ after, ∀ context, y.report ≠ .admitted context) ∧
    (∀ before x after, tr = before ++ x :: after → x.act = .stop ∨ x.act = .stopFinish →
      x.report = .done →
      x.post.state.activeTurn = none ∧
        ∀ y ∈ after, y.post.state.activeTurn = none ∧
          (∀ context, y.report ≠ .admitted context) ∧
          y.post.state.sessions = x.post.state.sessions) ∧
    ∀ before x after s t, tr = before ++ x :: after → x.Revokes → x.pre.state.Active s t →
      (w.state.activeTurn = some ⟨s, t, true⟩ ∧
        ∃ w', service.Reachable w w' ∧ w'.state.Cancelled s t) ∨
      ∃ m₁ y m₂, after = m₁ ++ y :: m₂ ∧ y.pre.state.activeTurn = some ⟨s, t, true⟩ ∧
        y.post.state.Cancelled s t ∧
        ∀ terminal, y.report.Carries s t terminal → terminal = .cancelled := by
  have hcreated : (World.created provider).Inv := World.created_inv provider
  refine ⟨?_, ?_, ?_⟩
  · rintro before x after rfl hl y hy context
    obtain ⟨h₁, hx, h₂⟩ := h.at
    have hpost : x.post.Inv := Event.inv x hx (h₁.invariant Event.inv hcreated)
    exact closing_admits_nothing h₂ hpost (by simp [World.Closing, hl, ServiceLifecycle.rank]) hy
      context
  · rintro before x after rfl ha hr
    obtain ⟨h₁, hx, h₂⟩ := h.at
    have hpre : x.pre.Inv := h₁.invariant Event.inv hcreated
    have hpost : x.post.Inv := Event.inv x hx hpre
    have hsealed := (Event.change hx hpre).stop_returned ha hr
    refine ⟨hsealed.idle, fun y hy => ?_⟩
    have hclosing : x.post.Closing := by
      simp [World.Closing, hsealed.stopped, ServiceLifecycle.rank]
    obtain ⟨-, hy'⟩ := h₂.stable_mem (P := fun w => w.Sealed x.post.state.sessions)
      (C := fun _ => True) Event.inv (fun z hz hI _ hP => (Event.change hz hI).sealed hP) hpost
      (fun _ _ => trivial) hsealed hy
    exact ⟨hy'.idle, closing_admits_nothing h₂ hpost hclosing hy, hy'.sessions⟩
  · rintro before x after s t rfl ⟨hr, ha⟩ ⟨flag, hactive⟩
    obtain ⟨h₁, hx, h₂⟩ := h.at
    have hpre : x.pre.Inv := h₁.invariant Event.inv hcreated
    have hpost : x.post.Inv := Event.inv x hx hpre
    have hchange := Event.change hx hpre
    rw [hr] at hchange
    obtain ⟨l, hrevoked⟩ := hchange.revoked ha
    have hflagged : x.post.state.activeTurn = some ⟨s, t, true⟩ := by
      simp [hrevoked, AgentState.cancelActiveTurn, hactive]
    have huntil := h₂.until (P := fun w => w.state.activeTurn = some ⟨s, t, true⟩)
      (Q := fun y => y.post.state.Cancelled s t ∧
        ∀ terminal, y.report.Carries s t terminal → terminal = .cancelled)
      Event.inv ?_ hpost hflagged
    · rcases huntil with hend | ⟨m₁, y, m₂, hsplit, hy, hcancelled⟩
      · exact .inl ⟨hend, (h₂.invariant Event.inv hpost).can_cancel hend⟩
      · exact .inr ⟨m₁, y, m₂, hsplit, hy, hcancelled⟩
    · intro y hy hI hact
      have hchange := Event.change hy hI
      refine (hchange.flagged_or hI hact).imp_right fun hcancelled => ⟨hcancelled, ?_⟩
      rintro terminal hcarries
      obtain ⟨input, hcomp⟩ := hcancelled
      obtain ⟨completed, hcomp', rfl⟩ := hchange.recorded hI hcarries
      cases hcomp.symm.trans hcomp'
      rfl

/-- The provider has answered and another Card is active, and still the Turn that
was active when its Card was deactivated ends `Cancelled`. -/
theorem shutdown_seals_deactivated :
    ∃ x y : Event, x.act = .deactivateProfile 0 ⟨⟨1⟩⟩ ∧
      y.pre.state.activeTurn = some ⟨⟨⟨1⟩⟩, ⟨⟨2⟩⟩, true⟩ ∧
      y.post.state.Cancelled ⟨⟨1⟩⟩ ⟨⟨2⟩⟩ := by
  obtain ⟨tr, w, hrun, hacts, htest⟩ := service.exec_any (World.created .deterministic)
    ([.start, .activateProfile ⟨⟨1⟩⟩ ⟨BUILTIN_AGENT_DEFINITION⟩ "p",
      .submitTurn 0 ⟨⟨1⟩⟩ ⟨⟨2⟩⟩ "a" 1, .callProvider 0, .select 0 (.answered (.ok "b"))] ++
      .deactivateProfile 0 ⟨⟨1⟩⟩ ::
      [.activateProfile ⟨⟨2⟩⟩ ⟨BUILTIN_AGENT_DEFINITION⟩ "q", .complete 0])
    (fun q => (q.1.drop 5).head?.any (fun x => x.report = .silent ∧
        x.pre.state.activeTurn = some ⟨⟨⟨1⟩⟩, ⟨⟨2⟩⟩, false⟩) &&
      q.2.state.activeTurn = none) (by decide +kernel)
  obtain ⟨before, rest, rfl, hbefore, hrest⟩ := List.map_eq_append_iff.mp hacts
  obtain ⟨x, after, rfl, ha, -⟩ := List.map_eq_cons_iff.mp hrest
  have hlen : before.length = 5 := by simpa using congrArg List.length hbefore
  rw [Bool.and_eq_true, ← hlen, List.drop_left] at htest
  obtain ⟨hx, hidle⟩ := htest
  simp only [List.head?_cons, Option.any_some, decide_eq_true_eq] at hx hidle
  rcases (shutdown_seals hrun).2.2 before x after ⟨⟨1⟩⟩ ⟨⟨2⟩⟩ rfl
    ⟨hx.1, .inr (.inr ⟨_, _, ha⟩)⟩ ⟨false, hx.2⟩ with ⟨hactive, -⟩ | ⟨_, y, _, -, hy, hcancelled, -⟩
  · cases hidle.symm.trans hactive
  · exact ⟨x, y, ha, hy, hcancelled⟩

end Paraegox.Agent
