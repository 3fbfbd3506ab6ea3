import Paraegox.Agent.Shutdown
import Paraegox.Agent.Wakeup
import Paraegox.Lib.Weight

/-!
# The service drains

Left to itself the service comes to rest: the steps its own futures take lower a number,
and where none of them can move there is no future left.  A notification wakes every
waiter again, so a step of a frame outweighs all that it may cost them.  Nothing here
depends on the order of the steps.
-/

namespace Paraegox.Agent

/-! ## What is left to do -/

/-- A step of a future of the service, no call from outside.  The answer of the provider
and the end of its time are such steps. -/
def Action.Internal : Action → Prop
  | .start | .stop | .dropService | .activateProfile _ _ _ | .deactivateProfile _ _
  | .submitTurn _ _ _ _ _ | .cancel _ _ => False
  | _ => True

/-- The steps a frame has still to take, at most. -/
def CallPhase.work : CallPhase → Nat
  | .admitted => 5
  | .calling => 4
  | .decided _ => 3
  | .dropping => 2
  | .notifying => 1

/-- The steps a waiter has still to take, at most, if no notification comes. -/
def WaitPhase.work (notified : Nat) : WaitPhase → Nat
  | .top => 4
  | .created seen => if seen = notified then 3 else 6
  | .parked seen => if seen = notified then 1 else 5
  | .idle => 2

/-- The waiters of a world. -/
def World.waiters (w : World) : Nat :=
  (if w.stopping.isSome then 1 else 0) + w.draining.weight fun _ => 1

/-- What the waiters have still to do. -/
def World.waiting (w : World) : Nat :=
  (w.stopping.map (WaitPhase.work w.notified)).getD 0 +
    w.draining.weight (WaitPhase.work w.notified)

/-- What is left to do.  A notification costs each waiter at most four steps. -/
def World.work (w : World) : Nat :=
  (w.calls.weight fun call => call.phase.work) * (4 * w.waiters + 1) + w.waiting

/-- Where an internal step moves, and that it gets on. -/
inductive World.Advances (w : World) (a : Action) (w' : World) : Prop where
  | frame {task : TaskId} {call : Call} (phase : CallPhase)
      (hl : w.calls.lookup task = some call) (hlt : phase.work < call.phase.work)
      (hcalls : w'.calls = w.calls.insert task { call with phase })
      (hstopping : w'.stopping = w.stopping) (hdraining : w'.draining = w.draining)
      (hnotified : w'.notified = w.notified)
  | ended {task : TaskId} {call : Call} (hl : w.calls.lookup task = some call)
      (hcalls : w'.calls = w.calls.erase task) (hstopping : w'.stopping = w.stopping)
      (hdraining : w'.draining = w.draining)
  | stop {phase : WaitPhase} (hp : w.stopping = some phase)
      (hact : a = .stopPoll ∧ w'.stopping.isSome ∨ a = .stopInterrupted ∨ a = .stopFinish)
      (hcalls : w'.calls = w.calls)
      (hstopping : ∀ phase', w'.stopping = some phase' →
        phase'.work w.notified < phase.work w.notified)
      (hdraining : w'.draining = w.draining) (hnotified : w'.notified = w.notified)
  | drain {task : TaskId} {phase : WaitPhase} (hp : w.draining.lookup task = some phase)
      (hcalls : w'.calls = w.calls) (hstopping : w'.stopping = w.stopping)
      (hdraining : w'.draining = w.draining.erase task ∨ ∃ phase',
        w'.draining = w.draining.insert task phase' ∧
          phase'.work w.notified < phase.work w.notified)
      (hnotified : w'.notified = w.notified)

theorem CallPhase.work_pos (phase : CallPhase) : 0 < phase.work := by
  cases phase <;> simp [work]

theorem WaitPhase.work_pos (n : Nat) (phase : WaitPhase) : 0 < phase.work n := by
  cases phase with
  | top => simp [work]
  | created seen =>
      simp only [work]
      split_ifs <;> decide
  | parked seen =>
      simp only [work]
      split_ifs <;> decide
  | idle => simp [work]

/-- What a notification may cost a waiter. -/
theorem WaitPhase.work_le (n n' : Nat) (phase : WaitPhase) : phase.work n' ≤ phase.work n + 4 := by
  cases phase with
  | top => simp [work]
  | created seen =>
      simp only [work]
      split_ifs <;> decide
  | parked seen =>
      simp only [work]
      split_ifs <;> decide
  | idle => simp [work]

/-- A poll gets on. -/
theorem World.pollWait_lt {w : World} {phase phase' : WaitPhase}
    (h : w.pollWait phase = some phase') : phase'.work w.notified < phase.work w.notified := by
  cases phase with
  | top =>
      cases h
      simp [WaitPhase.work]
  | created seen =>
      simp only [pollWait] at h
      split_ifs at h with hidle
      · cases h
        simp only [WaitPhase.work]
        split_ifs <;> decide
      · cases h
        simp only [WaitPhase.work]
        split_ifs <;> decide
  | parked seen =>
      simp only [pollWait, Option.ite_none_right_eq_some] at h
      obtain ⟨hne, h⟩ := h
      cases h
      simp [WaitPhase.work, hne]
  | idle => cases h

/-- A step that gets on leaves less to do. -/
theorem World.Advances.work_lt {w w' : World} {a : Action} (h : w.Advances a w') :
    w'.work < w.work := by
  cases h with
  | @frame task call phase hl hlt hcalls hstopping hdraining hnotified =>
      have hcall := w.calls.weight_of_lookup (fun call => call.phase.work) hl
      have hcall' := w.calls.weight_insert (fun call => call.phase.work) task { call with phase }
      simp only [work, waiters, waiting, hcalls, hstopping, hdraining, hnotified]
      refine Nat.add_lt_add_right (Nat.mul_lt_mul_of_pos_right ?_ (Nat.succ_pos _)) _
      rw [hcall, hcall']
      exact Nat.add_lt_add_right hlt _
  | @ended task call hl hcalls hstopping hdraining =>
      have hcall := w.calls.weight_of_lookup (fun call => call.phase.work) hl
      have hpos := call.phase.work_pos
      have hwaiting : w'.waiting ≤ w.waiting + 4 * w.waiters := by
        have hdrain := AList.weight_le_add (WaitPhase.work_le w.notified w'.notified) w.draining
        simp only [waiting, waiters, hstopping, hdraining]
        cases w.stopping with
        | none => simpa using hdrain
        | some phase =>
            have hphase := phase.work_le w.notified w'.notified
            simp only [Option.map_some, Option.getD_some, Option.isSome_some, ↓reduceIte]
            omega
      have hwaiters : w'.waiters = w.waiters := by rw [waiters, waiters, hstopping, hdraining]
      simp only [work, hcalls, hwaiters, hcall]
      have hmul : ((w.calls.erase task).weight fun call => call.phase.work) *
            (4 * w.waiters + 1) + (4 * w.waiters + 1) ≤
          (call.phase.work + (w.calls.erase task).weight fun call => call.phase.work) *
            (4 * w.waiters + 1) := by
        rw [← Nat.succ_mul]
        exact Nat.mul_le_mul_right _ (by omega)
      omega
  | @stop phase hp _ hcalls hstopping hdraining hnotified =>
      have hpos := phase.work_pos w.notified
      have hwaiters : w'.waiters ≤ w.waiters := by
        rw [waiters, waiters, hdraining, hp, Option.isSome_some, if_pos rfl]
        split_ifs
        · exact le_rfl
        · omega
      have hwaiting : w'.waiting < w.waiting := by
        simp only [waiting, hdraining, hnotified, hp, Option.map_some, Option.getD_some]
        cases hp' : w'.stopping with
        | none => simpa using hpos
        | some phase' => exact Nat.add_lt_add_right (hstopping phase' hp') _
      simp only [work, hcalls]
      exact Nat.add_lt_add_of_le_of_lt (Nat.mul_le_mul_left _ (by omega)) hwaiting
  | @drain task phase hp hcalls hstopping hdraining hnotified =>
      have hpos := phase.work_pos w.notified
      have hone := w.draining.weight_of_lookup (fun _ => 1) hp
      have hphase := w.draining.weight_of_lookup (WaitPhase.work w.notified) hp
      have hwaiters : w'.waiters ≤ w.waiters := by
        rw [waiters, waiters, hstopping]
        rcases hdraining with hdraining | ⟨phase', hdraining, -⟩
        · rw [hdraining]
          omega
        · rw [hdraining, AList.weight_insert]
          omega
      have hwaiting : w'.waiting < w.waiting := by
        rw [waiting, waiting, hstopping, hnotified]
        rcases hdraining with hdraining | ⟨phase', hdraining, hlt⟩
        · rw [hdraining]
          omega
        · rw [hdraining, AList.weight_insert]
          omega
      simp only [work, hcalls]
      exact Nat.add_lt_add_of_le_of_lt (Nat.mul_le_mul_left _ (by omega)) hwaiting

/-- Every internal step gets on. -/
theorem World.next_advances {w w' : World} {a : Action} {r : Report} (ha : a.Internal)
    (hn : w.next a = some (r, w')) : w.Advances a w' := by
  cases a with
  | callProvider task =>
      simp only [next, Option.bind_eq_some_iff, Option.ite_none_right_eq_some,
        Option.some.injEq, Prod.mk.injEq] at hn
      obtain ⟨call, hl, hphase, -, rfl⟩ := hn
      exact .frame .calling hl (by simp [hphase, CallPhase.work]) rfl rfl rfl rfl
  | select task branch =>
      simp only [next, Option.bind_eq_some_iff, World.select, Option.ite_none_right_eq_some,
        Option.map_eq_some_iff, Prod.mk.injEq] at hn
      obtain ⟨call, hl, hphase, terminal, -, -, rfl⟩ := hn
      refine .frame _ hl ?_ rfl rfl rfl rfl
      rcases hphase with hphase | hphase
      · simp [hphase, CallPhase.work]
      · simp [hphase, CallPhase.work]
  | complete task =>
      simp only [next, Option.bind_eq_some_iff] at hn
      obtain ⟨call, hl, hn⟩ := hn
      split at hn
      next proposed hphase =>
        rw [World.complete] at hn
        split at hn
        · cases hn
          exact .frame .notifying hl (by simp [hphase, CallPhase.work]) rfl rfl rfl rfl
        · cases hn
          exact .frame .dropping hl (by simp [hphase, CallPhase.work]) rfl rfl rfl rfl
      · cases hn
  | abort task =>
      simp only [next, Option.bind_eq_some_iff, Option.ite_none_right_eq_some,
        Option.some.injEq, Prod.mk.injEq] at hn
      obtain ⟨call, hl, hphase, -, rfl⟩ := hn
      refine .frame .dropping hl ?_ rfl rfl rfl rfl
      rcases hphase with hphase | hphase
      · simp [hphase, CallPhase.work]
      · simp [hphase, CallPhase.work]
  | dropGuard task =>
      simp only [next, Option.bind_eq_some_iff, Option.ite_none_right_eq_some,
        Option.some.injEq] at hn
      obtain ⟨call, hl, hphase, hn⟩ := hn
      rw [World.dropGuard] at hn
      split at hn
      · cases hn
        exact .frame .notifying hl (by simp [hphase, CallPhase.work]) rfl rfl rfl rfl
      · cases hn
        exact .ended hl rfl rfl rfl
      · cases hn
        exact .ended hl rfl rfl rfl
  | notify task =>
      simp only [next, Option.bind_eq_some_iff, Option.ite_none_right_eq_some,
        Option.some.injEq, Prod.mk.injEq] at hn
      obtain ⟨call, hl, -, -, rfl⟩ := hn
      exact .ended hl rfl rfl rfl
  | stopPoll =>
      simp only [next, Option.map_eq_some_iff, Option.bind_eq_some_iff, Prod.mk.injEq] at hn
      obtain ⟨phase', ⟨phase, hphase, hpoll⟩, -, rfl⟩ := hn
      refine .stop hphase (.inl ⟨rfl, rfl⟩) rfl ?_ rfl rfl
      rintro _ ⟨⟩
      exact pollWait_lt hpoll
  | stopInterrupted =>
      simp only [next] at hn
      split at hn
      next seen hphase =>
        cases hn
        refine .stop hphase (.inr (.inl rfl)) rfl ?_ rfl rfl
        intro _ hnone
        cases hnone
      · cases hn
  | stopFinish =>
      simp only [next, Option.ite_none_right_eq_some, Option.some.injEq, Prod.mk.injEq] at hn
      obtain ⟨hphase, -, rfl⟩ := hn
      refine .stop hphase (.inr (.inr rfl)) rfl ?_ rfl rfl
      intro _ hnone
      cases hnone
  | deactivatePoll task =>
      simp only [next, Option.map_eq_some_iff, Option.bind_eq_some_iff] at hn
      obtain ⟨phase', ⟨phase, hphase, hpoll⟩, hn⟩ := hn
      split at hn
      · cases hn
        exact .drain hphase rfl rfl (.inl rfl) rfl
      · cases hn
        exact .drain hphase rfl rfl (.inr ⟨_, rfl, pollWait_lt hpoll⟩) rfl
  | deactivateInterrupted task =>
      simp only [next] at hn
      split at hn
      next seen hphase =>
        cases hn
        exact .drain hphase rfl rfl (.inl rfl) rfl
      · cases hn
  | _ => exact ha.elim

/-! ## Coming to rest -/

/-- No future of the service can move. -/
def World.Rests (w : World) : Prop := ∀ a r w', a.Internal → w.next a ≠ some (r, w')

/-- The next step of a frame, whatever the provider does. -/
def Call.step (task : TaskId) (call : Call) : Action :=
  match call.phase with
  | .admitted => .callProvider task
  | .calling => .select task .timedOut
  | .decided _ => .complete task
  | .dropping => .dropGuard task
  | .notifying => .notify task

theorem Call.step_internal (task : TaskId) (call : Call) : (call.step task).Internal := by
  rw [step]
  cases call.phase <;> exact trivial

/-- Every frame can move. -/
theorem World.frame_moves {w : World} {task : TaskId} {call : Call}
    (hl : w.calls.lookup task = some call) : (w.next (call.step task)).isSome := by
  rw [Call.step]
  cases hphase : call.phase with
  | admitted => simp [next, hl, hphase]
  | calling => simp [next, hl, World.select, proposal, hphase]
  | decided proposed => simp [next, hl, hphase]
  | dropping => simp [next, hl, hphase]
  | notifying => simp [next, hl, hphase]

theorem Waiter.step_internal (x : Waiter) (phase : WaitPhase) : (x.step phase).Internal := by
  cases x with
  | stop => cases phase <;> exact trivial
  | drain task => exact trivial

/-- Every future is gone, and no Turn is active. -/
structure World.AtRest (w : World) : Prop where
  calls : ∀ task, w.calls.lookup task = none
  idle : w.state.activeTurn = none
  waiters : ∀ x, w.waiter x = none

theorem World.Reachable.wakeful {w : World} (h : w.Reachable) : w.Wakeful := by
  obtain ⟨provider, hr⟩ := h
  exact (hr.invariant (I := fun w => w.Inv ∧ w.Wakeful) Event.wakeful
    ⟨World.created_inv provider, World.created_wakeful provider⟩).2

theorem World.Reachable.atRest {w : World} (h : w.Reachable) (hrests : w.Rests) : w.AtRest := by
  have hcalls : ∀ task, w.calls.lookup task = none := by
    intro task
    by_contra hsome
    obtain ⟨call, hl⟩ := Option.ne_none_iff_exists'.mp hsome
    obtain ⟨⟨r, w'⟩, hnext⟩ := Option.isSome_iff_exists.mp (frame_moves hl)
    exact hrests _ r w' (call.step_internal task) hnext
  have hidle : w.state.activeTurn = none := by
    by_contra hsome
    obtain ⟨⟨s, t, flag⟩, hactive⟩ := Option.ne_none_iff_exists'.mp hsome
    obtain ⟨task, call, hl, -⟩ := (h.inv.slot.armed s t).mp ⟨flag, hactive⟩
    cases (hcalls task).symm.trans hl
  refine ⟨hcalls, hidle, fun x => ?_⟩
  by_contra hsome
  obtain ⟨phase, hphase⟩ := Option.ne_none_iff_exists'.mp hsome
  have hquiet : ¬ w.Pending := by
    rintro (hactive | ⟨task, call, hl, -⟩)
    · rw [hidle] at hactive
      cases hactive
    · cases (hcalls task).symm.trans hl
  obtain ⟨⟨r, w'⟩, hnext⟩ := Option.isSome_iff_exists.mp (h.wakeful.moves hphase hquiet)
  exact hrests _ r w' (x.step_internal phase) hnext

/-! ## A stop returns -/

/-- A stop that waits goes on waiting, is interrupted or returns. -/
theorem Event.stop_waits {x : Event} (hx : service.Takes x) (ha : x.act.Internal)
    (hs : x.pre.stopping.isSome) :
    x.post.stopping.isSome ∨ x.act = .stopInterrupted ∨
      x.act = .stopFinish ∧ x.report = .done ∧ x.post.state.lifecycle = .stopped := by
  cases World.next_advances ha hx with
  | frame _ _ _ _ hstopping _ _ => exact .inl (hstopping ▸ hs)
  | ended _ _ hstopping _ => exact .inl (hstopping ▸ hs)
  | drain _ _ hstopping _ _ => exact .inl (hstopping ▸ hs)
  | stop _ hact _ _ _ _ =>
      rcases hact with ⟨-, hpost⟩ | hact | hact
      · exact .inl hpost
      · exact .inr (.inl hact)
      · rw [Transition.System.Takes, hact] at hx
        simp only [service, World.next, Option.ite_none_right_eq_some, Option.some.injEq,
          Prod.mk.injEq] at hx
        obtain ⟨-, hreport, hpost⟩ := hx
        exact .inr (.inr ⟨hact, hreport.symm, hpost ▸ rfl⟩)

theorem ServiceLifecycle.stopped_of_rank {l : ServiceLifecycle}
    (h : ServiceLifecycle.stopped.rank ≤ l.rank) : l = .stopped := by
  cases l <;> simp [rank] at h ⊢

theorem Event.stopped {x : Event} (hx : service.Takes x) (h : x.pre.Inv)
    (hs : x.pre.state.lifecycle = .stopped) : x.post.state.lifecycle = .stopped := by
  have hle := (Event.change hx h).rank_le
  rw [hs] at hle
  exact ServiceLifecycle.stopped_of_rank hle

/-- Left to itself, every reachable service comes to rest: a run of internal steps is no
longer than what is left to do, some run of them comes to rest, and where none of them can
be taken every call has returned, every waiter has, and no Turn is active.  A stop that
waits and is not interrupted has then returned `Ok`, and the service is stopped. -/
theorem World.Reachable.drains {w : World} (h : w.Reachable) :
    (∀ tr w', service.Run w tr w' → (∀ x ∈ tr, x.act.Internal) → tr.length ≤ w.work) ∧
    (∃ tr w', service.Run w tr w' ∧ (∀ x ∈ tr, x.act.Internal) ∧ w'.Rests) ∧
    ∀ tr w', service.Run w tr w' → (∀ x ∈ tr, x.act.Internal) → w'.Rests →
      w'.AtRest ∧
      (w.stopping.isSome → (∀ x ∈ tr, x.act ≠ .stopInterrupted) →
        w'.state.lifecycle = .stopped ∧ ∃ x ∈ tr, x.act = .stopFinish ∧ x.report = .done) := by
  have hstep : ∀ x, service.Takes x → x.act.Internal → x.post.work < x.pre.work :=
    fun x hx ha => (World.next_advances ha hx).work_lt
  refine ⟨fun tr w' hrun ha => ?_, ?_, fun tr w' hrun ha hrests => ?_⟩
  · exact Nat.le_of_add_right_le (hrun.length_le hstep ha)
  · obtain ⟨tr, w', hrun, ha, hdone⟩ := service.exists_rest hstep w
    exact ⟨tr, w', hrun, ha, fun a r w'' hi hn => hdone ⟨w', a, r, w''⟩ hn rfl hi⟩
  · obtain ⟨provider, hr⟩ := h
    have hrest : w'.AtRest := World.Reachable.atRest ⟨provider, hr.run hrun⟩ hrests
    refine ⟨hrest, fun hs hkept => ?_⟩
    have hgone : w'.stopping = none := hrest.waiters .stop
    have huntil := hrun.until (I := World.Inv) (P := fun w => w.stopping.isSome)
      (Q := fun x => ¬ x.act.Internal ∨ x.act = .stopInterrupted ∨
        x.act = .stopFinish ∧ x.report = .done ∧ x.post.state.lifecycle = .stopped)
      Event.inv (fun x hx _ hp => ?_) (World.Reachable.inv ⟨provider, hr⟩) hs
    · rcases huntil with hend | ⟨tr₁, x, tr₂, rfl, -, hQ⟩
      · simp [hgone] at hend
      · have hmem : x ∈ tr₁ ++ x :: tr₂ := List.mem_append_right _ List.mem_cons_self
        obtain ⟨h₁, hx, h₂⟩ := hrun.at
        rcases hQ with hforeign | hinterrupted | ⟨hact, hdone, hstopped⟩
        · exact absurd (ha x hmem) hforeign
        · exact absurd hinterrupted (hkept x hmem)
        · have hinv : x.pre.Inv := World.Reachable.inv ⟨provider, hr.run h₁⟩
          refine ⟨(h₂.invariant (I := fun w => w.Inv ∧ w.state.lifecycle = .stopped) ?_
            ⟨Event.inv x hx hinv, hstopped⟩).2, x, hmem, hact, hdone⟩
          rintro y hy ⟨hyinv, hystopped⟩
          exact ⟨Event.inv y hy hyinv, Event.stopped hy hyinv hystopped⟩
    · by_cases hi : x.act.Internal
      · exact (Event.stop_waits hx hi hp).imp_right .inr
      · exact .inr (.inl hi)

/-- A stop that waits for a Turn just admitted. -/
theorem World.Reachable.drains_stop :
    ∃ w : World, w.Reachable ∧ w.stopping = some .top ∧ w.work = 29 ∧
      ∃ tr w', service.Run w tr w' ∧ (∀ x ∈ tr, x.act.Internal) ∧ tr.length ≤ 29 ∧
        w'.AtRest := by
  obtain ⟨tr, w, hrun, -, hw⟩ := service.exec_any (World.created .deterministic)
    [.start, .activateProfile ⟨⟨1⟩⟩ ⟨BUILTIN_AGENT_DEFINITION⟩ "p",
      .submitTurn 0 ⟨⟨1⟩⟩ ⟨⟨2⟩⟩ "a" 1, .stop]
    (fun q => q.2.stopping = some .top ∧ q.2.work = 29) (by decide +kernel)
  obtain ⟨hstopping, hwork⟩ := of_decide_eq_true hw
  have hreach : w.Reachable := ⟨.deterministic, tr, hrun⟩
  obtain ⟨hbound, ⟨tr', w', hrun', ha, hrests⟩, hrest⟩ := hreach.drains
  exact ⟨w, hreach, hstopping, hwork, tr', w', hrun', ha, hwork ▸ hbound tr' w' hrun' ha,
    (hrest tr' w' hrun' ha hrests).1⟩

end Paraegox.Agent
