import Paraegox.Agent.ServiceMetatheory

/-!
# No lost wakeup

A guard clears the active Turn under the lock and notifies the waiters after it has
released it.  A waiter creates its `Notified` future, reads the slot under the lock and
only then parks.  So as long as a waiter is parked and no notification came, the Turn is
still active or the guard that cleared it is between its two steps.
-/

namespace Paraegox.Agent

/-! ## Waiters -/

/-- A future in `wait_until_idle`. -/
inductive Waiter where
  /-- The `stop` future. -/
  | stop
  /-- A `deactivate_profile` future. -/
  | drain (task : TaskId)

/-- Where a waiter stands. -/
def World.waiter (w : World) : Waiter → Option WaitPhase
  | .stop => w.stopping
  | .drain task => w.draining.lookup task

/-- The label of the next step of a waiter. -/
def Waiter.step : Waiter → WaitPhase → Action
  | .stop, .idle => .stopFinish
  | .stop, _ => .stopPoll
  | .drain task, _ => .deactivatePoll task

/-- The guard of a frame cleared the active Turn and has still to notify. -/
def World.Notifying (w : World) (task : TaskId) : Prop :=
  ∃ call, w.calls.lookup task = some call ∧ call.phase = .notifying

/-- A notification is still to come. -/
def World.Pending (w : World) : Prop :=
  w.state.activeTurn.isSome ∨ ∃ task, w.Notifying task

/-- What a waiter relies on. -/
def World.Awaits (w : World) : WaitPhase → Prop
  | .top | .idle => True
  | .created seen => seen ≤ w.notified
  | .parked seen => seen ≤ w.notified ∧ (seen = w.notified → w.Pending)

/-- Every waiter may rely on it, and a drained future has returned. -/
structure World.Wakeful (w : World) : Prop where
  awaits : ∀ x phase, w.waiter x = some phase → w.Awaits phase
  drained : ∀ task, w.draining.lookup task ≠ some .idle

/-! ## What a step does to the notification -/

theorem World.Change.notified_le {w w' : World} {a : Action} {r : Report}
    (hc : w.Change a r w') : w.notified ≤ w'.notified := by
  cases hc with
  | notified _ _ => exact Nat.le_succ _
  | _ => exact le_rfl

/-- A frame that has still to notify stays until it notifies. -/
theorem World.Change.notifying {w w' : World} {a : Action} {r : Report} (hc : w.Change a r w')
    {task : TaskId} (h : w.Notifying task) : w'.Notifying task ∨ w.notified < w'.notified := by
  obtain ⟨call, hl, hp⟩ := h
  have hkeep : ∀ {task' : TaskId} {call' call'' : Call}, w.calls.lookup task' = some call' →
      call'.phase ≠ .notifying → (w.calls.insert task' call'').lookup task = some call := by
    intro task' call' call'' hl' hp'
    have hne : task ≠ task' := by
      rintro rfl
      cases hl.symm.trans hl'
      exact hp' hp
    rw [AList.lookup_insert_ne hne, hl]
  cases hc with
  | admitted htask _ _ _ _ _ _ _ =>
      have hmem : task ∈ w.calls := AList.lookup_isSome.mp (by simp [hl])
      exact .inl ⟨call, by rw [AList.lookup_insert_ne (ne_of_mem_of_not_mem hmem htask), hl], hp⟩
  | called hl' hp' => exact .inl ⟨call, hkeep hl' (by simp [hp']), hp⟩
  | left _ hl' hp' _ =>
      refine .inl ⟨call, hkeep hl' ?_, hp⟩
      rcases hp' with hp' | hp' <;> simp [hp']
  | settled hl' harmed _ _ _ =>
      refine .inl ⟨call, hkeep hl' fun hp' => ?_, hp⟩
      simp [Call.armed, hp'] at harmed
  | notified _ _ => exact .inr (Nat.lt_succ_self _)
  | _ => exact .inl ⟨call, hl, hp⟩

/-- An active Turn stays until a guard clears it, and that guard has still to notify. -/
theorem World.Change.cleared {w w' : World} {a : Action} {r : Report} (hc : w.Change a r w')
    (h : w.state.activeTurn.isSome) : w'.state.activeTurn.isSome ∨
      w'.state.activeTurn = none ∧
        ∃ task, (a = .complete task ∨ a = .dropGuard task) ∧ w'.Notifying task := by
  cases hc with
  | stopping _ _ | dropped _ _ | deactivated _ | flagged _ =>
      exact .inl (by simpa [AgentState.cancelActiveTurn] using h)
  | overflowed _ _ _ _ hidle _ _ => simp [hidle] at h
  | admitted _ _ _ _ _ _ _ _ => exact .inl rfl
  | tombstoned _ _ _ _ _ => exact .inl (by simpa using h)
  | @settled _ _ task call _ _ hl _ _ _ hact =>
      refine .inr ⟨rfl, task, ?_, { call with phase := .notifying }, AList.lookup_insert _, rfl⟩
      exact hact.imp And.left And.left
  | _ => exact .inl h

theorem World.Change.still_pending {w w' : World} {a : Action} {r : Report} (hc : w.Change a r w')
    (h : w.Pending) : w'.Pending ∨ w.notified < w'.notified := by
  rcases h with hactive | ⟨task, hnotifying⟩
  · rcases hc.cleared hactive with hactive' | ⟨-, task, -, hnotifying'⟩
    · exact .inl (.inl hactive')
    · exact .inl (.inr ⟨task, hnotifying'⟩)
  · exact (hc.notifying hnotifying).imp_left fun hnotifying' => .inr ⟨task, hnotifying'⟩

/-- What a waiter relies on is left alone by the steps of all others. -/
theorem World.Change.awaits {w w' : World} {a : Action} {r : Report} (hc : w.Change a r w')
    {phase : WaitPhase} (h : w.Awaits phase) : w'.Awaits phase := by
  have hle := hc.notified_le
  cases phase with
  | top => trivial
  | created seen => exact le_trans h hle
  | parked seen =>
      obtain ⟨hseen, hpending⟩ := h
      refine ⟨hseen.trans hle, fun heq => ?_⟩
      rcases hc.still_pending (hpending (le_antisymm hseen (heq ▸ hle))) with hpending' | hlt
      · exact hpending'
      · omega
  | idle => trivial

/-! ## What a step does to a waiter -/

theorem World.pollWait_awaits {w : World} {phase phase' : WaitPhase} (h : w.Awaits phase)
    (hp : w.pollWait phase = some phase') : w.Awaits phase' := by
  cases phase with
  | top =>
      cases hp
      exact le_refl w.notified
  | created seen =>
      simp only [pollWait] at hp
      split_ifs at hp with hidle
      · cases hp
        trivial
      · cases hp
        exact ⟨h, fun _ => .inl (by simpa [Option.isSome_iff_ne_none] using hidle)⟩
  | parked seen =>
      simp only [pollWait] at hp
      split_ifs at hp
      cases hp
      trivial
  | idle => cases hp

/-- How a waiter came to where it stands after a step. -/
inductive World.Waits (w w' : World) (x : Waiter) (phase : WaitPhase) : Prop where
  /-- It was there. -/
  | stayed : w.waiter x = some phase → Waits w w' x phase
  /-- It has just begun to wait. -/
  | began : phase = .top → Waits w w' x phase
  /-- It took a step of its own. -/
  | polled (before : WaitPhase) : w.waiter x = some before → w.pollWait before = some phase →
      (phase = .idle → x = .stop) → w'.state = w.state → Waits w w' x phase

theorem lookup_insert_cases {β : Type} {m : AList fun _ : TaskId => β} {task task' : TaskId}
    {b b' : β} (h : (m.insert task b).lookup task' = some b') :
    task' = task ∧ b' = b ∨ m.lookup task' = some b' := by
  by_cases heq : task' = task
  · subst heq
    rw [AList.lookup_insert] at h
    exact .inl ⟨rfl, (Option.some.inj h).symm⟩
  · exact .inr (by rwa [AList.lookup_insert_ne heq] at h)

theorem lookup_of_erase {β : Type} {m : AList fun _ : TaskId => β} {task task' : TaskId}
    {b : β} (h : (m.erase task).lookup task' = some b) : m.lookup task' = some b := by
  by_cases heq : task' = task
  · subst heq
    simp at h
  · rwa [AList.lookup_erase_ne heq] at h

/-- A step that is no step of a waiter only starts waiters or ends them. -/
theorem World.Change.waits {w w' : World} {a : Action} {r : Report} (hc : w.Change a r w')
    (ha : ¬ a.Waits) {x : Waiter} {phase : WaitPhase} (hp : w'.waiter x = some phase) :
    w.Waits w' x phase := by
  cases hc with
  | waited _ _ hwaits _ _ => exact absurd hwaits ha
  | stopped _ _ _ =>
      cases x with
      | stop => cases hp
      | drain task => exact .stayed hp
  | stopping _ _ =>
      cases x with
      | stop => exact .began (Option.some.inj hp).symm
      | drain task => exact .stayed hp
  | deactivated _ =>
      cases x with
      | stop => exact .stayed hp
      | drain task =>
          rcases lookup_insert_cases hp with ⟨-, rfl⟩ | hp'
          · exact .began rfl
          · exact .stayed hp'
  | _ => exact .stayed hp

theorem World.next_waits {w w' : World} (h : w.Inv) {a : Action} {r : Report}
    (hn : w.next a = some (r, w')) {x : Waiter} {phase : WaitPhase}
    (hp : w'.waiter x = some phase) : w.Waits w' x phase := by
  have hother : ¬ a.Waits → w.Waits w' x phase := fun ha => (next_change h hn).waits ha hp
  cases a with
  | stopPoll =>
      simp only [next, Option.map_eq_some_iff, Option.bind_eq_some_iff, Prod.mk.injEq] at hn
      obtain ⟨phase', ⟨before, hbefore, hpoll⟩, rfl, rfl⟩ := hn
      cases x with
      | stop =>
          cases hp
          exact .polled before hbefore hpoll (fun _ => rfl) rfl
      | drain task => exact .stayed hp
  | stopInterrupted =>
      simp only [next] at hn
      split at hn
      · cases hn
        cases x with
        | stop => cases hp
        | drain task => exact .stayed hp
      · cases hn
  | deactivatePoll task =>
      simp only [next, Option.map_eq_some_iff, Option.bind_eq_some_iff] at hn
      obtain ⟨phase', ⟨before, hbefore, hpoll⟩, hn⟩ := hn
      split at hn
      · cases hn
        cases x with
        | stop => exact .stayed hp
        | drain task' => exact .stayed (lookup_of_erase hp)
      · next hidle =>
          cases hn
          cases x with
          | stop => exact .stayed hp
          | drain task' =>
              rcases lookup_insert_cases hp with ⟨rfl, rfl⟩ | hp'
              · exact .polled before hbefore hpoll (fun heq => absurd heq hidle) rfl
              · exact .stayed hp'
  | deactivateInterrupted task =>
      simp only [next] at hn
      split at hn
      · cases hn
        cases x with
        | stop => exact .stayed hp
        | drain task' => exact .stayed (lookup_of_erase hp)
      · cases hn
  | _ => exact hother id

/-! ## The invariant of the waiters -/

theorem World.created_wakeful (provider : CompletionProvider) :
    (World.created provider).Wakeful where
  awaits x phase hp := by cases x <;> cases hp
  drained task hp := by cases hp

theorem Event.wakeful (x : Event) (hx : service.Takes x) (h : x.pre.Inv ∧ x.pre.Wakeful) :
    x.post.Inv ∧ x.post.Wakeful := by
  obtain ⟨hinv, hwakeful⟩ := h
  have hchange := change hx hinv
  refine ⟨inv x hx hinv, fun y phase hp => ?_, fun task hp => ?_⟩
  · rcases World.next_waits hinv hx hp with hstayed | rfl | ⟨before, hbefore, hpoll, -, -⟩
    · exact hchange.awaits (hwakeful.awaits y phase hstayed)
    · trivial
    · exact hchange.awaits (World.pollWait_awaits (hwakeful.awaits y before hbefore) hpoll)
  · rcases World.next_waits hinv hx (x := .drain task) hp with hstayed | heq | ⟨_, _, _, hstop, -⟩
    · exact hwakeful.drained task hstayed
    · cases heq
    · cases hstop rfl

theorem World.Wakeful.moves {w : World} (h : w.Wakeful) {x : Waiter} {phase : WaitPhase}
    (hp : w.waiter x = some phase) (hpending : ¬ w.Pending) : (w.next (x.step phase)).isSome := by
  have hpoll : phase ≠ .idle → ∃ phase', w.pollWait phase = some phase' := by
    intro hidle
    cases phase with
    | top => exact ⟨_, rfl⟩
    | created seen =>
        simp only [World.pollWait]
        split_ifs
        · exact ⟨_, rfl⟩
        · exact ⟨_, rfl⟩
    | parked seen =>
        have hne : seen ≠ w.notified := fun heq => hpending ((h.awaits x _ hp).2 heq)
        exact ⟨_, if_pos hne⟩
    | idle => exact absurd rfl hidle
  cases x with
  | stop =>
      by_cases hidle : phase = .idle
      · subst hidle
        have hstopping : w.stopping = some .idle := hp
        simp [Waiter.step, World.next, hstopping]
      · obtain ⟨phase', hphase'⟩ := hpoll hidle
        have hstep : Waiter.stop.step phase = .stopPoll := by
          cases phase <;> first | rfl | exact absurd rfl hidle
        have hstopping : w.stopping = some phase := hp
        simp [hstep, World.next, hstopping, hphase']
  | drain task =>
      have hlookup : w.draining.lookup task = some phase := hp
      have hidle : phase ≠ .idle := by
        rintro rfl
        exact h.drained task hlookup
      obtain ⟨phase', hphase'⟩ := hpoll hidle
      simp [Waiter.step, World.next, hlookup, hphase']

/-! ## Parked without a notification -/

/-- The waiter finds the slot taken and parks. -/
structure Event.Parks (x : Event) (waiter : Waiter) (seen : Nat) : Prop where
  pre : x.pre.waiter waiter = some (.created seen)
  post : x.post.waiter waiter = some (.parked seen)

/-- The guard in the frame clears the active Turn. -/
structure Event.Clears (x : Event) (task : TaskId) : Prop where
  act : x.act = .complete task ∨ x.act = .dropGuard task
  active : x.pre.state.activeTurn.isSome
  cleared : x.post.state.activeTurn = none

theorem Event.Parks.active {x : Event} {waiter : Waiter} {seen : Nat} (h : x.Parks waiter seen)
    (hx : service.Takes x) (hinv : x.pre.Inv) : x.post.state.activeTurn.isSome := by
  rcases World.next_waits hinv hx h.post with hstayed | heq | ⟨before, hbefore, hpoll, -, hstate⟩
  · cases h.pre.symm.trans hstayed
  · cases heq
  · cases h.pre.symm.trans hbefore
    simp only [World.pollWait] at hpoll
    split_ifs at hpoll with hidle
    · cases hpoll
    · simpa [hstate, Option.isSome_iff_ne_none] using hidle

theorem Event.Clears.notifying {x : Event} {task : TaskId} (h : x.Clears task)
    (hx : service.Takes x) (hinv : x.pre.Inv) : x.post.Notifying task := by
  rcases (change hx hinv).cleared h.active with hactive | ⟨-, task', hact, hnotifying⟩
  · simp [h.cleared] at hactive
  · rcases h.act with ha | ha <;> rw [ha] at hact <;> rcases hact with heq | heq <;> cases heq <;>
      exact hnotifying

theorem Event.notified_lt {x : Event} (hx : service.Takes x) {task : TaskId}
    (ha : x.act = .notify task) : x.pre.notified < x.post.notified := by
  obtain ⟨w, a, r, w'⟩ := x
  subst ha
  have hn : w.next (.notify task) = some (r, w') := hx
  simp only [World.next, Option.bind_eq_some_iff, Option.ite_none_right_eq_some, Option.some.injEq,
    Prod.mk.injEq] at hn
  obtain ⟨_, -, -, -, rfl⟩ := hn
  exact Nat.lt_succ_self _

theorem run_notified_le {w w' : World} {tr : List Event} (h : service.Run w tr w')
    (hinv : w.Inv) : w.notified ≤ w'.notified :=
  h.monotone (C := fun _ => True) Event.inv (fun _ hx hI _ => (Event.change hx hI).notified_le)
    hinv fun _ _ => trivial

/-- As long as no notification came, every guard that cleared the active Turn has
still to notify. -/
theorem run_notifying {w w' : World} {tr : List Event} (h : service.Run w tr w') (hinv : w.Inv)
    {task : TaskId} (hw : w.Notifying task) (hle : w'.notified ≤ w.notified) :
    w'.Notifying task := by
  have hend : w'.Notifying task ∨ w.notified < w'.notified := by
    refine h.stable (P := fun m => w.notified ≤ m.notified ∧
      (m.Notifying task ∨ w.notified < m.notified)) (C := fun _ => True) Event.inv ?_ hinv
      (fun _ _ => trivial) ⟨le_rfl, .inl hw⟩ |>.2
    intro x hx hI _ hpre
    have hchange := Event.change hx hI
    have hmono := hchange.notified_le
    refine ⟨hpre.1.trans hmono, ?_⟩
    rcases hpre.2 with hnotifying | hlt
    · exact (hchange.notifying hnotifying).imp_right fun hlt => hpre.1.trans_lt hlt
    · exact .inr (hlt.trans_le hmono)
  exact hend.resolve_right (Nat.not_lt.mpr hle)

/-- In every reachable state with no active Turn and no guard between clearing and
notifying, every waiter can take its next step.  And where a waiter has parked and its
next step is not enabled, no guard has notified since its check: the Turn is active, or a
guard that cleared it after the check has still to notify. -/
theorem no_lost_wakeup {provider : CompletionProvider} {tr : List Event} {w : World}
    (h : service.Run (World.created provider) tr w) :
    (∀ waiter phase, w.waiter waiter = some phase → w.state.activeTurn = none →
      (∀ task, ¬ w.Notifying task) → (w.next (waiter.step phase)).isSome) ∧
    ∀ before check after waiter seen, tr = before ++ check :: after → check.Parks waiter seen →
      w.waiter waiter = some (.parked seen) → w.next (waiter.step (.parked seen)) = none →
      (∀ y ∈ after, ∀ task, y.act ≠ .notify task) ∧
        (∀ y ∈ after, ∀ task, y.Clears task → w.Notifying task) ∧
        (w.state.activeTurn.isSome ∨ ∃ y ∈ after, ∃ task, y.Clears task) := by
  have hcreated : (World.created provider).Inv := World.created_inv provider
  have hwakeful : ∀ {tr' w'}, service.Run (World.created provider) tr' w' → w'.Wakeful :=
    fun h' => (h'.invariant (I := fun m => m.Inv ∧ m.Wakeful) Event.wakeful
      ⟨hcreated, World.created_wakeful provider⟩).2
  refine ⟨fun waiter phase hp hidle hnone => ?_, ?_⟩
  · refine (hwakeful h).moves hp ?_
    rintro (hactive | ⟨task, hnotifying⟩)
    · simp [hidle] at hactive
    · exact hnone task hnotifying
  · rintro before check after waiter seen rfl hparks hparked hnone
    obtain ⟨h₁, hx, h₂⟩ := h.at
    have hpre : check.pre.Inv := h₁.invariant Event.inv hcreated
    have hpost : check.post.Inv := Event.inv check hx hpre
    have hend : w.notified = seen := by
      have hpoll : w.pollWait (.parked seen) = none := by
        cases waiter with
        | stop =>
            have hstopping : w.stopping = some (.parked seen) := hparked
            simpa [Waiter.step, World.next, hstopping] using hnone
        | drain task =>
            have hlookup : w.draining.lookup task = some (.parked seen) := hparked
            simpa [Waiter.step, World.next, hlookup] using hnone
      simpa [World.pollWait, eq_comm] using hpoll
    have hstart : seen ≤ check.post.notified := by
      have hrun : service.Run (World.created provider) (before ++ [check]) check.post :=
        h₁.append (.single hx)
      exact ((hwakeful hrun).awaits waiter _ hparks.post).1
    have hsplit : ∀ y ∈ after, ∃ tr₂, service.Takes y ∧ y.pre.Inv ∧ service.Run y.post tr₂ w ∧
        seen ≤ y.pre.notified := by
      intro y hy
      obtain ⟨tr₁, tr₂, rfl, hrun₁, hy', hrun₂⟩ := h₂.of_mem hy
      exact ⟨tr₂, hy', hrun₁.invariant Event.inv hpost, hrun₂,
        hstart.trans (run_notified_le hrun₁ hpost)⟩
    refine ⟨fun y hy task ha => ?_, fun y hy task hclears => ?_, ?_⟩
    · obtain ⟨tr₂, hy', hI, hrun₂, hle⟩ := hsplit y hy
      have := Event.notified_lt hy' ha
      have := run_notified_le hrun₂ (Event.inv y hy' hI)
      omega
    · obtain ⟨tr₂, hy', hI, hrun₂, hle⟩ := hsplit y hy
      have := (Event.change hy' hI).notified_le
      exact run_notifying hrun₂ (Event.inv y hy' hI) (hclears.notifying hy' hI) (by omega)
    · have hcleared (y : Event) (hy : service.Takes y) (hI : y.pre.Inv)
          (hactive : y.pre.state.activeTurn.isSome) : y.post.state.activeTurn.isSome ∨
          ∃ task, (y.act = .complete task ∨ y.act = .dropGuard task) ∧
            y.post.state.activeTurn = none := by
        rcases (Event.change hy hI).cleared hactive with hactive | ⟨hnone, task, hact, -⟩
        · exact .inl hactive
        · exact .inr ⟨task, hact, hnone⟩
      have huntil := h₂.until (P := fun m => m.state.activeTurn.isSome) Event.inv hcleared hpost
        (hparks.active hx hpre)
      rcases huntil with hactive | ⟨m₁, y, m₂, rfl, hactive, task, hact, hcleared⟩
      · exact .inl hactive
      · exact .inr ⟨y, by simp, task, hact, hactive, hcleared⟩

/-- The guard has cleared the Turn a stop waits for and has not notified: the stop is
parked, and the notification of that guard is what is left to come. -/
theorem no_lost_wakeup_parked :
    ∃ w : World, w.Reachable ∧ w.waiter .stop = some (.parked 0) ∧ w.next .stopPoll = none ∧
      w.state.activeTurn = none ∧ ∃ task, w.Notifying task := by
  obtain ⟨tr, w, hrun, hacts, htest⟩ := service.exec_any (World.created .deterministic)
    ([.start, .activateProfile ⟨⟨1⟩⟩ ⟨BUILTIN_AGENT_DEFINITION⟩ "p",
      .submitTurn 0 ⟨⟨1⟩⟩ ⟨⟨2⟩⟩ "a" 1, .stop, .stopPoll] ++
      .stopPoll :: [.select 0 .cancelled, .complete 0])
    (fun q => (q.1.drop 5).head?.any (fun x => x.pre.stopping = some (.created 0) ∧
        x.post.stopping = some (.parked 0)) &&
      q.2.stopping = some (.parked 0) && q.2.notified = 0 && q.2.state.activeTurn = none)
    (by decide +kernel)
  obtain ⟨before, rest, rfl, hbefore, hrest⟩ := List.map_eq_append_iff.mp hacts
  obtain ⟨check, after, rfl, -, -⟩ := List.map_eq_cons_iff.mp hrest
  have hlen : before.length = 5 := by simpa using congrArg List.length hbefore
  rw [← hlen, List.drop_left] at htest
  simp only [List.head?_cons, Option.any_some, Bool.and_eq_true, decide_eq_true_eq] at htest
  obtain ⟨⟨⟨⟨hpre, hpost⟩, hparked⟩, hnotified⟩, hidle⟩ := htest
  have hnone : w.next .stopPoll = none := by simp [World.next, hparked, World.pollWait, hnotified]
  obtain ⟨-, hall, hactive | ⟨y, hy, task, hclears⟩⟩ :=
    (no_lost_wakeup hrun).2 before check after .stop 0 rfl ⟨hpre, hpost⟩ hparked hnone
  · simp [hidle] at hactive
  · exact ⟨w, ⟨_, _, hrun⟩, hparked, hnone, hidle, task, hall y hy task hclears⟩

end Paraegox.Agent
