import Paraegox.Fabric.Service
import Paraegox.Lib.Around

/-!
# What a step of the service does

`World.Change` lists the outcomes of `World.next` by their effect on the queries.  The
invariants are read off it, one case for each outcome.
-/

namespace Paraegox.Fabric

open Paraegox.Runtime (RuntimeHostSnapshot)

/-- The start is over. -/
def Owner.Started : Owner → Prop
  | .declaring _ => False
  | _ => True

theorem Owner.started_of_or {owner a b : Owner} (h : owner = a ∨ owner = b) (ha : a.Started)
    (hb : b.Started) : owner.Started := by
  rcases h with rfl | rfl
  · exact ha
  · exact hb

/-- The steps of the owner other than a declaration and the spawn. -/
def Action.Governs : Action → Prop
  | .startFails | .openAdmission | .stop | .undeclare | .stopped | .stopInterrupted | .abort
  | .dropService => True
  | _ => False

theorem Action.Governs.delivered?_eq {a : Action} (h : a.Governs) : a.delivered? = none := by
  cases a with
  | deliver _ _ => cases h
  | _ => rfl

section

variable {η : Type} (w : World η)

/-- The outcomes of a step. -/
inductive World.Change : Action → Report η → World η → Prop where
  | declared {n : Nat} : w.owner = .declaring n → n < w.bindings.length →
      Change .declare .silent
        { w with
          owner := .declaring (n + 1)
          queryables := w.queryables ++ [n]
          closures := w.closures ++ [n] }
  | spawned : w.owner = .declaring w.bindings.length →
      Change .spawnDispatcher .silent { w with owner := .starting, dispatcher := .looping }
  | governed {a : Action} {owner : Owner} {open? : Bool} {queryables : List Nat} :
      a.Governs → w.owner.Started → owner.Started →
      Change a .silent { w with owner, admissionOpen := open?, queryables }
  | aborted {a : Action} {open? : Bool} {queryables : List Nat} : a.Governs →
      Change a .silent
        { w.dropReceiver with owner := .stopped, admissionOpen := open?, queryables }
  | released {binding : Nat} : binding ∈ w.closures →
      Change (.release binding) .silent { w with closures := w.closures.erase binding }
  | delivered {binding : Nat} {query : Query} : binding ∈ w.closures → query.id ∉ w.known →
      Change (.deliver binding query) .silent
        { w with callbacks := w.callbacks ++ [⟨⟨binding, query⟩, false⟩] }
  | refused {a : Action} {c : Callback} {l₁ l₂ : List Callback} {message : String} :
      a.delivered? = none → w.callbacks = l₁ ++ c :: l₂ →
      Change a (.replied c.admitted.query.id (.replyErr message))
        { w with callbacks := l₁ ++ l₂, replied := w.replied ++ [c.admitted.query.id] }
  | checked {k : Nat} {admitted : AdmittedQuery} {l₁ l₂ : List Callback} :
      w.callbacks = l₁ ++ ⟨admitted, false⟩ :: l₂ →
      Change (.checkAdmission k) .silent { w with callbacks := l₁ ++ ⟨admitted, true⟩ :: l₂ }
  | sent {k : Nat} {c : Callback} {l₁ l₂ : List Callback} :
      w.callbacks = l₁ ++ c :: l₂ → w.receiving → w.queue.length < INGRESS_CAPACITY →
      Change (.trySend k) .silent
        { w with callbacks := l₁ ++ l₂, queue := w.queue ++ [c.admitted] }
  | received {admitted : AdmittedQuery} {queue : List AdmittedQuery} :
      w.dispatcher = .looping → w.inFlight.length < MAX_IN_FLIGHT_REQUESTS →
      w.queue = admitted :: queue →
      Change .receive .silent { w with queue, dispatcher := .holding admitted }
  | drained : w.dispatcher = .looping → w.queue = [] → w.senders = false →
      Change .receive .silent { w with dispatcher := .draining }
  | dispatched {admitted : AdmittedQuery} {snapshot : RuntimeHostSnapshot} {handler : η} :
      w.dispatcher = .holding admitted → w.bindings[admitted.bindingIndex]? = some handler →
      Change (.dispatch snapshot) .silent
        { w with
          dispatcher := .looping
          inFlight := w.inFlight ++ [⟨admitted.query, handler, snapshot, .spawned⟩] }
  | panicked {admitted : AdmittedQuery} {snapshot : RuntimeHostSnapshot} :
      w.dispatcher = .holding admitted → w.bindings[admitted.bindingIndex]? = none →
      Change (.dispatch snapshot) .panicked w.dropReceiver
  | answered {a : Action} {task : Task η} {l₁ l₂ : List (Task η)} {reply : QueryReply} :
      a.delivered? = none → w.inFlight = l₁ ++ task :: l₂ → task.unanswered →
      Change a (.replied task.query.id reply)
        { w with
          inFlight := l₁ ++ { task with phase := .replying } :: l₂
          replied := w.replied ++ [task.query.id] }
  | called {k : Nat} {task : Task η} {l₁ l₂ : List (Task η)} :
      w.inFlight = l₁ ++ task :: l₂ → task.phase = .spawned → task.snapshot.state = .ready →
      Change (.serve k)
        (.handlerCalled task.query task.handler task.snapshot (task.query.payload.getD []))
        { w with inFlight := l₁ ++ { task with phase := .handling } :: l₂ }
  | finished {k : Nat} {task : Task η} {l₁ l₂ : List (Task η)} :
      w.inFlight = l₁ ++ task :: l₂ → task.phase = .replying →
      Change (.replyEnds k) .silent
        { w with inFlight := l₁ ++ { task with phase := .finished } :: l₂ }
  | joined {k : Nat} {task : Task η} {l₁ l₂ : List (Task η)} :
      w.inFlight = l₁ ++ task :: l₂ → task.phase = .finished →
      Change (.join k) .silent { w with inFlight := l₁ ++ l₂ }
  | exited : w.dispatcher = .draining → w.inFlight = [] →
      Change .exit .silent { w with dispatcher := .exited }
  | taskDropped {k : Nat} {task : Task η} {l₁ l₂ : List (Task η)} :
      w.dispatcher = .aborted → w.inFlight = l₁ ++ task :: l₂ →
      Change (.dropTask k) .silent
        { w with
          inFlight := l₁ ++ l₂
          dropped := w.dropped ++ if task.unanswered then [task.query.id] else [] }

end

/-! ## Inversion -/

section

variable {η : Type} {w w' : World η} {r : Report η}

theorem World.change_refuse {a : Action} {k : Nat} {c : Callback} {message : String}
    (hk : w.callbacks[k]? = some c) (ha : a.delivered? = none)
    (h : w.refuse k c.admitted.query.id message = (r, w')) : w.Change a r w' := by
  obtain ⟨l₁, l₂, hl, herase, -⟩ := around_of_getElem? hk
  simp only [World.refuse, Prod.mk.injEq] at h
  obtain ⟨rfl, rfl⟩ := h
  rw [herase]
  exact .refused ha hl

theorem World.change_answer {a : Action} {k : Nat} {task : Task η} {reply : QueryReply}
    (hk : w.inFlight[k]? = some task) (ha : a.delivered? = none) (ht : task.unanswered)
    (h : w.answer k task reply = (r, w')) : w.Change a r w' := by
  obtain ⟨l₁, l₂, hl, -, hset⟩ := around_of_getElem? hk
  simp only [World.answer, Prod.mk.injEq] at h
  obtain ⟨rfl, rfl⟩ := h
  rw [hset]
  exact .answered ha hl ht

theorem World.change_checkAdmission {k : Nat} {c : Callback} (hk : w.callbacks[k]? = some c)
    (hc : c.checked = false) (h : w.checkAdmission k c.admitted = (r, w')) :
    w.Change (.checkAdmission k) r w' := by
  unfold World.checkAdmission at h
  split at h
  · exact change_refuse hk rfl h
  · split at h
    · exact change_refuse hk rfl h
    · obtain ⟨l₁, l₂, hl, -, hset⟩ := around_of_getElem? hk
      simp only [Prod.mk.injEq] at h
      obtain ⟨rfl, rfl⟩ := h
      rw [hset]
      obtain ⟨admitted, checked⟩ := c
      subst hc
      exact .checked hl

theorem World.change_trySend {k : Nat} {c : Callback} (hk : w.callbacks[k]? = some c)
    (h : w.trySend k c.admitted = (r, w')) : w.Change (.trySend k) r w' := by
  unfold World.trySend at h
  split at h
  · exact change_refuse hk rfl h
  · next hreceiving =>
    split at h
    · next hroom =>
      obtain ⟨l₁, l₂, hl, herase, -⟩ := around_of_getElem? hk
      simp only [Prod.mk.injEq] at h
      obtain ⟨rfl, rfl⟩ := h
      rw [herase]
      exact .sent hl (by simpa using hreceiving) hroom
    · exact change_refuse hk rfl h

theorem World.change_serve {k : Nat} {task : Task η} (hk : w.inFlight[k]? = some task)
    (hphase : task.phase = .spawned) (h : w.serve k task = (r, w')) :
    w.Change (.serve k) r w' := by
  unfold World.serve at h
  split at h
  · exact change_answer hk rfl (by rw [Task.unanswered, hphase]) h
  · next hready =>
    obtain ⟨l₁, l₂, hl, -, hset⟩ := around_of_getElem? hk
    simp only [Prod.mk.injEq] at h
    obtain ⟨rfl, rfl⟩ := h
    rw [hset]
    exact .called hl hphase (not_not.mp hready)

theorem World.change_receive (hlooping : w.dispatcher = .looping)
    (hroom : w.inFlight.length < MAX_IN_FLIGHT_REQUESTS) (h : w.receive = some w') :
    w.Change .receive .silent w' := by
  unfold World.receive at h
  split at h
  · next admitted queue hq =>
    obtain rfl := Option.some.inj h
    exact .received hlooping hroom hq
  · next hq =>
    split at h
    · cases h
    · next hsenders =>
      obtain rfl := Option.some.inj h
      exact .drained hlooping hq (by simpa using hsenders)

theorem World.change_dispatch {admitted : AdmittedQuery} {snapshot : RuntimeHostSnapshot}
    (hheld : w.dispatcher = .holding admitted) (h : w.dispatch admitted snapshot = (r, w')) :
    w.Change (.dispatch snapshot) r w' := by
  unfold World.dispatch at h
  split at h
  · next hnone =>
    simp only [Prod.mk.injEq] at h
    obtain ⟨rfl, rfl⟩ := h
    exact .panicked hheld hnone
  · next handler hsome =>
    simp only [Prod.mk.injEq] at h
    obtain ⟨rfl, rfl⟩ := h
    exact .dispatched hheld hsome

/-- An abort finds the dispatcher alive, or changes what the owner has only. -/
theorem World.change_abort {a : Action} {open? : Bool} {queryables : List Nat}
    (ha : a.Governs) (hstarted : w.owner.Started) :
    w.Change a .silent { w.abortDispatcher with
      owner := .stopped, admissionOpen := open?, queryables } := by
  unfold World.abortDispatcher
  split
  · exact .aborted ha
  · exact .governed ha hstarted trivial

/-- Every step is one of the outcomes. -/
theorem World.next_change {a : Action} (h : w.next a = some (r, w')) : w.Change a r w' := by
  cases a with
  | declare =>
      simp only [World.next] at h
      split at h
      · next n howner =>
        split at h
        · next hn =>
          cases h
          exact .declared howner hn
        · cases h
      · cases h
  | startFails =>
      simp only [World.next] at h
      split at h
      · cases h
        exact .aborted trivial
      · cases h
  | spawnDispatcher =>
      obtain ⟨howner, h⟩ := Option.ite_none_right_eq_some.mp h
      cases h
      exact .spawned howner
  | openAdmission =>
      obtain ⟨howner, h⟩ := Option.ite_none_right_eq_some.mp h
      cases h
      exact .governed trivial (by rw [howner]; trivial) trivial
  | stop =>
      obtain ⟨howner, h⟩ := Option.ite_none_right_eq_some.mp h
      cases h
      exact .governed trivial (Owner.started_of_or howner trivial trivial) trivial
  | undeclare =>
      obtain ⟨howner, h⟩ := Option.ite_none_right_eq_some.mp h
      have hstarted : w.owner.Started := by rw [howner]; trivial
      split at h
      · cases h
        exact .governed trivial hstarted hstarted
      · cases h
        exact .governed trivial hstarted trivial
  | stopped =>
      obtain ⟨⟨howner, -⟩, h⟩ := Option.ite_none_right_eq_some.mp h
      cases h
      exact .governed trivial (by rw [howner]; trivial) trivial
  | stopInterrupted =>
      obtain ⟨howner, h⟩ := Option.ite_none_right_eq_some.mp h
      cases h
      exact .governed trivial (Owner.started_of_or howner trivial trivial) trivial
  | abort =>
      obtain ⟨howner, h⟩ := Option.ite_none_right_eq_some.mp h
      cases h
      exact change_abort trivial (by rw [howner]; trivial)
  | dropService =>
      obtain ⟨howner, h⟩ := Option.ite_none_right_eq_some.mp h
      cases h
      exact change_abort trivial (Owner.started_of_or howner trivial trivial)
  | release binding =>
      obtain ⟨⟨hmem, -⟩, h⟩ := Option.ite_none_right_eq_some.mp h
      cases h
      exact .released hmem
  | deliver binding query =>
      obtain ⟨⟨hmem, hfresh⟩, h⟩ := Option.ite_none_right_eq_some.mp h
      cases h
      exact .delivered hmem hfresh
  | checkAdmission k =>
      obtain ⟨c, hk, h⟩ := Option.bind_eq_some_iff.mp h
      obtain ⟨hc, h⟩ := Option.ite_none_left_eq_some.mp h
      exact change_checkAdmission hk (by simpa using hc) (Option.some.inj h)
  | trySend k =>
      obtain ⟨c, hk, h⟩ := Option.bind_eq_some_iff.mp h
      obtain ⟨-, h⟩ := Option.ite_none_right_eq_some.mp h
      exact change_trySend hk (Option.some.inj h)
  | receive =>
      obtain ⟨⟨hlooping, hroom⟩, h⟩ := Option.ite_none_right_eq_some.mp h
      obtain ⟨w'', h, heq⟩ := Option.map_eq_some_iff.mp h
      cases heq
      exact change_receive hlooping hroom h
  | dispatch snapshot =>
      simp only [World.next] at h
      split at h
      · next admitted hheld => exact change_dispatch hheld (Option.some.inj h)
      · cases h
  | serve k =>
      obtain ⟨task, hk, h⟩ := Option.bind_eq_some_iff.mp h
      obtain ⟨hphase, h⟩ := Option.ite_none_right_eq_some.mp h
      exact change_serve hk hphase (Option.some.inj h)
  | handlerReturns k result =>
      obtain ⟨task, hk, h⟩ := Option.bind_eq_some_iff.mp h
      obtain ⟨hphase, h⟩ := Option.ite_none_right_eq_some.mp h
      exact change_answer hk rfl (by rw [Task.unanswered, hphase]) (Option.some.inj h)
  | replyEnds k =>
      obtain ⟨task, hk, h⟩ := Option.bind_eq_some_iff.mp h
      obtain ⟨hphase, h⟩ := Option.ite_none_right_eq_some.mp h
      obtain ⟨l₁, l₂, hl, -, hset⟩ := around_of_getElem? hk
      cases h
      rw [hset]
      exact .finished hl hphase
  | join k =>
      obtain ⟨task, hk, h⟩ := Option.bind_eq_some_iff.mp h
      obtain ⟨⟨hphase, -⟩, h⟩ := Option.ite_none_right_eq_some.mp h
      obtain ⟨l₁, l₂, hl, herase, -⟩ := around_of_getElem? hk
      cases h
      rw [herase]
      exact .joined hl hphase
  | exit =>
      obtain ⟨⟨hdraining, hnone⟩, h⟩ := Option.ite_none_right_eq_some.mp h
      cases h
      exact .exited hdraining hnone
  | dropTask k =>
      obtain ⟨task, hk, h⟩ := Option.bind_eq_some_iff.mp h
      obtain ⟨haborted, h⟩ := Option.ite_none_right_eq_some.mp h
      obtain ⟨l₁, l₂, hl, herase, -⟩ := around_of_getElem? hk
      cases h
      rw [herase]
      exact .taskDropped haborted hl

end

theorem Event.change {η : Type} {x : Event η} (h : (service η).Takes x) :
    x.pre.Change x.act x.report x.post :=
  World.next_change h

/-! ## Bounds -/

section

variable {η : Type} {w w' : World η} {a : Action} {r : Report η}

/-- The queue and the JoinSet keep to their bounds. -/
structure World.Bounded (w : World η) : Prop where
  queue_le : w.queue.length ≤ INGRESS_CAPACITY
  inFlight_le : w.inFlight.length ≤ MAX_IN_FLIGHT_REQUESTS
  /-- A query is received where its task still fits. -/
  held_lt : ∀ admitted, w.dispatcher = .holding admitted →
    w.inFlight.length < MAX_IN_FLIGHT_REQUESTS

theorem World.Bounded.step (h : w.Change a r w') (hb : w.Bounded) : w'.Bounded := by
  obtain ⟨hqueue, hinFlight, hheld⟩ := hb
  cases h with
  | declared _ _ => exact ⟨hqueue, hinFlight, hheld⟩
  | spawned _ => exact ⟨hqueue, hinFlight, nofun⟩
  | governed _ _ _ => exact ⟨hqueue, hinFlight, hheld⟩
  | aborted _ => exact ⟨Nat.zero_le _, hinFlight, nofun⟩
  | released _ => exact ⟨hqueue, hinFlight, hheld⟩
  | delivered _ _ => exact ⟨hqueue, hinFlight, hheld⟩
  | refused _ _ => exact ⟨hqueue, hinFlight, hheld⟩
  | checked _ => exact ⟨hqueue, hinFlight, hheld⟩
  | sent _ _ hroom =>
      refine ⟨?_, hinFlight, hheld⟩
      show (w.queue ++ [_]).length ≤ INGRESS_CAPACITY
      rw [List.length_append]
      exact hroom
  | received _ hroom hq =>
      refine ⟨?_, hinFlight, fun _ _ => hroom⟩
      rw [hq] at hqueue
      exact Nat.le_of_succ_le hqueue
  | drained _ _ _ => exact ⟨hqueue, hinFlight, nofun⟩
  | dispatched hholding _ =>
      refine ⟨hqueue, ?_, nofun⟩
      show (w.inFlight ++ [_]).length ≤ MAX_IN_FLIGHT_REQUESTS
      rw [List.length_append]
      exact hheld _ hholding
  | panicked _ _ => exact ⟨Nat.zero_le _, hinFlight, nofun⟩
  | answered _ hl _ =>
      rw [hl] at hinFlight hheld
      exact ⟨hqueue, by simpa using hinFlight, by simpa using hheld⟩
  | called hl _ _ =>
      rw [hl] at hinFlight hheld
      exact ⟨hqueue, by simpa using hinFlight, by simpa using hheld⟩
  | finished hl _ =>
      rw [hl] at hinFlight hheld
      exact ⟨hqueue, by simpa using hinFlight, by simpa using hheld⟩
  | @joined k task l₁ l₂ hl _ =>
      rw [hl, List.length_append, List.length_cons] at hinFlight hheld
      refine ⟨hqueue, ?_, fun admitted hholding => ?_⟩
      · show (l₁ ++ l₂).length ≤ MAX_IN_FLIGHT_REQUESTS
        rw [List.length_append]
        omega
      · show (l₁ ++ l₂).length < MAX_IN_FLIGHT_REQUESTS
        have := hheld admitted hholding
        rw [List.length_append]
        omega
  | exited _ hnone => exact ⟨hqueue, hinFlight, nofun⟩
  | @taskDropped k task l₁ l₂ haborted hl =>
      rw [hl, List.length_append, List.length_cons] at hinFlight
      refine ⟨hqueue, ?_, fun admitted hholding => ?_⟩
      · show (l₁ ++ l₂).length ≤ MAX_IN_FLIGHT_REQUESTS
        rw [List.length_append]
        omega
      · cases haborted.symm.trans hholding

/-! ## Bindings -/

/-- Every query the dispatcher may be handed was delivered to one of the bindings. -/
structure World.Bound (w : World η) : Prop where
  declaring_le : ∀ n, w.owner = .declaring n → n ≤ w.bindings.length
  closures : ∀ i ∈ w.closures, i < w.bindings.length
  callbacks : ∀ c ∈ w.callbacks, c.admitted.bindingIndex < w.bindings.length
  queue : ∀ admitted ∈ w.queue, admitted.bindingIndex < w.bindings.length
  held : ∀ admitted, w.dispatcher = .holding admitted →
    admitted.bindingIndex < w.bindings.length

theorem World.Change.bindings_eq (h : w.Change a r w') : w'.bindings = w.bindings := by
  cases h <;> rfl

theorem World.Bound.step (h : w.Change a r w') (hb : w.Bound) : w'.Bound := by
  obtain ⟨hdeclaring, hclosures, hcallbacks, hqueue, hheld⟩ := hb
  cases h with
  | @declared n _ hn =>
      refine ⟨fun m hm => ?_, fun i hi => ?_, hcallbacks, hqueue, hheld⟩
      · obtain rfl := Owner.declaring.inj hm
        exact hn
      · rcases List.mem_append.mp hi with hi | hi
        · exact hclosures i hi
        · obtain rfl := List.mem_singleton.mp hi
          exact hn
  | spawned _ => exact ⟨nofun, hclosures, hcallbacks, hqueue, nofun⟩
  | governed _ _ howner =>
      refine ⟨fun n hn => ?_, hclosures, hcallbacks, hqueue, hheld⟩
      subst hn
      cases howner
  | aborted _ => exact ⟨nofun, hclosures, hcallbacks, nofun, nofun⟩
  | released _ =>
      exact ⟨hdeclaring, fun i hi => hclosures i (List.mem_of_mem_erase hi), hcallbacks, hqueue,
        hheld⟩
  | delivered hmem _ =>
      refine ⟨hdeclaring, hclosures, fun c hc => ?_, hqueue, hheld⟩
      rcases List.mem_append.mp hc with hc | hc
      · exact hcallbacks c hc
      · obtain rfl := List.mem_singleton.mp hc
        exact hclosures _ hmem
  | refused _ hl =>
      rw [hl] at hcallbacks
      exact ⟨hdeclaring, hclosures, (forall_mem_around hcallbacks).2, hqueue, hheld⟩
  | checked hl =>
      rw [hl, List.forall_mem_append, List.forall_mem_cons] at hcallbacks
      obtain ⟨h₁, hc, h₂⟩ := hcallbacks
      exact ⟨hdeclaring, hclosures,
        List.forall_mem_append.mpr ⟨h₁, List.forall_mem_cons.mpr ⟨hc, h₂⟩⟩, hqueue, hheld⟩
  | sent hl _ _ =>
      rw [hl] at hcallbacks
      obtain ⟨hc, hrest⟩ := forall_mem_around hcallbacks
      exact ⟨hdeclaring, hclosures, hrest,
        List.forall_mem_append.mpr ⟨hqueue, List.forall_mem_singleton.mpr hc⟩, hheld⟩
  | received _ _ hq =>
      rw [hq] at hqueue
      refine ⟨hdeclaring, hclosures, hcallbacks, fun c hc => ?_, fun c hc => ?_⟩
      · exact hqueue c (List.mem_cons_of_mem _ hc)
      · obtain rfl := Dispatcher.holding.inj hc
        exact hqueue _ List.mem_cons_self
  | drained _ _ _ => exact ⟨hdeclaring, hclosures, hcallbacks, hqueue, nofun⟩
  | dispatched _ _ => exact ⟨hdeclaring, hclosures, hcallbacks, hqueue, nofun⟩
  | panicked _ _ => exact ⟨hdeclaring, hclosures, hcallbacks, nofun, nofun⟩
  | answered _ _ _ => exact ⟨hdeclaring, hclosures, hcallbacks, hqueue, hheld⟩
  | called _ _ _ => exact ⟨hdeclaring, hclosures, hcallbacks, hqueue, hheld⟩
  | finished _ _ => exact ⟨hdeclaring, hclosures, hcallbacks, hqueue, hheld⟩
  | joined _ _ => exact ⟨hdeclaring, hclosures, hcallbacks, hqueue, hheld⟩
  | exited _ _ => exact ⟨hdeclaring, hclosures, hcallbacks, hqueue, nofun⟩
  | taskDropped _ _ => exact ⟨hdeclaring, hclosures, hcallbacks, hqueue, hheld⟩

/-- The dispatcher indexes its bindings in range. -/
theorem World.Bound.not_panicked (hb : w.Bound) (h : w.Change a r w') : r ≠ .panicked := by
  rintro rfl
  cases h with
  | panicked hheld hnone =>
      have := hb.held _ hheld
      have := List.getElem?_eq_none_iff.mp hnone
      omega

/-! ## The end of the queue -/

theorem World.senders_eq_false :
    w.senders = false ↔ w.closures = [] ∧ w.callbacks = [] ∧ w.owner.Started := by
  cases howner : w.owner <;> simp [World.senders, Owner.Started, howner]

/-- The dispatcher ends its loop after the last sender is gone. -/
structure World.Ended (w : World η) : Prop where
  unspawned : ¬ w.owner.Started → w.dispatcher = .unspawned
  drained : w.dispatcher = .draining ∨ w.dispatcher = .exited →
    w.queue = [] ∧ w.closures = [] ∧ w.callbacks = []
  exited : w.dispatcher = .exited → w.inFlight = []
  dropped : w.dispatcher ≠ .aborted → w.dropped = []

/-- Callbacks run before the loop ends. -/
theorem World.Ended.not_drained (he : w.Ended) {c : Callback} {l₁ l₂ : List Callback}
    (hl : w.callbacks = l₁ ++ c :: l₂) :
    ¬ (w.dispatcher = .draining ∨ w.dispatcher = .exited) := by
  intro h
  have hnone := (he.drained h).2.2
  rw [hl] at hnone
  exact List.append_ne_nil_of_right_ne_nil l₁ (List.cons_ne_nil c l₂) hnone

/-- Tasks end before the dispatcher does. -/
theorem World.Ended.not_exited (he : w.Ended) {task : Task η} {l₁ l₂ : List (Task η)}
    (hl : w.inFlight = l₁ ++ task :: l₂) : w.dispatcher ≠ .exited := by
  intro h
  have hnone := he.exited h
  rw [hl] at hnone
  exact List.append_ne_nil_of_right_ne_nil l₁ (List.cons_ne_nil task l₂) hnone

theorem World.Ended.started (he : w.Ended) (h : w.dispatcher ≠ .unspawned) : w.owner.Started := by
  by_contra hdeclaring
  exact h (he.unspawned hdeclaring)

theorem World.Ended.step (h : w.Change a r w') (he : w.Ended) : w'.Ended := by
  have hcallback := @he.not_drained
  have htask := @he.not_exited
  have hstarted := he.started
  obtain ⟨hunspawned, hdrained, hexited, hdropped⟩ := he
  cases h with
  | @declared n howner _ =>
      have hd : w.dispatcher = .unspawned := hunspawned (by rw [howner]; exact id)
      refine ⟨fun _ => hd, fun h => ?_, hexited, hdropped⟩
      have h : w.dispatcher = .draining ∨ w.dispatcher = .exited := h
      rw [hd] at h
      rcases h with h | h <;> cases h
  | spawned howner =>
      have hd : w.dispatcher = .unspawned := hunspawned (by rw [howner]; exact id)
      have hne : w.dispatcher ≠ .aborted := by rw [hd]; exact nofun
      exact ⟨fun h => absurd trivial h, nofun, nofun, fun _ => hdropped hne⟩
  | governed _ _ howner => exact ⟨fun h => absurd howner h, hdrained, hexited, hdropped⟩
  | aborted _ => exact ⟨fun h => absurd trivial h, nofun, nofun, fun h => absurd rfl h⟩
  | released hmem =>
      refine ⟨hunspawned, fun h => ?_, hexited, hdropped⟩
      rw [(hdrained h).2.1] at hmem
      cases hmem
  | delivered hmem _ =>
      refine ⟨hunspawned, fun h => ?_, hexited, hdropped⟩
      rw [(hdrained h).2.1] at hmem
      cases hmem
  | refused _ hl => exact ⟨hunspawned, fun h => absurd h (hcallback hl), hexited, hdropped⟩
  | checked hl => exact ⟨hunspawned, fun h => absurd h (hcallback hl), hexited, hdropped⟩
  | sent hl _ _ => exact ⟨hunspawned, fun h => absurd h (hcallback hl), hexited, hdropped⟩
  | received hlooping _ _ =>
      have hne : w.dispatcher ≠ .aborted := by rw [hlooping]; exact nofun
      have howner := hstarted (by rw [hlooping]; exact nofun)
      exact ⟨fun h => absurd howner h, nofun, nofun, fun _ => hdropped hne⟩
  | drained hlooping hq hsenders =>
      have hne : w.dispatcher ≠ .aborted := by rw [hlooping]; exact nofun
      obtain ⟨hclosures, hcallbacks, howner⟩ := senders_eq_false.mp hsenders
      exact ⟨fun h => absurd howner h, fun _ => ⟨hq, hclosures, hcallbacks⟩, nofun,
        fun _ => hdropped hne⟩
  | dispatched hholding _ =>
      have hne : w.dispatcher ≠ .aborted := by rw [hholding]; exact nofun
      have howner := hstarted (by rw [hholding]; exact nofun)
      exact ⟨fun h => absurd howner h, nofun, nofun, fun _ => hdropped hne⟩
  | panicked hholding _ =>
      have howner := hstarted (by rw [hholding]; exact nofun)
      exact ⟨fun h => absurd howner h, nofun, nofun, fun h => absurd rfl h⟩
  | answered _ hl _ => exact ⟨hunspawned, hdrained, fun h => absurd h (htask hl), hdropped⟩
  | called hl _ _ => exact ⟨hunspawned, hdrained, fun h => absurd h (htask hl), hdropped⟩
  | finished hl _ => exact ⟨hunspawned, hdrained, fun h => absurd h (htask hl), hdropped⟩
  | joined hl _ => exact ⟨hunspawned, hdrained, fun h => absurd h (htask hl), hdropped⟩
  | exited hdraining hnone =>
      have hne : w.dispatcher ≠ .aborted := by rw [hdraining]; exact nofun
      have howner := hstarted (by rw [hdraining]; exact nofun)
      exact ⟨fun h => absurd howner h, fun _ => hdrained (.inl hdraining), fun _ => hnone,
        fun _ => hdropped hne⟩
  | taskDropped haborted hl =>
      exact ⟨hunspawned, hdrained, fun h => absurd h (htask hl), fun h => absurd haborted h⟩

/-! ## No query is lost or copied -/

theorem World.count_known (w : World η) (id : QueryId) :
    w.known.count id =
      (w.at .callback).count id + (w.at .queued).count id + (w.at .held).count id +
        (w.at .inFlight).count id + (w.at .replied).count id + (w.at .dropped).count id := by
  simp only [World.known, places, List.flatMap_cons, List.flatMap_nil, List.count_append,
    List.count_nil]
  omega

theorem World.count_at_le (w : World η) (id : QueryId) (place : Place) :
    (w.at place).count id ≤ w.known.count id := by
  rw [w.count_known]
  cases place <;> omega

theorem World.count_at_add_le (w : World η) (id : QueryId) {place other : Place}
    (h : place ≠ other) :
    (w.at place).count id + (w.at other).count id ≤ w.known.count id := by
  rw [w.count_known]
  cases place <;> cases other <;> first | omega | exact absurd rfl h

/-- The unanswered tasks, around one of them. -/
theorem count_unanswered_around (id : QueryId) (l₁ l₂ : List (Task η)) (task : Task η) :
    (((l₁ ++ task :: l₂).filter Task.unanswered).map fun t => t.query.id).count id =
      (((l₁ ++ l₂).filter Task.unanswered).map fun t => t.query.id).count id +
        (if task.unanswered then [task.query.id] else []).count id := by
  cases h : task.unanswered with
  | true =>
      rw [List.filter_append, List.filter_cons_of_pos h, count_map_around, List.filter_append,
        if_pos rfl]
  | false =>
      rw [List.filter_append, List.filter_cons_of_neg (by simp [h]), List.filter_append]
      simp

/-- A step moves queries between the places; a delivery adds its own. -/
theorem World.Change.count_known (h : w.Change a r w') (he : w.Ended) (id : QueryId) :
    w'.known.count id =
      w.known.count id + (a.delivered?.map fun x => x.query.id).toList.count id := by
  have hunspawned := he.unspawned
  simp only [World.count_known, World.at]
  cases h with
  | declared _ _ => rfl
  | spawned howner =>
      have hd : w.dispatcher = .unspawned := hunspawned (by rw [howner]; exact fun h => h)
      rw [hd]
      rfl
  | governed ha _ _ => rw [ha.delivered?_eq]; rfl
  | aborted ha =>
      rw [ha.delivered?_eq]
      simp only [World.dropReceiver, World.at, Dispatcher.held, List.count_append, List.map_nil,
        List.count_nil, Option.map_none, Option.toList_none]
      omega
  | released _ => rfl
  | delivered _ _ =>
      rw [count_map_concat]
      simp only [Action.delivered?, Option.map_some, Option.toList_some]
      omega
  | refused ha hl =>
      rw [ha, hl, count_map_around, List.count_append]
      simp only [Option.map_none, Option.toList_none, List.count_nil]
      omega
  | checked hl =>
      rw [hl, count_map_around, count_map_around]
      rfl
  | sent hl _ _ =>
      rw [hl, count_map_concat, count_map_around]
      simp only [Action.delivered?, Option.map_none, Option.toList_none, List.count_nil]
      omega
  | received hlooping _ hq =>
      rw [hlooping, hq]
      simp only [Dispatcher.held, List.map_cons, List.map_nil, List.count_cons, List.count_nil,
        Action.delivered?, Option.map_none, Option.toList_none]
      omega
  | drained hlooping _ _ => rw [hlooping]; rfl
  | dispatched hholding _ =>
      rw [hholding, count_unanswered_around, List.append_nil]
      simp only [Dispatcher.held, List.map_cons, List.map_nil, List.count_nil, Task.unanswered,
        if_pos, Action.delivered?, Option.map_none, Option.toList_none]
      omega
  | panicked hholding _ =>
      simp only [World.dropReceiver, World.at, Dispatcher.held, List.count_append, List.map_nil,
        List.count_nil, Action.delivered?, Option.map_none, Option.toList_none]
      omega
  | answered ha hl htask =>
      rw [ha, hl, count_unanswered_around, count_unanswered_around, if_pos htask,
        List.count_append]
      simp only [Task.unanswered, Bool.false_eq_true, if_false, Option.map_none,
        Option.toList_none, List.count_nil]
      omega
  | called hl hphase _ =>
      rw [hl, count_unanswered_around, count_unanswered_around]
      simp only [Task.unanswered, hphase]
      rfl
  | finished hl hphase =>
      rw [hl, count_unanswered_around, count_unanswered_around]
      simp only [Task.unanswered, hphase]
      rfl
  | joined hl hphase =>
      rw [hl, count_unanswered_around]
      simp only [Task.unanswered, hphase]
      rfl
  | exited hdraining _ => rw [hdraining]; rfl
  | taskDropped _ hl =>
      rw [hl, count_unanswered_around, List.count_append]
      simp only [Action.delivered?, Option.map_none, Option.toList_none, List.count_nil]
      omega

end

end Paraegox.Fabric
