import Paraegox.Fabric.ServiceMetatheory

/-!
# Every query is answered once

Over any run of the service.  The queries known are the ones delivered, each at one place;
a dispatcher that exits leaves no place but `replied`.
-/

namespace Paraegox.Fabric

open Paraegox.Runtime (RuntimeHostSnapshot)

section

variable {η : Type} {w w' : World η} {a : Action} {r : Report η} {tr : List (Event η)}
  {x : Event η}

/-! ## What a step adds to the record -/

theorem delivered_concat : delivered (tr ++ [x]) = delivered tr ++ x.act.delivered?.toList := by
  rw [delivered, List.filterMap_append, ← delivered]
  cases h : x.act.delivered? <;> simp [h]

theorem repliedIds_concat : repliedIds (tr ++ [x]) = repliedIds tr ++ x.report.replied?.toList := by
  rw [repliedIds, List.filterMap_append, ← repliedIds]
  cases h : x.report.replied? <;> simp [h]

theorem deliveredIds_concat : deliveredIds (tr ++ [x]) =
    deliveredIds tr ++ (x.act.delivered?.map fun admitted => admitted.query.id).toList := by
  rw [deliveredIds, delivered_concat, List.map_append, ← deliveredIds]
  cases x.act.delivered? <;> rfl

/-- A query is new where it is delivered. -/
theorem World.Change.fresh (h : w.Change a r w') {admitted : AdmittedQuery}
    (ha : a.delivered? = some admitted) : admitted.query.id ∉ w.known := by
  cases h with
  | delivered _ hfresh =>
      obtain rfl := Option.some.inj ha
      exact hfresh
  | governed hgoverns _ _ =>
      rw [hgoverns.delivered?_eq] at ha
      cases ha
  | aborted hgoverns =>
      rw [hgoverns.delivered?_eq] at ha
      cases ha
  | refused hnone _ =>
      rw [hnone] at ha
      cases ha
  | answered hnone _ _ =>
      rw [hnone] at ha
      cases ha
  | _ => cases ha

theorem World.Change.replied_eq (h : w.Change a r w') :
    w'.replied = w.replied ++ r.replied?.toList := by
  cases h with
  | refused _ _ => rfl
  | answered _ _ _ => rfl
  | _ => exact (List.append_nil w.replied).symm

/-! ## Where a task comes from -/

/-- The query of a task was delivered to the binding of its handler, and the dispatcher took
the snapshot as it spawned the task. -/
def Task.Dispatched (bindings : List η) (tr : List (Event η)) (task : Task η) : Prop :=
  ∃ i, ⟨i, task.query⟩ ∈ delivered tr ∧ bindings[i]? = some task.handler ∧
    ∃ x ∈ tr, x.act = .dispatch task.snapshot ∧ x.pre.dispatcher = .holding ⟨i, task.query⟩

/-- What the run so far says of the queries the service works on. -/
structure World.Traced (w : World η) (tr : List (Event η)) : Prop where
  callbacks : ∀ c ∈ w.callbacks, c.admitted ∈ delivered tr
  queue : ∀ admitted ∈ w.queue, admitted ∈ delivered tr
  held : ∀ admitted, w.dispatcher = .holding admitted → admitted ∈ delivered tr
  inFlight : ∀ task ∈ w.inFlight, task.Dispatched w.bindings tr

theorem Task.Dispatched.concat {bindings : List η} {task : Task η}
    (h : task.Dispatched bindings tr) : task.Dispatched bindings (tr ++ [x]) := by
  obtain ⟨i, hi, hhandler, y, hy, hact⟩ := h
  refine ⟨i, ?_, hhandler, y, List.mem_append_left _ hy, hact⟩
  rw [delivered_concat]
  exact List.mem_append_left _ hi

theorem World.Traced.concat (h : w.Traced tr) : w.Traced (tr ++ [x]) := by
  obtain ⟨hcallbacks, hqueue, hheld, hinFlight⟩ := h
  have hmono : ∀ admitted ∈ delivered tr, admitted ∈ delivered (tr ++ [x]) := by
    intro admitted hmem
    rw [delivered_concat]
    exact List.mem_append_left _ hmem
  exact ⟨fun c hc => hmono _ (hcallbacks c hc), fun y hy => hmono _ (hqueue y hy),
    fun y hy => hmono _ (hheld y hy), fun task htask => (hinFlight task htask).concat⟩

/-- Only the phase of a task changes. -/
theorem forall_dispatched_phase {bindings : List η} {l₁ l₂ : List (Task η)} {task : Task η}
    {phase : TaskPhase}
    (h : ∀ t ∈ l₁ ++ task :: l₂, t.Dispatched bindings tr) :
    ∀ t ∈ l₁ ++ { task with phase } :: l₂, t.Dispatched bindings tr := by
  rw [List.forall_mem_append, List.forall_mem_cons] at h ⊢
  exact h

theorem World.Traced.step (hx : (service η).Takes x) (ht : x.pre.Traced tr) :
    x.post.Traced (tr ++ [x]) := by
  have hmem : ∀ admitted ∈ x.act.delivered?, admitted ∈ delivered (tr ++ [x]) := by
    intro admitted hadmitted
    rw [delivered_concat, hadmitted]
    exact List.mem_append_right _ List.mem_cons_self
  have hdispatch : ∀ admitted snapshot handler, x.pre.dispatcher = .holding admitted →
      x.act = .dispatch snapshot → x.pre.bindings[admitted.bindingIndex]? = some handler →
      Task.Dispatched x.pre.bindings (tr ++ [x])
        ⟨admitted.query, handler, snapshot, .spawned⟩ := by
    intro admitted snapshot handler hheld hact hhandler
    exact ⟨admitted.bindingIndex, ht.concat.held admitted hheld, hhandler, x,
      List.mem_append_right _ List.mem_cons_self, hact, hheld⟩
  have hc := Event.change hx
  obtain ⟨hcallbacks, hqueue, hheld, hinFlight⟩ : x.pre.Traced (tr ++ [x]) := ht.concat
  generalize tr ++ [x] = tr at *
  obtain ⟨w, a, r, w'⟩ := x
  dsimp only at *
  cases hc with
  | declared _ _ => exact ⟨hcallbacks, hqueue, hheld, hinFlight⟩
  | spawned _ => exact ⟨hcallbacks, hqueue, nofun, hinFlight⟩
  | governed _ _ _ => exact ⟨hcallbacks, hqueue, hheld, hinFlight⟩
  | aborted _ => exact ⟨hcallbacks, nofun, nofun, hinFlight⟩
  | released _ => exact ⟨hcallbacks, hqueue, hheld, hinFlight⟩
  | delivered _ _ =>
      exact ⟨List.forall_mem_append.mpr
        ⟨hcallbacks, List.forall_mem_singleton.mpr (hmem _ rfl)⟩, hqueue, hheld, hinFlight⟩
  | refused _ hl =>
      rw [hl] at hcallbacks
      exact ⟨(forall_mem_around hcallbacks).2, hqueue, hheld, hinFlight⟩
  | checked hl =>
      rw [hl, List.forall_mem_append, List.forall_mem_cons] at hcallbacks
      exact ⟨List.forall_mem_append.mpr
        ⟨hcallbacks.1, List.forall_mem_cons.mpr hcallbacks.2⟩, hqueue, hheld, hinFlight⟩
  | sent hl _ _ =>
      rw [hl] at hcallbacks
      obtain ⟨hc, hrest⟩ := forall_mem_around hcallbacks
      exact ⟨hrest, List.forall_mem_append.mpr ⟨hqueue, List.forall_mem_singleton.mpr hc⟩,
        hheld, hinFlight⟩
  | received _ _ hq =>
      rw [hq, List.forall_mem_cons] at hqueue
      refine ⟨hcallbacks, hqueue.2, fun admitted h => ?_, hinFlight⟩
      obtain rfl := Dispatcher.holding.inj h
      exact hqueue.1
  | drained _ _ _ => exact ⟨hcallbacks, hqueue, nofun, hinFlight⟩
  | dispatched hholding hhandler =>
      exact ⟨hcallbacks, hqueue, nofun, List.forall_mem_append.mpr
        ⟨hinFlight, List.forall_mem_singleton.mpr (hdispatch _ _ _ hholding rfl hhandler)⟩⟩
  | panicked _ _ => exact ⟨hcallbacks, nofun, nofun, hinFlight⟩
  | answered _ hl _ =>
      rw [hl] at hinFlight
      exact ⟨hcallbacks, hqueue, hheld, forall_dispatched_phase hinFlight⟩
  | called hl _ _ =>
      rw [hl] at hinFlight
      exact ⟨hcallbacks, hqueue, hheld, forall_dispatched_phase hinFlight⟩
  | finished hl _ =>
      rw [hl] at hinFlight
      exact ⟨hcallbacks, hqueue, hheld, forall_dispatched_phase hinFlight⟩
  | joined hl _ =>
      rw [hl] at hinFlight
      exact ⟨hcallbacks, hqueue, hheld, (forall_mem_around hinFlight).2⟩
  | exited _ _ => exact ⟨hcallbacks, hqueue, nofun, hinFlight⟩
  | taskDropped _ hl =>
      rw [hl] at hinFlight
      exact ⟨hcallbacks, hqueue, hheld, (forall_mem_around hinFlight).2⟩

/-! ## Runs -/

/-- What holds between the service and the run that led to it. -/
structure World.Accounted (bindings : List η) (w : World η) (tr : List (Event η)) : Prop where
  bindings_eq : w.bindings = bindings
  bounded : w.Bounded
  bound : w.Bound
  ended : w.Ended
  traced : w.Traced tr
  known : ∀ id, w.known.count id = (deliveredIds tr).count id
  once : (deliveredIds tr).Nodup
  replied_eq : w.replied = repliedIds tr

theorem World.Accounted.created (bindings : List η) :
    (World.created bindings).Accounted bindings [] where
  bindings_eq := rfl
  bounded := ⟨Nat.zero_le _, Nat.zero_le _, nofun⟩
  bound := by
    refine ⟨fun n hn => ?_, nofun, nofun, nofun, nofun⟩
    obtain rfl := Owner.declaring.inj hn
    exact Nat.zero_le _
  ended := ⟨fun _ => rfl, nofun, nofun, fun _ => rfl⟩
  traced := ⟨nofun, nofun, nofun, nofun⟩
  known := fun _ => rfl
  once := List.nodup_nil
  replied_eq := rfl

theorem World.Accounted.mem_known {bindings : List η} (h : w.Accounted bindings tr)
    {id : QueryId} : id ∈ w.known ↔ id ∈ deliveredIds tr := by
  rw [← List.count_pos_iff, ← List.count_pos_iff, h.known]

theorem World.Accounted.step {bindings : List η} (hx : (service η).Takes x)
    (h : x.pre.Accounted bindings tr) : x.post.Accounted bindings (tr ++ [x]) where
  bindings_eq := (Event.change hx).bindings_eq.trans h.bindings_eq
  bounded := h.bounded.step (Event.change hx)
  bound := h.bound.step (Event.change hx)
  ended := h.ended.step (Event.change hx)
  traced := h.traced.step hx
  known := fun id => by
    rw [(Event.change hx).count_known h.ended, h.known, deliveredIds_concat, List.count_append]
  once := by
    rw [deliveredIds_concat]
    cases hact : x.act.delivered? with
    | none => simpa using h.once
    | some admitted =>
        have hfresh := (Event.change hx).fresh hact
        rw [h.mem_known] at hfresh
        exact List.nodup_append.mpr ⟨h.once, List.nodup_singleton _, by
          intro id hid id' hid' heq
          rw [heq, List.mem_singleton.mp hid'] at hid
          exact hfresh hid⟩
  replied_eq := by
    rw [(Event.change hx).replied_eq, h.replied_eq, repliedIds_concat]

theorem World.Accounted.run {bindings : List η}
    (h : (service η).Run (World.created bindings) tr w) : w.Accounted bindings tr :=
  h.trace (fun _ _ hx => World.Accounted.step hx) (.created bindings)

/-- A query that was delivered is at one place, and there once. -/
theorem World.Accounted.one_place {bindings : List η} (h : w.Accounted bindings tr)
    {id : QueryId} (hid : id ∈ deliveredIds tr) :
    ∃ place, (w.at place).count id = 1 ∧ ∀ other, id ∈ w.at other → other = place := by
  have hone : w.known.count id = 1 := by
    rw [h.known]
    exact List.count_eq_one_of_mem h.once hid
  obtain ⟨place, -, hplace⟩ := List.mem_flatMap.mp (h.mem_known.mpr hid)
  have hpos := List.count_pos_iff.mpr hplace
  have hle := w.count_at_le id place
  refine ⟨place, by omega, fun other hother => ?_⟩
  by_contra hne
  have hother := List.count_pos_iff.mpr hother
  have hadd := w.count_at_add_le id hne
  omega

theorem World.Accounted.replied_nodup {bindings : List η} (h : w.Accounted bindings tr) :
    (repliedIds tr).Nodup := by
  rw [List.nodup_iff_count_le_one]
  intro id
  have hle : w.replied.count id ≤ w.known.count id := w.count_at_le id .replied
  rw [h.known, h.replied_eq] at hle
  exact hle.trans (List.nodup_iff_count_le_one.mp h.once id)

/-- A dispatcher that exits leaves every query replied. -/
theorem World.Accounted.replied_of_exited {bindings : List η} (h : w.Accounted bindings tr)
    (hexited : w.dispatcher = .exited) (id : QueryId) :
    (repliedIds tr).count id = (deliveredIds tr).count id := by
  obtain ⟨hqueue, -, hcallbacks⟩ := h.ended.drained (.inr hexited)
  have hinFlight := h.ended.exited hexited
  have hdropped := h.ended.dropped (by rw [hexited]; exact nofun)
  rw [← h.known, w.count_known, ← h.replied_eq]
  simp [World.at, hqueue, hcallbacks, hinFlight, hdropped, hexited, Dispatcher.held]

/-- A handler is called for a query of its own binding, on a snapshot that is Ready. -/
theorem World.Accounted.called {bindings : List η} (h : w.Accounted bindings tr) {query : Query}
    {handler : η} {snapshot : RuntimeHostSnapshot} {payload : List UInt8}
    (hc : w.Change a (.handlerCalled query handler snapshot payload) w') :
    snapshot.state = .ready ∧ payload = query.payload.getD [] ∧
      ∃ i, ⟨i, query⟩ ∈ delivered tr ∧ bindings[i]? = some handler ∧
        ∃ y ∈ tr, y.act = .dispatch snapshot ∧ y.pre.dispatcher = .holding ⟨i, query⟩ := by
  have hinFlight := h.traced.inFlight
  rw [h.bindings_eq] at hinFlight
  cases hc with
  | called hl _ hready =>
      rw [hl] at hinFlight
      exact ⟨hready, rfl, (forall_mem_around hinFlight).1⟩

/-! ## The result -/

/-- Over any run: the bounds hold, every query delivered is at exactly one place and replied
to at most once, handlers are called for the queries of their own bindings on a snapshot that
was Ready at the dispatch, and a dispatcher that exits has seen every query replied. -/
theorem answered_once {bindings : List η}
    (h : (service η).Run (World.created bindings) tr w) :
    w.queue.length ≤ INGRESS_CAPACITY ∧
    w.inFlight.length ≤ MAX_IN_FLIGHT_REQUESTS ∧
    (deliveredIds tr).Nodup ∧
    (∀ id ∈ deliveredIds tr,
      ∃ place, (w.at place).count id = 1 ∧ ∀ other, id ∈ w.at other → other = place) ∧
    (∀ place, ∀ id ∈ w.at place, id ∈ deliveredIds tr) ∧
    (w.dispatcher ≠ .aborted → w.at .dropped = []) ∧
    w.at .replied = repliedIds tr ∧
    (repliedIds tr).Nodup ∧
    (∀ x ∈ tr, x.report ≠ .panicked) ∧
    (∀ tr₁ x tr₂ query handler snapshot payload, tr = tr₁ ++ x :: tr₂ →
      x.report = .handlerCalled query handler snapshot payload →
      snapshot.state = .ready ∧ payload = query.payload.getD [] ∧
        ∃ i, ⟨i, query⟩ ∈ delivered tr₁ ∧ bindings[i]? = some handler ∧
          ∃ y ∈ tr₁, y.act = .dispatch snapshot ∧ y.pre.dispatcher = .holding ⟨i, query⟩) ∧
    (w.dispatcher = .exited → ∀ id ∈ deliveredIds tr, (repliedIds tr).count id = 1) := by
  have hw := World.Accounted.run h
  refine ⟨hw.bounded.queue_le, hw.bounded.inFlight_le, hw.once, fun id => hw.one_place,
    fun place id hid => ?_, hw.ended.dropped, hw.replied_eq, hw.replied_nodup,
    fun x hx => ?_, ?_, fun hexited id hid => ?_⟩
  · exact hw.mem_known.mp (List.mem_flatMap.mpr ⟨place, mem_places place, hid⟩)
  · obtain ⟨tr₁, tr₂, rfl, hrun, htakes, -⟩ := h.of_mem hx
    exact (World.Accounted.run hrun).bound.not_panicked (Event.change htakes)
  · intro tr₁ x tr₂ query handler snapshot payload htr hr
    subst htr
    obtain ⟨hrun, htakes, -⟩ := h.at
    have hc := Event.change htakes
    rw [hr] at hc
    exact (World.Accounted.run hrun).called hc
  · rw [hw.replied_of_exited hexited]
    exact List.count_eq_one_of_mem hw.once hid

end

/-- The query is checked before the stop and sent after it. -/
theorem answered_once_stopping :
    ∃ tr w, (service String).Run (World.created ["status"]) tr w ∧
      w.dispatcher = .exited ∧ deliveredIds tr = [7] ∧ (repliedIds tr).count 7 = 1 := by
  obtain ⟨tr, w, hrun, -, hw⟩ := (service String).exec_any (World.created ["status"])
    [.declare, .spawnDispatcher, .openAdmission, .deliver 0 ⟨7, none⟩, .checkAdmission 0, .stop,
      .undeclare, .trySend 0, .undeclare, .release 0, .receive,
      .dispatch ⟨⟨⟨"host", by decide⟩, ⟨⟨2⟩⟩⟩, .ready, none⟩, .serve 0,
      .handlerReturns 0 (.ok [1]), .replyEnds 0, .receive, .join 0, .exit]
    (fun q => q.2.dispatcher = .exited ∧ deliveredIds q.1 = [7]) (by decide +kernel)
  obtain ⟨hexited, hids⟩ := of_decide_eq_true hw
  refine ⟨tr, w, hrun, hexited, hids, ?_⟩
  have hlast := (answered_once hrun).2.2.2.2.2.2.2.2.2.2
  exact hlast hexited 7 (by rw [hids]; exact List.mem_singleton_self 7)

end Paraegox.Fabric
