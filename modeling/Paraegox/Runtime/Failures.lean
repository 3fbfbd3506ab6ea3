import Paraegox.Lib.Except
import Paraegox.Runtime.Lifecycle

/-!
# What a host reports

Every failure of `start` and `stop` is the failure of a call that the host made of an
owner, and every call that failed is reported, in the order of the calls.
-/

namespace Paraegox.Runtime

open Bracket (AllOpen attempted held)

/-- A call of an owner of the host, which ends as that owner was to end. -/
inductive Invocation.Scripted (host : RuntimeHost) : Invocation → Prop where
  | serviceStart {index : Nat} {service : CoreService}
      (h : host.coreServices[index]? = some service) :
      Scripted host ⟨.coreService index, .start, none, service.start⟩
  | serviceStop {index : Nat} {service : CoreService}
      (h : host.coreServices[index]? = some service) :
      Scripted host ⟨.coreService index, .stop, none, service.stop⟩
  | cardStart {slot : CardSlot} (h : slot ∈ host.slots) :
      Scripted host ⟨.card slot.card.key, .start, some slot.context,
        slot.implementation.start slot.context⟩
  | cardStop {slot : CardSlot} (h : slot ∈ host.slots) :
      Scripted host ⟨.card slot.card.key, .stop, none, slot.implementation.stop⟩

/-- What the `start` of a created host comes to. -/
structure StartReport (host : RuntimeHost) (result : Except RuntimeHostError Unit) (c : Console) :
    Prop where
  ok_iff : result = .ok () ↔ ∀ call ∈ c.starts, call.completion = .ok
  started : result = .ok () →
    c.starts.map Invocation.owner = host.startOrder ∧ c.stops = [] ∧ c.snapshot.state = .ready
  failed : result ≠ .ok () → ∃ failure,
    c.starts.flatMap (Invocation.failures host.lifecycleTimeout) = [failure] ∧
    result = .error (.startFailed failure
      (c.stops.flatMap (Invocation.failures host.lifecycleTimeout))) ∧
    c.snapshot.state = .failed
  scripted : ∀ call ∈ c.invocations, call.Scripted host

/-- What the `stop` of a ready host comes to. -/
structure StopReport (host : RuntimeHost) (result : Except RuntimeHostError Unit) (c : Console) :
    Prop where
  stopped_all : c.stops.map Invocation.owner = host.startOrder.reverse
  ok_iff : result = .ok () ↔ ∀ call ∈ c.stops, call.completion = .ok
  stopped : result = .ok () → c.snapshot.state = .stopped
  failed : result ≠ .ok () →
    result = .error (.stopFailed
      (c.stops.flatMap (Invocation.failures host.lifecycleTimeout))) ∧
    c.snapshot.state = .failed
  scripted : ∀ call ∈ c.invocations, call.Scripted host

/-- What a call comes to.  Out of turn it names the state and changes nothing. -/
def RuntimeHost.Reported (host : RuntimeHost) (c : Console) :
    HostCall → Except RuntimeHostError Unit → Console → Prop
  | .start, result, c' =>
      if c.snapshot.state = .created then StartReport host result c'
      else result = .error (.invalidTransition "start" c.snapshot.state) ∧ c' = c
  | .stop, result, c' =>
      if c.snapshot.state = .ready then StopReport host result c'
      else result = .error (.invalidTransition "stop" c.snapshot.state) ∧ c' = c

variable {host : RuntimeHost} {c : Console}

/-! ## Calls of owners -/

/-- The calls of an owner are scripted. -/
theorem scripted_of_mem {m : Managed} (h : m ∈ host.owners) :
    m.started.Scripted host ∧ m.stopped.Scripted host := by
  rcases List.mem_append.mp h with h | h
  · obtain ⟨⟨service, index⟩, hmem, rfl⟩ := List.mem_map.mp h
    have hget := List.mk_mem_zipIdx_iff_getElem?.mp hmem
    exact ⟨.serviceStart hget, .serviceStop hget⟩
  · obtain ⟨slot, hslot, rfl⟩ := List.mem_map.mp h
    exact ⟨.cardStart hslot, .cardStop hslot⟩

theorem scripted_of_invocations {ms ns : List Managed} (hms : ms ⊆ host.owners)
    (hns : ns ⊆ host.owners)
    (h : c.invocations = ms.map Managed.started ++ ns.map Managed.stopped) :
    ∀ call ∈ c.invocations, call.Scripted host := by
  rw [h]
  intro call hcall
  rcases List.mem_append.mp hcall with hcall | hcall
  · obtain ⟨m, hm, rfl⟩ := List.mem_map.mp hcall
    exact (scripted_of_mem (hms hm)).1
  · obtain ⟨m, hm, rfl⟩ := List.mem_map.mp hcall
    exact (scripted_of_mem (hns hm)).2

theorem completion_started_of_allOpen {ms : List Managed} (h : AllOpen Managed.opening ms) :
    ∀ call ∈ ms.map Managed.started, call.completion = .ok := by
  intro call hcall
  obtain ⟨m, hm, rfl⟩ := List.mem_map.mp hcall
  exact Completion.opening_eq_opened.mp (h m hm)

/-- No failure just where every call ended well. -/
theorem flatMap_failures_eq_nil {calls : List Invocation} {deadline : Nat} :
    calls.flatMap (Invocation.failures deadline) = [] ↔
      ∀ call ∈ calls, call.completion = .ok := by
  rw [List.flatMap_eq_nil_iff]
  refine forall₂_congr ?_
  intro call _
  rw [Invocation.failures]
  cases call.completion <;> simp [Completion.result, failureOf]

/-! ## Starting -/

theorem start_reported_open {s₀ : RuntimeHostSnapshot}
    (hall : AllOpen Managed.opening host.owners)
    (hl : Level host .created .created .created c.snapshot)
    (hfix : c.snapshot.fixedPart = s₀.fixedPart) (hcalls : c.invocations = []) :
    ∃ result c', EStateM.run host.start c = hostResult result c' ∧
      StartReport host result c' := by
  obtain ⟨c', hrun, hl', -⟩ := RuntimeHost.start_open hall hl hfix
  have hinv : c'.invocations = host.owners.map Managed.started ++ [].map Managed.stopped := by
    rw [hrun.invocations, hcalls, List.nil_append, List.map_nil, List.append_nil]
  have hstarts := starts_of_invocations hinv
  have hstops := stops_of_invocations hinv
  refine ⟨_, c', hrun.run, ⟨?_, fun _ => ⟨?_, hstops, hl'.state⟩, fun h => absurd rfl h,
    scripted_of_invocations (List.Subset.refl _) (List.nil_subset _) hinv⟩⟩
  · rw [hstarts]
    exact iff_of_true rfl (completion_started_of_allOpen hall)
  · rw [hstarts, List.map_map]
    exact host.owners_owner

theorem start_reported_rollback {s₀ : RuntimeHostSnapshot}
    (hnot : ¬ AllOpen Managed.opening host.owners)
    (hl : Level host .created .created .created c.snapshot)
    (hfix : c.snapshot.fixedPart = s₀.fixedPart) (hcalls : c.invocations = []) :
    ∃ result c', EStateM.run host.start c = hostResult result c' ∧
      StartReport host result c' := by
  obtain ⟨failure, cleanup, c', hrun, hfailures, hstate, -⟩ :=
    RuntimeHost.start_rollback hnot hl hfix
  have hsplit : (Bracket.ascent Managed.opening host.owners).map invocationOf =
      (attempted Managed.opening host.owners).map Managed.started ++
        (held Managed.opening host.owners).reverse.map Managed.stopped := by
    rw [Bracket.ascent, if_neg hnot, List.map_append, List.map_map, List.map_map]
    rfl
  have hinv := hrun.invocations
  rw [hcalls, List.nil_append, hsplit] at hinv
  rw [hsplit, List.flatMap_append] at hfailures
  have hstarts := starts_of_invocations hinv
  have hstops := stops_of_invocations hinv
  -- The last of the starts is the one that failed.
  obtain ⟨opened, m, hattempted, hopened, hm⟩ := Bracket.attempted_of_not hnot
  obtain ⟨failure', hfailure'⟩ := Completion.result_of_ne
    (fun h => hm (Completion.opening_eq_opened.mpr h)) m.owner .start host.lifecycleTimeout
  have hone : ((attempted Managed.opening host.owners).map Managed.started).flatMap
      (Invocation.failures host.lifecycleTimeout) = [failure'] := by
    rw [hattempted, List.map_append, List.flatMap_append, flatMap_failures_started_open hopened,
      List.map_singleton, List.flatMap_singleton, failures_started_of_error hfailure',
      List.nil_append]
  rw [hone, List.singleton_append, ← hstops] at hfailures
  obtain ⟨rfl, rfl⟩ := List.cons.inj hfailures
  rw [← hstarts] at hone
  have hprefix := Bracket.attempted_prefix (f := Managed.opening) host.owners
  refine ⟨_, c', hrun.run, ⟨?_, fun h => absurd h Except.error_ne_ok,
    fun _ => ⟨failure', hone, rfl, hstate⟩,
    scripted_of_invocations hprefix.subset ?_ hinv⟩⟩
  · rw [← @flatMap_failures_eq_nil _ host.lifecycleTimeout, hone]
    exact iff_of_false Except.error_ne_ok (List.cons_ne_nil _ _)
  · intro m hm
    exact hprefix.subset ((Bracket.held_sublist _).subset (List.mem_reverse.mp hm))

/-! ## Stopping -/

theorem stop_reported {s₀ : RuntimeHostSnapshot}
    (hl : Level host .ready .ready .ready c.snapshot)
    (hfix : c.snapshot.fixedPart = s₀.fixedPart)
    (hcalls : c.invocations = host.owners.map Managed.started) :
    ∃ result c', EStateM.run host.stop c = hostResult result c' ∧ StopReport host result c' := by
  obtain ⟨c', hrun, hstate, -⟩ := RuntimeHost.stop_runs hl hfix
  have hinv : c'.invocations =
      host.owners.map Managed.started ++ host.owners.reverse.map Managed.stopped := by
    rw [hrun.invocations, hcalls]
  have hstops := stops_of_invocations hinv
  have hfailures : c'.stops.flatMap (Invocation.failures host.lifecycleTimeout) =
      host.owners.reverse.flatMap fun m => m.stopFailures host.lifecycleTimeout := by
    rw [hstops, flatMap_failures_stopped]
  have hreversed : host.owners.reverse ⊆ host.owners := fun m hm => List.mem_reverse.mp hm
  have hscripted := scripted_of_invocations (List.Subset.refl _) hreversed hinv
  have hall : c'.stops.map Invocation.owner = host.startOrder.reverse := by
    rw [hstops, List.map_map, ← host.owners_owner, ← List.map_reverse]
    rfl
  rw [← hfailures] at hrun hstate
  refine ⟨_, c', hrun.run, ?_⟩
  rw [stopReport]
  split_ifs at hstate ⊢ with hnone
  · have hok := flatMap_failures_eq_nil.mp hnone
    exact ⟨hall, iff_of_true rfl hok, fun _ => hstate, fun h => absurd rfl h, hscripted⟩
  · have hnot := fun h => hnone (flatMap_failures_eq_nil.mpr h)
    exact ⟨hall, iff_of_false Except.error_ne_ok hnot, fun h => absurd h Except.error_ne_ok,
      fun _ => ⟨rfl, hstate⟩, hscripted⟩

/-! ## Main results -/

/-- A created host reports its start. -/
theorem start_reported {s₀ : RuntimeHostSnapshot}
    (hl : Level host .created .created .created c.snapshot)
    (hfix : c.snapshot.fixedPart = s₀.fixedPart) (hcalls : c.invocations = []) :
    ∃ result c', EStateM.run host.start c = hostResult result c' ∧
      StartReport host result c' := by
  cases Decidable.em (AllOpen Managed.opening host.owners) with
  | inl hall => exact start_reported_open hall hl hfix hcalls
  | inr hnot => exact start_reported_rollback hnot hl hfix hcalls

/-- A host on its course reports every call. -/
theorem RuntimeHost.Course.reported {s₀ : RuntimeHostSnapshot} (hc : host.Course s₀ c)
    (call : HostCall) :
    ∃ result c', EStateM.run (host.perform call) c = hostResult result c' ∧
      host.Reported c call result c' := by
  cases call with
  | start =>
      cases Decidable.em (c.snapshot.state = .created) with
      | inr hstate =>
          refine ⟨.error (.invalidTransition "start" c.snapshot.state), c,
            host.start_refused hstate, ?_⟩
          rw [Reported, if_neg hstate]
          exact ⟨rfl, rfl⟩
      | inl hstate =>
          simp only [Reported, if_pos hstate]
          cases hc.position with
          | created hl hcalls => exact start_reported hl hc.good.fixedPart hcalls
          | ready _ hl _ => cases hl.state.symm.trans hstate
          | down hdown _ => rcases hdown with hdown | hdown <;> cases hdown.symm.trans hstate
  | stop =>
      cases Decidable.em (c.snapshot.state = .ready) with
      | inr hstate =>
          refine ⟨.error (.invalidTransition "stop" c.snapshot.state), c,
            host.stop_refused hstate, ?_⟩
          rw [Reported, if_neg hstate]
          exact ⟨rfl, rfl⟩
      | inl hstate =>
          simp only [Reported, if_pos hstate]
          cases hc.position with
          | created hl _ => cases hl.state.symm.trans hstate
          | ready _ hl hcalls => exact stop_reported hl hc.good.fixedPart hcalls
          | down hdown _ => rcases hdown with hdown | hdown <;> cases hdown.symm.trans hstate

variable {identity : RuntimeHostIdentity} {coreServices : List CoreService}
  {deckLaunch : Option DeckLaunch} {deckRunId : DeckRunId} {freshId : Nat → CardInstanceId}
  {console : Console}

/-- Whatever was called before, `start` and `stop` report the calls of owners that failed,
each under its owner, and all of them. -/
theorem failures_reported
    (hbuild : RuntimeHost.build identity coreServices deckLaunch deckRunId freshId =
      .ok (host, console)) (calls : List HostCall) (call : HostCall) :
    ∃ result c', EStateM.run (host.perform call) (host.performAll console calls) =
      hostResult result c' ∧ host.Reported (host.performAll console calls) call result c' :=
  ((RuntimeHost.build_course hbuild).performAll calls).reported call

/-- The second Card times out twice, the first Card and the first service do not stop. -/
theorem failures_reported_timeout : ∃ host console,
    RuntimeHost.build ⟨⟨"reporting-host", by decide +kernel⟩, ⟨⟨0⟩⟩⟩
      [⟨.ok, .failed ⟨"stuck"⟩⟩, ⟨.ok, .ok⟩]
      (some ⟨⟨⟨"deck"⟩, [⟨⟨"a"⟩, ⟨"agent"⟩⟩, ⟨⟨"b"⟩, ⟨"agent"⟩⟩], "", by decide⟩,
        [⟨⟨"a"⟩, ⟨"agent"⟩, fun _ => .ok, .failed ⟨"busy"⟩⟩,
          ⟨⟨"b"⟩, ⟨"agent"⟩, fun _ => .elapsed, .elapsed⟩],
        .cons ⟨rfl, rfl⟩ (.cons ⟨rfl, rfl⟩ .nil)⟩)
      ⟨⟨0⟩⟩ (fun i => ⟨⟨BitVec.ofNat 128 i⟩⟩) = .ok (host, console) ∧
    (∃ c', EStateM.run host.start console = .error (.error (.startFailed
      ⟨.card ⟨"b"⟩, .start, .timedOut OWNER_LIFECYCLE_TIMEOUT⟩
      [⟨.card ⟨"b"⟩, .stop, .timedOut OWNER_LIFECYCLE_TIMEOUT⟩,
        ⟨.card ⟨"a"⟩, .stop, .owner ⟨"busy"⟩⟩,
        ⟨.coreService 0, .stop, .owner ⟨"stuck"⟩⟩])) c') ∧
    ∃ result c', EStateM.run host.start console = hostResult result c' ∧
      host.Reported console .start result c' := by
  refine Exists.imp (fun host => Exists.imp fun console (h : _ ∧ _) =>
    ⟨h.1, h.2, failures_reported h.1 [] .start⟩) ⟨_, _, rfl, _, rfl⟩

end Paraegox.Runtime
