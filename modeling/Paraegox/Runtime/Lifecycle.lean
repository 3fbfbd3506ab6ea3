import Paraegox.Runtime.HostRuns

/-!
# The lifecycle of owners

Between two calls the owner calls of a host are the starts of a prefix of its
owners and then, once it is down, the stops of those that may hold something, in
reverse.
-/

namespace Paraegox.Runtime

open Deck (CardKey)
open Bracket (attempted held)

/-! ## What is read off a trace -/

/-- The services by index, then the Cards as the lock has them. -/
def RuntimeHost.startOrder (host : RuntimeHost) : List LifecycleOwner :=
  (List.range host.coreServices.length).map .coreService ++
    match host.deck with
    | none => []
    | some deck => deck.lock.cards.map fun card => .card card.key

/-- After this call of `start` the owner may hold something. -/
def Invocation.mayHold (call : Invocation) : Bool :=
  match call.completion with
  | .ok => true
  | .failed _ => false
  | .elapsed => true

def Console.starts (c : Console) : List Invocation :=
  c.invocations.filter fun call => call.action = .start

def Console.stops (c : Console) : List Invocation :=
  c.invocations.filter fun call => call.action = .stop

/-- The owner calls of a host between two of its own calls. -/
structure Console.Bracketed (c : Console) (host : RuntimeHost) : Prop where
  invocations : c.invocations = c.starts ++ c.stops
  starts_order : c.starts.map Invocation.owner <+: host.startOrder
  starts_once : (c.starts.map Invocation.owner).Nodup
  stops_once : (c.stops.map Invocation.owner).Nodup
  stops_started : ∀ call ∈ c.stops, call.owner ∈ c.starts.map Invocation.owner
  down : c.snapshot.state = .stopped ∨ c.snapshot.state = .failed →
    c.stops.map Invocation.owner =
      ((c.starts.filter Invocation.mayHold).map Invocation.owner).reverse

/-! ## Owners by name -/

variable {host : RuntimeHost} {c : Console}

theorem RuntimeHost.owners_owner (host : RuntimeHost) :
    host.owners.map Managed.owner = host.startOrder := by
  have hservices : host.services.map Managed.owner =
      (List.range host.coreServices.length).map .coreService := by
    rw [services, List.map_map, List.range_eq_range', ← List.zipIdx_map_snd 0 host.coreServices,
      List.map_map]
    rfl
  have hcards : host.cards.map Managed.owner =
      match host.deck with
      | none => []
      | some deck => deck.lock.cards.map fun card => .card card.key := by
    rw [cards, slots]
    cases host.deck with
    | none => rfl
    | some deck =>
        calc (deck.slots.map CardSlot.managed).map Managed.owner
            = (deck.slots.map CardSlot.card).map fun card => .card card.key := by
              rw [List.map_map, List.map_map]
              rfl
          _ = deck.lock.cards.map fun card => .card card.key := by rw [deck.slots_card]
  rw [owners, List.map_append, hservices, hcards, startOrder]

/-- No owner stands twice in the order. -/
theorem RuntimeHost.startOrder_nodup (host : RuntimeHost) : host.startOrder.Nodup := by
  refine List.nodup_append.mpr ⟨?_, ?_, ?_⟩
  · exact List.nodup_range.map fun _ _ h => LifecycleOwner.coreService.inj h
  · cases host.deck with
    | none => exact List.nodup_nil
    | some deck =>
        have := deck.lock.keysDistinct.map fun _ _ h => LifecycleOwner.card.inj h
        rwa [List.map_map] at this
  · intro a ha b hb hab
    obtain ⟨i, -, rfl⟩ := List.mem_map.mp ha
    subst hab
    cases hdeck : host.deck with
    | none => simp [hdeck] at hb
    | some deck => simp [hdeck] at hb

/-! ## The calls of some starts and some stops -/

theorem starts_of_invocations {ms ns : List Managed}
    (h : c.invocations = ms.map Managed.started ++ ns.map Managed.stopped) :
    c.starts = ms.map Managed.started := by
  rw [Console.starts, h, List.filter_append, List.filter_eq_self.mpr, List.filter_eq_nil_iff.mpr,
    List.append_nil]
  · intro call hcall
    obtain ⟨m, -, rfl⟩ := List.mem_map.mp hcall
    simp [Managed.stopped]
  · intro call hcall
    obtain ⟨m, -, rfl⟩ := List.mem_map.mp hcall
    simp [Managed.started]

theorem stops_of_invocations {ms ns : List Managed}
    (h : c.invocations = ms.map Managed.started ++ ns.map Managed.stopped) :
    c.stops = ns.map Managed.stopped := by
  rw [Console.stops, h, List.filter_append, List.filter_eq_nil_iff.mpr, List.filter_eq_self.mpr,
    List.nil_append]
  · intro call hcall
    obtain ⟨m, -, rfl⟩ := List.mem_map.mp hcall
    simp [Managed.stopped]
  · intro call hcall
    obtain ⟨m, -, rfl⟩ := List.mem_map.mp hcall
    simp [Managed.started]

theorem mayHold_started (m : Managed) : m.started.mayHold = (m.opening ≠ .refused : Bool) := by
  rw [Invocation.mayHold, Managed.started, Managed.opening]
  cases m.start <;> rfl

/-- What may hold something is what the trace says. -/
theorem held_owner (ms : List Managed) :
    (((attempted Managed.opening ms).map Managed.started).filter Invocation.mayHold).map
      Invocation.owner = (held Managed.opening ms).map Managed.owner := by
  rw [List.filter_map, List.map_map, held]
  congr 1
  exact List.filter_congr fun m _ => mayHold_started m

/-- Starts of a prefix of the owners and stops of some of these, which are all that
may hold something once the host is down. -/
theorem Bracketed.of_invocations (ms ns : List Managed) (hms : ms <+: host.owners)
    (hns : ns.reverse.Sublist ms)
    (h : c.invocations = ms.map Managed.started ++ ns.map Managed.stopped)
    (hdown : c.snapshot.state = .stopped ∨ c.snapshot.state = .failed →
      ns.map Managed.owner =
        (((ms.map Managed.started).filter Invocation.mayHold).map Invocation.owner).reverse) :
    c.Bracketed host := by
  have hstarts := starts_of_invocations h
  have hstops := stops_of_invocations h
  have hstartOwners : c.starts.map Invocation.owner = ms.map Managed.owner := by
    rw [hstarts, List.map_map]
    rfl
  have hstopOwners : c.stops.map Invocation.owner = ns.map Managed.owner := by
    rw [hstops, List.map_map]
    rfl
  have horder : c.starts.map Invocation.owner <+: host.startOrder := by
    rw [hstartOwners, ← host.owners_owner]
    exact hms.map _
  have honce := host.startOrder_nodup.sublist horder.sublist
  have hsub : (ns.map Managed.owner).reverse.Sublist (ms.map Managed.owner) := by
    rw [← List.map_reverse]
    exact hns.map _
  refine ⟨by rw [h, hstarts, hstops], horder, honce, ?_, ?_, ?_⟩
  · rw [hstopOwners, ← List.nodup_reverse]
    rw [hstartOwners] at honce
    exact honce.sublist hsub
  · intro call hcall
    have hmem := List.mem_map_of_mem (f := Invocation.owner) hcall
    rw [hstopOwners, ← List.mem_reverse] at hmem
    rw [hstartOwners]
    exact hsub.subset hmem
  · intro hstate
    rw [hstopOwners, hdown hstate, hstarts]

theorem RuntimeHost.Position.bracketed (hp : host.Position c) : c.Bracketed host := by
  cases hp with
  | created hl hcalls =>
      refine Bracketed.of_invocations [] [] List.nil_prefix (.refl _) hcalls ?_
      rw [hl.state]
      intro h
      rcases h with h | h <;> cases h
  | ready hall hl hcalls =>
      refine Bracketed.of_invocations host.owners [] List.prefix_rfl
        (List.nil_sublist _) (by rw [hcalls, List.map_nil, List.append_nil]) ?_
      rw [hl.state]
      intro h
      rcases h with h | h <;> cases h
  | down hstate hcalls =>
      refine Bracketed.of_invocations _ _ (Bracket.attempted_prefix _) ?_ hcalls fun _ => ?_
      · rw [List.reverse_reverse]
        exact Bracket.held_sublist _
      · rw [held_owner, List.map_reverse]

/-! ## Main results -/

variable {identity : RuntimeHostIdentity} {coreServices : List CoreService}
  {deckLaunch : Option DeckLaunch} {deckRunId : DeckRunId} {freshId : Nat → CardInstanceId}
  {console : Console}

/-- Owners are started in order, each at most once, and stopped in reverse, each
exactly once if its start left something; a call out of turn does nothing. -/
theorem owners_bracketed
    (hbuild : RuntimeHost.build identity coreServices deckLaunch deckRunId freshId =
      .ok (host, console)) (calls : List HostCall) :
    (host.performAll console calls).Bracketed host ∧
    (∀ c : Console, c.snapshot.state ≠ .created → EStateM.run host.start c =
      .error (.error (.invalidTransition "start" c.snapshot.state)) c) ∧
    ∀ c : Console, c.snapshot.state ≠ .ready → EStateM.run host.stop c =
      .error (.error (.invalidTransition "stop" c.snapshot.state)) c :=
  ⟨((RuntimeHost.build_course hbuild).performAll calls).position.bracketed,
    fun _ => host.start_refused, fun _ => host.stop_refused⟩

/-- The second Card times out, and the first service's stop fails. -/
theorem owners_bracketed_timeout : ∃ host console,
    RuntimeHost.build ⟨⟨"host", by decide +kernel⟩, ⟨⟨0⟩⟩⟩
      [⟨.ok, .failed ⟨"stuck"⟩⟩, ⟨.ok, .ok⟩]
      (some ⟨⟨⟨"deck"⟩, [⟨⟨"a"⟩, ⟨"agent"⟩⟩, ⟨⟨"b"⟩, ⟨"agent"⟩⟩], "", by decide⟩,
        [⟨⟨"a"⟩, ⟨"agent"⟩, fun _ => .ok, .elapsed⟩, ⟨⟨"b"⟩, ⟨"agent"⟩, fun _ => .elapsed, .ok⟩],
        .cons ⟨rfl, rfl⟩ (.cons ⟨rfl, rfl⟩ .nil)⟩)
      ⟨⟨0⟩⟩ (fun i => ⟨⟨BitVec.ofNat 128 i⟩⟩) = .ok (host, console) ∧
    (host.performAll console [.stop, .start, .start]).stops.map Invocation.owner =
      [.card ⟨"b"⟩, .card ⟨"a"⟩, .coreService 1, .coreService 0] ∧
    (host.performAll console [.stop, .start, .start]).Bracketed host := by
  refine Exists.imp (fun host => Exists.imp fun console (h : _ ∧ _) =>
    ⟨h.1, h.2, (owners_bracketed h.1 _).1⟩) ⟨_, _, rfl, ?_⟩
  decide +kernel

end Paraegox.Runtime
