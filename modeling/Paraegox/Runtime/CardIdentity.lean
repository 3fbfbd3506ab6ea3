import Paraegox.Runtime.Attribution
import Paraegox.Runtime.Failures
import Paraegox.Runtime.Indexed

/-!
# Each Card under its own identity

A Deck launches with the implementations of its Cards, position by position, and from then
on each Card is started and stopped, published and reported as itself.
-/

namespace Paraegox.Runtime

open Deck (DeckLock)

variable {host : RuntimeHost}

/-! ## Launching -/

theorem implemented_iff {cards : List Deck.ResolvedCard}
    {implementations : List CardImplementation} :
    List.Forall₂ (fun card implementation => implementation.implements card) cards
      implementations ↔
      implementations.map (fun implementation =>
        (implementation.cardKey, implementation.definition)) =
      cards.map fun card => (card.key, card.definition) := by
  rw [eq_comm, ← List.forall₂_eq_eq_eq, List.forall₂_map_left_iff, List.forall₂_map_right_iff]
  have hpair (card : Deck.ResolvedCard) (implementation : CardImplementation) :
      implementation.implements card ↔
        (card.key, card.definition) = (implementation.cardKey, implementation.definition) := by
    rw [CardImplementation.implements, Prod.mk.injEq, eq_comm, eq_comm (a := card.definition)]
  simp only [hpair]

theorem DeckLaunch.new_ok {lock : DeckLock} {implementations : List CardImplementation}
    {launch : DeckLaunch} (h : DeckLaunch.new lock implementations = .ok launch) :
    launch.lock = lock ∧ launch.implementations = implementations := by
  rw [new] at h
  split_ifs at h
  split at h
  · cases h
  · cases h
    exact ⟨rfl, rfl⟩

theorem DeckLaunch.new_ok_iff {lock : DeckLock} {implementations : List CardImplementation} :
    (∃ launch, DeckLaunch.new lock implementations = .ok launch) ↔
      implementations.map (fun implementation =>
        (implementation.cardKey, implementation.definition)) =
      lock.cards.map fun card => (card.key, card.definition) := by
  rw [← implemented_iff]
  constructor
  · rintro ⟨launch, h⟩
    obtain ⟨rfl, rfl⟩ := new_ok h
    exact launch.implemented
  · intro h
    have hlen : ¬ implementations.length ≠ lock.cards.length := not_not.mpr h.length_eq.symm
    rw [new, dif_neg hlen]
    split
    · next hmismatch => cases (no_mismatch_of_implemented h).symm.trans hmismatch
    · exact ⟨_, rfl⟩

theorem cardSnapshots_context {n : Nat} {cards : List Deck.ResolvedCard}
    {implementations : List CardImplementation} {ids : List CardInstanceId}
    (himpl : implementations.length = cards.length) (hids : ids.length = cards.length) :
    (cardSnapshots cards ids).map CardInstanceSnapshot.context =
      (cardSlots n cards implementations ids).map CardSlot.context := by
  induction cards generalizing n implementations ids with
  | nil => rfl
  | cons card cards ih =>
      cases implementations with
      | nil => cases himpl
      | cons implementation implementations =>
          cases ids with
          | nil => cases hids
          | cons cardInstanceId ids =>
              rw [cardSlots, List.map_cons, cardSnapshots, List.zipWith_cons_cons, List.map_cons,
                ← ih (Nat.succ.inj himpl) (Nat.succ.inj hids)]
              rfl

section

variable {identity : RuntimeHostIdentity} {coreServices : List CoreService}
  {launch : DeckLaunch} {deckRunId : DeckRunId} {freshId : Nat → CardInstanceId}
  {console : Console}

/-- A host with a Deck, as it is built. -/
theorem RuntimeHost.build_aligned
    (h : RuntimeHost.build identity coreServices (some launch) deckRunId freshId =
      .ok (host, console)) :
    Aligned host console.snapshot ∧ console.trace = [] ∧
      ∃ deck, host.deck = some deck ∧ deck.lock = launch.lock ∧
        deck.implementations = launch.implementations := by
  simp only [build] at h
  split_ifs at h
  simp only [Except.ok.injEq, Prod.mk.injEq] at h
  obtain ⟨rfl, rfl⟩ := h
  exact ⟨cardSnapshots_context launch.implemented.length_eq.symm (by simp), rfl, _, rfl, rfl, rfl⟩

end

/-! ## Runs -/

/-- The failures an error holds. -/
def RuntimeHostError.failures : RuntimeHostError → List LifecycleFailure
  | .invalidTransition _ _ => []
  | .startFailed failure cleanupFailures => failure :: cleanupFailures
  | .stopFailed failures => failures

theorem Invocation.owner_of_mem_failures {call : Invocation} {deadline : Nat}
    {failure : LifecycleFailure} (h : failure ∈ call.failures deadline) :
    failure.owner = call.owner := by
  rw [failures] at h
  cases hcompletion : call.completion <;>
    simp [hcompletion, Completion.result, failureOf] at h <;> rw [h]

/-- A reported failure is the failure of a call. -/
theorem RuntimeHost.Reported.failure {c c' : Console} {call : HostCall} {e : RuntimeHostError}
    (h : host.Reported c call (.error e) c') {failure : LifecycleFailure}
    (hfailure : failure ∈ e.failures) :
    ∃ invocation ∈ c'.invocations, failure ∈ invocation.failures host.lifecycleTimeout := by
  have hstarts : ∀ invocation ∈ c'.starts, invocation ∈ c'.invocations :=
    fun _ h => (List.mem_filter.mp h).1
  have hstops : ∀ invocation ∈ c'.stops, invocation ∈ c'.invocations :=
    fun _ h => (List.mem_filter.mp h).1
  cases call with
  | start =>
      rw [Reported] at h
      split_ifs at h
      · obtain ⟨failure', hstarted, heq, -⟩ := h.failed Except.error_ne_ok
        cases heq
        rcases List.mem_cons.mp hfailure with rfl | hfailure
        · obtain ⟨invocation, hmem, hf⟩ :=
            List.mem_flatMap.mp (hstarted ▸ List.mem_singleton_self failure)
          exact ⟨invocation, hstarts _ hmem, hf⟩
        · obtain ⟨invocation, hmem, hf⟩ := List.mem_flatMap.mp hfailure
          exact ⟨invocation, hstops _ hmem, hf⟩
      · cases h.1
        cases hfailure
  | stop =>
      rw [Reported] at h
      split_ifs at h
      · obtain ⟨heq, -⟩ := h.failed Except.error_ne_ok
        cases heq
        obtain ⟨invocation, hmem, hf⟩ := List.mem_flatMap.mp hfailure
        exact ⟨invocation, hstops _ hmem, hf⟩
      · cases h.1
        cases hfailure

theorem hostResult_after {c c' : Console} {x : Hosted Unit} {result : Except RuntimeHostError Unit}
    (h : EStateM.run x c = hostResult result c') : c.after x = c' := by
  rw [Console.after, h]
  cases result <;> rfl

/-! ## Main results -/

/-- A Deck launches just with the implementations of its Cards in their order.  Then no index
of `start` or `stop` is out of range, a Card is called through its own implementation under
its own identity, its states are written to its own entry, and its failures bear its key. -/
theorem cards_run_as_themselves (lock : DeckLock) (implementations : List CardImplementation) :
    ((∃ launch, DeckLaunch.new lock implementations = .ok launch) ↔
      implementations.map (fun implementation =>
        (implementation.cardKey, implementation.definition)) =
      lock.cards.map fun card => (card.key, card.definition)) ∧
    ∀ launch, DeckLaunch.new lock implementations = .ok launch →
    ∀ identity coreServices deckRunId freshId host console,
      RuntimeHost.build identity coreServices (some launch) deckRunId freshId =
        .ok (host, console) →
      (∃ deck, host.deck = some deck ∧ deck.lock = lock ∧
        deck.implementations = implementations) ∧
      ∀ calls call, ∃ result c',
        EStateM.run (host.performAt call) (host.performAllAt console calls) =
          hostResult result c' ∧
        Attributed host console.snapshot c'.trace c'.snapshot ∧
        ∀ e, result = .error e → ∀ failure ∈ e.failures, ∀ key, failure.owner = .card key →
          ∃ s invocation, OwnCall host s key invocation ∧ .invoked invocation ∈ c'.trace ∧
            failure ∈ invocation.failures host.lifecycleTimeout := by
  refine ⟨DeckLaunch.new_ok_iff, ?_⟩
  intro launch hlaunch identity coreServices deckRunId freshId host console hbuild
  obtain ⟨haligned, htrace, deck, hdeck, hlock, himpls⟩ := RuntimeHost.build_aligned hbuild
  obtain ⟨hlock', himpls'⟩ := DeckLaunch.new_ok hlaunch
  refine ⟨⟨deck, hdeck, hlock.trans hlock', himpls.trans himpls'⟩, ?_⟩
  intro calls call
  rw [host.performAt_eq, host.performAllAt_eq]
  obtain ⟨result, c', hrun, hreported⟩ :=
    ((RuntimeHost.build_course hbuild).performAll calls).reported call
  -- The trace of the calls so far and of this one.
  obtain ⟨events, htrace₁, hevents₁, hc₁⟩ := Attributes.performAll haligned calls
  obtain ⟨events', htrace₂, hevents₂, -⟩ := Attributes.perform call _ hc₁
  rw [hostResult_after hrun] at htrace₂ hevents₂
  rw [htrace, List.nil_append] at htrace₁
  have hall : Attributed host console.snapshot c'.trace c'.snapshot := by
    rw [htrace₂, htrace₁]
    exact hevents₁.trans hevents₂
  refine ⟨result, c', hrun, hall, ?_⟩
  rintro e rfl failure hfailure key howner
  obtain ⟨invocation, hmem, hf⟩ := hreported.failure hfailure
  have hinvoked : .invoked invocation ∈ c'.trace := by
    obtain ⟨event, hevent, hsome⟩ := List.mem_filterMap.mp hmem
    cases event with
    | published _ => cases hsome
    | invoked call =>
        cases hsome
        exact hevent
  obtain ⟨s, hown⟩ :=
    hall.ownCall hinvoked ((Invocation.owner_of_mem_failures hf).symm.trans howner)
  exact ⟨s, invocation, hown, hinvoked, hf⟩

/-- Two Cards of one definition, of which the second does not start. -/
theorem cards_run_as_themselves_two : ∃ launch host console,
    DeckLaunch.new ⟨⟨"deck"⟩, [⟨⟨"a"⟩, ⟨"agent"⟩⟩, ⟨⟨"b"⟩, ⟨"agent"⟩⟩], "", by decide⟩
      [⟨⟨"a"⟩, ⟨"agent"⟩, fun _ => .ok, .ok⟩, ⟨⟨"b"⟩, ⟨"agent"⟩, fun _ => .failed ⟨"no"⟩, .ok⟩] =
      .ok launch ∧
    RuntimeHost.build ⟨⟨"launched-host", by decide +kernel⟩, ⟨⟨0⟩⟩⟩ [] (some launch) ⟨⟨0⟩⟩
      (fun i => ⟨⟨BitVec.ofNat 128 i⟩⟩) = .ok (host, console) ∧
    ∃ result c', EStateM.run (host.performAt .start) console = hostResult result c' ∧
      Attributed host console.snapshot c'.trace c'.snapshot := by
  obtain ⟨launch, hlaunch⟩ := (cards_run_as_themselves
    ⟨⟨"deck"⟩, [⟨⟨"a"⟩, ⟨"agent"⟩⟩, ⟨⟨"b"⟩, ⟨"agent"⟩⟩], "", by decide⟩
    [⟨⟨"a"⟩, ⟨"agent"⟩, fun _ => .ok, .ok⟩,
      ⟨⟨"b"⟩, ⟨"agent"⟩, fun _ => .failed ⟨"no"⟩, .ok⟩]).1.mpr rfl
  refine ⟨launch, _, _, hlaunch, rfl, ?_⟩
  obtain ⟨-, hruns⟩ := (cards_run_as_themselves _ _).2 launch hlaunch
    ⟨⟨"launched-host", by decide +kernel⟩, ⟨⟨0⟩⟩⟩ [] ⟨⟨0⟩⟩ (fun i => ⟨⟨BitVec.ofNat 128 i⟩⟩) _ _ rfl
  obtain ⟨result, c', hrun, hall, -⟩ := hruns [] .start
  exact ⟨result, c', hrun, hall⟩

end Paraegox.Runtime
