import Paraegox.Runtime.HostCards

/-!
# The loops of a host by index

`start` and `stop` count through four vectors at once: the Cards of the lock, their
implementations, their instance identifiers and the Cards of the snapshot.  An index past
the end of one of the first three panics.  The vectors are of one length, so the loops do
what they do on the slots.
-/

namespace Paraegox.Runtime

/-! ## The loops -/

/-- `items[index]`. -/
def itemAt {α : Type} (items : List α) (index : Nat) : Hosted α :=
  Exec.expect items[index]? "index out of bounds"

/-- `DeckOwner::context`. -/
def DeckOwner.contextAt (deck : DeckOwner) (index : Nat) : Hosted CardContext := do
  let card ← itemAt deck.lock.cards index
  let cardInstanceId ← itemAt deck.cardInstanceIds index
  pure ⟨cardInstanceId, card.key, card.definition⟩

/-- The loop of `stop_started_services` over the indices still to stop. -/
def stopServicesAt (deadline : Nat) (coreServices : List CoreService) :
    List Nat → Hosted (List LifecycleFailure)
  | [] => pure []
  | index :: rest => do
      let service ← itemAt coreServices index
      let result ← invokeOwner (.coreService index) .stop deadline none service.stop
      let failures ← stopServicesAt deadline coreServices rest
      pure (failureOf result ++ failures)

/-- Stop the Card at an index between its two status writes. -/
def stopCardAt (deadline : Nat) (deck : DeckOwner) (owner : Hosted LifecycleOwner) (index : Nat) :
    Hosted (Except LifecycleFailure Unit) := do
  setCardState index .stopping
  let owner ← owner
  let implementation ← itemAt deck.implementations index
  let result ← invokeOwner owner .stop deadline none implementation.stop
  match result with
  | .ok () => setCardState index .stopped
  | .error _ => setCardState index .failed
  pure result

/-- The loop of `stop_started_cards` over the indices still to stop. -/
def stopCardsAt (deadline : Nat) (deck : DeckOwner) : List Nat → Hosted (List LifecycleFailure)
  | [] => pure []
  | index :: rest => do
      let result ← stopCardAt deadline deck
        (do
          let card ← itemAt deck.lock.cards index
          pure (.card card.key)) index
      let failures ← stopCardsAt deadline deck rest
      pure (failureOf result ++ failures)

namespace RuntimeHost

/-- The service loop of `start`. -/
def startServicesAt (host : RuntimeHost) (started : Nat) : List Nat → Hosted Nat
  | [] => pure started
  | index :: rest => do
      let service ← itemAt host.coreServices index
      let result ←
        invokeOwner (.coreService index) .start host.lifecycleTimeout none service.start
      match result with
      | .ok () => host.startServicesAt (started + 1) rest
      | .error failure =>
          let interrupted ← stopInterrupted failure (do
            let service ← itemAt host.coreServices index
            invokeOwner (.coreService index) .stop host.lifecycleTimeout none service.stop)
          let cleanupFailures ←
            stopServicesAt host.lifecycleTimeout host.coreServices (List.range started).reverse
          setDeckRunState .failed
          setState .failed
          Exec.fail (.startFailed failure (interrupted ++ cleanupFailures))

/-- The Card loop of `start`. -/
def startCardsAt (host : RuntimeHost) (deck : DeckOwner) (started : Nat) :
    List Nat → Hosted (Option (LifecycleFailure × List LifecycleFailure))
  | [] => pure none
  | index :: rest => do
      let card ← itemAt deck.lock.cards index
      let context ← deck.contextAt index
      setCardState index .starting
      let implementation ← itemAt deck.implementations index
      let result ← invokeOwner (.card card.key) .start host.lifecycleTimeout (some context)
        (implementation.start context)
      match result with
      | .ok () =>
          setCardState index .ready
          host.startCardsAt deck (started + 1) rest
      | .error failure =>
          setCardState index .failed
          let interrupted ← stopInterrupted failure
            (stopCardAt host.lifecycleTimeout deck (pure (.card card.key)) index)
          let cleanupFailures ←
            stopCardsAt host.lifecycleTimeout deck (List.range started).reverse
          setDeckRunState .failed
          pure (some (failure, interrupted ++ cleanupFailures))

/-- The Deck part of `start`. -/
def startDeckAt (host : RuntimeHost) :
    Hosted (Option (LifecycleFailure × List LifecycleFailure)) :=
  match host.deck with
  | none => pure none
  | some deck => do
      setDeckRunState .starting
      let deckStartFailure ←
        host.startCardsAt deck 0 (List.range deck.implementations.length)
      if deckStartFailure.isNone then setDeckRunState .ready
      pure deckStartFailure

/-- `RuntimeHost::start`. -/
def startAt (host : RuntimeHost) : Hosted Unit := do
  requireState "start" .created
  setState .starting
  let started ← host.startServicesAt 0 (List.range host.coreServices.length)
  match ← host.startDeckAt with
  | some (failure, cleanupFailures) =>
      let serviceFailures ←
        stopServicesAt host.lifecycleTimeout host.coreServices (List.range started).reverse
      setState .failed
      Exec.fail (.startFailed failure (cleanupFailures ++ serviceFailures))
  | none => setState .ready

/-- The Deck part of `stop`. -/
def stopDeckAt (host : RuntimeHost) : Hosted (List LifecycleFailure) :=
  match host.deck with
  | none => pure []
  | some deck => do
      setDeckRunState .stopping
      let failures ← stopCardsAt host.lifecycleTimeout deck
        (List.range deck.implementations.length).reverse
      setDeckRunState (if failures.isEmpty then .stopped else .failed)
      pure failures

/-- `RuntimeHost::stop`. -/
def stopAt (host : RuntimeHost) : Hosted Unit := do
  requireState "stop" .ready
  setState .stopping
  let cardFailures ← host.stopDeckAt
  let serviceFailures ← stopServicesAt host.lifecycleTimeout host.coreServices
    (List.range host.coreServices.length).reverse
  if (cardFailures ++ serviceFailures).isEmpty then setState .stopped
  else
    setState .failed
    Exec.fail (.stopFailed (cardFailures ++ serviceFailures))

def performAt (host : RuntimeHost) : HostCall → Hosted Unit
  | .start => host.startAt
  | .stop => host.stopAt

/-- The console after some calls, each run to completion. -/
def performAllAt (host : RuntimeHost) (console : Console) (calls : List HostCall) : Console :=
  calls.foldl (fun console call => console.after (host.performAt call)) console

end RuntimeHost

/-! ## Services -/

theorem itemAt_of {α : Type} {items : List α} {index : Nat} {a : α}
    (h : items[index]? = some a) : itemAt items index = pure a := by
  rw [itemAt, h]
  rfl

theorem zipIdx_take_snd {α : Type} {items : List α} {n : Nat} (h : n ≤ items.length) :
    (items.zipIdx.take n).map Prod.snd = List.range n := by
  rw [List.map_take, List.zipIdx_map_snd, ← List.range_eq_range', List.take_range,
    Nat.min_eq_left h]

theorem stopServicesAt_eq {deadline : Nat} {coreServices : List CoreService}
    {l : List (CoreService × Nat)} (hl : ∀ p ∈ l, coreServices[p.2]? = some p.1) :
    stopServicesAt deadline coreServices (l.map Prod.snd) = stopServices deadline l := by
  induction l with
  | nil => rfl
  | cons p l ih =>
      rw [List.map_cons, stopServicesAt, itemAt_of (hl p List.mem_cons_self), pure_bind,
        ih fun q hq => hl q (List.mem_cons_of_mem _ hq)]
      rfl

namespace RuntimeHost

variable (host : RuntimeHost)

theorem getElem?_of_mem_zipIdx {p : CoreService × Nat} (h : p ∈ host.coreServices.zipIdx) :
    host.coreServices[p.2]? = some p.1 :=
  List.mk_mem_zipIdx_iff_getElem?.mp h

theorem stopStartedServices_eq {started : Nat} (h : started ≤ host.coreServices.length) :
    stopServicesAt host.lifecycleTimeout host.coreServices (List.range started).reverse =
      host.stopStartedServices started := by
  rw [stopStartedServices, ← zipIdx_take_snd h, ← List.map_reverse]
  exact stopServicesAt_eq fun p hp =>
    host.getElem?_of_mem_zipIdx (List.mem_of_mem_take (List.mem_reverse.mp hp))

theorem startServicesAt_eq {done rest : List (CoreService × Nat)}
    (hsplit : host.coreServices.zipIdx = done ++ rest) :
    host.startServicesAt done.length (rest.map Prod.snd) =
      host.startServices done.length rest := by
  induction rest generalizing done with
  | nil => rfl
  | cons p rest ih =>
      have hget := host.getElem?_of_mem_zipIdx (p := p) (by simp [hsplit])
      have hlen : done.length ≤ host.coreServices.length := by
        have := congrArg List.length hsplit
        rw [List.length_zipIdx, List.length_append] at this
        omega
      have hsplit' : host.coreServices.zipIdx = (done ++ [p]) ++ rest := by simp [hsplit]
      have hrest := ih hsplit'
      rw [List.length_append, List.length_singleton] at hrest
      rw [List.map_cons, startServicesAt, itemAt_of hget, pure_bind, hrest,
        host.stopStartedServices_eq hlen]
      rfl

end RuntimeHost

/-! ## Cards -/

section

variable {deck : DeckOwner}

theorem DeckOwner.slots_map_index : deck.slots.map CardSlot.index =
    List.range deck.implementations.length := by
  refine List.ext_getElem? ?_
  intro k
  rw [List.getElem?_map]
  cases hk : deck.slots[k]? with
  | none =>
      have hlen := List.getElem?_eq_none_iff.mp hk
      rw [deck.length_slots] at hlen
      rw [List.getElem?_eq_none (by simpa using hlen)]
      rfl
  | some slot =>
      have hlen := (List.getElem?_eq_some_iff.mp hk).1
      rw [deck.length_slots] at hlen
      rw [Option.map_some, deck.slots_index hk, List.getElem?_range hlen]

theorem DeckOwner.contextAt_slot {slot : CardSlot} (h : slot ∈ deck.slots) :
    deck.contextAt slot.index = pure slot.context := by
  obtain ⟨hcard, -, hid⟩ := deck.getElem?_of_mem_slots h
  rw [contextAt, itemAt_of hcard, itemAt_of hid]
  rfl

theorem stopCardAt_slot {slot : CardSlot} (h : slot ∈ deck.slots) (deadline : Nat) :
    stopCardAt deadline deck (pure (.card slot.card.key)) slot.index = stopCard deadline slot := by
  obtain ⟨-, himpl, -⟩ := deck.getElem?_of_mem_slots h
  rw [stopCardAt, itemAt_of himpl]
  rfl

theorem stopCardsAt_eq {deadline : Nat} {l : List CardSlot} (hl : l ⊆ deck.slots) :
    stopCardsAt deadline deck (l.map CardSlot.index) = stopCards deadline l := by
  induction l with
  | nil => rfl
  | cons slot l ih =>
      have hslot := hl List.mem_cons_self
      rw [List.map_cons, stopCardsAt, itemAt_of (deck.getElem?_of_mem_slots hslot).1, pure_bind,
        stopCardAt_slot hslot, ih fun s hs => hl (List.mem_cons_of_mem _ hs)]
      rfl

theorem stopStartedCards_eq {started : Nat} (h : started ≤ deck.implementations.length)
    (deadline : Nat) :
    stopCardsAt deadline deck (List.range started).reverse =
      stopStartedCards deadline deck started := by
  have hindex : (deck.slots.take started).map CardSlot.index = List.range started := by
    rw [List.map_take, deck.slots_map_index, List.take_range, Nat.min_eq_left h]
  rw [stopStartedCards, ← hindex, ← List.map_reverse]
  exact stopCardsAt_eq fun slot hslot => List.mem_of_mem_take (List.mem_reverse.mp hslot)

theorem RuntimeHost.startCardsAt_eq (host : RuntimeHost) {done rest : List CardSlot}
    (hsplit : deck.slots = done ++ rest) :
    host.startCardsAt deck done.length (rest.map CardSlot.index) =
      host.startCards deck done.length rest := by
  induction rest generalizing done with
  | nil => rfl
  | cons slot rest ih =>
      have hslot : slot ∈ deck.slots := by simp [hsplit]
      obtain ⟨hcard, himpl, -⟩ := deck.getElem?_of_mem_slots hslot
      have hlen : done.length ≤ deck.implementations.length := by
        rw [← deck.length_slots, hsplit, List.length_append]
        exact Nat.le_add_right _ _
      have hsplit' : deck.slots = (done ++ [slot]) ++ rest := by simp [hsplit]
      have hrest := ih hsplit'
      rw [List.length_append, List.length_singleton] at hrest
      rw [List.map_cons, startCardsAt, itemAt_of hcard, itemAt_of himpl, pure_bind,
        deck.contextAt_slot hslot, pure_bind, hrest, stopCardAt_slot hslot,
        stopStartedCards_eq hlen]
      rfl

end

/-! ## Calls -/

/-- What follows a block matters only for what the block may return. -/
theorem bind_congr_of_run {α β : Type} {x : Hosted α} {k k' : α → Hosted β}
    (h : ∀ c a c', EStateM.run x c = .ok a c' → k a = k' a) : x >>= k = x >>= k' := by
  funext c
  show EStateM.run (x >>= k) c = EStateM.run (x >>= k') c
  rw [EStateM.run_bind, EStateM.run_bind]
  cases hx : EStateM.run x c with
  | ok a c' =>
      show EStateM.run (k a) c' = EStateM.run (k' a) c'
      rw [h c a c' hx]
  | error e c' => rfl

namespace RuntimeHost

variable (host : RuntimeHost)

theorem startDeckAt_eq : host.startDeckAt = host.startDeck := by
  rw [startDeckAt, startDeck]
  cases host.deck with
  | none => rfl
  | some deck =>
      have hcards := host.startCardsAt_eq (List.nil_append deck.slots).symm
      rw [deck.slots_map_index, List.length_nil] at hcards
      simp only [hcards]

theorem stopDeckAt_eq : host.stopDeckAt = host.stopDeck := by
  rw [stopDeckAt, stopDeck]
  cases host.deck with
  | none => rfl
  | some deck => simp only [stopStartedCards_eq le_rfl]

theorem stopAt_eq : host.stopAt = host.stop := by
  rw [stopAt, stop, stopDeckAt_eq, host.stopStartedServices_eq le_rfl]

/-- Where the service loop ends well, it counted all services. -/
theorem startServices_count {started : Nat} {c c' : Console}
    (h : EStateM.run (host.startServices 0 host.coreServices.zipIdx) c = .ok started c') :
    started = host.coreServices.length := by
  cases Decidable.em (Bracket.AllOpen Managed.opening
      (host.coreServices.zipIdx.map CoreService.managed)) with
  | inl hall =>
      obtain ⟨_, hrun, -⟩ := host.startServices_open (P := fun _ => True) hall 0 c
      have hok := hrun.run.symm.trans h
      simp only [hostResult, EStateM.Result.ok.injEq] at hok
      rw [← hok.1, Nat.zero_add, List.length_zipIdx]
  | inr hnot =>
      obtain ⟨_, _, _, hrun, -⟩ := host.startServices_rollback (P := fun _ => True)
        (List.nil_append _).symm hnot (c := c) trivial trivial
      cases hrun.run.symm.trans h

theorem startAt_eq : host.startAt = host.start := by
  have hservices := host.startServicesAt_eq (List.nil_append host.coreServices.zipIdx).symm
  rw [List.zipIdx_map_snd, ← List.range_eq_range', List.length_nil] at hservices
  rw [startAt, start, startDeckAt_eq, hservices]
  refine bind_congr fun _ => bind_congr fun _ => bind_congr_of_run fun c started c' h => ?_
  have hcleanup := host.stopStartedServices_eq (host.startServices_count h).le
  generalize stopServicesAt host.lifecycleTimeout host.coreServices (List.range started).reverse =
    cleanup at hcleanup ⊢
  subst hcleanup
  rfl

/-- The loops by index are the loops over slots. -/
theorem performAt_eq (call : HostCall) : host.performAt call = host.perform call := by
  cases call with
  | start => exact host.startAt_eq
  | stop => exact host.stopAt_eq

theorem performAllAt_eq (console : Console) (calls : List HostCall) :
    host.performAllAt console calls = host.performAll console calls := by
  simp only [performAllAt, performAt_eq]
  rfl

end RuntimeHost

end Paraegox.Runtime
