import Paraegox.Runtime.HostRuns

/-!
# To whom a call or a write belongs

The loops of a host go by position.  What they do goes by key: a Card is called through its
own implementation, with the identity published for its key, and its states are written to
the entry with its key.  `Attributed` says so of a trace.
-/

namespace Paraegox.Runtime

open Deck (CardKey)

/-! ## Entries by key -/

/-- The entries of the Cards. -/
def RuntimeHostSnapshot.cards (s : RuntimeHostSnapshot) : List CardInstanceSnapshot :=
  match s.deckRun with
  | none => []
  | some run => run.cards

/-- The identity that is published for a Card. -/
def CardInstanceSnapshot.context (entry : CardInstanceSnapshot) : CardContext :=
  ⟨entry.cardInstanceId, entry.key, entry.definition⟩

/-- Write the state of the Card with this key. -/
def RuntimeHostSnapshot.setStateOf (s : RuntimeHostSnapshot) (key : CardKey)
    (state : CardInstanceState) : RuntimeHostSnapshot :=
  { s with
    deckRun := s.deckRun.map fun run =>
      { run with
        cards := run.cards.map fun entry =>
          if entry.key = key then { entry with state } else entry } }

/-- A call of the implementation of a Card, under the identity published for its key. -/
inductive OwnCall (host : RuntimeHost) (s : RuntimeHostSnapshot) (key : CardKey) :
    Invocation → Prop where
  | start {deck : DeckOwner} {index : Nat} {implementation : CardImplementation}
      {entry : CardInstanceSnapshot} (hdeck : host.deck = some deck)
      (himpl : deck.implementations[index]? = some implementation)
      (hkey : implementation.cardKey = key) (hentry : s.cards[index]? = some entry)
      (hentryKey : entry.key = key) :
      OwnCall host s key ⟨.card key, .start,
        some ⟨entry.cardInstanceId, key, implementation.definition⟩,
        implementation.start ⟨entry.cardInstanceId, key, implementation.definition⟩⟩
  | stop {deck : DeckOwner} {index : Nat} {implementation : CardImplementation}
      {entry : CardInstanceSnapshot} (hdeck : host.deck = some deck)
      (himpl : deck.implementations[index]? = some implementation)
      (hkey : implementation.cardKey = key) (hentry : s.cards[index]? = some entry)
      (hentryKey : entry.key = key) :
      OwnCall host s key ⟨.card key, .stop, none, implementation.stop⟩

/-- The state of a Card while it is called. -/
def LifecycleAction.busy : LifecycleAction → CardInstanceState
  | .start => .starting
  | .stop => .stopping

/-- The state of a Card after a call that ended well. -/
def LifecycleAction.done : LifecycleAction → CardInstanceState
  | .start => .ready
  | .stop => .stopped

/-- The state of a Card after a call. -/
def Invocation.settled (call : Invocation) : CardInstanceState :=
  match call.completion with
  | .ok => call.action.done
  | _ => .failed

/-- These events lead from one snapshot to another, and a Card's state changes only before
and after a call of its own, in the entry with its key. -/
inductive Attributed (host : RuntimeHost) : RuntimeHostSnapshot → List HostEvent →
    RuntimeHostSnapshot → Prop where
  | nil {s : RuntimeHostSnapshot} : Attributed host s [] s
  | host {s s₁ s' : RuntimeHostSnapshot} {events : List HostEvent} (hcards : s₁.cards = s.cards)
      (h : Attributed host s₁ events s') : Attributed host s (.published s₁ :: events) s'
  | service {s s' : RuntimeHostSnapshot} {events : List HostEvent} {call : Invocation}
      {index : Nat} (howner : call.owner = .coreService index) (h : Attributed host s events s') :
      Attributed host s (.invoked call :: events) s'
  | card {s s₁ s₂ s' : RuntimeHostSnapshot} {events : List HostEvent} {call : Invocation}
      {key : CardKey} (hown : OwnCall host s key call)
      (hbusy : s₁ = s.setStateOf key call.action.busy)
      (hsettled : s₂ = s₁.setStateOf key call.settled)
      (h : Attributed host s₂ events s') :
      Attributed host s (.published s₁ :: .invoked call :: .published s₂ :: events) s'

variable {host : RuntimeHost}

theorem Attributed.trans {s s₁ s₂ : RuntimeHostSnapshot} {events events' : List HostEvent}
    (h : Attributed host s events s₁) (h' : Attributed host s₁ events' s₂) :
    Attributed host s (events ++ events') s₂ := by
  induction h with
  | nil => exact h'
  | host hcards _ ih => exact .host hcards (ih h')
  | service howner _ ih => exact .service howner (ih h')
  | card hown hbusy hsettled _ ih => exact .card hown hbusy hsettled (ih h')

theorem OwnCall.owner {s : RuntimeHostSnapshot} {key : CardKey} {call : Invocation}
    (h : OwnCall host s key call) : call.owner = .card key := by
  cases h <;> rfl

/-- Every call of a Card in the trace is a call of its own. -/
theorem Attributed.ownCall {s s' : RuntimeHostSnapshot} {events : List HostEvent}
    (h : Attributed host s events s') {call : Invocation} (hcall : .invoked call ∈ events)
    {key : CardKey} (howner : call.owner = .card key) : ∃ s, OwnCall host s key call := by
  induction h with
  | nil => cases hcall
  | host _ _ ih =>
      rcases List.mem_cons.mp hcall with hcall | hcall
      · cases hcall
      · exact ih hcall
  | service hservice _ ih =>
      rcases List.mem_cons.mp hcall with hcall | hcall
      · cases hcall
        cases hservice.symm.trans howner
      · exact ih hcall
  | card hown _ _ _ ih =>
      simp only [List.mem_cons, HostEvent.invoked.injEq, reduceCtorEq, false_or] at hcall
      rcases hcall with rfl | hcall
      · cases hown.owner.symm.trans howner
        exact ⟨_, hown⟩
      · exact ih hcall

/-! ## Positions and keys -/

/-- The entries of the snapshot are the slots of the host, position by position. -/
def Aligned (host : RuntimeHost) (s : RuntimeHostSnapshot) : Prop :=
  s.cards.map CardInstanceSnapshot.context = host.slots.map CardSlot.context

theorem modify_eq_map {α κ : Type} [DecidableEq κ] {key : α → κ} {l : List α}
    (hnodup : (l.map key).Nodup) {i : Nat} {a : α} (ha : l[i]? = some a) (f : α → α) :
    l.modify i f = l.map fun b => if key b = key a then f b else b := by
  refine List.ext_getElem? ?_
  intro j
  rw [List.getElem?_modify, List.getElem?_map]
  cases hb : l[j]? with
  | none => rfl
  | some b =>
      have hiff : i = j ↔ key b = key a := by
        constructor
        · rintro rfl
          rw [Option.some.inj (hb.symm.trans ha)]
        · intro hkey
          have hi : (l.map key)[i]? = some (key a) := by rw [List.getElem?_map, ha, Option.map_some]
          have hj : (l.map key)[j]? = some (key a) := by
            rw [List.getElem?_map, hb, Option.map_some, hkey]
          have hlt := (List.getElem?_eq_some_iff.mp hi).1
          exact (List.getElem?_inj hlt hnodup).mp (hi.trans hj.symm)
      by_cases h : i = j
      · simp [h, hiff.mp h]
      · simp [h, mt hiff.mpr h]

theorem RuntimeHost.slots_keys_nodup (host : RuntimeHost) :
    (host.slots.map fun slot => slot.card.key).Nodup := by
  rw [slots]
  cases host.deck with
  | none => exact List.nodup_nil
  | some deck =>
      have hkeys := deck.lock.keysDistinct
      rw [← deck.slots_card, List.map_map] at hkeys
      exact hkeys

theorem RuntimeHost.slots_getElem? {slot : CardSlot} (h : slot ∈ host.slots) :
    host.slots[slot.index]? = some slot := by
  obtain ⟨k, hk⟩ := List.mem_iff_getElem?.mp h
  rw [slots] at hk ⊢
  cases hdeck : host.deck with
  | none => simp [hdeck] at hk
  | some deck =>
      rw [hdeck] at hk
      rw [deck.slots_index hk]
      exact hk

section

variable {s : RuntimeHostSnapshot} {slot : CardSlot}

/-- The entry at the index of a slot has the slot's identity. -/
theorem Aligned.entry (h : Aligned host s) (hslot : slot ∈ host.slots) :
    ∃ entry, s.cards[slot.index]? = some entry ∧ entry.context = slot.context := by
  have hget : (s.cards.map CardInstanceSnapshot.context)[slot.index]? = some slot.context := by
    rw [h, List.getElem?_map, host.slots_getElem? hslot, Option.map_some]
  rw [List.getElem?_map] at hget
  exact Option.map_eq_some_iff.mp hget

theorem Aligned.keys_nodup (h : Aligned host s) :
    (s.cards.map CardInstanceSnapshot.key).Nodup := by
  have hkeys : s.cards.map CardInstanceSnapshot.key =
      host.slots.map fun slot => slot.card.key := by
    have := congrArg (List.map CardContext.cardKey) h
    rwa [List.map_map, List.map_map] at this
  rw [hkeys]
  exact host.slots_keys_nodup

/-- A write at the index of a slot is a write to the entry with the slot's key. -/
theorem Aligned.setCardState (h : Aligned host s) (hslot : slot ∈ host.slots)
    (state : CardInstanceState) :
    s.setCardState slot.index state = s.setStateOf slot.card.key state := by
  obtain ⟨entry, hentry, hcontext⟩ := h.entry hslot
  have hkey : entry.key = slot.card.key := congrArg CardContext.cardKey hcontext
  have hnodup := h.keys_nodup
  rw [RuntimeHostSnapshot.setCardState, RuntimeHostSnapshot.setStateOf]
  rw [RuntimeHostSnapshot.cards] at hentry hnodup
  cases hrun : s.deckRun with
  | none => rfl
  | some run =>
      rw [hrun] at hentry hnodup
      simp only [Option.map_some, modify_eq_map hnodup hentry, hkey]

theorem Aligned.setStateOf (h : Aligned host s) (key : CardKey) (state : CardInstanceState) :
    Aligned host (s.setStateOf key state) := by
  rw [Aligned, ← h, RuntimeHostSnapshot.cards, RuntimeHostSnapshot.cards,
    RuntimeHostSnapshot.setStateOf]
  cases s.deckRun with
  | none => rfl
  | some run =>
      simp only [Option.map_some, List.map_map]
      refine List.map_congr_left ?_
      intro entry _
      rw [Function.comp_apply]
      split <;> rfl

end

/-! ## Blocks -/

/-- Wherever it starts from, the block does what it does to Cards by their keys. -/
def Attributes {α : Type} (host : RuntimeHost) (x : Hosted α) : Prop :=
  ∀ c : Console, Aligned host c.snapshot → ∃ events, (c.after x).trace = c.trace ++ events ∧
    Attributed host c.snapshot events (c.after x).snapshot ∧ Aligned host (c.after x).snapshot

namespace Attributes

variable {α β : Type}

theorem of_unchanged {x : Hosted α} (h : ∀ c : Console, c.after x = c) : Attributes host x := by
  intro c hc
  rw [h]
  exact ⟨[], (List.append_nil _).symm, .nil, hc⟩

protected theorem pure (a : α) : Attributes host (pure a : Hosted α) := of_unchanged fun _ => rfl

theorem fail (e : RuntimeHostError) : Attributes host (Exec.fail e : Hosted α) :=
  of_unchanged fun _ => rfl

theorem bind {x : Hosted α} {k : α → Hosted β} (hx : Attributes host x)
    (hk : ∀ a, Attributes host (k a)) : Attributes host (x >>= k) := by
  intro c hc
  obtain ⟨events, htrace, hevents, hc₁⟩ := hx c hc
  rw [Console.after] at htrace hevents hc₁
  cases hrun : EStateM.run x c with
  | error e c₁ =>
      rw [hrun] at htrace hevents hc₁
      have hafter : c.after (x >>= k) = c₁ := by rw [Console.after, EStateM.run_bind, hrun]
      rw [hafter]
      exact ⟨events, htrace, hevents, hc₁⟩
  | ok a c₁ =>
      rw [hrun] at htrace hevents hc₁
      have hafter : c.after (x >>= k) = c₁.after (k a) := by
        rw [Console.after, EStateM.run_bind, hrun]
        rfl
      obtain ⟨events', htrace', hevents', hc₂⟩ := hk a c₁ hc₁
      rw [hafter]
      refine ⟨events ++ events', ?_, hevents.trans hevents', hc₂⟩
      rw [htrace', htrace, List.append_assoc]

theorem map {x : Hosted α} {f : α → β} (hx : Attributes host x) : Attributes host (f <$> x) := by
  rw [map_eq_pure_bind]
  exact hx.bind fun _ => .pure _

theorem requireState (action : String) (expected : RuntimeHostState) :
    Attributes host (Runtime.requireState action expected) := by
  refine of_unchanged ?_
  intro c
  rw [Console.after, Runtime.requireState]
  simp only [EStateM.run_bind, EStateM.run_get]
  split_ifs <;> rfl

/-- A write of the state of the host or of its Deck run. -/
theorem publish {f : RuntimeHostSnapshot → RuntimeHostSnapshot}
    (hf : ∀ s, (f s).cards = s.cards) : Attributes host (publish f) := by
  intro c hc
  refine ⟨_, rfl, .host (hf c.snapshot) .nil, ?_⟩
  show Aligned host (f c.snapshot)
  rw [Aligned, hf]
  exact hc

theorem setState (state : RuntimeHostState) : Attributes host (setState state) :=
  publish fun _ => rfl

theorem setDeckRunState (state : DeckRunState) : Attributes host (setDeckRunState state) :=
  publish fun s => by
    rw [RuntimeHostSnapshot.cards, RuntimeHostSnapshot.cards, RuntimeHostSnapshot.setDeckRunState]
    cases s.deckRun <;> rfl

theorem invokeService (index : Nat) (action : LifecycleAction) (deadline : Nat)
    (completion : Completion) :
    Attributes host (invokeOwner (.coreService index) action deadline none completion) := by
  intro c hc
  cases completion <;> exact ⟨_, rfl, .service rfl .nil, hc⟩

end Attributes

/-! ## Cards -/

/-- A call of a Card between its two status writes. -/
def callCard (deadline : Nat) (slot : CardSlot) (call : Invocation) :
    Hosted (Except LifecycleFailure Unit) := do
  setCardState slot.index call.action.busy
  let result ← invokeOwner call.owner call.action deadline call.context call.completion
  match result with
  | .ok () => setCardState slot.index call.action.done
  | .error _ => setCardState slot.index .failed
  pure result

theorem callCard_after (deadline : Nat) (slot : CardSlot) (call : Invocation) (c : Console) :
    c.after (callCard deadline slot call) =
      ⟨(c.snapshot.setCardState slot.index call.action.busy).setCardState slot.index call.settled,
        c.trace ++ [.published (c.snapshot.setCardState slot.index call.action.busy),
          .invoked call,
          .published ((c.snapshot.setCardState slot.index call.action.busy).setCardState slot.index
            call.settled)]⟩ := by
  obtain ⟨owner, action, context, completion⟩ := call
  cases completion <;> simp [-bind_pure_comp, Console.after, callCard, setCardState,
    Runtime.publish, invokeOwner, Invocation.settled]

section

variable {slot : CardSlot}

theorem Attributes.callCard (hslot : slot ∈ host.slots) {call : Invocation}
    (hown : ∀ s, Aligned host s → OwnCall host s slot.card.key call) (deadline : Nat) :
    Attributes host (callCard deadline slot call) := by
  intro c hc
  have hbusy := hc.setCardState hslot call.action.busy
  have hc₁ := hc.setStateOf slot.card.key call.action.busy
  have hsettled := hc₁.setCardState hslot call.settled
  rw [callCard_after, hbusy, hsettled]
  exact ⟨_, rfl, .card (hown _ hc) rfl rfl .nil, hc₁.setStateOf _ _⟩

/-- The implementation of a slot is for the slot's Card. -/
theorem RuntimeHost.slots_implementation (hslot : slot ∈ host.slots) : ∃ deck,
    host.deck = some deck ∧ deck.implementations[slot.index]? = some slot.implementation ∧
    slot.implementation.implements slot.card := by
  rw [slots] at hslot
  cases hdeck : host.deck with
  | none => simp [hdeck] at hslot
  | some deck =>
      rw [hdeck] at hslot
      obtain ⟨hcard, himpl, -⟩ := deck.getElem?_of_mem_slots hslot
      refine ⟨deck, rfl, himpl, ?_⟩
      have hmem : (slot.card, slot.implementation) ∈
          deck.lock.cards.zip deck.implementations := by
        refine List.mem_of_getElem? (i := slot.index) ?_
        rw [List.getElem?_zip_eq_some]
        exact ⟨hcard, himpl⟩
      exact (List.forall₂_iff_zip.mp deck.implemented).2 hmem

theorem ownCall_started (hslot : slot ∈ host.slots) {s : RuntimeHostSnapshot}
    (hs : Aligned host s) : OwnCall host s slot.card.key slot.managed.started := by
  obtain ⟨deck, hdeck, himpl, hkey, hdef⟩ := host.slots_implementation hslot
  obtain ⟨entry, hentry, hcontext⟩ := hs.entry hslot
  have hid : entry.cardInstanceId = slot.cardInstanceId :=
    congrArg CardContext.cardInstanceId hcontext
  have hstart := OwnCall.start hdeck himpl hkey hentry (congrArg CardContext.cardKey hcontext)
  rw [hid, hdef] at hstart
  exact hstart

theorem ownCall_stopped (hslot : slot ∈ host.slots) {s : RuntimeHostSnapshot}
    (hs : Aligned host s) : OwnCall host s slot.card.key slot.managed.stopped := by
  obtain ⟨deck, hdeck, himpl, hkey, -⟩ := host.slots_implementation hslot
  obtain ⟨entry, hentry, hcontext⟩ := hs.entry hslot
  exact .stop hdeck himpl hkey hentry (congrArg CardContext.cardKey hcontext)

end

namespace Attributes

theorem stopCard {slot : CardSlot} (hslot : slot ∈ host.slots) (deadline : Nat) :
    Attributes host (Runtime.stopCard deadline slot) :=
  callCard hslot (fun _ hs => ownCall_stopped hslot hs) deadline

theorem stopCards (deadline : Nat) {l : List CardSlot} (hl : l ⊆ host.slots) :
    Attributes host (Runtime.stopCards deadline l) := by
  induction l with
  | nil => exact .pure _
  | cons slot l ih =>
      exact (stopCard (hl List.mem_cons_self) deadline).bind fun _ =>
        (ih fun s hs => hl (List.mem_cons_of_mem _ hs)).bind fun _ => .pure _

theorem stopStartedCards (deadline : Nat) {deck : DeckOwner} (hdeck : deck.slots ⊆ host.slots)
    (started : Nat) : Attributes host (Runtime.stopStartedCards deadline deck started) :=
  stopCards deadline fun _ hs => hdeck (List.mem_of_mem_take (List.mem_reverse.mp hs))

theorem stopInterrupted (failure : LifecycleFailure)
    {stop : Hosted (Except LifecycleFailure Unit)} (hstop : Attributes host stop) :
    Attributes host (Runtime.stopInterrupted failure stop) := by
  rw [Runtime.stopInterrupted]
  split_ifs
  · exact hstop.map
  · exact .pure _

theorem startCards {deck : DeckOwner} (hdeck : deck.slots ⊆ host.slots) (started : Nat)
    {l : List CardSlot} (hl : l ⊆ host.slots) :
    Attributes host (host.startCards deck started l) := by
  induction l generalizing started with
  | nil => exact .pure _
  | cons slot l ih =>
      have hslot := hl List.mem_cons_self
      have hrest := ih (started + 1) fun s hs => hl (List.mem_cons_of_mem _ hs)
      have hcall := callCard hslot (fun _ hs => ownCall_started hslot hs) host.lifecycleTimeout
      -- The second write of the Card comes first in what follows its start.
      have hstep : host.startCards deck started (slot :: l) =
          (Runtime.callCard host.lifecycleTimeout slot slot.managed.started >>= fun result =>
            match result with
            | .ok () => host.startCards deck (started + 1) l
            | .error failure => do
                let interrupted ← Runtime.stopInterrupted failure
                  (Runtime.stopCard host.lifecycleTimeout slot)
                let cleanupFailures ←
                  Runtime.stopStartedCards host.lifecycleTimeout deck started
                Runtime.setDeckRunState .failed
                pure (some (failure, interrupted ++ cleanupFailures))) := by
        rw [RuntimeHost.startCards, Runtime.callCard, bind_assoc]
        refine bind_congr ?_
        intro _
        rw [bind_assoc]
        refine bind_congr ?_
        intro result
        cases result <;> rfl
      rw [hstep]
      refine hcall.bind ?_
      intro result
      cases result with
      | ok _ => exact hrest
      | error failure =>
          exact (stopInterrupted failure (stopCard hslot _)).bind fun _ =>
            (stopStartedCards _ hdeck started).bind fun _ =>
            (setDeckRunState .failed).bind fun _ => .pure _

theorem stopServices (deadline : Nat) (l : List (CoreService × Nat)) :
    Attributes host (Runtime.stopServices deadline l) := by
  induction l with
  | nil => exact .pure _
  | cons p l ih =>
      exact (invokeService p.2 .stop deadline p.1.stop).bind fun _ => ih.bind fun _ => .pure _

theorem stopStartedServices (started : Nat) :
    Attributes host (host.stopStartedServices started) :=
  stopServices _ _

theorem startServices (started : Nat) (l : List (CoreService × Nat)) :
    Attributes host (host.startServices started l) := by
  induction l generalizing started with
  | nil => exact .pure _
  | cons p l ih =>
      obtain ⟨service, index⟩ := p
      refine (invokeService index .start host.lifecycleTimeout service.start).bind fun result => ?_
      cases result with
      | ok _ => exact ih (started + 1)
      | error failure =>
          exact (stopInterrupted failure (invokeService index .stop _ service.stop)).bind fun _ =>
            (stopStartedServices started).bind fun _ => (setDeckRunState .failed).bind fun _ =>
            (setState .failed).bind fun _ => .fail _

/-! ## Calls of the host -/

theorem startDeck : Attributes host host.startDeck := by
  rw [RuntimeHost.startDeck]
  cases hdeck : host.deck with
  | none => exact .pure _
  | some deck =>
      have hslots : deck.slots ⊆ host.slots := by
        rw [RuntimeHost.slots, hdeck]
        exact List.Subset.refl _
      refine (setDeckRunState .starting).bind fun _ =>
        (startCards hslots 0 hslots).bind fun deckStartFailure => ?_
      cases deckStartFailure with
      | none => exact (setDeckRunState .ready).bind fun _ => .pure _
      | some _ => exact Attributes.bind (.pure _) fun _ => .pure _

theorem start : Attributes host host.start := by
  refine (requireState "start" .created).bind fun _ => (setState .starting).bind fun _ =>
    (startServices 0 _).bind fun started => startDeck.bind fun deckStartFailure => ?_
  cases deckStartFailure with
  | none => exact setState .ready
  | some failure =>
      exact (stopStartedServices started).bind fun _ => (setState .failed).bind fun _ => .fail _

theorem stopDeck : Attributes host host.stopDeck := by
  rw [RuntimeHost.stopDeck]
  cases hdeck : host.deck with
  | none => exact .pure _
  | some deck =>
      have hslots : deck.slots ⊆ host.slots := by
        rw [RuntimeHost.slots, hdeck]
        exact List.Subset.refl _
      exact (setDeckRunState .stopping).bind fun _ => (stopStartedCards _ hslots _).bind fun _ =>
        (setDeckRunState _).bind fun _ => .pure _

theorem stop : Attributes host host.stop := by
  refine (requireState "stop" .ready).bind fun _ => (setState .stopping).bind fun _ =>
    stopDeck.bind fun cardFailures => (stopStartedServices _).bind fun serviceFailures => ?_
  split_ifs
  · exact setState .stopped
  · exact (setState .failed).bind fun _ => .fail _

theorem perform (call : HostCall) : Attributes host (host.perform call) := by
  cases call with
  | start => exact start
  | stop => exact stop

end Attributes

/-- So do all calls. -/
theorem Attributes.performAll {c : Console} (hc : Aligned host c.snapshot)
    (calls : List HostCall) :
    ∃ events, (host.performAll c calls).trace = c.trace ++ events ∧
      Attributed host c.snapshot events (host.performAll c calls).snapshot ∧
      Aligned host (host.performAll c calls).snapshot := by
  induction calls generalizing c with
  | nil => exact ⟨[], (List.append_nil _).symm, .nil, hc⟩
  | cons call calls ih =>
      obtain ⟨events, htrace, hevents, hc₁⟩ := perform call c hc
      obtain ⟨events', htrace', hevents', hc₂⟩ := ih hc₁
      refine ⟨events ++ events', ?_, hevents.trans hevents', hc₂⟩
      rw [← List.append_assoc, ← htrace]
      exact htrace'

end Paraegox.Runtime
