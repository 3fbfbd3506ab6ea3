import Paraegox.Runtime.HostMetatheory

/-!
# Starting and stopping the Cards of a host

The state of the Card loop is a list of states: the Cards behind the loop are
ready and those ahead of it are as they were created.  A Card that does not start
is left failed or where its stop leaves it, and the rollback puts those behind it
at rest as well.
-/

namespace Paraegox.Runtime

open Deck (ResolvedCard)
open RuntimeHostSnapshot (SameButCards)
open Bracket (AllOpen ascent)

/-! ## The parallel vectors of a Deck -/

/-- A slot holds its place and what the vectors hold there. -/
theorem cardSlots_getElem? {n k : Nat} {cards : List ResolvedCard}
    {implementations : List CardImplementation} {ids : List CardInstanceId} {slot : CardSlot}
    (h : (cardSlots n cards implementations ids)[k]? = some slot) :
    slot.index = n + k ∧ cards[k]? = some slot.card ∧
      implementations[k]? = some slot.implementation ∧ ids[k]? = some slot.cardInstanceId := by
  induction cards generalizing n k implementations ids with
  | nil => simp [cardSlots] at h
  | cons card cards ih =>
      cases implementations with
      | nil => simp [cardSlots] at h
      | cons implementation implementations =>
          cases ids with
          | nil => simp [cardSlots] at h
          | cons cardInstanceId ids =>
              rw [cardSlots] at h
              cases k with
              | zero =>
                  cases h
                  exact ⟨rfl, rfl, rfl, rfl⟩
              | succ k =>
                  obtain ⟨hindex, hrest⟩ := ih h
                  exact ⟨by omega, hrest⟩

/-- No Card of the lock is left out. -/
theorem cardSlots_card {n : Nat} {cards : List ResolvedCard}
    {implementations : List CardImplementation} {ids : List CardInstanceId}
    (himpl : implementations.length = cards.length) (hids : ids.length = cards.length) :
    (cardSlots n cards implementations ids).map CardSlot.card = cards := by
  induction cards generalizing n implementations ids with
  | nil => rfl
  | cons card cards ih =>
      cases implementations with
      | nil => cases himpl
      | cons implementation implementations =>
          cases ids with
          | nil => cases hids
          | cons cardInstanceId ids =>
              rw [cardSlots, List.map_cons, ih (Nat.succ.inj himpl) (Nat.succ.inj hids)]

namespace DeckOwner

variable (deck : DeckOwner)

theorem slots_index {k : Nat} {slot : CardSlot} (h : deck.slots[k]? = some slot) :
    slot.index = k :=
  (cardSlots_getElem? h).1.trans (Nat.zero_add k)

/-- A slot holds what the vectors hold at its index. -/
theorem getElem?_of_mem_slots {slot : CardSlot} (h : slot ∈ deck.slots) :
    deck.lock.cards[slot.index]? = some slot.card ∧
      deck.implementations[slot.index]? = some slot.implementation ∧
      deck.cardInstanceIds[slot.index]? = some slot.cardInstanceId := by
  obtain ⟨k, hk⟩ := List.mem_iff_getElem?.mp h
  rw [deck.slots_index hk]
  exact (cardSlots_getElem? hk).2

theorem slots_card : deck.slots.map CardSlot.card = deck.lock.cards :=
  cardSlots_card deck.implemented.length_eq.symm deck.identified

theorem length_slots : deck.slots.length = deck.implementations.length := by
  rw [← deck.implemented.length_eq, ← deck.slots_card, List.length_map]

variable {deck} {done rest : List CardSlot}

/-- The slots behind the loop stand at their own index. -/
theorem slots_index_left (hsplit : deck.slots = done ++ rest) {k : Nat} {slot : CardSlot}
    (h : done[k]? = some slot) : slot.index = k := by
  refine deck.slots_index ?_
  rw [hsplit, List.getElem?_append_left (List.getElem?_eq_some_iff.mp h).1, h]

theorem slots_index_next {slot : CardSlot} (hsplit : deck.slots = done ++ slot :: rest) :
    slot.index = done.length :=
  deck.slots_index (by simp [hsplit])

end DeckOwner

/-! ## The states during the loop -/

/-- `n` Cards are ready and `m` were not touched. -/
def risen (n m : Nat) : List CardInstanceState :=
  List.replicate n .ready ++ List.replicate m .created

theorem risen_set (n m : Nat) (st : CardInstanceState) :
    (risen n (m + 1)).set n st = List.replicate n .ready ++ st :: List.replicate m .created := by
  rw [risen, List.set_append_right _ _ (by simp)]
  simp [List.replicate_succ]

theorem set_set_middle (n : Nat) (tail : List CardInstanceState) (st st' : CardInstanceState) :
    (List.replicate n CardInstanceState.ready ++ st :: tail).set n st' =
      List.replicate n .ready ++ st' :: tail := by
  rw [List.set_append_right _ _ (by simp)]
  simp

theorem risen_succ (n m : Nat) :
    List.replicate n CardInstanceState.ready ++ .ready :: List.replicate m .created =
      risen (n + 1) m := by
  rw [risen, List.replicate_succ', List.append_assoc, List.singleton_append]

/-- The Card neither runs nor is on its way. -/
def CardInstanceState.AtRest (st : CardInstanceState) : Prop :=
  st = .created ∨ st = .stopped ∨ st = .failed

theorem CardSlot.restState_atRest (slot : CardSlot) : slot.restState.AtRest := by
  rw [CardSlot.restState]
  cases slot.implementation.stop with
  | ok => exact .inr (.inl rfl)
  | failed source => exact .inr (.inr rfl)
  | elapsed => exact .inr (.inr rfl)

/-- The rollback puts every Card at rest. -/
theorem restStates_atRest {deck : DeckOwner} {done rest : List CardSlot}
    (hsplit : deck.slots = done ++ rest) {st : CardInstanceState} (hst : st.AtRest) (m : Nat) :
    ∀ st' ∈ restStates done.reverse
      (List.replicate done.length .ready ++ st :: List.replicate m .created), st'.AtRest := by
  rw [restStates_reverse (fun _ _ h => DeckOwner.slots_index_left hsplit h) (by simp)]
  intro st' h
  rcases List.mem_append.mp h with h | h
  · obtain ⟨slot, -, rfl⟩ := List.mem_map.mp h
    exact slot.restState_atRest
  · rcases List.mem_cons.mp h with rfl | h
    · exact hst
    · exact .inl (List.eq_of_mem_replicate h)

/-! ## The Card loop -/

section

variable (host : RuntimeHost) {deck : DeckOwner} {s₀ : RuntimeHostSnapshot}
  {done rest : List CardSlot} {c : Console}

/-- A Card is called to start. -/
theorem startCard_runs (slot : CardSlot) (hc : SameButCards s₀ c.snapshot) :
    ∃ c', Runs (SameButCards s₀) (do
        setCardState slot.index .starting
        invokeOwner (.card slot.card.key) .start host.lifecycleTimeout (some slot.context)
          (slot.implementation.start slot.context)) c
      (.ok ((slot.implementation.start slot.context).result (.card slot.card.key) .start
        host.lifecycleTimeout)) c' [slot.managed.started] ∧
      c'.snapshot = c.snapshot.setCardState slot.index .starting := by
  have h₁ := Runs.publish (f := fun s => s.setCardState slot.index .starting)
    (hc.setCardState slot.index .starting)
  obtain ⟨c₂, h₂, hs₂⟩ := Runs.invoke (P := SameButCards s₀) (.card slot.card.key) .start
    host.lifecycleTimeout (some slot.context) (slot.implementation.start slot.context)
    (c.write fun s => s.setCardState slot.index .starting)
  exact ⟨c₂, h₁.bind h₂, hs₂⟩

/-- The Card loop where every Card starts. -/
theorem RuntimeHost.startCards_open (hsplit : deck.slots = done ++ rest)
    (hall : AllOpen Managed.opening (rest.map CardSlot.managed))
    (hc : SameButCards s₀ c.snapshot)
    (hrisen : c.snapshot.cardStates = risen done.length rest.length) :
    ∃ c', Runs (SameButCards s₀) (host.startCards deck done.length rest) c (.ok none) c'
      ((rest.map CardSlot.managed).map Managed.started) ∧ SameButCards s₀ c'.snapshot ∧
      c'.snapshot.cardStates = risen deck.slots.length 0 := by
  induction rest generalizing done c with
  | nil =>
      rw [List.append_nil] at hsplit
      exact ⟨c, .pure _, hc, by rw [hrisen, hsplit, List.length_nil]⟩
  | cons slot rest ih =>
      obtain ⟨hopened, hrest⟩ := Bracket.allOpen_cons.mp hall
      have hstart : slot.implementation.start slot.context = .ok :=
        Completion.opening_eq_opened.mp hopened
      have hindex := DeckOwner.slots_index_next hsplit
      obtain ⟨c₁, h₁, hs₁⟩ := startCard_runs host slot hc
      have hc₁ : SameButCards s₀ c₁.snapshot := hs₁ ▸ hc.setCardState _ _
      have h₂ := Runs.publish (f := fun s => s.setCardState slot.index .ready)
        (hc₁.setCardState slot.index .ready)
      have hrisen₂ : (c₁.write fun s => s.setCardState slot.index .ready).snapshot.cardStates =
          risen (done ++ [slot]).length rest.length := by
        rw [Console.write_snapshot, RuntimeHostSnapshot.setCardState_cardStates, hs₁,
          RuntimeHostSnapshot.setCardState_cardStates, hrisen, hindex, List.length_cons, risen_set,
          set_set_middle, risen_succ, List.length_append, List.length_singleton]
      have hsplit' : deck.slots = (done ++ [slot]) ++ rest := by simp [hsplit]
      obtain ⟨c₃, h₃, hc₃, hs₃⟩ := ih hsplit' hrest
        (hc₁.setCardState _ _) hrisen₂
      rw [List.length_append, List.length_singleton] at h₃
      refine ⟨c₃, ?_, hc₃, hs₃⟩
      rw [startCards, ← bind_assoc]
      refine h₁.bind ?_
      rw [hstart]
      exact h₂.bind h₃

/-- The Cards behind the loop are stopped, last first. -/
theorem stopStartedCards_runs (deadline : Nat) (hsplit : deck.slots = done ++ rest)
    (hc : SameButCards s₀ c.snapshot) :
    ∃ c', Runs (SameButCards s₀) (stopStartedCards deadline deck done.length) c
      (.ok ((done.reverse.map CardSlot.managed).flatMap fun m => m.stopFailures deadline)) c'
      ((done.map CardSlot.managed).reverse.map Managed.stopped) ∧ SameButCards s₀ c'.snapshot ∧
      c'.snapshot.cardStates = restStates done.reverse c.snapshot.cardStates := by
  rw [stopStartedCards, hsplit, List.take_left, ← List.map_reverse]
  exact stopCards_runs deadline done.reverse hc

/-- The Card that did not start is stopped if its start timed out, and is at rest
then. -/
theorem interruptedCard_runs (slot : CardSlot) {failure : LifecycleFailure}
    (hf : slot.managed.start.result slot.managed.owner .start host.lifecycleTimeout =
      .error failure) (hc : SameButCards s₀ c.snapshot) {n m : Nat} (hindex : slot.index = n)
    (hstates : c.snapshot.cardStates =
      List.replicate n .ready ++ .failed :: List.replicate m .created) :
    ∃ c', Runs (SameButCards s₀)
      (stopInterrupted failure (stopCard host.lifecycleTimeout slot)) c
      (.ok (slot.managed.rollback.flatMap fun m => m.stopFailures host.lifecycleTimeout)) c'
      (slot.managed.rollback.map Managed.stopped) ∧ SameButCards s₀ c'.snapshot ∧
      ∃ st : CardInstanceState, st.AtRest ∧
        c'.snapshot.cardStates = List.replicate n .ready ++ st :: List.replicate m .created := by
  obtain ⟨c₁, h₁, hc₁, hs₁⟩ := stopCard_runs host.lifecycleTimeout slot hc
  refine ⟨_, stopInterrupted_runs hf h₁, ?_⟩
  split_ifs
  · exact ⟨hc, .failed, .inr (.inr rfl), hstates⟩
  · refine ⟨hc₁, slot.restState, slot.restState_atRest, ?_⟩
    rw [hs₁, hstates, hindex, set_set_middle]

/-- The Card loop where a Card does not start: the ascent of the Cards left is
rolled back, and then the Cards behind it. -/
theorem RuntimeHost.startCards_rollback {P : RuntimeHostSnapshot → Prop}
    (hP : ∀ s, SameButCards s₀ s → P s)
    (hfailed : ∀ s, SameButCards s₀ s → P (s.setDeckRunState .failed))
    (hsplit : deck.slots = done ++ rest)
    (hnot : ¬ AllOpen Managed.opening (rest.map CardSlot.managed))
    (hc : SameButCards s₀ c.snapshot)
    (hrisen : c.snapshot.cardStates = risen done.length rest.length) :
    ∃ failure cleanup s c', Runs P (host.startCards deck done.length rest) c
      (.ok (some (failure, cleanup))) c'
      ((ascent Managed.opening (rest.map CardSlot.managed)).map invocationOf ++
        (done.map CardSlot.managed).reverse.map Managed.stopped) ∧
      ((ascent Managed.opening (rest.map CardSlot.managed)).map invocationOf ++
        (done.map CardSlot.managed).reverse.map Managed.stopped).flatMap
          (Invocation.failures host.lifecycleTimeout) = failure :: cleanup ∧
      c'.snapshot = s.setDeckRunState .failed ∧ SameButCards s₀ s ∧
      ∀ st ∈ s.cardStates, st.AtRest := by
  induction rest generalizing done c with
  | nil => exact absurd (by simp [AllOpen]) hnot
  | cons slot rest ih =>
      have hindex := DeckOwner.slots_index_next hsplit
      obtain ⟨c₁, h₁, hs₁⟩ := startCard_runs host slot hc
      have hc₁ : SameButCards s₀ c₁.snapshot := hs₁ ▸ hc.setCardState _ _
      -- whatever the Card is set to next, the list has that state in the middle
      have hmiddle (st : CardInstanceState) :
          (c₁.snapshot.setCardState slot.index st).cardStates =
            List.replicate done.length .ready ++ st :: List.replicate rest.length .created := by
        rw [RuntimeHostSnapshot.setCardState_cardStates, hs₁,
          RuntimeHostSnapshot.setCardState_cardStates, hrisen, hindex, List.length_cons, risen_set,
          set_set_middle]
      have hset (st : CardInstanceState) :=
        Runs.publish (f := fun s => s.setCardState slot.index st) (hc₁.setCardState slot.index st)
      rw [startCards, ← bind_assoc]
      cases Decidable.em (slot.implementation.start slot.context = .ok) with
      | inl hstart =>
          have hopened : slot.managed.opening = .opened :=
            Completion.opening_eq_opened.mpr hstart
          have hrest : ¬ AllOpen Managed.opening (rest.map CardSlot.managed) :=
            fun hall => hnot (Bracket.allOpen_cons.mpr ⟨hopened, hall⟩)
          have hrisen₂ : (c₁.write fun s => s.setCardState slot.index .ready).snapshot.cardStates =
              risen (done ++ [slot]).length rest.length := by
            rw [Console.write_snapshot, hmiddle, risen_succ, List.length_append,
              List.length_singleton]
          have hsplit' : deck.slots = (done ++ [slot]) ++ rest := by simp [hsplit]
          obtain ⟨failure, cleanup, s, c₃, h₃, hfs₃, hs₃⟩ := ih hsplit' hrest
            (hc₁.setCardState _ _) hrisen₂
          rw [List.map_append, List.reverse_append, List.map_append] at h₃ hfs₃
          rw [List.length_append, List.length_singleton] at h₃
          rw [List.map_cons, ascent_cons_opened hopened, if_neg hrest, List.append_assoc,
            List.cons_append]
          refine ⟨failure, cleanup, s, c₃, (h₁.mono hP).bind ?_, ?_, hs₃⟩
          · rw [hstart]
            exact ((hset .ready).mono hP).bind h₃
          · rw [List.flatMap_cons, failures_started_ok (m := slot.managed) hstart]
            exact hfs₃
      | inr hstart =>
          have hopened : slot.managed.opening ≠ .opened :=
            fun h => hstart (Completion.opening_eq_opened.mp h)
          obtain ⟨failure, hf⟩ := Completion.result_of_ne hstart (.card slot.card.key) .start
            host.lifecycleTimeout
          obtain ⟨c₃, h₃, hc₃, st, hst, hs₃⟩ := interruptedCard_runs host
            (c := c₁.write fun s => s.setCardState slot.index .failed) slot hf
            (hc₁.setCardState _ _) hindex (hmiddle .failed)
          obtain ⟨c₄, h₄, hc₄, hs₄⟩ := stopStartedCards_runs host.lifecycleTimeout hsplit hc₃
          have h₅ := Runs.publish (f := fun s => s.setDeckRunState .failed) (hfailed _ hc₄)
          rw [List.map_cons, ascent_cons_not_opened hopened, List.cons_append]
          refine ⟨failure,
            slot.managed.rollback.flatMap (fun m => m.stopFailures host.lifecycleTimeout) ++
              (done.reverse.map CardSlot.managed).flatMap
                (fun m => m.stopFailures host.lifecycleTimeout),
            c₄.snapshot, c₄.write fun s => s.setDeckRunState .failed, (h₁.mono hP).bind ?_, ?_,
            rfl, hc₄, ?_⟩
          · rw [hf]
            exact ((hset .failed).mono hP).bind
              ((h₃.mono hP).bind ((h₄.mono hP).bind_none (h₅.bind (.pure _))))
          · rw [List.flatMap_cons, failures_started_of_error (m := slot.managed) hf,
              List.flatMap_append, flatMap_failures_stopped, flatMap_failures_stopped,
              List.map_reverse]
            rfl
          · rw [hs₄, hs₃]
            exact restStates_atRest hsplit hst rest.length

end

end Paraegox.Runtime
