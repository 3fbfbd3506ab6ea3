import Paraegox.Runtime.HostCards

/-!
# Whole runs of a host

A host is created, then ready, then down, and no call takes it back.  `Course`
says for each of the three which owners were called so far and where the states
stand.  `Sound` is what the published status may be relied on for; it holds of
every snapshot in between as well.
-/

namespace Paraegox.Runtime

open RuntimeHostSnapshot (SameButCards)
open Bracket (AllOpen ascent)

/-! ## What a status may be relied on for -/

/-- The host, its Deck run and every Card are ready. -/
structure RuntimeHostSnapshot.FullyReady (s : RuntimeHostSnapshot) : Prop where
  state : s.state = .ready
  deckRun : ∀ run ∈ s.deckRun, run.state = .ready
  cards : ∀ run ∈ s.deckRun, ∀ card ∈ run.cards, card.state = .ready

/-- The status does not claim more than its parts do. -/
structure RuntimeHostSnapshot.Sound (s : RuntimeHostSnapshot) : Prop where
  ready : s.state = .ready → s.FullyReady
  deckReady : ∀ run ∈ s.deckRun, run.state = .ready → ∀ card ∈ run.cards, card.state = .ready
  deckStopped : ∀ run ∈ s.deckRun, run.state = .stopped → ∀ card ∈ run.cards,
    card.state = .stopped
  stopped : s.state = .stopped → ∀ run ∈ s.deckRun, run.state = .stopped
  atRest : s.state = .stopped ∨ s.state = .failed → ∀ run ∈ s.deckRun, ∀ card ∈ run.cards,
    card.state ≠ .starting ∧ card.state ≠ .ready ∧ card.state ≠ .stopping

namespace RuntimeHostSnapshot

variable {s s₀ : RuntimeHostSnapshot}

theorem deckState_of_mem {run : DeckRunSnapshot} (h : run ∈ s.deckRun) :
    s.deckState = some run.state := by
  rw [deckState, Option.mem_def.mp h, Option.map_some]

theorem mem_cardStates {run : DeckRunSnapshot} (h : run ∈ s.deckRun) {card : CardInstanceSnapshot}
    (hcard : card ∈ run.cards) : card.state ∈ s.cardStates := by
  rw [cardStates, Option.mem_def.mp h]
  exact List.mem_map_of_mem hcard

/-- While the host and its Deck are on their way, nothing is claimed. -/
theorem Sound.of_busy (hstate : s.state ≠ .ready ∧ s.state ≠ .stopped ∧ s.state ≠ .failed)
    (hdeck : s.deckState ≠ some .ready ∧ s.deckState ≠ some .stopped) : s.Sound where
  ready h := absurd h hstate.1
  deckReady _ hrun h := absurd (h ▸ deckState_of_mem hrun) hdeck.1
  deckStopped _ hrun h := absurd (h ▸ deckState_of_mem hrun) hdeck.2
  stopped h := absurd h hstate.2.1
  atRest h := absurd h (not_or.mpr hstate.2)

/-- With every Card ready, the Deck may be ready and the host too. -/
theorem Sound.of_ready (hstate : s.state ≠ .stopped ∧ s.state ≠ .failed)
    (hdeck : s.deckState ≠ some .stopped)
    (hready : s.state = .ready → ∀ d ∈ s.deckState, d = .ready)
    (hcards : ∀ st ∈ s.cardStates, st = .ready) : s.Sound where
  ready h := ⟨h, fun _ hrun => hready h _ (deckState_of_mem hrun),
    fun _ hrun _ hcard => hcards _ (mem_cardStates hrun hcard)⟩
  deckReady _ hrun _ _ hcard := hcards _ (mem_cardStates hrun hcard)
  deckStopped _ hrun h := absurd (h ▸ deckState_of_mem hrun) hdeck
  stopped h := absurd h hstate.1
  atRest h := absurd h (not_or.mpr hstate)

/-- With every Card at rest, the host may be down. -/
theorem Sound.of_atRest (hstate : s.state ≠ .ready) (hdeck : s.deckState ≠ some .ready)
    (hdeckStopped : s.deckState = some .stopped → ∀ st ∈ s.cardStates, st = .stopped)
    (hstopped : s.state = .stopped → ∀ d ∈ s.deckState, d = .stopped)
    (hcards : ∀ st ∈ s.cardStates, st.AtRest) : s.Sound where
  ready h := absurd h hstate
  deckReady _ hrun h := absurd (h ▸ deckState_of_mem hrun) hdeck
  deckStopped _ hrun h _ hcard :=
    hdeckStopped (h ▸ deckState_of_mem hrun) _ (mem_cardStates hrun hcard)
  stopped h _ hrun := hstopped h _ (deckState_of_mem hrun)
  atRest _ _ hrun _ hcard := by
    rcases hcards _ (mem_cardStates hrun hcard) with h | h | h <;> simp [h]

/-- After a stop, the Deck is stopped as its Cards are, or it failed and the host does
not count as stopped. -/
theorem Sound.of_stop {d : DeckRunState} (hstate : s.state ≠ .ready)
    (hdeck : ∀ d' ∈ s.deckState, d' = d)
    (hd : d = .stopped ∧ (∀ st ∈ s.cardStates, st = .stopped) ∨ d = .failed ∧ s.state ≠ .stopped)
    (hcards : ∀ st ∈ s.cardStates, st.AtRest) : s.Sound := by
  refine .of_atRest hstate ?_ ?_ ?_ hcards
  · intro h
    have := hdeck _ h
    rcases hd with ⟨rfl, -⟩ | ⟨rfl, -⟩ <;> cases this
  · intro h
    have := hdeck _ h
    rcases hd with ⟨-, hall⟩ | ⟨rfl, -⟩
    · exact hall
    · cases this
  · intro h
    rcases hd with ⟨rfl, -⟩ | ⟨-, hne⟩
    · exact hdeck
    · exact absurd h hne

/-- A sound status of the same host. -/
structure Good (s₀ s : RuntimeHostSnapshot) : Prop where
  sound : s.Sound
  fixedPart : s.fixedPart = s₀.fixedPart

end RuntimeHostSnapshot

open RuntimeHostSnapshot (Good Sound)

/-! ## Levels -/

/-- The host, its Deck and its Cards each stand at one state. -/
structure Level (host : RuntimeHost) (h : RuntimeHostState) (d : DeckRunState)
    (st : CardInstanceState) (s : RuntimeHostSnapshot) : Prop where
  state : s.state = h
  deckState : s.deckState = host.deck.map fun _ => d
  cardStates : s.cardStates = List.replicate host.slots.length st

section

variable {host : RuntimeHost} {h : RuntimeHostState} {d : DeckRunState} {st : CardInstanceState}
  {s s₀ : RuntimeHostSnapshot} {c : Console}

theorem Level.setRuntimeHostState (hl : Level host h d st s) (h' : RuntimeHostState) :
    Level host h' d st (s.setRuntimeHostState h') :=
  ⟨rfl, hl.deckState, hl.cardStates⟩

theorem Level.setDeckRunState (hl : Level host h d st s) (d' : DeckRunState) :
    Level host h d' st (s.setDeckRunState d') :=
  ⟨hl.state, by simp [hl.deckState, Function.comp_def], by simp [hl.cardStates]⟩

theorem Level.deckState_mem (hl : Level host h d st s) : ∀ d' ∈ s.deckState, d' = d := by
  rw [hl.deckState]
  intro d' hd
  obtain ⟨_, -, rfl⟩ := Option.map_eq_some_iff.mp hd
  rfl

theorem Level.mem_cardStates (hl : Level host h d st s) : ∀ st' ∈ s.cardStates, st' = st := by
  rw [hl.cardStates]
  exact fun _ => List.eq_of_mem_replicate

/-- Without a Deck there is nothing whose level could differ. -/
theorem Level.of_no_deck (hl : Level host h d st s) (hdeck : host.deck = none)
    (d' : DeckRunState) (st' : CardInstanceState) : Level host h d' st' s := by
  obtain ⟨hstate, hd, hcards⟩ := hl
  have hslots : host.slots = [] := by
    rw [RuntimeHost.slots, hdeck]
  rw [hdeck] at hd
  rw [hslots] at hcards
  exact ⟨hstate, by rw [hd, hdeck]; rfl, by rw [hcards, hslots]; rfl⟩

theorem Level.ne_deckState (hl : Level host h d st s) {d' : DeckRunState} (hne : d ≠ d') :
    s.deckState ≠ some d' :=
  fun h => hne (hl.deckState_mem d' h).symm

theorem Level.sound_of_ready (hl : Level host h d .ready s) (hh : h ≠ .stopped ∧ h ≠ .failed)
    (hd : d ≠ .stopped) (hready : h = .ready → d = .ready) : s.Sound := by
  refine .of_ready ?_ (hl.ne_deckState hd) ?_ hl.mem_cardStates
  · rw [hl.state]
    exact hh
  · intro hs d' hd'
    exact (hl.deckState_mem d' hd').trans (hready (hl.state.symm.trans hs))

theorem SameButCards.sound_of_busy {s' : RuntimeHostSnapshot} (hc : SameButCards s s')
    (hl : Level host h d st s) (hh : h ≠ .ready ∧ h ≠ .stopped ∧ h ≠ .failed)
    (hd : d ≠ .ready ∧ d ≠ .stopped) : s'.Sound := by
  refine .of_busy ?_ ?_
  · rw [hc.state, hl.state]
    exact hh
  · rw [hc.deckState]
    exact ⟨hl.ne_deckState hd.1, hl.ne_deckState hd.2⟩

/-! ## Starting -/

/-- The Deck of a starting host where every Card starts. -/
theorem RuntimeHost.startDeck_open (hall : AllOpen Managed.opening host.cards)
    (hl : Level host .starting .created .created c.snapshot)
    (hfix : c.snapshot.fixedPart = s₀.fixedPart) :
    ∃ c', Runs (Good s₀) host.startDeck c (.ok none) c' (host.cards.map Managed.started) ∧
      Level host .starting .ready .ready c'.snapshot ∧ c'.snapshot.fixedPart = s₀.fixedPart := by
  cases hdeck : host.deck with
  | none =>
      rw [startDeck, hdeck, cards, slots, hdeck]
      exact ⟨c, .pure _, hl.of_no_deck hdeck _ _, hfix⟩
  | some deck =>
      have hslots : host.slots = deck.slots := by rw [slots, hdeck]
      rw [cards, hslots] at hall
      have hl₁ := hl.setDeckRunState .starting
      have hbusy (s : RuntimeHostSnapshot)
          (hs : SameButCards (c.snapshot.setDeckRunState .starting) s) : Good s₀ s :=
        ⟨SameButCards.sound_of_busy hs hl₁ (by decide) (by decide), by simp [hs.fixedPart, hfix]⟩
      have h₁ := Runs.publish (f := fun s => s.setDeckRunState .starting)
        (hbusy _ (.refl (c.snapshot.setDeckRunState .starting)))
      obtain ⟨c₂, h₂, hc₂, hs₂⟩ := host.startCards_open
        (c := c.write fun s => s.setDeckRunState .starting)
        (List.nil_append deck.slots).symm hall (.refl _)
        (by simp [hl.cardStates, hslots, risen])
      have hl₃ : Level host .starting .ready .ready (c₂.snapshot.setDeckRunState .ready) := by
        refine ⟨by simp [hc₂.state, hl.state], ?_, ?_⟩
        · simp [hc₂.deckState, hl.deckState, Function.comp_def]
        · simp [hs₂, hslots, risen]
      have hfix₃ : (c₂.snapshot.setDeckRunState .ready).fixedPart = s₀.fixedPart := by
        simp [hc₂.fixedPart, hfix]
      have hgood₃ : Good s₀ (c₂.snapshot.setDeckRunState .ready) :=
        ⟨hl₃.sound_of_ready (by decide) (by decide) (by decide), hfix₃⟩
      have h₃ := Runs.publish (f := fun s => s.setDeckRunState .ready) hgood₃
      refine ⟨c₂.write fun s => s.setDeckRunState .ready, ?_, hl₃, hfix₃⟩
      rw [startDeck, hdeck, cards, hslots]
      exact h₁.bind ((h₂.mono hbusy).bind_none (h₃.bind (.pure _)))

/-- The Deck of a starting host where a Card does not start. -/
theorem RuntimeHost.startDeck_rollback (hnot : ¬ AllOpen Managed.opening host.cards)
    (hl : Level host .starting .created .created c.snapshot)
    (hfix : c.snapshot.fixedPart = s₀.fixedPart) :
    ∃ failure cleanup c', Runs (Good s₀) host.startDeck c (.ok (some (failure, cleanup))) c'
      ((ascent Managed.opening host.cards).map invocationOf) ∧
      ((ascent Managed.opening host.cards).map invocationOf).flatMap
        (Invocation.failures host.lifecycleTimeout) = failure :: cleanup ∧
      Good s₀ (c'.snapshot.setRuntimeHostState .failed) := by
  cases hdeck : host.deck with
  | none =>
      rw [cards, slots, hdeck] at hnot
      exact absurd (by simp [AllOpen]) hnot
  | some deck =>
      have hslots : host.slots = deck.slots := by rw [slots, hdeck]
      rw [cards, hslots] at hnot
      have hl₁ := hl.setDeckRunState .starting
      have hbusy (s : RuntimeHostSnapshot)
          (hs : SameButCards (c.snapshot.setDeckRunState .starting) s) : Good s₀ s :=
        ⟨SameButCards.sound_of_busy hs hl₁ (by decide) (by decide), by simp [hs.fixedPart, hfix]⟩
      have hstate (s : RuntimeHostSnapshot)
          (hs : SameButCards (c.snapshot.setDeckRunState .starting) s) : s.state = .starting := by
        simp [hs.state, hl.state]
      have hfixed (s : RuntimeHostSnapshot)
          (hs : SameButCards (c.snapshot.setDeckRunState .starting) s) :
          s.fixedPart = s₀.fixedPart := by
        simp [hs.fixedPart, hfix]
      have h₁ := Runs.publish (f := fun s => s.setDeckRunState .starting)
        (hbusy _ (.refl (c.snapshot.setDeckRunState .starting)))
      obtain ⟨failure, cleanup, s, c₂, h₂, hfs₂, hs₂, hs, hrest⟩ :=
        host.startCards_rollback (P := Good s₀)
        (c := c.write fun s => s.setDeckRunState .starting) hbusy
        (fun s hs => ⟨.of_busy (by simp [hstate s hs]) (by simp), by simp [hfixed s hs]⟩)
        (List.nil_append deck.slots).symm hnot (.refl _)
        (by simp [hl.cardStates, hslots, risen])
      rw [List.map_nil, List.reverse_nil, List.map_nil, List.append_nil] at h₂ hfs₂
      rw [startDeck, hdeck, cards, hslots]
      refine ⟨failure, cleanup, c₂, ?_, hfs₂, ?_⟩
      · exact h₁.bind (h₂.bind_none (.bind (.pure _) (.pure _)))
      · rw [hs₂]
        exact ⟨.of_atRest (by simp) (by simp) (by simp) (by simp) (by simpa using hrest),
          by simp [hfixed s hs]⟩

theorem Runs.requireState {P : RuntimeHostSnapshot → Prop} {expected : RuntimeHostState}
    (hstate : c.snapshot.state = expected) (action : String) :
    Runs P (requireState action expected) c (.ok ()) c [] := by
  refine ⟨?_, (List.append_nil _).symm, fun _ hs => .inl hs⟩
  rw [Runtime.requireState]
  simp [EStateM.run_bind, EStateM.run_get, hstate, hostResult]

theorem requireState_fails {expected : RuntimeHostState} (hstate : c.snapshot.state ≠ expected)
    (action : String) :
    EStateM.run (requireState action expected) c =
      .error (.error (.invalidTransition action c.snapshot.state)) c := by
  rw [requireState]
  simp [EStateM.run_bind, EStateM.run_get, hstate]

/-- `start` where every owner starts. -/
theorem RuntimeHost.start_open (hall : AllOpen Managed.opening host.owners)
    (hl : Level host .created .created .created c.snapshot)
    (hfix : c.snapshot.fixedPart = s₀.fixedPart) :
    ∃ c', Runs (Good s₀) host.start c (.ok ()) c' (host.owners.map Managed.started) ∧
      Level host .ready .ready .ready c'.snapshot ∧ Good s₀ c'.snapshot := by
  obtain ⟨hservices, hcards⟩ := Bracket.allOpen_append.mp hall
  have h₁ := Runs.requireState (P := Good s₀) hl.state "start"
  have hl₂ := hl.setRuntimeHostState .starting
  have h₂ := Runs.publish (P := Good s₀) (f := fun s => s.setRuntimeHostState .starting)
    ⟨SameButCards.sound_of_busy (.refl _) hl₂ (by decide) (by decide), hfix⟩
  obtain ⟨c₃, h₃, hs₃⟩ := host.startServices_open (P := Good s₀)
    (show AllOpen Managed.opening (host.coreServices.zipIdx.map CoreService.managed)
      from hservices) 0
    (c.write fun s => s.setRuntimeHostState .starting)
  have hfix₃ : c₃.snapshot.fixedPart = s₀.fixedPart := by
    rw [hs₃]
    exact hfix
  obtain ⟨c₄, h₄, hl₄, hfix₄⟩ := startDeck_open (c := c₃) hcards (hs₃ ▸ hl₂) hfix₃
  have hl₅ := hl₄.setRuntimeHostState .ready
  have hgood₅ : Good s₀ (c₄.snapshot.setRuntimeHostState .ready) :=
    ⟨hl₅.sound_of_ready (by decide) (by decide) (fun _ => rfl), hfix₄⟩
  have h₅ := Runs.publish (f := fun s => s.setRuntimeHostState .ready) hgood₅
  refine ⟨c₄.write fun s => s.setRuntimeHostState .ready, ?_, hl₅, hgood₅⟩
  rw [owners, List.map_append]
  exact h₁.bind (h₂.bind (h₃.bind (h₄.bind_none h₅)))

/-- `start` where an owner does not start. -/
theorem RuntimeHost.start_rollback (hnot : ¬ AllOpen Managed.opening host.owners)
    (hl : Level host .created .created .created c.snapshot)
    (hfix : c.snapshot.fixedPart = s₀.fixedPart) :
    ∃ failure cleanup c', Runs (Good s₀) host.start c (.error (.startFailed failure cleanup)) c'
        ((ascent Managed.opening host.owners).map invocationOf) ∧
      ((ascent Managed.opening host.owners).map invocationOf).flatMap
        (Invocation.failures host.lifecycleTimeout) = failure :: cleanup ∧
      c'.snapshot.state = .failed ∧ Good s₀ c'.snapshot := by
  have h₁ := Runs.requireState (P := Good s₀) hl.state "start"
  have hl₂ := hl.setRuntimeHostState .starting
  have h₂ := Runs.publish (P := Good s₀) (f := fun s => s.setRuntimeHostState .starting)
    ⟨SameButCards.sound_of_busy (.refl _) hl₂ (by decide) (by decide), hfix⟩
  cases Decidable.em (AllOpen Managed.opening host.services) with
  | inl hservices =>
      have hcards : ¬ AllOpen Managed.opening host.cards :=
        fun hcards => hnot (Bracket.allOpen_append.mpr ⟨hservices, hcards⟩)
      obtain ⟨c₃, h₃, hs₃⟩ := host.startServices_open (P := Good s₀)
        (show AllOpen Managed.opening (host.coreServices.zipIdx.map CoreService.managed)
          from hservices) 0
        (c.write fun s => s.setRuntimeHostState .starting)
      have hfix₃ : c₃.snapshot.fixedPart = s₀.fixedPart := by
        rw [hs₃]
        exact hfix
      obtain ⟨failure, cleanup, c₄, h₄, hfs₄, hgood₄⟩ :=
        startDeck_rollback (c := c₃) hcards (hs₃ ▸ hl₂) hfix₃
      obtain ⟨c₅, h₅, hs₅⟩ := host.stopStartedServices_runs (P := Good s₀)
        (List.append_nil host.coreServices.zipIdx).symm c₄
      rw [← hs₅] at hgood₄
      have h₆ := Runs.publish (f := fun s => s.setRuntimeHostState .failed) hgood₄
      have hstarted : (host.services.map Managed.started).flatMap
          (Invocation.failures host.lifecycleTimeout) = [] :=
        flatMap_failures_started_open hservices
      rw [owners, Bracket.ascent_append hservices, if_neg hcards, List.map_append, List.map_append,
        List.map_map, List.map_map, List.append_assoc]
      refine ⟨failure, cleanup ++
          (host.coreServices.zipIdx.reverse.map CoreService.managed).flatMap fun m =>
            m.stopFailures host.lifecycleTimeout,
        c₅.write fun s => s.setRuntimeHostState .failed, ?_, ?_, rfl, hgood₄⟩
      · refine h₁.bind (h₂.bind (h₃.bind (h₄.bind ?_)))
        rw [Nat.zero_add]
        exact h₅.bind_none (h₆.bind (.fail _))
      · have hstopped : (host.services.reverse.map (invocationOf ∘ .closes)).flatMap
            (Invocation.failures host.lifecycleTimeout) =
            (host.coreServices.zipIdx.reverse.map CoreService.managed).flatMap fun m =>
              m.stopFailures host.lifecycleTimeout := by
          rw [services, ← List.map_reverse]
          exact flatMap_failures_stopped _ _
        rw [List.flatMap_append, List.flatMap_append, hfs₄, hstopped]
        exact congrArg (· ++ (failure :: cleanup ++ _)) hstarted
  | inr hservices =>
      obtain ⟨failure, cleanup, c₃, h₃, hfs₃, hs₃⟩ := host.startServices_rollback (P := Good s₀)
        (List.nil_append host.coreServices.zipIdx).symm hservices
        (c := c.write fun s => s.setRuntimeHostState .starting)
        ⟨.of_busy (by simp) (by simp), by simpa using hfix⟩
        ⟨.of_atRest (by simp) (by simp) (by simp) (by simp)
          (by simp [hl.cardStates, CardInstanceState.AtRest]), by simpa using hfix⟩
      rw [List.map_nil, List.reverse_nil, List.map_nil, List.append_nil] at h₃ hfs₃
      rw [owners, Bracket.ascent_append_of_not hservices]
      refine ⟨failure, cleanup, c₃, ?_, hfs₃, by simp [hs₃], ?_⟩
      · exact h₁.bind (h₂.bind h₃.bind_error)
      · rw [hs₃]
        exact ⟨.of_atRest (by simp) (by simp) (by simp) (by simp)
          (by simp [hl.cardStates, CardInstanceState.AtRest]), by simpa using hfix⟩

/-! ## Stopping -/

theorem CardSlot.restState_of_no_failures {slot : CardSlot} {deadline : Nat}
    (h : slot.managed.stopFailures deadline = []) : slot.restState = .stopped := by
  rw [CardSlot.restState]
  cases hs : slot.implementation.stop with
  | ok => rfl
  | failed source => simp [Managed.stopFailures, managed, hs, Completion.result, failureOf] at h
  | elapsed => simp [Managed.stopFailures, managed, hs, Completion.result, failureOf] at h

/-- The Deck of a stopping host: every Card is at rest then, and stopped if no
stop failed. -/
theorem RuntimeHost.stopDeck_runs (hl : Level host .stopping .ready .ready c.snapshot)
    (hfix : c.snapshot.fixedPart = s₀.fixedPart) :
    ∃ c', Runs (Good s₀) host.stopDeck c
      (.ok (host.cards.reverse.flatMap fun m => m.stopFailures host.lifecycleTimeout)) c'
      (host.cards.reverse.map Managed.stopped) ∧
      Good s₀ (c'.snapshot.setRuntimeHostState .failed) ∧
      ((host.cards.reverse.flatMap fun m => m.stopFailures host.lifecycleTimeout) = [] →
        Good s₀ (c'.snapshot.setRuntimeHostState .stopped)) := by
  cases hdeck : host.deck with
  | none =>
      have hcards : c.snapshot.cardStates = [] := by
        rw [hl.cardStates, slots, hdeck]
        rfl
      have hstate : c.snapshot.deckState = none := by
        rw [hl.deckState, hdeck]
        rfl
      rw [stopDeck, hdeck, cards, slots, hdeck]
      refine ⟨c, .pure _, ⟨.of_atRest ?_ ?_ ?_ ?_ ?_, hfix⟩,
        fun _ => ⟨.of_atRest ?_ ?_ ?_ ?_ ?_, hfix⟩⟩ <;> simp [hstate, hcards]
  | some deck =>
      have hslots : host.slots = deck.slots := by rw [slots, hdeck]
      have hl₁ := hl.setDeckRunState .stopping
      have hbusy (s : RuntimeHostSnapshot)
          (hs : SameButCards (c.snapshot.setDeckRunState .stopping) s) : Good s₀ s :=
        ⟨SameButCards.sound_of_busy hs hl₁ (by decide) (by decide), by simp [hs.fixedPart, hfix]⟩
      have h₁ := Runs.publish (f := fun s => s.setDeckRunState .stopping)
        (hbusy _ (.refl (c.snapshot.setDeckRunState .stopping)))
      obtain ⟨c₂, h₂, hc₂, hs₂⟩ := stopStartedCards_runs host.lifecycleTimeout
        (List.append_nil deck.slots).symm
        (SameButCards.refl (c.write fun s => s.setDeckRunState .stopping).snapshot)
      have hrest : c₂.snapshot.cardStates = deck.slots.map CardSlot.restState := by
        have hready : (c.snapshot.setDeckRunState .stopping).cardStates =
            List.replicate deck.slots.length .ready ++ [] := by
          rw [hl₁.cardStates, hslots, List.append_nil]
        rw [hs₂, Console.write_snapshot, hready,
          restStates_reverse (fun _ _ h => deck.slots_index h) (by simp), List.append_nil]
      have hatRest : ∀ st ∈ c₂.snapshot.cardStates, st.AtRest := by
        rw [hrest]
        intro st hst
        obtain ⟨slot, -, rfl⟩ := List.mem_map.mp hst
        exact slot.restState_atRest
      have hstopped (hfs : ((deck.slots.reverse.map CardSlot.managed).flatMap fun m =>
          m.stopFailures host.lifecycleTimeout) = []) :
          ∀ st ∈ c₂.snapshot.cardStates, st = .stopped := by
        rw [hrest]
        intro st hst
        obtain ⟨slot, hslot, rfl⟩ := List.mem_map.mp hst
        exact CardSlot.restState_of_no_failures (List.flatMap_eq_nil_iff.mp hfs _
          (List.mem_map_of_mem (List.mem_reverse.mpr hslot)))
      have hfix₂ : c₂.snapshot.fixedPart = s₀.fixedPart := by
        simp [hc₂.fixedPart, hfix]
      have hstate₂ : c₂.snapshot.state = .stopping := by
        simp [hc₂.state, hl.state]
      rw [stopDeck, hdeck, cards, hslots, ← List.map_reverse]
      rw [deck.length_slots, ← List.map_reverse] at h₂
      generalize ((deck.slots.reverse.map CardSlot.managed).flatMap fun m =>
        m.stopFailures host.lifecycleTimeout) = failures at h₂ hstopped ⊢
      have hgood (s : RuntimeHostSnapshot) (hstate : s.state ≠ .ready)
          (hstops : s.state = .stopped → failures = [])
          (hdeck : s.deckState = (c₂.snapshot.setDeckRunState
            (if failures.isEmpty then .stopped else .failed)).deckState)
          (hcards : s.cardStates = c₂.snapshot.cardStates)
          (hfix : s.fixedPart = c₂.snapshot.fixedPart) : Good s₀ s := by
        refine ⟨.of_stop (d := if failures.isEmpty then .stopped else .failed) hstate ?_ ?_
          (hcards ▸ hatRest), hfix.trans hfix₂⟩
        · rw [hdeck, RuntimeHostSnapshot.setDeckRunState_deckState]
          intro d hd
          obtain ⟨_, -, rfl⟩ := Option.map_eq_some_iff.mp hd
          rfl
        · cases failures with
          | nil => exact .inl ⟨rfl, hcards ▸ hstopped rfl⟩
          | cons _ _ => exact .inr ⟨rfl, fun h => nomatch hstops h⟩
      have h₃ := Runs.publish (f := fun s => s.setDeckRunState
        (if failures.isEmpty then .stopped else .failed))
        (hgood _ (by simp [hstate₂]) (by simp [hstate₂]) rfl (by simp) (by simp))
      exact ⟨c₂.write fun s => s.setDeckRunState (if failures.isEmpty then .stopped else .failed),
        h₁.bind ((h₂.mono hbusy).bind_none (h₃.bind (.pure _))),
        hgood _ (by simp) (by simp) rfl (by simp) (by simp),
        fun hfs => hgood _ (by simp) (fun _ => hfs) rfl (by simp) (by simp)⟩

/-- What `stop` returns after these failures. -/
def stopReport (failures : List LifecycleFailure) : Except RuntimeHostError Unit :=
  if failures = [] then .ok () else .error (.stopFailed failures)

/-- `stop` of a ready host. -/
theorem RuntimeHost.stop_runs (hl : Level host .ready .ready .ready c.snapshot)
    (hfix : c.snapshot.fixedPart = s₀.fixedPart) :
    ∃ c', Runs (Good s₀) host.stop c (stopReport (host.owners.reverse.flatMap fun m =>
        m.stopFailures host.lifecycleTimeout)) c' (host.owners.reverse.map Managed.stopped) ∧
      c'.snapshot.state = (if (host.owners.reverse.flatMap fun m =>
        m.stopFailures host.lifecycleTimeout) = [] then .stopped else .failed) ∧
      Good s₀ c'.snapshot := by
  have h₁ := Runs.requireState (P := Good s₀) hl.state "stop"
  have hl₂ := hl.setRuntimeHostState .stopping
  have h₂ := Runs.publish (P := Good s₀) (f := fun s => s.setRuntimeHostState .stopping)
    ⟨hl₂.sound_of_ready (by decide) (by decide) (by decide), hfix⟩
  obtain ⟨c₃, h₃, hfailed, hstopped⟩ := stopDeck_runs
    (c := c.write fun s => s.setRuntimeHostState .stopping) hl₂ hfix
  obtain ⟨c₄, h₄, hs₄⟩ := host.stopStartedServices_runs (P := Good s₀)
    (List.append_nil host.coreServices.zipIdx).symm c₃
  have hcalls : host.owners.reverse.map Managed.stopped =
      host.cards.reverse.map Managed.stopped ++
        (host.coreServices.zipIdx.map CoreService.managed).reverse.map Managed.stopped := by
    rw [owners, List.reverse_append, List.map_append, services]
  have hfailures : (host.owners.reverse.flatMap fun m => m.stopFailures host.lifecycleTimeout) =
      (host.cards.reverse.flatMap fun m => m.stopFailures host.lifecycleTimeout) ++
        (host.coreServices.zipIdx.reverse.map CoreService.managed).flatMap fun m =>
          m.stopFailures host.lifecycleTimeout := by
    rw [owners, List.reverse_append, List.flatMap_append, services, ← List.map_reverse]
  rw [hfailures, hcalls]
  rw [List.length_zipIdx] at h₄
  rw [← hs₄] at hfailed hstopped
  generalize (host.cards.reverse.flatMap fun m => m.stopFailures host.lifecycleTimeout) =
    cardFailures at h₃ hstopped ⊢
  generalize ((host.coreServices.zipIdx.reverse.map CoreService.managed).flatMap fun m =>
    m.stopFailures host.lifecycleTimeout) = serviceFailures at h₄ ⊢
  cases hfs : (cardFailures ++ serviceFailures).isEmpty with
  | true =>
      have hgood := hstopped (List.append_eq_nil_iff.mp (List.isEmpty_iff.mp hfs)).1
      have h₅ := Runs.publish (f := fun s => s.setRuntimeHostState .stopped) hgood
      refine ⟨c₄.write fun s => s.setRuntimeHostState .stopped, ?_,
        (if_pos (List.isEmpty_iff.mp hfs)).symm, hgood⟩
      rw [stopReport, if_pos (List.isEmpty_iff.mp hfs)]
      refine h₁.bind (h₂.bind (h₃.bind (h₄.bind_none ?_)))
      rw [if_pos hfs]
      exact h₅
  | false =>
      have h₅ := Runs.publish (f := fun s => s.setRuntimeHostState .failed) hfailed
      have hne : cardFailures ++ serviceFailures ≠ [] := by
        rw [← List.isEmpty_eq_false_iff]
        exact hfs
      refine ⟨c₄.write fun s => s.setRuntimeHostState .failed, ?_, (if_neg hne).symm, hfailed⟩
      rw [stopReport, if_neg hne]
      refine h₁.bind (h₂.bind (h₃.bind (h₄.bind_none ?_)))
      rw [if_neg (by simp [hfs])]
      exact h₅.bind (.fail _)

/-! ## Calls -/

theorem RuntimeHost.start_refused (host : RuntimeHost) (hstate : c.snapshot.state ≠ .created) :
    EStateM.run host.start c =
      .error (.error (.invalidTransition "start" c.snapshot.state)) c := by
  rw [start, EStateM.run_bind, requireState_fails hstate]

theorem RuntimeHost.stop_refused (host : RuntimeHost) (hstate : c.snapshot.state ≠ .ready) :
    EStateM.run host.stop c =
      .error (.error (.invalidTransition "stop" c.snapshot.state)) c := by
  rw [stop, EStateM.run_bind, requireState_fails hstate]

/-- The calls of a start and, where it took place, of what undid it. -/
def RuntimeHost.bracketCalls (host : RuntimeHost) : List Invocation :=
  (Bracket.attempted Managed.opening host.owners).map Managed.started ++
    (Bracket.held Managed.opening host.owners).reverse.map Managed.stopped

/-- Where a host stands between two calls. -/
inductive RuntimeHost.Position (host : RuntimeHost) (c : Console) : Prop where
  | created (hl : Level host .created .created .created c.snapshot) (hcalls : c.invocations = [])
  | ready (hall : AllOpen Managed.opening host.owners)
      (hl : Level host .ready .ready .ready c.snapshot)
      (hcalls : c.invocations = host.owners.map Managed.started)
  | down (hstate : c.snapshot.state = .stopped ∨ c.snapshot.state = .failed)
      (hcalls : c.invocations = host.bracketCalls)

/-- A host between two calls, with the snapshots it published on the way. -/
structure RuntimeHost.Course (host : RuntimeHost) (s₀ : RuntimeHostSnapshot) (c : Console) :
    Prop where
  position : host.Position c
  good : Good s₀ c.snapshot
  published : ∀ s ∈ c.published, Good s₀ s

theorem Runs.good {α : Type} {x : Hosted α} {r : Except RuntimeHostError α} {c c' : Console}
    {calls : List Invocation} (h : Runs (Good s₀) x c r c' calls)
    (hpub : ∀ s ∈ c.published, Good s₀ s) : ∀ s ∈ c'.published, Good s₀ s :=
  fun s hs => (h.published s hs).elim (hpub s) id

theorem Console.after_of_error {α : Type} {x : Hosted α} {e : Fault RuntimeHostError}
    (h : EStateM.run x c = .error e c) : c.after x = c := by
  rw [Console.after, h]

/-- The first call of a created host. -/
theorem RuntimeHost.Course.start_created (hc : host.Course s₀ c)
    (hl : Level host .created .created .created c.snapshot) (hcalls : c.invocations = []) :
    host.Course s₀ (c.after host.start) := by
  cases Decidable.em (AllOpen Managed.opening host.owners) with
  | inl hall =>
      obtain ⟨c', h, hl', hgood⟩ := start_open hall hl hc.good.fixedPart
      rw [h.after]
      exact ⟨.ready hall hl' (by rw [h.invocations, hcalls, List.nil_append]), hgood,
        h.good hc.published⟩
  | inr hnot =>
      obtain ⟨failure, cleanup, c', h, -, hstate, hgood⟩ := start_rollback hnot hl hc.good.fixedPart
      rw [h.after]
      refine ⟨.down (.inr hstate) ?_, hgood, h.good hc.published⟩
      rw [h.invocations, hcalls, List.nil_append, ascent, if_neg hnot, List.map_append,
        List.map_map, List.map_map]
      rfl

/-- The stop of a ready host. -/
theorem RuntimeHost.Course.stop_ready (hc : host.Course s₀ c)
    (hall : AllOpen Managed.opening host.owners)
    (hl : Level host .ready .ready .ready c.snapshot)
    (hcalls : c.invocations = host.owners.map Managed.started) :
    host.Course s₀ (c.after host.stop) := by
  obtain ⟨c', h, hstate, hgood⟩ := stop_runs hl hc.good.fixedPart
  rw [h.after]
  refine ⟨.down (hstate ▸ ite_eq_or_eq _ _ _) ?_, hgood, h.good hc.published⟩
  rw [h.invocations, hcalls, bracketCalls, Bracket.attempted_of_allOpen hall,
    Bracket.held_of_allOpen hall]

/-- A call keeps a host on its course. -/
theorem RuntimeHost.Course.perform (hc : host.Course s₀ c) (call : HostCall) :
    host.Course s₀ (c.after (host.perform call)) := by
  cases hc.position with
  | created hl hcalls =>
      cases call with
      | start => exact hc.start_created hl hcalls
      | stop =>
          have hstate : c.snapshot.state ≠ .ready := by
            rw [hl.state]
            decide
          rw [RuntimeHost.perform, Console.after_of_error (host.stop_refused hstate)]
          exact hc
  | ready hall hl hcalls =>
      cases call with
      | start =>
          have hstate : c.snapshot.state ≠ .created := by
            rw [hl.state]
            decide
          rw [RuntimeHost.perform, Console.after_of_error (host.start_refused hstate)]
          exact hc
      | stop => exact hc.stop_ready hall hl hcalls
  | down hstate hcalls =>
      cases call with
      | start =>
          have hne : c.snapshot.state ≠ .created := by
            rcases hstate with hstate | hstate <;> rw [hstate] <;> decide
          rw [RuntimeHost.perform, Console.after_of_error (host.start_refused hne)]
          exact hc
      | stop =>
          have hne : c.snapshot.state ≠ .ready := by
            rcases hstate with hstate | hstate <;> rw [hstate] <;> decide
          rw [RuntimeHost.perform, Console.after_of_error (host.stop_refused hne)]
          exact hc

/-- So do all calls. -/
theorem RuntimeHost.Course.performAll (hc : host.Course s₀ c) (calls : List HostCall) :
    host.Course s₀ (host.performAll c calls) := by
  induction calls generalizing c with
  | nil => exact hc
  | cons call calls ih => exact ih (hc.perform call)

end

/-! ## The host as it is built -/

theorem cardSnapshots_state (cards : List Deck.ResolvedCard) (ids : List CardInstanceId)
    (hids : ids.length = cards.length) :
    (cardSnapshots cards ids).map CardInstanceSnapshot.state =
      List.replicate cards.length .created := by
  induction cards generalizing ids with
  | nil => rfl
  | cons card cards ih =>
      cases ids with
      | nil => cases hids
      | cons cardInstanceId ids =>
          rw [cardSnapshots, List.zipWith_cons_cons, List.map_cons, List.length_cons,
            List.replicate_succ, ← ih ids (Nat.succ.inj hids), cardSnapshots]

variable {identity : RuntimeHostIdentity} {coreServices : List CoreService}
  {deckLaunch : Option DeckLaunch} {deckRunId : DeckRunId} {freshId : Nat → CardInstanceId}
  {host : RuntimeHost} {console : Console}

theorem RuntimeHost.build_level
    (h : RuntimeHost.build identity coreServices deckLaunch deckRunId freshId =
      .ok (host, console)) :
    Level host .created .created .created console.snapshot ∧ console.trace = [] := by
  simp only [build] at h
  split_ifs at h
  cases deckLaunch with
  | none =>
      simp only [Except.ok.injEq, Prod.mk.injEq] at h
      obtain ⟨rfl, rfl⟩ := h
      exact ⟨⟨rfl, rfl, rfl⟩, rfl⟩
  | some launch =>
      simp only [Except.ok.injEq, Prod.mk.injEq] at h
      obtain ⟨rfl, rfl⟩ := h
      refine ⟨⟨rfl, rfl, ?_⟩, rfl⟩
      rw [slots, DeckOwner.length_slots, ← launch.implemented.length_eq]
      exact cardSnapshots_state _ _ (by simp)

/-- A host starts its course as it was built. -/
theorem RuntimeHost.build_course
    (h : RuntimeHost.build identity coreServices deckLaunch deckRunId freshId =
      .ok (host, console)) : host.Course console.snapshot console := by
  obtain ⟨hl, htrace⟩ := build_level h
  refine ⟨.created hl ?_,
    ⟨SameButCards.sound_of_busy (.refl _) hl (by decide) (by decide), rfl⟩, ?_⟩
  · rw [Console.invocations, htrace]
    rfl
  · rw [Console.published, htrace]
    exact fun _ h => absurd h List.not_mem_nil

end Paraegox.Runtime
