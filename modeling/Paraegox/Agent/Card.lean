import Mathlib.Data.Fin.VecNotation
import Mathlib.Logic.Embedding.Basic
import Mathlib.Logic.Function.Basic
import Paraegox.Agent.Context
import Paraegox.Agent.Shutdown
import Paraegox.Runtime.Deck

/-!
# Agent Cards on one service

An `AgentCard` remembers in `activeInstance` that it owns the profile, and the service
remembers in its profile who owns it.  The two agree as long as the service runs.  A stop
or a drop of the service clears the profile alone, and from then on it activates nothing.

Only a call on a Card reaches its field, and that call has the Card to itself.  So the
write of the field is one step with the locked block beside it.
-/

namespace Paraegox.Agent

open Deck (CardDefinitionRef CardKey)
open Paraegox.Runtime (CardContext CardInstanceId)

/-- `AgentCard`, less its handle. -/
structure AgentCard where
  key : CardKey
  definition : CardDefinitionRef
  systemPrompt : String
  activeInstance : Option CardInstanceId

/-- `AgentCard::new`. -/
def AgentCard.new (key : CardKey) : AgentCard where
  key := key
  definition := ⟨BUILTIN_AGENT_DEFINITION⟩
  systemPrompt := BUILTIN_AGENT_SYSTEM_PROMPT
  activeInstance := none

/-- `AgentCard::new_deepseek_v4_flash`. -/
def AgentCard.newDeepseekV4Flash (key : CardKey) : AgentCard where
  key := key
  definition := ⟨DEEPSEEK_V4_FLASH_AGENT_DEFINITION⟩
  systemPrompt := BUILTIN_AGENT_SYSTEM_PROMPT
  activeInstance := none

/-- `AgentCard::start`, on the service behind the handle. -/
def AgentCard.start (card : AgentCard) (world : World) (context : CardContext) :
    Report × World × AgentCard :=
  if context.cardKey ≠ card.key ∨ context.definition ≠ card.definition then
    (.failed (.error ⟨"Agent Card received mismatched Runtime context"⟩), world, card)
  else
    match world.activateProfile context.cardInstanceId card.definition card.systemPrompt with
    | (.done, world) =>
        (.done, world, { card with activeInstance := some context.cardInstanceId })
    | (report, world) => (report, world, card)

/-- `AgentCard::stop` up to its wait, in the future `task`. -/
def AgentCard.stop (card : AgentCard) (world : World) (task : TaskId) :
    Report × World × AgentCard :=
  match card.activeInstance with
  | none => (.done, world, card)
  | some cardInstanceId =>
      let (report, world) := world.deactivateProfile task cardInstanceId
      (report, world, { card with activeInstance := none })

/-! ## The service with its Cards -/

/-- A service and the Cards built on its handles. -/
structure Roster (n : Nat) where
  world : World
  cards : Fin n → AgentCard

inductive RosterAction (n : Nat) where
  /-- Anything but a call on a Card. -/
  | service (action : Action)
  | start (i : Fin n) (cardKey : CardKey) (definition : CardDefinitionRef)
  | stop (i : Fin n)

/-- The label belongs to a call on a Card. -/
def Action.ofCard : Action → Bool
  | .activateProfile _ _ _ | .deactivateProfile _ _ => true
  | _ => false

variable {n : Nat}

/-- The world and one Card after a call on it. -/
def Roster.setCard (roster : Roster n) (i : Fin n) (outcome : Report × World × AgentCard) :
    Report × Roster n :=
  (outcome.1, ⟨outcome.2.1, Function.update roster.cards i outcome.2.2⟩)

/-- The step a label names.  A stop that still waits has its Card to itself; its future
has the number of the Card. -/
def Roster.next (ids : Fin n ↪ CardInstanceId) (roster : Roster n) :
    RosterAction n → Option (Report × Roster n)
  | .service action =>
      if action.ofCard then none
      else (roster.world.next action).map fun (report, world) => (report, { roster with world })
  | .start i cardKey definition =>
      if i.val ∈ roster.world.draining then none
      else some (roster.setCard i
        ((roster.cards i).start roster.world ⟨ids i, cardKey, definition⟩))
  | .stop i =>
      if i.val ∈ roster.world.draining then none
      else some (roster.setCard i ((roster.cards i).stop roster.world i.val))

/-- A service and Cards that each have an instance id of their own. -/
def roster (ids : Fin n ↪ CardInstanceId) : Transition.System (Roster n) (RosterAction n) Report :=
  ⟨Roster.next ids⟩

/-! ## What the service does to the profile -/

/-- A stop that returns found the service not running. -/
theorem World.Inv.stopped_not_running {w w' : World} (h : w.Inv) {a : Action}
    (ha : a = .stop ∨ a = .stopFinish) (hn : w.next a = some (.done, w')) :
    w.state.lifecycle ≠ .running := by
  intro hrun
  rcases ha with rfl | rfl
  · simp only [next, Option.ite_none_right_eq_some, Option.some.injEq, locked, beginStop,
      EStateM.run_bind, EStateM.run_get, hrun] at hn
    cases hn.2
  · simp only [next, Option.ite_none_right_eq_some] at hn
    have hstopping := (h.stopping _ hn.1).2.1
    simp [hrun] at hstopping

/-- A step that is no call on a Card leaves the profile, or it stops or drops the service. -/
theorem World.next_profile {w w' : World} (h : w.Inv)
    (hrun : w.state.activeProfile.isSome → w.state.lifecycle = .running) {a : Action}
    {r : Report} (ha : a.ofCard = false) (hn : w.next a = some (r, w')) :
    (w'.state.activeProfile = w.state.activeProfile ∧
        (w.state.activeProfile.isSome → w'.state.lifecycle = .running)) ∨
      w'.state.activeProfile = none ∧ w'.Closing ∧ (a = .stop ∨ a = .dropService) := by
  have hchange := next_change h hn
  cases hchange with
  | started hl =>
      refine .inl ⟨rfl, fun hsome => ?_⟩
      cases hl.symm.trans (hrun hsome)
  | stopped hact _ _ =>
      exact .inl ⟨rfl, fun hsome => absurd (hrun hsome) (h.stopped_not_running hact hn)⟩
  | stopping _ _ => exact .inr ⟨rfl, by simp [Closing, ServiceLifecycle.rank], .inl rfl⟩
  | dropped _ _ => exact .inr ⟨rfl, by simp [Closing, ServiceLifecycle.rank], .inr rfl⟩
  | activated _ _ => cases ha
  | deactivated _ => cases ha
  | overflowed _ _ _ _ _ _ _ => exact .inl ⟨by simp, by simpa using hrun⟩
  | admitted _ _ _ _ _ _ _ _ => exact .inl ⟨by simp, by simpa using hrun⟩
  | tombstoned _ _ _ _ _ => exact .inl ⟨by simp, by simpa using hrun⟩
  | _ => exact .inl ⟨rfl, hrun⟩

theorem World.Change.unowned {w w' : World} {a : Action} {r : Report} (hc : w.Change a r w')
    (h : w.owned = false → w.Closing) (hw : w'.owned = false) : w'.Closing := by
  have hle := hc.rank_le
  cases hc with
  | dropped _ _ => simp [Closing, ServiceLifecycle.rank]
  | _ => exact (h hw).trans hle

/-- `activate_profile` refuses and changes nothing, or it makes this Card the owner. -/
theorem World.activateProfile_cases (w : World) (c : CardInstanceId) (d : CardDefinitionRef)
    (prompt : String) :
    (∃ e, w.activateProfile c d prompt = (.failed (.error e), w)) ∨
      w.provider.cardDefinition = d.value ∧ w.state.lifecycle = .running ∧
        w.state.activeProfile = none ∧
        w.activateProfile c d prompt =
          (.done, { w with state := { w.state with activeProfile := some ⟨c, prompt⟩ } }) := by
  by_cases hup : w.upgrades
  swap
  · exact .inl ⟨_, if_pos hup⟩
  by_cases hdef : w.provider.cardDefinition = d.value
  swap
  · exact .inl ⟨_, (if_neg (not_not.mpr hup)).trans (if_pos hdef)⟩
  have heq : w.activateProfile c d prompt =
      w.locked (Agent.activateProfile c prompt) fun _ w => (.done, w) :=
    (if_neg (not_not.mpr hup)).trans (if_neg (not_not.mpr hdef))
  rw [heq]
  simp only [locked, activateProfile_run]
  by_cases hrun : w.state.lifecycle = .running
  swap
  · rw [if_pos hrun]
    exact .inl ⟨_, rfl⟩
  rw [if_neg (not_not.mpr hrun)]
  cases hp : w.state.activeProfile with
  | some profile => exact .inl ⟨_, rfl⟩
  | none => exact .inr ⟨hdef, hrun, rfl, rfl⟩

/-- `deactivate_profile` of the owner clears the profile. -/
theorem World.deactivateProfile_owner {w : World} {c : CardInstanceId} {profile : ActiveProfile}
    (hup : w.upgrades) (hp : w.state.activeProfile = some profile)
    (hc : profile.cardInstanceId = c) (task : TaskId) :
    w.deactivateProfile task c = (.silent,
      { w with
        state := w.state.revoke w.state.lifecycle
        draining := w.draining.insert task .top }) := by
  simp only [deactivateProfile, hup, not_true_eq_false, ↓reduceIte, locked,
    Agent.deactivateProfile, EStateM.run_bind, EStateM.run_get, hp, hc]
  rfl

/-- Without a profile `deactivate_profile` leaves the world as it was. -/
theorem World.deactivateProfile_none {w : World} (hp : w.state.activeProfile = none)
    (task : TaskId) (c : CardInstanceId) :
    w.deactivateProfile task c = (.failed (.error ownerUnavailable), w) ∨
      w.deactivateProfile task c = (.done, w) := by
  by_cases hup : w.upgrades
  swap
  · exact .inl (if_pos hup)
  · right
    simp only [deactivateProfile, hup, not_true_eq_false, ↓reduceIte, locked,
      Agent.deactivateProfile, EStateM.run_bind, EStateM.run_get, hp]
    rfl

/-! ## Who owns the profile -/

/-- The Card owns this profile. -/
structure AgentCard.Owns (card : AgentCard) (profile : ActiveProfile) : Prop where
  instance_eq : card.activeInstance = some profile.cardInstanceId
  prompt_eq : profile.systemPrompt = card.systemPrompt

/-- Cards and service agree on the owner, or the service is closing. -/
structure Roster.Inv (ids : Fin n ↪ CardInstanceId) (roster : Roster n) : Prop where
  world : roster.world.Inv
  unowned : roster.world.owned = false → roster.world.Closing
  running : roster.world.state.activeProfile.isSome → roster.world.state.lifecycle = .running
  own : ∀ i c, (roster.cards i).activeInstance = some c → c = ids i ∧
    (roster.world.state.activeProfile.map ActiveProfile.cardInstanceId = some (ids i) ∨
      roster.world.Closing)
  owner : ∀ profile, roster.world.state.activeProfile = some profile →
    ∃ i, (roster.cards i).Owns profile

variable {ids : Fin n ↪ CardInstanceId} {r r' : Roster n}

/-- With an active profile, a Card that holds an instance holds the one in the profile. -/
theorem Roster.Inv.holds (h : r.Inv ids) {profile : ActiveProfile}
    (hp : r.world.state.activeProfile = some profile) {i : Fin n} {c : CardInstanceId}
    (hc : (r.cards i).activeInstance = some c) : c = ids i ∧ profile.cardInstanceId = ids i := by
  obtain ⟨rfl, hmap | hclosing⟩ := h.own i c hc
  · exact ⟨rfl, by simpa [hp] using hmap⟩
  · exact absurd (h.running (by simp [hp])) hclosing.not_running

/-- One Card owns the profile. -/
theorem Roster.Inv.sole (h : r.Inv ids) {profile : ActiveProfile}
    (hp : r.world.state.activeProfile = some profile) :
    ∃ i, (r.cards i).Owns profile ∧ profile.cardInstanceId = ids i ∧
      ∀ j, (r.cards j).activeInstance.isSome → j = i := by
  obtain ⟨i, hi⟩ := h.owner profile hp
  have hid := (h.holds hp hi.instance_eq).2
  refine ⟨i, hi, hid, fun j hj => ?_⟩
  obtain ⟨c, hc⟩ := Option.isSome_iff_exists.mp hj
  exact ids.injective ((h.holds hp hc).2.symm.trans hid)

/-! ## Steps -/

/-- The step of the service alone. -/
theorem Roster.Inv.service (h : r.Inv ids) {a : Action} {report : Report} {w' : World}
    (ha : a.ofCard = false) (hn : r.world.next a = some (report, w')) :
    Roster.Inv ids { r with world := w' } := by
  have hchange := World.next_change h.world hn
  have hle := hchange.rank_le
  refine ⟨hchange.inv h.world, hchange.unowned h.unowned, ?_, ?_, ?_⟩
  all_goals rcases World.next_profile h.world h.running ha hn with ⟨hp, hrun⟩ | ⟨hp, hclosing, -⟩
  · intro hsome
    exact hrun (hp ▸ hsome)
  · intro hsome
    simp [hp] at hsome
  · intro i c hc
    obtain ⟨hid, hmap | hclosing⟩ := h.own i c hc
    · exact ⟨hid, .inl (by rw [hp, hmap])⟩
    · exact ⟨hid, .inr (hclosing.trans hle)⟩
  · exact fun i c hc => ⟨(h.own i c hc).1, .inr hclosing⟩
  · intro profile hprofile
    exact h.owner profile (hp.symm.trans hprofile)
  · intro profile hprofile
    cases hp.symm.trans hprofile

/-- What a start of a Card can be. -/
inductive Roster.Started (ids : Fin n ↪ CardInstanceId) (r : Roster n) (i : Fin n) :
    Report → Roster n → Prop where
  | refused (e : AgentError) : Started ids r i (.failed (.error e)) r
  | activated : r.world.provider.cardDefinition = (r.cards i).definition.value →
      r.world.state.lifecycle = .running → r.world.state.activeProfile = none →
      Started ids r i .done
        ⟨{ r.world with
            state := { r.world.state with
              activeProfile := some ⟨ids i, (r.cards i).systemPrompt⟩ } },
          Function.update r.cards i { r.cards i with activeInstance := some (ids i) }⟩

theorem Roster.started (ids : Fin n ↪ CardInstanceId) (r : Roster n) (i : Fin n)
    (cardKey : CardKey) (definition : CardDefinitionRef) :
    Started ids r i
      (r.setCard i ((r.cards i).start r.world ⟨ids i, cardKey, definition⟩)).1
      (r.setCard i ((r.cards i).start r.world ⟨ids i, cardKey, definition⟩)).2 := by
  have hrefused : ∀ e, r.setCard i (.failed (.error e), r.world, r.cards i) =
      (.failed (.error e), r) := fun e => by
    rw [setCard, Function.update_eq_self]
  rw [AgentCard.start]
  split_ifs
  · rw [hrefused]
    exact .refused _
  · rcases r.world.activateProfile_cases (ids i) (r.cards i).definition
      (r.cards i).systemPrompt with ⟨e, heq⟩ | ⟨hdef, hrun, hp, heq⟩
    · rw [heq]
      exact (hrefused e) ▸ .refused e
    · rw [heq]
      exact .activated hdef hrun hp

/-- What a stop of a Card can be. -/
inductive Roster.Stopped (ids : Fin n ↪ CardInstanceId) (r : Roster n) (i : Fin n) :
    Report → Roster n → Prop where
  | idle : (r.cards i).activeInstance = none → Stopped ids r i .done r
  | late {report : Report} : r.world.state.activeProfile = none →
      report = .failed (.error ownerUnavailable) ∨ report = .done →
      Stopped ids r i report
        { r with cards := Function.update r.cards i { r.cards i with activeInstance := none } }
  | cleared {profile : ActiveProfile} : r.world.state.activeProfile = some profile →
      profile.cardInstanceId = ids i →
      Stopped ids r i .silent
        ⟨{ r.world with
            state := r.world.state.revoke r.world.state.lifecycle
            draining := r.world.draining.insert i.val .top },
          Function.update r.cards i { r.cards i with activeInstance := none }⟩

theorem Roster.Inv.stopped (h : r.Inv ids) (i : Fin n) :
    Stopped ids r i (r.setCard i ((r.cards i).stop r.world i.val)).1
      (r.setCard i ((r.cards i).stop r.world i.val)).2 := by
  rw [AgentCard.stop]
  cases hc : (r.cards i).activeInstance with
  | none =>
      simp only [setCard, Function.update_eq_self]
      exact .idle hc
  | some c =>
      cases hp : r.world.state.activeProfile with
      | none =>
          rcases World.deactivateProfile_none hp i.val c with heq | heq
          · simp only [heq]
            exact .late hp (.inl rfl)
          · simp only [heq]
            exact .late hp (.inr rfl)
      | some profile =>
          obtain ⟨rfl, hid⟩ := h.holds hp hc
          have hup : r.world.upgrades := by
            cases howned : r.world.owned with
            | true => simp [World.upgrades, howned]
            | false => exact absurd (h.running (by simp [hp])) (h.unowned howned).not_running
          simp only [World.deactivateProfile_owner hup hp hid]
          exact .cleared hp hid

theorem Roster.Inv.start (h : r.Inv ids) {i : Fin n} {report : Report}
    (hs : Started ids r i report r') : r'.Inv ids := by
  cases hs with
  | refused e => exact h
  | activated hdef hrun hp =>
      have hchange : r.world.Change (.activateProfile (ids i) (r.cards i).definition
          (r.cards i).systemPrompt) .done _ := .activated hrun hp
      refine ⟨hchange.inv h.world, hchange.unowned h.unowned, fun _ => hrun, ?_, ?_⟩
      · intro j c hc
        by_cases hij : j = i
        · subst hij
          simp only [Function.update_self, Option.some.injEq] at hc
          exact ⟨hc.symm, .inl rfl⟩
        · simp only [Function.update_of_ne hij] at hc
          obtain ⟨hid, hmap | hclosing⟩ := h.own j c hc
          · simp [hp] at hmap
          · exact ⟨hid, .inr hclosing⟩
      · intro profile hprofile
        cases hprofile
        exact ⟨i, by simp, by simp⟩

theorem Roster.Inv.stop (h : r.Inv ids) {i : Fin n} {report : Report}
    (hs : Stopped ids r i report r') : r'.Inv ids := by
  cases hs with
  | idle _ => exact h
  | late hp _ =>
      refine ⟨h.world, h.unowned, h.running, ?_, ?_⟩
      · intro j c hc
        by_cases hij : j = i
        · subst hij
          simp at hc
        · simp only [Function.update_of_ne hij] at hc
          exact h.own j c hc
      · intro profile hprofile
        cases hp.symm.trans hprofile
  | @cleared profile hp hid =>
      have hchange : r.world.Change (.deactivateProfile i.val profile.cardInstanceId) .silent _ :=
        .deactivated hp
      refine ⟨hchange.inv h.world, hchange.unowned h.unowned, nofun, ?_, nofun⟩
      intro j c hc
      by_cases hij : j = i
      · subst hij
        simp at hc
      · simp only [Function.update_of_ne hij] at hc
        exact absurd (ids.injective ((h.holds hp hc).2.symm.trans hid)) hij

/-- One step of the service with its Cards. -/
abbrev RosterEvent (n : Nat) := Transition.Event (Roster n) (RosterAction n) Report

theorem Roster.next_service {a : Action} {report : Report}
    (hn : r.next ids (.service a) = some (report, r')) :
    a.ofCard = false ∧ ∃ w', r.world.next a = some (report, w') ∧ r' = { r with world := w' } := by
  simp only [next, Option.ite_none_left_eq_some, Option.map_eq_some_iff, Prod.mk.injEq] at hn
  obtain ⟨ha, ⟨report', w'⟩, hn, rfl, rfl⟩ := hn
  exact ⟨by simpa using ha, w', hn, rfl⟩

theorem Roster.next_start {i : Fin n} {cardKey : CardKey} {definition : CardDefinitionRef}
    {report : Report} (hn : r.next ids (.start i cardKey definition) = some (report, r')) :
    Started ids r i report r' := by
  simp only [next, Option.ite_none_left_eq_some, Option.some.injEq] at hn
  have hs := started ids r i cardKey definition
  rwa [hn.2] at hs

theorem Roster.Inv.next_stop (h : r.Inv ids) {i : Fin n} {report : Report}
    (hn : r.next ids (.stop i) = some (report, r')) : Stopped ids r i report r' := by
  simp only [Roster.next, Option.ite_none_left_eq_some, Option.some.injEq] at hn
  have hs := h.stopped i
  rwa [hn.2] at hs

theorem Roster.Inv.next (h : r.Inv ids) {a : RosterAction n} {report : Report}
    (hn : r.next ids a = some (report, r')) : r'.Inv ids := by
  cases a with
  | service a =>
      obtain ⟨ha, w', hn', rfl⟩ := Roster.next_service hn
      exact h.service ha hn'
  | start i cardKey definition => exact h.start (Roster.next_start hn)
  | stop i => exact h.stop (h.next_stop hn)

theorem Roster.created_inv (ids : Fin n ↪ CardInstanceId) (provider : CompletionProvider)
    {cards : Fin n → AgentCard} (hnew : ∀ i, (cards i).activeInstance = none) :
    Roster.Inv ids ⟨World.created provider, cards⟩ where
  world := World.created_inv provider
  unowned := nofun
  running := nofun
  own i c hc := by simp [hnew] at hc
  owner := nofun

/-- Who can end an active profile: a stop or a drop of the service, or the Card that
owns it. -/
theorem Roster.Inv.ends (h : r.Inv ids) {a : RosterAction n} {report : Report}
    (hn : r.next ids a = some (report, r')) {profile : ActiveProfile}
    (hp : r.world.state.activeProfile = some profile)
    (hend : r'.world.state.activeProfile ≠ some profile) :
    a = .service .stop ∨ a = .service .dropService ∨
      ∃ i, a = .stop i ∧ (r.cards i).Owns profile := by
  cases a with
  | service a =>
      obtain ⟨ha, w', hn', rfl⟩ := Roster.next_service hn
      rcases World.next_profile h.world h.running ha hn' with ⟨heq, -⟩ | ⟨-, -, hact⟩
      · exact absurd (heq.trans hp) hend
      · rcases hact with rfl | rfl
        · exact .inl rfl
        · exact .inr (.inl rfl)
  | start i cardKey definition =>
      cases Roster.next_start hn with
      | refused e => exact absurd hp hend
      | activated _ _ hnone => cases hnone.symm.trans hp
  | stop i =>
      cases h.next_stop hn with
      | idle _ => exact absurd hp hend
      | late hnone _ => cases hnone.symm.trans hp
      | cleared hp' hid =>
          cases hp.symm.trans hp'
          obtain ⟨j, hj, hid', -⟩ := h.sole hp
          cases ids.injective (hid'.symm.trans hid)
          exact .inr (.inr ⟨_, rfl, hj⟩)

theorem Roster.Started.outcome {i : Fin n} {report : Report} (hs : Started ids r i report r') :
    report = .done ∧ r.world.state.lifecycle = .running ∧
        r.world.provider.cardDefinition = (r.cards i).definition.value ∧
        r.world.state.activeProfile = none ∨
      report ≠ .done ∧ r' = r := by
  cases hs with
  | refused e => exact .inr ⟨nofun, rfl⟩
  | activated hdef hrun hp => exact .inl ⟨rfl, hrun, hdef, hp⟩

theorem Roster.Stopped.not_foreign {i : Fin n} {report : Report}
    (hs : Stopped ids r i report r') :
    report ≠ .failed (.error ⟨"another Agent Card owns the active profile"⟩) := by
  cases hs with
  | idle _ => nofun
  | late _ hr => rcases hr with rfl | rfl <;> simp [ownerUnavailable]
  | cleared _ _ => nofun

/-- A Turn is admitted with the prompt of the Card that owns the profile. -/
theorem Roster.Inv.admitted (h : r.Inv ids) {task : TaskId} {s : SessionId} {t : TurnId}
    {input : String} {deadline : Duration} {context : ModelContext}
    (hn : r.next ids (.service (.submitTurn task s t input deadline)) =
      some (.admitted context, r')) :
    ∃ profile i, r.world.state.activeProfile = some profile ∧ (r.cards i).Owns profile ∧
      context.messages = contextMessages (r.cards i).systemPrompt
        (r.world.state.session s).exchanges input := by
  obtain ⟨-, w', hn, -⟩ := Roster.next_service hn
  obtain ⟨-, -, -, -, -, profile, hp, hb⟩ := (World.next_change h.world hn).admission
  obtain ⟨i, hi, -, -⟩ := h.sole hp
  rw [buildModelContext_eq] at hb
  split_ifs at hb
  cases hb
  exact ⟨profile, i, hp, hi, by rw [hi.prompt_eq]⟩

/-- With an active profile exactly one Card holds its instance, and every Turn is admitted
with the prompt of that Card.  A start succeeds only on a running service whose provider
serves the Card's definition and that has no profile, and otherwise changes nothing.  No stop
of a Card ends the profile of another or is told that another Card owns it. -/
theorem one_card_owns_profile {ids : Fin n ↪ CardInstanceId} {provider : CompletionProvider}
    {cards : Fin n → AgentCard} (hnew : ∀ i, (cards i).activeInstance = none)
    {tr : List (RosterEvent n)} {r : Roster n}
    (h : (roster ids).Run ⟨World.created provider, cards⟩ tr r) :
    (∀ profile, r.world.state.activeProfile = some profile →
      ∃ i, (r.cards i).Owns profile ∧
        ∀ j, (r.cards j).activeInstance = some profile.cardInstanceId → j = i) ∧
    (∀ x ∈ tr, ∀ task s t input deadline context,
      x.act = .service (.submitTurn task s t input deadline) → x.report = .admitted context →
      ∃ profile i, x.pre.world.state.activeProfile = some profile ∧
        (x.pre.cards i).Owns profile ∧
        context.messages = contextMessages (x.pre.cards i).systemPrompt
          (x.pre.world.state.session s).exchanges input) ∧
    (∀ x ∈ tr, ∀ i cardKey definition, x.act = .start i cardKey definition →
      x.report = .done ∧ x.pre.world.state.lifecycle = .running ∧
          x.pre.world.provider.cardDefinition = (x.pre.cards i).definition.value ∧
          x.pre.world.state.activeProfile = none ∨
        x.report ≠ .done ∧ x.post = x.pre) ∧
    (∀ x ∈ tr, ∀ i, x.act = .stop i →
      x.report ≠ .failed (.error ⟨"another Agent Card owns the active profile"⟩)) ∧
    ∀ x ∈ tr, ∀ profile, x.pre.world.state.activeProfile = some profile →
      x.post.world.state.activeProfile ≠ some profile →
      x.act = .service .stop ∨ x.act = .service .dropService ∨
        ∃ i, x.act = .stop i ∧ (x.pre.cards i).Owns profile := by
  have hcreated : Roster.Inv ids ⟨World.created provider, cards⟩ :=
    Roster.created_inv ids provider hnew
  have hinv : ∀ x, (roster ids).Takes x → x.pre.Inv ids → x.post.Inv ids :=
    fun x hx h => h.next hx
  have hpre : ∀ x ∈ tr, x.pre.next ids x.act = some (x.report, x.post) ∧ x.pre.Inv ids := by
    intro x hx
    obtain ⟨tr₁, tr₂, -, h₁, hx', -⟩ := h.of_mem hx
    exact ⟨hx', h₁.invariant hinv hcreated⟩
  refine ⟨fun profile hp => ?_, ?_, ?_, ?_, fun x hx profile hp hend => ?_⟩
  · obtain ⟨i, hi, -, hsole⟩ := (h.invariant hinv hcreated).sole hp
    exact ⟨i, hi, fun j hj => hsole j (by simp [hj])⟩
  · intro x hx task s t input deadline context ha hr
    obtain ⟨hn, hI⟩ := hpre x hx
    rw [ha, hr] at hn
    exact hI.admitted hn
  · intro x hx i cardKey definition ha
    obtain ⟨hn, -⟩ := hpre x hx
    rw [ha] at hn
    exact (Roster.next_start hn).outcome
  · intro x hx i ha
    obtain ⟨hn, hI⟩ := hpre x hx
    rw [ha] at hn
    exact (hI.next_stop hn).not_foreign
  · obtain ⟨hn, hI⟩ := hpre x hx
    exact hI.ends hn hp hend

/-- The second Card is active while the stop of the first one still waits for its Turn. -/
theorem one_card_owns_profile_second :
    ∃ (ids : Fin 2 ↪ CardInstanceId) (r : Roster 2) (profile : ActiveProfile),
      r.world.state.activeProfile = some profile ∧ profile.cardInstanceId = ids 1 ∧
      0 ∈ r.world.draining ∧ r.world.state.activeTurn.isSome ∧
      ∃ i, (r.cards i).Owns profile ∧
        ∀ j, (r.cards j).activeInstance = some profile.cardInstanceId → j = i := by
  let ids : Fin 2 ↪ CardInstanceId := ⟨![⟨⟨1⟩⟩, ⟨⟨2⟩⟩], fun i j => by revert i j; decide⟩
  let cards : Fin 2 → AgentCard := ![.new ⟨"a"⟩, .new ⟨"b"⟩]
  obtain ⟨tr, r, hrun, -, htest⟩ := (roster ids).exec_any ⟨World.created .deterministic, cards⟩
    [.service .start, .start 0 ⟨"a"⟩ ⟨BUILTIN_AGENT_DEFINITION⟩,
      .service (.submitTurn 0 ⟨⟨1⟩⟩ ⟨⟨2⟩⟩ "x" 1), .stop 0,
      .start 1 ⟨"b"⟩ ⟨BUILTIN_AGENT_DEFINITION⟩]
    (fun q => q.2.world.state.activeProfile.map ActiveProfile.cardInstanceId = some (ids 1) ∧
      0 ∈ q.2.world.draining ∧ q.2.world.state.activeTurn.isSome) (by decide +kernel)
  simp only [decide_eq_true_eq] at htest
  obtain ⟨hid, hdraining, hactive⟩ := htest
  obtain ⟨profile, hp, hid⟩ := Option.map_eq_some_iff.mp hid
  have hnew : ∀ i, (cards i).activeInstance = none := by
    intro i
    match i with
    | 0 => rfl
    | 1 => rfl
  exact ⟨ids, r, profile, hp, hid, hdraining, hactive,
    (one_card_owns_profile hnew hrun).1 profile hp⟩

end Paraegox.Agent
