import Paraegox.Lib.Bracket
import Paraegox.Runtime.Host

/-!
# What the blocks of a RuntimeHost do

`Runs` is the judgement of this module: a block ends so, and on its way it calls
exactly these owners and publishes only snapshots that satisfy `P`.  Sequencing
concatenates the calls.  The blocks that stop things publish no more than the
states of Cards (`SameButCards`), and the calls of a start are the ascent of all
owners taken together.
-/

namespace Paraegox.Runtime

open Deck (CardDefinitionRef CardKey DeckKey)
open Bracket (Opening AllOpen attempted held ascent)

/-! ## Views of a snapshot -/

/-- Everything in a Card's snapshot but its state. -/
def CardInstanceSnapshot.identity (card : CardInstanceSnapshot) :
    CardInstanceId × CardKey × CardDefinitionRef × UInt64 :=
  (card.cardInstanceId, card.key, card.definition, card.generation)

/-- Everything in a Deck run's snapshot but the states. -/
def DeckRunSnapshot.identity (run : DeckRunSnapshot) :
    DeckRunId × DeckKey × String × UInt64 ×
      List (CardInstanceId × CardKey × CardDefinitionRef × UInt64) :=
  (run.deckRunId, run.deckKey, run.lockDigest, run.generation,
    run.cards.map CardInstanceSnapshot.identity)

namespace RuntimeHostSnapshot

/-- Everything in a snapshot but the states. -/
def fixedPart (s : RuntimeHostSnapshot) :=
  (s.identity, s.deckRun.map DeckRunSnapshot.identity)

def deckState (s : RuntimeHostSnapshot) : Option DeckRunState :=
  s.deckRun.map DeckRunSnapshot.state

def cardStates (s : RuntimeHostSnapshot) : List CardInstanceState :=
  match s.deckRun with
  | none => []
  | some run => run.cards.map CardInstanceSnapshot.state

section

variable (s : RuntimeHostSnapshot) (h : RuntimeHostState) (d : DeckRunState) (i : Nat)
  (st : CardInstanceState)

@[simp] theorem setRuntimeHostState_state : (s.setRuntimeHostState h).state = h := rfl
@[simp] theorem setRuntimeHostState_fixedPart :
    (s.setRuntimeHostState h).fixedPart = s.fixedPart := rfl
@[simp] theorem setRuntimeHostState_deckState :
    (s.setRuntimeHostState h).deckState = s.deckState := rfl
@[simp] theorem setRuntimeHostState_cardStates :
    (s.setRuntimeHostState h).cardStates = s.cardStates := rfl
@[simp] theorem setDeckRunState_state : (s.setDeckRunState d).state = s.state := rfl
@[simp] theorem setDeckRunState_fixedPart : (s.setDeckRunState d).fixedPart = s.fixedPart := by
  simp only [fixedPart, setDeckRunState]
  cases s.deckRun <;> rfl
@[simp] theorem setDeckRunState_deckState :
    (s.setDeckRunState d).deckState = s.deckState.map fun _ => d := by
  simp [deckState, setDeckRunState, Function.comp_def]
@[simp] theorem setDeckRunState_cardStates : (s.setDeckRunState d).cardStates = s.cardStates := by
  simp only [cardStates, setDeckRunState]
  cases s.deckRun <;> rfl
@[simp] theorem setCardState_state : (s.setCardState i st).state = s.state := rfl
@[simp] theorem setCardState_fixedPart : (s.setCardState i st).fixedPart = s.fixedPart := by
  have hcards : ∀ cards : List CardInstanceSnapshot,
      (cards.modify i fun card => { card with state := st }).map CardInstanceSnapshot.identity =
        cards.map CardInstanceSnapshot.identity := by
    intro cards
    refine List.ext_getElem? ?_
    intro j
    simp only [List.getElem?_map, List.getElem?_modify]
    cases cards[j]? with
    | none => rfl
    | some card => by_cases hj : i = j <;> simp [hj, CardInstanceSnapshot.identity]
  simp only [fixedPart, setCardState]
  cases s.deckRun with
  | none => rfl
  | some run => simp [DeckRunSnapshot.identity, hcards]
@[simp] theorem setCardState_deckState : (s.setCardState i st).deckState = s.deckState := by
  simp [deckState, setCardState, Function.comp_def]
@[simp] theorem setCardState_cardStates :
    (s.setCardState i st).cardStates = s.cardStates.set i st := by
  simp only [cardStates, setCardState]
  cases s.deckRun with
  | none => rfl
  | some run =>
      refine List.ext_getElem? ?_
      intro j
      simp only [Option.map_some, List.getElem?_map, List.getElem?_modify, List.getElem?_set,
        List.length_map]
      by_cases hj : i = j
      · subst hj
        by_cases hlt : i < run.cards.length <;> simp [hlt]
      · simp [hj]

end

/-- Only states of Cards differ. -/
structure SameButCards (s₀ s : RuntimeHostSnapshot) : Prop where
  fixedPart : s.fixedPart = s₀.fixedPart
  state : s.state = s₀.state
  deckState : s.deckState = s₀.deckState

theorem SameButCards.refl (s : RuntimeHostSnapshot) : SameButCards s s := ⟨rfl, rfl, rfl⟩

theorem SameButCards.setCardState {s₀ s : RuntimeHostSnapshot} (h : SameButCards s₀ s) (i : Nat)
    (st : CardInstanceState) : SameButCards s₀ (s.setCardState i st) :=
  ⟨by simp [h.fixedPart], h.state, by simp [h.deckState]⟩

end RuntimeHostSnapshot

open RuntimeHostSnapshot (SameButCards)

/-! ## The judgement -/

def HostEvent.invocation? : HostEvent → Option Invocation
  | .invoked invocation => some invocation
  | .published _ => none

def HostEvent.snapshot? : HostEvent → Option RuntimeHostSnapshot
  | .invoked _ => none
  | .published snapshot => some snapshot

/-- The owner calls of a trace, in order. -/
def Console.invocations (c : Console) : List Invocation := c.trace.filterMap HostEvent.invocation?

/-- The snapshots a reader could have seen, in order. -/
def Console.published (c : Console) : List RuntimeHostSnapshot :=
  c.trace.filterMap HostEvent.snapshot?

/-- A result with the console it was reached in. -/
def hostResult {α : Type} (r : Except RuntimeHostError α) (c : Console) :
    EStateM.Result (Fault RuntimeHostError) Console α :=
  match r with
  | .ok a => .ok a c
  | .error e => .error (.error e) c

/-- The block ends so; it calls these owners and publishes only in `P`. -/
structure Runs {α : Type} (P : RuntimeHostSnapshot → Prop) (block : Hosted α) (c : Console)
    (r : Except RuntimeHostError α) (c' : Console) (calls : List Invocation) : Prop where
  run : EStateM.run block c = hostResult r c'
  invocations : c'.invocations = c.invocations ++ calls
  published : ∀ s ∈ c'.published, s ∈ c.published ∨ P s

section

variable {α β : Type} {P Q : RuntimeHostSnapshot → Prop} {c c₁ c₂ : Console}
  {calls calls₁ calls₂ : List Invocation}

theorem Runs.pure (a : α) : Runs P (pure a) c (.ok a) c [] :=
  ⟨rfl, (List.append_nil _).symm, fun _ hs => .inl hs⟩

theorem Runs.fail (e : RuntimeHostError) : Runs P (Exec.fail e : Hosted α) c (.error e) c [] :=
  ⟨rfl, (List.append_nil _).symm, fun _ hs => .inl hs⟩

theorem Runs.bind {x : Hosted α} {k : α → Hosted β} {a : α} {r : Except RuntimeHostError β}
    (hx : Runs P x c (.ok a) c₁ calls₁) (hk : Runs P (k a) c₁ r c₂ calls₂) :
    Runs P (x >>= k) c r c₂ (calls₁ ++ calls₂) where
  run := by rw [EStateM.run_bind, hx.run]; exact hk.run
  invocations := by rw [hk.invocations, hx.invocations, List.append_assoc]
  published s hs := (hk.published s hs).elim (fun h => hx.published s h) .inr

theorem Runs.bind_error {x : Hosted α} {k : α → Hosted β} {e : RuntimeHostError}
    (hx : Runs P x c (.error e) c₁ calls) : Runs P (x >>= k) c (.error e) c₁ calls where
  run := by rw [EStateM.run_bind, hx.run]; rfl
  invocations := hx.invocations
  published := hx.published

/-- What follows a block may call nobody. -/
theorem Runs.bind_none {x : Hosted α} {k : α → Hosted β} {a : α} {r : Except RuntimeHostError β}
    (hx : Runs P x c (.ok a) c₁ calls) (hk : Runs P (k a) c₁ r c₂ []) :
    Runs P (x >>= k) c r c₂ calls := by
  have := hx.bind hk
  rwa [List.append_nil] at this

theorem Runs.bind_pure {x : Hosted α} {f : α → β} {a : α} (hx : Runs P x c (.ok a) c₁ calls) :
    Runs P (x >>= fun a => Pure.pure (f a)) c (.ok (f a)) c₁ calls :=
  hx.bind_none (.pure _)

theorem Runs.map {x : Hosted α} {f : α → β} {a : α} (hx : Runs P x c (.ok a) c₁ calls) :
    Runs P (f <$> x) c (.ok (f a)) c₁ calls := by
  rw [map_eq_pure_bind]
  exact hx.bind_pure

theorem Runs.mono {x : Hosted α} {r : Except RuntimeHostError α} (h : Runs P x c r c₁ calls)
    (hPQ : ∀ s, P s → Q s) : Runs Q x c r c₁ calls :=
  ⟨h.run, h.invocations, fun s hs => (h.published s hs).imp_right (hPQ s)⟩

theorem Runs.after {x : Hosted α} {r : Except RuntimeHostError α} (h : Runs P x c r c₁ calls) :
    c.after x = c₁ := by
  rw [Console.after, h.run]
  cases r <;> rfl

/-- The console after a write. -/
def Console.write (c : Console) (f : RuntimeHostSnapshot → RuntimeHostSnapshot) : Console :=
  ⟨f c.snapshot, c.trace ++ [.published (f c.snapshot)]⟩

@[simp] theorem Console.write_snapshot (f : RuntimeHostSnapshot → RuntimeHostSnapshot) :
    (c.write f).snapshot = f c.snapshot := rfl

theorem Runs.publish {f : RuntimeHostSnapshot → RuntimeHostSnapshot} (h : P (f c.snapshot)) :
    Runs P (publish f) c (.ok ()) (c.write f) [] where
  run := rfl
  invocations := by simp [Console.invocations, Console.write, HostEvent.invocation?]
  published s hs := by
    simp only [Console.published, Console.write, List.filterMap_append, List.mem_append] at hs
    rcases hs with hs | hs
    · exact .inl hs
    · simp only [List.filterMap_cons, HostEvent.snapshot?, List.filterMap_nil,
        List.mem_singleton] at hs
      exact .inr (hs ▸ h)

end

/-! ## Owners as things that open and close -/

def Completion.opening : Completion → Opening
  | .ok => .opened
  | .failed _ => .refused
  | .elapsed => .uncertain

/-- What `invoke_owner` makes of a completion. -/
def Completion.result (completion : Completion) (owner : LifecycleOwner) (action : LifecycleAction)
    (deadline : Nat) : Except LifecycleFailure Unit :=
  match completion with
  | .ok => .ok ()
  | .failed source => .error ⟨owner, action, .owner source⟩
  | .elapsed => .error ⟨owner, action, .timedOut deadline⟩

/-- An owner with how its start and its stop end. -/
structure Managed where
  owner : LifecycleOwner
  context : Option CardContext
  start : Completion
  stop : Completion

def Managed.opening (m : Managed) : Opening := m.start.opening

def Managed.started (m : Managed) : Invocation := ⟨m.owner, .start, m.context, m.start⟩

def Managed.stopped (m : Managed) : Invocation := ⟨m.owner, .stop, none, m.stop⟩

/-- The failures the stop of an owner ends with. -/
def Managed.stopFailures (m : Managed) (deadline : Nat) : List LifecycleFailure :=
  failureOf (m.stop.result m.owner .stop deadline)

/-- The failures a call ends with. -/
def Invocation.failures (deadline : Nat) (call : Invocation) : List LifecycleFailure :=
  failureOf (call.completion.result call.owner call.action deadline)

theorem flatMap_failures_stopped (deadline : Nat) (ms : List Managed) :
    (ms.map Managed.stopped).flatMap (Invocation.failures deadline) =
      ms.flatMap fun m => m.stopFailures deadline :=
  List.flatMap_map ..

def CoreService.managed (p : CoreService × Nat) : Managed :=
  ⟨.coreService p.2, none, p.1.start, p.1.stop⟩

def CardSlot.managed (slot : CardSlot) : Managed :=
  ⟨.card slot.card.key, some slot.context, slot.implementation.start slot.context,
    slot.implementation.stop⟩

def RuntimeHost.services (host : RuntimeHost) : List Managed :=
  host.coreServices.zipIdx.map CoreService.managed

def RuntimeHost.slots (host : RuntimeHost) : List CardSlot :=
  match host.deck with
  | none => []
  | some deck => deck.slots

def RuntimeHost.cards (host : RuntimeHost) : List Managed := host.slots.map CardSlot.managed

/-- All owners of a host in the order they are started in. -/
def RuntimeHost.owners (host : RuntimeHost) : List Managed := host.services ++ host.cards

/-- An operation on an owner as the call it is. -/
def invocationOf : Bracket.Step Managed → Invocation
  | .opens m => m.started
  | .closes m => m.stopped

section

variable {P : RuntimeHostSnapshot → Prop}

theorem Runs.invoke (owner : LifecycleOwner) (action : LifecycleAction) (deadline : Nat)
    (context : Option CardContext) (completion : Completion) (c : Console) :
    ∃ c', Runs P (invokeOwner owner action deadline context completion) c
      (.ok (completion.result owner action deadline)) c' [⟨owner, action, context, completion⟩] ∧
      c'.snapshot = c.snapshot := by
  refine ⟨⟨c.snapshot, c.trace ++ [.invoked ⟨owner, action, context, completion⟩]⟩,
    ⟨?_, ?_, ?_⟩, rfl⟩
  · cases completion <;> rfl
  · simp [Console.invocations, HostEvent.invocation?]
  · intro s hs
    refine .inl ?_
    simpa [Console.published, HostEvent.snapshot?] using hs

/-! ## Stopping -/

/-- Where a Card is left by its stop. -/
def CardSlot.restState (slot : CardSlot) : CardInstanceState :=
  match slot.implementation.stop with
  | .ok => .stopped
  | _ => .failed

theorem stopServices_runs (deadline : Nat) (l : List (CoreService × Nat)) (c : Console) :
    ∃ c', Runs P (stopServices deadline l) c
      (.ok ((l.map CoreService.managed).flatMap fun m => m.stopFailures deadline)) c'
      ((l.map CoreService.managed).map Managed.stopped) ∧ c'.snapshot = c.snapshot := by
  induction l generalizing c with
  | nil => exact ⟨c, .pure _, rfl⟩
  | cons p l ih =>
      obtain ⟨service, index⟩ := p
      obtain ⟨c₁, h₁, hs₁⟩ :=
        Runs.invoke (P := P) (.coreService index) .stop deadline none service.stop c
      obtain ⟨c₂, h₂, hs₂⟩ := ih c₁
      exact ⟨c₂, h₁.bind h₂.bind_pure, hs₂.trans hs₁⟩

theorem stopCard_runs (deadline : Nat) (slot : CardSlot) {s₀ : RuntimeHostSnapshot} {c : Console}
    (hc : SameButCards s₀ c.snapshot) :
    ∃ c', Runs (SameButCards s₀) (stopCard deadline slot) c
      (.ok (slot.implementation.stop.result (.card slot.card.key) .stop deadline)) c'
      [slot.managed.stopped] ∧ SameButCards s₀ c'.snapshot ∧
      c'.snapshot.cardStates = c.snapshot.cardStates.set slot.index slot.restState := by
  have h₁ := Runs.publish (f := fun s => s.setCardState slot.index .stopping)
    (hc.setCardState slot.index .stopping)
  obtain ⟨c₂, h₂, hs₂⟩ := Runs.invoke (P := SameButCards s₀) (.card slot.card.key) .stop deadline
    none slot.implementation.stop (c.write fun s => s.setCardState slot.index .stopping)
  have hc₂ : SameButCards s₀ c₂.snapshot := hs₂ ▸ hc.setCardState slot.index .stopping
  refine ⟨c₂.write fun s => s.setCardState slot.index slot.restState, h₁.bind (h₂.bind ?_),
    hc₂.setCardState _ _, by simp [hs₂]⟩
  -- the last write depends on how the stop ended
  rw [CardSlot.restState]
  cases slot.implementation.stop with
  | ok =>
      exact Runs.bind (.publish (f := fun s => s.setCardState slot.index .stopped)
        (hc₂.setCardState _ _)) (.pure _)
  | failed source =>
      exact Runs.bind (.publish (f := fun s => s.setCardState slot.index .failed)
        (hc₂.setCardState _ _)) (.pure _)
  | elapsed =>
      exact Runs.bind (.publish (f := fun s => s.setCardState slot.index .failed)
        (hc₂.setCardState _ _)) (.pure _)

/-- The states of the Cards after these were stopped. -/
def restStates (l : List CardSlot) (states : List CardInstanceState) : List CardInstanceState :=
  l.foldl (fun states slot => states.set slot.index slot.restState) states

theorem stopCards_runs (deadline : Nat) (l : List CardSlot) {s₀ : RuntimeHostSnapshot}
    {c : Console} (hc : SameButCards s₀ c.snapshot) :
    ∃ c', Runs (SameButCards s₀) (stopCards deadline l) c
      (.ok ((l.map CardSlot.managed).flatMap fun m => m.stopFailures deadline)) c'
      ((l.map CardSlot.managed).map Managed.stopped) ∧ SameButCards s₀ c'.snapshot ∧
      c'.snapshot.cardStates = restStates l c.snapshot.cardStates := by
  induction l generalizing c with
  | nil => exact ⟨c, .pure _, hc, rfl⟩
  | cons slot l ih =>
      obtain ⟨c₁, h₁, hc₁, hs₁⟩ := stopCard_runs deadline slot hc
      obtain ⟨c₂, h₂, hc₂, hs₂⟩ := ih hc₁
      refine ⟨c₂, h₁.bind h₂.bind_pure, hc₂, ?_⟩
      rw [hs₂, hs₁]
      rfl

/-- Stopping Cards that stand at their own index, last first, leaves each where its
stop leaves it. -/
theorem restStates_reverse {l : List CardSlot} {states tail : List CardInstanceState}
    (hindex : ∀ (k : Nat) (slot : CardSlot), l[k]? = some slot → slot.index = k)
    (hlen : states.length = l.length) :
    restStates l.reverse (states ++ tail) = l.map CardSlot.restState ++ tail := by
  induction l using List.reverseRecOn generalizing states tail with
  | nil =>
      rw [List.length_nil, List.length_eq_zero_iff] at hlen
      rw [hlen]
      rfl
  | append_singleton l slot ih =>
      obtain ⟨states, st, rfl⟩ : ∃ states' st, states = states' ++ [st] := by
        rcases List.eq_nil_or_concat' states with rfl | h
        · simp at hlen
        · exact h
      have hlen' : states.length = l.length := by simpa using hlen
      have hslot : slot.index = states.length := by
        rw [hlen']
        exact hindex l.length slot (by simp)
      have hl : ∀ (k : Nat) (slot : CardSlot), l[k]? = some slot → slot.index = k := by
        intro k slot' hk
        refine hindex k slot' ?_
        rw [List.getElem?_append_left (List.getElem?_eq_some_iff.mp hk).1, hk]
      have hset : (states ++ [st] ++ tail).set slot.index slot.restState =
          states ++ slot.restState :: tail := by
        rw [hslot, List.append_assoc, List.set_append_right _ _ le_rfl]
        simp
      rw [List.reverse_append, List.reverse_singleton, List.singleton_append, restStates,
        List.foldl_cons, hset]
      refine (ih hl hlen').trans ?_
      simp

/-! ## Starting services -/

theorem Completion.opening_eq_opened {completion : Completion} :
    completion.opening = .opened ↔ completion = .ok := by
  cases completion <;> simp [opening]

theorem Completion.result_of_ne {completion : Completion} (h : completion ≠ .ok)
    (owner : LifecycleOwner) (action : LifecycleAction) (deadline : Nat) :
    ∃ failure, completion.result owner action deadline = .error failure := by
  cases completion with
  | ok => exact absurd rfl h
  | failed source => exact ⟨_, rfl⟩
  | elapsed => exact ⟨_, rfl⟩

/-- What an owner that did not start adds to the rollback. -/
def Managed.rollback (m : Managed) : List Managed :=
  if m.opening = .refused then [] else [m]

theorem failures_started_ok {m : Managed} {deadline : Nat} (h : m.start = .ok) :
    m.started.failures deadline = [] := by
  rw [Invocation.failures, Managed.started, h]
  rfl

theorem flatMap_failures_started_open {ms : List Managed} {deadline : Nat}
    (h : AllOpen Managed.opening ms) :
    (ms.map Managed.started).flatMap (Invocation.failures deadline) = [] := by
  rw [List.flatMap_map, List.flatMap_eq_nil_iff]
  exact fun m hm => failures_started_ok (Completion.opening_eq_opened.mp (h m hm))

theorem failures_started_of_error {m : Managed} {deadline : Nat} {failure : LifecycleFailure}
    (h : m.start.result m.owner .start deadline = .error failure) :
    m.started.failures deadline = [failure] := by
  rw [Invocation.failures, Managed.started, h]
  rfl

/-- The ascent that begins with an owner that starts. -/
theorem ascent_cons_opened {m : Managed} {ms : List Managed} (h : m.opening = .opened) :
    (ascent Managed.opening (m :: ms)).map invocationOf =
      m.started :: (ascent Managed.opening ms).map invocationOf ++
        if AllOpen Managed.opening ms then [] else [m.stopped] := by
  have hm : AllOpen Managed.opening [m] := by simpa [AllOpen] using h
  have hsplit : ascent Managed.opening ([m] ++ ms) = _ := Bracket.ascent_append hm
  rw [List.singleton_append] at hsplit
  rw [hsplit]
  split_ifs <;> simp [invocationOf]

/-- The ascent that begins with an owner that does not start. -/
theorem ascent_cons_not_opened {m : Managed} {ms : List Managed} (h : m.opening ≠ .opened) :
    (ascent Managed.opening (m :: ms)).map invocationOf =
      m.started :: m.rollback.map Managed.stopped := by
  have hm : ¬ AllOpen Managed.opening [m] := by simpa [AllOpen] using h
  have hsplit : ascent Managed.opening ([m] ++ ms) = _ := Bracket.ascent_append_of_not hm
  rw [List.singleton_append] at hsplit
  rw [hsplit, ascent, if_neg hm, Bracket.held, Bracket.attempted, if_neg h, Managed.rollback]
  split_ifs with hr <;> simp [invocationOf, hr]

theorem stopInterrupted_runs {m : Managed} {deadline : Nat} {failure : LifecycleFailure}
    (hf : m.start.result m.owner .start deadline = .error failure)
    {stop : Hosted (Except LifecycleFailure Unit)} {c c₁ : Console}
    (hstop : Runs P stop c (.ok (m.stop.result m.owner .stop deadline)) c₁ [m.stopped]) :
    Runs P (stopInterrupted failure stop) c
      (.ok (m.rollback.flatMap fun m => m.stopFailures deadline))
      (if m.opening = .refused then c else c₁) (m.rollback.map Managed.stopped) := by
  rw [stopInterrupted, Managed.rollback, Managed.opening]
  cases hs : m.start with
  | ok => simp [hs, Completion.result] at hf
  | failed source =>
      rw [hs] at hf
      cases hf
      exact .pure _
  | elapsed =>
      rw [hs] at hf
      cases hf
      have hmap := hstop.map (f := failureOf)
      rw [← List.append_nil (failureOf _)] at hmap
      exact hmap

theorem RuntimeHost.stopStartedServices_runs (host : RuntimeHost)
    {done rest : List (CoreService × Nat)} (hsplit : host.coreServices.zipIdx = done ++ rest)
    (c : Console) :
    ∃ c', Runs P (host.stopStartedServices done.length) c
      (.ok ((done.reverse.map CoreService.managed).flatMap fun m =>
        m.stopFailures host.lifecycleTimeout)) c'
      ((done.map CoreService.managed).reverse.map Managed.stopped) ∧
      c'.snapshot = c.snapshot := by
  rw [stopStartedServices, hsplit, List.take_left, ← List.map_reverse]
  exact stopServices_runs host.lifecycleTimeout done.reverse c

/-- The service loop where every service starts. -/
theorem RuntimeHost.startServices_open (host : RuntimeHost) {rest : List (CoreService × Nat)}
    (hall : AllOpen Managed.opening (rest.map CoreService.managed)) (started : Nat) (c : Console) :
    ∃ c', Runs P (host.startServices started rest) c (.ok (started + rest.length)) c'
      ((rest.map CoreService.managed).map Managed.started) ∧ c'.snapshot = c.snapshot := by
  induction rest generalizing started c with
  | nil => exact ⟨c, .pure _, rfl⟩
  | cons p rest ih =>
      obtain ⟨service, index⟩ := p
      obtain ⟨hopened, hrest⟩ := Bracket.allOpen_cons.mp hall
      have hstart : service.start = .ok := Completion.opening_eq_opened.mp hopened
      obtain ⟨c₁, h₁, hs₁⟩ := Runs.invoke (P := P) (.coreService index) .start
        host.lifecycleTimeout none service.start c
      obtain ⟨c₂, h₂, hs₂⟩ := ih hrest (started + 1) c₁
      refine ⟨c₂, ?_, hs₂.trans hs₁⟩
      rw [startServices, List.length_cons, Nat.add_comm rest.length, ← Nat.add_assoc]
      refine h₁.bind ?_
      rw [hstart]
      exact h₂

/-- The service loop where a service does not start: the ascent of the services
left is rolled back, and then the services behind it. -/
theorem RuntimeHost.startServices_rollback (host : RuntimeHost)
    {done rest : List (CoreService × Nat)} (hsplit : host.coreServices.zipIdx = done ++ rest)
    (hnot : ¬ AllOpen Managed.opening (rest.map CoreService.managed)) {c : Console}
    (hdeck : P (c.snapshot.setDeckRunState .failed))
    (hfail : P ((c.snapshot.setDeckRunState .failed).setRuntimeHostState .failed)) :
    ∃ failure cleanup c', Runs P (host.startServices done.length rest) c
      (.error (.startFailed failure cleanup)) c'
      ((ascent Managed.opening (rest.map CoreService.managed)).map invocationOf ++
        (done.map CoreService.managed).reverse.map Managed.stopped) ∧
      ((ascent Managed.opening (rest.map CoreService.managed)).map invocationOf ++
        (done.map CoreService.managed).reverse.map Managed.stopped).flatMap
          (Invocation.failures host.lifecycleTimeout) = failure :: cleanup ∧
      c'.snapshot = (c.snapshot.setDeckRunState .failed).setRuntimeHostState .failed := by
  induction rest generalizing done c with
  | nil => exact absurd (by simp [AllOpen]) hnot
  | cons p rest ih =>
      obtain ⟨service, index⟩ := p
      obtain ⟨c₁, h₁, hs₁⟩ := Runs.invoke (P := P) (.coreService index) .start
        host.lifecycleTimeout none service.start c
      rw [startServices]
      cases Decidable.em (service.start = .ok) with
      | inl hstart =>
          have hopened : (CoreService.managed (service, index)).opening = .opened :=
            Completion.opening_eq_opened.mpr hstart
          have hrest : ¬ AllOpen Managed.opening (rest.map CoreService.managed) :=
            fun hall => hnot (Bracket.allOpen_cons.mpr ⟨hopened, hall⟩)
          have hsplit' : host.coreServices.zipIdx = (done ++ [(service, index)]) ++ rest := by
            simp [hsplit]
          obtain ⟨failure, cleanup, c₂, h₂, hfs₂, hs₂⟩ :=
            ih hsplit' hrest (hs₁ ▸ hdeck) (hs₁ ▸ hfail)
          rw [List.map_append, List.reverse_append, List.map_append] at h₂ hfs₂
          rw [List.length_append, List.length_singleton] at h₂
          rw [List.map_cons, ascent_cons_opened hopened, if_neg hrest, List.append_assoc,
            List.cons_append]
          refine ⟨failure, cleanup, c₂, h₁.bind ?_, ?_, by rw [hs₂, hs₁]⟩
          · rw [hstart]
            exact h₂
          · rw [List.flatMap_cons, failures_started_ok hstart]
            exact hfs₂
      | inr hstart =>
          have hopened : (CoreService.managed (service, index)).opening ≠ .opened :=
            fun h => hstart (Completion.opening_eq_opened.mp h)
          obtain ⟨failure, hf⟩ := Completion.result_of_ne hstart (.coreService index) .start
            host.lifecycleTimeout
          obtain ⟨c₂, h₂, hs₂⟩ := Runs.invoke (P := P) (.coreService index) .stop
            host.lifecycleTimeout none service.stop c₁
          have h₃ := stopInterrupted_runs (m := CoreService.managed (service, index)) hf h₂
          have hs₃ : (if (CoreService.managed (service, index)).opening = .refused then c₁
              else c₂).snapshot = c.snapshot := by
            split_ifs
            · exact hs₁
            · exact hs₂.trans hs₁
          obtain ⟨c₄, h₄, hs₄⟩ := host.stopStartedServices_runs (P := P) hsplit
            (if (CoreService.managed (service, index)).opening = .refused then c₁ else c₂)
          rw [← hs₃, ← hs₄] at hdeck hfail ⊢
          have h₅ := Runs.publish (f := fun s => s.setDeckRunState .failed) hdeck
          have h₆ := Runs.publish (c := c₄.write fun s => s.setDeckRunState .failed)
            (f := fun s => s.setRuntimeHostState .failed) hfail
          rw [List.map_cons, ascent_cons_not_opened hopened, List.cons_append]
          refine ⟨failure,
            (CoreService.managed (service, index)).rollback.flatMap
                (fun m => m.stopFailures host.lifecycleTimeout) ++
              (done.reverse.map CoreService.managed).flatMap
                (fun m => m.stopFailures host.lifecycleTimeout),
            (c₄.write fun s => s.setDeckRunState .failed).write
              fun s => s.setRuntimeHostState .failed, h₁.bind ?_, ?_, rfl⟩
          · rw [hf]
            exact h₃.bind (h₄.bind_none (h₅.bind (h₆.bind (.fail _))))
          · rw [List.flatMap_cons, failures_started_of_error hf, List.flatMap_append,
              flatMap_failures_stopped, flatMap_failures_stopped, List.map_reverse]
            rfl

end

end Paraegox.Runtime
