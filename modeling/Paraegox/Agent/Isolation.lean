import Paraegox.Agent.ServiceMetatheory

/-!
# Sessions are kept apart

A step of the service is about at most one session.  It leaves every other
session as it was, except that a session new to a full map takes the place of
the earliest inserted one that does not own the active Turn.

Insertion order is read off the run.  `session_order` agrees with it in every
state (`World.insertion_order`), so the head of the queue is the earliest.
-/

namespace Paraegox.Agent

/-- The session a step is about: the one its label names, or the one of its frame. -/
def World.subject (w : World) : Action → Option SessionId
  | .submitTurn _ s _ _ _ | .cancel s _ => some s
  | .callProvider task | .select task _ | .complete task | .abort task | .dropGuard task
  | .notify task => (w.calls.lookup task).map fun call => call.guard.sessionId
  | .start | .stop | .stopPoll | .stopInterrupted | .stopFinish | .dropService
  | .activateProfile _ _ _ | .deactivateProfile _ _ | .deactivatePoll _
  | .deactivateInterrupted _ => none

/-- A session that does not own the active Turn. -/
def AgentState.Idle (state : AgentState) (s : SessionId) : Prop :=
  ∀ active, state.activeTurn = some active → active.sessionId ≠ s

theorem AgentState.evictable_iff {state : AgentState} {s : SessionId} :
    state.evictable s = true ↔ state.Idle s := by
  simp only [evictable, Idle, ne_eq, decide_not, Bool.not_eq_eq_eq_not, Bool.not_true,
    decide_eq_false_iff_not]
  cases state.activeTurn with
  | none => simp
  | some active => simp [eq_comm]

/-! ## What `ensure_session` does to the map -/

/-- The three ways of ensuring a session. -/
inductive AgentState.EnsureCase (state : AgentState) (s : SessionId) : AgentState → Prop where
  | present : s ∈ state.sessions → EnsureCase state s state
  | fresh {state' : AgentState} : s ∉ state.sessions →
      state.sessions.keys.length ≠ MAX_SESSIONS →
      state'.sessionOrder = state.sessionOrder ++ [s] →
      (∀ s' ≠ s, state'.sessions.lookup s' = state.sessions.lookup s') →
      EnsureCase state s state'
  | full {state' : AgentState} {victim : SessionId} : s ∉ state.sessions →
      state.sessions.keys.length = MAX_SESSIONS →
      state.sessionOrder.find? state.evictable = some victim →
      state'.sessionOrder = state.sessionOrder.erase victim ++ [s] →
      state'.sessions.lookup victim = none →
      (∀ s' ≠ s, s' ≠ victim → state'.sessions.lookup s' = state.sessions.lookup s') →
      EnsureCase state s state'

theorem AgentState.WellFormed.ensure_case {state : AgentState} (h : state.WellFormed)
    (s : SessionId) : state.EnsureCase s (state.ensured s) := by
  rw [AgentState.ensured]
  split_ifs with hs hfull
  · exact .present hs
  · obtain ⟨victim, hv⟩ := h.exists_evictable hfull
    have hne : victim ≠ s := by
      rintro rfl
      exact hs ((h.orderKeys _).mp (List.mem_of_find?_eq_some hv))
    refine .full hs hfull hv ?_ ?_ fun s' hs' hv' => ?_
    · simp only [AgentState.inserted, AgentState.evicted, hv]
    · simp [AgentState.inserted, AgentState.evicted, hv, hne]
    · simp only [AgentState.inserted, AgentState.evicted, hv, lookup_insert_eq, hs', ↓reduceIte]
      exact AList.lookup_erase_ne hv'
  · refine .fresh hs hfull rfl ?_
    intro s' hs'
    simp only [AgentState.inserted, lookup_insert_eq, hs', ↓reduceIte]

/-- The map after an operation on `s`: the session was ensured and then written. -/
structure AgentState.Edits (state : AgentState) (s : SessionId) (state' : AgentState) : Prop where
  order : state'.sessionOrder = (state.ensured s).sessionOrder
  present : s ∈ state'.sessions
  others : ∀ s' ≠ s, state'.sessions.lookup s' = (state.ensured s).sessions.lookup s'

theorem AgentState.edits_setSession (state : AgentState) (s : SessionId) (x : SessionState) :
    state.Edits s ((state.ensured s).setSession s x) where
  order := rfl
  present := (AList.mem_insert _).mpr (.inl rfl)
  others s' hs' := by rw [setSession_sessions, lookup_insert_eq, if_neg hs']

theorem AgentState.edits_setSession_of_mem {state : AgentState} {s : SessionId}
    (h : s ∈ state.sessions) (x : SessionState) : state.Edits s (state.setSession s x) := by
  have := state.edits_setSession s x
  rwa [ensured_of_mem h] at this

/-- A step leaves the sessions alone, or it edits the one it is about. -/
theorem World.Change.edits {w w' : World} {a : Action} {r : Report} (h : w.Inv)
    (hc : w.Change a r w') :
    (w'.state.sessions = w.state.sessions ∧ w'.state.sessionOrder = w.state.sessionOrder) ∨
      ∃ s, w.subject a = some s ∧ w.state.Edits s w'.state := by
  cases hc with
  | consumed _ _ ht =>
      exact .inr ⟨_, rfl, AgentState.edits_setSession_of_mem (AgentState.mem_of_tombstoned ht) _⟩
  | overflowed _ _ _ _ _ _ _ => exact .inr ⟨_, rfl, AgentState.edits_setSession _ _ _⟩
  | tombstoned _ _ _ _ _ => exact .inr ⟨_, rfl, AgentState.edits_setSession _ _ _⟩
  | @admitted task s t input deadline profile context _ _ _ _ _ _ _ _ =>
      exact .inr ⟨s, rfl, rfl, w.state.mem_ensured_self s, fun _ _ => rfl⟩
  | @settled a r task call flag terminal hl _ ha _ hr =>
      have hmem := h.wellFormed.activeOwned _ ha
      have hedit : w.state.Edits call.guard.sessionId (w.state.settle call.guard.sessionId
          call.guard.turnId call.guard.input terminal) := by
        have := AgentState.edits_setSession_of_mem hmem
          ((w.state.session call.guard.sessionId).record call.guard.turnId call.guard.input
            terminal)
        exact ⟨this.order, this.present, this.others⟩
      refine .inr ⟨call.guard.sessionId, ?_, hedit⟩
      rcases hr with ⟨rfl, -⟩ | ⟨rfl, -, -⟩ <;> simp [subject, hl]
  | _ => exact .inl ⟨rfl, rfl⟩

/-! ## Insertion order -/

/-- The step puts `s` into the map. -/
def Event.Inserts (x : Event) (s : SessionId) : Prop :=
  s ∉ x.pre.state.sessions ∧ s ∈ x.post.state.sessions

/-- The last insertion of `s` in a run, with the run after it. -/
def LastInserted (tr : List Event) (s : SessionId) (after : List Event) : Prop :=
  ∃ before x, tr = before ++ x :: after ∧ x.Inserts s ∧ ∀ y ∈ after, ¬ y.Inserts s

/-- `s'` was inserted after the last insertion of `s`. -/
def InsertedBefore (tr : List Event) (s s' : SessionId) : Prop :=
  ∃ after, LastInserted tr s after ∧ ∃ y ∈ after, y.Inserts s'

theorem LastInserted.snoc {tr after : List Event} {s : SessionId} {x : Event}
    (h : LastInserted tr s after) (hx : ¬ x.Inserts s) :
    LastInserted (tr ++ [x]) s (after ++ [x]) := by
  obtain ⟨before, y, rfl, hy, hafter⟩ := h
  refine ⟨before, y, by simp, hy, fun z hz => ?_⟩
  rcases List.mem_append.mp hz with hz | hz
  · exact hafter z hz
  · rw [List.mem_singleton.mp hz]
    exact hx

theorem InsertedBefore.snoc {tr : List Event} {s s' : SessionId} {x : Event}
    (h : InsertedBefore tr s s') (hx : ¬ x.Inserts s) : InsertedBefore (tr ++ [x]) s s' := by
  obtain ⟨after, hlast, y, hy, hins⟩ := h
  exact ⟨after ++ [x], hlast.snoc hx, y, List.mem_append_left _ hy, hins⟩

/-- The queue agrees with the run: every session in the map has its insertion, and
the sessions stand in the order of their last insertions. -/
structure Ordered (tr : List Event) (state : AgentState) : Prop where
  inserted : ∀ s ∈ state.sessions, ∃ after, LastInserted tr s after
  queued : ∀ s s', [s, s'].Sublist state.sessionOrder → InsertedBefore tr s s'

theorem AgentState.mem_iff_lookup {state : AgentState} {s : SessionId} :
    s ∈ state.sessions ↔ (state.sessions.lookup s).isSome := AList.lookup_isSome.symm

/-- A session of the map that an operation on another one did not evict. -/
theorem AgentState.mem_congr {state state' : AgentState} {s : SessionId}
    (h : state'.sessions.lookup s = state.sessions.lookup s) :
    s ∈ state'.sessions ↔ s ∈ state.sessions := by
  rw [mem_iff_lookup, mem_iff_lookup, h]

/-- An operation on `s` puts no other session into the map. -/
theorem AgentState.Edits.inserts_eq {state state' : AgentState} {s s' : SessionId}
    (he : state.Edits s state') (hpre : s' ∉ state.sessions)
    (hpost : s' ∈ state'.sessions) : s' = s := by
  by_contra hne
  rw [mem_iff_lookup, he.others s' hne] at hpost
  rcases state.lookup_ensured_ne hne with heq | hnone
  · rw [heq, ← mem_iff_lookup] at hpost
    exact hpre hpost
  · rw [hnone] at hpost
    cases hpost

/-- What a step does to the queue. -/
theorem Event.queue {x : Event} (hx : service.Takes x) (h : x.pre.Inv) :
    x.post.state.sessionOrder = x.pre.state.sessionOrder ∨
      ∃ s kept, x.Inserts s ∧ kept.Sublist x.pre.state.sessionOrder ∧
        x.post.state.sessionOrder = kept ++ [s] := by
  rcases (Event.change hx h).edits h with ⟨-, horder⟩ | ⟨s, -, he⟩
  · exact .inl horder
  · have horder := he.order
    have hpost := he.present
    have hcase := h.wellFormed.ensure_case s
    generalize x.pre.state.ensured s = ensured at hcase horder
    cases hcase with
    | present _ => exact .inl horder
    | fresh hs _ ho _ => exact .inr ⟨s, _, ⟨hs, hpost⟩, List.Sublist.refl _, horder.trans ho⟩
    | full hs _ _ ho _ _ =>
        exact .inr ⟨s, _, ⟨hs, hpost⟩, List.erase_sublist, horder.trans ho⟩

theorem sublist_pair_snoc {α : Type} {a b c : α} {l : List α} (h : [a, b].Sublist (l ++ [c])) :
    [a, b].Sublist l ∨ a ∈ l ∧ b = c := by
  obtain ⟨l₁, l₂, heq, h₁, h₂⟩ := List.sublist_append_iff.mp h
  rcases List.sublist_singleton.mp h₂ with rfl | rfl
  · rw [List.append_nil] at heq
    exact .inl (heq ▸ h₁)
  · have hsplit : [a] ++ [b] = l₁ ++ [c] := heq
    obtain ⟨rfl, hbc⟩ := List.append_inj' hsplit rfl
    exact .inr ⟨List.singleton_sublist.mp h₁, List.head_eq_of_cons_eq hbc⟩

theorem Ordered.step {tr : List Event} {x : Event} (hx : service.Takes x) (h : x.pre.Inv)
    (ho : Ordered tr x.pre.state) : Ordered (tr ++ [x]) x.post.state := by
  have hkept : ∀ s ∈ x.pre.state.sessionOrder, ¬ x.Inserts s := fun s hs hins =>
    hins.1 ((h.wellFormed.orderKeys s).mp hs)
  have hold : ∀ s s', [s, s'].Sublist x.pre.state.sessionOrder → InsertedBefore (tr ++ [x]) s s' :=
    fun s s' hsub => (ho.queued s s' hsub).snoc (hkept s (hsub.subset List.mem_cons_self))
  refine ⟨fun s hs => ?_, fun s s' hsub => ?_⟩
  · by_cases hpre : s ∈ x.pre.state.sessions
    · obtain ⟨after, hlast⟩ := ho.inserted s hpre
      exact ⟨after ++ [x], hlast.snoc fun hins => hins.1 hpre⟩
    · exact ⟨[], tr, x, rfl, ⟨hpre, hs⟩, by simp⟩
  · rcases Event.queue hx h with horder | ⟨new, kept, hnew, hsublist, horder⟩
    · exact hold s s' (horder ▸ hsub)
    · rw [horder] at hsub
      rcases sublist_pair_snoc hsub with hsub | ⟨hs, rfl⟩
      · exact hold s s' (hsub.trans hsublist)
      · -- the new session comes after every session that was there
        have hmem := hsublist.subset hs
        obtain ⟨after, hlast⟩ := ho.inserted s ((h.wellFormed.orderKeys s).mp hmem)
        exact ⟨after ++ [x], hlast.snoc (hkept s hmem), x, by simp, hnew⟩

/-- In every state the queue holds the sessions in the order of their insertion. -/
theorem World.insertion_order {provider : CompletionProvider} {tr : List Event} {w : World}
    (h : service.Run (World.created provider) tr w) : w.Inv ∧ Ordered tr w.state := by
  refine h.trace (R := fun w g => w.Inv ∧ Ordered g w.state) ?_ ?_
  · intro x g hx hg
    exact ⟨Event.inv x hx hg.1, hg.2.step hx hg.1⟩
  · refine ⟨World.created_inv provider, fun s hs => ?_, fun s s' hsub => ?_⟩
    · simp [created, AgentState.created] at hs
    · simp [created, AgentState.created] at hsub

/-! ## Isolation -/

/-- The earliest inserted session that does not own the active Turn. -/
structure World.EarliestIdle (tr : List Event) (w : World) (s : SessionId) : Prop where
  present : s ∈ w.state.sessions
  idle : w.state.Idle s
  first : ∀ s' ∈ w.state.sessions, s' ≠ s → w.state.Idle s' → InsertedBefore tr s s'

/-- What a step after the run `tr` may do to the sessions. -/
structure Event.Isolates (tr : List Event) (x : Event) : Prop where
  /-- Only the session the step is about can be new. -/
  inserts : ∀ s, x.Inserts s → x.pre.subject x.act = some s
  /-- Without an insertion into a full map every other session is as it was. -/
  frame : (∀ s, x.Inserts s → x.pre.state.sessions.keys.length ≠ MAX_SESSIONS) →
    ∀ s, x.pre.subject x.act ≠ some s →
      x.post.state.sessions.lookup s = x.pre.state.sessions.lookup s
  /-- An insertion into a full map removes one other session, and the rest are as they were. -/
  evicts : ∀ s, x.Inserts s → x.pre.state.sessions.keys.length = MAX_SESSIONS →
    ∃ victim, x.pre.EarliestIdle tr victim ∧ victim ∉ x.post.state.sessions ∧
      ∀ s' ≠ s, s' ≠ victim → x.post.state.sessions.lookup s' = x.pre.state.sessions.lookup s'
  /-- The sessions that stay keep their order. -/
  order : x.post.state.sessionOrder.filter (· ∈ x.pre.state.sessions) =
    x.pre.state.sessionOrder.filter (· ∈ x.post.state.sessions)
  /-- The session of the active Turn stays. -/
  owner : ∀ active, x.pre.state.activeTurn = some active →
    active.sessionId ∈ x.post.state.sessions
  /-- A step about a session of the map removes none. -/
  present : ∀ s, x.pre.subject x.act = some s → s ∈ x.pre.state.sessions →
    ∀ s' ∈ x.pre.state.sessions, s' ∈ x.post.state.sessions

/-- The first session of the queue that may be evicted is the earliest inserted one. -/
theorem World.Inv.earliest {tr : List Event} {w : World} (h : w.Inv) (ho : Ordered tr w.state)
    {victim : SessionId} (hv : w.state.sessionOrder.find? w.state.evictable = some victim) :
    w.EarliestIdle tr victim where
  present := (h.wellFormed.orderKeys victim).mp (List.mem_of_find?_eq_some hv)
  idle := AgentState.evictable_iff.mp (List.find?_some hv)
  first s hs hne hidle := by
    obtain ⟨-, before, after, horder, hbefore⟩ := List.find?_eq_some_iff_append.mp hv
    have hmem := (h.wellFormed.orderKeys s).mpr hs
    have hafter : s ∈ after := by
      rw [horder] at hmem
      rcases List.mem_append.mp hmem with hb | hc
      · have := hbefore s hb
        rw [AgentState.evictable_iff.mpr hidle] at this
        cases this
      · exact (List.mem_cons.mp hc).resolve_left hne
    refine ho.queued victim s ?_
    rw [horder]
    exact ((List.singleton_sublist.mpr hafter).cons_cons victim).trans
      (List.sublist_append_right _ _)

/-- A step that removes no session. -/
theorem Event.isolates_of_keep {tr : List Event} {x : Event} (h : x.pre.Inv)
    (hfull : ∀ s, x.Inserts s →
      x.pre.subject x.act = some s ∧ x.pre.state.sessions.keys.length ≠ MAX_SESSIONS)
    (hframe : ∀ s, x.pre.subject x.act ≠ some s →
      x.post.state.sessions.lookup s = x.pre.state.sessions.lookup s)
    (hkeep : ∀ s ∈ x.pre.state.sessions, s ∈ x.post.state.sessions)
    (horder : x.post.state.sessionOrder = x.pre.state.sessionOrder ∨
      ∃ s, x.Inserts s ∧ x.post.state.sessionOrder = x.pre.state.sessionOrder ++ [s]) :
    x.Isolates tr where
  inserts s hs := (hfull s hs).1
  frame _ := hframe
  evicts s hs hlen := absurd hlen (hfull s hs).2
  order := by
    have hpre : x.pre.state.sessionOrder.filter (· ∈ x.pre.state.sessions) =
        x.pre.state.sessionOrder :=
      List.filter_eq_self.mpr fun s hs => decide_eq_true ((h.wellFormed.orderKeys s).mp hs)
    have hpost : x.pre.state.sessionOrder.filter (· ∈ x.post.state.sessions) =
        x.pre.state.sessionOrder :=
      List.filter_eq_self.mpr fun s hs =>
        decide_eq_true (hkeep s ((h.wellFormed.orderKeys s).mp hs))
    rcases horder with ho | ⟨s, hs, ho⟩
    · rw [ho, hpre, hpost]
    · rw [ho, List.filter_append, hpre, hpost]
      simp [hs.1]
  owner active ha := hkeep _ (h.wellFormed.activeOwned active ha)
  present _ _ _ := hkeep

/-- A step that puts `s` into a full map in the place of `victim`. -/
theorem Event.isolates_of_evict {tr : List Event} {x : Event} {s victim : SessionId}
    (h : x.pre.Inv) (hsubject : x.pre.subject x.act = some s) (hs : x.Inserts s)
    (hins : ∀ s', x.Inserts s' → s' = s) (hlen : x.pre.state.sessions.keys.length = MAX_SESSIONS)
    (hearliest : x.pre.EarliestIdle tr victim) (hout : victim ∉ x.post.state.sessions)
    (hrest : ∀ s' ≠ s, s' ≠ victim →
      x.post.state.sessions.lookup s' = x.pre.state.sessions.lookup s')
    (horder : x.post.state.sessionOrder = x.pre.state.sessionOrder.erase victim ++ [s]) :
    x.Isolates tr := by
  have hstay : ∀ s' ≠ victim, s' ∈ x.pre.state.sessions → s' ∈ x.post.state.sessions := by
    intro s' hv hmem
    have hne : s' ≠ s := fun heq => hs.1 (heq ▸ hmem)
    exact (AgentState.mem_congr (hrest s' hne hv)).mpr hmem
  have hpre : ∀ s' ∈ x.pre.state.sessionOrder, s' ∈ x.pre.state.sessions :=
    fun s' => (h.wellFormed.orderKeys s').mp
  refine ⟨fun s' hs' => by rw [hsubject, hins s' hs'], fun hfree => absurd hlen (hfree s hs),
    fun s' hs' _ => ?_, ?_, fun active ha => ?_, fun s' hs' hmem => ?_⟩
  · rw [hins s' hs']
    exact ⟨victim, hearliest, hout, hrest⟩
  · rw [horder, List.filter_append, List.filter_eq_self.mpr fun s' hs' =>
      decide_eq_true (hpre s' (List.mem_of_mem_erase hs')),
      h.wellFormed.orderNodup.erase_eq_filter]
    simp only [hs.1, decide_false, Bool.false_eq_true, not_false_eq_true,
      List.filter_cons_of_neg, List.filter_nil, List.append_nil]
    refine List.filter_congr ?_
    intro s' hs'
    rcases eq_or_ne s' victim with rfl | hv
    · simp [hout]
    · simp [hv, hstay s' hv (hpre s' hs')]
  · exact hstay _ (hearliest.idle active ha) (h.wellFormed.activeOwned active ha)
  · rw [hsubject, Option.some.injEq] at hs'
    exact absurd (hs' ▸ hmem) hs.1

/-- Every step keeps the sessions apart. -/
theorem Event.isolates {tr : List Event} {x : Event} (hx : service.Takes x) (h : x.pre.Inv)
    (ho : Ordered tr x.pre.state) : x.Isolates tr := by
  rcases (Event.change hx h).edits h with ⟨hs, horder⟩ | ⟨s, hsubject, he⟩
  · have hnone : ∀ s, ¬ x.Inserts s := fun s hins => hins.1 (hs ▸ hins.2)
    exact isolates_of_keep h (fun s hins => absurd hins (hnone s)) (fun s _ => by rw [hs])
      (fun s hmem => by rw [hs]; exact hmem) (.inl horder)
  have hne : ∀ s', x.pre.subject x.act ≠ some s' → s' ≠ s := by
    rintro s' hs' rfl
    exact hs' hsubject
  have hins : ∀ s', x.Inserts s' → s' = s := fun s' hs' => he.inserts_eq hs'.1 hs'.2
  have hothers := he.others
  have horder := he.order
  have hcase := h.wellFormed.ensure_case s
  generalize x.pre.state.ensured s = ensured at hcase hothers horder
  -- a session other than `s` is in the map when its entry did not change
  have hstay : ∀ s', (s' ≠ s → x.post.state.sessions.lookup s' =
      x.pre.state.sessions.lookup s') → s' ∈ x.pre.state.sessions →
      s' ∈ x.post.state.sessions := by
    intro s' heq hmem
    rcases eq_or_ne s' s with rfl | hs'
    · exact he.present
    · exact (AgentState.mem_congr (heq hs')).mpr hmem
  cases hcase with
  | present hs =>
      have hnone : ∀ s', ¬ x.Inserts s' := fun s' hs' => hs'.1 (hins s' hs' ▸ hs)
      exact isolates_of_keep h (fun s' hs' => absurd hs' (hnone s'))
        (fun s' hs' => hothers s' (hne s' hs')) (fun s' => hstay s' (hothers s')) (.inl horder)
  | fresh hs hlen hqueue hsame =>
      have hframe : ∀ s' ≠ s, x.post.state.sessions.lookup s' = x.pre.state.sessions.lookup s' :=
        fun s' hs' => (hothers s' hs').trans (hsame s' hs')
      exact isolates_of_keep h (fun s' hs' => ⟨by rw [hsubject, hins s' hs'], hlen⟩)
        (fun s' hs' => hframe s' (hne s' hs')) (fun s' => hstay s' (hframe s'))
        (.inr ⟨s, ⟨hs, he.present⟩, horder.trans hqueue⟩)
  | @full _ victim hs hlen hv hqueue hgone hsame =>
      have hearliest := h.earliest ho hv
      have hvs : victim ≠ s := by
        rintro rfl
        exact hs hearliest.present
      have hout : victim ∉ x.post.state.sessions := by
        rw [AgentState.mem_iff_lookup, hothers victim hvs, hgone]
        simp
      exact isolates_of_evict h hsubject ⟨hs, he.present⟩ hins hlen hearliest hout
        (fun s' hs' hv' => (hothers s' hs').trans (hsame s' hs' hv')) (horder.trans hqueue)

/-- In every run each step leaves the sessions it is not about as they were, but for
the eviction of the earliest idle one. -/
theorem World.isolation {provider : CompletionProvider} {tr : List Event} {x : Event}
    (h : service.Run (World.created provider) tr x.pre) (hx : service.Takes x) :
    x.Isolates tr := by
  obtain ⟨hinv, ho⟩ := World.insertion_order h
  exact Event.isolates hx hinv ho

/-- A full map whose first session owns the active Turn: the second one is evicted. -/
theorem World.isolation_full :
    ∃ (tr : List Event) (x : Event), x.Isolates tr ∧ x.pre.state.sessions.keys.length = 64 ∧
      ⟨⟨1⟩⟩ ∈ x.post.state.sessions ∧ ⟨⟨2⟩⟩ ∉ x.post.state.sessions := by
  obtain ⟨tr, w, hrun, -, hw⟩ := service.exec_any (World.created .deterministic)
    ([.start, .activateProfile ⟨⟨1⟩⟩ ⟨BUILTIN_AGENT_DEFINITION⟩ "prompt",
        .submitTurn 0 ⟨⟨1⟩⟩ ⟨⟨2⟩⟩ "alpha" 1] ++
      (List.range 63).map fun n => .cancel ⟨⟨BitVec.ofNat 128 (n + 2)⟩⟩ ⟨⟨3⟩⟩)
    (fun q => (q.2.next (.cancel ⟨⟨100⟩⟩ ⟨⟨3⟩⟩)).any fun p =>
      q.2.state.sessions.keys.length = 64 ∧ ⟨⟨1⟩⟩ ∈ p.2.state.sessions ∧
        ⟨⟨2⟩⟩ ∉ p.2.state.sessions) (by decide +kernel)
  cases hn : w.next (.cancel ⟨⟨100⟩⟩ ⟨⟨3⟩⟩) with
  | none =>
      rw [hn] at hw
      cases hw
  | some p =>
      rw [hn, Option.any_some] at hw
      exact ⟨tr, ⟨w, .cancel ⟨⟨100⟩⟩ ⟨⟨3⟩⟩, p.1, p.2⟩, World.isolation hrun hn,
        of_decide_eq_true hw⟩

end Paraegox.Agent
