import Mathlib.Order.Basic
import Mathlib.Data.List.Basic

/-!
# Runs of a labelled system

A system takes labelled steps.  A step that is not enabled is `none`, and an
enabled step has exactly one outcome, so all choice sits in the labels.  An
event is a step as an observer of the whole system sees it: the state before,
the label, the report handed to the caller and the state after.

A run is a list of events, each taken where the one before it ended.  Four
rules carry every argument about runs.  `Run.invariant` is induction along the
run.  `Run.stable` keeps a property through a stretch of a run whose events all
meet a side condition, which is how a lifetime is spoken of.  `Run.monotone`
is the same for a value in a preorder.  `Run.trace` relates the state to the
events that led to it.
-/

namespace Transition

universe u v w

/-- A system with labelled, deterministic, partial steps. -/
structure System (σ : Type u) (α : Type v) (ρ : Type w) where
  /-- The step a label names: its report and the state after it. -/
  next : σ → α → Option (ρ × σ)

/-- One step, with the states on both sides of it. -/
structure Event (σ : Type u) (α : Type v) (ρ : Type w) where
  /-- The state before the step. -/
  pre : σ
  /-- The label. -/
  act : α
  /-- What the step hands back to its caller. -/
  report : ρ
  /-- The state after the step. -/
  post : σ

variable {σ : Type u} {α : Type v} {ρ : Type w} {S : System σ α ρ}

/-- `x` is a step of the system. -/
def System.Takes (S : System σ α ρ) (x : Event σ α ρ) : Prop :=
  S.next x.pre x.act = some (x.report, x.post)

/-- `Run s tr s'`: the events `tr` lead from `s` to `s'`. -/
inductive System.Run (S : System σ α ρ) : σ → List (Event σ α ρ) → σ → Prop where
  | nil (s : σ) : Run S s [] s
  | cons {x : Event σ α ρ} {tr : List (Event σ α ρ)} {s' : σ} :
      S.Takes x → Run S x.post tr s' → Run S x.pre (x :: tr) s'

/-- A state some run from `s` ends in. -/
def System.Reachable (S : System σ α ρ) (s s' : σ) : Prop := ∃ tr, S.Run s tr s'

/-- The run along a list of labels, where every one of them is enabled. -/
def System.exec (S : System σ α ρ) : σ → List α → Option (List (Event σ α ρ) × σ)
  | s, [] => some ([], s)
  | s, a :: as =>
      match S.next s a with
      | none => none
      | some (r, s') => (S.exec s' as).map fun p => (⟨s, a, r, s'⟩ :: p.1, p.2)

/-! ## Composing and splitting runs -/

theorem System.Run.head {x : Event σ α ρ} {tr : List (Event σ α ρ)} {s s' : σ}
    (h : S.Run s (x :: tr) s') : s = x.pre ∧ S.Takes x ∧ S.Run x.post tr s' := by
  cases h with
  | cons hx hr => exact ⟨rfl, hx, hr⟩

theorem System.Run.append {tr₁ tr₂ : List (Event σ α ρ)} {s s₁ s₂ : σ}
    (h₁ : S.Run s tr₁ s₁) (h₂ : S.Run s₁ tr₂ s₂) : S.Run s (tr₁ ++ tr₂) s₂ := by
  induction h₁ with
  | nil _ => exact h₂
  | cons hx _ ih => exact .cons hx (ih h₂)

theorem System.Run.split {tr₁ tr₂ : List (Event σ α ρ)} {s s' : σ}
    (h : S.Run s (tr₁ ++ tr₂) s') : ∃ m, S.Run s tr₁ m ∧ S.Run m tr₂ s' := by
  induction tr₁ generalizing s with
  | nil => exact ⟨s, .nil s, h⟩
  | cons x tr₁ ih =>
      obtain ⟨rfl, hx, hr⟩ := h.head
      obtain ⟨m, h₁, h₂⟩ := ih hr
      exact ⟨m, .cons hx h₁, h₂⟩

/-- The run up to an event, the event, and the run after it. -/
theorem System.Run.at {tr₁ tr₂ : List (Event σ α ρ)} {x : Event σ α ρ} {s s' : σ}
    (h : S.Run s (tr₁ ++ x :: tr₂) s') :
    S.Run s tr₁ x.pre ∧ S.Takes x ∧ S.Run x.post tr₂ s' := by
  obtain ⟨m, h₁, h₂⟩ := h.split
  obtain ⟨rfl, hx, hr⟩ := h₂.head
  exact ⟨h₁, hx, hr⟩

theorem System.Run.of_mem {tr : List (Event σ α ρ)} {x : Event σ α ρ} {s s' : σ}
    (h : S.Run s tr s') (hx : x ∈ tr) :
    ∃ tr₁ tr₂, tr = tr₁ ++ x :: tr₂ ∧
      S.Run s tr₁ x.pre ∧ S.Takes x ∧ S.Run x.post tr₂ s' := by
  obtain ⟨tr₁, tr₂, rfl⟩ := List.append_of_mem hx
  exact ⟨tr₁, tr₂, rfl, h.at⟩

theorem System.Run.single {x : Event σ α ρ} (hx : S.Takes x) : S.Run x.pre [x] x.post :=
  .cons hx (.nil _)

theorem System.Run.of_next {s s' : σ} {a : α} {r : ρ} (h : S.next s a = some (r, s')) :
    S.Run s [⟨s, a, r, s'⟩] s' :=
  .single (x := ⟨s, a, r, s'⟩) h

theorem System.Reachable.run {s s' s'' : σ} {tr : List (Event σ α ρ)}
    (h : S.Reachable s s') (hr : S.Run s' tr s'') : S.Reachable s s'' := by
  obtain ⟨tr₀, h₀⟩ := h
  exact ⟨tr₀ ++ tr, h₀.append hr⟩

theorem System.Reachable.of_next {s s' : σ} {a : α} {r : ρ} (h : S.next s a = some (r, s')) :
    S.Reachable s s' :=
  ⟨_, .of_next h⟩

theorem System.Reachable.trans {s s' s'' : σ} (h₁ : S.Reachable s s') (h₂ : S.Reachable s' s'') :
    S.Reachable s s'' := by
  obtain ⟨tr, hr⟩ := h₂
  exact h₁.run hr

/-- An executed list of labels is a run with these labels. -/
theorem System.exec_run {s s' : σ} {as : List α} {tr : List (Event σ α ρ)}
    (h : S.exec s as = some (tr, s')) : S.Run s tr s' ∧ tr.map Event.act = as := by
  induction as generalizing s tr with
  | nil =>
      simp only [System.exec, Option.some.injEq, Prod.mk.injEq] at h
      obtain ⟨rfl, rfl⟩ := h
      exact ⟨.nil s, rfl⟩
  | cons a as ih =>
      simp only [System.exec] at h
      split at h
      · cases h
      · next r m hm =>
          obtain ⟨⟨tr', s₁⟩, hex, heq⟩ := Option.map_eq_some_iff.mp h
          simp only [Prod.mk.injEq] at heq
          obtain ⟨rfl, rfl⟩ := heq
          obtain ⟨hrun, hacts⟩ := ih hex
          exact ⟨.cons (x := ⟨s, a, r, m⟩) hm hrun, by rw [List.map_cons, hacts]⟩

/-- A test passed by what a list of labels leads to is passed by a run. -/
theorem System.exec_any (S : System σ α ρ) (s : σ) (as : List α)
    (p : List (Event σ α ρ) × σ → Bool) (h : (S.exec s as).any p = true) :
    ∃ tr s', S.Run s tr s' ∧ tr.map Event.act = as ∧ p (tr, s') = true := by
  cases hex : S.exec s as with
  | none => simp [hex] at h
  | some q =>
      rw [hex] at h
      obtain ⟨hrun, hacts⟩ := exec_run hex
      exact ⟨q.1, q.2, hrun, hacts, h⟩

/-- A property of what a list of labels leads to is one of a run. -/
theorem System.exec_exists (S : System σ α ρ) (s : σ) (as : List α)
    {P : List (Event σ α ρ) → σ → Prop} [∀ tr s', Decidable (P tr s')]
    (h : (S.exec s as).any (fun p => P p.1 p.2) = true) :
    ∃ tr s', S.Run s tr s' ∧ tr.map Event.act = as ∧ P tr s' := by
  obtain ⟨tr, s', hrun, hacts, hP⟩ := S.exec_any s as _ h
  exact ⟨tr, s', hrun, hacts, of_decide_eq_true hP⟩

/-! ## Invariants -/

/-- What every step keeps, every run keeps. -/
theorem System.Run.invariant {I : σ → Prop} (hstep : ∀ x, S.Takes x → I x.pre → I x.post)
    {s s' : σ} {tr : List (Event σ α ρ)} (h : S.Run s tr s') (hs : I s) : I s' := by
  induction h with
  | nil _ => exact hs
  | cons hx _ ih => exact ih (hstep _ hx hs)

theorem System.Reachable.invariant {I : σ → Prop}
    (hstep : ∀ x, S.Takes x → I x.pre → I x.post) {s s' : σ}
    (h : S.Reachable s s') (hs : I s) : I s' := by
  obtain ⟨_, hr⟩ := h
  exact hr.invariant hstep hs

/-! ## Properties kept through a stretch -/

/-- What every step that meets `C` keeps is kept by a run of such steps. -/
theorem System.Run.stable {I P : σ → Prop} {C : Event σ α ρ → Prop}
    (hinv : ∀ x, S.Takes x → I x.pre → I x.post)
    (hstep : ∀ x, S.Takes x → I x.pre → C x → P x.pre → P x.post)
    {s s' : σ} {tr : List (Event σ α ρ)} (h : S.Run s tr s') (hI : I s)
    (hC : ∀ x ∈ tr, C x) (hs : P s) : P s' := by
  induction h with
  | nil _ => exact hs
  | cons hx _ ih =>
      exact ih (hinv _ hx hI) (fun y hy => hC y (List.mem_cons_of_mem _ hy))
        (hstep _ hx hI (hC _ List.mem_cons_self) hs)

/-- The same, at the end of every event of the stretch. -/
theorem System.Run.stable_mem {I P : σ → Prop} {C : Event σ α ρ → Prop}
    (hinv : ∀ x, S.Takes x → I x.pre → I x.post)
    (hstep : ∀ x, S.Takes x → I x.pre → C x → P x.pre → P x.post)
    {s s' : σ} {tr : List (Event σ α ρ)} (h : S.Run s tr s') (hI : I s)
    (hC : ∀ x ∈ tr, C x) (hs : P s) {y : Event σ α ρ} (hy : y ∈ tr) :
    P y.pre ∧ P y.post := by
  obtain ⟨tr₁, tr₂, rfl, h₁, hx, -⟩ := h.of_mem hy
  have hpre : P y.pre :=
    h₁.stable hinv hstep hI (fun z hz => hC z (List.mem_append_left _ hz)) hs
  exact ⟨hpre, hstep y hx (h₁.invariant hinv hI) (hC y hy) hpre⟩

/-- A value no step of the stretch lowers is not lowered by the stretch. -/
theorem System.Run.monotone {τ : Type*} [Preorder τ] {I : σ → Prop} {C : Event σ α ρ → Prop}
    {f : σ → τ} (hinv : ∀ x, S.Takes x → I x.pre → I x.post)
    (hstep : ∀ x, S.Takes x → I x.pre → C x → f x.pre ≤ f x.post)
    {s s' : σ} {tr : List (Event σ α ρ)} (h : S.Run s tr s') (hI : I s)
    (hC : ∀ x ∈ tr, C x) : f s ≤ f s' :=
  h.stable (P := fun m => f s ≤ f m) hinv
    (fun x hx hx' hc hle => hle.trans (hstep x hx hx' hc)) hI hC le_rfl

/-- An event that makes `P` true, and that `P` rules out, happens at most once. -/
theorem System.Run.countP_le_one {I P : σ → Prop} {C : Event σ α ρ → Prop}
    {q : Event σ α ρ → Bool} (hinv : ∀ x, S.Takes x → I x.pre → I x.post)
    (hstep : ∀ x, S.Takes x → I x.pre → C x → P x.pre → P x.post)
    (hset : ∀ x, S.Takes x → I x.pre → q x = true → P x.post)
    (hguard : ∀ x, S.Takes x → I x.pre → P x.pre → q x = false)
    {s s' : σ} {tr : List (Event σ α ρ)} (h : S.Run s tr s') (hI : I s) (hC : ∀ x ∈ tr, C x) :
    tr.countP q ≤ 1 ∧ (P s → tr.countP q = 0) := by
  induction h with
  | nil _ => simp
  | @cons x tr s' hx hr ih =>
      obtain ⟨hle, hzero⟩ := ih (hinv x hx hI) fun y hy => hC y (List.mem_cons_of_mem _ hy)
      cases hq : q x with
      | true =>
          refine ⟨?_, fun hP => ?_⟩
          · have := hzero (hset x hx hI hq)
            rw [List.countP_cons_of_pos hq]
            omega
          · rw [hguard x hx hI hP] at hq
            cases hq
      | false =>
          rw [List.countP_cons_of_neg (by simp [hq])]
          exact ⟨hle, fun hP => hzero (hstep x hx hI (hC x List.mem_cons_self) hP)⟩

/-- What every step keeps or releases is kept to the end or released by an event. -/
theorem System.Run.until {I P : σ → Prop} {Q : Event σ α ρ → Prop}
    (hinv : ∀ x, S.Takes x → I x.pre → I x.post)
    (hstep : ∀ x, S.Takes x → I x.pre → P x.pre → P x.post ∨ Q x)
    {s s' : σ} {tr : List (Event σ α ρ)} (h : S.Run s tr s') (hI : I s) (hP : P s) :
    P s' ∨ ∃ tr₁ x tr₂, tr = tr₁ ++ x :: tr₂ ∧ P x.pre ∧ Q x := by
  induction h with
  | nil _ => exact .inl hP
  | @cons x tr s' hx _ ih =>
      rcases hstep x hx hI hP with hpost | hQ
      · rcases ih (hinv x hx hI) hpost with hend | ⟨tr₁, y, tr₂, rfl, hy⟩
        · exact .inl hend
        · exact .inr ⟨x :: tr₁, y, tr₂, rfl, hy⟩
      · exact .inr ⟨[], x, tr, rfl, hP, hQ⟩

/-! ## The state and the events so far -/

/-- What every step keeps between the state and the events that led to it. -/
theorem System.Run.trace {R : σ → List (Event σ α ρ) → Prop}
    (hstep : ∀ x g, S.Takes x → R x.pre g → R x.post (g ++ [x])) {s s' : σ}
    {tr : List (Event σ α ρ)} (h : S.Run s tr s') (hs : R s []) : R s' tr := by
  have hgen : ∀ g, R s g → R s' (g ++ tr) := by
    clear hs
    induction h with
    | nil _ => simp
    | @cons x tr s' hx _ ih =>
        intro g hg
        simpa using ih (g ++ [x]) (hstep x g hx hg)
  exact hgen [] hs

/-! ## Work that runs out -/

/-- A stretch of steps that all lower a number is no longer than the number. -/
theorem System.Run.length_le {C : Event σ α ρ → Prop} {m : σ → Nat}
    (hstep : ∀ x, S.Takes x → C x → m x.post < m x.pre) {s s' : σ} {tr : List (Event σ α ρ)}
    (h : S.Run s tr s') (hC : ∀ x ∈ tr, C x) : tr.length + m s' ≤ m s := by
  induction h with
  | nil _ => simp
  | @cons x tr s' hx _ ih =>
      have hrest := ih fun y hy => hC y (List.mem_cons_of_mem _ hy)
      have hlt := hstep x hx (hC x List.mem_cons_self)
      rw [List.length_cons]
      omega

/-- Such steps lead to a state where none of them is left. -/
theorem System.exists_rest {C : Event σ α ρ → Prop} {m : σ → Nat}
    (hstep : ∀ x, S.Takes x → C x → m x.post < m x.pre) (s : σ) :
    ∃ tr s', S.Run s tr s' ∧ (∀ x ∈ tr, C x) ∧ ∀ x, S.Takes x → x.pre = s' → ¬ C x := by
  generalize hn : m s = n
  induction n using Nat.strongRecOn generalizing s with
  | ind n ih =>
      by_cases hrest : ∀ x, S.Takes x → x.pre = s → ¬ C x
      · exact ⟨[], s, .nil s, nofun, hrest⟩
      · push Not at hrest
        obtain ⟨x, hx, rfl, hC⟩ := hrest
        obtain ⟨tr, s', hrun, hall, hdone⟩ := ih (m x.post) (hn ▸ hstep x hx hC) x.post rfl
        exact ⟨x :: tr, s', .cons hx hrun, List.forall_mem_cons.mpr ⟨hC, hall⟩, hdone⟩

/-! ## Parts of a system -/

/-- Where every step of a system is a step of a part or leaves the part alone, a run is a
run of the part. -/
theorem System.Run.project {σ' : Type*} {α' : Type*} {ρ' : Type*} {T : System σ' α' ρ'}
    {f : σ → σ'} {proj : Event σ α ρ → Option (Event σ' α' ρ')}
    (hstep : ∀ x, S.Takes x → (proj x = none ∧ f x.post = f x.pre) ∨
      ∃ y, proj x = some y ∧ T.Takes y ∧ y.pre = f x.pre ∧ y.post = f x.post)
    {s s' : σ} {tr : List (Event σ α ρ)} (h : S.Run s tr s') :
    T.Run (f s) (tr.filterMap proj) (f s') := by
  induction h with
  | nil _ => exact .nil _
  | @cons x tr s' hx _ ih =>
      rcases hstep x hx with ⟨hnone, hsame⟩ | ⟨y, hsome, hy, hpre, hpost⟩
      · rw [List.filterMap_cons_none hnone, ← hsame]
        exact ih
      · rw [List.filterMap_cons_some hsome, ← hpre]
        rw [← hpost] at ih
        exact .cons hy ih

/-! ## Simulation -/

section

variable {σ' : Type*} {α' : Type*} {T : System σ' α' ρ} {f : σ → σ'} {g : α → α'}

/-- A step with its states and its label replaced. -/
def Event.map (f : σ → σ') (g : α → α') (x : Event σ α ρ) : Event σ' α' ρ :=
  ⟨f x.pre, g x.act, x.report, f x.post⟩

/-- Where the image of every step is a step, the image of a run is a run. -/
theorem System.Run.map (hstep : ∀ x, S.Takes x → T.Takes (x.map f g)) {s s' : σ}
    {tr : List (Event σ α ρ)} (h : S.Run s tr s') :
    T.Run (f s) (tr.map (Event.map f g)) (f s') := by
  rw [← List.filterMap_eq_map]
  exact h.project fun x hx => .inr ⟨x.map f g, rfl, hstep x hx, rfl, rfl⟩

/-- A list of labels leads on where it leads in a system that is simulated. -/
theorem System.exec_exists_map (hstep : ∀ x, S.Takes x → T.Takes (x.map f g)) (s : σ)
    (as : List α) {P : List (Event σ' α' ρ) → σ' → Prop} [∀ tr s', Decidable (P tr s')]
    (h : (S.exec s as).any (fun p => P (p.1.map (Event.map f g)) (f p.2)) = true) :
    ∃ tr s', T.Run (f s) tr s' ∧ tr.map Event.act = as.map g ∧ P tr s' := by
  obtain ⟨tr, s', hrun, hacts, hP⟩ := S.exec_any s as _ h
  refine ⟨tr.map (Event.map f g), f s', hrun.map hstep, ?_, of_decide_eq_true hP⟩
  rw [← hacts, List.map_map, List.map_map]
  rfl

end

/-! ## Refining a producer -/

/-- The first outputs of something that gives one output after another. -/
def produce {τ : Type*} {β : Type*} (step : τ → β × τ) : Nat → τ → List β
  | 0, _ => []
  | n + 1, t => (step t).1 :: produce step n (step t).2

/-- Where every step of a system stutters or gives the next output of a producer, a run
gives its outputs in order. -/
theorem System.Run.produces {τ : Type*} {β : Type*} {I : σ → Prop} {abs : σ → τ}
    {step : τ → β × τ} {out : ρ → Option β} (hinv : ∀ x, S.Takes x → I x.pre → I x.post)
    (hstep : ∀ x, S.Takes x → I x.pre → (out x.report = none ∧ abs x.post = abs x.pre) ∨
      ∃ b, out x.report = some b ∧ step (abs x.pre) = (b, abs x.post))
    {s s' : σ} {tr : List (Event σ α ρ)} (h : S.Run s tr s') (hI : I s) :
    tr.filterMap (fun x => out x.report) =
      produce step (tr.filterMap fun x => out x.report).length (abs s) := by
  induction h with
  | nil _ => rfl
  | @cons x tr s' hx _ ih =>
      have hrest := ih (hinv x hx hI)
      rcases hstep x hx hI with ⟨hnone, habs⟩ | ⟨b, hsome, habs⟩
      · simp only [List.filterMap_cons, hnone]
        rw [← habs]
        exact hrest
      · simp only [List.filterMap_cons, hsome, List.length_cons, produce, habs]
        exact congrArg (b :: ·) hrest

end Transition
