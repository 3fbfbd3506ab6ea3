import Paraegox.Lib.Transition

/-!
# Programs that ask their environment

A dialogue runs until it needs something it cannot compute, asks for it, and goes
on with the answer: it is the tree of what it may ask.  A loop does not fit into a
tree, so a machine is a family of dialogues, each of which ends in the point where
the next one begins.

`Obeys` is the logic of dialogues.  A monitor watches the exchanges from outside
and keeps a state of its own; a dialogue obeys it when it only asks what the
monitor permits, as long as the answers are those the monitor expects.  The
judgement composes along `bind`, one rule covers failure, and `Machine.run_obeys`
carries it along the runs of a machine.
-/

/-- A program that returns `α` after some questions. -/
inductive Dialogue (Q : Type) (A : Q → Type) (α : Type) where
  | pure (a : α)
  | ask (q : Q) (k : A q → Dialogue Q A α)

/-- A question with its answer. -/
structure Exchange (Q : Type) (A : Q → Type) where
  question : Q
  answer : A question

/-- An observer with a state. -/
structure Monitor (Q : Type) (A : Q → Type) (σ : Type) where
  /-- The question may be asked now. -/
  permits : σ → Q → Prop
  /-- The answer is one the environment gives now. -/
  expects : σ → Exchange Q A → Prop
  /-- The state after an exchange. -/
  next : σ → Exchange Q A → σ

namespace Dialogue

variable {Q : Type} {A : Q → Type} {α β ε σ : Type}

def bind : Dialogue Q A α → (α → Dialogue Q A β) → Dialogue Q A β
  | .pure a, f => f a
  | .ask q k, f => .ask q fun x => (k x).bind f

instance : Monad (Dialogue Q A) where
  pure := .pure
  bind := bind

/-- Ask and return the answer. -/
def request (q : Q) : Dialogue Q A (A q) := .ask q .pure

/-- The dialogue only asks what the monitor permits, and ends in `R`. -/
def Obeys (M : Monitor Q A σ) (R : σ → α → Prop) : Dialogue Q A α → σ → Prop
  | .pure a, s => R s a
  | .ask q k, s => M.permits s q ∧ ∀ x, M.expects s ⟨q, x⟩ → (k x).Obeys M R (M.next s ⟨q, x⟩)

variable {M : Monitor Q A σ} {R : σ → α → Prop} {s : σ}

theorem Obeys.mono {T : σ → α → Prop} {d : Dialogue Q A α} (h : d.Obeys M R s)
    (himp : ∀ s a, R s a → T s a) : d.Obeys M T s := by
  induction d generalizing s with
  | pure a => exact himp s a h
  | ask q k ih => exact ⟨h.1, fun x hx => ih x (h.2 x hx)⟩

/-- What follows a dialogue starts in a state the dialogue may end in. -/
theorem Obeys.bind {T : σ → β → Prop} {d : Dialogue Q A α} {f : α → Dialogue Q A β}
    (h : d.Obeys M R s) (hf : ∀ s a, R s a → (f a).Obeys M T s) :
    (d >>= f).Obeys M T s := by
  induction d generalizing s with
  | pure a => exact hf s a h
  | ask q k ih => exact ⟨h.1, fun x hx => ih x (h.2 x hx)⟩

theorem Obeys.request {q : Q} {R : σ → A q → Prop} (hq : M.permits s q)
    (hx : ∀ x, M.expects s ⟨q, x⟩ → R (M.next s ⟨q, x⟩) x) :
    (request q : Dialogue Q A (A q)).Obeys M R s :=
  ⟨hq, hx⟩

/-! ## Whatever the answers -/

/-- The monitor that keeps what was asked and answered, and has nothing against it. -/
def history : Monitor Q A (List (Exchange Q A)) where
  permits _ _ := True
  expects _ _ := True
  next xs x := xs ++ [x]

/-- However its questions are answered, the dialogue ends so. -/
def Yields (R : List (Exchange Q A) → α → Prop) (d : Dialogue Q A α) : Prop := d.Obeys history R []

/-- The exchanges of a dialogue that is answered by a function, and its end. -/
def answered (answer : (q : Q) → A q) : Dialogue Q A α → List (Exchange Q A) × α
  | .pure a => ([], a)
  | .ask q k =>
      let (xs, a) := (k (answer q)).answered answer
      (⟨q, answer q⟩ :: xs, a)

theorem Obeys.answered {R : List (Exchange Q A) → α → Prop} {d : Dialogue Q A α}
    {xs : List (Exchange Q A)} (h : d.Obeys history R xs) (answer : (q : Q) → A q) :
    R (xs ++ (d.answered answer).1) (d.answered answer).2 := by
  induction d generalizing xs with
  | pure a =>
      rw [Dialogue.answered, List.append_nil]
      exact h
  | ask q k ih =>
      have hrest := ih (answer q) (h.2 (answer q) trivial)
      rwa [show history.next xs ⟨q, answer q⟩ = xs ++ [⟨q, answer q⟩] from rfl, List.append_assoc,
        List.singleton_append] at hrest

theorem Yields.answered {R : List (Exchange Q A) → α → Prop} {d : Dialogue Q A α}
    (h : d.Yields R) (answer : (q : Q) → A q) : R (d.answered answer).1 (d.answered answer).2 :=
  Obeys.answered (show d.Obeys history R [] from h) answer

/-- All questions are answered by the function. -/
theorem answered_mem {answer : (q : Q) → A q} {d : Dialogue Q A α} {x : Exchange Q A}
    (h : x ∈ (d.answered answer).1) : x.answer = answer x.question := by
  induction d with
  | pure a => cases h
  | ask q k ih =>
      rcases List.mem_cons.mp h with rfl | h
      · rfl
      · exact ih (answer q) h

theorem Yields.append {R : List (Exchange Q A) → α → Prop} {d : Dialogue Q A α} (h : d.Yields R)
    (xs : List (Exchange Q A)) :
    d.Obeys history (fun ys a => ∃ zs, ys = xs ++ zs ∧ R zs a) xs := by
  have hall : ∀ {d : Dialogue Q A α} {zs : List (Exchange Q A)}, d.Obeys history R zs →
      d.Obeys history (fun ys a => ∃ zs, ys = xs ++ zs ∧ R zs a) (xs ++ zs) := by
    intro d
    induction d with
    | pure a => exact fun h => ⟨_, rfl, h⟩
    | ask q k ih =>
        intro zs h
        refine ⟨trivial, fun x _ => ?_⟩
        have hrest := ih x (h.2 x trivial)
        rwa [show history.next zs ⟨q, x⟩ = zs ++ [⟨q, x⟩] from rfl, ← List.append_assoc] at hrest
  have hd := hall (show d.Obeys history R [] from h)
  rwa [List.append_nil] at hd

/-- The exchanges of two parts follow one another. -/
theorem Yields.bind {R : List (Exchange Q A) → α → Prop} {T : List (Exchange Q A) → β → Prop}
    {d : Dialogue Q A α} {f : α → Dialogue Q A β} (h : d.Yields R)
    (hf : ∀ xs a, R xs a → (f a).Yields fun ys b => T (xs ++ ys) b) : (d >>= f).Yields T := by
  refine Obeys.bind (R := R) h fun xs a ha => ?_
  refine ((hf xs a ha).append xs).mono fun ys b hb => ?_
  obtain ⟨zs, rfl, ht⟩ := hb
  exact ht

theorem Yields.mono {R T : List (Exchange Q A) → α → Prop} {d : Dialogue Q A α} (h : d.Yields R)
    (himp : ∀ xs a, R xs a → T xs a) : d.Yields T :=
  Obeys.mono h himp

/-! ## Dialogues that may fail -/

/-- One postcondition for each way a dialogue ends. -/
def Ends (R : σ → α → Prop) (F : σ → ε → Prop) (s : σ) : Except ε α → Prop
  | .ok a => R s a
  | .error e => F s e

/-- `Obeys`, for a dialogue that may fail. -/
def Handles (M : Monitor Q A σ) (R : σ → α → Prop) (F : σ → ε → Prop)
    (d : ExceptT ε (Dialogue Q A) α) (s : σ) : Prop :=
  d.run.Obeys M (Ends R F) s

variable {F : σ → ε → Prop}

theorem Handles.pure {a : α} (h : R s a) :
    Handles M R F (Pure.pure a : ExceptT ε (Dialogue Q A) α) s :=
  h

theorem Handles.throw {e : ε} (h : F s e) :
    Handles M R F (throw e : ExceptT ε (Dialogue Q A) α) s :=
  h

theorem Handles.mono {T : σ → α → Prop} {G : σ → ε → Prop}
    {d : ExceptT ε (Dialogue Q A) α} (h : Handles M R F d s)
    (hR : ∀ s a, R s a → T s a) (hF : ∀ s e, F s e → G s e) :
    Handles M T G d s :=
  Obeys.mono h fun s r hr =>
    match r with
    | .ok a => hR s a hr
    | .error e => hF s e hr

/-- A failure of the first part is the failure of the whole. -/
theorem Handles.bind {T : σ → β → Prop} {d : ExceptT ε (Dialogue Q A) α}
    {f : α → ExceptT ε (Dialogue Q A) β} (h : Handles M R F d s)
    (hf : ∀ s a, R s a → Handles M T F (f a) s) :
    Handles M T F (d >>= f) s :=
  Obeys.bind h fun s r hr =>
    match r with
    | .ok a => hf s a hr
    | .error _ => hr

theorem Handles.map {T : σ → β → Prop} {d : ExceptT ε (Dialogue Q A) α} {f : α → β}
    (h : Handles M R F d s) (hf : ∀ s a, R s a → T s (f a)) :
    Handles M T F (f <$> d) s :=
  Obeys.bind h fun s r hr =>
    match r with
    | .ok a => hf s a hr
    | .error _ => hr

/-- A dialogue that cannot fail, inside one that may. -/
theorem Handles.lift {d : Dialogue Q A α} (h : d.Obeys M R s) :
    Handles M R F (liftM d : ExceptT ε (Dialogue Q A) α) s :=
  Obeys.bind h fun _ _ ha => ha

/-- Two parts, the first of which may fail and then ends the whole. -/
theorem Yields.andThen {R : List (Exchange Q A) → Except ε α → Prop}
    {T : List (Exchange Q A) → Except ε β → Prop} {d : ExceptT ε (Dialogue Q A) α}
    {f : α → ExceptT ε (Dialogue Q A) β} (h : d.run.Yields R)
    (hf : ∀ xs a, R xs (.ok a) → (f a).run.Yields fun ys r => T (xs ++ ys) r)
    (he : ∀ xs e, R xs (.error e) → T xs (.error e)) : (d >>= f).run.Yields T := by
  refine Yields.bind (R := R) h fun xs r hr => ?_
  cases r with
  | ok a => exact hf xs a hr
  | error e =>
      show T (xs ++ []) (.error e)
      rw [List.append_nil]
      exact he xs e hr

/-- The result of a dialogue that may fail, handed on as a value. -/
def attempt (d : ExceptT ε (Dialogue Q A) α) : ExceptT ε (Dialogue Q A) (Except ε α) :=
  liftM d.run

theorem Handles.attempt {T : σ → Except ε α → Prop} {d : ExceptT ε (Dialogue Q A) α}
    (h : Handles M (fun s a => T s (.ok a)) (fun s e => T s (.error e)) d s) :
    Handles M T F (attempt d) s :=
  Handles.lift (Obeys.mono h fun _ r hr =>
    match r with
    | .ok _ => hr
    | .error _ => hr)

end Dialogue

/-! ## Machines -/

/-- A loop: each point has the dialogue that leads to the next one. -/
structure Machine (Q : Type) (A : Q → Type) (π : Type) where
  resume : π → Dialogue Q A π

namespace Machine

variable {Q : Type} {A : Q → Type} {π σ : Type}

/-- A step of a machine: an answer, or the passage through a point. -/
inductive Act (Q : Type) (A : Q → Type) where
  | answer (x : Exchange Q A)
  | resume

def Act.exchange? : Act Q A → Option (Exchange Q A)
  | .answer x => some x
  | .resume => none

/-- What is left of a dialogue after a step. -/
def next [DecidableEq Q] (m : Machine Q A π) : Dialogue Q A π → Act Q A → Option (Dialogue Q A π)
  | .pure p, .resume => some (m.resume p)
  | .ask q k, .answer x => if h : x.question = q then some (k (h ▸ x.answer)) else none
  | _, _ => none

/-- A machine as a labelled system. -/
def system [DecidableEq Q] (m : Machine Q A π) :
    Transition.System (Dialogue Q A π) (Act Q A) Unit where
  next d a := (m.next d a).map fun d' => ((), d')

/-- The exchanges of a run. -/
def exchanges (tr : List (Transition.Event (Dialogue Q A π) (Act Q A) Unit)) :
    List (Exchange Q A) :=
  tr.filterMap fun x => x.act.exchange?

theorem exchanges_append (tr₁ tr₂ : List (Transition.Event (Dialogue Q A π) (Act Q A) Unit)) :
    exchanges (tr₁ ++ tr₂) = exchanges tr₁ ++ exchanges tr₂ :=
  List.filterMap_append

/-- The exchanges are those of the labels. -/
theorem exchanges_of_acts (tr : List (Transition.Event (Dialogue Q A π) (Act Q A) Unit)) :
    exchanges tr = (tr.map Transition.Event.act).filterMap Act.exchange? := by
  rw [exchanges, List.filterMap_map]
  rfl

/-- A step is an answer to the question that is open, or starts the next dialogue. -/
theorem takes_cases [DecidableEq Q] {m : Machine Q A π}
    {x : Transition.Event (Dialogue Q A π) (Act Q A) Unit} (hx : m.system.Takes x) :
    (∃ q k a, x.pre = .ask q k ∧ x.act = .answer ⟨q, a⟩ ∧ x.post = k a) ∨
      ∃ p, x.pre = .pure p ∧ x.act = .resume ∧ x.post = m.resume p := by
  obtain ⟨d, act, _, d'⟩ := x
  obtain ⟨d'', hnext, hd⟩ := Option.map_eq_some_iff.mp hx
  cases hd
  cases d with
  | pure p =>
      cases act with
      | answer _ => cases hnext
      | resume =>
          cases hnext
          exact .inr ⟨p, rfl, rfl, rfl⟩
  | ask q k =>
      cases act with
      | answer x =>
          obtain ⟨q', a⟩ := x
          rw [next] at hnext
          split_ifs at hnext with hq
          cases hq
          cases hnext
          exact .inl ⟨_, k, a, rfl, rfl, rfl⟩
      | resume => cases hnext

end Machine

namespace Monitor

variable {Q : Type} {A : Q → Type} {σ : Type} (M : Monitor Q A σ)

/-- The state after some exchanges. -/
def after (s : σ) (xs : List (Exchange Q A)) : σ := xs.foldl M.next s

/-- All of these exchanges are expected, one after the other. -/
def Admits : σ → List (Exchange Q A) → Prop
  | _, [] => True
  | s, x :: xs => M.expects s x ∧ Admits (M.next s x) xs

/-- All of these questions are permitted, one after the other. -/
def Respects : σ → List (Exchange Q A) → Prop
  | _, [] => True
  | s, x :: xs => M.permits s x.question ∧ Respects (M.next s x) xs

variable {M}

/-- What was asked at some time was permitted then. -/
theorem Respects.at {s : σ} {xs ys : List (Exchange Q A)} {x : Exchange Q A}
    (h : M.Respects s (xs ++ x :: ys)) : M.permits (M.after s xs) x.question := by
  induction xs generalizing s with
  | nil => exact h.1
  | cons y xs ih => exact ih h.2

/-- A monitor that expects nothing admits everything. -/
theorem admits_of_forall (h : ∀ s x, M.expects s x) (s : σ) (xs : List (Exchange Q A)) :
    M.Admits s xs := by
  induction xs generalizing s with
  | nil => trivial
  | cons x xs ih => exact ⟨h s x, ih _⟩

end Monitor

/-- An invariant of the points of a machine, which every dialogue restores, holds
along every run whose answers are expected. -/
theorem Machine.run_obeys {Q : Type} {A : Q → Type} {π σ : Type} [DecidableEq Q]
    {m : Machine Q A π} {M : Monitor Q A σ} {I : σ → π → Prop}
    (hI : ∀ s p, I s p → (m.resume p).Obeys M I s) {d d' : Dialogue Q A π}
    {tr : List (Transition.Event (Dialogue Q A π) (Act Q A) Unit)} (h : m.system.Run d tr d')
    {s : σ} (hd : d.Obeys M I s) (hadm : M.Admits s (exchanges tr)) :
    d'.Obeys M I (M.after s (exchanges tr)) := by
  induction h generalizing s with
  | nil _ => exact hd
  | @cons x tr _ hx _ ih =>
      rcases takes_cases hx with ⟨q, k, a, hpre, hact, hpost⟩ | ⟨p, hpre, hact, hpost⟩
      · have hex : exchanges (x :: tr) = ⟨q, a⟩ :: exchanges tr := by
          simp [exchanges, hact, Act.exchange?]
        rw [hex] at hadm ⊢
        rw [hpre] at hd
        rw [hpost] at ih
        exact ih (hd.2 a hadm.1) hadm.2
      · have hex : exchanges (x :: tr) = exchanges tr := by
          simp [exchanges, hact, Act.exchange?]
        rw [hex] at hadm ⊢
        rw [hpre] at hd
        rw [hpost] at ih
        exact ih (hI s p hd) hadm

/-- And all it asks is permitted. -/
theorem Machine.run_respects {Q : Type} {A : Q → Type} {π σ : Type} [DecidableEq Q]
    {m : Machine Q A π} {M : Monitor Q A σ} {I : σ → π → Prop}
    (hI : ∀ s p, I s p → (m.resume p).Obeys M I s) {d d' : Dialogue Q A π}
    {tr : List (Transition.Event (Dialogue Q A π) (Act Q A) Unit)} (h : m.system.Run d tr d')
    {s : σ} (hd : d.Obeys M I s) (hadm : M.Admits s (exchanges tr)) :
    M.Respects s (exchanges tr) := by
  induction h generalizing s with
  | nil _ => trivial
  | @cons x tr _ hx _ ih =>
      rcases takes_cases hx with ⟨q, k, a, hpre, hact, hpost⟩ | ⟨p, hpre, hact, hpost⟩
      · have hex : exchanges (x :: tr) = ⟨q, a⟩ :: exchanges tr := by
          simp [exchanges, hact, Act.exchange?]
        rw [hex] at hadm ⊢
        rw [hpre] at hd
        rw [hpost] at ih
        exact ⟨hd.1, ih (hd.2 a hadm.1) hadm.2⟩
      · have hex : exchanges (x :: tr) = exchanges tr := by
          simp [exchanges, hact, Act.exchange?]
        rw [hex] at hadm ⊢
        rw [hpre] at hd
        rw [hpost] at ih
        exact ih (hI s p hd) hadm
