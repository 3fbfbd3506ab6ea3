import Mathlib.Order.Basic
import Paraegox.Lib.Transition

/-!
# Tasks that settle once

What is known of the outcome of one task, ordered by what can still follow.  A
doomed task has no outcome yet, but only the outcomes in `D` are open to it.  A
settled task stays settled.  The order says all of this at once: a system whose
steps never lower the settlement of a task gives every task at most one outcome,
and a doomed one an outcome in `D`.
-/

universe u v w

/-- The settlement of a task with outcomes in `α`, of which those in `D` are
open to a doomed task. -/
inductive Settlement {α : Type u} (D : α → Prop) where
  | fresh
  | running
  | doomed
  | settled (a : α)

namespace Settlement

variable {α : Type u} {D : α → Prop}

/-- The second can follow the first. -/
def Le : Settlement D → Settlement D → Prop
  | .fresh, _ => True
  | .running, x => x ≠ .fresh
  | .doomed, .doomed => True
  | .doomed, .settled a => D a
  | .doomed, _ => False
  | .settled a, x => x = .settled a

instance : PartialOrder (Settlement D) where
  le := Le
  le_refl x := by cases x <;> simp [Le]
  le_trans x y z h₁ h₂ := by
    cases x <;> cases y <;> cases z <;> simp_all [Le]
  le_antisymm x y h₁ h₂ := by
    cases x <;> cases y <;> simp_all [Le]

@[simp] theorem fresh_le (x : Settlement D) : .fresh ≤ x := True.intro

theorem running_le {x : Settlement D} : .running ≤ x ↔ x ≠ .fresh := Iff.rfl

@[simp] theorem doomed_le_settled {a : α} : (.doomed : Settlement D) ≤ .settled a ↔ D a := Iff.rfl

/-- A settled task stays settled. -/
@[simp] theorem settled_le {a : α} {x : Settlement D} : .settled a ≤ x ↔ x = .settled a := Iff.rfl

/-- Whatever is not settled can still be doomed. -/
theorem le_doomed {x : Settlement D} (h : ∀ a, x ≠ .settled a) : x ≤ .doomed := by
  cases x with
  | fresh => exact fresh_le _
  | running => exact running_le.mpr nofun
  | doomed => exact le_rfl
  | settled a => exact absurd rfl (h a)

/-! ## Along a run -/

variable {σ : Type v} {β : Type w} {ρ : Type*} {S : Transition.System σ β ρ}
variable {I : σ → Prop} {C : Transition.Event σ β ρ → Prop} {f : σ → Settlement D}

/-- Every outcome seen along a stretch is the outcome at its end. -/
theorem end_of_mem (hinv : ∀ x, S.Takes x → I x.pre → I x.post)
    (hstep : ∀ x, S.Takes x → I x.pre → C x → f x.pre ≤ f x.post) {s s' : σ}
    {tr : List (Transition.Event σ β ρ)} (h : S.Run s tr s') (hI : I s) (hC : ∀ x ∈ tr, C x)
    {x : Transition.Event σ β ρ} (hx : x ∈ tr) {a : α} (ha : f x.post = .settled a) :
    f s' = .settled a := by
  obtain ⟨tr₁, tr₂, rfl, h₁, hx', h₂⟩ := h.of_mem hx
  have hpost : I x.post := hinv x hx' (h₁.invariant hinv hI)
  have hle := h₂.monotone hinv hstep hpost fun y hy => hC y (by simp [hy])
  exact settled_le.mp (ha ▸ hle)

/-- From a doomed task on, every outcome seen along a stretch is in `D`. -/
theorem doomed_of_mem (hinv : ∀ x, S.Takes x → I x.pre → I x.post)
    (hstep : ∀ x, S.Takes x → I x.pre → C x → f x.pre ≤ f x.post) {s s' : σ}
    {tr : List (Transition.Event σ β ρ)} (h : S.Run s tr s') (hI : I s) (hC : ∀ x ∈ tr, C x)
    (hs : f s = .doomed) {x : Transition.Event σ β ρ} (hx : x ∈ tr) {a : α}
    (ha : f x.post = .settled a) : D a := by
  have hend := end_of_mem hinv hstep h hI hC hx ha
  have hle := h.monotone hinv hstep hI hC
  rw [hs, hend] at hle
  exact doomed_le_settled.mp hle

end Settlement
