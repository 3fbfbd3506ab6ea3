import Mathlib.Algebra.Group.Nat.Defs
import Mathlib.Data.Set.Function
import Mathlib.Data.Set.Prod
import Mathlib.Order.Interval.Set.Defs

/-!
# Prefix codes

A code writes a value as a list of symbols.  It is a prefix code on a set of
values when a code word can be read back off the front of any text, with the
rest of the text.  Such codes compose: two of them one after the other, a text
behind its length, a list behind its count.

Every rule is about a set of values, since a length that is written with a fixed
number of digits is told apart from the others only as long as it fits.
-/

universe u v w

variable {α : Type u} {β : Type v} {σ : Type w}

/-- A word of a value of `S` can be read back off the front of any text. -/
def PrefixCode (S : Set α) (code : α → List σ) : Prop :=
  ∀ a ∈ S, ∀ b ∈ S, ∀ x y, code a ++ x = code b ++ y → a = b ∧ x = y

namespace PrefixCode

variable {S : Set α} {T : Set β} {code : α → List σ}

theorem injOn (h : PrefixCode S code) : Set.InjOn code S := by
  intro a ha b hb heq
  exact (h a ha b hb [] [] (by rw [heq])).1

/-- Words of one length that tell the values apart. -/
theorem of_length {n : ℕ} (hlen : ∀ a ∈ S, (code a).length = n) (hinj : Set.InjOn code S) :
    PrefixCode S code := by
  intro a ha b hb x y heq
  obtain ⟨hcode, hrest⟩ := List.append_inj heq ((hlen a ha).trans (hlen b hb).symm)
  exact ⟨hinj ha hb hcode, hrest⟩

/-- A code read through a renaming of the values. -/
theorem comap (h : PrefixCode S code) {f : β → α} (hmaps : Set.MapsTo f T S)
    (hinj : Set.InjOn f T) : PrefixCode T fun b => code (f b) := by
  intro a ha b hb x y heq
  obtain ⟨hf, hrest⟩ := h _ (hmaps ha) _ (hmaps hb) x y heq
  exact ⟨hinj ha hb hf, hrest⟩

/-- One word after another. -/
theorem prod (h : PrefixCode S code) {code' : β → List σ} (h' : PrefixCode T code') :
    PrefixCode (S ×ˢ T) fun p => code p.1 ++ code' p.2 := by
  rintro ⟨a, b⟩ ⟨ha, hb⟩ ⟨a', b'⟩ ⟨ha', hb'⟩ x y heq
  simp only [List.append_assoc] at heq
  obtain ⟨rfl, hrest⟩ := h a ha a' ha' _ _ heq
  obtain ⟨rfl, rfl⟩ := h' b hb b' hb' x y hrest
  exact ⟨rfl, rfl⟩

/-! ## Lengths and counts in front -/

section

variable {N : Set ℕ} {count : ℕ → List σ}

/-- A text behind its length. -/
theorem lengthPrefixed (h : PrefixCode N count) :
    PrefixCode {xs : List σ | xs.length ∈ N} fun xs => count xs.length ++ xs := by
  intro xs hxs ys hys x y heq
  simp only [List.append_assoc] at heq
  obtain ⟨hlen, hrest⟩ := h _ hxs _ hys _ _ heq
  exact List.append_inj hrest hlen

/-- Lists of one length, word by word. -/
theorem flatMap (h : PrefixCode S code) {as bs : List α} (hlen : as.length = bs.length)
    (has : ∀ a ∈ as, a ∈ S) (hbs : ∀ b ∈ bs, b ∈ S) {x y : List σ}
    (heq : as.flatMap code ++ x = bs.flatMap code ++ y) : as = bs ∧ x = y := by
  induction as generalizing bs with
  | nil =>
      cases List.length_eq_zero_iff.mp hlen.symm
      exact ⟨rfl, heq⟩
  | cons a as ih =>
      cases bs with
      | nil => cases hlen
      | cons b bs =>
          simp only [List.flatMap_cons, List.append_assoc] at heq
          obtain ⟨rfl, hrest⟩ := h a (has a List.mem_cons_self) b (hbs b List.mem_cons_self) _ _ heq
          obtain ⟨rfl, rfl⟩ := ih (Nat.succ.inj hlen)
            (fun c hc => has c (List.mem_cons_of_mem _ hc))
            (fun c hc => hbs c (List.mem_cons_of_mem _ hc)) hrest
          exact ⟨rfl, rfl⟩

/-- A list behind its count, word by word. -/
theorem counted (hN : PrefixCode N count) (h : PrefixCode S code) :
    PrefixCode {as : List α | as.length ∈ N ∧ ∀ a ∈ as, a ∈ S} fun as =>
      count as.length ++ as.flatMap code := by
  intro as has bs hbs x y heq
  simp only [List.append_assoc] at heq
  obtain ⟨hlen, hrest⟩ := hN _ has.1 _ hbs.1 _ _ heq
  exact h.flatMap hlen has.2 hbs.2 hrest

end

/-- Words of one positive length need no count. -/
theorem flatMap_injective {n : ℕ} (h : PrefixCode Set.univ code) (hn : 0 < n)
    (hlen : ∀ a, (code a).length = n) : Function.Injective fun as : List α => as.flatMap code := by
  have htotal : ∀ as : List α, (as.flatMap code).length = n * as.length := by
    intro as
    induction as with
    | nil => rfl
    | cons a as ih =>
        rw [List.flatMap_cons, List.length_append, hlen, ih, List.length_cons, Nat.mul_add,
          Nat.mul_one, Nat.add_comm]
  intro as bs heq
  have hsame : n * as.length = n * bs.length := by
    rw [← htotal, ← htotal]
    exact congrArg List.length heq
  exact (h.flatMap (Nat.eq_of_mul_eq_mul_left hn hsame) (fun _ _ => trivial) (fun _ _ => trivial)
    (congrArg (· ++ []) heq)).1

end PrefixCode

/-! ## Numbers of a fixed width -/

/-- A number in `width` bytes, most significant first. -/
def bigEndian : ℕ → ℕ → List UInt8
  | 0, _ => []
  | width + 1, n => bigEndian width (n / 256) ++ [UInt8.ofNat n]

@[simp] theorem length_bigEndian (width n : ℕ) : (bigEndian width n).length = width := by
  induction width generalizing n with
  | zero => rfl
  | succ width ih => rw [bigEndian, List.length_append, ih, List.length_singleton]

theorem bigEndian_injOn (width : ℕ) : Set.InjOn (bigEndian width) (Set.Iio (256 ^ width)) := by
  induction width with
  | zero =>
      intro m hm n hn _
      simp only [Nat.pow_zero, Set.mem_Iio, Nat.lt_one_iff] at hm hn
      rw [hm, hn]
  | succ width ih =>
      intro m hm n hn heq
      simp only [Set.mem_Iio, Nat.pow_succ] at hm hn
      obtain ⟨hhigh, hlow⟩ := List.append_inj' heq rfl
      have hdiv : m / 256 = n / 256 :=
        ih (Nat.div_lt_of_lt_mul (by omega)) (Nat.div_lt_of_lt_mul (by omega)) hhigh
      have hmod : m % 256 = n % 256 := by
        have := congrArg UInt8.toNat (List.head_eq_of_cons_eq hlow)
        simpa only [UInt8.toNat_ofNat'] using this
      omega

theorem bigEndian_prefixCode (width : ℕ) :
    PrefixCode (Set.Iio (256 ^ width)) (bigEndian width) :=
  .of_length (fun n _ => length_bigEndian width n) (bigEndian_injOn width)
