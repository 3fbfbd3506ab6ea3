import Paraegox.Kernel.Uuid
import Paraegox.Text.Unicode

/-!
# Identities of Nodes and RuntimeHosts

The fields of `NodeId` and `RuntimeHostId` are private to the kernel crate and
only their validating constructors build one, so each carries its validity.
-/

namespace Paraegox

def MAX_NODE_ID_BYTES : Nat := 64

/-- What `NodeId::from_str` accepts.  The source reads bytes, and a byte of a
character outside ASCII is no ASCII letter or digit. -/
def NodeId.Valid (value : String) : Prop :=
  (value ≠ "" ∧ value.utf8ByteSize ≤ MAX_NODE_ID_BYTES) ∧
    value.toList.head?.any Char.isAlphanum ∧
    value.toList.all fun c => c.isAlphanum || c == '-' || c == '_'

instance (value : String) : Decidable (NodeId.Valid value) :=
  inferInstanceAs (Decidable (_ ∧ _))

/-- The characters of a node id are no controls. -/
theorem NodeId.Valid.not_isControl {value : String} (h : NodeId.Valid value) {c : Char}
    (hc : c ∈ value.toList) : isControl c = false := by
  have hchar := List.all_eq_true.mp h.2.2 c hc
  simp only [Bool.or_eq_true, beq_iff_eq] at hchar
  rcases hchar with (hchar | rfl) | rfl
  · unfold Char.isAlphanum Char.isAlpha Char.isUpper Char.isLower Char.isDigit at hchar
    simp only [Bool.or_eq_true, Bool.and_eq_true, decide_eq_true_eq, ge_iff_le,
      UInt32.le_iff_toNat_le] at hchar
    have hval : c.toNat = c.val.toNat := rfl
    have hdigit : '0'.val.toNat = 48 ∧ '9'.val.toNat = 57 := ⟨rfl, rfl⟩
    have hupper : 'A'.val.toNat = 65 ∧ 'Z'.val.toNat = 90 := ⟨rfl, rfl⟩
    have hlower : 'a'.val.toNat = 97 ∧ 'z'.val.toNat = 122 := ⟨rfl, rfl⟩
    simp only [isControl, hval, Bool.or_eq_false_iff, Bool.and_eq_false_imp, decide_eq_true_eq,
      decide_eq_false_iff_not]
    omega
  · rfl
  · rfl

structure NodeId where
  value : String
  valid : NodeId.Valid value
deriving DecidableEq

/-- `NodeId::from_str`. -/
def NodeId.fromStr (value : String) : Option NodeId :=
  if h : NodeId.Valid value then some ⟨value, h⟩ else none

/-- What `RuntimeHostId::new` accepts. -/
def RuntimeHostId.Valid (value : String) : Prop :=
  value ≠ "" ∧ value.utf8ByteSize ≤ 128 ∧ value.toList.all fun c => !isControl c

instance (value : String) : Decidable (RuntimeHostId.Valid value) :=
  inferInstanceAs (Decidable (_ ∧ _))

structure RuntimeHostId where
  value : String
  valid : RuntimeHostId.Valid value
deriving DecidableEq

/-- `RuntimeHostId::new`. -/
def RuntimeHostId.new (value : String) : Option RuntimeHostId :=
  if h : RuntimeHostId.Valid value then some ⟨value, h⟩ else none

structure NodeIncarnation where
  uuid : Uuid
deriving DecidableEq, Repr

structure RuntimeHostEpoch where
  uuid : Uuid
deriving DecidableEq, Repr

end Paraegox
