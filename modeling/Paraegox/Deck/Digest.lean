import Paraegox.Deck.Lock
import Paraegox.Lib.PrefixCode
import Paraegox.Text.Utf8

/-!
# The digest of a Deck

`deck_digest` feeds one byte string to SHA-256, field by field, and writes the
hash in hexadecimal.  The hash function comes from another crate, so it is a
parameter: a function from bytes to bytes, which the streaming interface computes
on everything it was fed.

The byte string is a prefix code of the Deck key and the Cards, whatever text
they hold.
-/

namespace Paraegox.Deck

/-- `DIGEST_DOMAIN`. -/
def DIGEST_DOMAIN : List UInt8 := utf8 "paraegox.deck-lock\x00"

/-- `u64::to_be_bytes` of a length. -/
def lengthBytes (n : Nat) : List UInt8 := bigEndian 8 n

/-- `update_digest_field`: the bytes it feeds to the hasher. -/
def updateDigestField (value : String) : List UInt8 :=
  lengthBytes value.utf8ByteSize ++ utf8 value

/-- What the hasher is fed for one Card. -/
def cardBytes (card : ResolvedCard) : List UInt8 :=
  updateDigestField card.key.value ++ updateDigestField card.definition.value

/-- Everything `deck_digest` feeds to the hasher. -/
def digestInput (key : DeckKey) (cards : List ResolvedCard) : List UInt8 :=
  DIGEST_DOMAIN ++ (updateDigestField key.value ++
    (lengthBytes cards.length ++ cards.flatMap cardBytes))

/-- `{byte:02x}`. -/
def hexByte (byte : UInt8) : List Char :=
  [Nat.digitChar (byte.toNat / 16), Nat.digitChar (byte.toNat % 16)]

/-- The hexadecimal text of a hash. -/
def hexText (bytes : List UInt8) : String := String.ofList (bytes.flatMap hexByte)

/-- `deck_digest`. -/
def deckDigest (sha256 : List UInt8 → List UInt8) (key : DeckKey) (cards : List ResolvedCard) :
    String :=
  hexText (sha256 (digestInput key cards))

/-! ## Nothing is lost -/

/-- A length the digest can tell from every other: `usize` holds no larger one. -/
def Lengths : Set Nat := Set.Iio (256 ^ 8)

/-- The lengths of a Deck fit the machine word they are written in. -/
structure Addressable (key : DeckKey) (cards : List ResolvedCard) : Prop where
  key : key.value.utf8ByteSize ∈ Lengths
  count : cards.length ∈ Lengths
  fields : ∀ card ∈ cards,
    card.key.value.utf8ByteSize ∈ Lengths ∧ card.definition.value.utf8ByteSize ∈ Lengths

theorem lengthBytes_prefixCode : PrefixCode Lengths lengthBytes := bigEndian_prefixCode 8

theorem updateDigestField_prefixCode :
    PrefixCode {s : String | s.utf8ByteSize ∈ Lengths} updateDigestField :=
  lengthBytes_prefixCode.lengthPrefixed.comap (f := utf8) (fun _ hs => hs) utf8_injective.injOn

/-- The two fields of a Card. -/
def ResolvedCard.fields (card : ResolvedCard) : String × String :=
  (card.key.value, card.definition.value)

theorem ResolvedCard.fields_injective : Function.Injective ResolvedCard.fields := by
  rintro ⟨⟨key⟩, ⟨definition⟩⟩ ⟨⟨key'⟩, ⟨definition'⟩⟩ h
  cases h
  rfl

theorem cardBytes_prefixCode :
    PrefixCode {card : ResolvedCard | card.key.value.utf8ByteSize ∈ Lengths ∧
      card.definition.value.utf8ByteSize ∈ Lengths} cardBytes :=
  (updateDigestField_prefixCode.prod updateDigestField_prefixCode).comap
    (f := ResolvedCard.fields) (fun _ hc => hc) ResolvedCard.fields_injective.injOn

/-- The bytes fed to the hasher determine the Deck. -/
theorem digestInput_inj {key key' : DeckKey} {cards cards' : List ResolvedCard}
    (h : Addressable key cards) (h' : Addressable key' cards') :
    digestInput key cards = digestInput key' cards' ↔ key = key' ∧ cards = cards' := by
  constructor
  · intro heq
    have hrest := List.append_cancel_left heq
    obtain ⟨hkey, hcards⟩ := updateDigestField_prefixCode _ h.key _ h'.key _ _ hrest
    have hcode := lengthBytes_prefixCode.counted cardBytes_prefixCode
    have hlist := hcode.injOn ⟨h.count, h.fields⟩ ⟨h'.count, h'.fields⟩ hcards
    exact ⟨congrArg DeckKey.mk hkey, hlist⟩
  · rintro ⟨rfl, rfl⟩
    rfl

theorem hexByte_injective : Function.Injective hexByte := by
  have hdigit : ∀ m < 16, ∀ n < 16, Nat.digitChar m = Nat.digitChar n → m = n := by decide
  intro a b h
  have ha := a.toNat_lt
  have hb := b.toNat_lt
  simp only [hexByte, List.cons.injEq, and_true] at h
  have hhigh := hdigit _ (by omega) _ (by omega) h.1
  have hlow := hdigit _ (by omega) _ (by omega) h.2
  exact UInt8.toNat_inj.mp (by omega)

/-- The hexadecimal text determines the hash. -/
theorem hexText_injective : Function.Injective hexText := by
  have hcode : PrefixCode Set.univ hexByte :=
    .of_length (n := 2) (fun _ _ => rfl) hexByte_injective.injOn
  intro a b h
  exact hcode.flatMap_injective Nat.two_pos (fun _ => rfl) (String.ofList_injective h)

end Paraegox.Deck
