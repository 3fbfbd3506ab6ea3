import Mathlib.Data.Finset.Insert
import Mathlib.Data.List.Lex
import Mathlib.Data.List.Sort
import Paraegox.Deck.Digest
import Paraegox.Lib.Except
import Paraegox.Text.Unicode

/-!
# Deck compilation

`DeckCompiler::compile` checks, resolves and copies the Cards of a specification
in one loop, sorts them and seals them with their digest.

The sort of the source is unstable: it may leave Cards with equal keys in any
order.  It is a parameter here, any function that permutes its input into order.
What the loop has gathered is a `Resolution`, whose keys are distinct.
-/

namespace Paraegox.Deck

def MAX_CARDS_PER_DECK : Nat := 64
def MAX_DECK_KEY_BYTES : Nat := 128
def MAX_CARD_KEY_BYTES : Nat := 128
def MAX_DEFINITION_REF_BYTES : Nat := 256

/-- One named use of an exact Card definition in a Deck. -/
structure Card where
  key : CardKey
  definition : CardDefinitionRef
deriving DecidableEq, Repr

/-- A declarative Deck workload before exact validation and resolution. -/
structure DeckSpec where
  key : DeckKey
  cards : List Card
deriving DecidableEq, Repr

/-- A validation or exact-resolution failure while compiling a Deck. -/
inductive DeckCompileError where
  | emptyDeck
  | tooManyCards (actual maximum : Nat)
  | invalidField (field reason : String)
  | duplicateCardKey (key : CardKey)
  | unknownDefinition (card : CardKey) (definition : CardDefinitionRef)
deriving DecidableEq, Repr

/-! ## Fields -/

/-- `validate_field`. -/
def validateField (field value : String) (maximumBytes : Nat) : Except DeckCompileError Unit :=
  if value = "" then .error (.invalidField field "must not be empty")
  else if trim value.toList ≠ value.toList then
    .error (.invalidField field "must not have leading or trailing whitespace")
  else if value.toList.any isControl then
    .error (.invalidField field "must not contain control characters")
  else if maximumBytes < value.utf8ByteSize then .error (.invalidField field "is too long")
  else .ok ()

/-- A field that passes its check. -/
structure ValidField (value : String) (maximumBytes : Nat) : Prop where
  nonempty : value ≠ ""
  trimmed : trim value.toList = value.toList
  plain : ∀ c ∈ value.toList, isControl c = false
  bounded : value.utf8ByteSize ≤ maximumBytes

theorem validateField_ok {field value : String} {maximumBytes : Nat} :
    validateField field value maximumBytes = .ok () ↔ ValidField value maximumBytes := by
  rw [validateField]
  split_ifs with hempty htrim hcontrol hlong
  · exact ⟨nofun, fun h => absurd hempty h.nonempty⟩
  · exact ⟨nofun, fun h => absurd h.trimmed htrim⟩
  · obtain ⟨c, hc, hctl⟩ := List.any_eq_true.mp hcontrol
    refine ⟨nofun, fun h => ?_⟩
    rw [h.plain c hc] at hctl
    cases hctl
  · exact ⟨nofun, fun h => absurd h.bounded (Nat.not_le.mpr hlong)⟩
  · refine ⟨fun _ => ⟨hempty, not_not.mp htrim, ?_, Nat.le_of_not_lt hlong⟩, fun _ => rfl⟩
    simpa using hcontrol

/-! ## The compiler -/

/-- Only `DeckCompiler::new` builds one, from definitions it checked. -/
structure DeckCompiler where
  definitions : Finset CardDefinitionRef
  valid : ∀ d ∈ definitions, ValidField d.value MAX_DEFINITION_REF_BYTES

/-- The compiler that accepts one more definition. -/
def DeckCompiler.accept (compiler : DeckCompiler) (d : CardDefinitionRef)
    (h : ValidField d.value MAX_DEFINITION_REF_BYTES) : DeckCompiler where
  definitions := insert d compiler.definitions
  valid d' hd' := (Finset.mem_insert.mp hd').elim (fun heq => heq ▸ h) (compiler.valid d')

/-- The loop of `DeckCompiler::new`, from the definition at `index` on. -/
def DeckCompiler.acceptAll (accepted : DeckCompiler) (index : Nat) :
    List CardDefinitionRef → Except DeckCompileError DeckCompiler
  | [] => .ok accepted
  | d :: rest =>
      match h : validateField s!"definitions[{index}]" d.value MAX_DEFINITION_REF_BYTES with
      | .error error => .error error
      | .ok () => (accepted.accept d (validateField_ok.mp h)).acceptAll (index + 1) rest

/-- `DeckCompiler::new`. -/
def DeckCompiler.new (definitions : List CardDefinitionRef) :
    Except DeckCompileError DeckCompiler :=
  DeckCompiler.acceptAll ⟨∅, by simp⟩ 0 definitions

theorem DeckCompiler.mem_acceptAll {definitions : List CardDefinitionRef}
    {accepted compiler : DeckCompiler} {index : Nat}
    (h : accepted.acceptAll index definitions = .ok compiler) (d : CardDefinitionRef) :
    d ∈ compiler.definitions ↔ d ∈ accepted.definitions ∨ d ∈ definitions := by
  induction definitions generalizing accepted index with
  | nil =>
      cases h
      simp
  | cons d' rest ih =>
      rw [acceptAll] at h
      split at h
      · cases h
      · rw [ih h, accept, Finset.mem_insert, List.mem_cons, or_comm (a := d = d'), or_assoc]

/-- A compiler accepts the definitions that were supplied to it, and no others. -/
theorem DeckCompiler.mem_new {definitions : List CardDefinitionRef} {compiler : DeckCompiler}
    (h : DeckCompiler.new definitions = .ok compiler) (d : CardDefinitionRef) :
    d ∈ compiler.definitions ↔ d ∈ definitions := by
  rw [mem_acceptAll h]
  simp

/-! ## Compilation -/

/-- The bytes of a key, by which keys compare. -/
def CardKey.bytes (key : CardKey) : List Nat := (utf8 key.value).map UInt8.toNat

theorem CardKey.bytes_injective : Function.Injective CardKey.bytes := by
  rintro ⟨key⟩ ⟨key'⟩ h
  have hbytes : utf8 key = utf8 key' :=
    List.map_injective_iff.mpr (fun _ _ => UInt8.toNat_inj.mp) h
  exact congrArg CardKey.mk (utf8_injective hbytes)

/-- `Ord` of a key: that of its text. -/
instance : LinearOrder CardKey := LinearOrder.lift' CardKey.bytes CardKey.bytes_injective

/-- `sort_unstable_by` on the keys of Cards. -/
structure CardSort where
  sort : List ResolvedCard → List ResolvedCard
  perm : ∀ cards, (sort cards).Perm cards
  sorted : ∀ cards, (sort cards).Pairwise fun a b => a.key ≤ b.key

/-- A Card as the lock holds it. -/
def Card.resolved (card : Card) : ResolvedCard := ⟨card.key, card.definition⟩

/-- A sort of this kind. -/
def CardSort.insertion : CardSort where
  sort := List.insertionSort fun a b => a.key ≤ b.key
  perm := List.perm_insertionSort _
  sorted cards := by
    have : Std.Total fun a b : ResolvedCard => a.key ≤ b.key := ⟨fun a b => le_total a.key b.key⟩
    have : IsTrans ResolvedCard fun a b => a.key ≤ b.key := ⟨fun _ _ _ => le_trans⟩
    exact List.pairwise_insertionSort _ cards

/-- The Cards resolved so far, with the set of their keys. -/
structure Resolution where
  cardKeys : Finset CardKey
  cards : List ResolvedCard
  keys : ∀ key, key ∈ cardKeys ↔ key ∈ cards.map ResolvedCard.key
  distinct : (cards.map ResolvedCard.key).Nodup

def Resolution.empty : Resolution where
  cardKeys := ∅
  cards := []
  keys := by simp
  distinct := List.nodup_nil

/-- A Card with a new key joins at the end. -/
def Resolution.push (r : Resolution) (card : Card) (h : card.key ∉ r.cardKeys) : Resolution where
  cardKeys := insert card.key r.cardKeys
  cards := r.cards ++ [card.resolved]
  keys key := by simp [r.keys, Card.resolved, or_comm]
  distinct := by
    have hnew : card.key ∉ r.cards.map ResolvedCard.key := fun hm => h ((r.keys _).mpr hm)
    rw [List.map_append]
    exact List.nodup_append.mpr ⟨r.distinct, by simp, fun a ha b hb heq =>
      hnew (by simpa [heq, List.mem_singleton.mp hb, Card.resolved] using ha)⟩

/-- The loop of `compile`, from the Card at `index` on. -/
def DeckCompiler.resolve (compiler : DeckCompiler) (r : Resolution) (index : Nat) :
    List Card → Except DeckCompileError Resolution
  | [] => .ok r
  | card :: rest => do
      validateField s!"DeckSpec.cards[{index}].key" card.key.value MAX_CARD_KEY_BYTES
      validateField s!"DeckSpec.cards[{index}].definition" card.definition.value
        MAX_DEFINITION_REF_BYTES
      if h : card.key ∈ r.cardKeys then .error (.duplicateCardKey card.key)
      else if card.definition ∉ compiler.definitions then
        .error (.unknownDefinition card.key card.definition)
      else compiler.resolve (r.push card h) (index + 1) rest

/-- The lock of a Deck whose Cards are resolved. -/
def Resolution.lock (r : Resolution) (sha256 : List UInt8 → List UInt8) (sort : CardSort)
    (key : DeckKey) : DeckLock where
  key := key
  cards := sort.sort r.cards
  digest := deckDigest sha256 key (sort.sort r.cards)
  keysDistinct := ((sort.perm r.cards).map ResolvedCard.key).nodup_iff.mpr r.distinct

/-- `DeckCompiler::compile`. -/
def DeckCompiler.compile (sha256 : List UInt8 → List UInt8) (sort : CardSort)
    (compiler : DeckCompiler) (spec : DeckSpec) : Except DeckCompileError DeckLock := do
  validateField "DeckSpec.key" spec.key.value MAX_DECK_KEY_BYTES
  if spec.cards.isEmpty then .error .emptyDeck
  else if MAX_CARDS_PER_DECK < spec.cards.length then
    .error (.tooManyCards spec.cards.length MAX_CARDS_PER_DECK)
  else
    let r ← compiler.resolve .empty 0 spec.cards
    .ok (r.lock sha256 sort spec.key)

/-! ## What is accepted -/

/-- A Card passes its checks. -/
structure Card.Acceptable (card : Card) (compiler : DeckCompiler) : Prop where
  key : ValidField card.key.value MAX_CARD_KEY_BYTES
  definition : ValidField card.definition.value MAX_DEFINITION_REF_BYTES
  supplied : card.definition ∈ compiler.definitions

/-- A specification the compiler has nothing to say against. -/
structure DeckSpec.Valid (spec : DeckSpec) (compiler : DeckCompiler) : Prop where
  key : ValidField spec.key.value MAX_DECK_KEY_BYTES
  nonempty : 1 ≤ spec.cards.length
  bounded : spec.cards.length ≤ MAX_CARDS_PER_DECK
  cards : ∀ card ∈ spec.cards, card.Acceptable compiler
  distinct : (spec.cards.map Card.key).Nodup

/-- The set of keys is that of the Cards. -/
theorem Resolution.ext_cards {r r' : Resolution} (h : r.cards = r'.cards) : r = r' := by
  obtain ⟨cardKeys, cards, keys, distinct⟩ := r
  obtain ⟨cardKeys', cards', keys', distinct'⟩ := r'
  cases h
  have hkeys : cardKeys = cardKeys' := Finset.ext fun key => (keys key).trans (keys' key).symm
  cases hkeys
  rfl

/-- One Card of the loop. -/
theorem DeckCompiler.resolve_cons {compiler : DeckCompiler} {r r' : Resolution} {index : Nat}
    {card : Card} {rest : List Card} :
    compiler.resolve r index (card :: rest) = .ok r' ↔
      card.Acceptable compiler ∧
        ∃ h : card.key ∉ r.cardKeys,
          compiler.resolve (r.push card h) (index + 1) rest = .ok r' := by
  rw [resolve]
  constructor
  · intro h
    obtain ⟨_, hkey, h⟩ := Except.ok_of_bind h
    obtain ⟨_, hdef, h⟩ := Except.ok_of_bind h
    split_ifs at h with hdup hunknown
    exact ⟨⟨validateField_ok.mp hkey, validateField_ok.mp hdef, hunknown⟩, hdup, h⟩
  · rintro ⟨hcard, hnew, h⟩
    rw [validateField_ok.mpr hcard.key, validateField_ok.mpr hcard.definition, Except.ok_bind,
      Except.ok_bind, dif_neg hnew, if_neg (not_not.mpr hcard.supplied)]
    exact h

/-- The loop succeeds on acceptable Cards with new, distinct keys, and keeps them all. -/
theorem DeckCompiler.resolve_ok {compiler : DeckCompiler} {cards : List Card}
    {r r' : Resolution} {index : Nat} :
    compiler.resolve r index cards = .ok r' ↔
      (∀ card ∈ cards, card.Acceptable compiler ∧ card.key ∉ r.cardKeys) ∧
        (cards.map Card.key).Nodup ∧ r'.cards = r.cards ++ cards.map Card.resolved := by
  induction cards generalizing r index with
  | nil =>
      rw [resolve, Except.ok.injEq]
      constructor
      · rintro rfl
        simp
      · rintro ⟨-, -, hcards⟩
        exact Resolution.ext_cards (by simpa using hcards.symm)
  | cons card rest ih =>
      rw [resolve_cons]
      constructor
      · rintro ⟨hcard, hnew, hrest⟩
        obtain ⟨hall, hnodup, hcards⟩ := ih.mp hrest
        have hfresh : ∀ card' ∈ rest, card'.key ≠ card.key ∧ card'.key ∉ r.cardKeys := by
          intro card' hmem
          simpa [Resolution.push] using (hall card' hmem).2
        refine ⟨fun card' hmem => ?_, ?_, ?_⟩
        · rcases List.mem_cons.mp hmem with rfl | hmem
          · exact ⟨hcard, hnew⟩
          · exact ⟨(hall card' hmem).1, (hfresh card' hmem).2⟩
        · rw [List.map_cons, List.nodup_cons]
          refine ⟨fun hmem => ?_, hnodup⟩
          obtain ⟨card', hmem', heq⟩ := List.mem_map.mp hmem
          exact (hfresh card' hmem').1 heq
        · simpa [Resolution.push] using hcards
      · rintro ⟨hall, hnodup, hcards⟩
        obtain ⟨hcard, hnew⟩ := hall card List.mem_cons_self
        rw [List.map_cons, List.nodup_cons] at hnodup
        refine ⟨hcard, hnew, ih.mpr ⟨fun card' hmem => ?_, hnodup.2, ?_⟩⟩
        · obtain ⟨hcard', hnew'⟩ := hall card' (List.mem_cons_of_mem _ hmem)
          have hne : card'.key ≠ card.key := fun heq =>
            hnodup.1 (heq ▸ List.mem_map_of_mem hmem)
          exact ⟨hcard', by simp [Resolution.push, hne, hnew']⟩
        · simpa [Resolution.push] using hcards

section

variable (sha256 : List UInt8 → List UInt8) (sort : CardSort)

/-- What `compile` returns: the sealed Cards of a valid specification. -/
theorem DeckCompiler.compile_ok {compiler : DeckCompiler} {spec : DeckSpec} {lock : DeckLock} :
    compiler.compile sha256 sort spec = .ok lock ↔
      spec.Valid compiler ∧ ∃ r : Resolution, r.cards = spec.cards.map Card.resolved ∧
        lock = r.lock sha256 sort spec.key := by
  rw [compile]
  constructor
  · intro h
    obtain ⟨_, hkey, h⟩ := Except.ok_of_bind h
    split_ifs at h with hempty hlong
    obtain ⟨r, hr, h⟩ := Except.ok_of_bind h
    obtain ⟨hall, hnodup, hcards⟩ := resolve_ok.mp hr
    cases h
    refine ⟨⟨validateField_ok.mp hkey, ?_, Nat.le_of_not_lt hlong, fun card hc => (hall card hc).1,
      hnodup⟩, r, by simpa [Resolution.empty] using hcards, rfl⟩
    rw [List.isEmpty_iff] at hempty
    exact List.length_pos_iff.mpr hempty
  · rintro ⟨hvalid, r, hcards, rfl⟩
    have hempty : ¬ spec.cards.isEmpty = true := by
      rw [List.isEmpty_iff]
      exact List.length_pos_iff.mp hvalid.nonempty
    have hr : compiler.resolve .empty 0 spec.cards = .ok r :=
      resolve_ok.mpr ⟨fun card hc => ⟨hvalid.cards card hc, by simp [Resolution.empty]⟩,
        hvalid.distinct, by simpa [Resolution.empty] using hcards⟩
    rw [validateField_ok.mpr hvalid.key, Except.ok_bind, if_neg hempty,
      if_neg (Nat.not_lt.mpr hvalid.bounded), hr]
    rfl

/-- A valid specification compiles. -/
theorem DeckSpec.Valid.compile {compiler : DeckCompiler} {spec : DeckSpec}
    (h : spec.Valid compiler) : ∃ lock, compiler.compile sha256 sort spec = .ok lock := by
  have hkeys : ((spec.cards.map Card.resolved).map ResolvedCard.key).Nodup := by
    rw [List.map_map]
    exact h.distinct
  let r : Resolution :=
    ⟨((spec.cards.map Card.resolved).map ResolvedCard.key).toFinset, spec.cards.map Card.resolved,
      fun _ => List.mem_toFinset, hkeys⟩
  exact ⟨_, (DeckCompiler.compile_ok sha256 sort).mpr ⟨h, r, rfl, rfl⟩⟩

variable {sha256 sort}

/-- A compiled lock seals its own Cards. -/
theorem DeckCompiler.compile_digest {compiler : DeckCompiler} {spec : DeckSpec} {lock : DeckLock}
    (h : compiler.compile sha256 sort spec = .ok lock) :
    lock.digest = deckDigest sha256 lock.key lock.cards := by
  obtain ⟨-, r, -, rfl⟩ := (compile_ok sha256 sort).mp h
  rfl

/-- The lock holds the Cards of the specification, in strictly increasing key order. -/
theorem DeckCompiler.compile_cards {compiler : DeckCompiler} {spec : DeckSpec} {lock : DeckLock}
    (h : compiler.compile sha256 sort spec = .ok lock) :
    lock.key = spec.key ∧ lock.cards.Perm (spec.cards.map Card.resolved) ∧
      lock.cards.Pairwise fun a b => a.key < b.key := by
  obtain ⟨-, r, hcards, rfl⟩ := (compile_ok sha256 sort).mp h
  refine ⟨rfl, hcards ▸ sort.perm r.cards, ?_⟩
  have hdistinct := List.pairwise_map.mp (r.lock sha256 sort spec.key).keysDistinct
  exact (hdistinct.and (sort.sorted r.cards)).imp fun h => lt_of_le_of_ne h.2 h.1

theorem DeckLock.ext {lock lock' : DeckLock} (hkey : lock.key = lock'.key)
    (hcards : lock.cards = lock'.cards) (hdigest : lock.digest = lock'.digest) :
    lock = lock' := by
  obtain ⟨key, cards, digest, distinct⟩ := lock
  obtain ⟨key', cards', digest', distinct'⟩ := lock'
  cases hkey
  cases hcards
  cases hdigest
  rfl

theorem DeckSpec.Valid.perm {compiler : DeckCompiler} {spec spec' : DeckSpec}
    (h : spec.Valid compiler) (hkey : spec'.key = spec.key) (hp : spec'.cards.Perm spec.cards) :
    spec'.Valid compiler where
  key := hkey ▸ h.key
  nonempty := hp.length_eq ▸ h.nonempty
  bounded := hp.length_eq ▸ h.bounded
  cards card hc := h.cards card (hp.mem_iff.mp hc)
  distinct := (hp.map Card.key).nodup_iff.mpr h.distinct

/-- The order of the Cards and the sort that is used do not show in the lock. -/
theorem DeckCompiler.compile_perm {sort' : CardSort} {compiler : DeckCompiler}
    {spec spec' : DeckSpec} {lock : DeckLock} (hkey : spec'.key = spec.key)
    (hp : spec'.cards.Perm spec.cards) (h : compiler.compile sha256 sort spec = .ok lock) :
    compiler.compile sha256 sort' spec' = .ok lock := by
  have hvalid := ((compile_ok sha256 sort).mp h).1.perm hkey hp
  obtain ⟨lock', h'⟩ := hvalid.compile sha256 sort'
  obtain ⟨hk, hc, hs⟩ := compile_cards h
  obtain ⟨hk', hc', hs'⟩ := compile_cards h'
  have hcards : lock'.cards = lock.cards := by
    have hperm := hc'.trans ((hp.map Card.resolved).trans hc.symm)
    exact hperm.eq_of_pairwise (fun a b _ _ hab hba => absurd hab (lt_asymm hba)) hs' hs
  have heq : lock' = lock := by
    refine DeckLock.ext (hk'.trans (hkey.trans hk.symm)) hcards ?_
    rw [compile_digest h, compile_digest h', hcards, hk, hk', hkey]
  rw [h', heq]

end

/-- `compile` accepts exactly the valid specifications, seals exactly their Cards in key
order, and does not see in which order they were given. -/
theorem DeckCompiler.compile_exact (sha256 : List UInt8 → List UInt8) (sort : CardSort)
    (compiler : DeckCompiler) (spec : DeckSpec) :
    ((∃ lock, compiler.compile sha256 sort spec = .ok lock) ↔ spec.Valid compiler) ∧
    (∀ lock, compiler.compile sha256 sort spec = .ok lock →
      lock.key = spec.key ∧ lock.cards.Perm (spec.cards.map Card.resolved) ∧
        lock.cards.Pairwise fun a b => a.key < b.key) ∧
    (∀ sort' spec', spec'.key = spec.key → spec'.cards.Perm spec.cards → ∀ lock,
      compiler.compile sha256 sort' spec' = .ok lock ↔
        compiler.compile sha256 sort spec = .ok lock) ∧
    ∀ definitions, DeckCompiler.new definitions = .ok compiler →
      ∀ d, d ∈ compiler.definitions ↔ d ∈ definitions := by
  refine ⟨⟨fun ⟨lock, h⟩ => ((compile_ok sha256 sort).mp h).1, fun h => h.compile sha256 sort⟩,
    fun lock => compile_cards, fun sort' spec' hkey hp lock => ⟨fun h => ?_, fun h => ?_⟩,
    fun definitions => mem_new⟩
  · exact compile_perm hkey.symm hp.symm h
  · exact compile_perm hkey hp h

/-! ## What the digest identifies -/

theorem DeckCompiler.compile_addressable {sha256 : List UInt8 → List UInt8} {sort : CardSort}
    {compiler : DeckCompiler} {spec : DeckSpec} {lock : DeckLock}
    (h : compiler.compile sha256 sort spec = .ok lock) : Addressable lock.key lock.cards := by
  have hvalid := ((compile_ok sha256 sort).mp h).1
  obtain ⟨hkey, hcards, -⟩ := compile_cards h
  refine ⟨?_, ?_, fun card hc => ?_⟩
  · rw [hkey]
    exact hvalid.key.bounded.trans_lt (by decide)
  · rw [hcards.length_eq, List.length_map]
    exact hvalid.bounded.trans_lt (by decide)
  · obtain ⟨card', hc', rfl⟩ := List.mem_map.mp (hcards.mem_iff.mp hc)
    obtain ⟨hk, hd, -⟩ := hvalid.cards card' hc'
    exact ⟨hk.bounded.trans_lt (by decide), hd.bounded.trans_lt (by decide)⟩

/-- With SHA-256 taken to be injective the digest of a compiled lock identifies it: what the
hasher is fed determines the Deck, and the hexadecimal text determines the hash. -/
theorem DeckCompiler.digest_identifies {sha256 : List UInt8 → List UInt8}
    (hsha256 : Function.Injective sha256) :
    (∀ sort sort' compiler compiler' spec spec' lock lock',
      DeckCompiler.compile sha256 sort compiler spec = .ok lock →
      DeckCompiler.compile sha256 sort' compiler' spec' = .ok lock' →
      (lock.digest = lock'.digest ↔ lock.key = lock'.key ∧ lock.cards = lock'.cards)) ∧
    (∀ key key' cards cards', Addressable key cards → Addressable key' cards' →
      (digestInput key cards = digestInput key' cards' ↔ key = key' ∧ cards = cards')) ∧
    Function.Injective hexText := by
  refine ⟨?_, fun _ _ _ _ h h' => digestInput_inj h h', hexText_injective⟩
  intro sort sort' compiler compiler' spec spec' lock lock' h h'
  rw [compile_digest h, compile_digest h',
    ← digestInput_inj (compile_addressable h) (compile_addressable h')]
  exact ⟨fun heq => hsha256 (hexText_injective heq), congrArg fun bytes => hexText (sha256 bytes)⟩

/-- Two Decks that differ in where the key of a Card ends. -/
def shiftedSpecs : DeckSpec × DeckSpec :=
  (⟨⟨"d"⟩, [⟨⟨"ab"⟩, ⟨"c"⟩⟩]⟩, ⟨⟨"d"⟩, [⟨⟨"a"⟩, ⟨"bc"⟩⟩]⟩)

/-- SHA-256 on these two Decks, continued without collisions. -/
def shiftedSha256 (bytes : List UInt8) : List UInt8 :=
  if bytes = digestInput shiftedSpecs.1.key (shiftedSpecs.1.cards.map Card.resolved) then
    [196, 196, 24, 127, 102, 183, 52, 130, 97, 201, 218, 50, 145, 174, 202, 169, 95, 13, 255, 73,
      15, 224, 64, 120, 26, 163, 57, 212, 47, 152, 111, 170]
  else if bytes = digestInput shiftedSpecs.2.key (shiftedSpecs.2.cards.map Card.resolved) then
    [19, 96, 6, 221, 143, 220, 110, 8, 89, 165, 158, 186, 122, 182, 176, 100, 95, 146, 135, 0,
      224, 90, 107, 156, 238, 206, 123, 58, 91, 49, 214, 167]
  else List.replicate 33 0 ++ bytes

theorem shiftedSha256_injective : Function.Injective shiftedSha256 := by
  intro a b h
  simp only [shiftedSha256] at h
  split_ifs at h with h₁ h₂ h₃ h₄ h₅ h₆
  · rw [h₁, h₂]
  · exact absurd h (by decide)
  · exact absurd (congrArg List.length h) (by simp)
  · exact absurd h (by decide)
  · rw [h₄, h₆]
  · exact absurd (congrArg List.length h) (by simp)
  · exact absurd (congrArg List.length h) (by simp)
  · exact absurd (congrArg List.length h) (by simp)
  · exact List.append_cancel_left h

/-- The two Decks compile, and their digests differ. -/
theorem DeckCompiler.digest_identifies_shifted :
    ∃ compiler lock lock',
      DeckCompiler.compile shiftedSha256 .insertion compiler shiftedSpecs.1 = .ok lock ∧
      DeckCompiler.compile shiftedSha256 .insertion compiler shiftedSpecs.2 = .ok lock' ∧
      lock.digest ≠ lock'.digest := by
  have hfield : ∀ bytes ≥ 8, ∀ s ∈ ["ab", "c", "a", "bc", "d"], ValidField s bytes := by
    intro bytes hbytes s hs
    have hshort : validateField "" s 8 = .ok () := by
      revert s
      decide
    have h := validateField_ok.mp hshort
    exact ⟨h.nonempty, h.trimmed, h.plain, h.bounded.trans hbytes⟩
  let compiler : DeckCompiler :=
    ⟨{⟨"c"⟩, ⟨"bc"⟩}, by
      simp only [Finset.mem_insert, Finset.mem_singleton, forall_eq_or_imp, forall_eq]
      exact ⟨hfield _ (by decide) _ (by simp), hfield _ (by decide) _ (by simp)⟩⟩
  have hcard : ∀ key definition, key ∈ ["ab", "a"] → definition ∈ ["c", "bc"] →
      DeckSpec.Valid ⟨⟨"d"⟩, [⟨⟨key⟩, ⟨definition⟩⟩]⟩ compiler := by
    intro key definition hkey hdef
    refine ⟨hfield _ (by decide) _ (by simp), le_rfl, Nat.succ_le_of_lt (by decide : 0 < 64), ?_,
      by simp⟩
    simp only [List.mem_singleton, forall_eq]
    refine ⟨hfield _ (by decide) _ ?_, hfield _ (by decide) _ ?_, ?_⟩
    · simp only [List.mem_cons] at hkey ⊢
      tauto
    · simp only [List.mem_cons] at hdef ⊢
      tauto
    · simpa [compiler] using hdef
  obtain ⟨lock, h⟩ := (hcard "ab" "c" (by simp) (by simp)).compile shiftedSha256 .insertion
  obtain ⟨lock', h'⟩ := (hcard "a" "bc" (by simp) (by simp)).compile shiftedSha256 .insertion
  refine ⟨compiler, lock, lock', h, h', fun heq => ?_⟩
  have hids := DeckCompiler.digest_identifies shiftedSha256_injective
  obtain ⟨-, hcards⟩ := (hids.1 _ _ _ _ _ _ _ _ h h').mp heq
  have hperm := (compile_cards h).2.1.symm.trans (hcards ▸ (compile_cards h').2.1)
  exact absurd (List.perm_singleton.mp hperm) (by decide)

end Paraegox.Deck
