import Paraegox.Runtime.Status

/-!
# A Deck and its implementations

An implementation is what the host can observe of it: the Card it claims to be,
and how its start and its stop end under the host's deadline.
-/

namespace Paraegox.Runtime

open Deck (CardDefinitionRef CardKey DeckLock ResolvedCard)

/-- A boxed error, by its text. -/
structure BoxError where
  message : String
deriving DecidableEq, Repr

/-- How `timeout(deadline, future).await` ends. -/
inductive Completion where
  | ok
  | failed (source : BoxError)
  | elapsed
deriving DecidableEq, Repr

/-- The immutable identity and runtime-owned instance context for one Card start. -/
structure CardContext where
  cardInstanceId : CardInstanceId
  cardKey : CardKey
  definition : CardDefinitionRef
deriving DecidableEq, Repr

structure CardImplementation where
  cardKey : CardKey
  definition : CardDefinitionRef
  start : CardContext → Completion
  stop : Completion

/-- The implementation is for this Card. -/
def CardImplementation.implements (implementation : CardImplementation) (card : ResolvedCard) :
    Prop :=
  implementation.cardKey = card.key ∧ implementation.definition = card.definition

instance (implementation : CardImplementation) (card : ResolvedCard) :
    Decidable (implementation.implements card) :=
  inferInstanceAs (Decidable (_ ∧ _))

inductive DeckLaunchError where
  | implementationCount (expected actual : Nat)
  | implementationMismatch (index : Nat) (expectedKey : CardKey)
      (expectedDefinition : CardDefinitionRef) (actualKey : CardKey)
      (actualDefinition : CardDefinitionRef)
deriving DecidableEq, Repr

/-- A validated, construction-time Deck workload and its exact implementations. -/
structure DeckLaunch where
  lock : DeckLock
  implementations : List CardImplementation
  implemented : List.Forall₂ (fun card implementation => implementation.implements card)
    lock.cards implementations

/-- The loop of `DeckLaunch::new`: the first position that does not match. -/
def mismatch? : Nat → List ResolvedCard → List CardImplementation → Option DeckLaunchError
  | index, card :: cards, implementation :: implementations =>
      if implementation.implements card then mismatch? (index + 1) cards implementations
      else some (.implementationMismatch index card.key card.definition implementation.cardKey
        implementation.definition)
  | _, _, _ => none

theorem implemented_of_no_mismatch {index : Nat} {cards : List ResolvedCard}
    {implementations : List CardImplementation} (hlen : implementations.length = cards.length)
    (h : mismatch? index cards implementations = none) :
    List.Forall₂ (fun card implementation => implementation.implements card) cards
      implementations := by
  induction cards generalizing index implementations with
  | nil =>
      cases implementations with
      | nil => exact .nil
      | cons _ _ => cases hlen
  | cons card cards ih =>
      cases implementations with
      | nil => cases hlen
      | cons implementation implementations =>
          simp only [mismatch?] at h
          split_ifs at h with himpl
          exact .cons himpl (ih (Nat.succ.inj hlen) h)

theorem no_mismatch_of_implemented {index : Nat} {cards : List ResolvedCard}
    {implementations : List CardImplementation}
    (h : List.Forall₂ (fun card implementation => implementation.implements card) cards
      implementations) : mismatch? index cards implementations = none := by
  induction h generalizing index with
  | nil => rfl
  | cons himpl _ ih => rw [mismatch?, if_pos himpl, ih]

/-- `DeckLaunch::new`. -/
def DeckLaunch.new (lock : DeckLock) (implementations : List CardImplementation) :
    Except DeckLaunchError DeckLaunch :=
  if hlen : implementations.length ≠ lock.cards.length then
    .error (.implementationCount lock.cards.length implementations.length)
  else
    match h : mismatch? 0 lock.cards implementations with
    | some error => .error error
    | none => .ok ⟨lock, implementations, implemented_of_no_mismatch (not_not.mp hlen) h⟩

/-- A launched Deck with the instance identifiers of its Cards. -/
structure DeckOwner extends DeckLaunch where
  cardInstanceIds : List CardInstanceId
  identified : cardInstanceIds.length = lock.cards.length

/-- One position of the three parallel vectors of a `DeckOwner`. -/
structure CardSlot where
  index : Nat
  card : ResolvedCard
  implementation : CardImplementation
  cardInstanceId : CardInstanceId

/-- `DeckOwner::context` at the slot's index. -/
def CardSlot.context (slot : CardSlot) : CardContext :=
  ⟨slot.cardInstanceId, slot.card.key, slot.card.definition⟩

/-- The parallel vectors, position by position. -/
def cardSlots : Nat → List ResolvedCard → List CardImplementation → List CardInstanceId →
    List CardSlot
  | index, card :: cards, implementation :: implementations, cardInstanceId :: ids =>
      ⟨index, card, implementation, cardInstanceId⟩ ::
        cardSlots (index + 1) cards implementations ids
  | _, _, _, _ => []

def DeckOwner.slots (deck : DeckOwner) : List CardSlot :=
  cardSlots 0 deck.lock.cards deck.implementations deck.cardInstanceIds

end Paraegox.Runtime
