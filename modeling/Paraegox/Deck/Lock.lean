import Mathlib.Data.List.Nodup

/-!
# Decks, Cards and the lock of a compiled Deck

The fields of `DeckLock` are private to the deck crate and only
`DeckCompiler::compile` builds one.  It refuses a Card key that occurs twice, so
a lock carries that its keys are distinct.
-/

namespace Paraegox.Deck

/-- An exact, composition-provided Card definition identity. -/
structure CardDefinitionRef where
  value : String
deriving DecidableEq, Repr

/-- A Card's unique name inside one Deck. -/
structure CardKey where
  value : String
deriving DecidableEq, Repr

/-- A Deck's composition identity. -/
structure DeckKey where
  value : String
deriving DecidableEq, Repr

/-- A Card whose exact definition was accepted by the current composition. -/
structure ResolvedCard where
  key : CardKey
  definition : CardDefinitionRef
deriving DecidableEq, Repr

/-- The deterministic, exact result consumed by a Deck runtime owner. -/
structure DeckLock where
  key : DeckKey
  cards : List ResolvedCard
  digest : String
  keysDistinct : (cards.map ResolvedCard.key).Nodup
deriving DecidableEq

end Paraegox.Deck
