import Paraegox.Deck.Lock
import Paraegox.Kernel.Identity
import Paraegox.Text.Json

/-!
# The published status of a RuntimeHost

One snapshot sits behind a lock.  The host writes one field of it at a time and
any task may clone it between two writes.
-/

namespace Paraegox.Runtime

open Deck (CardDefinitionRef CardKey DeckKey)

inductive RuntimeHostState where
  | created
  | starting
  | ready
  | stopping
  | stopped
  | failed
deriving DecidableEq, Repr

inductive DeckRunState where
  | created
  | starting
  | ready
  | stopping
  | stopped
  | failed
deriving DecidableEq, Repr

inductive CardInstanceState where
  | created
  | starting
  | ready
  | stopping
  | stopped
  | failed
deriving DecidableEq, Repr

structure DeckRunId where
  uuid : Uuid
deriving DecidableEq, Repr

structure CardInstanceId where
  uuid : Uuid
deriving DecidableEq, Repr

structure RuntimeHostIdentity where
  runtimeHostId : RuntimeHostId
  epoch : RuntimeHostEpoch
deriving DecidableEq

structure CardInstanceSnapshot where
  cardInstanceId : CardInstanceId
  key : CardKey
  definition : CardDefinitionRef
  generation : UInt64
  state : CardInstanceState
deriving DecidableEq, Repr

structure DeckRunSnapshot where
  deckRunId : DeckRunId
  deckKey : DeckKey
  lockDigest : String
  generation : UInt64
  state : DeckRunState
  cards : List CardInstanceSnapshot
deriving DecidableEq, Repr

structure RuntimeHostSnapshot where
  identity : RuntimeHostIdentity
  state : RuntimeHostState
  deckRun : Option DeckRunSnapshot
deriving DecidableEq

/-! ## The writes of `RuntimeStatusReader` -/

namespace RuntimeHostSnapshot

def setRuntimeHostState (snapshot : RuntimeHostSnapshot) (state : RuntimeHostState) :
    RuntimeHostSnapshot :=
  { snapshot with state }

/-- Without a Deck run nothing is written. -/
def setDeckRunState (snapshot : RuntimeHostSnapshot) (state : DeckRunState) :
    RuntimeHostSnapshot :=
  { snapshot with deckRun := snapshot.deckRun.map fun deckRun => { deckRun with state } }

/-- Without a Deck run, or past its last card, nothing is written. -/
def setCardState (snapshot : RuntimeHostSnapshot) (index : Nat) (state : CardInstanceState) :
    RuntimeHostSnapshot :=
  { snapshot with
    deckRun := snapshot.deckRun.map fun deckRun =>
      { deckRun with cards := deckRun.cards.modify index fun card => { card with state } } }

end RuntimeHostSnapshot

/-! ## JSON layout -/

def RuntimeHostState.toJson : RuntimeHostState → Json
  | .created => .str "created"
  | .starting => .str "starting"
  | .ready => .str "ready"
  | .stopping => .str "stopping"
  | .stopped => .str "stopped"
  | .failed => .str "failed"

def DeckRunState.toJson : DeckRunState → Json
  | .created => .str "created"
  | .starting => .str "starting"
  | .ready => .str "ready"
  | .stopping => .str "stopping"
  | .stopped => .str "stopped"
  | .failed => .str "failed"

def CardInstanceState.toJson : CardInstanceState → Json
  | .created => .str "created"
  | .starting => .str "starting"
  | .ready => .str "ready"
  | .stopping => .str "stopping"
  | .stopped => .str "stopped"
  | .failed => .str "failed"

def RuntimeHostIdentity.toJson (identity : RuntimeHostIdentity) : Json :=
  .obj [("runtime_host_id", .str identity.runtimeHostId.value),
    ("epoch", .str identity.epoch.uuid.hyphenated)]

def CardInstanceSnapshot.toJson (card : CardInstanceSnapshot) : Json :=
  .obj [("card_instance_id", .str card.cardInstanceId.uuid.hyphenated),
    ("key", .str card.key.value), ("definition", .str card.definition.value),
    ("generation", .num card.generation.toNat), ("state", card.state.toJson)]

def DeckRunSnapshot.toJson (deckRun : DeckRunSnapshot) : Json :=
  .obj [("deck_run_id", .str deckRun.deckRunId.uuid.hyphenated),
    ("deck_key", .str deckRun.deckKey.value), ("lock_digest", .str deckRun.lockDigest),
    ("generation", .num deckRun.generation.toNat), ("state", deckRun.state.toJson),
    ("cards", .arr (deckRun.cards.map CardInstanceSnapshot.toJson))]

def RuntimeHostSnapshot.toJson (snapshot : RuntimeHostSnapshot) : Json :=
  .obj [("identity", snapshot.identity.toJson), ("state", snapshot.state.toJson),
    ("deck_run", match snapshot.deckRun with
      | none => .null
      | some deckRun => deckRun.toJson)]

end Paraegox.Runtime
