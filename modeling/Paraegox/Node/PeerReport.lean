import Paraegox.Node.StatusDecode
import Paraegox.Text.JsonValue

/-!
# The report of a peer

A Node prints the status of its peer as a `serde_json::Value`.  The fields of its objects are
in another order then, and a reader takes them as before.
-/

namespace Paraegox

open Json

namespace Runtime

theorem RuntimeHostState.ofJson_toValue (state : RuntimeHostState) :
    RuntimeHostState.ofJson state.toJson.toValue = some state := by
  cases state <;> rfl

theorem DeckRunState.ofJson_toValue (state : DeckRunState) :
    DeckRunState.ofJson state.toJson.toValue = some state := by
  cases state <;> rfl

theorem CardInstanceState.ofJson_toValue (state : CardInstanceState) :
    CardInstanceState.ofJson state.toJson.toValue = some state := by
  cases state <;> rfl

theorem RuntimeHostIdentity.ofJson_toValue (identity : RuntimeHostIdentity) :
    RuntimeHostIdentity.ofJson identity.toJson.toValue = some identity := by
  simp [ofJson, toJson, structFields, field_toValue]
  simp [field, RuntimeHostId.ofJson_value, Uuid.ofJson_hyphenated]

theorem CardInstanceSnapshot.ofJson_toValue (card : CardInstanceSnapshot) :
    CardInstanceSnapshot.ofJson card.toJson.toValue = some card := by
  simp [ofJson, toJson, structFields, textField, field_toValue]
  simp [field, toText, Uuid.ofJson_hyphenated, u64OfJson_toNat,
    CardInstanceState.ofJson_toValue]

theorem DeckRunSnapshot.ofJson_toValue (run : DeckRunSnapshot) :
    DeckRunSnapshot.ofJson run.toJson.toValue = some run := by
  have hcards := mapM_map_some CardInstanceSnapshot.ofJson_toValue run.cards
  simp [ofJson, toJson, structFields, textField, field_toValue]
  simp [field, toText, toItems, toValues_map, Uuid.ofJson_hyphenated, u64OfJson_toNat,
    DeckRunState.ofJson_toValue, hcards]

theorem RuntimeHostSnapshot.ofJson_toValue (s : RuntimeHostSnapshot) :
    RuntimeHostSnapshot.ofJson s.toJson.toValue = some s := by
  obtain ⟨identity, state, deckRun⟩ := s
  cases deckRun with
  | none =>
      simp [ofJson, toJson, structFields, field_toValue, optionField_toValue]
      simp [field, optionField, RuntimeHostIdentity.ofJson_toValue,
        RuntimeHostState.ofJson_toValue]
  | some run =>
      have hrun : optionField [("identity", identity.toJson), ("state", state.toJson),
          ("deck_run", run.toJson)] "deck_run" = some (some run.toJson) := rfl
      simp [ofJson, toJson, structFields, field_toValue, optionField_toValue]
      simp [field, hrun, RuntimeHostIdentity.ofJson_toValue, RuntimeHostState.ofJson_toValue,
        DeckRunSnapshot.ofJson_toValue]

end Runtime

open Paraegox.Runtime

namespace Node

theorem NodeIdentity.ofJson_toValue (node : NodeIdentity) :
    NodeIdentity.ofJson node.toJson.toValue = some node := by
  simp [ofJson, toJson, structFields, field_toValue]
  simp [field, NodeId.ofJson_value, Uuid.ofJson_hyphenated]

theorem NodeRuntimeStatus.ofJson_toValue (status : NodeRuntimeStatus) :
    NodeRuntimeStatus.ofJson status.toJson.toValue = some status := by
  simp [ofJson, toJson, structFields, field_toValue]
  simp [field, fieldValues, insertField, structFields, Json.toBool,
    FabricServiceSnapshot.ofJson, NodeIdentity.ofJson_toValue, RuntimeHostSnapshot.ofJson_toValue]

end Node

end Paraegox
