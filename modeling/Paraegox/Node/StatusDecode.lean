import Paraegox.Kernel.UuidParse
import Paraegox.Node.Status
import Paraegox.Text.JsonFields
import Paraegox.Text.JsonParse

/-!
# Reading a status back

`decode_runtime_status` is a reader of its own for every type of a status, two of which
check what they read.  Each undoes the layout of its type.

The text is parsed by serde_json, which is a parameter: what it makes of a payload, and its
words for a payload that is no status.
-/

namespace Paraegox

open Json

def NodeId.ofJson (j : Json) : Option NodeId := j.toText.bind NodeId.fromStr

def RuntimeHostId.ofJson (j : Json) : Option RuntimeHostId := j.toText.bind RuntimeHostId.new

/-- A UUID, as every transparent type around one reads it. -/
def Uuid.ofJson (j : Json) : Option Uuid := j.toText.bind Uuid.fromStr

theorem NodeId.ofJson_value (id : NodeId) : NodeId.ofJson (.str id.value) = some id := by
  rw [ofJson, toText, Option.bind_some, fromStr, dif_pos id.valid]

theorem RuntimeHostId.ofJson_value (id : RuntimeHostId) :
    RuntimeHostId.ofJson (.str id.value) = some id := by
  rw [ofJson, toText, Option.bind_some, new, dif_pos id.valid]

theorem Uuid.ofJson_hyphenated (u : Uuid) : Uuid.ofJson (.str u.hyphenated) = some u := by
  rw [ofJson, toText, Option.bind_some, fromStr_hyphenated]

/-- A `u64` field. -/
def u64OfJson (j : Json) : Option UInt64 := j.toU64.map UInt64.ofNat

theorem u64OfJson_toNat (n : UInt64) : u64OfJson (.num n.toNat) = some n := by
  rw [u64OfJson, toU64, if_pos n.toNat_lt, Option.map_some, UInt64.ofNat_toNat]

namespace Runtime

/-! ## The snapshot of a host -/

def RuntimeHostState.ofJson (j : Json) : Option RuntimeHostState := do
  match ← j.toVariant with
  | "created" => some .created
  | "starting" => some .starting
  | "ready" => some .ready
  | "stopping" => some .stopping
  | "stopped" => some .stopped
  | "failed" => some .failed
  | _ => none

def DeckRunState.ofJson (j : Json) : Option DeckRunState := do
  match ← j.toVariant with
  | "created" => some .created
  | "starting" => some .starting
  | "ready" => some .ready
  | "stopping" => some .stopping
  | "stopped" => some .stopped
  | "failed" => some .failed
  | _ => none

def CardInstanceState.ofJson (j : Json) : Option CardInstanceState := do
  match ← j.toVariant with
  | "created" => some .created
  | "starting" => some .starting
  | "ready" => some .ready
  | "stopping" => some .stopping
  | "stopped" => some .stopped
  | "failed" => some .failed
  | _ => none

def RuntimeHostIdentity.ofJson (j : Json) : Option RuntimeHostIdentity := do
  let fields ← j.structFields ["runtime_host_id", "epoch"]
  let runtimeHostId ← (field fields "runtime_host_id").bind RuntimeHostId.ofJson
  let epoch ← (field fields "epoch").bind Uuid.ofJson
  some ⟨runtimeHostId, ⟨epoch⟩⟩

def CardInstanceSnapshot.ofJson (j : Json) : Option CardInstanceSnapshot := do
  let fields ← j.structFields ["card_instance_id", "key", "definition", "generation", "state"]
  let cardInstanceId ← (field fields "card_instance_id").bind Uuid.ofJson
  let key ← textField fields "key"
  let definition ← textField fields "definition"
  let generation ← (field fields "generation").bind u64OfJson
  let state ← (field fields "state").bind CardInstanceState.ofJson
  some ⟨⟨cardInstanceId⟩, ⟨key⟩, ⟨definition⟩, generation, state⟩

def DeckRunSnapshot.ofJson (j : Json) : Option DeckRunSnapshot := do
  let fields ← j.structFields
    ["deck_run_id", "deck_key", "lock_digest", "generation", "state", "cards"]
  let deckRunId ← (field fields "deck_run_id").bind Uuid.ofJson
  let deckKey ← textField fields "deck_key"
  let lockDigest ← textField fields "lock_digest"
  let generation ← (field fields "generation").bind u64OfJson
  let state ← (field fields "state").bind DeckRunState.ofJson
  let cards ← ((field fields "cards").bind toItems).bind (List.mapM CardInstanceSnapshot.ofJson)
  some ⟨⟨deckRunId⟩, ⟨deckKey⟩, lockDigest, generation, state, cards⟩

def RuntimeHostSnapshot.ofJson (j : Json) : Option RuntimeHostSnapshot := do
  let fields ← j.structFields ["identity", "state", "deck_run"]
  let identity ← (field fields "identity").bind RuntimeHostIdentity.ofJson
  let state ← (field fields "state").bind RuntimeHostState.ofJson
  match ← optionField fields "deck_run" with
  | none => some ⟨identity, state, none⟩
  | some deckRun => do
      let deckRun ← DeckRunSnapshot.ofJson deckRun
      some ⟨identity, state, some deckRun⟩

theorem RuntimeHostState.ofJson_toJson (state : RuntimeHostState) :
    RuntimeHostState.ofJson state.toJson = some state := by
  cases state <;> rfl

theorem DeckRunState.ofJson_toJson (state : DeckRunState) :
    DeckRunState.ofJson state.toJson = some state := by
  cases state <;> rfl

theorem CardInstanceState.ofJson_toJson (state : CardInstanceState) :
    CardInstanceState.ofJson state.toJson = some state := by
  cases state <;> rfl

theorem RuntimeHostIdentity.ofJson_toJson (identity : RuntimeHostIdentity) :
    RuntimeHostIdentity.ofJson identity.toJson = some identity := by
  simp [ofJson, toJson, structFields, field, RuntimeHostId.ofJson_value, Uuid.ofJson_hyphenated]

theorem CardInstanceSnapshot.ofJson_toJson (card : CardInstanceSnapshot) :
    CardInstanceSnapshot.ofJson card.toJson = some card := by
  simp [ofJson, toJson, structFields, field, textField, toText, Uuid.ofJson_hyphenated,
    u64OfJson_toNat, CardInstanceState.ofJson_toJson]

theorem DeckRunSnapshot.ofJson_toJson (run : DeckRunSnapshot) :
    DeckRunSnapshot.ofJson run.toJson = some run := by
  have hcards := mapM_map_some CardInstanceSnapshot.ofJson_toJson run.cards
  simp [ofJson, toJson, structFields, field, textField, toText, toItems, Uuid.ofJson_hyphenated,
    u64OfJson_toNat, DeckRunState.ofJson_toJson, hcards]

theorem RuntimeHostSnapshot.ofJson_toJson (s : RuntimeHostSnapshot) :
    RuntimeHostSnapshot.ofJson s.toJson = some s := by
  obtain ⟨identity, state, deckRun⟩ := s
  cases deckRun with
  | none =>
      simp [ofJson, toJson, structFields, field, optionField, RuntimeHostIdentity.ofJson_toJson,
        RuntimeHostState.ofJson_toJson]
  | some run =>
      have hrun : optionField [("identity", identity.toJson), ("state", state.toJson),
          ("deck_run", run.toJson)] "deck_run" = some (some run.toJson) := rfl
      simp [ofJson, toJson, structFields, field, hrun, RuntimeHostIdentity.ofJson_toJson,
        RuntimeHostState.ofJson_toJson, DeckRunSnapshot.ofJson_toJson]

end Runtime

open Paraegox.Runtime

namespace Node

/-! ## The status of a Node -/

def NodeIdentity.ofJson (j : Json) : Option NodeIdentity := do
  let fields ← j.structFields ["node_id", "incarnation"]
  let nodeId ← (field fields "node_id").bind NodeId.ofJson
  let incarnation ← (field fields "incarnation").bind Uuid.ofJson
  some ⟨nodeId, ⟨incarnation⟩⟩

def FabricServiceSnapshot.ofJson (j : Json) : Option FabricServiceSnapshot := do
  let fields ← j.structFields ["ready"]
  let ready ← (field fields "ready").bind toBool
  some ⟨ready⟩

def NodeRuntimeStatus.ofJson (j : Json) : Option NodeRuntimeStatus := do
  let fields ← j.structFields ["node", "runtime", "fabric"]
  let node ← (field fields "node").bind NodeIdentity.ofJson
  let runtime ← (field fields "runtime").bind RuntimeHostSnapshot.ofJson
  let fabric ← (field fields "fabric").bind FabricServiceSnapshot.ofJson
  some ⟨node, runtime, fabric⟩

/-- `decode_runtime_status`, over a parser of JSON text and its words for a payload it does
not take. -/
def decodeRuntimeStatus (fromSlice : List UInt8 → Option Json) (reason : List UInt8 → String)
    (target : NodeId) (payload : List UInt8) : Except NodeStatusError NodeRuntimeStatus :=
  match (fromSlice payload).bind NodeRuntimeStatus.ofJson with
  | none => .error ⟨"invalid Node status JSON: " ++ reason payload⟩
  | some status =>
      if status.node.nodeId ≠ target then
        .error ⟨"Node identity mismatch: requested " ++ target.value ++ ", received " ++
          status.node.nodeId.value⟩
      else if status.runtime.state ≠ .ready ∨ ¬ status.fabric.ready then
        .error ⟨"Node, RuntimeHost, or FabricService is not ready"⟩
      else .ok status

theorem NodeIdentity.ofJson_toJson (node : NodeIdentity) :
    NodeIdentity.ofJson node.toJson = some node := by
  simp [ofJson, toJson, structFields, field, NodeId.ofJson_value, Uuid.ofJson_hyphenated]

theorem NodeRuntimeStatus.ofJson_toJson (status : NodeRuntimeStatus) :
    NodeRuntimeStatus.ofJson status.toJson = some status := by
  simp [ofJson, toJson, structFields, field, Json.toBool, NodeIdentity.ofJson_toJson,
    RuntimeHostSnapshot.ofJson_toJson, FabricServiceSnapshot.ofJson]

/-- What a decoded status passed. -/
theorem decodeRuntimeStatus_ok {fromSlice : List UInt8 → Option Json}
    {reason : List UInt8 → String} {target : NodeId} {payload : List UInt8}
    {status : NodeRuntimeStatus} :
    decodeRuntimeStatus fromSlice reason target payload = .ok status ↔
      (fromSlice payload).bind NodeRuntimeStatus.ofJson = some status ∧
        status.node.nodeId = target ∧ status.runtime.state = .ready ∧
        status.fabric.ready = true := by
  rw [decodeRuntimeStatus]
  split
  · next hnone => simp [hnone]
  · next status' hsome =>
    rw [hsome]
    split_ifs with htarget hready
    · refine ⟨nofun, fun ⟨heq, htarget', _⟩ => absurd ?_ htarget⟩
      cases heq
      exact htarget'
    · refine ⟨nofun, fun ⟨heq, _, hstate, hfabric⟩ => ?_⟩
      cases heq
      exact absurd hready (by simp [hstate, hfabric])
    · simp only [not_or, not_not] at htarget hready
      refine ⟨fun heq => ?_, fun ⟨heq, _⟩ => ?_⟩
      · cases heq
        exact ⟨rfl, htarget, hready⟩
      · cases heq
        rfl

/-- A Ready status comes back as it was sent, any other is not sent, and whatever decodes is
the status of the Node it was asked of: ready, with valid identifiers. -/
theorem status_round_trip {fromSlice : List UInt8 → Option Json} (reason : List UInt8 → String)
    (hfromSlice : ∀ status : NodeRuntimeStatus,
      fromSlice status.toJson.encode = some status.toJson) :
    (∀ node runtime, runtime.state = .ready →
      ∃ payload, encodeRuntimeStatus node runtime = .ok payload ∧
        decodeRuntimeStatus fromSlice reason node.nodeId payload.encode =
          .ok ⟨node, runtime, ⟨true⟩⟩) ∧
    (∀ node runtime, runtime.state ≠ .ready →
      encodeRuntimeStatus node runtime = .error ⟨"RuntimeHost is not ready"⟩) ∧
    ∀ target payload status, decodeRuntimeStatus fromSlice reason target payload = .ok status →
      status.node.nodeId = target ∧ status.runtime.state = .ready ∧ status.fabric.ready = true ∧
        NodeId.Valid status.node.nodeId.value ∧
        RuntimeHostId.Valid status.runtime.identity.runtimeHostId.value := by
  refine ⟨fun node runtime hready => ?_, fun node runtime hstate => ?_,
    fun target payload status h => ?_⟩
  · refine ⟨(⟨node, runtime, ⟨true⟩⟩ : NodeRuntimeStatus).toJson, ?_, ?_⟩
    · rw [encodeRuntimeStatus, NodeRuntimeStatus.ready, if_neg (not_not.mpr hready)]
      rfl
    · rw [decodeRuntimeStatus_ok, hfromSlice, Option.bind_some, NodeRuntimeStatus.ofJson_toJson]
      exact ⟨rfl, rfl, hready, rfl⟩
  · rw [encodeRuntimeStatus, NodeRuntimeStatus.ready, if_pos hstate]
    rfl
  · obtain ⟨-, htarget, hstate, hfabric⟩ := decodeRuntimeStatus_ok.mp h
    exact ⟨htarget, hstate, hfabric, status.node.nodeId.valid,
      status.runtime.identity.runtimeHostId.valid⟩

/-- A host with two Cards that are not at the same state, over a parser of JSON. -/
theorem status_round_trip_two_cards : ∃ payload,
    encodeRuntimeStatus ⟨⟨"decoding-node", by decide +kernel⟩, ⟨⟨1⟩⟩⟩
      ⟨⟨⟨"r\"\\", by decide +kernel⟩, ⟨⟨2⟩⟩⟩, .ready, some ⟨⟨⟨3⟩⟩, ⟨"deck"⟩, "digest", 1, .starting,
        [⟨⟨⟨4⟩⟩, ⟨"a"⟩, ⟨"agent"⟩, 1, .ready⟩, ⟨⟨⟨5⟩⟩, ⟨"b"⟩, ⟨"agent"⟩, 1, .failed⟩]⟩⟩ =
      .ok payload ∧
    (decodeRuntimeStatus Json.decode (fun _ => "") ⟨"decoding-node", by decide +kernel⟩
      payload.encode).isOk = true := by
  obtain ⟨payload, hencode, hdecode⟩ := (status_round_trip (fun _ => "")
    (fun status => Json.decode_encode status.toJson)).1
    ⟨⟨"decoding-node", by decide +kernel⟩, ⟨⟨1⟩⟩⟩
    ⟨⟨⟨"r\"\\", by decide +kernel⟩, ⟨⟨2⟩⟩⟩, .ready, some ⟨⟨⟨3⟩⟩, ⟨"deck"⟩, "digest", 1, .starting,
      [⟨⟨⟨4⟩⟩, ⟨"a"⟩, ⟨"agent"⟩, 1, .ready⟩, ⟨⟨⟨5⟩⟩, ⟨"b"⟩, ⟨"agent"⟩, 1, .failed⟩]⟩⟩ rfl
  exact ⟨payload, hencode, by rw [hdecode]; rfl⟩

end Node

end Paraegox
