import Paraegox.Agent.Types
import Paraegox.Fabric.Bindings
import Paraegox.Lib.Lines
import Paraegox.Node.Status

/-!
# The keys of a Node

A Node answers under keys that are built around its id.  The id has no separator in it, so
the chunks of a key can be read off again, and two keys are equal only where all their
chunks are.
-/

namespace Paraegox

open Fabric (ExactKey FabricError FabricQueryBinding FabricService QueryHandler checkEndpoints)

/-! ## Keys -/

/-- `runtime_status_key`. -/
def Node.runtimeStatusKey (nodeId : NodeId) : String :=
  "paraegox/v1/nodes/" ++ nodeId.value ++ "/runtime/status"

/-- `agent_query_key`. -/
def Agent.agentQueryKey (nodeId : NodeId) : String :=
  "paraegox/v1/nodes/" ++ nodeId.value ++ "/agent/conversation"

/-- `runtime_status_binding`. -/
def Node.runtimeStatusBinding (keyExpr : String → Except String Unit) (node : NodeIdentity) :
    Except FabricError FabricQueryBinding :=
  FabricQueryBinding.new keyExpr (runtimeStatusKey node.nodeId) (runtimeStatusHandler node)

/-- `agent_query_binding`, with the handler that serves the requests. -/
def Agent.agentQueryBinding (keyExpr : String → Except String Unit) (nodeId : NodeId)
    (handler : QueryHandler) : Except AgentError FabricQueryBinding :=
  (FabricQueryBinding.new keyExpr (agentQueryKey nodeId) handler).mapError fun error =>
    ⟨"could not create Agent Fabric binding: " ++ error.message⟩

/-- The RuntimeHost id `run_node` derives. -/
def Node.runtimeHostName (nodeId : NodeId) : String := nodeId.value ++ ":runtime-0"

/-! ## Chunks -/

/-- The chunks of a key. -/
def chunks (key : String) : List (List Char) := key.toList.splitOn '/'

/-- A letter, a digit, `-` or `_`. -/
def isKeyChar (c : Char) : Bool := c.isAlphanum || c == '-' || c == '_'

/-- The key has no chunk that is empty or holds another character. -/
def PlainKey (key : String) : Prop := ∀ chunk ∈ chunks key, chunk ≠ [] ∧ chunk.all isKeyChar = true

/-- The key of a resource of a Node, by its chunks. -/
def nodeChunks (nodeId : NodeId) (service resource : String) : List (List Char) :=
  ["paraegox".toList, "v1".toList, "nodes".toList, nodeId.value.toList, service.toList,
    resource.toList]

theorem NodeId.plain (nodeId : NodeId) :
    nodeId.value.toList ≠ [] ∧ nodeId.value.toList.all isKeyChar = true := by
  obtain ⟨⟨hne, -⟩, -, hall⟩ := nodeId.valid
  exact ⟨fun heq => hne (String.toList_eq_nil_iff.mp heq), hall⟩

theorem slash_notMem_of_all {chunk : List Char} (h : chunk.all isKeyChar = true) : '/' ∉ chunk := by
  intro hmem
  have hslash := List.all_eq_true.mp h '/' hmem
  exact absurd hslash (by decide)

/-- A key that ends in a service and a resource. -/
theorem chunks_nodeKey {tail service resource : String} (nodeId : NodeId)
    (htail : tail.toList = '/' :: (service.toList ++ '/' :: resource.toList))
    (hservice : service.toList.all isKeyChar = true)
    (hresource : resource.toList.all isKeyChar = true) :
    chunks ("paraegox/v1/nodes/" ++ nodeId.value ++ tail) =
      nodeChunks nodeId service resource := by
  have hfront : "paraegox/v1/nodes/".toList =
      "paraegox".toList ++ '/' :: ("v1".toList ++ '/' :: ("nodes".toList ++ ['/'])) := by
    decide
  have hjoin : ("paraegox/v1/nodes/" ++ nodeId.value ++ tail).toList =
      ['/'].intercalate (nodeChunks nodeId service resource) := by
    rw [String.toList_append, String.toList_append, hfront, htail]
    simp only [nodeChunks, List.intercalate, List.intersperse, List.flatten_cons,
      List.flatten_nil, List.append_assoc, List.cons_append, List.nil_append, List.append_nil]
  rw [chunks, hjoin]
  refine List.splitOn_intercalate _ ?_ (List.cons_ne_nil _ _)
  simp only [nodeChunks, List.forall_mem_cons, List.not_mem_nil, false_implies, implies_true,
    and_true]
  exact ⟨by decide, by decide, by decide, slash_notMem_of_all nodeId.plain.2,
    slash_notMem_of_all hservice, slash_notMem_of_all hresource⟩

theorem Node.chunks_runtimeStatusKey (nodeId : NodeId) :
    chunks (runtimeStatusKey nodeId) = nodeChunks nodeId "runtime" "status" :=
  chunks_nodeKey nodeId (by decide) (by decide) (by decide)

theorem Agent.chunks_agentQueryKey (nodeId : NodeId) :
    chunks (agentQueryKey nodeId) = nodeChunks nodeId "agent" "conversation" :=
  chunks_nodeKey nodeId (by decide) (by decide) (by decide)

theorem nodeChunks_plain (nodeId : NodeId) {service resource : String}
    (hservice : service.toList ≠ [] ∧ service.toList.all isKeyChar = true)
    (hresource : resource.toList ≠ [] ∧ resource.toList.all isKeyChar = true) :
    ∀ chunk ∈ nodeChunks nodeId service resource, chunk ≠ [] ∧ chunk.all isKeyChar = true := by
  simp only [nodeChunks, List.forall_mem_cons, List.not_mem_nil, false_implies, implies_true,
    and_true]
  exact ⟨by decide, by decide, by decide, nodeId.plain, hservice, hresource⟩

theorem Node.runtimeStatusKey_plain (nodeId : NodeId) : PlainKey (runtimeStatusKey nodeId) := by
  rw [PlainKey, chunks_runtimeStatusKey]
  exact nodeChunks_plain nodeId (by decide) (by decide)

theorem Agent.agentQueryKey_plain (nodeId : NodeId) : PlainKey (agentQueryKey nodeId) := by
  rw [PlainKey, chunks_agentQueryKey]
  exact nodeChunks_plain nodeId (by decide) (by decide)

/-! ## Keys that differ -/

/-- The chunks name the Node, the service and the resource. -/
theorem nodeChunks_inj {n m : NodeId} {service service' resource resource' : String} :
    nodeChunks n service resource = nodeChunks m service' resource' ↔
      n = m ∧ service = service' ∧ resource = resource' := by
  constructor
  · intro h
    simp only [nodeChunks, List.cons.injEq, true_and, and_true, String.toList_inj] at h
    obtain ⟨hvalue, hservice, hresource⟩ := h
    refine ⟨?_, hservice, hresource⟩
    obtain ⟨value, valid⟩ := n
    cases hvalue
    rfl
  · rintro ⟨rfl, rfl, rfl⟩
    rfl

theorem Node.runtimeStatusKey_injective : Function.Injective runtimeStatusKey := by
  intro n m h
  have hchunks := congrArg chunks h
  rw [chunks_runtimeStatusKey, chunks_runtimeStatusKey] at hchunks
  exact (nodeChunks_inj.mp hchunks).1

theorem Agent.agentQueryKey_injective : Function.Injective agentQueryKey := by
  intro n m h
  have hchunks := congrArg chunks h
  rw [chunks_agentQueryKey, chunks_agentQueryKey] at hchunks
  exact (nodeChunks_inj.mp hchunks).1

theorem runtimeStatusKey_ne_agentQueryKey (n m : NodeId) :
    Node.runtimeStatusKey n ≠ Agent.agentQueryKey m := by
  intro h
  have hchunks := congrArg chunks h
  rw [Node.chunks_runtimeStatusKey, Agent.chunks_agentQueryKey] at hchunks
  exact absurd (nodeChunks_inj.mp hchunks).2.1 (by decide)

/-! ## Keys are accepted -/

/-- A plain key holds no character outside its chunks but the separator. -/
theorem PlainKey.mem {key : String} (h : PlainKey key) {c : Char} (hc : c ∈ key.toList) :
    c = '/' ∨ isKeyChar c = true := by
  by_cases hslash : c = '/'
  · exact .inl hslash
  · obtain ⟨chunk, hchunk, hmem⟩ := mem_splitOn hslash hc
    exact .inr (List.all_eq_true.mp (h chunk hchunk).2 c hmem)

theorem PlainKey.no_wildcard {key : String} (h : PlainKey key) :
    '*' ∉ key.toList ∧ '$' ∉ key.toList := by
  refine ⟨fun hmem => ?_, fun hmem => ?_⟩ <;> rcases h.mem hmem with heq | hchar
  · exact absurd heq (by decide)
  · exact absurd hchar (by decide)
  · exact absurd heq (by decide)
  · exact absurd hchar (by decide)

/-- A plain key that is a key expression is taken as a binding. -/
theorem PlainKey.exact {keyExpr : String → Except String Unit} {key : String} (h : PlainKey key)
    (hkeyExpr : keyExpr key = .ok ()) : ExactKey keyExpr key := by
  have hne : key ≠ "" := by
    rintro rfl
    exact (h [] (by simp [chunks])).1 rfl
  rw [ExactKey, Fabric.validateExactBindingKey, if_neg hne, hkeyExpr]
  exact if_neg h.no_wildcard.1

/-- The derived RuntimeHost id is valid. -/
theorem Node.runtimeHostName_valid (nodeId : NodeId) :
    RuntimeHostId.Valid (runtimeHostName nodeId) := by
  have hlen : nodeId.value.utf8ByteSize ≤ 64 := nodeId.valid.1.2
  have htail : ":runtime-0".utf8ByteSize = 10 := rfl
  have hall : ":runtime-0".toList.all (fun c => !isControl c) = true := by decide
  refine ⟨fun heq => ?_, ?_, ?_⟩
  · have hsize := congrArg String.utf8ByteSize heq
    simp [runtimeHostName, htail] at hsize
  · rw [runtimeHostName, String.utf8ByteSize_append]
    omega
  · rw [runtimeHostName, String.toList_append, List.all_append, hall, Bool.and_true,
      List.all_eq_true]
    exact fun c hc => by simp [nodeId.valid.not_isControl hc]

/-- The bindings of a Node are taken. -/
theorem Node.bindings_taken {keyExpr : String → Except String Unit}
    (hkeyExpr : ∀ key, PlainKey key → keyExpr key = .ok ()) (node : NodeIdentity)
    (handler : QueryHandler) :
    ∃ status conversation, runtimeStatusBinding keyExpr node = .ok status ∧
      Agent.agentQueryBinding keyExpr node.nodeId handler = .ok conversation ∧
      status.key = runtimeStatusKey node.nodeId ∧
      conversation.key = Agent.agentQueryKey node.nodeId ∧
      ∀ bindings ∈ [[status], [status, conversation]], ∀ listenEndpoint connectEndpoint,
        FabricService.newWithBindings keyExpr listenEndpoint connectEndpoint bindings =
          (checkEndpoints listenEndpoint connectEndpoint).map fun _ =>
            ⟨listenEndpoint, connectEndpoint, bindings⟩ := by
  have hstatus := (runtimeStatusKey_plain node.nodeId).exact
    (hkeyExpr _ (runtimeStatusKey_plain node.nodeId))
  have hconversation := (Agent.agentQueryKey_plain node.nodeId).exact
    (hkeyExpr _ (Agent.agentQueryKey_plain node.nodeId))
  have hne := runtimeStatusKey_ne_agentQueryKey node.nodeId node.nodeId
  refine ⟨⟨runtimeStatusKey node.nodeId, runtimeStatusHandler node⟩,
    ⟨Agent.agentQueryKey node.nodeId, handler⟩, FabricQueryBinding.new_ok hstatus _, ?_, rfl, rfl,
    fun bindings hbindings listenEndpoint connectEndpoint => ?_⟩
  · rw [Agent.agentQueryBinding, FabricQueryBinding.new_ok hconversation]
    rfl
  · simp only [List.mem_cons, List.not_mem_nil, or_false] at hbindings
    rcases hbindings with rfl | rfl
    · exact FabricService.newWithBindings_eq (by simpa using hstatus) (by simp) (by simp)
        (by simp [Fabric.MAX_QUERY_BINDINGS]) _ _
    · exact FabricService.newWithBindings_eq (by simpa using ⟨hstatus, hconversation⟩)
        (by simpa using hne) (by simp) (by simp [Fabric.MAX_QUERY_BINDINGS]) _ _

/-! ## Addresses never collide -/

/-- The keys a Node may answer under. -/
def nodeKeys (nodeId : NodeId) : List String :=
  [Node.runtimeStatusKey nodeId, Agent.agentQueryKey nodeId]

theorem nodeKeys_disjoint {n m : NodeId} {key : String} (hn : key ∈ nodeKeys n)
    (hm : key ∈ nodeKeys m) : n = m := by
  simp only [nodeKeys, List.mem_cons, List.not_mem_nil, or_false] at hn hm
  rcases hn with rfl | rfl <;> rcases hm with hm | hm
  · exact Node.runtimeStatusKey_injective hm
  · exact absurd hm (runtimeStatusKey_ne_agentQueryKey n m)
  · exact absurd hm.symm (runtimeStatusKey_ne_agentQueryKey m n)
  · exact Agent.agentQueryKey_injective hm

/-- Over any check of key expressions that takes plain keys: the keys of a Node determine the
Node and the service, they are exact and plain with the node id as one chunk, the bindings
of a Node are refused for an endpoint only, no key of a Node is one of another, and the
derived RuntimeHost id is accepted. -/
theorem node_addresses_exact {keyExpr : String → Except String Unit}
    (hkeyExpr : ∀ key, PlainKey key → keyExpr key = .ok ()) :
    (∀ n m, Node.runtimeStatusKey n = Node.runtimeStatusKey m → n = m) ∧
    (∀ n m, Agent.agentQueryKey n = Agent.agentQueryKey m → n = m) ∧
    (∀ n m, Node.runtimeStatusKey n ≠ Agent.agentQueryKey m) ∧
    (∀ n, chunks (Node.runtimeStatusKey n) = nodeChunks n "runtime" "status" ∧
      chunks (Agent.agentQueryKey n) = nodeChunks n "agent" "conversation" ∧
      ∀ key ∈ nodeKeys n, PlainKey key ∧ '*' ∉ key.toList ∧ '$' ∉ key.toList ∧
        ExactKey keyExpr key) ∧
    (∀ node handler, ∃ status conversation,
      Node.runtimeStatusBinding keyExpr node = .ok status ∧
      Agent.agentQueryBinding keyExpr node.nodeId handler = .ok conversation ∧
      status.key = Node.runtimeStatusKey node.nodeId ∧
      conversation.key = Agent.agentQueryKey node.nodeId ∧
      ∀ bindings ∈ [[status], [status, conversation]], ∀ listenEndpoint connectEndpoint,
        FabricService.newWithBindings keyExpr listenEndpoint connectEndpoint bindings =
          (checkEndpoints listenEndpoint connectEndpoint).map fun _ =>
            ⟨listenEndpoint, connectEndpoint, bindings⟩) ∧
    (∀ n m, ∀ key ∈ nodeKeys n, key ∈ nodeKeys m → n = m) ∧
    ∀ n, ∃ id, RuntimeHostId.new (Node.runtimeHostName n) = some id := by
  refine ⟨fun n m => (Node.runtimeStatusKey_injective ·),
    fun n m => (Agent.agentQueryKey_injective ·), runtimeStatusKey_ne_agentQueryKey,
    fun n => ⟨Node.chunks_runtimeStatusKey n, Agent.chunks_agentQueryKey n, fun key hkey => ?_⟩,
    Node.bindings_taken hkeyExpr, fun n m key => nodeKeys_disjoint, fun n => ?_⟩
  · have hplain : PlainKey key := by
      simp only [nodeKeys, List.mem_cons, List.not_mem_nil, or_false] at hkey
      rcases hkey with rfl | rfl
      · exact Node.runtimeStatusKey_plain n
      · exact Agent.agentQueryKey_plain n
    exact ⟨hplain, hplain.no_wildcard.1, hplain.no_wildcard.2, hplain.exact (hkeyExpr key hplain)⟩
  · exact ⟨_, dif_pos (Node.runtimeHostName_valid n)⟩

/-- A check of key expressions: no chunk is empty, and one that is no wildcard has none of
the reserved characters. -/
def reservedKeyExpr (key : String) : Except String Unit :=
  if (chunks key).all fun chunk => chunk = ['*'] || chunk = ['*', '*'] ||
      (chunk ≠ [] && chunk.all fun c => !(['*', '$', '?', '#'].contains c)) then .ok ()
  else .error "invalid key expression"

theorem reservedKeyExpr_plain (key : String) (h : PlainKey key) : reservedKeyExpr key = .ok () := by
  refine if_pos (List.all_eq_true.mpr fun chunk hchunk => ?_)
  obtain ⟨hne, hall⟩ := h chunk hchunk
  have hreserved : chunk.all (fun c => !(['*', '$', '?', '#'].contains c)) = true := by
    rw [List.all_eq_true] at hall ⊢
    intro c hc
    have hchar := hall c hc
    simp only [List.contains_cons, List.contains_nil, Bool.or_false, Bool.not_eq_true',
      Bool.or_eq_false_iff, beq_eq_false_iff_ne]
    refine ⟨?_, ?_, ?_, ?_⟩ <;> rintro rfl <;> exact absurd hchar (by decide)
  rw [hreserved, Bool.and_true]
  exact Bool.or_eq_true_iff.mpr (.inr (decide_eq_true hne))

/-- A Node with an Agent on a loopback endpoint. -/
theorem node_addresses_exact_agent : ∃ status conversation,
    Node.runtimeStatusBinding reservedKeyExpr ⟨⟨"a", by decide +kernel⟩, ⟨⟨0⟩⟩⟩ = .ok status ∧
    Agent.agentQueryBinding reservedKeyExpr ⟨"a", by decide +kernel⟩ (fun _ _ => .ok []) =
      .ok conversation ∧
    FabricService.newWithBindings reservedKeyExpr "tcp/127.0.0.1:7447" none
      [status, conversation] = .ok ⟨"tcp/127.0.0.1:7447", none, [status, conversation]⟩ := by
  have hexact := node_addresses_exact reservedKeyExpr_plain
  obtain ⟨status, conversation, hstatus, hconversation, -, -, htaken⟩ :=
    hexact.2.2.2.2.1 ⟨⟨"a", by decide +kernel⟩, ⟨⟨0⟩⟩⟩ fun _ _ => .ok []
  have hendpoint : checkEndpoints "tcp/127.0.0.1:7447" none = .ok () := by decide +kernel
  refine ⟨status, conversation, hstatus, hconversation, ?_⟩
  rw [htaken _ (by simp), hendpoint]
  rfl

end Paraegox
