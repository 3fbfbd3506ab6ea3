import Paraegox.Node.Keys
import Paraegox.Node.StatusDecode
import Paraegox.Node.StatusSize
import Paraegox.Agent.Provider
import Paraegox.Runtime.Lifecycle

/-!
# The composition of a Node

`Node::new` and its siblings: which services and which Deck make up a Node.  What comes from
outside the repository is gathered in a `Platform`, and how the calls on the owners of a
Node end in its `Owners`.
-/

namespace Paraegox

open Deck (CardDefinitionRef CardKey CardSort DeckCompileError DeckCompiler DeckKey DeckSpec)
open Fabric (ExactKey FabricError FabricQueryBinding FabricService QueryHandler checkEndpoints)
open Paraegox.Runtime (CardContext CardImplementation CardInstanceId Completion Console CoreService
  DeckLaunch DeckLaunchError DeckRunId RuntimeHost RuntimeHostBuildError RuntimeHostIdentity)

/-! ## Errors as they are displayed -/

/-- The text of an error. -/
def Deck.DeckCompileError.message : DeckCompileError → String
  | .emptyDeck => "a Deck must contain at least one Card"
  | .tooManyCards actual maximum => s!"Deck has {actual} Cards; maximum is {maximum}"
  | .invalidField field reason => "invalid " ++ field ++ ": " ++ reason
  | .duplicateCardKey key => "duplicate Card key `" ++ key.value ++ "`"
  | .unknownDefinition card definition => "Card `" ++ card.value ++
      "` references unknown exact definition `" ++ definition.value ++ "`"

/-- The text of an error. -/
def Runtime.DeckLaunchError.message : DeckLaunchError → String
  | .implementationCount expected actual =>
      s!"DeckLaunch needs {expected} Card implementations, got {actual}"
  | .implementationMismatch index expectedKey expectedDefinition actualKey actualDefinition =>
      s!"Card implementation {index} is `" ++ actualKey.value ++ "` / `" ++
        actualDefinition.value ++ "`; expected `" ++ expectedKey.value ++ "` / `" ++
        expectedDefinition.value ++ "`"

/-- The text of an error. -/
def Runtime.RuntimeHostBuildError.message : RuntimeHostBuildError → String
  | .tooManyCoreServices actual maximum =>
      s!"RuntimeHost has {actual} CoreServices; maximum is {maximum}"

def Node.BUILTIN_AGENT_DECK_KEY : String := "builtin-agent"
def Node.BUILTIN_AGENT_CARD_KEY : String := "agent"

structure Node.NodeBuildError where
  message : String
deriving DecidableEq, Repr

/-- `NodeBuildError::context`. -/
def Node.NodeBuildError.context (context error : String) : NodeBuildError :=
  ⟨context ++ ": " ++ error⟩

/-- Zenoh's check of key expressions, SHA-256, the sort of the compiler, and the identifiers
that are drawn. -/
structure Node.Platform where
  keyExpr : String → Except String Unit
  sha256 : List UInt8 → List UInt8
  sort : CardSort
  incarnation : NodeIncarnation
  epoch : RuntimeHostEpoch
  deckRunId : DeckRunId
  freshId : Nat → CardInstanceId

/-- How the calls on the owners of a Node end, and how its Agent answers. -/
structure Node.Owners where
  fabric : CoreService
  agent : CoreService
  cardStart : CardContext → Completion
  cardStop : Completion
  handler : QueryHandler

structure Node where
  identity : Node.NodeIdentity
  runtime : RuntimeHost
  /-- The status of the host, at first. -/
  console : Console
  fabric : FabricService

section

variable (platform : Node.Platform) (owners : Node.Owners) (identity : Node.NodeIdentity)
  (runtimeIdentity : RuntimeHostIdentity) (listenEndpoint : String)
  (connectEndpoint : Option String)

/-! ## The constructors -/

/-- `FabricService::new_with_bindings`, as a Node calls it. -/
def Node.newFabric (bindings : List FabricQueryBinding) :
    Except NodeBuildError FabricService :=
  (FabricService.newWithBindings platform.keyExpr listenEndpoint connectEndpoint bindings).mapError
    fun error => .context "could not construct FabricService" error.message

/-- `runtime_status_binding(..)?`. -/
def Node.newStatusBinding : Except NodeBuildError FabricQueryBinding :=
  (runtimeStatusBinding platform.keyExpr identity).mapError fun error =>
    .context "could not construct Fabric query binding" error.message

/-- The RuntimeHost of a Node, with its status. -/
def Node.newRuntime (coreServices : List CoreService) (deckLaunch : Option DeckLaunch) :
    Except NodeBuildError (RuntimeHost × Console) :=
  (RuntimeHost.build runtimeIdentity coreServices deckLaunch platform.deckRunId
    platform.freshId).mapError fun error =>
      .context "could not construct RuntimeHost" error.message

/-- `Node::new`. -/
def Node.new : Except NodeBuildError Node := do
  let status ← newStatusBinding platform identity
  let fabric ← newFabric platform listenEndpoint connectEndpoint [status]
  let (runtime, console) ← newRuntime platform runtimeIdentity [owners.fabric] none
  return ⟨identity, runtime, console, fabric⟩

/-- The Deck of the one Agent Card. -/
def Node.agentDeck (definition : CardDefinitionRef) : DeckSpec where
  key := ⟨BUILTIN_AGENT_DECK_KEY⟩
  cards := [⟨⟨BUILTIN_AGENT_CARD_KEY⟩, definition⟩]

/-- The Agent Card, as the host sees it. -/
def Node.agentCard (definition : CardDefinitionRef) : CardImplementation where
  cardKey := ⟨BUILTIN_AGENT_CARD_KEY⟩
  definition := definition
  start := owners.cardStart
  stop := owners.cardStop

/-- What `new_with_builtin_agent` and `new_with_deepseek_v4_flash_agent` share: everything but
their service and the definition of their Card. -/
def Node.newWithAgent (definition : CardDefinitionRef) : Except NodeBuildError Node := do
  let status ← newStatusBinding platform identity
  let conversation ←
    (Agent.agentQueryBinding platform.keyExpr identity.nodeId owners.handler).mapError fun error =>
      .context "could not construct Agent Fabric binding" error.message
  let fabric ← newFabric platform listenEndpoint connectEndpoint [status, conversation]
  let compiler ← (DeckCompiler.new [definition]).mapError fun error =>
    .context "invalid built-in Deck compiler" error.message
  let lock ← (compiler.compile platform.sha256 platform.sort (agentDeck definition)).mapError
    fun error => .context "could not compile built-in Deck" error.message
  let launch ← (DeckLaunch.new lock [agentCard owners definition]).mapError fun error =>
    .context "could not bind built-in Deck implementation" error.message
  let (runtime, console) ←
    newRuntime platform runtimeIdentity [owners.fabric, owners.agent] (some launch)
  return ⟨identity, runtime, console, fabric⟩

/-- `Node::new_with_builtin_agent`. -/
def Node.newWithBuiltinAgent : Except NodeBuildError Node :=
  newWithAgent platform owners identity runtimeIdentity listenEndpoint connectEndpoint
    ⟨Agent.BUILTIN_AGENT_DEFINITION⟩

/-- `Node::new_with_deepseek_v4_flash_agent`, where its HTTP client is built so. -/
def Node.newWithDeepseekV4FlashAgent (client : Except String Unit) :
    Except NodeBuildError Node := do
  client.mapError fun error => .context "could not construct DeepSeek AgentService"
    ("could not construct DeepSeek client: " ++ error)
  newWithAgent platform owners identity runtimeIdentity listenEndpoint connectEndpoint
    ⟨Agent.DEEPSEEK_V4_FLASH_AGENT_DEFINITION⟩

/-- The endpoints of a Node are checked by its `FabricService`. -/
def Node.checkListening : Except NodeBuildError Unit :=
  (checkEndpoints listenEndpoint connectEndpoint).mapError fun error =>
    .context "could not construct FabricService" error.message

/-- A Node as it is constructed: it answers under its own keys, and its host runs these
services and a compiled Deck with these definitions. -/
structure Node.Composed (coreServices : List CoreService) (definitions : List CardDefinitionRef)
    (node : Node) : Prop where
  identified : node.identity = identity
  endpoints : node.fabric.listenEndpoint = listenEndpoint ∧
    node.fabric.connectEndpoint = connectEndpoint
  status : ⟨runtimeStatusKey node.identity.nodeId, runtimeStatusHandler node.identity⟩ ∈
    node.fabric.bindings
  keys : ∀ binding ∈ node.fabric.bindings, binding.key ∈ nodeKeys node.identity.nodeId
  built : ∃ deckLaunch, RuntimeHost.build runtimeIdentity coreServices deckLaunch
      platform.deckRunId platform.freshId = .ok (node.runtime, node.console) ∧
    (∀ launch ∈ deckLaunch, ∃ sort compiler spec,
      DeckCompiler.compile platform.sha256 sort compiler spec = .ok launch.lock) ∧
    (deckLaunch.elim [] fun launch => launch.lock.cards.map Deck.ResolvedCard.definition) =
      definitions

end

/-! ## A Node is refused for an endpoint only -/

theorem Deck.DeckCompiler.new_singleton {definition : CardDefinitionRef}
    (h : Deck.ValidField definition.value Deck.MAX_DEFINITION_REF_BYTES) :
    ∃ compiler, DeckCompiler.new [definition] = .ok compiler := by
  rw [DeckCompiler.new, acceptAll]
  split
  · next error heq =>
    rw [Deck.validateField_ok.mpr h] at heq
    cases heq
  · exact ⟨_, rfl⟩

theorem Runtime.DeckLaunch.new_of_implemented {lock : Deck.DeckLock}
    {implementations : List CardImplementation}
    (h : List.Forall₂ (fun card implementation => implementation.implements card) lock.cards
      implementations) : DeckLaunch.new lock implementations = .ok ⟨lock, implementations, h⟩ := by
  rw [DeckLaunch.new, dif_neg (not_not.mpr h.length_eq.symm)]
  split
  · next error heq =>
    rw [Paraegox.Runtime.no_mismatch_of_implemented h] at heq
    cases heq
  · rfl

theorem Runtime.RuntimeHost.build_ok {coreServices : List CoreService}
    (h : coreServices.length ≤ Paraegox.Runtime.MAX_CORE_SERVICES)
    (identity : RuntimeHostIdentity) (deckLaunch : Option DeckLaunch) (deckRunId : DeckRunId)
    (freshId : Nat → CardInstanceId) :
    ∃ host console, RuntimeHost.build identity coreServices deckLaunch deckRunId freshId =
      .ok (host, console) := by
  unfold RuntimeHost.build
  rw [if_neg (Nat.not_lt.mpr h)]
  cases deckLaunch with
  | none => exact ⟨_, _, rfl⟩
  | some launch => exact ⟨_, _, rfl⟩

section

variable {platform : Node.Platform} {owners : Node.Owners} {identity : Node.NodeIdentity}
  {runtimeIdentity : RuntimeHostIdentity} {listenEndpoint : String}
  {connectEndpoint : Option String}

/-- The Deck of an Agent compiles, and its Card is bound. -/
theorem Node.agentDeck_launches (platform : Node.Platform) (owners : Node.Owners)
    {definition : CardDefinitionRef}
    (h : Deck.ValidField definition.value Deck.MAX_DEFINITION_REF_BYTES) :
    ∃ compiler lock launch, DeckCompiler.new [definition] = .ok compiler ∧
      compiler.compile platform.sha256 platform.sort (agentDeck definition) = .ok lock ∧
      DeckLaunch.new lock [agentCard owners definition] = .ok launch ∧ launch.lock = lock ∧
      lock.cards.map Deck.ResolvedCard.definition = [definition] := by
  obtain ⟨compiler, hcompiler⟩ := Deck.DeckCompiler.new_singleton h
  have hkey : Deck.ValidField BUILTIN_AGENT_CARD_KEY Deck.MAX_CARD_KEY_BYTES :=
    Deck.validateField_ok.mp (show Deck.validateField "" _ _ = .ok () by decide +kernel)
  have hdeck : Deck.ValidField BUILTIN_AGENT_DECK_KEY Deck.MAX_DECK_KEY_BYTES :=
    Deck.validateField_ok.mp (show Deck.validateField "" _ _ = .ok () by decide +kernel)
  have hvalid : (agentDeck definition).Valid compiler := by
    refine ⟨hdeck, le_rfl, show 1 ≤ Deck.MAX_CARDS_PER_DECK by decide, ?_,
      List.nodup_singleton _⟩
    intro card hcard
    rw [List.mem_singleton.mp hcard]
    exact ⟨hkey, h, (DeckCompiler.mem_new hcompiler _).mpr List.mem_cons_self⟩
  obtain ⟨lock, hlock⟩ := hvalid.compile platform.sha256 platform.sort
  have hcards : lock.cards = [⟨⟨BUILTIN_AGENT_CARD_KEY⟩, definition⟩] :=
    List.perm_singleton.mp (DeckCompiler.compile_cards hlock).2.1
  have himplements : List.Forall₂ (fun card implementation => implementation.implements card)
      lock.cards [agentCard owners definition] := by
    rw [hcards]
    exact .cons ⟨rfl, rfl⟩ .nil
  exact ⟨compiler, lock, _, hcompiler, hlock,
    Paraegox.Runtime.DeckLaunch.new_of_implemented himplements, rfl, by rw [hcards]; rfl⟩

/-- The bindings of a Node are taken for endpoints that are taken. -/
theorem Node.newFabric_eq {bindings : List FabricQueryBinding}
    (hexact : ∀ binding ∈ bindings, ExactKey platform.keyExpr binding.key)
    (hdistinct : (bindings.map FabricQueryBinding.key).Nodup) (hne : bindings ≠ [])
    (hlen : bindings.length ≤ Fabric.MAX_QUERY_BINDINGS) :
    newFabric platform listenEndpoint connectEndpoint bindings =
      (checkListening listenEndpoint connectEndpoint).map fun _ =>
        ⟨listenEndpoint, connectEndpoint, bindings⟩ := by
  rw [newFabric, FabricService.newWithBindings_eq hexact hdistinct hne hlen, checkListening]
  cases checkEndpoints listenEndpoint connectEndpoint <;> rfl

theorem Node.newRuntime_ok (platform : Node.Platform) (runtimeIdentity : RuntimeHostIdentity)
    {coreServices : List CoreService}
    (h : coreServices.length ≤ Paraegox.Runtime.MAX_CORE_SERVICES)
    (deckLaunch : Option DeckLaunch) :
    ∃ host console, newRuntime platform runtimeIdentity coreServices deckLaunch =
        .ok (host, console) ∧
      RuntimeHost.build runtimeIdentity coreServices deckLaunch platform.deckRunId
        platform.freshId = .ok (host, console) := by
  obtain ⟨host, console, hbuild⟩ := Paraegox.Runtime.RuntimeHost.build_ok h runtimeIdentity
    deckLaunch platform.deckRunId platform.freshId
  exact ⟨host, console, by rw [newRuntime, hbuild]; rfl, hbuild⟩

variable (hkeyExpr : ∀ key, PlainKey key → platform.keyExpr key = .ok ())

include hkeyExpr

theorem Node.newStatusBinding_eq : newStatusBinding platform identity =
    .ok ⟨runtimeStatusKey identity.nodeId, runtimeStatusHandler identity⟩ := by
  have hexact := (runtimeStatusKey_plain identity.nodeId).exact
    (hkeyExpr _ (runtimeStatusKey_plain identity.nodeId))
  rw [newStatusBinding, runtimeStatusBinding, FabricQueryBinding.new_ok hexact]
  rfl

/-- `Node::new` refuses a bad endpoint and nothing else. -/
theorem Node.new_eq : ∃ node,
    Composed platform identity runtimeIdentity listenEndpoint connectEndpoint [owners.fabric] []
      node ∧
    Node.new platform owners identity runtimeIdentity listenEndpoint connectEndpoint =
      (checkListening listenEndpoint connectEndpoint).map fun _ => node := by
  have hexact := (runtimeStatusKey_plain identity.nodeId).exact
    (hkeyExpr _ (runtimeStatusKey_plain identity.nodeId))
  obtain ⟨host, console, hruntime, hbuild⟩ := newRuntime_ok platform runtimeIdentity
    (show [owners.fabric].length ≤ Paraegox.Runtime.MAX_CORE_SERVICES by
      simp [Paraegox.Runtime.MAX_CORE_SERVICES]) none
  refine ⟨⟨identity, host, console, ⟨listenEndpoint, connectEndpoint,
    [⟨runtimeStatusKey identity.nodeId, runtimeStatusHandler identity⟩]⟩⟩,
    ⟨rfl, ⟨rfl, rfl⟩, List.mem_cons_self, ?_, none, hbuild, ?_, rfl⟩, ?_⟩
  · intro binding hbinding
    rw [List.mem_singleton.mp hbinding]
    exact List.mem_cons_self
  · intro launch hlaunch
    cases hlaunch
  · rw [Node.new, newStatusBinding_eq hkeyExpr, Except.ok_bind,
      newFabric_eq (by simpa using hexact) (by simp) (by simp)
        (by simp [Fabric.MAX_QUERY_BINDINGS]), hruntime]
    cases checkListening listenEndpoint connectEndpoint <;> rfl

/-- So do the constructors of a Node with an Agent. -/
theorem Node.newWithAgent_eq {definition : CardDefinitionRef}
    (hdefinition : Deck.ValidField definition.value Deck.MAX_DEFINITION_REF_BYTES) : ∃ node,
    Composed platform identity runtimeIdentity listenEndpoint connectEndpoint
      [owners.fabric, owners.agent] [definition] node ∧
    newWithAgent platform owners identity runtimeIdentity listenEndpoint connectEndpoint
      definition = (checkListening listenEndpoint connectEndpoint).map fun _ => node := by
  have hstatus := (runtimeStatusKey_plain identity.nodeId).exact
    (hkeyExpr _ (runtimeStatusKey_plain identity.nodeId))
  have hconversation := (Agent.agentQueryKey_plain identity.nodeId).exact
    (hkeyExpr _ (Agent.agentQueryKey_plain identity.nodeId))
  have hne := runtimeStatusKey_ne_agentQueryKey identity.nodeId identity.nodeId
  obtain ⟨compiler, lock, launch, hcompiler, hlock, hlaunch, hsame, hdefinitions⟩ :=
    agentDeck_launches platform owners hdefinition
  obtain ⟨host, console, hruntime, hbuild⟩ := newRuntime_ok platform runtimeIdentity
    (show [owners.fabric, owners.agent].length ≤ Paraegox.Runtime.MAX_CORE_SERVICES by
      simp [Paraegox.Runtime.MAX_CORE_SERVICES]) (some launch)
  refine ⟨⟨identity, host, console, ⟨listenEndpoint, connectEndpoint,
    [⟨runtimeStatusKey identity.nodeId, runtimeStatusHandler identity⟩,
      ⟨Agent.agentQueryKey identity.nodeId, owners.handler⟩]⟩⟩,
    ⟨rfl, ⟨rfl, rfl⟩, List.mem_cons_self, ?_, some launch, hbuild, ?_, ?_⟩, ?_⟩
  · simp [nodeKeys]
  · intro launch' hlaunch'
    cases hlaunch'
    exact ⟨platform.sort, compiler, _, hsame ▸ hlock⟩
  · rw [Option.elim_some, hsame, hdefinitions]
  · rw [newWithAgent, newStatusBinding_eq hkeyExpr, Except.ok_bind, Agent.agentQueryBinding,
      FabricQueryBinding.new_ok hconversation, hcompiler]
    simp only [Except.mapError, Except.ok_bind]
    rw [newFabric_eq (by simpa using ⟨hstatus, hconversation⟩) (by simpa using hne) (by simp)
        (by simp [Fabric.MAX_QUERY_BINDINGS]), hlock]
    simp only [hlaunch, Except.ok_bind, hruntime]
    cases checkListening listenEndpoint connectEndpoint <;> rfl

end

end Paraegox
