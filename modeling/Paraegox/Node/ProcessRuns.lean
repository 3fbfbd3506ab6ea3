import Paraegox.Node.Exit
import Paraegox.Node.PeerReport
import Paraegox.Cli.RunOptions
import Paraegox.Node.StatusSize

/-!
# Whole runs of the process of a Node

However the environment answers: a Node that is refused is never heard of, one that is
announced is ready to its last Card, and one that was started is stopped again.
-/

namespace Paraegox

open Cli (AgentProvider Command DeckSelection parseCommand)
open Deck (CardDefinitionRef)
open Fabric (FabricError)
open Node (NodeRuntimeStatus decodeRuntimeStatus runtimeStatusKey)
open Paraegox.Runtime (Console CoreService Level RuntimeHostIdentity RuntimeHostSnapshot)

/-! ## The command line -/

namespace Process

/-! ## Construction -/

/-- An answer for which no Agent of a provider is built. -/
def rejects : Asked → Bool
  | ⟨.apiKey, (apiKey : Option String)⟩ =>
      match apiKey with
      | none => true
      | some apiKey => validateApiKey apiKey ≠ .ok ()
  | ⟨.client, (client : Except String Unit)⟩ => client ≠ .ok ()
  | _ => false

/-- What is asked before the Node is started. -/
def isCredential : Asked → Prop := fun x => x.question = .apiKey ∨ x.question = .client

/-- The services of the host of a Node. -/
def coreServices (owners : Node.Owners) : Option DeckSelection → List CoreService
  | none => [owners.fabric]
  | some .builtinAgent => [owners.fabric, owners.agent]

/-- The definitions of the Cards of a Node. -/
def definitions (deck : Option DeckSelection) (provider : AgentProvider) :
    List CardDefinitionRef :=
  match deck, provider with
  | none, _ => []
  | some .builtinAgent, .deterministic => [⟨Agent.BUILTIN_AGENT_DEFINITION⟩]
  | some .builtinAgent, .deepSeekV4Flash => [⟨Agent.DEEPSEEK_V4_FLASH_AGENT_DEFINITION⟩]

/-- The host of a Node. -/
def runtimeIdentity (platform : Node.Platform) (nodeId : NodeId) : RuntimeHostIdentity :=
  ⟨⟨Node.runtimeHostName nodeId, Node.runtimeHostName_valid nodeId⟩, platform.epoch⟩

theorem configFromEnv_yields : configFromEnv.run.Yields fun xs r =>
    (∀ x ∈ xs, isCredential x) ∧ (r = .ok () ∧ xs.any rejects = false ∨
      (∃ error, r = .error (.error error)) ∧ xs.any rejects = true) := by
  refine Dialogue.Yields.andThen (request_yields .apiKey) ?_ ?_
  · intro xs apiKey h
    obtain ⟨x, rfl, hx⟩ := h
    cases hx
    cases apiKey with
    | none => exact ⟨by simp [isCredential], .inr ⟨⟨_, rfl⟩, rfl⟩⟩
    | some apiKey =>
        refine (propagate_yields id (validateApiKey apiKey)).mono fun ys r hy => ?_
        obtain ⟨rfl, rfl⟩ := hy
        refine ⟨by simp [isCredential], ?_⟩
        cases hkey : validateApiKey apiKey with
        | ok _ => exact .inl ⟨rfl, by simp [rejects, hkey]⟩
        | error error => exact .inr ⟨⟨_, rfl⟩, by simp [rejects, hkey]⟩
  · intro xs fault h
    obtain ⟨x, -, hx⟩ := h
    cases hx

section

variable {platform : Node.Platform} {owners : Node.Owners} {nodeId : NodeId}
  {listenEndpoint : String} {connectEndpoint : Option String}

/-- How the construction of a Node ends. -/
inductive Constructed (platform : Node.Platform) (owners : Node.Owners) (nodeId : NodeId)
    (listenEndpoint : String) (connectEndpoint : Option String) (deck : Option DeckSelection)
    (provider : AgentProvider) (xs : List Asked) : Except (Fault String) Node → Prop
  | built {node : Node} : xs.any rejects = false →
      Node.checkListening listenEndpoint connectEndpoint = .ok () →
      node.Composed platform ⟨nodeId, platform.incarnation⟩ (runtimeIdentity platform nodeId)
        listenEndpoint connectEndpoint (coreServices owners deck) (definitions deck provider) →
      Constructed platform owners nodeId listenEndpoint connectEndpoint deck provider xs (.ok node)
  | refused {error : String} :
      xs.any rejects = true ∨ Node.checkListening listenEndpoint connectEndpoint ≠ .ok () →
      Constructed platform owners nodeId listenEndpoint connectEndpoint deck provider xs
        (.error (.error error))

/-- A constructor that refuses an endpoint and nothing else. -/
theorem constructed_of_listening (deck : Option DeckSelection) (provider : AgentProvider)
    (xs : List Asked) {constructor : Except Node.NodeBuildError Node}
    (hxs : xs.any rejects = false)
    (h : ∃ node : Node, node.Composed platform ⟨nodeId, platform.incarnation⟩
        (runtimeIdentity platform nodeId) listenEndpoint connectEndpoint
        (coreServices owners deck) (definitions deck provider) ∧
      constructor = (Node.checkListening listenEndpoint connectEndpoint).map fun _ => node) :
    (propagate Node.NodeBuildError.message constructor).run.Yields fun ys r =>
      ys = [] ∧ Constructed platform owners nodeId listenEndpoint connectEndpoint deck provider xs
        r := by
  obtain ⟨node, hnode, rfl⟩ := h
  refine (propagate_yields _ _).mono fun ys r hy => ?_
  obtain ⟨rfl, rfl⟩ := hy
  cases hlisten : Node.checkListening listenEndpoint connectEndpoint with
  | ok _ => exact ⟨rfl, .built hxs hlisten hnode⟩
  | error error => exact ⟨rfl, .refused (.inr (by simp [hlisten]))⟩

theorem construct_yields (hkeyExpr : ∀ key, PlainKey key → platform.keyExpr key = .ok ())
    (deck : Option DeckSelection) (provider : AgentProvider) :
    (construct platform owners nodeId listenEndpoint connectEndpoint deck provider).run.Yields
      fun xs r => (∀ x ∈ xs, isCredential x) ∧
        Constructed platform owners nodeId listenEndpoint connectEndpoint deck provider xs r := by
  have hid : RuntimeHostId.new (Node.runtimeHostName nodeId) =
      some ⟨Node.runtimeHostName nodeId, Node.runtimeHostName_valid nodeId⟩ :=
    dif_pos (Node.runtimeHostName_valid nodeId)
  have hvalid (definition : CardDefinitionRef) (h : Deck.validateField "" definition.value
      Deck.MAX_DEFINITION_REF_BYTES = .ok ()) := Deck.validateField_ok.mp h
  rw [construct]
  simp only [hid]
  cases deck with
  | none =>
      rw [if_neg (by simp)]
      refine (constructed_of_listening none provider [] rfl
        (Node.new_eq hkeyExpr)).mono fun xs r h => ?_
      obtain ⟨rfl, hr⟩ := h
      exact ⟨by simp, hr⟩
  | some deck =>
      cases provider with
      | deterministic =>
          rw [if_neg (by simp)]
          refine (constructed_of_listening (some deck) .deterministic [] rfl
            (Node.newWithAgent_eq hkeyExpr (hvalid _ (by decide +kernel)))).mono fun xs r h => ?_
          obtain ⟨rfl, hr⟩ := h
          exact ⟨by simp, hr⟩
      | deepSeekV4Flash =>
          cases deck
          rw [if_pos ⟨rfl, rfl⟩]
          refine Dialogue.Yields.andThen configFromEnv_yields ?_ ?_
          · intro xs _ h
            obtain ⟨hxs, ⟨-, hnone⟩ | ⟨⟨error, herror⟩, -⟩⟩ := h
            · refine Dialogue.Yields.andThen (request_yields .client) ?_ ?_
              · intro ys client hy
                obtain ⟨x, rfl, hx⟩ := hy
                cases hx
                have hall : ∀ x ∈ xs ++ [⟨.client, client⟩], isCredential x := by
                  simpa [or_imp, forall_and, isCredential] using hxs
                rw [Node.newWithDeepseekV4FlashAgent]
                cases client with
                | ok _ =>
                    refine (constructed_of_listening (some .builtinAgent) .deepSeekV4Flash
                      (xs ++ [⟨.client, .ok ()⟩]) (by simp [hnone, rejects])
                      (Node.newWithAgent_eq hkeyExpr (hvalid _ (by decide +kernel)))).mono
                        fun zs r hz => ?_
                    obtain ⟨rfl, hr⟩ := hz
                    exact ⟨by simpa using hall, by simpa using hr⟩
                | error error =>
                    refine (propagate_yields _ _).mono fun zs r hz => ?_
                    obtain ⟨rfl, rfl⟩ := hz
                    exact ⟨by simpa using hall, .refused (.inl (by simp [rejects]))⟩
              · intro ys fault hy
                obtain ⟨x, -, hx⟩ := hy
                cases hx
            · cases herror
          · intro xs fault h
            obtain ⟨hxs, ⟨hok, -⟩ | ⟨⟨error, herror⟩, hrejects⟩⟩ := h
            · cases hok
            · cases herror
              exact ⟨hxs, .refused (.inl hrejects)⟩

end

/-! ## What a transcript shows -/

/-- The lines that were to be printed. -/
def lines (xs : List Asked) : List (List UInt8) :=
  xs.filterMap fun x =>
    match x.question with
    | .println line => some line
    | _ => none

/-- The signal that ends a Node came. -/
def isInterrupt : Asked → Bool
  | ⟨.ctrlC, (interrupted : Except String Unit)⟩ => interrupted = .ok ()
  | _ => false

/-- A line could not be printed. -/
def isUnprinted : Asked → Bool
  | ⟨.println _, (written : Except String Unit)⟩ => written ≠ .ok ()
  | _ => false

/-- The status of a peer, read from the line that reports it. -/
def readPeer (line : List UInt8) : Option NodeRuntimeStatus := do
  let fields ← (← Json.decode line).structFields ["peer"]
  (Json.field fields "peer").bind NodeRuntimeStatus.ofJson

theorem readPeer_peerReport (status : NodeRuntimeStatus) :
    readPeer (peerReport status).encode = some status := by
  rw [readPeer, Json.decode_encode]
  simp [peerReport, Json.fieldValues, Json.insertField, Json.structFields,
    Json.field, NodeRuntimeStatus.ofJson_toValue]

section

variable (reader : Reader) (nodeId : NodeId) (peer : Option NodeId) (timeout : Nat)

/-- The line reports what the peer answered. -/
def ReportsPeer (xs : List Asked) (line : List UInt8) : Prop :=
  ∃ target payload status, peer = some target ∧ target ≠ nodeId ∧
    ⟨.query (runtimeStatusKey target) timeout, .ok payload⟩ ∈ xs ∧
    decodeRuntimeStatus reader.fromSlice reader.reason target payload = .ok status ∧
    line = (peerReport status).encode ∧ readPeer line = some status

/-- Only the status of the peer is queried. -/
def QueriesPeer (xs : List Asked) : Prop :=
  ∀ x ∈ xs, ∀ key deadline, x.question = .query key deadline →
    deadline = timeout ∧ ∃ target, peer = some target ∧ target ≠ nodeId ∧
      key = runtimeStatusKey target

variable {reader nodeId peer timeout} {own : List UInt8} {xs : List Asked}
  {r : Except (Fault String) Unit}

theorem probed_eq_ok {target : NodeId} {answer : Except FabricError (List UInt8)}
    {status : NodeRuntimeStatus} (h : probed reader target answer = .ok status) :
    ∃ payload, answer = .ok payload ∧
      decodeRuntimeStatus reader.fromSlice reader.reason target payload = .ok status := by
  cases answer with
  | error error => cases h
  | ok payload =>
      refine ⟨payload, rfl, ?_⟩
      rw [probed] at h
      cases hdecode : decodeRuntimeStatus reader.fromSlice reader.reason target payload with
      | error error =>
          rw [hdecode] at h
          cases h
      | ok status' =>
          rw [hdecode] at h
          cases h
          rfl

theorem Transcript.not_rejects (h : Transcript reader own nodeId peer timeout xs r) :
    xs.any rejects = false := by
  cases h <;> rfl

theorem Transcript.lines_eq (h : Transcript reader own nodeId peer timeout xs r) :
    ∃ rest, lines xs = own :: rest ∧
      ∀ line ∈ rest, ReportsPeer reader nodeId peer timeout xs line := by
  cases h with
  | unprinted error => exact ⟨[], rfl, by simp⟩
  | unflushed error => exact ⟨[], rfl, by simp⟩
  | alone x hpeer => exact ⟨[], rfl, by simp⟩
  | itself hpeer => exact ⟨[], rfl, by simp⟩
  | unprobed hpeer htarget hprobed => exact ⟨[], rfl, by simp⟩
  | unreported error hpeer htarget hprobed =>
      obtain ⟨payload, rfl, hdecode⟩ := probed_eq_ok hprobed
      refine ⟨[_], rfl, ?_⟩
      rintro _ (_ | ⟨_, ⟨⟩⟩)
      exact ⟨_, payload, _, hpeer, htarget, by simp [flushed], hdecode, rfl,
        readPeer_peerReport _⟩
  | unflushedReport error hpeer htarget hprobed =>
      obtain ⟨payload, rfl, hdecode⟩ := probed_eq_ok hprobed
      refine ⟨[_], rfl, ?_⟩
      rintro _ (_ | ⟨_, ⟨⟩⟩)
      exact ⟨_, payload, _, hpeer, htarget, by simp [flushed], hdecode, rfl,
        readPeer_peerReport _⟩
  | accompanied x hpeer htarget hprobed =>
      obtain ⟨payload, rfl, hdecode⟩ := probed_eq_ok hprobed
      refine ⟨[_], rfl, ?_⟩
      rintro _ (_ | ⟨_, ⟨⟩⟩)
      exact ⟨_, payload, _, hpeer, htarget, by simp [flushed], hdecode, rfl,
        readPeer_peerReport _⟩

theorem Transcript.queries (h : Transcript reader own nodeId peer timeout xs r) :
    QueriesPeer nodeId peer timeout xs := by
  cases h <;> simp [QueriesPeer, flushed, printed, *]

theorem Transcript.interrupted_iff (h : Transcript reader own nodeId peer timeout xs r) :
    r = .ok () ↔ xs.any isInterrupt = true := by
  cases h with
  | alone x hpeer => cases x <;> simp [flushed, printed, isInterrupt, Except.mapError]
  | accompanied x hpeer htarget hprobed =>
      cases x <;> simp [flushed, printed, isInterrupt, Except.mapError]
  | _ => simp [flushed, printed, isInterrupt]

theorem Transcript.unprintable (h : Transcript reader own nodeId peer timeout xs r)
    {message : String} (hr : r = .error (.panic message)) : xs.any isUnprinted = true := by
  cases h with
  | alone x hpeer => cases x <;> cases hr
  | accompanied x hpeer htarget hprobed => cases x <;> cases hr
  | unprinted error => rfl
  | unreported error hpeer htarget hprobed => simp [flushed, printed, isUnprinted]
  | _ => cases hr

end

/-! ## The Node of a process -/

section

variable {platform : Node.Platform} {node : Node} {nodeId : NodeId} {listenEndpoint : String}
  {connectEndpoint : Option String} {services : List CoreService}
  {cards : List CardDefinitionRef}

/-- A Node that was constructed starts its course. -/
theorem course_of_composed (h : node.Composed platform ⟨nodeId, platform.incarnation⟩
      (runtimeIdentity platform nodeId) listenEndpoint connectEndpoint services cards) :
    node.runtime.Course node.console.snapshot node.console ∧
      Level node.runtime .created .created .created node.console.snapshot ∧
      node.console.invocations = [] := by
  obtain ⟨deckLaunch, hbuild, -⟩ := h.built
  obtain ⟨hl, htrace⟩ := Paraegox.Runtime.RuntimeHost.build_level hbuild
  refine ⟨Paraegox.Runtime.RuntimeHost.build_course hbuild, hl, ?_⟩
  rw [Console.invocations, htrace]
  rfl

/-- The status line of a Node that is ready: it fits into a Fabric message and is read back. -/
structure StatusLine (platform : Node.Platform) (reader : Reader) (nodeId : NodeId) (node : Node)
    (line : List UInt8) (status : NodeRuntimeStatus) : Prop where
  text : line = status.toJson.encode
  identity : status.node = ⟨nodeId, platform.incarnation⟩
  host : status.runtime.fixedPart = node.console.snapshot.fixedPart
  ready : status.runtime.FullyReady
  fits : line.length ≤ 64 * 1024
  decodes : decodeRuntimeStatus reader.fromSlice reader.reason nodeId line = .ok status

theorem statusLine_of_good {reader : Reader}
    (hfromSlice : ∀ status : NodeRuntimeStatus,
      reader.fromSlice status.toJson.encode = some status.toJson)
    (hsha256 : ∀ bytes, (platform.sha256 bytes).length = 32)
    (h : node.Composed platform ⟨nodeId, platform.incarnation⟩ (runtimeIdentity platform nodeId)
      listenEndpoint connectEndpoint services cards)
    {snapshot : RuntimeHostSnapshot} (hstate : snapshot.state = .ready)
    (hgood : Paraegox.Runtime.RuntimeHostSnapshot.Good node.console.snapshot snapshot) :
    StatusLine platform reader nodeId node
      (⟨node.identity, snapshot, ⟨true⟩⟩ : NodeRuntimeStatus).toJson.encode
      ⟨node.identity, snapshot, ⟨true⟩⟩ := by
  obtain ⟨deckLaunch, hbuild, hlaunch, -⟩ := h.built
  have hcompiled := Node.compiled_of_fixedPart hgood.fixedPart
    (Node.compiled_of_build hsha256 hlaunch hbuild)
  refine ⟨rfl, h.identified, hgood.fixedPart, hgood.sound.ready hstate, ?_, ?_⟩
  · rw [Json.length_encode]
    exact NodeRuntimeStatus.encodedLen_le ⟨node.identity, snapshot, ⟨true⟩⟩ hcompiled
  · rw [Node.decodeRuntimeStatus_ok, hfromSlice, Option.bind_some, NodeRuntimeStatus.ofJson_toJson]
    exact ⟨rfl, by rw [h.identified], hstate, rfl⟩

end

section

variable (platform : Node.Platform) (owners : Node.Owners) (reader : Reader) (nodeId : NodeId)
  (listenEndpoint : String) (connectEndpoint : Option String) (peer : Option NodeId)
  (timeout : Nat) (deck : Option DeckSelection) (provider : AgentProvider)

/-- How `paraegox node run` ends, and what it said before. -/
structure Orderly (xs : List Asked) (ended : Ended) : Prop where
  /-- A Node is refused for its credentials or its endpoints, and for nothing else. -/
  refused : ended.node = none ↔
    xs.any rejects = true ∨ Node.checkListening listenEndpoint connectEndpoint ≠ .ok ()
  composed : ∀ node c, ended.node = some (node, c) →
    node.Composed platform ⟨nodeId, platform.incarnation⟩ (runtimeIdentity platform nodeId)
      listenEndpoint connectEndpoint (coreServices owners deck) (definitions deck provider)
  /-- Its owners were started in order, and are stopped in reverse. -/
  bracketed : ∀ node c, ended.node = some (node, c) → c.Bracketed node.runtime
  /-- Unless the process panicked, the host is down. -/
  down : ∀ node c, ended.node = some (node, c) → xs.any isUnprinted = false →
    c.snapshot.state = .stopped ∨ c.snapshot.state = .failed
  panicked : ∀ message, ended.result = .error (.panic message) → xs.any isUnprinted = true
  /-- It is a success to be interrupted and to stop. -/
  succeeded : ended.result = .ok () ↔ xs.any isInterrupt = true ∧
    ∃ node c, ended.node = some (node, c) ∧ c.snapshot.state = .stopped
  /-- The first line is the status of a Node that is ready. -/
  announced : ∀ line ∈ (lines xs).head?, ∃ node c status, ended.node = some (node, c) ∧
    StatusLine platform reader nodeId node line status
  /-- Any other line is the status of the peer. -/
  reported : ∀ line ∈ (lines xs).tail, ReportsPeer reader nodeId peer timeout xs line
  queried : QueriesPeer nodeId peer timeout xs

variable {platform owners reader nodeId listenEndpoint connectEndpoint peer timeout deck provider}

theorem lines_of_credentials {xs : List Asked} (h : ∀ x ∈ xs, isCredential x) : lines xs = [] := by
  rw [lines, List.filterMap_eq_nil_iff]
  intro x hx
  rcases h x hx with hq | hq <;> rw [hq]

theorem any_of_credentials {xs : List Asked} (h : ∀ x ∈ xs, isCredential x) :
    xs.any isInterrupt = false ∧ xs.any isUnprinted = false := by
  simp only [List.any_eq_false]
  refine ⟨?_, ?_⟩ <;> intro x hx <;> obtain ⟨q, a⟩ := x <;> rcases h _ hx with hq | hq <;>
    cases hq <;> simp [isInterrupt, isUnprinted]

variable {xs ys : List Asked} {node : Node} {c : Console}

/-- A Node that was built, with what it asked once it was started. -/
theorem Orderly.of_transcript {own : List UInt8} {r result : Except (Fault String) Unit}
    {status : NodeRuntimeStatus} (hxs : ∀ x ∈ xs, isCredential x)
    (hrejects : xs.any rejects = false)
    (hlisten : Node.checkListening listenEndpoint connectEndpoint = .ok ())
    (hnode : node.Composed platform ⟨nodeId, platform.incarnation⟩
      (runtimeIdentity platform nodeId) listenEndpoint connectEndpoint
      (coreServices owners deck) (definitions deck provider))
    (htranscript : Transcript reader own nodeId peer timeout ys r)
    (hown : StatusLine platform reader nodeId node own status)
    (hbracketed : c.Bracketed node.runtime)
    (hdown : (∀ message, r ≠ .error (.panic message)) →
      c.snapshot.state = .stopped ∨ c.snapshot.state = .failed)
    (hpanicked : ∀ message, result = .error (.panic message) →
      ∃ message, r = .error (.panic message))
    (hsucceeded : result = .ok () ↔ r = .ok () ∧ c.snapshot.state = .stopped) :
    Orderly platform owners reader nodeId listenEndpoint connectEndpoint peer timeout deck provider
      (xs ++ ys) ⟨result, some (node, c)⟩ := by
  obtain ⟨rest, hlines, hrest⟩ := htranscript.lines_eq
  have hall : lines (xs ++ ys) = own :: rest := by
    rw [lines, List.filterMap_append, ← lines, ← lines, lines_of_credentials hxs, hlines,
      List.nil_append]
  obtain ⟨hinterrupt, hunprinted⟩ := any_of_credentials hxs
  have hqueried : QueriesPeer nodeId peer timeout (xs ++ ys) := by
    intro x hx key deadline hq
    rcases List.mem_append.mp hx with hx | hx
    · rcases hxs x hx with hcredential | hcredential <;> rw [hq] at hcredential <;>
        cases hcredential
    · exact htranscript.queries x hx key deadline hq
  refine ⟨?_, ?_, ?_, ?_, ?_, ?_, ?_, ?_, hqueried⟩
  · simp [hrejects, htranscript.not_rejects, hlisten]
  · intro node' c' heq
    cases heq
    exact hnode
  · intro node' c' heq
    cases heq
    exact hbracketed
  · intro node' c' heq hprinted
    cases heq
    refine hdown fun message hr => ?_
    rw [List.any_append, htranscript.unprintable hr, Bool.or_true] at hprinted
    cases hprinted
  · intro message hresult
    obtain ⟨message', hr⟩ := hpanicked message hresult
    rw [List.any_append, htranscript.unprintable hr, Bool.or_true]
  · rw [List.any_append, hinterrupt, Bool.false_or, ← htranscript.interrupted_iff]
    refine hsucceeded.trans (and_congr_right fun _ => ⟨fun h => ⟨node, c, rfl, h⟩, ?_⟩)
    intro h
    obtain ⟨node', c', heq, hstate⟩ := h
    cases heq
    exact hstate
  · intro line hline
    rw [hall] at hline
    cases hline
    exact ⟨node, c, status, rfl, hown⟩
  · intro line hline
    rw [hall] at hline
    obtain ⟨target, payload, peerStatus, hpeer, htarget, hmem, hdecode, hreport⟩ := hrest line hline
    exact ⟨target, payload, peerStatus, hpeer, htarget, List.mem_append_right _ hmem, hdecode,
      hreport⟩

/-- Nothing was asked but credentials: the Node was refused, or it did not start. -/
theorem Orderly.of_credentials {error : String} {built : Option (Node × Console)}
    (hxs : ∀ x ∈ xs, isCredential x)
    (hrefused : built = none ↔
      xs.any rejects = true ∨ Node.checkListening listenEndpoint connectEndpoint ≠ .ok ())
    (hnode : ∀ node c, built = some (node, c) →
      node.Composed platform ⟨nodeId, platform.incarnation⟩ (runtimeIdentity platform nodeId)
        listenEndpoint connectEndpoint (coreServices owners deck) (definitions deck provider) ∧
      c.Bracketed node.runtime ∧ c.snapshot.state = .failed) :
    Orderly platform owners reader nodeId listenEndpoint connectEndpoint peer timeout deck provider
      xs ⟨.error (.error error), built⟩ := by
  obtain ⟨hinterrupt, hunprinted⟩ := any_of_credentials hxs
  refine ⟨hrefused, fun node c h => (hnode node c h).1, fun node c h => (hnode node c h).2.1,
    fun node c h _ => .inr (hnode node c h).2.2, ?_, ?_, ?_, ?_, ?_⟩
  · intro message h
    cases h
  · simp [hinterrupt]
  · simp [lines_of_credentials hxs]
  · simp [lines_of_credentials hxs]
  · intro x hx key deadline hq
    rcases hxs x hx with hcredential | hcredential <;> rw [hq] at hcredential <;>
      cases hcredential

theorem runNode_yields (hkeyExpr : ∀ key, PlainKey key → platform.keyExpr key = .ok ())
    (hfromSlice : ∀ status : NodeRuntimeStatus,
      reader.fromSlice status.toJson.encode = some status.toJson)
    (hsha256 : ∀ bytes, (platform.sha256 bytes).length = 32) :
    (runNode platform owners reader nodeId listenEndpoint connectEndpoint peer timeout deck
      provider).Yields (Orderly platform owners reader nodeId listenEndpoint connectEndpoint peer
        timeout deck provider) := by
  refine Dialogue.Yields.bind (construct_yields hkeyExpr deck provider) fun xs r h => ?_
  obtain ⟨hxs, hr⟩ := h
  cases hr with
  | refused hrefused =>
      refine Orderly.of_credentials (by simpa using hxs) ?_ ?_
      · simpa using hrefused
      · intro node c heq
        cases heq
  | @built node hrejects hlisten hnode =>
      obtain ⟨hcourse, hl, hcalls⟩ := course_of_composed hnode
      obtain ⟨r, c, hcalled, hcourse', hstart⟩ := start_called hcourse hl hcalls
      simp only [hcalled]
      rcases hstart with ⟨rfl, hall, hl', hcalls'⟩ | ⟨⟨error, rfl⟩, hstate⟩
      · have hown := statusLine_of_good hfromSlice hsha256 hnode hl'.state hcourse'.good
        obtain ⟨stopResult, c', hstopped, hcourse'', hstop⟩ :=
          stop_called hcourse' hall hl' hcalls'
        refine Dialogue.Yields.bind (running_yields reader node hl'.state peer timeout)
          fun ys r htranscript => ?_
        rw [show node.identity.nodeId = nodeId by rw [hnode.identified]] at htranscript
        cases r with
        | ok _ =>
            simp only [hstopped]
            show Orderly platform owners reader nodeId listenEndpoint connectEndpoint peer timeout
              deck provider (xs ++ (ys ++ [])) ⟨settle (.ok ()) stopResult, some (node, c')⟩
            rw [List.append_nil]
            refine .of_transcript hxs hrejects hlisten hnode htranscript hown
              hcourse''.position.bracketed (fun _ => ?_) ?_ ?_
            all_goals rcases hstop with ⟨rfl, hstate⟩ | ⟨⟨error, rfl⟩, hstate⟩ <;>
              simp [settle, hstate]
        | error fault =>
            cases fault with
            | panic message =>
                show Orderly platform owners reader nodeId listenEndpoint connectEndpoint peer
                  timeout deck provider (xs ++ (ys ++ []))
                  ⟨.error (.panic message), some (node, c)⟩
                rw [List.append_nil]
                exact .of_transcript hxs hrejects hlisten hnode htranscript hown
                  hcourse'.position.bracketed (fun h => absurd rfl (h message))
                  (fun _ _ => ⟨message, rfl⟩) (by simp)
            | error error =>
                simp only [hstopped]
                show Orderly platform owners reader nodeId listenEndpoint connectEndpoint peer
                  timeout deck provider (xs ++ (ys ++ []))
                  ⟨settle (.error error) stopResult, some (node, c')⟩
                rw [List.append_nil]
                refine .of_transcript hxs hrejects hlisten hnode htranscript hown
                  hcourse''.position.bracketed (fun _ => ?_) ?_ ?_
                all_goals rcases hstop with ⟨rfl, hstate⟩ | ⟨⟨error, rfl⟩, hstate⟩ <;>
                  simp [settle, hstate]
      · refine Orderly.of_credentials (by simpa using hxs) ?_ ?_
        · simp [hrejects, hlisten]
        · intro node' c' heq
          cases heq
          exact ⟨hnode, hcourse'.position.bracketed, hstate⟩

/-! ## Main results -/

/-- What a result becomes: an exit code, and an error a line on the standard error. -/
inductive Exits (xs : List Asked) : Except (Fault String) Unit → List Asked → Nat → Prop
  | ok : Exits xs (.ok ()) xs 0
  | error (error : String) : Exits xs (.error (.error error))
      (xs ++ [⟨.eprintln ("error: " ++ error), .ok ()⟩]) 1
  | unreported (error reason : String) : Exits xs (.error (.error error))
      (xs ++ [⟨.eprintln ("error: " ++ error), .error reason⟩]) PANICKED
  | panic (message : String) : Exits xs (.error (.panic message)) xs PANICKED

theorem Exits.lines_eq {result : Except (Fault String) Unit} {code : Nat}
    (h : Exits xs result ys code) : lines ys = lines xs := by
  cases h with
  | ok => rfl
  | panic message => rfl
  | _ => simp [lines]

theorem Exits.subset {result : Except (Fault String) Unit} {code : Nat}
    (h : Exits xs result ys code) : xs ⊆ ys := by
  cases h with
  | ok => exact List.Subset.refl _
  | panic message => exact List.Subset.refl _
  | _ => exact List.subset_append_left _ _

theorem finish_yields (result : Except (Fault String) Unit) (xs : List Asked) :
    (finish result).Yields fun ys code => Exits xs result (xs ++ ys) code := by
  cases result with
  | ok _ =>
      show Exits xs (.ok ()) (xs ++ []) 0
      rw [List.append_nil]
      exact .ok
  | error fault =>
      cases fault with
      | panic message =>
          show Exits xs (.error (.panic message)) (xs ++ []) PANICKED
          rw [List.append_nil]
          exact .panic message
      | error error =>
          refine ⟨trivial, fun written _ => ?_⟩
          cases written with
          | ok _ => exact .error error
          | error reason => exact .unreported error reason

/-- `main` on an accepted `paraegox node run`. -/
theorem main_yields (hkeyExpr : ∀ key, PlainKey key → platform.keyExpr key = .ok ())
    (hfromSlice : ∀ status : NodeRuntimeStatus,
      reader.fromSlice status.toJson.encode = some status.toJson)
    (hsha256 : ∀ bytes, (platform.sha256 bytes).length = 32)
    (tui : NodeId → String → Nat → Bool → Process Unit) {arguments : List String}
    (h : parseCommand arguments =
      .ok (.run nodeId listenEndpoint connectEndpoint peer timeout deck provider)) :
    (main platform owners reader tui arguments).Yields fun xs exit => ∃ ys ended,
      Orderly platform owners reader nodeId listenEndpoint connectEndpoint peer timeout deck
        provider ys ended ∧ exit.node = ended.node ∧ Exits ys ended.result xs exit.code := by
  rw [main, h]
  refine Dialogue.Yields.bind (runNode_yields hkeyExpr hfromSlice hsha256) fun ys ended hended => ?_
  refine Dialogue.Yields.bind (finish_yields ended.result ys) fun zs code hcode => ?_
  refine ⟨ys, ended, hended, rfl, ?_⟩
  rwa [List.append_nil]

variable (owners)

end

/-- A Node with an Agent whose owners all start and stop. -/
def loneOwners : Node.Owners where
  fabric := ⟨.ok, .ok⟩
  agent := ⟨.ok, .ok⟩
  cardStart _ := .ok
  cardStop := .ok
  handler _ _ := .ok []

def lonePlatform : Node.Platform where
  keyExpr := reservedKeyExpr
  sha256 := Node.loneSha256
  sort := .insertion
  incarnation := ⟨⟨1⟩⟩
  epoch := ⟨⟨2⟩⟩
  deckRunId := ⟨⟨3⟩⟩
  freshId i := ⟨⟨BitVec.ofNat 128 i⟩⟩

theorem lonePlatform_keyExpr (key : String) (h : PlainKey key) :
    lonePlatform.keyExpr key = .ok () :=
  reservedKeyExpr_plain key h

theorem lonePlatform_sha256 (bytes : List UInt8) : (lonePlatform.sha256 bytes).length = 32 := rfl

def loneReader : Reader := ⟨Json.decode, fun _ => ""⟩

theorem loneReader_fromSlice (status : NodeRuntimeStatus) :
    loneReader.fromSlice status.toJson.encode = some status.toJson :=
  Json.decode_encode status.toJson

/-- Everything is written, no peer answers, and the signal comes. -/
def obliging : (q : Question) → q.Answer
  | .apiKey => (none : Option String)
  | .client => (.ok () : Except String Unit)
  | .println _ => (.ok () : Except String Unit)
  | .eprintln _ => (.ok () : Except String Unit)
  | .flush => (.ok () : Except String Unit)
  | .query _ _ => (.error ⟨"no response"⟩ : Except FabricError (List UInt8))
  | .queryAt _ _ _ => (.error ⟨"no response"⟩ : Except FabricError (List UInt8))
  | .ctrlC => (.ok () : Except String Unit)

end Process

end Paraegox
