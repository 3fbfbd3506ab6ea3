import Paraegox.Node.ProcessRuns

/-!
# A Node and its peer

Two processes meet where one queries the status of the other.  What the first one prints of
the second is a snapshot that the host of the second published.
-/

namespace Paraegox.Process

open Cli (AgentProvider DeckSelection parseCommand)
open Fabric (FabricError)
open Node (NodeRuntimeStatus runtimeStatusKey)
open Paraegox.Runtime (Console CoreService RuntimeHostIdentity RuntimeHostSnapshot)

section

variable {platform : Node.Platform} {reader : Reader} {nodeId : NodeId}
  {listenEndpoint : String} {connectEndpoint : Option String} {timeout : Nat}
  {deck : Option DeckSelection} {provider : AgentProvider}

/-- What a Node answers to a status query while its host shows this snapshot. -/
def statusAnswer (node : Node.NodeIdentity) (snapshot : RuntimeHostSnapshot) :
    Except FabricError (List UInt8) :=
  Fabric.receiveReply (Fabric.serveRequest none (Node.runtimeStatusHandler node) snapshot)

/-- An answer that is a payload is the status of a host that is ready. -/
theorem statusAnswer_ok {node : Node.NodeIdentity} {snapshot : RuntimeHostSnapshot}
    {payload : List UInt8} (h : statusAnswer node snapshot = .ok payload) :
    snapshot.state = .ready ∧
      payload = (⟨node, snapshot, ⟨true⟩⟩ : NodeRuntimeStatus).toJson.encode := by
  rw [statusAnswer, Fabric.serveRequest] at h
  split_ifs at h with hstate
  · cases h
  rw [not_not] at hstate
  refine ⟨hstate, ?_⟩
  have hhandler : Node.runtimeStatusHandler node snapshot [] =
      .ok (⟨node, snapshot, ⟨true⟩⟩ : NodeRuntimeStatus).toJson.encode := by
    rw [Node.runtimeStatusHandler, Node.encodeRuntimeStatus, NodeRuntimeStatus.ready,
      if_neg (not_not.mpr hstate)]
    rfl
  rw [Option.getD_none, hhandler, Fabric.handlerReply] at h
  split_ifs at h with hlen
  · rw [Fabric.receiveReply, if_neg (Nat.not_lt.mpr hlen)] at h
    cases h
    rfl
  · cases h

/-- What a Node reports of its peer is what the peer published: where every query of the status
of the peer is answered by its binding, on one snapshot of its host or another, the line that
is printed reads as such a snapshot, and the host is ready in it to the last Card. -/
theorem peer_report_truthful (owners : Node.Owners)
    (hkeyExpr : ∀ key, PlainKey key → platform.keyExpr key = .ok ())
    (hfromSlice : ∀ status : NodeRuntimeStatus,
      reader.fromSlice status.toJson.encode = some status.toJson)
    (hsha256 : ∀ bytes, (platform.sha256 bytes).length = 32)
    (tui : NodeId → String → Nat → Bool → Process Unit) {arguments : List String}
    {peer : Node.NodeIdentity}
    (h : parseCommand arguments =
      .ok (.run nodeId listenEndpoint connectEndpoint (some peer.nodeId) timeout deck provider))
    {identity : RuntimeHostIdentity} {services : List CoreService}
    {deckLaunch : Option Paraegox.Runtime.DeckLaunch} {deckRunId : Paraegox.Runtime.DeckRunId}
    {freshId : Nat → Paraegox.Runtime.CardInstanceId} {host : Paraegox.Runtime.RuntimeHost}
    {console : Console}
    (hbuild : Paraegox.Runtime.RuntimeHost.build identity services deckLaunch deckRunId freshId =
      .ok (host, console)) (calls : List Paraegox.Runtime.HostCall) :
    (main platform owners reader tui arguments).Yields fun xs _ =>
      (∀ deadline answer, ⟨.query (runtimeStatusKey peer.nodeId) deadline, answer⟩ ∈ xs →
        ∃ snapshot ∈ console.snapshot :: (host.performAll console calls).published,
          answer = statusAnswer peer snapshot) →
      ∀ line ∈ (lines xs).tail,
        ∃ snapshot ∈ console.snapshot :: (host.performAll console calls).published,
          readPeer line = some ⟨peer, snapshot, ⟨true⟩⟩ ∧ snapshot.FullyReady := by
  have hcourse := (Paraegox.Runtime.RuntimeHost.build_course hbuild).performAll calls
  have hgood : ∀ snapshot ∈ console.snapshot :: (host.performAll console calls).published,
      snapshot.Sound := by
    intro snapshot hmem
    rcases List.mem_cons.mp hmem with rfl | hmem
    · exact (Paraegox.Runtime.RuntimeHost.build_course hbuild).good.sound
    · exact (hcourse.published snapshot hmem).sound
  refine (main_yields hkeyExpr hfromSlice hsha256 tui h).mono fun xs exit hexit => ?_
  obtain ⟨ys, ended, hended, -, hexits⟩ := hexit
  intro hanswers line hline
  rw [hexits.lines_eq] at hline
  obtain ⟨target, payload, status, htarget, -, hmem, hdecode, -, hread⟩ :=
    hended.reported line hline
  cases htarget
  obtain ⟨snapshot, hsnapshot, hanswer⟩ := hanswers _ _ (hexits.subset hmem)
  obtain ⟨hstate, rfl⟩ := statusAnswer_ok hanswer.symm
  have hstatus : status = ⟨peer, snapshot, ⟨true⟩⟩ := by
    obtain ⟨hjson, -⟩ := Node.decodeRuntimeStatus_ok.mp hdecode
    rw [hfromSlice, Option.bind_some, NodeRuntimeStatus.ofJson_toJson] at hjson
    exact (Option.some.inj hjson).symm
  exact ⟨snapshot, hsnapshot, hstatus ▸ hread, (hgood snapshot hsnapshot).ready hstate⟩

end

def lonePeer : Node.NodeIdentity := ⟨⟨"node-b", by decide +kernel⟩, ⟨⟨4⟩⟩⟩

def lonePeerHost : RuntimeHostIdentity := ⟨⟨"node-b:runtime-0", by decide +kernel⟩, ⟨⟨5⟩⟩⟩

/-- As before, and the peer answers. -/
def accompanying : (q : Question) → q.Answer
  | .query _ _ => statusAnswer lonePeer ⟨lonePeerHost, .ready, none⟩
  | q => obliging q

/-- A Node with a peer, until it is interrupted. -/
def accompaniedRun : List Asked × Exit :=
  (main lonePlatform loneOwners loneReader (fun _ _ _ _ => pure ())
    ["node", "run", "--node-id", "node-a", "--connect", "tcp/127.0.0.1:7448", "--probe-peer",
      "node-b"]).answered accompanying

theorem accompanying_query (key : String) (deadline : Nat) :
    accompanying (.query key deadline) = statusAnswer lonePeer ⟨lonePeerHost, .ready, none⟩ := rfl

def lonePeerRuntime : Paraegox.Runtime.RuntimeHost :=
  ⟨[⟨.ok, .ok⟩], none, Paraegox.Runtime.OWNER_LIFECYCLE_TIMEOUT⟩

def lonePeerConsole : Console := ⟨⟨lonePeerHost, .created, none⟩, []⟩

theorem lonePeer_built : Paraegox.Runtime.RuntimeHost.build lonePeerHost [⟨.ok, .ok⟩] none
    ⟨⟨6⟩⟩ (fun _ => ⟨⟨7⟩⟩) = .ok (lonePeerRuntime, lonePeerConsole) := rfl

/-- What the peer answers, as the Node reads it. -/
def lonePeerStatus : Json :=
  (⟨lonePeer, ⟨lonePeerHost, .ready, none⟩, ⟨true⟩⟩ : NodeRuntimeStatus).toJson

theorem loneReader_eq : loneReader = ⟨fun payload =>
    if payload = lonePeerStatus.encode then some lonePeerStatus else Json.decode payload,
    fun _ => ""⟩ := by
  rw [loneReader, ← Json.decode_eq_ite]

theorem lonePeer_published : (⟨lonePeerHost, .ready, none⟩ : RuntimeHostSnapshot) ∈
    (lonePeerRuntime.performAll lonePeerConsole [.start]).published := by
  decide +kernel

/-- Its second line is the status of the peer. -/
theorem peer_report_truthful_node_b : ∃ line ∈ (lines accompaniedRun.1).tail, ∃ snapshot,
    readPeer line = some ⟨lonePeer, snapshot, ⟨true⟩⟩ ∧ snapshot.FullyReady := by
  have hparse : parseCommand ["node", "run", "--node-id", "node-a", "--connect",
      "tcp/127.0.0.1:7448", "--probe-peer", "node-b"] =
      .ok (.run ⟨"node-a", by decide +kernel⟩ "tcp/127.0.0.1:7447" (some "tcp/127.0.0.1:7448")
        (some lonePeer.nodeId) 2000 none .deterministic) := by
    decide +kernel
  have hsecond : (lines accompaniedRun.1).tail ≠ [] := by
    -- the kernel compares the answer with `lonePeerStatus` and does not parse it
    rw [accompaniedRun, loneReader_eq]
    decide +kernel
  obtain ⟨line, hmem⟩ := List.exists_mem_of_ne_nil _ hsecond
  have htruthful := peer_report_truthful loneOwners lonePlatform_keyExpr loneReader_fromSlice
    lonePlatform_sha256 (fun _ _ _ _ => pure ()) hparse lonePeer_built [.start]
  obtain ⟨snapshot, -, hread, hready⟩ := Dialogue.Yields.answered htruthful accompanying
    (fun deadline answer h => ⟨_, List.mem_cons_of_mem _ lonePeer_published,
      (Dialogue.answered_mem h).trans (accompanying_query _ _)⟩) line hmem
  exact ⟨line, hmem, snapshot, hread, hready⟩

end Paraegox.Process
