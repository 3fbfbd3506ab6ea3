import Paraegox.Deck.Compiler
import Paraegox.Node.Readiness

/-!
# Every status fits

The Deck, the host and the Node each bound their own fields.  A status is those fields
in an envelope of plain names, so the bounds add up; at worst every character of a key or
a definition is escaped.
-/

namespace Paraegox

open Json
open Paraegox.Deck (DeckCompiler ValidField)

/-! ## Fields -/

/-- A text without controls is at most twice as long when it is quoted. -/
theorem quoteLen_le_of_plain {s : String} {n : Nat} (hplain : ∀ c ∈ s.toList, isControl c = false)
    (hlen : s.utf8ByteSize ≤ n) : quoteLen s ≤ 2 * n + 2 := by
  have hquote : quoteLen s ≤ 2 * s.utf8ByteSize + 2 :=
    quoteLen_le fun c hc hctl => absurd hctl (by simp [hplain c hc])
  omega

theorem Deck.ValidField.quoteLen_le {s : String} {n : Nat} (h : ValidField s n) :
    quoteLen s ≤ 2 * n + 2 :=
  quoteLen_le_of_plain h.plain h.bounded

theorem RuntimeHostId.quoteLen_le (id : RuntimeHostId) : quoteLen id.value ≤ 258 := by
  obtain ⟨-, hlen, hplain⟩ := id.valid
  exact quoteLen_le_of_plain (fun c hc => by simpa using List.all_eq_true.mp hplain c hc) hlen

theorem NodeId.quoteLen_le (id : NodeId) : quoteLen id.value ≤ 130 :=
  quoteLen_le_of_plain (fun _ => id.valid.not_isControl) id.valid.1.2

/-- The hexadecimal text of a hash is plain and has two characters a byte. -/
theorem Deck.quoteLen_hexText (bytes : List UInt8) :
    quoteLen (Deck.hexText bytes) = 2 * bytes.length + 2 := by
  have hdigit : ∀ n < 16, isPlain (Nat.digitChar n) = true ∧ (Nat.digitChar n).utf8Size = 1 := by
    decide
  have hbyte : ∀ b, (Deck.hexByte b).all isPlain = true ∧ textLen (Deck.hexByte b) = 2 := by
    intro b
    have hb := b.toNat_lt
    obtain ⟨hhigh, hhigh'⟩ := hdigit (b.toNat / 16) (by omega)
    obtain ⟨hlow, hlow'⟩ := hdigit (b.toNat % 16) (by omega)
    exact ⟨by simp [Deck.hexByte, hhigh, hlow], by simp [Deck.hexByte, textLen, hhigh', hlow']⟩
  have hlen : textLen (bytes.flatMap Deck.hexByte) = 2 * bytes.length := by
    induction bytes with
    | nil => rfl
    | cons b bytes ih =>
        rw [List.flatMap_cons, textLen_append, (hbyte b).2, ih, List.length_cons]
        omega
  rw [Deck.hexText, quoteLen_of_isPlain, ← textLen_toList, String.toList_ofList, hlen]
  rw [String.toList_ofList, List.all_flatMap, List.all_eq_true]
  exact fun b _ => (hbyte b).1

theorem encodedLen_generation (n : UInt64) : (Json.num n.toNat).encodedLen ≤ 20 :=
  encodedLen_num_le (by decide) (n.toNat_lt.trans (by decide))

/-! ## Snapshots -/

namespace Runtime

/-- The fields of a Deck run that come from a compiled lock. -/
structure DeckRunSnapshot.Compiled (run : DeckRunSnapshot) : Prop where
  deckKey : ValidField run.deckKey.value Deck.MAX_DECK_KEY_BYTES
  lockDigest : quoteLen run.lockDigest ≤ 66
  count : run.cards.length ≤ Deck.MAX_CARDS_PER_DECK
  cards : ∀ card ∈ run.cards, ValidField card.key.value Deck.MAX_CARD_KEY_BYTES ∧
    ValidField card.definition.value Deck.MAX_DEFINITION_REF_BYTES

theorem CardInstanceState.encodedLen_le (state : CardInstanceState) :
    state.toJson.encodedLen ≤ 10 := by
  cases state <;> decide

theorem DeckRunState.encodedLen_le (state : DeckRunState) : state.toJson.encodedLen ≤ 10 := by
  cases state <;> decide

theorem RuntimeHostState.encodedLen_le (state : RuntimeHostState) :
    state.toJson.encodedLen ≤ 10 := by
  cases state <;> decide

theorem RuntimeHostIdentity.encodedLen_le (identity : RuntimeHostIdentity) :
    identity.toJson.encodedLen ≤ 325 := by
  have hnames : namesLen ["runtime_host_id", "epoch"] = 29 := by decide
  have hid := identity.runtimeHostId.quoteLen_le
  rw [toJson, encodedLen_obj]
  simp only [List.map_cons, List.map_nil, List.sum_cons, List.sum_nil, hnames, encodedLen_str,
    quoteLen_hyphenated]
  omega

theorem CardInstanceSnapshot.encodedLen_le {card : CardInstanceSnapshot}
    (hkey : ValidField card.key.value Deck.MAX_CARD_KEY_BYTES)
    (hdefinition : ValidField card.definition.value Deck.MAX_DEFINITION_REF_BYTES) :
    card.toJson.encodedLen ≤ 905 := by
  have hnames : namesLen ["card_instance_id", "key", "definition", "generation", "state"] = 65 := by
    decide
  have hkeyLen : quoteLen card.key.value ≤ 258 := hkey.quoteLen_le
  have hdefinitionLen : quoteLen card.definition.value ≤ 514 := hdefinition.quoteLen_le
  have hgeneration := encodedLen_generation card.generation
  have hstate := card.state.encodedLen_le
  rw [toJson, encodedLen_obj]
  simp only [List.map_cons, List.map_nil, List.sum_cons, List.sum_nil, hnames, encodedLen_str,
    quoteLen_hyphenated]
  omega

theorem DeckRunSnapshot.Compiled.encodedLen_le {run : DeckRunSnapshot} (h : run.Compiled) :
    run.toJson.encodedLen ≤ 58453 := by
  have hnames : namesLen ["deck_run_id", "deck_key", "lock_digest", "generation", "state",
      "cards"] = 75 := by decide
  have hkeyLen : quoteLen run.deckKey.value ≤ 258 := h.deckKey.quoteLen_le
  have hdigestLen := h.lockDigest
  have hgeneration := encodedLen_generation run.generation
  have hstate := run.state.encodedLen_le
  have hcount : run.cards.length ≤ 64 := h.count
  have hcards : (Json.arr (run.cards.map CardInstanceSnapshot.toJson)).encodedLen ≤
      (run.cards.map CardInstanceSnapshot.toJson).length * (905 + 1) + 2 := by
    refine encodedLen_arr_le (List.forall_mem_map.mpr fun card hc => ?_)
    exact CardInstanceSnapshot.encodedLen_le (h.cards card hc).1 (h.cards card hc).2
  rw [List.length_map] at hcards
  rw [toJson, encodedLen_obj]
  simp only [List.map_cons, List.map_nil, List.sum_cons, List.sum_nil, hnames, encodedLen_str,
    quoteLen_hyphenated]
  omega

theorem RuntimeHostSnapshot.encodedLen_le {s : RuntimeHostSnapshot}
    (h : ∀ run ∈ s.deckRun, run.Compiled) : s.toJson.encodedLen ≤ 58822 := by
  have hnames : namesLen ["identity", "state", "deck_run"] = 34 := by decide
  have hidentity := s.identity.encodedLen_le
  have hstate := s.state.encodedLen_le
  rw [toJson, encodedLen_obj]
  simp only [List.map_cons, List.map_nil, List.sum_cons, List.sum_nil, hnames]
  split
  · have hnull : Json.null.encodedLen = 4 := by decide
    omega
  · next run hrun =>
    have hrunLen := (h run hrun).encodedLen_le
    omega

end Runtime

open Paraegox.Runtime

namespace Node

theorem NodeIdentity.encodedLen_le (node : NodeIdentity) : node.toJson.encodedLen ≤ 195 := by
  have hnames : namesLen ["node_id", "incarnation"] = 27 := by decide
  have hid := node.nodeId.quoteLen_le
  rw [toJson, encodedLen_obj]
  simp only [List.map_cons, List.map_nil, List.sum_cons, List.sum_nil, hnames, encodedLen_str,
    quoteLen_hyphenated]
  omega

/-- The status of a host with a compiled Deck fits a Fabric response. -/
theorem NodeRuntimeStatus.encodedLen_le (status : NodeRuntimeStatus)
    (h : ∀ run ∈ status.runtime.deckRun, run.Compiled) :
    status.toJson.encodedLen ≤ Fabric.MAX_PAYLOAD_BYTES := by
  have hnames : namesLen ["node", "runtime", "fabric"] = 30 := by decide
  have hfabric : (Json.obj [("ready", .bool status.fabric.ready)]).encodedLen ≤ 15 := by
    cases status.fabric.ready <;> decide
  have hnode := status.node.encodedLen_le
  have hruntime := RuntimeHostSnapshot.encodedLen_le h
  rw [toJson, encodedLen_obj]
  simp only [List.map_cons, List.map_nil, List.sum_cons, List.sum_nil, hnames]
  simp only [Fabric.MAX_PAYLOAD_BYTES]
  omega

/-! ## What a host publishes -/

/-- The Deck run of a snapshot has the fields it was built with. -/
theorem compiled_of_fixedPart {s s₀ : RuntimeHostSnapshot} (hfixed : s.fixedPart = s₀.fixedPart)
    (h : ∀ run ∈ s₀.deckRun, run.Compiled) : ∀ run ∈ s.deckRun, run.Compiled := by
  intro run hrun
  have hdeck := congrArg Prod.snd hfixed
  simp only [RuntimeHostSnapshot.fixedPart, Option.mem_def.mp hrun, Option.map_some] at hdeck
  obtain ⟨run₀, hrun₀, hidentity⟩ := Option.map_eq_some_iff.mp hdeck.symm
  simp only [DeckRunSnapshot.identity, Prod.mk.injEq] at hidentity
  obtain ⟨-, hkey, hdigest, -, hcards⟩ := hidentity
  have h₀ := h run₀ hrun₀
  refine ⟨hkey ▸ h₀.deckKey, hdigest ▸ h₀.lockDigest, ?_, fun card hc => ?_⟩
  · have hlen := congrArg List.length hcards
    rw [List.length_map, List.length_map] at hlen
    exact hlen ▸ h₀.count
  · have hmem : card.identity ∈ run₀.cards.map CardInstanceSnapshot.identity :=
      hcards ▸ List.mem_map_of_mem hc
    obtain ⟨card₀, hc₀, hsame⟩ := List.mem_map.mp hmem
    simp only [CardInstanceSnapshot.identity, Prod.mk.injEq] at hsame
    obtain ⟨-, hk, hd, -⟩ := hsame
    exact hk ▸ hd ▸ h₀.cards card₀ hc₀

/-- A compiled lock bounds the fields of the Deck run that is built from it. -/
theorem compiled_of_build {identity : RuntimeHostIdentity} {coreServices : List CoreService}
    {deckLaunch : Option DeckLaunch} {deckRunId : DeckRunId} {freshId : Nat → CardInstanceId}
    {host : RuntimeHost} {console : Console} {sha256 : List UInt8 → List UInt8}
    (hsha256 : ∀ bytes, (sha256 bytes).length = 32)
    (hlaunch : ∀ launch ∈ deckLaunch, ∃ sort compiler spec,
      DeckCompiler.compile sha256 sort compiler spec = .ok launch.lock)
    (hbuild : RuntimeHost.build identity coreServices deckLaunch deckRunId freshId =
      .ok (host, console)) : ∀ run ∈ console.snapshot.deckRun, run.Compiled := by
  simp only [RuntimeHost.build] at hbuild
  split_ifs at hbuild
  cases deckLaunch with
  | none =>
      cases hbuild
      intro run hrun
      cases hrun
  | some launch =>
      cases hbuild
      rintro run ⟨⟩
      obtain ⟨sort, compiler, spec, hcompile⟩ := hlaunch launch rfl
      have hvalid := ((DeckCompiler.compile_ok sha256 sort).mp hcompile).1
      obtain ⟨hkey, hperm, -⟩ := DeckCompiler.compile_cards hcompile
      refine ⟨hkey ▸ hvalid.key, ?_, ?_, fun card hc => ?_⟩
      · rw [DeckCompiler.compile_digest hcompile, Deck.deckDigest, Deck.quoteLen_hexText, hsha256]
      · simp only [cardSnapshots, List.length_zipWith, List.length_map, List.length_range,
          Nat.min_self, hperm.length_eq]
        exact hvalid.bounded
      · obtain ⟨resolved, hresolved, hk, hd⟩ :
            ∃ resolved ∈ launch.lock.cards, card.key = resolved.key ∧
              card.definition = resolved.definition := by
          obtain ⟨i, hi, rfl⟩ := List.mem_iff_getElem.mp hc
          simp only [cardSnapshots, List.length_zipWith] at hi
          exact ⟨launch.lock.cards[i], List.getElem_mem _, by simp [cardSnapshots]⟩
        obtain ⟨card', hc', rfl⟩ := List.mem_map.mp (hperm.mem_iff.mp hresolved)
        obtain ⟨hk', hd', -⟩ := hvalid.cards card' hc'
        exact ⟨hk ▸ hk', hd ▸ hd'⟩

/-- For every Node, host and compiled Deck: whatever snapshot the status query of the Node
reads, its answer is never too large for Fabric, and once the host is ready the answer is
the status. -/
theorem ready_status_fits {identity : RuntimeHostIdentity} {coreServices : List CoreService}
    {deckLaunch : Option DeckLaunch} {deckRunId : DeckRunId} {freshId : Nat → CardInstanceId}
    {host : RuntimeHost} {console : Console} {sha256 : List UInt8 → List UInt8}
    (hsha256 : ∀ bytes, (sha256 bytes).length = 32)
    (hlaunch : ∀ launch ∈ deckLaunch, ∃ sort compiler spec,
      DeckCompiler.compile sha256 sort compiler spec = .ok launch.lock)
    (hbuild : RuntimeHost.build identity coreServices deckLaunch deckRunId freshId =
      .ok (host, console)) (calls : List HostCall) (node : NodeIdentity) :
    ∀ s ∈ console.snapshot :: (host.performAll console calls).published,
      (s.state = .ready → ∃ payload, encodeRuntimeStatus node s = .ok payload ∧
        payload.encode.length ≤ 64 * 1024 ∧
        ∀ request, Fabric.serveRequest request (runtimeStatusHandler node) s =
          .reply payload.encode) ∧
      ∀ request, Fabric.serveRequest request (runtimeStatusHandler node) s ≠
        .replyErr "Fabric response exceeds 64 KiB" := by
  intro s hs
  have hfixed := (published_status_sound hbuild calls s hs).2.1
  have hcompiled := compiled_of_fixedPart hfixed (compiled_of_build hsha256 hlaunch hbuild)
  by_cases hstate : s.state = .ready
  · let payload : Json := (⟨node, s, ⟨true⟩⟩ : NodeRuntimeStatus).toJson
    have hencode : encodeRuntimeStatus node s = .ok payload := by
      rw [encodeRuntimeStatus, NodeRuntimeStatus.ready, if_neg (not_not.mpr hstate)]
      rfl
    have hlen : payload.encode.length ≤ Fabric.MAX_PAYLOAD_BYTES := by
      rw [length_encode]
      exact NodeRuntimeStatus.encodedLen_le ⟨node, s, ⟨true⟩⟩ hcompiled
    have hserve : ∀ request, Fabric.serveRequest request (runtimeStatusHandler node) s =
        .reply payload.encode := by
      intro request
      rw [Fabric.serveRequest, if_neg (not_not.mpr hstate), runtimeStatusHandler, hencode]
      exact (Fabric.handlerReply_of_le hlen).1
    refine ⟨fun _ => ⟨payload, hencode, hlen, hserve⟩, fun request => ?_⟩
    rw [hserve]
    intro h
    cases h
  · refine ⟨fun hready => absurd hready hstate, fun request => ?_⟩
    rw [Fabric.serveRequest, if_pos hstate]
    simp

/-- SHA-256 on the Deck of one Card below. -/
def loneSha256 (_bytes : List UInt8) : List UInt8 :=
  [150, 178, 117, 232, 211, 174, 88, 57, 221, 160, 8, 136, 169, 106, 17, 12, 117, 57, 52, 217, 151,
    186, 4, 18, 44, 161, 36, 37, 29, 225, 208, 241]

/-- A Deck of one Card, as `compile` seals it. -/
def loneLaunch : DeckLaunch where
  lock := ⟨⟨"deck"⟩, [⟨⟨"a"⟩, ⟨"agent"⟩⟩],
    "96b275e8d3ae5839dda00888a96a110c753934d997ba04122ca124251de1d0f1", by decide⟩
  implementations := [⟨⟨"a"⟩, ⟨"agent"⟩, fun _ => .ok, .ok⟩]
  implemented := .cons ⟨rfl, rfl⟩ .nil

theorem loneLaunch_compiled : ∃ sort compiler spec,
    DeckCompiler.compile loneSha256 sort compiler spec = .ok loneLaunch.lock := by
  let compiler : DeckCompiler := ⟨{⟨"agent"⟩}, by
    simp only [Finset.mem_singleton, forall_eq]
    exact Deck.validateField_ok.mp (show Deck.validateField "" _ _ = .ok () by decide +kernel)⟩
  refine ⟨.insertion, compiler, ⟨⟨"deck"⟩, [⟨⟨"a"⟩, ⟨"agent"⟩⟩]⟩, ?_⟩
  decide +kernel

/-- A host with one Card is started, and the status that is read then is sent. -/
theorem ready_status_fits_one_card : ∃ host console s payload,
    RuntimeHost.build ⟨⟨"lone-runtime", by decide +kernel⟩, ⟨⟨0⟩⟩⟩ [⟨.ok, .ok⟩] (some loneLaunch)
      ⟨⟨0⟩⟩ (fun i => ⟨⟨BitVec.ofNat 128 i⟩⟩) = .ok (host, console) ∧
    s ∈ (host.performAll console [.start]).published ∧ s.state = .ready ∧
    encodeRuntimeStatus ⟨⟨"lone-node", by decide +kernel⟩, ⟨⟨0⟩⟩⟩ s = .ok payload ∧
    payload.encode.length ≤ 64 * 1024 := by
  obtain ⟨host, console, s, hbuild, hs, hstate⟩ : ∃ host console s,
      RuntimeHost.build ⟨⟨"lone-runtime", by decide +kernel⟩, ⟨⟨0⟩⟩⟩ [⟨.ok, .ok⟩] (some loneLaunch)
        ⟨⟨0⟩⟩ (fun i => ⟨⟨BitVec.ofNat 128 i⟩⟩) = .ok (host, console) ∧
      s ∈ (host.performAll console [.start]).published ∧ s.state = .ready := by
    refine ⟨_, _, _, rfl, List.getLast_mem ?_, ?_⟩ <;> decide +kernel
  have hlaunch : ∀ launch ∈ some loneLaunch, ∃ sort compiler spec,
      DeckCompiler.compile loneSha256 sort compiler spec = .ok launch.lock := by
    rintro launch ⟨⟩
    exact loneLaunch_compiled
  obtain ⟨payload, hencode, hlen, -⟩ := (ready_status_fits (fun _ => rfl) hlaunch hbuild [.start]
    ⟨⟨"lone-node", by decide +kernel⟩, ⟨⟨0⟩⟩⟩ s (.tail _ hs)).1 hstate
  exact ⟨host, console, s, payload, hbuild, hs, hstate, hencode, hlen⟩

end Node

end Paraegox
