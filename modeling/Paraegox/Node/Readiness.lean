import Paraegox.Node.Status
import Paraegox.Runtime.HostRuns

/-!
# What a remote probe can see

A probe reads whichever snapshot was published last.  Every snapshot a host
publishes is sound, so a payload that is sent reports a Deck that is ready to the
last Card.
-/

namespace Paraegox.Node

open Paraegox.Runtime

/-- A payload is the snapshot's own, and its host is ready. -/
theorem encodeRuntimeStatus_ok {node : NodeIdentity} {runtime : RuntimeHostSnapshot}
    {payload : Json} (h : encodeRuntimeStatus node runtime = .ok payload) :
    runtime.state = .ready ∧ payload = (⟨node, runtime, ⟨true⟩⟩ : NodeRuntimeStatus).toJson := by
  simp only [encodeRuntimeStatus, NodeRuntimeStatus.ready] at h
  split_ifs at h with hstate
  · cases h
  · cases h
    exact ⟨not_not.mp hstate, rfl⟩

variable {identity : RuntimeHostIdentity} {coreServices : List CoreService}
  {deckLaunch : Option DeckLaunch} {deckRunId : DeckRunId} {freshId : Nat → CardInstanceId}
  {host : RuntimeHost} {console : Console}

/-- Every snapshot that can be read, at first or after any write of any calls, is
sound and speaks of the same host; a payload that is sent reports it fully ready. -/
theorem published_status_sound
    (hbuild : RuntimeHost.build identity coreServices deckLaunch deckRunId freshId =
      .ok (host, console)) (calls : List HostCall) :
    ∀ s ∈ console.snapshot :: (host.performAll console calls).published,
      s.Sound ∧ s.fixedPart = console.snapshot.fixedPart ∧
      ∀ node payload, encodeRuntimeStatus node s = .ok payload →
        s.FullyReady ∧ payload = (⟨node, s, ⟨true⟩⟩ : NodeRuntimeStatus).toJson := by
  have hcourse := (RuntimeHost.build_course hbuild).performAll calls
  intro s hs
  have hgood : console.snapshot.Good s := by
    rcases List.mem_cons.mp hs with rfl | hs
    · exact (RuntimeHost.build_course hbuild).good
    · exact hcourse.published s hs
  refine ⟨hgood.sound, hgood.fixedPart, fun node payload h => ?_⟩
  obtain ⟨hstate, hpayload⟩ := encodeRuntimeStatus_ok h
  exact ⟨hgood.sound.ready hstate, hpayload⟩

/-- One Card, started and then stopped with a failure. -/
theorem published_status_sound_one_card : ∃ host console,
    RuntimeHost.build ⟨⟨"runtime", by decide +kernel⟩, ⟨⟨0⟩⟩⟩ [⟨.ok, .ok⟩]
      (some ⟨⟨⟨"deck"⟩, [⟨⟨"a"⟩, ⟨"agent"⟩⟩], "", by decide⟩,
        [⟨⟨"a"⟩, ⟨"agent"⟩, fun _ => .ok, .elapsed⟩], .cons ⟨rfl, rfl⟩ .nil⟩)
      ⟨⟨0⟩⟩ (fun i => ⟨⟨BitVec.ofNat 128 i⟩⟩) = .ok (host, console) ∧
    (host.performAll console [.start, .stop]).published.map RuntimeHostSnapshot.state =
      [.starting, .starting, .starting, .starting, .starting, .ready, .stopping, .stopping,
        .stopping, .stopping, .stopping, .failed] ∧
    ∀ s ∈ console.snapshot :: (host.performAll console [.start, .stop]).published,
      s.Sound ∧ s.fixedPart = console.snapshot.fixedPart ∧
      ∀ node payload, encodeRuntimeStatus node s = .ok payload →
        s.FullyReady ∧ payload = (⟨node, s, ⟨true⟩⟩ : NodeRuntimeStatus).toJson := by
  refine Exists.imp (fun host => Exists.imp fun console (h : _ ∧ _) =>
    ⟨h.1, h.2, published_status_sound h.1 _⟩) ⟨_, _, rfl, ?_⟩
  decide +kernel

end Paraegox.Node
