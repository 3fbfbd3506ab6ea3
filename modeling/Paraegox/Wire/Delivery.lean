import Paraegox.Agent.Ledger
import Paraegox.Fabric.Request
import Paraegox.Textual.Backend
import Paraegox.Wire.Envelopes

/-!
# A recorded terminal can be delivered

Every terminal in a ledger passed `wire_safe_terminal`, or is one of the short ones.  So
none of the limits it meets on its way to a client, in the service, in Fabric, in the
adapter and in the Textual client, turns it away.
-/

namespace Paraegox.Agent

open Json (length_encode)
open Paraegox.Stdio (OutputFrame JsonlOutput.send)

/-! ## Every recorded terminal passed it -/

/-- What is recorded, and what a frame decided on, is wire safe. -/
structure World.WireSafe (w : World) : Prop where
  recorded : ∀ s, ∀ completed ∈ (w.state.session s).turns, completed.terminal.WireSafe
  decided : ∀ task call, w.calls.lookup task = some call →
    ∀ proposed, call.phase = .decided proposed → proposed.WireSafe

theorem Event.wireSafe {x : Event} (hx : service.Takes x) (h : x.pre.Inv)
    (hw : x.pre.WireSafe) : x.post.WireSafe where
  recorded s completed hc := by
    cases Event.records hx h hc with
    | kept hold => exact hw.recorded s completed hold
    | submitted _ _ hterm => exact TurnTerminal.wireSafe_of_ne_final hterm
    | left hl _ hterm =>
        rcases hterm with rfl | hp
        · exact TurnTerminal.wireSafe_of_ne_final nofun
        · exact hw.decided _ _ hl _ hp
  decided task call hl proposed hp := by
    cases Event.frames hx h hl with
    | kept hold => exact hw.decided _ _ hold _ hp
    | admitted _ _ _ => cases hp
    | moved _ hphase => exact absurd hp (hphase proposed)
    | decided _ _ _ =>
        rw [← CallPhase.decided.inj hp]
        exact wireSafe_wireSafeTerminal _ _ _

theorem World.Reachable.wireSafe {w : World} (h : w.Reachable) : w.WireSafe := by
  obtain ⟨provider, hr⟩ := h
  have hcreated : (World.created provider).WireSafe :=
    { recorded := fun s completed hc => by
        simp [created, AgentState.created, AgentState.session] at hc
      decided := fun task call hl => by simp [created] at hl }
  exact (hr.invariant (I := fun w => w.Inv ∧ w.WireSafe)
    (fun x hx hw => ⟨Event.inv x hx hw.1, Event.wireSafe hx hw.1 hw.2⟩)
    ⟨World.created_inv provider, hcreated⟩).2

/-! ## Three ways out -/

/-- In every reachable world, for every entry of every ledger and all identifiers: the
answer to a submit, the answer to a cancellation and the frame of the adapter that
carry the recorded terminal take at most 64 KiB.  Fabric replies with the two answers
and a client takes them, and the adapter writes the frame and the Textual client reads
it. -/
theorem World.Reachable.terminal_deliverable {w : World} (h : w.Reachable) (s₀ : SessionId)
    {completed : CompletedTurn} (hc : completed ∈ (w.state.session s₀).turns) (s : SessionId)
    (t : TurnId) :
    (∀ response ∈ [WireResponse.turn ⟨s, t, completed.terminal⟩,
        .cancel s t (.alreadyTerminal completed.terminal)],
      response.toJson.encode.length ≤ 64 * 1024 ∧
      (∀ payload handler snapshot, snapshot.state = .ready →
        handler snapshot (payload.getD []) = .ok response.toJson.encode →
        Fabric.serveRequest payload handler snapshot = .reply response.toJson.encode) ∧
      Fabric.receiveReply (.reply response.toJson.encode) = .ok response.toJson.encode) ∧
    ∀ frame, frame = OutputFrame.turnTerminal Stdio.PROTOCOL_VERSION ⟨s, t, completed.terminal⟩ →
      frame.toJson.encode.length ≤ 64 * 1024 ∧ (∀ write, JsonlOutput.send frame write = write) ∧
      ∃ fields, frame.toJson = .obj fields ∧
        Textual.Backend.readFrame frame.toJson = .ok fields := by
  have hsafe : completed.terminal.toJson.encodedLen + 143 ≤ 60 * 1024 :=
    h.wireSafe.recorded s₀ completed hc
  have hresult : (TurnResult.toJson ⟨s, t, completed.terminal⟩).encodedLen =
      completed.terminal.toJson.encodedLen + 114 := TurnResult.encodedLen_toJson _
  refine ⟨fun response hresponse => ?_, ?_⟩
  · have hlen : response.toJson.encode.length ≤ 64 * 1024 := by
      rw [length_encode]
      simp only [List.mem_cons, List.not_mem_nil, or_false] at hresponse
      rcases hresponse with rfl | rfl
      · rw [WireResponse.encodedLen_turn]
        omega
      · rw [WireResponse.encodedLen_cancel]
        omega
    obtain ⟨hreply, hreceive⟩ := Fabric.handlerReply_of_le hlen
    refine ⟨hlen, fun payload handler snapshot hready hhandler => ?_, hreceive⟩
    rw [Fabric.serveRequest, if_neg (not_not.mpr hready), hhandler, hreply]
  · rintro frame rfl
    have hlen : (OutputFrame.turnTerminal Stdio.PROTOCOL_VERSION
        ⟨s, t, completed.terminal⟩).toJson.encodedLen ≤ 64 * 1024 := by
      rw [Stdio.OutputFrame.encodedLen_turnTerminal]
      omega
    exact ⟨(length_encode _).trans_le hlen, fun write => if_neg (Nat.not_lt.mpr hlen), _, rfl,
      if_neg (Nat.not_lt.mpr hlen)⟩

/-- A recorded answer, under other identifiers than its own. -/
theorem World.Reachable.terminal_deliverable_final :
    ∃ w : World, w.Reachable ∧
      (⟨⟨⟨2⟩⟩, "a", .final "b"⟩ : CompletedTurn) ∈ (w.state.session ⟨⟨1⟩⟩).turns ∧
      ∀ write, JsonlOutput.send
        (.turnTerminal Stdio.PROTOCOL_VERSION ⟨⟨⟨3⟩⟩, ⟨⟨4⟩⟩, .final "b"⟩) write = write := by
  obtain ⟨tr, w, hrun, -, hw⟩ := service.exec_any (World.created .deterministic)
    [.start, .activateProfile ⟨⟨1⟩⟩ ⟨BUILTIN_AGENT_DEFINITION⟩ "p",
      .submitTurn 0 ⟨⟨1⟩⟩ ⟨⟨2⟩⟩ "a" 1, .callProvider 0, .select 0 (.answered (.ok "b")),
      .complete 0]
    (fun q => (⟨⟨⟨2⟩⟩, "a", .final "b"⟩ : CompletedTurn) ∈ (q.2.state.session ⟨⟨1⟩⟩).turns)
    (by decide +kernel)
  have hreach : w.Reachable := ⟨.deterministic, tr, hrun⟩
  have hc := of_decide_eq_true hw
  exact ⟨w, hreach, hc,
    ((hreach.terminal_deliverable ⟨⟨1⟩⟩ hc ⟨⟨3⟩⟩ ⟨⟨4⟩⟩).2 _ rfl).2.1⟩

end Paraegox.Agent
