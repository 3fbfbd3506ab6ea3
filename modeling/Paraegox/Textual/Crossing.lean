import Paraegox.Textual.ConversationMetatheory

/-!
# Frames that cross

The client judges a frame by the Turn it has when it reads it; the adapter wrote it
about the Turn it drove.  The two agree on every frame but the answer to a cancel
that crossed the outcome of its Turn: it finds the adapter idle, and the answer
finds the client without that Turn.
-/

namespace Paraegox.Textual

open Agent (SessionId TurnId)
open Stdio (Adapter OutputFrame Stage)

/-! ## Frames the client accepts -/

/-- A frame a client with this Turn accepts. -/
def Fits (sessionId : SessionId) (active : Option TurnId) : OutputFrame → Prop
  | .ready _ _ _ _ => False
  | .cancelResult v session turnId _ =>
      v = Stdio.PROTOCOL_VERSION ∧ session = sessionId ∧ active = some turnId
  | .turnTerminal v result =>
      v = Stdio.PROTOCOL_VERSION ∧ result.sessionId = sessionId ∧ active = some result.turnId
  | .turnError v session turnId message =>
      v = Stdio.PROTOCOL_VERSION ∧ session = sessionId ∧ active = some turnId ∧
        message.utf8ByteSize ≤ MAX_ERROR_BYTES
  | .stopped v session => v = Stdio.PROTOCOL_VERSION ∧ session = sessionId

/-- The Turn of the client after a frame. -/
def afterFrame (active : Option TurnId) (frame : OutputFrame) : Option TurnId :=
  if frame.outcome?.isSome then none else active

namespace Backend

variable {b : Backend} {turnId : TurnId} {value : Frame}

theorem requireSessionIdentity_self :
    b.requireSessionIdentity (some b.sessionId.toJson) = .ok () := by
  simp only [requireSessionIdentity, Agent.SessionId.toJson]
  rw [canonicalUuid_hyphenated]
  exact if_neg (not_not.mpr rfl)

theorem requireActiveIdentity_active (hactive : b.activeTurnId = some turnId)
    (hsession : value.lookup "session_id" = some b.sessionId.toJson)
    (hturn : value.lookup "turn_id" = some turnId.toJson) :
    b.requireActiveIdentity value = .ok () := by
  rw [requireActiveIdentity]
  rw [hsession, requireSessionIdentity_self, hturn, Agent.TurnId.toJson, canonicalUuid_hyphenated,
    hactive]
  exact if_neg (not_not.mpr rfl)

theorem isVersion_current : isVersion (some (.num Stdio.PROTOCOL_VERSION.toNat)) = true := by
  decide

/-- A frame that fits passes the checks of its kind. -/
theorem validateEvent_fits {frame : OutputFrame} {fields : Frame}
    (h : Fits b.sessionId b.activeTurnId frame) (hfields : frame.toJson = .obj fields) :
    b.validateEvent fields = .ok () := by
  cases frame with
  | ready _ _ _ _ => exact h.elim
  | cancelResult v session turnId result =>
      obtain ⟨rfl, rfl, hactive⟩ := h
      cases hfields
      cases result <;>
        simp [validateEvent, List.lookup_cons, isVersion_current, requireExactFields,
          Except.ok_bind, requireActiveIdentity_active hactive, Stdio.CancelStatus.toJson,
          CANCEL_RESULTS]
  | turnTerminal v result =>
      obtain ⟨rfl, hsession, hactive⟩ := h
      cases hfields
      simp [validateEvent, List.lookup_cons, isVersion_current, requireExactFields, Except.ok_bind,
        requireActiveIdentity_active hactive, Agent.TurnResult.toJson, hsession,
        validateTerminal_toJson]
  | turnError v session turnId message =>
      obtain ⟨rfl, rfl, hactive, hmessage⟩ := h
      cases hfields
      simp [validateEvent, List.lookup_cons, isVersion_current, requireExactFields, Except.ok_bind,
        requireActiveIdentity_active hactive, hmessage]
  | stopped v session =>
      obtain ⟨rfl, rfl⟩ := h
      cases hfields
      simp [validateEvent, List.lookup_cons, isVersion_current, requireExactFields, Except.ok_bind,
        requireSessionIdentity_self]

/-- `events` goes on after a frame that fits, or ends. -/
theorem event_fits {frame : OutputFrame} (h : Fits b.sessionId b.activeTurnId frame)
    (hlen : frame.toJson.encodedLen ≤ MAX_STDOUT_FRAME_BYTES) :
    (b.event frame.toJson).activeTurnId = afterFrame b.activeTurnId frame ∧
      ((b.event frame.toJson).reader = b.reader ∨ (b.event frame.toJson).reader = .finished) := by
  have hread {fields : Frame} (hfields : frame.toJson = .obj fields) :
      (do let frame ← readFrame frame.toJson; b.validateEvent frame; pure frame) =
        Except.ok fields := by
    rw [hfields] at hlen ⊢
    rw [readFrame, if_neg (Nat.not_lt.mpr hlen)]
    simp only [Except.ok_bind, validateEvent_fits h hfields]
    rfl
  cases frame with
  | ready _ _ _ _ => exact h.elim
  | cancelResult v session turnId result =>
      rw [event, hread rfl]
      exact ⟨rfl, .inl rfl⟩
  | turnTerminal v result =>
      rw [event, hread rfl]
      exact ⟨rfl, .inl rfl⟩
  | turnError v session turnId message =>
      rw [event, hread rfl]
      exact ⟨rfl, .inr rfl⟩
  | stopped v session =>
      rw [event, hread rfl]
      exact ⟨rfl, .inr rfl⟩

end Backend

/-! ## Frames on their way -/

/-- A client with this Turn accepts these frames, one after the other. -/
def Heard (sessionId : SessionId) : Option TurnId → List OutputFrame → Prop
  | _, [] => True
  | active, frame :: frames =>
      (Fits sessionId active frame ∧ frame.toJson.encodedLen ≤ MAX_STDOUT_FRAME_BYTES) ∧
        Heard sessionId (afterFrame active frame) frames

variable {sessionId : SessionId} {active : Option TurnId}

theorem heard_append {frames more : List OutputFrame} :
    Heard sessionId active (frames ++ more) ↔
      Heard sessionId active frames ∧ Heard sessionId (frames.foldl afterFrame active) more := by
  induction frames generalizing active with
  | nil => exact ⟨fun h => ⟨trivial, h⟩, fun h => h.2⟩
  | cons frame frames ih =>
      rw [List.cons_append, Heard, Heard, ih, List.foldl_cons]
      exact and_assoc.symm

/-- Without an outcome, the client keeps its Turn. -/
theorem foldl_afterFrame {frames : List OutputFrame} (h : outcomes frames = 0) :
    frames.foldl afterFrame active = active := by
  induction frames with
  | nil => rfl
  | cons frame frames ih =>
      rw [outcomes, List.countP_eq_zero] at h
      rw [List.foldl_cons, afterFrame, if_neg (h frame List.mem_cons_self)]
      exact ih (List.countP_eq_zero.mpr fun f hf => h f (List.mem_cons_of_mem _ hf))

/-- What a client without a Turn accepts does not depend on its Turn. -/
theorem fits_of_none {frame : OutputFrame} (h : Fits sessionId none frame)
    (active : Option TurnId) : Fits sessionId active frame ∧ frame.outcome? = none := by
  cases frame with
  | ready _ _ _ _ => exact h.elim
  | cancelResult _ _ _ _ => cases h.2.2
  | turnTerminal _ _ => cases h.2.2
  | turnError _ _ _ _ => cases h.2.2.1
  | stopped _ _ => exact ⟨h, rfl⟩

theorem heard_of_none {frames : List OutputFrame} (h : Heard sessionId none frames) :
    Heard sessionId active frames := by
  induction frames with
  | nil => trivial
  | cons frame frames ih =>
      obtain ⟨⟨hfits, hlen⟩, hrest⟩ := h
      obtain ⟨hfits', hquiet⟩ := fits_of_none hfits active
      refine ⟨⟨hfits', hlen⟩, ?_⟩
      rw [afterFrame, hquiet] at hrest ⊢
      exact ih hrest

/-! ## The two sides agree -/

/-- The adapter has no answer open for a cancel it read while idle, and the client
accepts all that is on its way. -/
structure Agree (adapter : Adapter) (stage : Stage) (w : Conversation) : Prop where
  inv : Inv adapter stage w
  quiet : ∀ turnId, stage ≠ .answering turnId
  heard : Heard adapter.sessionId w.backend.activeTurnId w.stdout
  accepted : ∀ error, w.backend.reader ≠ .raised error

namespace Agree

variable {adapter : Adapter} {stage : Stage} {w : Conversation}

theorem start (adapter : Adapter) : Agree adapter .idle (Conversation.start adapter) where
  inv := .start adapter
  quiet := fun _ h => by cases h
  heard := trivial
  accepted := fun _ h => by cases h

theorem client (h : Agree adapter stage w) {act : Act} {e : Backend.Effect}
    (he : w.clientNext act = some e) :
    Agree adapter stage { w with backend := e.backend, stdin := w.stdin ++ e.written } := by
  obtain ⟨-, hreader, hpushes⟩ := Conversation.clientNext_goes he
  refine ⟨h.inv.client he, h.quiet, ?_, fun error => hreader ▸ h.accepted error⟩
  cases hpushes with
  | commands hactive _ _ =>
      have hheard := h.heard
      rwa [← hactive] at hheard
  | submits hidle hactive _ =>
      have hheard := h.heard
      rw [hidle] at hheard
      exact heard_of_none hheard

theorem event (h : Agree adapter stage w) {frame : OutputFrame} {stdout : List OutputFrame}
    (hreader : w.backend.reader = .reading) (hstdout : w.stdout = frame :: stdout) :
    Agree adapter stage { w with backend := w.backend.event frame.toJson, stdout } := by
  have hheard := h.heard
  rw [hstdout] at hheard
  obtain ⟨⟨hfits, hlen⟩, hrest⟩ := hheard
  rw [← h.inv.session] at hfits
  obtain ⟨hactive, hgoes⟩ := Backend.event_fits hfits hlen
  refine ⟨h.inv.event hstdout, h.quiet, ?_, fun error => ?_⟩
  · rw [← hactive] at hrest
    exact hrest
  · rcases hgoes with hgoes | hgoes
    · rw [hgoes, hreader]
      intro hraised
      cases hraised
    · rw [hgoes]
      intro hraised
      cases hraised

/-- A frame the contract allows fits the Turn the client will have when it reads it. -/
theorem fits (h : Agree adapter stage w) {frame : OutputFrame}
    (hallows : stage.Allows adapter.sessionId frame) :
    Fits adapter.sessionId (w.stdout.foldl afterFrame w.backend.activeTurnId) frame := by
  have hdriving {turnId : TurnId} (hstage : stage = .driving turnId) :
      w.stdout.foldl afterFrame w.backend.activeTurnId = some turnId := by
    have hprogress := h.inv.progress
    rw [hstage] at hprogress
    obtain ⟨hactive, hnone, -⟩ := hprogress.driving
    rw [foldl_afterFrame hnone, hactive]
  cases frame with
  | ready _ _ _ _ => exact hallows.elim
  | cancelResult v session turnId result =>
      obtain ⟨hv, hsession, hstage | hstage⟩ := hallows
      · exact ⟨hv, hsession, hdriving hstage⟩
      · exact absurd hstage (h.quiet turnId)
  | turnTerminal v result =>
      obtain ⟨hv, hsession, hstage⟩ := hallows
      exact ⟨hv, hsession, hdriving hstage⟩
  | turnError v session turnId message =>
      obtain ⟨hv, hsession, hstage, hmessage⟩ := hallows
      exact ⟨hv, hsession, hdriving hstage, hmessage⟩
  | stopped v session => exact ⟨hallows.1, hallows.2.1⟩

theorem afterWrite_quiet (h : ∀ turnId, stage ≠ .answering turnId) (frame : OutputFrame)
    (turnId : TurnId) : afterWrite stage frame ≠ .answering turnId := by
  rw [afterWrite]
  cases Stdio.JsonlOutput.send frame (.ok ()) with
  | error _ => exact h turnId
  | ok _ =>
      cases frame with
      | ready _ _ _ _ => exact h turnId
      | cancelResult _ _ _ _ =>
          cases stage with
          | idle => exact h turnId
          | answering answered => exact absurd rfl (h answered)
          | driving _ => exact h turnId
      | turnTerminal _ _ =>
          intro hidle
          cases hidle
      | turnError _ _ _ _ =>
          intro hidle
          cases hidle
      | stopped _ _ => exact h turnId

theorem write (h : Agree adapter stage w) {frame : OutputFrame}
    {k : Except Stdio.IoError Unit → Dialogue Stdio.Request Stdio.Request.Answer Adapter.Point}
    (hd : w.adapter = .ask (.write frame) k) :
    Agree adapter (afterWrite stage frame)
      { w with adapter := k (.ok ()), stdout := w.stdout ++ Conversation.put frame } := by
  refine ⟨h.inv.write hd, afterWrite_quiet h.quiet frame, ?_, h.accepted⟩
  refine heard_append.mpr ⟨h.heard, ?_⟩
  rw [Conversation.put]
  cases hsend : Stdio.JsonlOutput.send frame (.ok ()) with
  | error _ => trivial
  | ok _ =>
      rw [Stdio.JsonlOutput.send] at hsend
      split_ifs at hsend with hlen
      exact ⟨⟨h.fits (h.inv.allows hd), Nat.not_lt.mp hlen⟩, trivial⟩

end Agree

/-! ## A cancel that is read while no Turn is driven -/

/-- `run_protocol` drives no Turn, and a cancel is the next command. -/
def Conversation.cancelWaits (w : Conversation) : Bool :=
  match w.adapter, w.stdin with
  | .ask .nextCommand _, .cancel _ _ _ :: _ => true
  | _, _ => false

/-- `run_protocol` reads a cancel. -/
def crosses (x : Transition.Event Conversation Act Conversation.Report) : Bool :=
  match x.act with
  | .take => x.pre.cancelWaits
  | _ => false

/-- Any other step leaves the two sides in agreement. -/
theorem Agree.step {adapter : Adapter} {stage : Stage}
    {x : Transition.Event Conversation Act Conversation.Report}
    (hx : (Conversation.system adapter).Takes x) (hcrosses : crosses x = false)
    (h : Agree adapter stage x.pre) : ∃ stage', Agree adapter stage' x.post := by
  obtain ⟨w, act, report, w'⟩ := x
  have hstep : Conversation.Step adapter w act w' := Conversation.next_step hx
  cases hstep with
  | client he => exact ⟨_, h.client he⟩
  | event hreader hstdout => exact ⟨_, h.event hreader hstdout⟩
  | resume hd => exact ⟨_, h.inv.resume hd, h.quiet, h.heard, h.accepted⟩
  | @takeIdle k frame stdin hd hstdin =>
      refine ⟨_, h.inv.takeIdle hd hstdin, ?_, h.heard, h.accepted⟩
      cases frame with
      | submit _ _ _ _ =>
          intro answered hstage
          cases hstage
      | cancel _ _ _ =>
          simp [crosses, Conversation.cancelWaits, hd, hstdin] at hcrosses
      | shutdown _ _ =>
          intro answered hstage
          cases hstage
  | takeActive hd hstdin => exact ⟨_, h.inv.takeActive hd hstdin, h.quiet, h.heard, h.accepted⟩
  | answer hd hexpects hnext =>
      exact ⟨_, h.inv.answer hd (hexpects stage) (hnext stage), h.quiet, h.heard, h.accepted⟩
  | write hd => exact ⟨_, h.write hd⟩

/-- As long as no cancel reaches `run_protocol` between two Turns, the client accepts
all that the adapter says. -/
theorem every_frame_accepted {adapter : Adapter} {w : Conversation}
    {tr : List (Transition.Event Conversation Act Conversation.Report)}
    (h : (Conversation.system adapter).Run (.start adapter) tr w)
    (hcrosses : ∀ x ∈ tr, crosses x = false) (error : BackendError) :
    w.backend.reader ≠ .raised error := by
  obtain ⟨stage, hagree⟩ := h.stable (I := fun _ => True) (C := fun x => crosses x = false)
    (P := fun w => ∃ stage, Agree adapter stage w) (fun _ _ _ => trivial)
    (fun x hx _ hc ⟨_, hpre⟩ => hpre.step hx hc) trivial hcrosses ⟨_, .start adapter⟩
  exact hagree.accepted error

/-- A cancel that is answered, then the outcome, then a shutdown. -/
theorem every_frame_accepted_cancelled : ∃ tr w,
    (Conversation.system ⟨⟨⟨1⟩⟩, 1000000⟩).Run (.start ⟨⟨⟨1⟩⟩, 1000000⟩) tr w ∧
    tr.map Transition.Event.act = [.submit "hello" ⟨⟨2⟩⟩, .drained, .cancel, .drained, .resume,
      .take, .resume, .take, .reply (.ok (.cancel ⟨⟨1⟩⟩ ⟨⟨2⟩⟩ .cancellationRequested)), .write,
      .resume, .reply (.ok (.turn ⟨⟨⟨1⟩⟩, ⟨⟨2⟩⟩, .cancelled⟩)), .write, .event, .event, .shutdown,
      .drained, .resume, .take, .resume, .close (.ok ()), .write, .event] ∧
    ∀ error, w.backend.reader ≠ .raised error := by
  refine Exists.imp (fun tr => Exists.imp fun w (h : _ ∧ _ ∧ _) => ⟨h.1, h.2.1, ?_⟩)
    (Transition.System.exec_exists _ _ _ (P := fun tr _ => ∀ x ∈ tr, crosses x = false)
      (by decide +kernel))
  exact every_frame_accepted h.1 h.2.2

/-- The user cancels once the adapter has written the terminal but before the client
reads it. -/
theorem cancel_crosses_terminal : ∃ tr w,
    (Conversation.system ⟨⟨⟨1⟩⟩, 1000000⟩).Run (.start ⟨⟨⟨1⟩⟩, 1000000⟩) tr w ∧
    tr.map Transition.Event.act = [.submit "hello" ⟨⟨2⟩⟩, .drained, .resume, .take, .resume,
      .reply (.ok (.turn ⟨⟨⟨1⟩⟩, ⟨⟨2⟩⟩, .cancelled⟩)), .write, .cancel, .resume, .take, .write,
      .event, .event] ∧
    w.backend.reader = .raised ⟨"Paraegox event does not match the active Turn"⟩ := by
  exact Transition.System.exec_exists _ _ _ (by decide +kernel)

end Paraegox.Textual
