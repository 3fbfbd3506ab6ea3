import Paraegox.Textual.Window

/-!
# What the App makes of what it is told

The frames that pass the checks of the reader, and what each handler goes on with: no
frame makes one raise.
-/

namespace Paraegox.Textual

open Agent (TurnId)

/-! ## The frames the reader yields -/

/-- The Turn a frame is an outcome of, by the text of its identifier. -/
def answered? (frame : Frame) : Option String :=
  let turnId :=
    match frame.lookup "type", frame.lookup "result" with
    | some (.str "turn_terminal"), some (.obj result) => result.lookup "turn_id"
    | some (.str "turn_error"), _ => frame.lookup "turn_id"
    | _, _ => none
  match turnId with
  | some (.str turnId) => some turnId
  | _ => none

namespace Backend

variable {b : Backend}

/-- The frames that pass the checks, with the backend after each. -/
inductive Accepted (b : Backend) (frame : Frame) : Backend → Prop where
  | cancelResult {result : String} (htype : frame.lookup "type" = some (.str "cancel_result"))
      (hresult : frame.lookup "result" = some (.str result)) : Accepted b frame b
  | terminal {turnId : TurnId} {result terminal : Frame}
      (htype : frame.lookup "type" = some (.str "turn_terminal"))
      (hresult : frame.lookup "result" = some (.obj result))
      (hactive : b.activeTurnId = some turnId)
      (hturn : result.lookup "turn_id" = some turnId.toJson)
      (hterminal : result.lookup "terminal" = some (.obj terminal))
      (hvalid : validateTerminal (some (.obj terminal)) = .ok ()) :
      Accepted b frame { b with activeTurnId := none, cancelSent := false }
  | error {turnId : TurnId} {message : String}
      (htype : frame.lookup "type" = some (.str "turn_error"))
      (hactive : b.activeTurnId = some turnId)
      (hturn : frame.lookup "turn_id" = some turnId.toJson)
      (hmessage : frame.lookup "message" = some (.str message)) :
      Accepted b frame { b with activeTurnId := none, cancelSent := false, reader := .finished }
  | stopped (htype : frame.lookup "type" = some (.str "stopped")) :
      Accepted b frame { b with reader := .finished }

/-- An identity that passes is that of the active Turn. -/
theorem requireActiveIdentity_ok {value : Frame} (h : b.requireActiveIdentity value = .ok ()) :
    ∃ turnId, b.activeTurnId = some turnId ∧ value.lookup "turn_id" = some turnId.toJson := by
  rw [requireActiveIdentity] at h
  obtain ⟨_, -, h⟩ := Except.ok_of_bind h
  obtain ⟨canonical, hcanonical, h⟩ := Except.ok_of_bind h
  obtain ⟨hvalue, -⟩ := exists_uuid_of_canonicalUuid hcanonical
  cases hactive : b.activeTurnId with
  | none =>
      rw [hactive] at h
      cases h
  | some active =>
      rw [hactive, Except.error_ite_eq_ok, not_not] at h
      refine ⟨active, rfl, ?_⟩
      rw [hvalue, h.1]
      rfl

/-- What the checks of an event let through. -/
theorem validateEvent_ok {frame : Frame} (h : b.validateEvent frame = .ok ()) :
    ∃ b', b.Accepted frame b' ∧ ∀ line, readFrame line = .ok frame → b.event line = b' := by
  have hvalid := h
  rw [validateEvent.eq_def, Except.error_ite_eq_ok] at h
  obtain ⟨-, h⟩ := h
  split at h
  next htype =>
    obtain ⟨_, -, h⟩ := Except.ok_of_bind h
    obtain ⟨_, -, h⟩ := Except.ok_of_bind h
    split at h
    next result hresult =>
      refine ⟨b, .cancelResult htype hresult, fun line hread => ?_⟩
      simp [event, hread, Except.ok_bind, hvalid, htype, pure, Except.pure]
    · cases h
  next htype =>
    obtain ⟨_, -, h⟩ := Except.ok_of_bind h
    split at h
    next result hresult =>
      obtain ⟨_, -, h⟩ := Except.ok_of_bind h
      obtain ⟨_, hidentity, h⟩ := Except.ok_of_bind h
      obtain ⟨turnId, hactive, hturn⟩ := requireActiveIdentity_ok hidentity
      obtain ⟨terminal, hterminal⟩ :
          ∃ terminal, result.lookup "terminal" = some (.obj terminal) := by
        rw [validateTerminal.eq_def] at h
        split at h
        next terminal hterminal => exact ⟨terminal, hterminal⟩
        · cases h
      refine ⟨_, .terminal htype hresult hactive hturn hterminal (hterminal ▸ h),
        fun line hread => ?_⟩
      simp [event, hread, Except.ok_bind, hvalid, htype, pure, Except.pure]
    · cases h
  next htype =>
    obtain ⟨_, -, h⟩ := Except.ok_of_bind h
    obtain ⟨_, hidentity, h⟩ := Except.ok_of_bind h
    obtain ⟨turnId, hactive, hturn⟩ := requireActiveIdentity_ok hidentity
    split at h
    next message hmessage =>
      refine ⟨_, .error htype hactive hturn hmessage, fun line hread => ?_⟩
      simp [event, hread, Except.ok_bind, hvalid, htype, pure, Except.pure]
    · cases h
  next htype =>
    refine ⟨_, .stopped htype, fun line hread => ?_⟩
    simp [event, hread, Except.ok_bind, hvalid, htype, pure, Except.pure]
  · cases h

/-- A line is yielded, or the reader raises. -/
theorem event_cases (b : Backend) (line : Json) :
    (∃ error, b.event line = { b with reader := .raised error }) ∨
      ∃ frame, line = .obj frame ∧ b.Accepted frame (b.event line) := by
  cases hread : readFrame line with
  | error error =>
      refine .inl ⟨error, ?_⟩
      rw [event, hread]
      rfl
  | ok frame =>
      cases hvalid : b.validateEvent frame with
      | error error =>
          refine .inl ⟨error, ?_⟩
          rw [event, hread, Except.ok_bind, hvalid]
          rfl
      | ok _ =>
          obtain ⟨b', haccepted, hevent⟩ := validateEvent_ok hvalid
          refine .inr ⟨frame, ?_, hevent line hread ▸ haccepted⟩
          rw [readFrame.eq_def, Except.error_ite_eq_ok] at hread
          cases line with
          | obj fields => exact congrArg Json.obj (Except.ok.inj hread.2)
          | _ => cases hread.2

end Backend

/-! ## What is said in the chat -/

/-- The message a terminal is shown as. -/
def terminalMessage (terminal : Frame) : Role × String :=
  match terminal.lookup "terminal", terminal.lookup "content", terminal.lookup "reason" with
  | some (.str "final"), some (.str content), _ => (.agent, content)
  | some (.str "cancelled"), _, _ => (.system, "Turn cancelled")
  | some (.str "timed_out"), _, _ => (.system, "Turn timed out")
  | _, _, some (.str reason) => (.system, "Turn failed: " ++
      String.ofList (reason.toList.map fun c => if c = '_' then ' ' else c))
  | _, _, _ => (.system, "")

/-- The messages for a frame. -/
def frameMessages (frame : Frame) : List (Role × String) :=
  match frame.lookup "type", frame.lookup "result", frame.lookup "message" with
  | some (.str "turn_terminal"), some (.obj result), _ =>
      match result.lookup "terminal" with
      | some (.obj terminal) => [terminalMessage terminal]
      | _ => []
  | some (.str "turn_error"), _, some (.str message) =>
      [(.system, "Turn outcome is unknown: " ++ boundedText message MAX_ERROR_BYTES)]
  | _, _, _ => []

namespace Told

/-- The messages for what the App is told; after a quit it says nothing of a failure. -/
def messages (quitRequested : Bool) : Told → List (Role × String)
  | .submitted _ text => [(.you, text)]
  | .cancelled true => [(.system, "Cancellation requested")]
  | .event frame => frameMessages frame
  | .failed error =>
      if quitRequested then [] else [(.system, boundedText error.message MAX_ERROR_BYTES)]
  | .refused error | .closed _ (.error error) =>
      [(.system, boundedText error.message MAX_ERROR_BYTES)]
  | .started | .invalid _ | .cancelled false | .closed _ (.ok _) => []

/-- The Turn the App has after it was told. -/
def activeAfter (active : Option TurnId) : Told → Option TurnId
  | .submitted turnId _ => some turnId
  | .event frame => if (answered? frame).isSome then none else active
  | _ => active

/-- What it is told is a failure of the backend. -/
def isFailure : Told → Bool
  | .refused _ | .failed _ => true
  | .event frame => isText "turn_error" (frame.lookup "type")
  | _ => false

end Told

/-- How a message stands in the chat. -/
def shown (message : Role × String) : ChatMessage :=
  ⟨message.1, boundedText message.2 MAX_MESSAGE_BYTES⟩

/-! ## Handlers go on to their end -/

/-- What the checks of a terminal let through. -/
theorem validateTerminal_ok {terminal : Frame}
    (h : validateTerminal (some (.obj terminal)) = .ok ()) :
    ∃ kind, terminal.lookup "terminal" = some (.str kind) ∧ kind ∈ TERMINALS ∧
      (kind = "final" → ∃ content, terminal.lookup "content" = some (.str content)) ∧
      (kind = "failed" → ∃ reason, terminal.lookup "reason" = some (.str reason)) := by
  rw [validateTerminal.eq_def] at h
  dsimp only at h
  split at h
  next kind hkind =>
    rw [Except.error_ite_eq_ok, not_not] at h
    obtain ⟨hknown, h⟩ := h
    obtain ⟨_, -, h⟩ := Except.ok_of_bind h
    refine ⟨kind, hkind, hknown, ?_, ?_⟩
    · intro hfinal
      rw [decide_eq_true hfinal] at h
      split at h
      next content _ hlookup => exact ⟨content, hlookup⟩
      · cases h
      next hfalse => cases hfalse
    · rintro rfl
      rw [decide_eq_false (by decide), decide_eq_true rfl] at h
      dsimp only at h
      split at h
      next reason _ hlookup => exact ⟨reason, hlookup⟩
      · cases h
      next hfalse => cases hfalse
  · cases h

namespace ParaegoxTextual

variable {app app' : ParaegoxTextual}

/-- A terminal that passes its checks is shown. -/
theorem handleTerminal_eq (app : ParaegoxTextual) {terminal : Frame}
    (h : validateTerminal (some (.obj terminal)) = .ok ()) :
    ∃ state notice, app.handleTerminal terminal =
      some (((app.appendMessage (terminalMessage terminal).1
        (terminalMessage terminal).2).updateStatus state).setNotice notice) := by
  obtain ⟨kind, hkind, hknown, hfinal, hfailed⟩ := validateTerminal_ok h
  simp only [TERMINALS, List.mem_cons, List.not_mem_nil, or_false] at hknown
  rcases hknown with rfl | rfl | rfl | rfl
  · obtain ⟨content, hcontent⟩ := hfinal rfl
    exact ⟨_, _, by simp [handleTerminal, terminalMessage, hkind, hcontent]; rfl⟩
  · exact ⟨_, _, by simp [handleTerminal, terminalMessage, hkind]; rfl⟩
  · exact ⟨_, _, by simp [handleTerminal, terminalMessage, hkind]; rfl⟩
  · obtain ⟨reason, hreason⟩ := hfailed rfl
    exact ⟨_, _, by simp [handleTerminal, terminalMessage, hkind, hreason]; rfl⟩

/-- A frame that passes its checks makes no handler raise. -/
theorem hear_accepted {b b' : Backend} {frame : Frame} (h : b.Accepted frame b')
    (app : ParaegoxTextual) : ∃ app', app.hear (.event frame) = some app' := by
  cases h with
  | cancelResult htype hresult =>
      simp only [hear, handleBackendEvent, htype, hresult]
      split
      · exact ⟨_, rfl⟩
      · exact ⟨_, rfl⟩
      · exact ⟨_, rfl⟩
      next hnone => cases hnone
  | terminal htype hresult _ _ hterminal hvalid =>
      obtain ⟨_, _, happ⟩ := app.handleTerminal_eq hvalid
      exact ⟨_, by simp [hear, handleBackendEvent, htype, hresult, hterminal, happ]; rfl⟩
  | error htype _ _ hmessage =>
      exact ⟨_, by simp [hear, handleBackendEvent, htype, hmessage]; rfl⟩
  | stopped htype => exact ⟨_, by simp [hear, handleBackendEvent, htype]; rfl⟩

/-- A client that has heard the last of its backend is not connected. -/
theorem hear_last {b b' : Backend} {frame : Frame} (h : b.Accepted frame b')
    (hreading : b.reader = .reading) (hends : b'.reader = .finished)
    (happ : app.hear (.event frame) = some app') : app'.connected = false := by
  cases h with
  | cancelResult _ _ => cases hreading.symm.trans hends
  | terminal _ _ _ _ _ _ => cases hreading.symm.trans hends
  | error htype _ _ hmessage =>
      simp [hear, handleBackendEvent, htype, hmessage] at happ
      cases happ
      rfl
  | stopped htype =>
      simp [hear, handleBackendEvent, htype] at happ
      cases happ
      rfl

theorem hear_failed {error : BackendError} (happ : app.hear (.failed error) = some app') :
    app'.connected = false := by
  cases happ
  split <;> rfl

/-- So `_backend_loop` finds nothing to do at its end. -/
theorem loopEnded_eq (h : app.connected = false) : app.loopEnded = app := by
  rw [loopEnded, h]
  rfl

end ParaegoxTextual

/-- What a handler without the backend leaves as it is. -/
structure ParaegoxTextual.Quiet (app app' : ParaegoxTextual) : Prop where
  messages : app'.messages = app.messages
  activeTurnId : app'.activeTurnId = app.activeTurnId
  quitRequested : app'.quitRequested = app.quitRequested
  connected : app'.connected = app.connected
  backendFailed : app'.backendFailed = app.backendFailed
  status : app'.status = app.status
  disabled : app'.disabled = app.disabled
  returnCode : app'.returnCode = app.returnCode
  footer : app'.footer = app.footer ∧ app'.notice = app.notice ∨
    app'.footer = ⟨app'.activeTurnId.isSome, app'.notice⟩

namespace ParaegoxTextual

theorem Quiet.refl (app : ParaegoxTextual) : app.Quiet app :=
  ⟨rfl, rfl, rfl, rfl, rfl, rfl, rfl, rfl, .inl ⟨rfl, rfl⟩⟩

theorem boundInput_quiet (app : ParaegoxTextual) (value : String) :
    app.Quiet (app.boundInput value) := by
  rw [boundInput]
  split_ifs
  · exact ⟨rfl, rfl, rfl, rfl, rfl, rfl, rfl, rfl, .inl ⟨rfl, rfl⟩⟩
  · exact ⟨rfl, rfl, rfl, rfl, rfl, rfl, rfl, rfl, .inr rfl⟩

theorem clearInput_quiet (app : ParaegoxTextual) : app.Quiet app.clearInput :=
  ⟨rfl, rfl, rfl, rfl, rfl, rfl, rfl, rfl, .inr rfl⟩

end ParaegoxTextual
namespace ParaegoxTextual

variable {app app' : ParaegoxTextual}

/-- The effect of what the App is told. -/
structure Heard (app : ParaegoxTextual) (told : Told) (app' : ParaegoxTextual) : Prop where
  messages : app'.messages =
    ((told.messages app.quitRequested).map shown).foldl (Recent.push MAX_UI_MESSAGES) app.messages
  active : app'.activeTurnId = told.activeAfter app.activeTurnId
  quitRequested : app'.quitRequested = app.quitRequested
  backendFailed : app'.backendFailed = (app.backendFailed || told.isFailure)
  returnCode : app'.returnCode = match told with
    | .closed returnCode (.ok ()) => some (if app.backendFailed then 1 else returnCode)
    | .closed _ (.error _) => some 1
    | _ => app.returnCode

/-- A frame that is no outcome only changes a notice or the panels. -/
theorem heard_notice {frame : Frame} (hnone : answered? frame = none)
    (hmessages : frameMessages frame = []) (hfailure : (Told.event frame).isFailure = false)
    (h : app'.messages = app.messages ∧ app'.activeTurnId = app.activeTurnId ∧
      app'.quitRequested = app.quitRequested ∧ app'.backendFailed = app.backendFailed ∧
      app'.returnCode = app.returnCode) : app.Heard (.event frame) app' where
  messages := by
    rw [Told.messages, hmessages]
    exact h.1
  active := by
    rw [Told.activeAfter, hnone]
    exact h.2.1
  quitRequested := h.2.2.1
  backendFailed := by
    rw [hfailure, Bool.or_false]
    exact h.2.2.2.1
  returnCode := h.2.2.2.2

/-- A frame that passes its checks has its effect. -/
theorem heard_event {b b' : Backend} {frame : Frame} (h : b.Accepted frame b')
    (happ : app.hear (.event frame) = some app') : app.Heard (.event frame) app' := by
  cases h with
  | cancelResult htype hresult =>
      have hnone : answered? frame = none := by simp [answered?, htype]
      have hmessages : frameMessages frame = [] := by simp [frameMessages, htype]
      have hfailure : isText "turn_error" (frame.lookup "type") = false := by
        rw [htype]
        decide
      simp only [hear, handleBackendEvent, htype, hresult] at happ
      split at happ
      · cases happ
        exact heard_notice hnone hmessages hfailure ⟨rfl, rfl, rfl, rfl, rfl⟩
      · cases happ
        exact heard_notice hnone hmessages hfailure ⟨rfl, rfl, rfl, rfl, rfl⟩
      · cases happ
        exact heard_notice hnone hmessages hfailure ⟨rfl, rfl, rfl, rfl, rfl⟩
      next hnone => cases hnone
  | @terminal turnId result terminal htype hresult _ hturn hterminal hvalid =>
      obtain ⟨state, notice, hshown⟩ := app.handleTerminal_eq hvalid
      have hsome : answered? frame = some turnId.uuid.hyphenated := by
        simp [answered?, htype, hresult, hturn, Agent.TurnId.toJson]
      have hmessages : frameMessages frame = [terminalMessage terminal] := by
        simp [frameMessages, htype, hresult, hterminal]
      have hfailure : isText "turn_error" (frame.lookup "type") = false := by
        rw [htype]
        decide
      simp [hear, handleBackendEvent, htype, hresult, hterminal, hshown] at happ
      cases happ
      exact ⟨by rw [Told.messages, hmessages]; rfl, by rw [Told.activeAfter, hsome]; rfl, rfl,
        by rw [Told.isFailure, hfailure]; exact (Bool.or_false _).symm, rfl⟩
  | @error turnId message htype _ hturn hmessage =>
      have hsome : answered? frame = some turnId.uuid.hyphenated := by
        simp [answered?, htype, hturn, Agent.TurnId.toJson]
      have hmessages : frameMessages frame =
          [(.system, "Turn outcome is unknown: " ++ boundedText message MAX_ERROR_BYTES)] := by
        simp [frameMessages, htype, hmessage]
      have hfailure : isText "turn_error" (frame.lookup "type") = true := by
        rw [htype]
        decide
      simp [hear, handleBackendEvent, htype, hmessage] at happ
      cases happ
      exact ⟨by rw [Told.messages, hmessages]; rfl, by rw [Told.activeAfter, hsome]; rfl, rfl,
        by rw [Told.isFailure, hfailure]; exact (Bool.or_true _).symm, rfl⟩
  | stopped htype =>
      have hnone : answered? frame = none := by simp [answered?, htype]
      have hmessages : frameMessages frame = [] := by simp [frameMessages, htype]
      have hfailure : isText "turn_error" (frame.lookup "type") = false := by
        rw [htype]
        decide
      simp [hear, handleBackendEvent, htype] at happ
      cases happ
      exact heard_notice hnone hmessages hfailure ⟨rfl, rfl, rfl, rfl, rfl⟩

/-- The App only hears of frames that pass the checks of its reader. -/
def Checked (told : Told) : Prop :=
  ∀ frame, told = .event frame → ∃ b b' : Backend, b.Accepted frame b'

/-- All it is told has its effect. -/
theorem heard {told : Told} (hchecked : Checked told) (happ : app.hear told = some app') :
    app.Heard told app' := by
  cases told with
  | started =>
      cases happ
      exact ⟨rfl, rfl, rfl, (Bool.or_false _).symm, rfl⟩
  | submitted turnId text =>
      cases happ
      exact ⟨rfl, rfl, rfl, (Bool.or_false _).symm, rfl⟩
  | invalid error =>
      cases happ
      exact ⟨rfl, rfl, rfl, (Bool.or_false _).symm, rfl⟩
  | refused error =>
      cases happ
      exact ⟨rfl, rfl, rfl, (Bool.or_true _).symm, rfl⟩
  | cancelled requested =>
      cases happ
      cases requested with
      | true => exact ⟨rfl, rfl, rfl, (Bool.or_false _).symm, rfl⟩
      | false => exact ⟨rfl, rfl, rfl, (Bool.or_false _).symm, rfl⟩
  | event frame =>
      obtain ⟨b, b', haccepted⟩ := hchecked frame rfl
      exact heard_event haccepted happ
  | failed error =>
      cases happ
      cases hquit : app.quitRequested with
      | true => exact ⟨by rw [Told.messages, hquit]; rfl, rfl, hquit.symm ▸ rfl,
          (Bool.or_true _).symm, rfl⟩
      | false => exact ⟨by rw [Told.messages, hquit]; rfl, rfl, hquit.symm ▸ rfl,
          (Bool.or_true _).symm, rfl⟩
  | closed returnCode result =>
      cases happ
      cases result with
      | ok _ => exact ⟨rfl, rfl, rfl, (Bool.or_false _).symm, rfl⟩
      | error error => exact ⟨rfl, rfl, rfl, (Bool.or_false _).symm, rfl⟩

end ParaegoxTextual

end Paraegox.Textual
