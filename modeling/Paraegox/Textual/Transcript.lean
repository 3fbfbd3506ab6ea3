import Paraegox.Textual.WindowSteps

/-!
# The transcript of the App

A run of the App against what it was told: the chat holds the newest of all that was said,
and the Turns come one at a time.
-/

namespace Paraegox.Textual

open Agent (TurnId)
open Stdio (OutputFrame)

/-! ## One Turn at a time -/

/-- Where the conversation is, by what the App was told. -/
inductive Talk where
  | idle
  /-- A Turn is submitted, and its outcome is to come. -/
  | waiting (turnId : TurnId)
  /-- The outcome of a Turn came before its `submit` has returned. -/
  | overtaken (outcome : String)
  /-- That `submit` has returned, and the App waits for an outcome that was. -/
  | stuck (turnId : TurnId)
deriving DecidableEq, Repr

namespace Talk

/-- The Turn the App has. -/
def turn? : Talk → Option TurnId
  | waiting turnId | stuck turnId => some turnId
  | idle | overtaken _ => none

/-- How it goes on; what else the App is told is out of order. -/
def next (talk : Talk) : Told → Option Talk
  | .submitted turnId _ =>
      match talk with
      | idle => some (waiting turnId)
      | overtaken outcome =>
          if outcome = turnId.uuid.hyphenated then some (stuck turnId) else none
      | waiting _ | stuck _ => none
  | .refused _ =>
      match talk with
      | overtaken _ => some idle
      | _ => some talk
  | .event frame =>
      match answered? frame, talk with
      | none, _ => some talk
      | some outcome, idle => some (overtaken outcome)
      | some outcome, waiting turnId =>
          if outcome = turnId.uuid.hyphenated then some idle else none
      | some _, _ => none
  | .started | .invalid _ | .cancelled _ | .failed _ | .closed _ _ => some talk

end Talk

namespace Window

/-- The Turn of the backend. -/
def backendTurn (w : Window) : Option TurnId :=
  match w.session with
  | .opened c => c.backend.activeTurnId
  | _ => none

/-- The App and its backend are where the conversation is. -/
def At (w : Window) : Talk → Prop
  | .idle => w.app.activeTurnId = none ∧
      ∀ text turnId, w.handler = .submitting text turnId → w.backendTurn = some turnId
  | .waiting turnId => w.app.activeTurnId = some turnId ∧ w.backendTurn = some turnId
  | .overtaken outcome => w.app.activeTurnId = none ∧ w.backendTurn = none ∧
      ∃ text turnId, w.handler = .submitting text turnId ∧ outcome = turnId.uuid.hyphenated
  | .stuck turnId => w.app.activeTurnId = some turnId ∧ w.backendTurn = none

theorem backendTurn_opened {w : Window} {c : Coroutines} (h : w.session = .opened c) :
    w.backendTurn = c.backend.activeTurnId := by
  rw [backendTurn, h]

theorem backendTurn_closed {w : Window} (h : ∀ c, w.session ≠ .opened c) :
    w.backendTurn = none := by
  rw [backendTurn.eq_def]
  split
  next c hc => exact absurd hc (h c)
  · rfl

variable {w w' : Window} {talk : Talk}

namespace At

/-- The Turns and the handler are as they were. -/
theorem of_eq (h : w.At talk) (hactive : w'.app.activeTurnId = w.app.activeTurnId)
    (hturn : w'.backendTurn = w.backendTurn) (hhandler : w'.handler = w.handler) : w'.At talk := by
  cases talk with
  | idle =>
      refine ⟨hactive.trans h.1, fun text turnId hsubmitting => ?_⟩
      exact hturn.trans (h.2 text turnId (hhandler.symm.trans hsubmitting))
  | waiting _ => exact ⟨hactive.trans h.1, hturn.trans h.2⟩
  | overtaken _ =>
      refine ⟨hactive.trans h.1, hturn.trans h.2.1, ?_⟩
      rw [hhandler]
      exact h.2.2
  | stuck _ => exact ⟨hactive.trans h.1, hturn.trans h.2⟩

/-- No handler that submits was there, or is. -/
theorem of_not_submitting (h : w.At talk) (hactive : w'.app.activeTurnId = w.app.activeTurnId)
    (hturn : w'.backendTurn = w.backendTurn)
    (hwas : ∀ text turnId, w.handler ≠ .submitting text turnId)
    (his : ∀ text turnId, w'.handler ≠ .submitting text turnId) : w'.At talk := by
  cases talk with
  | idle => exact ⟨hactive.trans h.1, fun text turnId hsubmitting => absurd hsubmitting (his _ _)⟩
  | waiting _ => exact ⟨hactive.trans h.1, hturn.trans h.2⟩
  | overtaken _ =>
      obtain ⟨-, -, text, turnId, hsubmitting, -⟩ := h
      exact absurd hsubmitting (hwas text turnId)
  | stuck _ => exact ⟨hactive.trans h.1, hturn.trans h.2⟩

/-- While a `submit` is on its way the App has no Turn. -/
theorem submitting (hinv : Inv w) (h : w.At talk) {text : String} {turnId : TurnId}
    (hsubmitting : w.handler = .submitting text turnId) :
    talk = .idle ∧ w.backendTurn = some turnId ∨
      talk = .overtaken turnId.uuid.hyphenated ∧ w.backendTurn = none := by
  have hnone := (hinv.submitting text turnId hsubmitting).1
  cases talk with
  | idle => exact .inl ⟨rfl, h.2 text turnId hsubmitting⟩
  | waiting _ => cases hnone.symm.trans h.1
  | overtaken outcome =>
      obtain ⟨-, hturn, _, other, hother, rfl⟩ := h
      cases hsubmitting.symm.trans hother
      exact .inr ⟨rfl, hturn⟩
  | stuck _ => cases hnone.symm.trans h.1

/-- An outcome the reader lets through is that of the Turn at hand. -/
theorem outcome (hinv : Inv w) (h : w.At talk) {c : Coroutines} (hsession : w.session = .opened c)
    {turnId : TurnId} (hturn : c.backend.activeTurnId = some turnId) :
    talk = .waiting turnId ∨
      talk = .idle ∧ ∃ text, w.handler = .submitting text turnId := by
  have hbackend := (backendTurn_opened hsession).trans hturn
  cases talk with
  | idle =>
      rcases hinv.agree c hsession turnId hturn with hactive | hsubmitting
      · cases h.1.symm.trans hactive
      · exact .inr ⟨rfl, hsubmitting⟩
  | waiting _ =>
      cases h.2.symm.trans hbackend
      exact .inl rfl
  | overtaken _ => cases h.2.1.symm.trans hbackend
  | stuck _ => cases h.2.symm.trans hbackend

/-- A handler that does not submit may be refused something. -/
theorem next_refused (h : w.At talk) (error : BackendError)
    (hhandler : ∀ text turnId, w.handler ≠ .submitting text turnId) :
    talk.next (.refused error) = some talk := by
  cases talk with
  | overtaken _ =>
      obtain ⟨-, -, text, turnId, hsubmitting, -⟩ := h
      exact absurd hsubmitting (hhandler text turnId)
  | _ => rfl

end At

theorem backendTurn_same {c c' : Coroutines} (hsession : w.session = .opened c)
    (hsession' : w'.session = .opened c')
    (hsame : c'.backend.activeTurnId = c.backend.activeTurnId) :
    w'.backendTurn = w.backendTurn := by
  rw [backendTurn_opened hsession', hsame, backendTurn_opened hsession]

theorem backendTurn_map {f : Coroutines → Coroutines}
    (hf : ∀ c, (f c).backend.activeTurnId = c.backend.activeTurnId)
    (h : w'.session = w.session.map f) : w'.backendTurn = w.backendTurn := by
  cases hsession : w.session with
  | opened c =>
      rw [hsession] at h
      rw [backendTurn_opened h, backendTurn_opened hsession, hf]
  | _ =>
      rw [hsession] at h
      rw [backendTurn_closed (fun c hc => by cases h.symm.trans hc),
        backendTurn_closed (fun c hc => by cases hsession.symm.trans hc)]

/-- The App is told of a frame. -/
theorem At.accepted (hinv : Inv w) (h : w.At talk) {c : Coroutines} {b : Backend} {frame : Frame}
    (hsession : w.session = .opened c) (haccepted : c.backend.Accepted frame b)
    (hsession' : w'.session = .opened { c with backend := b }) (hhandler : w'.handler = w.handler)
    (hactive : w'.app.activeTurnId = (Told.event frame).activeAfter w.app.activeTurnId) :
    ∃ talk', talk.next (.event frame) = some talk' ∧ w'.At talk' := by
  have hturn' : w'.backendTurn = b.activeTurnId := backendTurn_opened hsession'
  obtain ⟨-, -, -, ⟨hnone, hsame⟩ | ⟨hgone, turnId, hturn, hanswered⟩⟩ := accepted_cases haccepted
  · refine ⟨talk, by simp only [Talk.next, hnone], h.of_eq ?_ ?_ hhandler⟩
    · rw [hactive, Told.activeAfter, hnone]
      rfl
    · rw [hturn', backendTurn_opened hsession, hsame]
  · have hover : w'.app.activeTurnId = none := by
      rw [hactive, Told.activeAfter, hanswered]
      rfl
    rcases h.outcome hinv hsession hturn with rfl | ⟨rfl, text, hsubmitting⟩
    · refine ⟨.idle, ?_, hover, fun text other hsubmitting => ?_⟩
      · simp only [Talk.next, hanswered, if_true]
      · have hidle := (hinv.submitting text other (hhandler.symm.trans hsubmitting)).1
        cases h.1.symm.trans hidle
    · refine ⟨.overtaken turnId.uuid.hyphenated, ?_, hover, hturn'.trans hgone, text, turnId,
        hhandler.trans hsubmitting, rfl⟩
      simp only [Talk.next, hanswered]

/-- A step tells the App what is in order next. -/
theorem At.step (hinv : Inv w) (h : w.At talk) {report : Option Told} (hstep : Step w report w') :
    match report with
    | none => w'.At talk
    | some told => ∃ talk', talk.next told = some talk' ∧ w'.At talk' := by
  have hactive : ∀ {told}, Step w (some told) w' →
      w'.app.activeTurnId = told.activeAfter w.app.activeTurnId := fun h =>
    (ParaegoxTextual.heard h.hears.1 h.hears.2).active
  have hidle : w.handler = .idle → ∀ text turnId, w.handler ≠ .submitting text turnId :=
    fun hhandler _ _ hsubmitting => by cases hhandler.symm.trans hsubmitting
  have hclosed {session : Session} (hsession : w.session = session)
      (hne : ∀ c, session ≠ .opened c) : w.backendTurn = none :=
    backendTurn_closed fun c hc => hne c (hsession.symm.trans hc)
  cases hstep with
  | user hquiet => exact h.of_eq hquiet.activeTurnId rfl rfl
  | quit _ => exact h.of_eq rfl rfl rfl
  | @submits c c' text turnId hsession hhandler hnone _ hsame _ _ =>
      cases talk with
      | idle =>
          refine ⟨h.1, fun _ _ hsubmitting => ?_⟩
          cases hsubmitting
          exact hsame.active
      | waiting _ => cases hnone.symm.trans h.1
      | overtaken _ =>
          obtain ⟨-, -, _, _, hsubmitting, -⟩ := h
          cases hhandler.symm.trans hsubmitting
      | stuck _ => cases hnone.symm.trans h.1
  | @submitRaises c c' told app hsession hhandler hnone haside htold happ =>
      have hafter := hactive (.submitRaises hsession hhandler hnone haside htold happ)
      have hturn : backendTurn { w with session := .opened c', app } = w.backendTurn :=
        backendTurn_same hsession rfl haside.same.active
      obtain ⟨error, rfl | rfl⟩ := htold
      · exact ⟨talk, rfl, h.of_eq hafter hturn rfl⟩
      · exact ⟨talk, h.next_refused error (hidle hhandler), h.of_eq hafter hturn rfl⟩
  | cancels hsession hhandler _ _ hsame _ =>
      exact h.of_not_submitting rfl (backendTurn_same hsession rfl hsame.active) (hidle hhandler)
        fun _ _ hsubmitting => by cases hsubmitting
  | cancelOver hsession hhandler htold happ =>
      have hafter := hactive (.cancelOver hsession hhandler htold happ)
      obtain ⟨_, rfl⟩ | ⟨error, rfl⟩ := htold
      · exact ⟨talk, rfl, h.of_eq hafter rfl rfl⟩
      · exact ⟨talk, h.next_refused error (hidle hhandler), h.of_eq hafter rfl rfl⟩
  | spawned hsession =>
      exact h.of_eq rfl (hclosed hsession fun _ h => by cases h).symm rfl
  | crashes hsession =>
      rcases hsession with hsession | ⟨hsession, -⟩
      · exact h.of_eq rfl (hclosed hsession fun _ h => by cases h).symm rfl
      · exact h.of_eq rfl (hclosed hsession fun _ h => by cases h).symm rfl
  | started hsession happ =>
      exact ⟨talk, rfl, h.of_eq (hactive (.started hsession happ))
        (hclosed hsession fun _ h => by cases h).symm rfl⟩
  | notReady error hsession =>
      exact h.of_eq rfl (hclosed hsession fun _ h => by cases h).symm rfl
  | reap _ _ => exact h.of_eq rfl rfl rfl
  | startFails hsession hchild happ =>
      exact ⟨talk, rfl, h.of_eq (hactive (.startFails hsession hchild happ))
        (hclosed hsession fun _ h => by cases h).symm rfl⟩
  | aside hsession haside =>
      exact h.of_eq rfl (backendTurn_same hsession rfl haside.same.active) rfl
  | @returns c c' writer told app hsession hcallers hwritten hsame htidy htold happ =>
      have hafter := hactive (.returns hsession hcallers hwritten hsame htidy htold happ)
      have hturn : backendTurn { w with session := .opened c', handler := .idle, app } =
          w.backendTurn := backendTurn_same hsession rfl hsame.active
      obtain ⟨text, turnId, hsubmitting, rfl⟩ | ⟨hcancelling, rfl⟩ := htold
      · rcases h.submitting hinv hsubmitting with ⟨rfl, hbackend⟩ | ⟨rfl, hbackend⟩
        · exact ⟨.waiting turnId, rfl, hafter, hturn.trans hbackend⟩
        · exact ⟨.stuck turnId, if_pos rfl, hafter, hturn.trans hbackend⟩
      · refine ⟨talk, rfl, h.of_not_submitting hafter hturn ?_ fun _ _ h => by cases h⟩
        intro _ _ hsubmitting
        cases hcancelling.symm.trans hsubmitting
  | @raises c c' writer error app hsession hcallers hsame htidy happ =>
      have hafter := hactive (.raises hsession hcallers hsame htidy happ)
      obtain ⟨-, ⟨text, turnId, hsubmitting, -⟩ | ⟨hcancelling, hframe⟩⟩ :=
        Inv.callers_done (hinv.awaits c hsession) hcallers
      · have hover := hafter.trans (hinv.submitting text turnId hsubmitting).1
        rcases h.submitting hinv hsubmitting with ⟨rfl, -⟩ | ⟨rfl, -⟩
        · exact ⟨.idle, rfl, hover, fun _ _ h => by cases h⟩
        · exact ⟨.idle, rfl, hover, fun _ _ h => by cases h⟩
      · have hnot : ∀ text turnId, w.handler ≠ .submitting text turnId :=
          fun _ _ hsubmitting => by cases hcancelling.symm.trans hsubmitting
        have hturn : backendTurn { w with session := .opened c', handler := .idle, app } =
            w.backendTurn :=
          backendTurn_same hsession rfl (hsame.active.trans (c.raise_active hframe))
        exact ⟨talk, h.next_refused error hnot, h.of_not_submitting hafter hturn hnot
          fun _ _ h => by cases h⟩
  | event hsession hreading haccepted hgoes happ =>
      exact h.accepted hinv hsession haccepted rfl rfl
        (hactive (.event hsession hreading haccepted hgoes happ))
  | ends hsession hreading haccepted hends happ =>
      exact h.accepted hinv hsession haccepted rfl rfl
        (hactive (.ends hsession hreading haccepted hends happ))
  | fails hsession hreading happ =>
      exact ⟨talk, rfl, h.of_eq (hactive (.fails hsession hreading happ))
        (backendTurn_same hsession rfl rfl) rfl⟩
  | exit code _ =>
      exact h.of_eq rfl (backendTurn_map (f := fun c => { c with exited := true })
        (fun _ => rfl) rfl) rfl
  | shutdownAbsent hshutdown hcode hchild happ =>
      exact ⟨talk, rfl, h.of_eq (hactive (.shutdownAbsent hshutdown hcode hchild happ)) rfl rfl⟩
  | shutdownBegins _ _ _ => exact h.of_eq rfl rfl rfl
  | request _ =>
      refine h.of_eq rfl (backendTurn_map (fun c => ?_) rfl) rfl
      exact ((Coroutines.shutdown_aside c).trans (Coroutines.request_aside _)).same.active
  | settle hshutdown hchild hdone hresult happ =>
      exact ⟨talk, rfl, h.of_eq (hactive (.settle hshutdown hchild hdone hresult happ)) rfl rfl⟩
  | deadline _ =>
      exact h.of_eq rfl (backendTurn_map (f := Coroutines.giveUp) (fun _ => rfl) rfl) rfl
  | overdue hshutdown hchild happ =>
      exact ⟨talk, rfl, h.of_eq (hactive (.overdue hshutdown hchild happ)) rfl rfl⟩

/-! ## What was submitted -/

/-- The frame of a Turn is written when the App is told of it. -/
theorem Step.submitted (hinv : Inv w) {text : String} {turnId : TurnId}
    (h : Step w (some (.submitted turnId text)) w') :
    validateInput text MAX_INPUT_BYTES = .ok () ∧ ∃ c, w'.session = .opened c ∧
      .submit 1 c.backend.sessionId turnId text ∈ c.written := by
  cases h with
  | submitRaises _ _ _ _ htold _ => simp at htold
  | cancelOver _ _ htold _ => simp at htold
  | @returns c c' writer _ _ hsession hcallers hwritten hsame _ htold _ =>
      obtain ⟨_, _, hsubmitting, htold⟩ | ⟨-, htold⟩ := htold
      · cases htold
        refine ⟨(hinv.submitting text turnId hsubmitting).2, c', rfl, ?_⟩
        obtain ⟨-, ⟨_, _, hother, hframe⟩ | ⟨hcancelling, -⟩⟩ :=
          Inv.callers_done (hinv.awaits c hsession) hcallers
        · cases hsubmitting.symm.trans hother
          rw [hsame.sessionId, ← hframe]
          exact hsame.written hwritten
        · cases hsubmitting.symm.trans hcancelling
      · cases htold

abbrev Event := Transition.Event Window Act (Option Told)

/-- All the App was told in a run. -/
def told (tr : List Event) : List Told := tr.filterMap Transition.Event.report

/-- All that was said in it, however long ago. -/
def history (tr : List Event) : List (Role × String) :=
  tr.flatMap fun x => x.report.elim [] (Told.messages x.pre.app.quitRequested)

theorem told_concat (tr : List Event) (x : Event) :
    told (tr ++ [x]) = told tr ++ x.report.toList := by
  rw [told, List.filterMap_append, told, List.filterMap_cons, List.filterMap_nil]
  cases x.report <;> rfl

variable {configuredTimeoutMs : Nat} {tr : List Event}

theorem takes_step {x : Event} (hx : (system configuredTimeoutMs).Takes x) (hinv : Inv x.pre) :
    (x.pre.app.returnCode = none ∧ x.pre.crashed = false) ∧ Step x.pre x.report x.post := by
  obtain ⟨hlive, hstep⟩ := next_live hx
  exact ⟨hlive, next_step hinv hstep⟩

/-- What every step keeps between the App and its past, every run keeps. -/
theorem run_trace {R : Window → List Told → Prop}
    (h : (system configuredTimeoutMs).Run mounted tr w) (hmounted : R mounted [])
    (hstep : ∀ w w' report before, w.Inv → w.app.returnCode = none → w.crashed = false →
      Step w report w' → R w before → R w' (before ++ report.toList)) : R w (told tr) := by
  refine (h.trace (R := fun w tr => Inv w ∧ R w (told tr)) ?_ ⟨.mounted, hmounted⟩).2
  rintro x before hx ⟨hinv, hR⟩
  obtain ⟨⟨hreturned, hlive⟩, hnext⟩ := takes_step hx hinv
  rw [told_concat]
  exact ⟨hnext.inv hinv, hstep _ _ _ _ hinv hreturned hlive hnext hR⟩

end Window

end Paraegox.Textual
