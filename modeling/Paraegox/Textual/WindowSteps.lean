import Paraegox.Textual.Told
import Paraegox.Textual.Writers

/-!
# The steps of the App

What a step of a `Window` does, said once, and what every step keeps between the App and
its Session.
-/

namespace Paraegox.Textual

open Agent (SessionId TurnId)

/-! ## What holds between the App and its Session -/

/-- The coroutine a handler waits for is the only one that is not of `shutdown`. -/
def Handler.Awaits (c : Coroutines) : Handler → Prop
  | .idle => c.callers = []
  | .submitting text turnId =>
      c.callers = [⟨.submit 1 c.backend.sessionId turnId text, .submitReturns⟩]
  | .cancelling => ∃ turnId, c.callers = [⟨.cancel 1 c.backend.sessionId turnId, .cancelReturns⟩]

namespace Window

/-- The Turn of the App is that of its backend, but while a `submit` is on its way and
once the Turn has ended. -/
structure Inv (w : Window) : Prop where
  closed : (∀ c, w.session ≠ .opened c) → w.handler = .idle ∧ w.app.activeTurnId = none ∧
    w.app.connected = false
  tidy : ∀ c, w.session = .opened c → c.Tidy
  awaits : ∀ c, w.session = .opened c → w.handler.Awaits c
  agree : ∀ c, w.session = .opened c → ∀ turnId, c.backend.activeTurnId = some turnId →
    w.app.activeTurnId = some turnId ∨ ∃ text, w.handler = .submitting text turnId
  submitting : ∀ text turnId, w.handler = .submitting text turnId →
    w.app.activeTurnId = none ∧ validateInput text MAX_INPUT_BYTES = .ok ()

theorem Inv.mounted : Inv mounted where
  closed _ := ⟨rfl, rfl, rfl⟩
  tidy _ h := by cases h
  awaits _ h := by cases h
  agree _ h := by cases h
  submitting _ _ h := by cases h

end Window

namespace Window

/-- What a step does, with what it tells a handler. -/
inductive Step (w : Window) : Option Told → Window → Prop where
  /-- A handler that does not need the backend. -/
  | user {app : ParaegoxTextual} (h : w.app.Quiet app) : Step w none { w with app }
  | quit (hfirst : w.app.quitRequested = false) :
      Step w none { w with app := w.app.requestQuit, shutdown := .pending }
  | submits {c c' : Coroutines} {text : String} {turnId : TurnId}
      (hsession : w.session = .opened c) (hhandler : w.handler = .idle)
      (hidle : w.app.activeTurnId = none)
      (hqueue : c'.queue =
        c.queue ++ [⟨.submit 1 c.backend.sessionId turnId text, .submitReturns⟩])
      (hsame : Coroutines.Same { c with backend := { c.backend with activeTurnId := some turnId } }
        c') (htidy : c.Tidy → c'.Tidy) (hvalid : validateInput text MAX_INPUT_BYTES = .ok ()) :
      Step w none { w with session := .opened c', handler := .submitting text turnId }
  | submitRaises {c c' : Coroutines} {told : Told} {app : ParaegoxTextual}
      (hsession : w.session = .opened c) (hhandler : w.handler = .idle)
      (hidle : w.app.activeTurnId = none) (haside : Coroutines.Aside c c')
      (htold : ∃ error, told = .invalid error ∨ told = .refused error)
      (happ : w.app.hear told = some app) :
      Step w (some told) { w with session := .opened c', app }
  | cancels {c c' : Coroutines} {turnId : TurnId} (hsession : w.session = .opened c)
      (hhandler : w.handler = .idle) (hactive : c.backend.activeTurnId = some turnId)
      (hqueue : c'.queue = c.queue ++ [⟨.cancel 1 c.backend.sessionId turnId, .cancelReturns⟩])
      (hsame : Coroutines.Same c c') (htidy : c.Tidy → c'.Tidy) :
      Step w none { w with session := .opened c', handler := .cancelling }
  | cancelOver {c : Coroutines} {told : Told} {app : ParaegoxTextual}
      (hsession : w.session = .opened c) (hhandler : w.handler = .idle)
      (htold : (∃ requested, told = .cancelled requested) ∨ ∃ error, told = .refused error)
      (happ : w.app.hear told = some app) : Step w (some told) { w with app }
  | spawned (hsession : w.session = .spawning) :
      Step w none { w with session := .awaitingReady, child := .running }
  /-- `start` raises something else than a `BackendError`. -/
  | crashes (hsession : w.session = .spawning ∨ w.session = .stopping none ∧
        w.readerDone = true ∧ w.child ≠ .running) :
      Step w none { w with session := .failed, crashed := true, readerDone := true }
  | started {sessionId : SessionId} {app : ParaegoxTextual} (hsession : w.session = .awaitingReady)
      (happ : w.app.hear .started = some app) :
      Step w (some .started) { w with session := .opened (.started sessionId), app }
  | notReady (error : Option BackendError) (hsession : w.session = .awaitingReady) :
      Step w none { w with session := .stopping error }
  | reap (hforcing : w.isForcing = true) (hchild : w.child ≠ .running) :
      Step w none { w with readerDone := true }
  | startFails {error : BackendError} {app : ParaegoxTextual}
      (hsession : w.session = .stopping (some error)) (hchild : w.child ≠ .running)
      (happ : w.app.hear (.failed error) = some app) :
      Step w (some (.failed error)) { w with session := .failed, app, readerDone := true }
  /-- The coroutines of `shutdown`, and those that only get the lock. -/
  | aside {c c' : Coroutines} (hsession : w.session = .opened c) (h : Coroutines.Aside c c') :
      Step w none { w with session := .opened c' }
  | returns {c c' : Coroutines} {writer : Writer} {told : Told} {app : ParaegoxTextual}
      (hsession : w.session = .opened c) (hcallers : c.callers = writer :: c'.callers)
      (hwritten : writer.frame ∈ c.written) (hsame : Coroutines.Same c c')
      (htidy : c.Tidy → c'.Tidy)
      (htold : (∃ text turnId, w.handler = .submitting text turnId ∧
        told = .submitted turnId text) ∨ w.handler = .cancelling ∧ told = .cancelled true)
      (happ : w.app.hear told = some app) :
      Step w (some told) { w with session := .opened c', handler := .idle, app }
  | raises {c c' : Coroutines} {writer : Writer} {error : BackendError} {app : ParaegoxTextual}
      (hsession : w.session = .opened c) (hcallers : c.callers = writer :: c'.callers)
      (hsame : Coroutines.Same (c.raise writer) c') (htidy : c.Tidy → c'.Tidy)
      (happ : w.app.hear (.refused error) = some app) :
      Step w (some (.refused error)) { w with session := .opened c', handler := .idle, app }
  | event {c : Coroutines} {b : Backend} {frame : Frame} {app : ParaegoxTextual}
      (hsession : w.session = .opened c) (hreading : c.backend.reader = .reading)
      (haccepted : c.backend.Accepted frame b) (hgoes : b.reader = .reading)
      (happ : w.app.hear (.event frame) = some app) :
      Step w (some (.event frame)) { w with session := .opened { c with backend := b }, app }
  | ends {c : Coroutines} {b : Backend} {frame : Frame} {app : ParaegoxTextual}
      (hsession : w.session = .opened c) (hreading : c.backend.reader = .reading)
      (haccepted : c.backend.Accepted frame b) (hends : b.reader = .finished)
      (happ : w.app.hear (.event frame) = some app) :
      Step w (some (.event frame))
        { w with session := .opened { c with backend := b }, app, readerDone := true }
  | fails {c : Coroutines} {error : BackendError} {app : ParaegoxTextual}
      (hsession : w.session = .opened c) (hreading : c.backend.reader = .reading)
      (happ : w.app.hear (.failed error) = some app) :
      Step w (some (.failed error)) { w with
        session := .opened { c with backend := { c.backend with reader := .raised error } }
        app, readerDone := true }
  | exit (code : Int) (hchild : w.child = .running) :
      Step w none { w with
        child := .exited code, session := w.session.map fun c => { c with exited := true } }
  | shutdownAbsent {returnCode : Nat} {app : ParaegoxTextual} (hshutdown : w.shutdown = .pending)
      (hcode : returnCode = if w.app.backendFailed then 1 else 0) (hchild : w.child = .absent)
      (happ : w.app.hear (.closed returnCode (.ok ())) = some app) :
      Step w (some (.closed returnCode (.ok ()))) { w with shutdown := .settled, app }
  | shutdownBegins {returnCode : Nat} (hshutdown : w.shutdown = .pending)
      (hcode : returnCode = if w.app.backendFailed then 1 else 0) (hchild : w.child ≠ .absent) :
      Step w none { w with shutdown := .requesting returnCode }
  | request {returnCode : Nat} (hshutdown : w.shutdown = .requesting returnCode) :
      Step w none { w with
        shutdown := .graceful returnCode, session := w.session.map fun c => c.shutdown.request }
  | settle {returnCode : Nat} {code : Int} {result : Except BackendError Unit}
      {app : ParaegoxTextual} (hshutdown : w.shutdown = .graceful returnCode)
      (hchild : w.child = .exited code) (hdone : w.readerDone = true)
      (hresult : result = .ok () ↔ code = 0)
      (happ : w.app.hear (.closed returnCode result) = some app) :
      Step w (some (.closed returnCode result)) { w with shutdown := .settled, app }
  | deadline {returnCode : Nat} (hshutdown : w.shutdown = .graceful returnCode) :
      Step w none { w with
        shutdown := .forcing returnCode, session := w.session.map Coroutines.giveUp }
  | overdue {returnCode : Nat} {error : BackendError} {app : ParaegoxTextual}
      (hshutdown : w.shutdown = .forcing returnCode) (hchild : w.child ≠ .running)
      (happ : w.app.hear (.closed returnCode (.error error)) = some app) :
      Step w (some (.closed returnCode (.error error))) { w with shutdown := .settled, app }

end Window

namespace Window

theorem tell_eq {w : Window} {told : Told} {app : ParaegoxTextual}
    (happ : w.app.hear told = some app) : w.tell told = (some told, { w with app }) := by
  rw [tell, happ]

/-- A Window that takes a step is not over. -/
theorem next_live {w w' : Window} {configuredTimeoutMs : Nat} {act : Act} {report : Option Told}
    (h : w.next configuredTimeoutMs act = some (report, w')) :
    (w.app.returnCode = none ∧ w.crashed = false) ∧
      w.step configuredTimeoutMs act = some (report, w') := by
  rw [next] at h
  split at h
  · cases h
  next hover =>
    rw [not_or, Option.not_isSome_iff_eq_none, Bool.not_eq_true] at hover
    exact ⟨hover, h⟩

variable {w w' : Window} {report : Option Told}

theorem quit_step (w : Window) : Step w none w.quit := by
  rw [quit]
  split
  · exact .user (.refl _)
  next hfirst => exact .quit (Bool.not_eq_true _ ▸ hfirst)

theorem submitMessage_step {c : Coroutines} {text : String} {turnId : TurnId} (hinv : Inv w)
    (hsession : w.session = .opened c) (hhandler : w.handler = .idle) :
    Step w (w.submitMessage c text turnId).1 (w.submitMessage c text turnId).2 := by
  rw [submitMessage]
  split
  · exact quit_step w
  split
  · exact .user (.refl _)
  next hready =>
    rw [not_or, Option.not_isSome_iff_eq_none] at hready
    have hidle : c.backend.activeTurnId = none := by
      refine Option.eq_none_iff_forall_ne_some.mpr fun t ht => ?_
      rcases hinv.agree c hsession t ht with hactive | ⟨text, hsubmitting⟩
      · cases hready.1.symm.trans hactive
      · cases hhandler.symm.trans hsubmitting
    rcases Coroutines.submit_cases hidle text turnId with
      ⟨c', hsubmit, hqueue, hsame, htidy, hvalid⟩ | ⟨error, c', hsubmit, haside⟩
    · rw [hsubmit]
      exact .submits hsession hhandler hready.1 hqueue hsame htidy hvalid
    · rw [hsubmit]
      dsimp only
      split
      · rw [tell_eq (by rfl)]
        exact .submitRaises hsession hhandler hready.1 haside ⟨error, .inl rfl⟩ rfl
      · rw [tell_eq (by rfl)]
        exact .submitRaises hsession hhandler hready.1 haside ⟨error, .inr rfl⟩ rfl

theorem cancelOrClear_step (hinv : Inv w) (hhandler : w.handler = .idle) :
    Step w w.cancelOrClear.1 w.cancelOrClear.2 := by
  rw [cancelOrClear]
  split
  · exact .user (w.app.clearInput_quiet)
  next hactive =>
    cases hsession : w.session with
    | opened c =>
        dsimp only
        rcases c.cancel_cases with
          ⟨turnId, c', hcancel, hturn, hqueue, hsame, htidy⟩ | ⟨result, hcancel⟩
        · rw [hcancel]
          exact .cancels hsession hhandler hturn hqueue hsame htidy
        · rw [hcancel]
          cases result with
          | ok requested =>
              dsimp only
              rw [tell_eq (by rfl), ← hsession]
              exact .cancelOver hsession hhandler (.inl ⟨requested, rfl⟩) rfl
          | error error =>
              dsimp only
              rw [tell_eq (by rfl), ← hsession]
              exact .cancelOver hsession hhandler (.inr ⟨error, rfl⟩) rfl
    | _ =>
        have hnone := (hinv.closed (fun c hc => by cases hsession.symm.trans hc)).2.1
        rw [hnone] at hactive
        exact absurd rfl hactive

theorem ready_step {configuredTimeoutMs : Nat} {json : Json} (hsession : w.session = .awaitingReady)
    (h : w.ready configuredTimeoutMs json = some (report, w')) : Step w report w' := by
  rw [ready] at h
  split at h
  · obtain ⟨uuid, -, heq⟩ := Option.map_eq_some_iff.mp h
    rw [tell_eq (by rfl)] at heq
    cases heq
    exact .started hsession rfl
  next error _ =>
    cases h
    exact .notReady _ hsession

theorem startRaises_step {error : Option BackendError} (hinv : Inv w)
    (hsession : w.session = .stopping error ∨ w.session = .spawning ∧ error = none)
    (hchild : w.session = .stopping error → w.readerDone = true ∧ w.child ≠ .running) :
    Step w (w.startRaises error).1 (w.startRaises error).2 := by
  have hclosed : ∀ c, w.session ≠ .opened c := by
    intro c hc
    rcases hsession with hsession | ⟨hsession, -⟩
    · cases hsession.symm.trans hc
    · cases hsession.symm.trans hc
  cases error with
  | none =>
      have happ : w.app.loopEnded = w.app :=
        ParaegoxTextual.loopEnded_eq (hinv.closed hclosed).2.2
      rw [startRaises, loopEnded]
      dsimp only
      rw [happ]
      refine .crashes ?_
      rcases hsession with hsession | ⟨hsession, -⟩
      · exact .inr ⟨hsession, hchild hsession⟩
      · exact .inl hsession
  | some error =>
      rcases hsession with hsession | ⟨-, hnone⟩
      · obtain ⟨app, happ⟩ : ∃ app, w.app.hear (.failed error) = some app := ⟨_, rfl⟩
        simp only [startRaises, tell, happ, loopEnded]
        rw [ParaegoxTextual.loopEnded_eq (ParaegoxTextual.hear_failed happ)]
        exact .startFails hsession (hchild hsession).2 happ
      · cases hnone

theorem resume_step {act : Coroutines.Act} (hinv : Inv w)
    (hact : ∀ (c : Coroutines) result c', c.Tidy → c.next act = some (result, c') →
      c.Resumed result c')
    (h : w.resume act = some (report, w')) : Step w report w' := by
  rw [resume.eq_def] at h
  split at h
  next c hsession =>
    obtain ⟨⟨result, c'⟩, hnext, heq⟩ := Option.map_eq_some_iff.mp h
    have hawaits := hinv.awaits c hsession
    have hresumed := hact c result c' (hinv.tidy c hsession) hnext
    dsimp only at heq
    rw [deliver.eq_def] at heq
    cases hresumed with
    | quiet haside =>
        cases heq
        exact .aside hsession haside
    | @returns writer _ hcallers hwritten hsame htidy =>
        dsimp only at heq
        cases hhandler : w.handler with
        | idle =>
            rw [hhandler, Handler.Awaits, hcallers] at hawaits
            cases hawaits
        | submitting text turnId =>
            simp only [hhandler] at heq
            rw [tell_eq (by rfl)] at heq
            cases heq
            exact .returns hsession hcallers hwritten hsame htidy
              (.inl ⟨text, turnId, hhandler, rfl⟩) rfl
        | cancelling =>
            simp only [hhandler] at heq
            rw [tell_eq (by rfl)] at heq
            cases heq
            exact .returns hsession hcallers hwritten hsame htidy (.inr ⟨hhandler, rfl⟩) rfl
    | @raises writer error _ hcallers hsame htidy =>
        dsimp only at heq
        cases hhandler : w.handler with
        | idle =>
            rw [hhandler, Handler.Awaits, hcallers] at hawaits
            cases hawaits
        | submitting text turnId =>
            simp only [hhandler] at heq
            rw [tell_eq (by rfl)] at heq
            cases heq
            exact .raises hsession hcallers hsame htidy rfl
        | cancelling =>
            simp only [hhandler] at heq
            rw [tell_eq (by rfl)] at heq
            cases heq
            exact .raises hsession hcallers hsame htidy rfl
  · cases h

theorem line_step {c : Coroutines} (json : Json) (hsession : w.session = .opened c)
    (hreading : c.backend.reader = .reading) :
    Step w (w.line c json).1 (w.line c json).2 := by
  rw [line.eq_def]
  rcases c.backend.event_cases json with ⟨error, hevent⟩ | ⟨frame, rfl, haccepted⟩
  · obtain ⟨app, happ⟩ : ∃ app, w.app.hear (.failed error) = some app := ⟨_, rfl⟩
    rw [hevent]
    simp only [tell, happ, loopEnded]
    rw [ParaegoxTextual.loopEnded_eq (ParaegoxTextual.hear_failed happ)]
    exact .fails hsession hreading happ
  · obtain ⟨app, happ⟩ := ParaegoxTextual.hear_accepted haccepted w.app
    have hreader : (c.backend.event (.obj frame)).reader = .reading ∨
        (c.backend.event (.obj frame)).reader = .finished := by
      generalize c.backend.event (.obj frame) = b at haccepted
      cases haccepted with
      | cancelResult _ _ => exact .inl hreading
      | terminal _ _ _ _ _ _ => exact .inl hreading
      | error _ _ _ _ => exact .inr rfl
      | stopped _ => exact .inr rfl
    rcases hreader with hgoes | hends
    · simp only [hgoes, tell, happ]
      exact .event hsession hreading haccepted hgoes happ
    · simp only [hends, tell, happ, loopEnded]
      rw [ParaegoxTextual.loopEnded_eq
        (ParaegoxTextual.hear_last haccepted hreading hends happ)]
      exact .ends hsession hreading haccepted hends happ

theorem settle_step {returnCode : Nat} {detail : String}
    (hshutdown : w.shutdown = .graceful returnCode)
    (h : w.settle returnCode detail = some (report, w')) : Step w report w' := by
  have hsettle (code : Int) (hchild : w.child = .exited code) (hdone : w.readerDone = true)
      (h : { w with shutdown := .settled }.tell (.closed returnCode
        (if code = 0 then .ok () else .error (exitError code detail))) = (report, w')) :
      Step w report w' := by
    split at h
    next hzero =>
      rw [tell_eq (by rfl)] at h
      cases h
      exact .settle hshutdown hchild hdone (by simp [hzero]) rfl
    next hcode =>
      rw [tell_eq (by rfl)] at h
      cases h
      exact .settle hshutdown hchild hdone (by simp [hcode]) rfl
  rw [settle.eq_def] at h
  split at h
  next code c hchild _ =>
    rw [Option.ite_none_right_eq_some] at h
    exact hsettle code hchild h.1.1 (Option.some.inj h.2)
  next code hchild _ =>
    rw [Option.ite_none_right_eq_some] at h
    exact hsettle code hchild h.1 (Option.some.inj h.2)
  · cases h

theorem next_step {configuredTimeoutMs : Nat} {act : Act} (hinv : Inv w)
    (h : w.step configuredTimeoutMs act = some (report, w')) : Step w report w' := by
  have hstep {r : Option Told × Window} (hr : Step w r.1 r.2) (h : some r = some (report, w')) :
      Step w report w' := by
    cases h
    exact hr
  rw [step.eq_def] at h
  split at h
  next value _ => exact hstep (.user (w.app.boundInput_quiet value)) h
  next hsession hhandler => exact hstep (submitMessage_step hinv hsession hhandler) h
  next hhandler => exact hstep (cancelOrClear_step hinv hhandler) h
  · exact hstep (quit_step w) h
  next hsession => exact hstep (.spawned hsession) h
  next hsession =>
    refine hstep (startRaises_step hinv (.inr ⟨hsession, rfl⟩) fun hstopping => ?_) h
    cases hsession.symm.trans hstopping
  next hsession => exact ready_step hsession h
  next hsession => exact hstep (.notReady _ hsession) h
  · rw [Option.ite_none_right_eq_some] at h
    exact hstep (.reap h.1.1 h.1.2) h.2
  next hsession =>
    rw [Option.ite_none_right_eq_some] at h
    exact hstep (startRaises_step hinv (.inl hsession) fun _ => h.1) h.2
  · refine resume_step hinv (fun c result c' _ hnext => ?_) h
    obtain ⟨_, hacquire, heq⟩ := Option.map_eq_some_iff.mp hnext
    cases heq
    exact Coroutines.acquire_resumed hacquire
  · refine resume_step hinv (fun c result c' htidy hnext => ?_) h
    exact Coroutines.drained_resumed htidy hnext
  · refine resume_step hinv (fun c result c' htidy hnext => ?_) h
    exact Coroutines.broken_resumed htidy hnext
  next json c hsession =>
    rw [Option.ite_none_right_eq_some] at h
    exact hstep (line_step json hsession h.1) h.2
  next error c hsession =>
    rw [Option.ite_none_right_eq_some] at h
    obtain ⟨app, happ⟩ : ∃ app, w.app.hear (.failed error) = some app := ⟨_, rfl⟩
    refine hstep ?_ h.2
    simp only [tell, happ, loopEnded]
    rw [ParaegoxTextual.loopEnded_eq (ParaegoxTextual.hear_failed happ)]
    exact .fails hsession h.1 happ
  next code =>
    rw [Option.ite_none_right_eq_some] at h
    exact hstep (.exit code h.1) h.2
  · rw [Option.ite_none_right_eq_some] at h
    refine hstep ?_ h.2
    rw [beginShutdown.eq_def]
    dsimp only
    split
    next hchild =>
      rw [tell_eq (by rfl)]
      exact .shutdownAbsent h.1 rfl hchild rfl
    next hchild => exact .shutdownBegins h.1 rfl hchild
  · split at h
    next hshutdown => exact hstep (.request hshutdown) h
    · cases h
  · split at h
    next hshutdown => exact settle_step hshutdown h
    · cases h
  · split at h
    next hshutdown => exact hstep (.deadline hshutdown) h
    · cases h
  · split at h
    next hshutdown =>
      rw [Option.ite_none_right_eq_some] at h
      refine hstep ?_ h.2
      rw [tell_eq (by rfl)]
      exact .overdue hshutdown h.1.2 rfl
    · cases h
  · cases h

/-! ## What every step keeps -/

/-- The App hears what a step tells it. -/
theorem Step.hears {told : Told} (h : Step w (some told) w') :
    ParaegoxTextual.Checked told ∧ w.app.hear told = some w'.app := by
  cases h with
  | submitRaises _ _ _ _ htold happ =>
      obtain ⟨error, rfl | rfl⟩ := htold
      · exact ⟨(fun _ h => by cases h), happ⟩
      · exact ⟨(fun _ h => by cases h), happ⟩
  | cancelOver _ _ htold happ =>
      obtain ⟨requested, rfl⟩ | ⟨error, rfl⟩ := htold
      · exact ⟨(fun _ h => by cases h), happ⟩
      · exact ⟨(fun _ h => by cases h), happ⟩
  | started _ happ => exact ⟨(fun _ h => by cases h), happ⟩
  | startFails _ _ happ => exact ⟨(fun _ h => by cases h), happ⟩
  | returns _ _ _ _ _ htold happ =>
      obtain ⟨text, turnId, -, rfl⟩ | ⟨-, rfl⟩ := htold
      · exact ⟨(fun _ h => by cases h), happ⟩
      · exact ⟨(fun _ h => by cases h), happ⟩
  | raises _ _ _ _ happ => exact ⟨(fun _ h => by cases h), happ⟩
  | event _ _ haccepted _ happ =>
      refine ⟨fun frame heq => ?_, happ⟩
      cases heq
      exact ⟨_, _, haccepted⟩
  | ends _ _ haccepted _ happ =>
      refine ⟨fun frame heq => ?_, happ⟩
      cases heq
      exact ⟨_, _, haccepted⟩
  | fails _ _ happ => exact ⟨(fun _ h => by cases h), happ⟩
  | shutdownAbsent _ _ _ happ => exact ⟨(fun _ h => by cases h), happ⟩
  | settle _ _ _ _ happ => exact ⟨(fun _ h => by cases h), happ⟩
  | overdue _ _ happ => exact ⟨(fun _ h => by cases h), happ⟩

/-- Otherwise it has done something for the user, or nothing. -/
theorem Step.quiet (h : Step w none w') :
    w.app.Quiet w'.app ∨ w.app.quitRequested = false ∧ w'.app = w.app.requestQuit := by
  cases h with
  | user h => exact .inl h
  | quit hfirst => exact .inr ⟨hfirst, rfl⟩
  | _ => exact .inl (.refl _)

namespace Inv

variable {c c' : Coroutines}

/-- The Session and the handlers are as they were, and so is the Turn of the App. -/
theorem of_eq (hinv : Inv w) (hsession : w'.session = w.session)
    (hhandler : w'.handler = w.handler) (hactive : w'.app.activeTurnId = w.app.activeTurnId)
    (hconnected : (∀ c, w.session ≠ .opened c) → w'.app.connected = false) : Inv w' where
  closed hclosed := by
    rw [hsession] at hclosed
    obtain ⟨hidle, hnone, -⟩ := hinv.closed hclosed
    exact ⟨hhandler.trans hidle, hactive.trans hnone, hconnected hclosed⟩
  tidy c hc := hinv.tidy c (hsession.symm.trans hc)
  awaits c hc := hhandler ▸ hinv.awaits c (hsession.symm.trans hc)
  agree c hc turnId hturn := by
    rw [hactive, hhandler]
    exact hinv.agree c (hsession.symm.trans hc) turnId hturn
  submitting text turnId hturn := by
    rw [hactive]
    exact hinv.submitting text turnId (hhandler.symm.trans hturn)

/-- There is no Session, and was none. -/
theorem of_closed (hinv : Inv w) (hwas : ∀ c, w.session ≠ .opened c)
    (hclosed : ∀ c, w'.session ≠ .opened c) (hhandler : w'.handler = w.handler)
    (hactive : w'.app.activeTurnId = w.app.activeTurnId) (hconnected : w'.app.connected = false) :
    Inv w' where
  closed _ := by
    obtain ⟨hidle, hnone, -⟩ := hinv.closed hwas
    exact ⟨hhandler.trans hidle, hactive.trans hnone, hconnected⟩
  tidy c hc := absurd hc (hclosed c)
  awaits c hc := absurd hc (hclosed c)
  agree c hc := absurd hc (hclosed c)
  submitting text turnId hturn := by
    cases (hhandler.symm.trans hturn).symm.trans (hinv.closed hwas).1

/-- There is one. -/
theorem of_opened (hsession : w'.session = .opened c') (htidy : c'.Tidy)
    (hawaits : w'.handler.Awaits c')
    (hagree : ∀ turnId, c'.backend.activeTurnId = some turnId →
      w'.app.activeTurnId = some turnId ∨ ∃ text, w'.handler = .submitting text turnId)
    (hsubmitting : ∀ text turnId, w'.handler = .submitting text turnId →
      w'.app.activeTurnId = none ∧ validateInput text MAX_INPUT_BYTES = .ok ()) : Inv w' where
  closed hclosed := absurd hsession (hclosed c')
  tidy c hc := by
    cases hsession.symm.trans hc
    exact htidy
  awaits c hc := by
    cases hsession.symm.trans hc
    exact hawaits
  agree c hc := by
    cases hsession.symm.trans hc
    exact hagree
  submitting := hsubmitting

/-- A handler waits for the same coroutine. -/
theorem awaits_of_eq {handler : Handler} (h : handler.Awaits c)
    (hsession : c'.backend.sessionId = c.backend.sessionId) (hcallers : c'.callers = c.callers) :
    handler.Awaits c' := by
  cases handler with
  | idle => exact hcallers.trans h
  | submitting _ _ =>
      rw [Handler.Awaits, hcallers, hsession]
      exact h
  | cancelling =>
      rw [Handler.Awaits, hcallers, hsession]
      exact h

/-- The Session has changed, but not for the handlers. -/
theorem kept (hinv : Inv w) (hsession : w.session = .opened c)
    (hsession' : w'.session = .opened c') (hhandler : w'.handler = w.handler)
    (hactive : w'.app.activeTurnId = w.app.activeTurnId) (h : Coroutines.Kept c c') : Inv w' := by
  refine of_opened hsession' (h.tidy (hinv.tidy c hsession)) ?_ ?_ ?_
  · rw [hhandler]
    exact awaits_of_eq (hinv.awaits c hsession) h.sessionId h.callers
  · intro turnId hturn
    rw [hactive, hhandler]
    exact hinv.agree c hsession turnId (h.active.symm.trans hturn)
  · intro text turnId hturn
    rw [hactive]
    exact hinv.submitting text turnId (hhandler.symm.trans hturn)

theorem map (hinv : Inv w) {f : Coroutines → Coroutines} (hf : ∀ c, Coroutines.Kept c (f c))
    (hsession : w'.session = w.session.map f) (hhandler : w'.handler = w.handler)
    (happ : w'.app = w.app) : Inv w' := by
  have hactive : w'.app.activeTurnId = w.app.activeTurnId := congrArg _ happ
  cases hwas : w.session with
  | opened c =>
      rw [hwas] at hsession
      exact hinv.kept hwas hsession hhandler hactive (hf c)
  | _ =>
      rw [hwas] at hsession
      refine hinv.of_eq (hsession.trans hwas.symm) hhandler hactive fun hclosed => ?_
      rw [happ]
      exact (hinv.closed hclosed).2.2

/-- The one coroutine a handler waits for is done. -/
theorem callers_done {writer : Writer} (hawaits : w.handler.Awaits c)
    (hcallers : c.callers = writer :: c'.callers) :
    c'.callers = [] ∧ ((∃ text turnId, w.handler = .submitting text turnId ∧
        writer.frame = .submit 1 c.backend.sessionId turnId text) ∨
      w.handler = .cancelling ∧ submitted? writer.frame = none) := by
  cases hhandler : w.handler with
  | idle =>
      rw [hhandler, Handler.Awaits, hcallers] at hawaits
      cases hawaits
  | submitting text turnId =>
      rw [hhandler, Handler.Awaits, hcallers] at hawaits
      obtain ⟨rfl, hrest⟩ := List.cons.inj hawaits
      exact ⟨hrest, .inl ⟨text, turnId, rfl, rfl⟩⟩
  | cancelling =>
      rw [hhandler, Handler.Awaits, hcallers] at hawaits
      obtain ⟨turnId, hawaits⟩ := hawaits
      obtain ⟨rfl, hrest⟩ := List.cons.inj hawaits
      exact ⟨hrest, .inr ⟨rfl, rfl⟩⟩

end Inv

/-- The backend after a frame has the same coroutines, and a Turn only if it had it. -/
theorem accepted_cases {b b' : Backend} {frame : Frame} (h : b.Accepted frame b') :
    b'.sessionId = b.sessionId ∧ b'.holder = b.holder ∧ b'.waiters = b.waiters ∧
      (answered? frame = none ∧ b'.activeTurnId = b.activeTurnId ∨
        b'.activeTurnId = none ∧ ∃ turnId, b.activeTurnId = some turnId ∧
          answered? frame = some turnId.uuid.hyphenated) := by
  cases h with
  | cancelResult htype _ => exact ⟨rfl, rfl, rfl, .inl ⟨by simp [answered?, htype], rfl⟩⟩
  | terminal htype hresult hactive hturn _ _ =>
      exact ⟨rfl, rfl, rfl, .inr ⟨rfl, _, hactive, by
        simp [answered?, htype, hresult, hturn, TurnId.toJson]⟩⟩
  | error htype hactive hturn _ =>
      exact ⟨rfl, rfl, rfl, .inr ⟨rfl, _, hactive, by
        simp [answered?, htype, hturn, TurnId.toJson]⟩⟩
  | stopped htype => exact ⟨rfl, rfl, rfl, .inl ⟨by simp [answered?, htype], rfl⟩⟩

/-- A frame is yielded. -/
theorem Inv.accepted (hinv : Inv w) {c : Coroutines} {b : Backend} {frame : Frame}
    (hsession : w.session = .opened c)
    (haccepted : c.backend.Accepted frame b)
    (hsession' : w'.session = .opened { c with backend := b }) (hhandler : w'.handler = w.handler)
    (hactive : w'.app.activeTurnId = (Told.event frame).activeAfter w.app.activeTurnId) :
    Inv w' := by
  obtain ⟨hid, hholder, hwaiters, hturns⟩ := accepted_cases haccepted
  have hqueue : Coroutines.queue { c with backend := b } = c.queue := by
    rw [Coroutines.queue, Coroutines.queue]
    dsimp only
    rw [hholder, hwaiters]
  have htidy := hinv.tidy c hsession
  refine .of_opened hsession' ⟨?_, ?_⟩ ?_ ?_ ?_
  · rw [hqueue]
    exact htidy.commands
  · dsimp only
    rw [hholder]
    exact htidy.held
  · rw [hhandler]
    refine Inv.awaits_of_eq (hinv.awaits c hsession) hid ?_
    rw [Coroutines.callers, Coroutines.callers, hqueue]
  · intro turnId hturn
    rcases hturns with ⟨hnone, hsame⟩ | ⟨hgone, -⟩
    · rw [hactive, hhandler, Told.activeAfter, hnone]
      exact hinv.agree c hsession turnId (hsame.symm.trans hturn)
    · cases hgone.symm.trans hturn
  · intro text turnId hturn
    obtain ⟨hidle, hvalid⟩ := hinv.submitting text turnId (hhandler.symm.trans hturn)
    rw [hactive, hidle, Told.activeAfter]
    exact ⟨ite_self none, hvalid⟩

theorem hear_closed {app app' : ParaegoxTextual} {returnCode : Nat}
    {result : Except BackendError Unit} (h : app.hear (.closed returnCode result) = some app') :
    app'.connected = app.connected := by
  cases h
  cases result with
  | ok _ => rfl
  | error _ => rfl

/-- Whether it opens, ends or raises, a step keeps what holds between App and Session. -/
theorem Step.inv (hinv : Inv w) (h : Step w report w') : Inv w' := by
  have hactive : ∀ {told}, Step w (some told) w' →
      w'.app.activeTurnId = told.activeAfter w.app.activeTurnId := fun h =>
    (ParaegoxTextual.heard h.hears.1 h.hears.2).active
  have hnot {session : Session} (hsession : w.session = session)
      (hne : ∀ c, session ≠ .opened c) : ∀ c, w.session ≠ .opened c :=
    fun c hc => hne c (hsession.symm.trans hc)
  cases h with
  | user hquiet =>
      refine hinv.of_eq rfl rfl hquiet.activeTurnId fun hclosed => ?_
      exact hquiet.connected.trans (hinv.closed hclosed).2.2
  | quit _ => exact hinv.of_eq rfl rfl rfl fun hclosed => (hinv.closed hclosed).2.2
  | @submits c c' text turnId hsession hhandler hidle hqueue hsame htidy hvalid =>
      refine .of_opened rfl (htidy (hinv.tidy c hsession)) ?_ ?_ ?_
      · have hawaits := hinv.awaits c hsession
        rw [hhandler, Handler.Awaits] at hawaits
        rw [Handler.Awaits, Coroutines.callers, hqueue, List.filter_append,
          ← Coroutines.callers, hawaits, hsame.sessionId]
        rfl
      · intro other hother
        cases hsame.active.symm.trans hother
        exact .inr ⟨text, rfl⟩
      · intro _ _ hsubmitting
        cases hsubmitting
        exact ⟨hidle, hvalid⟩
  | @submitRaises c c' told _ hsession hhandler hidle haside htold happ =>
      refine hinv.kept hsession rfl rfl ?_ haside.kept
      rw [hactive (.submitRaises hsession hhandler hidle haside htold happ)]
      obtain ⟨error, rfl | rfl⟩ := htold
      · rfl
      · rfl
  | @cancels c c' turnId hsession hhandler hturn hqueue hsame htidy =>
      refine .of_opened rfl (htidy (hinv.tidy c hsession)) ?_ ?_ ?_
      · have hawaits := hinv.awaits c hsession
        rw [hhandler, Handler.Awaits] at hawaits
        rw [Handler.Awaits, Coroutines.callers, hqueue, List.filter_append,
          ← Coroutines.callers, hawaits, hsame.sessionId]
        exact ⟨turnId, rfl⟩
      · intro other hother
        rcases hinv.agree c hsession other (hsame.active.symm.trans hother) with
          hactive | ⟨text, hsubmitting⟩
        · exact .inl hactive
        · cases hhandler.symm.trans hsubmitting
      · intro _ _ hsubmitting
        cases hsubmitting
  | cancelOver hsession hhandler htold happ =>
      refine hinv.of_eq rfl rfl ?_ fun hclosed => absurd hsession (hclosed _)
      rw [hactive (.cancelOver hsession hhandler htold happ)]
      obtain ⟨_, rfl⟩ | ⟨_, rfl⟩ := htold
      · rfl
      · rfl
  | spawned hsession =>
      have hwas := hnot hsession fun _ h => by cases h
      exact hinv.of_closed hwas (fun _ h => by cases h) rfl rfl (hinv.closed hwas).2.2
  | crashes hsession =>
      have hwas : ∀ c, w.session ≠ .opened c := by
        rcases hsession with hsession | ⟨hsession, -⟩
        · exact hnot hsession fun _ h => by cases h
        · exact hnot hsession fun _ h => by cases h
      exact hinv.of_closed hwas (fun _ h => by cases h) rfl rfl (hinv.closed hwas).2.2
  | @started sessionId _ hsession happ =>
      have hwas := hnot hsession fun _ h => by cases h
      obtain ⟨hidle, -, -⟩ := hinv.closed hwas
      refine .of_opened rfl ⟨(fun _ h => by cases h), (fun _ h => by cases h)⟩ ?_
        (fun _ h => by cases h) fun text turnId h => ?_
      · dsimp only
        rw [hidle]
        rfl
      · cases hidle.symm.trans h
  | notReady error hsession =>
      have hwas := hnot hsession fun _ h => by cases h
      exact hinv.of_closed hwas (fun _ h => by cases h) rfl rfl (hinv.closed hwas).2.2
  | reap _ _ => exact hinv.of_eq rfl rfl rfl fun hclosed => (hinv.closed hclosed).2.2
  | startFails hsession hchild happ =>
      have hwas := hnot hsession fun _ h => by cases h
      exact hinv.of_closed hwas (fun _ h => by cases h) rfl
        (hactive (.startFails hsession hchild happ)) (ParaegoxTextual.hear_failed happ)
  | aside hsession haside => exact hinv.kept hsession rfl rfl rfl haside.kept
  | @returns c c' writer told _ hsession hcallers hwritten hsame htidy htold happ =>
      obtain ⟨hnone, -⟩ := Inv.callers_done (hinv.awaits c hsession) hcallers
      refine .of_opened rfl (htidy (hinv.tidy c hsession)) hnone ?_ (fun _ _ h => by cases h)
      intro turnId hturn
      rw [hactive (.returns hsession hcallers hwritten hsame htidy htold happ)]
      rcases hinv.agree c hsession turnId (hsame.active.symm.trans hturn) with
        hturn' | ⟨text, hsubmitting⟩
      · rcases htold with ⟨text, other, hsubmitting, -⟩ | ⟨-, rfl⟩
        · cases hturn'.symm.trans (hinv.submitting text other hsubmitting).1
        · exact .inl hturn'
      · rcases htold with ⟨text', other, hsubmitting', rfl⟩ | ⟨hcancelling, -⟩
        · cases hsubmitting.symm.trans hsubmitting'
          exact .inl rfl
        · cases hsubmitting.symm.trans hcancelling
  | @raises c c' writer error _ hsession hcallers hsame htidy happ =>
      obtain ⟨hnone, hwriter⟩ := Inv.callers_done (hinv.awaits c hsession) hcallers
      refine .of_opened rfl (htidy (hinv.tidy c hsession)) hnone ?_ (fun _ _ h => by cases h)
      intro turnId hturn
      rw [hactive (.raises hsession hcallers hsame htidy happ)]
      rcases hwriter with ⟨text, other, -, hframe⟩ | ⟨hcancelling, hframe⟩
      · have hraised := hsame.active.symm.trans hturn
        rw [Coroutines.raise, hframe] at hraised
        cases hraised
      · have hturn' := (c.raise_active hframe).symm.trans (hsame.active.symm.trans hturn)
        rcases hinv.agree c hsession turnId hturn' with happ | ⟨text, hsubmitting⟩
        · exact .inl happ
        · cases hcancelling.symm.trans hsubmitting
  | event hsession hreading haccepted hgoes happ =>
      exact hinv.accepted hsession haccepted rfl rfl
        (hactive (.event hsession hreading haccepted hgoes happ))
  | ends hsession hreading haccepted hends happ =>
      exact hinv.accepted hsession haccepted rfl rfl
        (hactive (.ends hsession hreading haccepted hends happ))
  | fails hsession hreading happ =>
      exact hinv.kept hsession rfl rfl (hactive (.fails hsession hreading happ))
        ⟨rfl, rfl, rfl, fun h => ⟨h.commands, h.held⟩⟩
  | exit code _ =>
      exact hinv.map (f := fun c => { c with exited := true })
        (fun _ => ⟨rfl, rfl, rfl, fun h => ⟨h.commands, h.held⟩⟩) rfl rfl rfl
  | shutdownAbsent hshutdown hcode hchild happ =>
      refine hinv.of_eq rfl rfl (hactive (.shutdownAbsent hshutdown hcode hchild happ)) ?_
      exact fun hclosed => (hear_closed happ).trans (hinv.closed hclosed).2.2
  | shutdownBegins _ _ _ =>
      exact hinv.of_eq rfl rfl rfl fun hclosed => (hinv.closed hclosed).2.2
  | request _ =>
      exact hinv.map (fun c => ((Coroutines.shutdown_aside c).trans
        (Coroutines.request_aside _)).kept) rfl rfl rfl
  | settle hshutdown hchild hdone hresult happ =>
      refine hinv.of_eq rfl rfl (hactive (.settle hshutdown hchild hdone hresult happ)) ?_
      exact fun hclosed => (hear_closed happ).trans (hinv.closed hclosed).2.2
  | deadline _ => exact hinv.map (fun c => (Coroutines.giveUp_aside c).kept) rfl rfl rfl
  | overdue hshutdown hchild happ =>
      refine hinv.of_eq rfl rfl (hactive (.overdue hshutdown hchild happ)) ?_
      exact fun hclosed => (hear_closed happ).trans (hinv.closed hclosed).2.2

end Window

end Paraegox.Textual
