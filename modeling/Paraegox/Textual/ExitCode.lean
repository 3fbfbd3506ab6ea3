import Paraegox.Textual.Transcript

/-!
# How the App ends

The exit code against all the App was told, and the way out of it.
-/

namespace Paraegox.Textual

open Stdio (OutputFrame)

/-- The App is told of something that went wrong. -/
def Told.isTrouble : Told → Bool
  | .closed _ (.error _) => true
  | told => told.isFailure

/-- Where a Session is; it is read once its reader has come to an end. -/
inductive Phase where
  | spawning
  | awaitingReady
  | stopping
  | failed
  | reading
  | read
deriving DecidableEq, Repr

def Session.phase : Session → Phase
  | .spawning => .spawning
  | .awaitingReady => .awaitingReady
  | .stopping _ => .stopping
  | .failed => .failed
  | .opened c => if c.backend.reader = .reading then .reading else .read

theorem Session.phase_map (session : Session) {f : Coroutines → Coroutines}
    (hf : ∀ c, (f c).backend.reader = c.backend.reader) :
    (session.map f).phase = session.phase := by
  cases session with
  | opened c =>
      rw [Session.map, phase, phase, hf]
  | _ => rfl

namespace Shutdown

/-- The code `_shutdown_and_exit` has in hand. -/
def returnCode? : Shutdown → Option Nat
  | .requesting returnCode | .graceful returnCode | .forcing returnCode => some returnCode
  | .uncalled | .pending | .settled => none

/-- The deadline has passed, or the shutdown is over. -/
def isPast : Shutdown → Bool
  | .forcing _ | .settled => true
  | .uncalled | .pending | .requesting _ | .graceful _ => false

end Shutdown

namespace Window

/-- The backend has said it is stopped. -/
def SaidStopped (before : List Told) : Prop :=
  ∃ frame, .event frame ∈ before ∧ frame.lookup "type" = some (.str "stopped")

variable {w w' : Window} {report : Option Told}

/-! ## Steps of the parts -/

/-- Where a step takes the Session. -/
inductive Moves (w : Window) (report : Option Told) (w' : Window) : Prop where
  | stays (h : w'.session.phase = w.session.phase)
  | spawned (hwas : w.session.phase = .spawning) (h : w'.session.phase = .awaitingReady)
      (hchild : w'.child = .running)
  | opens (hwas : w.session.phase = .awaitingReady) (h : w'.session.phase = .reading)
  | stops (hwas : w.session.phase = .awaitingReady) (h : w'.session.phase = .stopping)
  | fails (h : w'.session.phase = .failed)
  | ends {told : Told} (hwas : w.session.phase = .reading) (h : w'.session.phase = .read)
      (hreport : report = some told)
      (htold : told.isFailure = true ∨ ∃ frame, told = .event frame ∧
        frame.lookup "type" = some (.str "stopped"))

theorem phase_opened {c : Coroutines} (h : w.session = .opened c) :
    w.session.phase = if c.backend.reader = .reading then .reading else .read := by
  rw [h]
  rfl

theorem phase_same {c c' : Coroutines} (h : w.session = .opened c)
    (hreader : c'.backend.reader = c.backend.reader) :
    (Session.opened c').phase = w.session.phase := by
  rw [phase_opened h, Session.phase, hreader]

theorem phase_read {c : Coroutines} (h : c.backend.reader ≠ .reading) :
    (Session.opened c).phase = .read := if_neg h

/-- The last frame is an end of the Session or of the conversation. -/
theorem last_frame {b b' : Backend} {frame : Frame} (h : b.Accepted frame b')
    (hreading : b.reader = .reading) (hends : b'.reader = .finished) :
    (Told.event frame).isFailure = true ∨ ∃ frame', Told.event frame = .event frame' ∧
      frame'.lookup "type" = some (.str "stopped") := by
  cases h with
  | cancelResult _ _ => cases hreading.symm.trans hends
  | terminal _ _ _ _ _ _ => cases hreading.symm.trans hends
  | error htype _ _ _ =>
      refine .inl ?_
      rw [Told.isFailure, htype]
      decide
  | stopped htype => exact .inr ⟨frame, rfl, htype⟩

theorem Step.moves (h : Step w report w') : Moves w report w' := by
  cases h with
  | submits hsession _ _ _ hsame _ _ => exact .stays (phase_same hsession hsame.reader)
  | submitRaises hsession _ _ haside _ _ => exact .stays (phase_same hsession haside.same.reader)
  | cancels hsession _ _ _ hsame _ => exact .stays (phase_same hsession hsame.reader)
  | spawned hsession =>
      refine .spawned ?_ rfl rfl
      rw [hsession]
      rfl
  | crashes hsession => exact .fails rfl
  | started hsession _ =>
      refine .opens ?_ rfl
      rw [hsession]
      rfl
  | notReady _ hsession =>
      refine .stops ?_ rfl
      rw [hsession]
      rfl
  | startFails _ _ _ => exact .fails rfl
  | aside hsession haside => exact .stays (phase_same hsession haside.same.reader)
  | returns hsession _ _ hsame _ _ _ => exact .stays (phase_same hsession hsame.reader)
  | @raises c _ writer _ _ hsession _ hsame _ _ =>
      exact .stays (phase_same hsession (hsame.reader.trans (c.raise_reader writer)))
  | event hsession hreading _ hgoes _ =>
      exact .stays (phase_same hsession (hgoes.trans hreading.symm))
  | ends hsession hreading haccepted hends _ =>
      refine .ends ?_ ?_ rfl (last_frame haccepted hreading hends)
      · rw [phase_opened hsession, if_pos hreading]
      · exact phase_read fun hreading' => by cases hends.symm.trans hreading'
  | fails hsession hreading _ =>
      refine .ends ?_ (phase_read fun hreading' => by cases hreading') rfl (.inl rfl)
      rw [phase_opened hsession, if_pos hreading]
  | exit _ _ =>
      exact .stays (w.session.phase_map (f := fun c => { c with exited := true }) fun _ => rfl)
  | request _ =>
      refine .stays (w.session.phase_map fun c => ?_)
      exact ((Coroutines.shutdown_aside c).trans (Coroutines.request_aside _)).same.reader
  | deadline _ => exact .stays (w.session.phase_map (f := Coroutines.giveUp) fun _ => rfl)
  | _ => exact .stays rfl

/-- A child that is there stays, at least as what has exited. -/
theorem Step.child (h : Step w report w') (habsent : w'.child = .absent) : w.child = .absent := by
  cases h with
  | spawned _ => cases habsent
  | exit _ _ => cases habsent
  | _ => exact habsent

/-- `_reader_done` is set where the reader has ended or is given up. -/
theorem Step.readerDone (h : Step w report w') (hdone : w'.readerDone = true) :
    w.readerDone = true ∨ w.shutdown.isPast = true ∨
      (w'.session.phase = .stopping ∨ w'.session.phase = .failed ∨ w'.session.phase = .read) := by
  cases h with
  | reap hforcing _ =>
      rw [isForcing.eq_def] at hforcing
      split at hforcing
      next hsession =>
        rw [hsession]
        exact .inr (.inr (.inl rfl))
      next hshutdown _ =>
        rw [hshutdown]
        exact .inr (.inl rfl)
      · cases hforcing
  | crashes _ => exact .inr (.inr (.inr (.inl rfl)))
  | startFails _ _ _ => exact .inr (.inr (.inr (.inl rfl)))
  | ends _ _ _ hends _ =>
      refine .inr (.inr (.inr (.inr (phase_read fun hreading => ?_))))
      cases hends.symm.trans hreading
  | fails _ _ _ =>
      refine .inr (.inr (.inr (.inr (phase_read fun hreading => ?_))))
      cases hreading
  | _ => exact .inl hdone

/-- Where a step takes the shutdown. -/
inductive Closes (w w' : Window) : Prop where
  | stays (h : w'.shutdown = w.shutdown)
  | quits (hfirst : w.app.quitRequested = false) (hquit : w'.app.quitRequested = true)
      (h : w'.shutdown = .pending)
  | begins (hwas : w.shutdown = .pending)
      (h : w'.shutdown = .requesting (if w.app.backendFailed then 1 else 0))
  | goesOn {returnCode : Nat} (hpast : w.shutdown.isPast = false)
      (hwas : w.shutdown.returnCode? = some returnCode)
      (h : w'.shutdown.returnCode? = some returnCode)
  | ends (hwas : w.shutdown ≠ .uncalled) (h : w'.shutdown = .settled)
      (hreturned : w'.app.returnCode ≠ none)

theorem hear_closed_returns {app app' : ParaegoxTextual} {returnCode : Nat}
    {result : Except BackendError Unit} (h : app.hear (.closed returnCode result) = some app') :
    app'.returnCode ≠ none := by
  cases h
  cases result with
  | ok _ =>
      intro hnone
      cases hnone
  | error _ =>
      intro hnone
      cases hnone

theorem Step.closes (h : Step w report w') : Closes w w' := by
  cases h with
  | quit hfirst => exact .quits hfirst rfl rfl
  | shutdownAbsent hshutdown _ _ happ =>
      exact .ends (fun huncalled => by cases hshutdown.symm.trans huncalled) rfl
        (hear_closed_returns happ)
  | shutdownBegins hshutdown hcode _ =>
      refine .begins hshutdown ?_
      rw [hcode]
  | request hshutdown => exact .goesOn (by rw [hshutdown]; rfl) (by rw [hshutdown]; rfl) rfl
  | settle hshutdown _ _ _ happ =>
      exact .ends (fun huncalled => by cases hshutdown.symm.trans huncalled) rfl
        (hear_closed_returns happ)
  | deadline hshutdown => exact .goesOn (by rw [hshutdown]; rfl) (by rw [hshutdown]; rfl) rfl
  | overdue hshutdown _ happ =>
      exact .ends (fun huncalled => by cases hshutdown.symm.trans huncalled) rfl
        (hear_closed_returns happ)
  | _ => exact .stays rfl

/-- Only the first quit is noted. -/
theorem Step.quitRequested (h : Step w report w') :
    w'.app.quitRequested = w.app.quitRequested ∨
      w'.app.quitRequested = true ∧ w'.shutdown = .pending := by
  cases report with
  | none =>
      cases h with
      | user hquiet => exact .inl hquiet.quitRequested
      | quit _ => exact .inr ⟨rfl, rfl⟩
      | _ => exact .inl rfl
  | some told => exact .inl (ParaegoxTextual.heard h.hears.1 h.hears.2).quitRequested

/-- A failure is not forgotten, and is one that was told. -/
theorem Step.backendFailed (h : Step w report w') :
    w'.app.backendFailed = (w.app.backendFailed || report.any Told.isFailure) := by
  cases report with
  | none =>
      rw [Option.any_none, Bool.or_false]
      rcases h.quiet with hquiet | ⟨-, hquit⟩
      · exact hquiet.backendFailed
      · rw [hquit]
        rfl
  | some told => exact (ParaegoxTextual.heard h.hears.1 h.hears.2).backendFailed

/-- The App exits where a shutdown is over. -/
theorem Step.returnCode (h : Step w report w') (hlive : w.app.returnCode = none) :
    w'.app.returnCode = none ∨ ∃ returnCode result, report = some (.closed returnCode result) := by
  cases report with
  | none =>
      rcases h.quiet with hquiet | ⟨-, hquit⟩
      · exact .inl (hquiet.returnCode.trans hlive)
      · rw [hquit]
        exact .inl hlive
  | some told =>
      have hheard := (ParaegoxTextual.heard h.hears.1 h.hears.2).returnCode
      cases told with
      | closed returnCode result => exact .inr ⟨returnCode, result, rfl⟩
      | _ => exact .inl (hheard.trans hlive)

/-! ## What the App accounts for -/

/-- The App is over, with what its code stands for. -/
structure Ended (w : Window) (before : List Told) (returnCode : Nat) : Prop where
  code : returnCode = 0 ∨ returnCode = 1
  trouble : returnCode = 0 ↔ before.any Told.isTrouble = false
  child : w.child ≠ .running
  orderly : returnCode = 0 → ∀ c, w.session = .opened c →
    w.child = .exited 0 ∧ SaidStopped before

/-- What holds between the App and all it was told. -/
structure Accounts (w : Window) (before : List Told) : Prop where
  trouble : w.app.returnCode = none → w.app.backendFailed = before.any Told.isTrouble
  uncalled : w.app.quitRequested = false ↔ w.shutdown = .uncalled
  returned : w.shutdown = .settled → w.app.returnCode ≠ none
  code : ∀ returnCode, w.shutdown.returnCode? = some returnCode →
    returnCode = 0 ∨ returnCode = 1 ∧ w.app.backendFailed = true
  absent : w.child = .absent → w.session.phase = .spawning ∨ w.session.phase = .failed
  done : w.readerDone = true → w.shutdown.isPast = true ∨
    (w.session.phase = .stopping ∨ w.session.phase = .failed ∨ w.session.phase = .read)
  read : w.session.phase = .read → w.app.backendFailed = true ∨ SaidStopped before
  ended : ∀ returnCode, w.app.returnCode = some returnCode → Ended w before returnCode

variable {before : List Told}

theorem SaidStopped.append (h : SaidStopped before) (more : List Told) :
    SaidStopped (before ++ more) := by
  obtain ⟨frame, hmem, htype⟩ := h
  exact ⟨frame, List.mem_append_left _ hmem, htype⟩

theorem opened_phase {c : Coroutines} (h : w.session = .opened c) :
    w.session.phase = .reading ∨ w.session.phase = .read := by
  rw [phase_opened h]
  split
  · exact .inl rfl
  · exact .inr rfl

namespace Accounts

theorem mounted : Accounts mounted [] where
  trouble _ := rfl
  uncalled := ⟨fun _ => rfl, fun _ => rfl⟩
  returned h := by cases h
  code _ h := by cases h
  absent _ := .inl rfl
  done h := by cases h
  read h := by cases h
  ended _ h := by cases h

/-- The code the App exits with is zero just where nothing went wrong. -/
theorem exit_code (h : Accounts w before) (hlive : w.app.returnCode = none)
    {inHand returnCode : Nat} {result : Except BackendError Unit} {app : ParaegoxTextual}
    (hcode : inHand = 0 ∨ inHand = 1 ∧ w.app.backendFailed = true)
    (happ : w.app.hear (.closed inHand result) = some app)
    (hreturned : app.returnCode = some returnCode) :
    (returnCode = 0 ∨ returnCode = 1) ∧
      (returnCode = 0 ↔ (before ++ [Told.closed inHand result]).any Told.isTrouble = false) ∧
      (returnCode = 0 → result = .ok () ∧ w.app.backendFailed = false) := by
  have htrouble := h.trouble hlive
  rw [List.any_append, ← htrouble]
  cases happ
  cases result with
  | error error =>
      cases hreturned
      simp [Told.isTrouble]
  | ok _ =>
      cases hreturned
      cases hfailed : w.app.backendFailed with
      | true => simp
      | false =>
          rcases hcode with rfl | ⟨-, hfailed'⟩
          · simp [Told.isTrouble, Told.isFailure]
          · cases hfailed.symm.trans hfailed'

/-- Past the deadline it stays. -/
theorem isPast (h : Accounts w before) (hcloses : Closes w w') (hpast : w.shutdown.isPast = true) :
    w'.shutdown.isPast = true := by
  cases hcloses with
  | stays hsame => exact hsame ▸ hpast
  | quits hfirst _ _ =>
      rw [h.uncalled.mp hfirst] at hpast
      cases hpast
  | begins hwas _ =>
      rw [hwas] at hpast
      cases hpast
  | goesOn hnot _ _ => cases hnot.symm.trans hpast
  | ends _ hover _ =>
      rw [hover]
      rfl

theorem uncalled_step (h : Accounts w before) (hstep : Step w report w') :
    w'.app.quitRequested = false ↔ w'.shutdown = .uncalled := by
  rcases hstep.quitRequested with hsame | ⟨hquit, hpending⟩
  · rw [hsame, h.uncalled]
    cases hstep.closes with
    | stays hshutdown => rw [hshutdown]
    | quits hfirst hquit _ => cases (hsame.trans hfirst).symm.trans hquit
    | begins hwas hbegun => simp [hwas, hbegun]
    | goesOn _ hwas hcode =>
        constructor
        · intro huncalled
          rw [huncalled] at hwas
          cases hwas
        · intro huncalled
          rw [huncalled] at hcode
          cases hcode
    | ends hwas hover _ => simp [hwas, hover]
  · simp [hquit, hpending]

theorem code_step (h : Accounts w before) (hstep : Step w report w') {returnCode : Nat}
    (hcode : w'.shutdown.returnCode? = some returnCode) :
    returnCode = 0 ∨ returnCode = 1 ∧ w'.app.backendFailed = true := by
  have hfailed : w.app.backendFailed = true → w'.app.backendFailed = true := by
    intro hfailed
    rw [hstep.backendFailed, hfailed, Bool.true_or]
  have hkept : w.shutdown.returnCode? = some returnCode →
      returnCode = 0 ∨ returnCode = 1 ∧ w'.app.backendFailed = true :=
    fun hwas => (h.code returnCode hwas).imp_right fun hone => ⟨hone.1, hfailed hone.2⟩
  cases hstep.closes with
  | stays hsame => exact hkept (hsame ▸ hcode)
  | quits _ _ hpending =>
      rw [hpending] at hcode
      cases hcode
  | begins _ hbegun =>
      rw [hbegun] at hcode
      cases hcode
      split
      next hwas => exact .inr ⟨rfl, hfailed hwas⟩
      · exact .inl rfl
  | goesOn _ hwas hgoes =>
      cases hgoes.symm.trans hcode
      exact hkept hwas
  | ends _ hover _ =>
      rw [hover] at hcode
      cases hcode

theorem absent_step (h : Accounts w before) (hstep : Step w report w')
    (habsent : w'.child = .absent) :
    w'.session.phase = .spawning ∨ w'.session.phase = .failed := by
  have hwas := h.absent (hstep.child habsent)
  cases hstep.moves with
  | stays hsame => exact hsame ▸ hwas
  | spawned _ _ hchild => cases hchild.symm.trans habsent
  | opens hawaiting _ => simp [hawaiting] at hwas
  | stops hawaiting _ => simp [hawaiting] at hwas
  | fails hfailed => exact .inr hfailed
  | ends hreading _ _ _ => simp [hreading] at hwas

theorem done_step (h : Accounts w before) (hstep : Step w report w')
    (hdone : w'.readerDone = true) : w'.shutdown.isPast = true ∨
      (w'.session.phase = .stopping ∨ w'.session.phase = .failed ∨ w'.session.phase = .read) := by
  have hpast := h.isPast hstep.closes
  have hwas : w.shutdown.isPast = true ∨
      (w.session.phase = .stopping ∨ w.session.phase = .failed ∨ w.session.phase = .read) ∨
      (w'.session.phase = .stopping ∨ w'.session.phase = .failed ∨ w'.session.phase = .read) := by
    rcases hstep.readerDone hdone with hbefore | hforced | hnow
    · exact (h.done hbefore).imp_right .inl
    · exact .inl hforced
    · exact .inr (.inr hnow)
  rcases hwas with hwas | hwas | hnow
  · exact .inl (hpast hwas)
  · cases hstep.moves with
    | stays hsame => exact .inr (hsame ▸ hwas)
    | spawned hspawning _ _ => simp [hspawning] at hwas
    | opens hawaiting _ => simp [hawaiting] at hwas
    | stops _ hstopping => exact .inr (.inl hstopping)
    | fails hfailed => exact .inr (.inr (.inl hfailed))
    | ends _ hread _ _ => exact .inr (.inr (.inr hread))
  · exact .inr hnow

theorem read_step (h : Accounts w before) (hstep : Step w report w')
    (hread : w'.session.phase = .read) :
    w'.app.backendFailed = true ∨ SaidStopped (before ++ report.toList) := by
  have hwas : w.session.phase = .read →
      w'.app.backendFailed = true ∨ SaidStopped (before ++ report.toList) := by
    intro hwas
    rcases h.read hwas with hfailed | hstopped
    · rw [hstep.backendFailed, hfailed, Bool.true_or]
      exact .inl rfl
    · exact .inr (hstopped.append _)
  cases hstep.moves with
  | stays hsame => exact hwas (hsame ▸ hread)
  | spawned _ hphase _ => cases hphase.symm.trans hread
  | opens _ hphase => cases hphase.symm.trans hread
  | stops _ hphase => cases hphase.symm.trans hread
  | fails hphase => cases hphase.symm.trans hread
  | ends _ _ hreport htold =>
      subst hreport
      rcases htold with hfailure | ⟨frame, rfl, htype⟩
      · rw [hstep.backendFailed, Option.any_some, hfailure, Bool.or_true]
        exact .inl rfl
      · exact .inr ⟨frame, by simp, htype⟩

/-- The App exits with a code that stands for all it was told. -/
theorem ended_step (h : Accounts w before) (hlive : w.app.returnCode = none)
    (hstep : Step w report w') {returnCode : Nat}
    (hreturned : w'.app.returnCode = some returnCode) :
    Ended w' (before ++ report.toList) returnCode := by
  rcases hstep.returnCode hlive with hnone | ⟨inHand, result, rfl⟩
  · cases hnone.symm.trans hreturned
  cases hstep with
  | submitRaises _ _ _ _ htold _ => simp at htold
  | cancelOver _ _ htold _ => simp at htold
  | returns _ _ _ _ _ htold _ => simp at htold
  | shutdownAbsent _ hcode hchild happ =>
      have hinHand : inHand = 0 ∨ inHand = 1 ∧ w.app.backendFailed = true := by
        rw [hcode]
        split
        next hfailed => exact .inr ⟨rfl, hfailed⟩
        · exact .inl rfl
      obtain ⟨hvalue, htrouble, -⟩ := h.exit_code hlive hinHand happ hreturned
      refine ⟨hvalue, htrouble, (fun hrunning => by cases hchild.symm.trans hrunning), ?_⟩
      intro _ c hsession
      rcases h.absent hchild with hphase | hphase
      · rcases opened_phase hsession with hopened | hopened
        · cases hphase.symm.trans hopened
        · cases hphase.symm.trans hopened
      · rcases opened_phase hsession with hopened | hopened
        · cases hphase.symm.trans hopened
        · cases hphase.symm.trans hopened
  | @settle _ code _ _ hshutdown hchild hdone hresult happ =>
      have hinHand := h.code inHand (by rw [hshutdown]; rfl)
      obtain ⟨hvalue, htrouble, hzero⟩ := h.exit_code hlive hinHand happ hreturned
      refine ⟨hvalue, htrouble, (fun hrunning => by cases hchild.symm.trans hrunning), ?_⟩
      intro hcode c hsession
      obtain ⟨hok, hunfailed⟩ := hzero hcode
      rw [hresult.mp hok] at hchild
      refine ⟨hchild, ?_⟩
      have hread : w.session.phase = .read := by
        rcases h.done hdone with hpast | hphase
        · rw [hshutdown] at hpast
          cases hpast
        · rcases opened_phase hsession with hreading | hread
          · simp [hreading] at hphase
          · exact hread
      rcases h.read hread with hfailed | hstopped
      · cases hunfailed.symm.trans hfailed
      · exact hstopped.append _
  | overdue hshutdown hchild happ =>
      have hinHand := h.code inHand (by rw [hshutdown]; rfl)
      obtain ⟨hvalue, htrouble, hzero⟩ := h.exit_code hlive hinHand happ hreturned
      refine ⟨hvalue, htrouble, hchild, fun hcode => ?_⟩
      cases (hzero hcode).1

theorem step (h : Accounts w before) (hlive : w.app.returnCode = none) (hstep : Step w report w') :
    Accounts w' (before ++ report.toList) where
  trouble hlive' := by
    have htold : (report.toList).any Told.isTrouble = report.any Told.isFailure := by
      cases report with
      | none => rfl
      | some told =>
          cases told with
          | closed inHand result => exact absurd hlive' (hear_closed_returns hstep.hears.2)
          | _ => simp [Told.isTrouble]
    rw [hstep.backendFailed, h.trouble hlive, List.any_append, htold]
  uncalled := h.uncalled_step hstep
  returned hover := by
    cases hstep.closes with
    | stays hsame => exact absurd hlive (h.returned (hsame ▸ hover))
    | quits _ _ hpending => cases hpending.symm.trans hover
    | begins _ hbegun => cases hbegun.symm.trans hover
    | goesOn _ _ hcode =>
        rw [hover] at hcode
        cases hcode
    | ends _ _ hreturned => exact hreturned
  code _ hcode := h.code_step hstep hcode
  absent := h.absent_step hstep
  done := h.done_step hstep
  read := h.read_step hstep
  ended _ hreturned := h.ended_step hlive hstep hreturned

end Accounts

/-! ## The exit code -/

variable {configuredTimeoutMs : Nat} {tr : List Event}

theorem accounts_of_run (h : (system configuredTimeoutMs).Run mounted tr w) :
    Accounts w (told tr) := by
  refine run_trace (R := Accounts) h .mounted ?_
  exact fun _ _ _ _ _ hlive _ hstep haccounts => haccounts.step hlive hstep

/-- The App exits with zero just where nothing it was told went wrong, and with one
otherwise.  It leaves no child behind, and where it had a Session zero means that the
backend has said it stopped, and exited with zero as well. -/
theorem exit_code_accounts_for_all (h : (system configuredTimeoutMs).Run mounted tr w)
    {returnCode : Nat} (hreturned : w.app.returnCode = some returnCode) :
    (returnCode = 0 ∨ returnCode = 1) ∧
      (returnCode = 0 ↔ ∀ x ∈ told tr, x.isTrouble = false) ∧
      w.child ≠ .running ∧
      (returnCode = 0 → ∀ c, w.session = .opened c →
        w.child = .exited 0 ∧ SaidStopped (told tr)) := by
  have hended := (accounts_of_run h).ended returnCode hreturned
  refine ⟨hended.code, ?_, hended.child, hended.orderly⟩
  rw [hended.trouble, List.any_eq_false]
  simp only [Bool.not_eq_true]

/-- A conversation without a Turn, and the quit of it. -/
theorem exit_code_accounts_for_all_quit : ∃ tr w, (system 30000).Run mounted tr w ∧
    tr.map Transition.Event.act = [.spawned,
      .ready (OutputFrame.ready 1 ⟨⟨1⟩⟩ 30000 4096).toJson, .quit, .shutdown, .request,
      .drained, .line (OutputFrame.stopped 1 ⟨⟨1⟩⟩).toJson, .exit 0, .settle ""] ∧
    w.app.returnCode = some 0 ∧ ∀ x ∈ told tr, x.isTrouble = false := by
  obtain ⟨tr, w, hrun, hacts, hreturned⟩ := (system 30000).exec_exists mounted [.spawned,
      .ready (OutputFrame.ready 1 ⟨⟨1⟩⟩ 30000 4096).toJson, .quit, .shutdown, .request,
      .drained, .line (OutputFrame.stopped 1 ⟨⟨1⟩⟩).toJson, .exit 0, .settle ""]
    (P := fun _ w => w.app.returnCode = some 0) (by decide +kernel)
  exact ⟨tr, w, hrun, hacts, hreturned,
    (exit_code_accounts_for_all hrun hreturned).2.1.mp rfl⟩

/-! ## The way out -/

/-- A step of the shutdown, or the exit of the child that is stopped. -/
def Act.isClosing : Act → Bool
  | .shutdown | .request | .deadline | .overdue | .reap | .exit _ => true
  | _ => false

/-- The shutdown can end by itself, with no frame of the child and no handler that goes on. -/
def CanEnd (configuredTimeoutMs : Nat) (w : Window) : Prop :=
  ∃ tr w', (system configuredTimeoutMs).Run w tr w' ∧ (∀ x ∈ tr, x.act.isClosing = true) ∧
    w'.app.returnCode ≠ none

/-- The App is not over. -/
def Live (w : Window) : Prop := w.app.returnCode = none ∧ w.crashed = false

theorem CanEnd.step {act : Act} (hlive : w.Live) (hact : act.isClosing = true)
    (hstep : w.step configuredTimeoutMs act = some (report, w'))
    (h : CanEnd configuredTimeoutMs w') : CanEnd configuredTimeoutMs w := by
  obtain ⟨tr, w'', hrun, hall, hreturned⟩ := h
  have hnext : w.next configuredTimeoutMs act = some (report, w') := by
    rw [next, if_neg, hstep]
    simp [hlive.1, hlive.2]
  refine ⟨⟨w, act, report, w'⟩ :: tr, w'', ?_, List.forall_mem_cons.mpr ⟨hact, hall⟩, hreturned⟩
  exact Transition.System.Run.cons (x := ⟨w, act, report, w'⟩) hnext hrun

theorem CanEnd.of_returned (h : w.app.returnCode ≠ none) : CanEnd configuredTimeoutMs w :=
  ⟨[], w, .nil w, (fun _ hx => by cases hx), h⟩

/-- A shutdown that is over is one way to end it. -/
theorem CanEnd.of_closed {act : Act} {returnCode : Nat} {result : Except BackendError Unit}
    (hlive : w.Live) (hact : act.isClosing = true)
    (hstep : w.step configuredTimeoutMs act =
      some ({ w with shutdown := .settled }.tell (.closed returnCode result))) :
    CanEnd configuredTimeoutMs w := by
  obtain ⟨app, happ⟩ : ∃ app, w.app.hear (.closed returnCode result) = some app := ⟨_, rfl⟩
  rw [tell_eq (w := { w with shutdown := .settled }) happ] at hstep
  exact .step hlive hact hstep (.of_returned (hear_closed_returns happ))

theorem forcing_canEnd {returnCode : Nat} (hlive : w.Live)
    (hshutdown : w.shutdown = .forcing returnCode) : CanEnd configuredTimeoutMs w := by
  -- the child is killed, its exit is seen, and `shutdown` raises
  have hoverdue (w : Window) (hlive : w.Live) (hshutdown : w.shutdown = .forcing returnCode)
      (hchild : w.child ≠ .running) (hdone : w.readerDone = true) :
      CanEnd configuredTimeoutMs w := by
    have hstep : w.step configuredTimeoutMs .overdue =
        some ({ w with shutdown := .settled }.tell (.closed returnCode
          (.error ⟨"Paraegox backend did not stop within the shutdown deadline"⟩))) := by
      cases w
      subst hshutdown
      exact if_pos ⟨hdone, hchild⟩
    exact .of_closed hlive rfl hstep
  have hreap (w : Window) (hlive : w.Live) (hshutdown : w.shutdown = .forcing returnCode)
      (hchild : w.child ≠ .running) : CanEnd configuredTimeoutMs w := by
    have hforcing : w.isForcing = true := by
      rw [isForcing, hshutdown]
      cases w.session <;> rfl
    have hstep : w.step configuredTimeoutMs .reap = some (none, { w with readerDone := true }) :=
      if_pos ⟨hforcing, hchild⟩
    exact .step hlive rfl hstep (hoverdue _ hlive hshutdown hchild rfl)
  by_cases hchild : w.child = .running
  · have hstep : w.step configuredTimeoutMs (.exit 0) = some (none, { w with
        child := .exited 0, session := w.session.map fun c => { c with exited := true } }) :=
      if_pos hchild
    refine .step hlive rfl hstep (hreap _ hlive hshutdown fun hrunning => ?_)
    cases hrunning
  · exact hreap w hlive hshutdown hchild

theorem graceful_canEnd {returnCode : Nat} (hlive : w.Live)
    (hshutdown : w.shutdown = .graceful returnCode) : CanEnd configuredTimeoutMs w := by
  have hstep : w.step configuredTimeoutMs .deadline = some (none, { w with
      shutdown := .forcing returnCode, session := w.session.map Coroutines.giveUp }) := by
    cases w
    subst hshutdown
    rfl
  exact .step hlive rfl hstep (forcing_canEnd hlive rfl)

theorem requesting_canEnd {returnCode : Nat} (hlive : w.Live)
    (hshutdown : w.shutdown = .requesting returnCode) : CanEnd configuredTimeoutMs w := by
  have hstep : w.step configuredTimeoutMs .request = some (none, { w with
      shutdown := .graceful returnCode
      session := w.session.map fun c => c.shutdown.request }) := by
    cases w
    subst hshutdown
    rfl
  exact .step hlive rfl hstep (graceful_canEnd hlive rfl)

/-- Once the user has quit nothing keeps the App: wherever its handlers wait and whatever the
child does not say, it can go through its shutdown and exit. -/
theorem quit_leads_out (h : (system configuredTimeoutMs).Run mounted tr w)
    (hquit : w.app.quitRequested = true) (hcrashed : w.crashed = false) :
    ∃ tr' w', (system configuredTimeoutMs).Run w tr' w' ∧
      (∀ x ∈ tr', x.act.isClosing = true) ∧ w'.app.returnCode ≠ none := by
  have haccounts := accounts_of_run h
  by_cases hreturned : w.app.returnCode = none
  · have hlive : w.Live := ⟨hreturned, hcrashed⟩
    show CanEnd configuredTimeoutMs w
    cases hshutdown : w.shutdown with
    | uncalled => cases (haccounts.uncalled.mpr hshutdown).symm.trans hquit
    | pending =>
        have hstep : w.step configuredTimeoutMs .shutdown = some w.beginShutdown :=
          if_pos hshutdown
        rw [beginShutdown.eq_def] at hstep
        dsimp only at hstep
        split at hstep
        · exact .of_closed hlive rfl hstep
        · exact .step hlive rfl hstep (requesting_canEnd hlive rfl)
    | requesting returnCode => exact requesting_canEnd hlive hshutdown
    | graceful returnCode => exact graceful_canEnd hlive hshutdown
    | forcing returnCode => exact forcing_canEnd hlive hshutdown
    | settled => exact absurd hreturned (haccounts.returned hshutdown)
  · exact CanEnd.of_returned hreturned

/-- The user quits during a Turn, and a cancel is not drained: its handler waits for good. -/
theorem quit_leads_out_cancelling : ∃ tr w, (system 30000).Run mounted tr w ∧
    tr.map Transition.Event.act = [.spawned,
      .ready (OutputFrame.ready 1 ⟨⟨1⟩⟩ 30000 4096).toJson, .submit "hello" ⟨⟨2⟩⟩, .drained,
      .quit, .escape] ∧
    w.handler = .cancelling ∧ ∃ tr' w', (system 30000).Run w tr' w' ∧
      (∀ x ∈ tr', x.act.isClosing = true) ∧ w'.app.returnCode ≠ none := by
  obtain ⟨tr, w, hrun, hacts, hhandler, hquit, hlive⟩ := (system 30000).exec_exists mounted
    [.spawned, .ready (OutputFrame.ready 1 ⟨⟨1⟩⟩ 30000 4096).toJson, .submit "hello" ⟨⟨2⟩⟩,
      .drained, .quit, .escape]
    (P := fun _ w => w.handler = .cancelling ∧ w.app.quitRequested = true ∧ w.crashed = false)
    (by decide +kernel)
  exact ⟨tr, w, hrun, hacts, hhandler, quit_leads_out hrun hquit hlive⟩

end Window

end Paraegox.Textual
