import Paraegox.Lib.Around
import Paraegox.Textual.Coroutines
import Paraegox.Textual.Inputs

/-!
# A cancel is for its own Turn

`cancel` reads the active Turn before it waits and notes that it was sent after that,
without looking at the Turn again.  `Timely` says of a step that this makes no
difference, and in a run of timely steps, and in no other, every Turn has at most one
cancel and none is refused its own.
-/

namespace Paraegox.Textual

open Agent (SessionId TurnId)
open Stdio (InputFrame OutputFrame)

/-- The Turn a Cancel is for. -/
def cancelled? : InputFrame → Option TurnId
  | .cancel _ _ turnId => some turnId
  | _ => none

namespace Coroutines

/-! ## What is to hold, and when it does -/

/-- The Turns whose cancel frame is written, or waits for the lock. -/
def asked (w : Coroutines) : List TurnId :=
  (w.written ++ w.backend.waiters.map Writer.frame).filterMap cancelled?

/-- The step does not fall between a cancel and its note: none begins for a Turn that
has a cancel frame, none is noted while a Turn is active that has no cancel frame, and
none is taken out of the line while it counts as sent. -/
def Timely (w : Coroutines) : Act → Prop
  | .cancel | .request => w.exited = false → ∀ turnId ∈ w.backend.cancelTarget, turnId ∉ w.asked
  | .drained => ∀ writer ∈ w.backend.holder,
      writer.after = .cancelReturns ∨ writer.after = .shutdownGoesOn →
      ∀ turnId ∈ w.backend.activeTurnId, turnId ∈ w.asked
  | .interruptWaiter position => ∀ writer ∈ w.backend.waiters[position]?,
      ∀ turnId ∈ cancelled? writer.frame,
      ¬ (w.backend.cancelSent = true ∧ w.backend.activeTurnId = some turnId)
  | _ => True

instance (w : Coroutines) : (act : Act) → Decidable (w.Timely act)
  | .cancel | .request => inferInstanceAs (Decidable (_ → ∀ turnId ∈ _, turnId ∉ _))
  | .drained => inferInstanceAs (Decidable (∀ writer ∈ w.backend.holder,
      writer.after = .cancelReturns ∨ writer.after = .shutdownGoesOn →
      ∀ turnId ∈ w.backend.activeTurnId, turnId ∈ w.asked))
  | .interruptWaiter position => inferInstanceAs (Decidable (
      ∀ writer ∈ w.backend.waiters[position]?, ∀ turnId ∈ cancelled? writer.frame, ¬ (_ ∧ _)))
  | .submit _ _ | .shutdown | .acquire | .broken | .interrupt | .line _ | .lost _ | .exit =>
      .isTrue trivial

/-! ## What a step does to the frames and the flag -/

/-- The frames stay, and no Turn counts as sent that did not. -/
structure Keeps (w w' : Coroutines) : Prop where
  asked : w'.asked = w.asked
  sent : ∀ turnId, w'.backend.activeTurnId = some turnId → w'.backend.cancelSent = true →
    w.backend.activeTurnId = some turnId ∧ w.backend.cancelSent = true

/-- The active Turn and the flag stay. -/
structure Holds (w w' : Coroutines) : Prop where
  active : w'.backend.activeTurnId = w.backend.activeTurnId
  sent : w'.backend.cancelSent = w.backend.cancelSent

variable {w w' : Coroutines}

theorem Keeps.of_holds (h : Holds w w') (hasked : w'.asked = w.asked) : Keeps w w' where
  asked := hasked
  sent _ hactive hsent := ⟨h.active.symm.trans hactive, h.sent.symm.trans hsent⟩

theorem filterMap_cancelled (frame : InputFrame) (frames : List InputFrame) :
    (frame :: frames).filterMap cancelled? =
      (cancelled? frame).toList ++ frames.filterMap cancelled? := by
  cases frame with
  | submit _ _ _ _ => rfl
  | cancel _ _ _ => rfl
  | shutdown _ _ => rfl

/-- A frame is written, or joins the line. -/
theorem writeFrame_spec {writer : Writer} (h : w.writeFrame writer = .ok w') :
    w'.asked = w.asked ++ (cancelled? writer.frame).toList ∧ Holds w w' := by
  rw [writeFrame] at h
  split at h
  · cases h
  next backend written hwrite =>
    split_ifs at h
    cases h
    obtain ⟨-, -, hactive, hqueue⟩ := Backend.writeFrame_spec hwrite
    refine ⟨?_, hactive, ?_⟩
    · rw [asked, asked, List.append_assoc, hqueue, ← List.append_assoc, List.filterMap_append,
        filterMap_cancelled, List.filterMap_nil, List.append_nil]
    · rw [Backend.writeFrame] at hwrite
      split_ifs at hwrite
      · cases hwrite
        rfl
      · cases hwrite
        rfl

/-- A cancel is written or joins the line as long as the process runs. -/
theorem writeFrame_cancel (h : w.exited = false) (v : UInt8) (sessionId : SessionId)
    (turnId : TurnId) (after : AfterWrite) :
    ∃ w', w.writeFrame ⟨.cancel v sessionId turnId, after⟩ = .ok w' := by
  obtain ⟨backend, written, hwrite⟩ := w.backend.writeFrame_fitting
    (w := ⟨.cancel v sessionId turnId, after⟩) (fitting_cancel v sessionId turnId)
  rw [writeFrame_running h, hwrite]
  exact ⟨_, rfl⟩

theorem writeFrame_exited (h : w.exited = true) (writer : Writer) :
    ∃ error, w.writeFrame writer = .error error := by
  rw [writeFrame]
  cases w.backend.writeFrame writer with
  | error error => exact ⟨error, rfl⟩
  | ok _ => exact ⟨_, if_pos h⟩

theorem writeShutdown_holds : w.writeShutdown.asked = w.asked ∧ Holds w w.writeShutdown := by
  rw [writeShutdown]
  split
  next w' hwrite =>
    obtain ⟨hasked, hholds⟩ := writeFrame_spec hwrite
    exact ⟨hasked.trans (List.append_nil _), hholds⟩
  · exact ⟨rfl, rfl, rfl⟩

theorem submit_keeps (text : String) (turnId : TurnId) : Keeps w (w.submit text turnId).2 := by
  rw [submit]
  split
  · exact .of_holds ⟨rfl, rfl⟩ rfl
  · split
    · exact .of_holds ⟨rfl, rfl⟩ rfl
    · dsimp only
      split
      next w' hwrite =>
        obtain ⟨hasked, hholds⟩ := writeFrame_spec hwrite
        refine ⟨hasked.trans (List.append_nil _), fun _ _ hsent => ?_⟩
        rw [hholds.sent] at hsent
        cases hsent
      · exact ⟨rfl, fun _ hactive => by cases hactive⟩

theorem acquire_keeps (h : w.acquire = some w') : Keeps w w' := by
  rw [acquire] at h
  split at h
  next writer waiters _ hwaiters =>
    cases h
    refine .of_holds ⟨rfl, rfl⟩ ?_
    rw [asked, asked, hwaiters, List.append_assoc]
    rfl
  · cases h

/-- The coroutine that has the lock raises. -/
theorem release_raise_keeps (writer : Writer) : Keeps w (w.release.raise writer) := by
  rw [raise]
  split
  · exact ⟨rfl, fun _ hactive => by cases hactive⟩
  · exact .of_holds ⟨rfl, rfl⟩ rfl
  · exact .of_holds ⟨rfl, rfl⟩ rfl

theorem event_keeps (json : Json) : Keeps w { w with backend := w.backend.event json } := by
  refine ⟨?_, ?_⟩
  · rw [asked, asked]
    dsimp only
    rw [Backend.event_waiters]
  · dsimp only
    rw [Backend.event]
    split
    · exact fun _ hactive hsent => ⟨hactive, hsent⟩
    · split
      · exact fun _ hactive => by cases hactive
      · exact fun _ hactive => by cases hactive
      · exact fun _ hactive hsent => ⟨hactive, hsent⟩
      · exact fun _ hactive hsent => ⟨hactive, hsent⟩

/-! ## The forms of a step -/

/-- What a step does to the frames and the flag, and when it is timely. -/
inductive Step (w : Coroutines) (act : Act) (w' : Coroutines) : Prop where
  | keeps (htimely : w.Timely act) (h : Keeps w w')
  /-- A cancel begins. -/
  | asks {turnId : TurnId} (htimely : w.Timely act ↔ turnId ∉ w.asked)
      (hasked : w'.asked = w.asked ++ [turnId]) (h : Holds w w')
  /-- A cancel is noted. -/
  | notes (htimely : w.Timely act ↔
        ∀ turnId, w.backend.activeTurnId = some turnId → turnId ∈ w.asked)
      (hasked : w'.asked = w.asked) (hactive : w'.backend.activeTurnId = w.backend.activeTurnId)
      (hsent : w'.backend.cancelSent = true)
  /-- A cancel leaves the line. -/
  | withdraws {turnId : TurnId} {before after : List TurnId} (htimely : w.Timely act ↔
        ¬ (w.backend.cancelSent = true ∧ w.backend.activeTurnId = some turnId))
      (hasked : w.asked = before ++ turnId :: after) (hasked' : w'.asked = before ++ after)
      (h : Holds w w')

theorem cancel_step : Step w .cancel w.cancel.2 := by
  rw [cancel]
  split
  next htarget =>
    refine .keeps (fun _ turnId hturn => ?_) (.of_holds ⟨rfl, rfl⟩ rfl)
    rw [htarget] at hturn
    cases hturn
  next turnId htarget =>
    cases hexited : w.exited with
    | true =>
        obtain ⟨error, hwrite⟩ := writeFrame_exited hexited
          ⟨.cancel 1 w.backend.sessionId turnId, .cancelReturns⟩
        rw [hwrite]
        exact .keeps (fun hrunning => by cases hexited.symm.trans hrunning)
          (.of_holds ⟨rfl, rfl⟩ rfl)
    | false =>
        obtain ⟨w', hwrite⟩ := writeFrame_cancel hexited 1 w.backend.sessionId turnId
          .cancelReturns
        obtain ⟨hasked, hholds⟩ := writeFrame_spec hwrite
        rw [hwrite]
        refine .asks ?_ hasked hholds
        simp [Timely, hexited, htarget]

theorem request_step : Step w .request w.request := by
  rw [request]
  dsimp only
  split
  next hexited =>
    exact .keeps (fun hrunning => by cases hexited.symm.trans hrunning) (.of_holds ⟨rfl, rfl⟩ rfl)
  next hrunning =>
    rw [Bool.not_eq_true] at hrunning
    split
    next htarget =>
      obtain ⟨hasked, hholds⟩ := { w with requesting := false }.writeShutdown_holds
      refine .keeps (fun _ turnId hturn => ?_) (.of_holds ⟨hholds.active, hholds.sent⟩ hasked)
      rw [htarget] at hturn
      cases hturn
    next turnId htarget =>
      obtain ⟨w', hwrite⟩ := { w with requesting := false }.writeFrame_cancel hrunning 1
        w.backend.sessionId turnId .shutdownGoesOn
      obtain ⟨hasked, hholds⟩ := writeFrame_spec hwrite
      rw [hwrite]
      refine .asks ?_ hasked ⟨hholds.active, hholds.sent⟩
      simp [Timely, hrunning, htarget]

theorem drained_step {report : Report} (h : w.drained = some (report, w')) :
    Step w .drained w' := by
  rw [drained] at h
  split at h
  · cases h
  next writer hholder =>
    split at h
    next hafter =>
      cases h
      exact .keeps (by simp [Timely, hholder, hafter]) (.of_holds ⟨rfl, rfl⟩ rfl)
    next hafter =>
      cases h
      exact .notes (by simp [Timely, hholder, hafter]) rfl rfl rfl
    next hafter =>
      cases h
      obtain ⟨hasked, hholds⟩ := w.release.noteSent.writeShutdown_holds
      exact .notes (by simp [Timely, hholder, hafter]) hasked hholds.active hholds.sent
    next hafter =>
      cases h
      exact .keeps (by simp [Timely, hholder, hafter]) (.of_holds ⟨rfl, rfl⟩ rfl)

/-- A coroutine whose task is cancelled leaves the line. -/
theorem interruptWaiter_step {position : Nat} {writer : Writer}
    (h : w.backend.waiters[position]? = some writer) :
    Step w (.interruptWaiter position) ({ w with backend :=
      { w.backend with waiters := w.backend.waiters.eraseIdx position } }.raise writer) := by
  obtain ⟨front, rest, hline, hleft, -⟩ := around_of_getElem? h
  have hasked : w.asked = (w.written ++ front.map Writer.frame).filterMap cancelled? ++
      ((cancelled? writer.frame).toList ++
        (rest.map Writer.frame).filterMap cancelled?) := by
    rw [asked, hline, List.map_append, List.map_cons, ← List.append_assoc,
      List.filterMap_append, filterMap_cancelled]
  have hasked' : asked { w with backend :=
      { w.backend with waiters := w.backend.waiters.eraseIdx position } } =
      (w.written ++ front.map Writer.frame).filterMap cancelled? ++
        (rest.map Writer.frame).filterMap cancelled? := by
    rw [asked, hleft, List.map_append, ← List.append_assoc, List.filterMap_append]
  rw [raise]
  cases hframe : writer.frame with
  | submit v sessionId turnId input =>
      rw [hframe] at hasked
      have htimely : w.Timely (.interruptWaiter position) := by
        simp [Timely, h, hframe, cancelled?]
      refine .keeps htimely ⟨?_, fun _ hactive => by cases hactive⟩
      rw [hasked]
      exact hasked'
  | cancel v sessionId turnId =>
      rw [hframe] at hasked
      exact .withdraws (by simp [Timely, h, hframe, cancelled?]) hasked hasked' ⟨rfl, rfl⟩
  | shutdown v sessionId =>
      rw [hframe] at hasked
      refine .keeps (by simp [Timely, h, hframe, cancelled?]) (.of_holds ⟨rfl, rfl⟩ ?_)
      rw [hasked]
      exact hasked'

theorem next_step {act : Act} {report : Report} (h : w.next act = some (report, w')) :
    Step w act w' := by
  cases act with
  | submit text turnId =>
      obtain rfl : (w.submit text turnId).2 = w' := congrArg Prod.snd (Option.some.inj h)
      exact .keeps trivial (submit_keeps text turnId)
  | cancel =>
      obtain rfl : w.cancel.2 = w' := congrArg Prod.snd (Option.some.inj h)
      exact cancel_step
  | shutdown =>
      cases h
      rw [shutdown]
      split
      · exact .keeps trivial (.of_holds ⟨rfl, rfl⟩ rfl)
      · exact .keeps trivial (.of_holds ⟨rfl, rfl⟩ rfl)
  | request =>
      rw [next] at h
      split at h
      · cases h
        exact request_step
      · cases h
  | acquire =>
      obtain ⟨_, hacquire, heq⟩ := Option.map_eq_some_iff.mp h
      cases heq
      exact .keeps trivial (acquire_keeps hacquire)
  | drained => exact drained_step h
  | broken =>
      obtain ⟨writer, _, heq⟩ := Option.map_eq_some_iff.mp h
      cases heq
      exact .keeps trivial (release_raise_keeps writer)
  | interrupt =>
      obtain ⟨writer, _, heq⟩ := Option.map_eq_some_iff.mp h
      cases heq
      exact .keeps trivial (release_raise_keeps writer)
  | interruptWaiter position =>
      obtain ⟨writer, hwriter, heq⟩ := Option.map_eq_some_iff.mp h
      cases heq
      exact interruptWaiter_step hwriter
  | line json =>
      rw [next] at h
      split at h
      · cases h
        exact .keeps trivial (event_keeps json)
      · cases h
  | lost error =>
      rw [next] at h
      split at h
      · cases h
        exact .keeps trivial (.of_holds ⟨rfl, rfl⟩ rfl)
      · cases h
  | exit =>
      cases h
      exact .keeps trivial (.of_holds ⟨rfl, rfl⟩ rfl)

/-! ## Runs -/

end Coroutines

end Paraegox.Textual
