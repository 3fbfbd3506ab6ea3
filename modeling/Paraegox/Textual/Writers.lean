import Paraegox.Textual.Window

/-!
# The writers of a Session

The coroutines in `_write_frame`: those a handler of the App waits for, and those of
`shutdown`, which are no business of the handlers.
-/

namespace Paraegox.Textual

open Agent (SessionId TurnId)
open Stdio (InputFrame)

namespace Coroutines

/-- The coroutines in `_write_frame`, first come first. -/
def queue (c : Coroutines) : List Writer := c.backend.holder.toList ++ c.backend.waiters

/-- Those a handler waits for. -/
def callers (c : Coroutines) : List Writer := c.queue.filter fun writer => ! writer.isShutdown

/-- The Turn, the reader and the identity stay, and nothing is unwritten. -/
structure Same (c c' : Coroutines) : Prop where
  sessionId : c'.backend.sessionId = c.backend.sessionId
  active : c'.backend.activeTurnId = c.backend.activeTurnId
  reader : c'.backend.reader = c.backend.reader
  exited : c'.exited = c.exited
  written : c.written ⊆ c'.written

theorem Same.refl (c : Coroutines) : Same c c := ⟨rfl, rfl, rfl, rfl, List.Subset.refl _⟩

theorem Same.trans {c₁ c₂ c₃ : Coroutines} (h : Same c₁ c₂) (h' : Same c₂ c₃) : Same c₁ c₃ where
  sessionId := h'.sessionId.trans h.sessionId
  active := h'.active.trans h.active
  reader := h'.reader.trans h.reader
  exited := h'.exited.trans h.exited
  written := List.Subset.trans h.written h'.written

/-- What belongs to `shutdown` submits nothing, and who has the lock has written its frame. -/
structure Tidy (c : Coroutines) : Prop where
  commands : ∀ writer ∈ c.queue, writer.isShutdown = true → submitted? writer.frame = none
  held : ∀ writer ∈ c.backend.holder, writer.frame ∈ c.written

/-- A step that is no business of the handlers. -/
structure Aside (c c' : Coroutines) : Prop where
  callers : c'.callers = c.callers
  same : Same c c'
  tidy : c.Tidy → c'.Tidy

/-- What is the business of the handlers stays. -/
structure Kept (c c' : Coroutines) : Prop where
  sessionId : c'.backend.sessionId = c.backend.sessionId
  active : c'.backend.activeTurnId = c.backend.activeTurnId
  callers : c'.callers = c.callers
  tidy : c.Tidy → c'.Tidy

theorem Aside.kept {c c' : Coroutines} (h : Aside c c') : Kept c c' :=
  ⟨h.same.sessionId, h.same.active, h.callers, h.tidy⟩

theorem Aside.refl (c : Coroutines) : Aside c c := ⟨rfl, .refl c, id⟩

theorem Aside.trans {c₁ c₂ c₃ : Coroutines} (h : Aside c₁ c₂) (h' : Aside c₂ c₃) :
    Aside c₁ c₃ where
  callers := h'.callers.trans h.callers
  same := h.same.trans h'.same
  tidy := h'.tidy ∘ h.tidy

variable {c c' : Coroutines}

theorem Tidy.of_subset (h : c.Tidy) (hsub : c'.queue ⊆ c.queue)
    (hheld : ∀ writer ∈ c'.backend.holder, writer ∈ c.backend.holder)
    (hwritten : c.written ⊆ c'.written) : c'.Tidy where
  commands writer hwriter := h.commands writer (hsub hwriter)
  held writer hwriter := hwritten (h.held writer (hheld writer hwriter))

theorem Tidy.commands_concat {writer : Writer} (h : c.Tidy)
    (hqueue : c'.queue = c.queue ++ [writer])
    (hwriter : writer.isShutdown = true → submitted? writer.frame = none) :
    ∀ other ∈ c'.queue, other.isShutdown = true → submitted? other.frame = none := by
  intro other hother
  rw [hqueue, List.mem_append, List.mem_singleton] at hother
  rcases hother with hmem | rfl
  · exact h.commands other hmem
  · exact hwriter

/-- A frame is written at once, or its coroutine joins the others. -/
theorem writeFrame_queue {writer : Writer} (h : c.writeFrame writer = .ok c') :
    c'.queue = c.queue ++ [writer] ∧ Same c c' ∧
      ((writer.isShutdown = true → submitted? writer.frame = none) → c.Tidy → c'.Tidy) := by
  rw [writeFrame] at h
  split at h
  · cases h
  next backend written hwrite =>
    split_ifs at h
    rw [Backend.writeFrame] at hwrite
    split_ifs at hwrite with hlen hfree
    · cases hwrite
      rw [Except.ok.injEq] at h
      obtain ⟨hholder, hwaiters⟩ := hfree
      rw [Option.isNone_iff_eq_none] at hholder
      have hqueue : c'.queue = c.queue ++ [writer] := by
        rw [← h, queue, queue, hholder, hwaiters]
        rfl
      refine ⟨hqueue, ?_, fun hwriter htidy => ⟨htidy.commands_concat hqueue hwriter, ?_⟩⟩
      · rw [← h]
        exact ⟨rfl, rfl, rfl, rfl, List.subset_append_left _ _⟩
      · intro other hother
        rw [← h] at hother ⊢
        obtain rfl : writer = other := Option.some.inj hother
        exact List.mem_append_right _ (List.mem_singleton_self _)
    · cases hwrite
      rw [Except.ok.injEq] at h
      have hqueue : c'.queue = c.queue ++ [writer] := by
        rw [← h, queue, queue, List.append_assoc]
      refine ⟨hqueue, ?_, fun hwriter htidy => ⟨htidy.commands_concat hqueue hwriter, ?_⟩⟩
      · rw [← h]
        exact ⟨rfl, rfl, rfl, rfl, List.subset_append_left _ _⟩
      · intro other hother
        rw [← h] at hother ⊢
        exact List.mem_append_left _ (htidy.held other hother)

theorem Aside.of_write {writer : Writer} (h : c.writeFrame writer = .ok c')
    (hshutdown : writer.isShutdown = true) (hframe : submitted? writer.frame = none) :
    Aside c c' := by
  obtain ⟨hqueue, hsame, htidy⟩ := writeFrame_queue h
  have hcallers : c'.callers = c.callers := by
    rw [Coroutines.callers, hqueue, List.filter_append, List.filter_singleton, hshutdown]
    exact List.append_nil _
  exact ⟨hcallers, hsame, htidy fun _ => hframe⟩

/-! ## What `shutdown` does -/

theorem writeShutdown_aside (c : Coroutines) : Aside c c.writeShutdown := by
  rw [writeShutdown]
  split
  next c' hwrite => exact .of_write hwrite rfl rfl
  · exact .refl c

theorem request_aside (c : Coroutines) : Aside c c.request := by
  have hbegun : Aside c { c with requesting := false } :=
    ⟨rfl, ⟨rfl, rfl, rfl, rfl, List.Subset.refl _⟩, fun h => ⟨h.commands, h.held⟩⟩
  rw [request]
  dsimp only
  split
  · exact hbegun
  · split
    · exact hbegun.trans (writeShutdown_aside _)
    · split
      next c' hwrite => exact hbegun.trans (.of_write hwrite rfl rfl)
      · exact hbegun

theorem shutdown_aside (c : Coroutines) : Aside c c.shutdown := by
  rw [shutdown]
  split
  · exact .refl c
  · exact ⟨rfl, ⟨rfl, rfl, rfl, rfl, List.Subset.refl _⟩, fun h => ⟨h.commands, h.held⟩⟩

theorem queue_giveUp (c : Coroutines) : c.giveUp.queue = c.callers := by
  rw [callers, queue, queue, List.filter_append, giveUp]
  cases c.backend.holder with
  | none => rfl
  | some writer => cases hshutdown : writer.isShutdown <;> simp [Option.filter, hshutdown]

theorem giveUp_aside (c : Coroutines) : Aside c c.giveUp := by
  refine ⟨?_, ⟨rfl, rfl, rfl, rfl, List.Subset.refl _⟩, fun htidy =>
    htidy.of_subset ?_ ?_ (List.Subset.refl _)⟩
  · rw [callers, queue_giveUp, callers, List.filter_filter]
    simp
  · rw [queue_giveUp]
    exact List.filter_subset_self _
  · exact fun writer hwriter => (Option.mem_filter_iff.mp hwriter).1

/-! ## What the handlers do -/

/-- The client's `submit`, where no Turn is active: it waits with its frame, or raises and
leaves things as they were. -/
theorem submit_cases (hidle : c.backend.activeTurnId = none) (text : String) (turnId : TurnId) :
    (∃ c', c.submit text turnId = (none, c') ∧
      c'.queue = c.queue ++ [⟨.submit 1 c.backend.sessionId turnId text, .submitReturns⟩] ∧
      Same { c with backend := { c.backend with activeTurnId := some turnId } } c' ∧
      (c.Tidy → c'.Tidy) ∧ validateInput text MAX_INPUT_BYTES = .ok ()) ∨
    ∃ error c', c.submit text turnId = (some (.error error), c') ∧ Aside c c' := by
  rw [submit, if_neg (by simp [hidle])]
  cases hvalid : validateInput text MAX_INPUT_BYTES with
  | error error => exact .inr ⟨error, c, rfl, .refl c⟩
  | ok _ =>
      dsimp only
      split
      next c' hwrite =>
        obtain ⟨hqueue, hsame, htidy⟩ := writeFrame_queue hwrite
        refine .inl ⟨c', rfl, hqueue,
          ⟨hsame.sessionId, hsame.active, hsame.reader, hsame.exited, hsame.written⟩, ?_, rfl⟩
        exact fun h => htidy (fun hshutdown => by cases hshutdown) ⟨h.commands, h.held⟩
      next error _ => exact .inr ⟨error, _, rfl, rfl,
          ⟨rfl, hidle.symm, rfl, rfl, List.Subset.refl _⟩, fun h => ⟨h.commands, h.held⟩⟩

/-- `cancel` waits with its frame, or it is over. -/
theorem cancel_cases (c : Coroutines) :
    (∃ turnId c', c.cancel = (none, c') ∧ c.backend.activeTurnId = some turnId ∧
      c'.queue = c.queue ++ [⟨.cancel 1 c.backend.sessionId turnId, .cancelReturns⟩] ∧
      Same c c' ∧ (c.Tidy → c'.Tidy)) ∨
    ∃ result, c.cancel = (some result, c) := by
  rw [cancel]
  split
  · exact .inr ⟨_, rfl⟩
  next turnId htarget =>
    split
    next c' hwrite =>
      obtain ⟨hqueue, hsame, htidy⟩ := writeFrame_queue hwrite
      exact .inl ⟨turnId, c', rfl, Backend.cancelTarget_active htarget, hqueue, hsame,
        htidy fun _ => rfl⟩
    · exact .inr ⟨_, rfl⟩

/-! ## What the writers go on with -/

/-- What a step of the writers comes to for those that a handler waits for: none returns,
or the first one does, or it raises and then gives up the Turn it submits. -/
inductive Resumed (c : Coroutines) : Report → Coroutines → Prop where
  | quiet {c' : Coroutines} (h : Aside c c') : Resumed c none c'
  | returns {writer : Writer} {c' : Coroutines} (hcallers : c.callers = writer :: c'.callers)
      (hwritten : writer.frame ∈ c.written) (h : Same c c') (htidy : c.Tidy → c'.Tidy) :
      Resumed c (some (.ok true)) c'
  | raises {writer : Writer} {error : BackendError} {c' : Coroutines}
      (hcallers : c.callers = writer :: c'.callers) (h : Same (c.raise writer) c')
      (htidy : c.Tidy → c'.Tidy) : Resumed c (some (.error error)) c'

theorem acquire_resumed (h : c.acquire = some c') : Resumed c none c' := by
  rw [acquire] at h
  split at h
  next writer waiters hholder hwaiters =>
    cases h
    have hqueue : c.queue = writer :: waiters := by
      rw [queue, hholder, hwaiters]
      rfl
    refine .quiet ⟨?_, ⟨rfl, rfl, rfl, rfl, List.subset_append_left _ _⟩, fun htidy => ⟨?_, ?_⟩⟩
    · rw [callers, callers, hqueue]
      rfl
    · intro other hother
      exact htidy.commands other (hqueue ▸ hother)
    · intro other hother
      obtain rfl : writer = other := Option.some.inj hother
      exact List.mem_append_right _ (List.mem_singleton_self _)
  · cases h

/-- The lock is released. -/
theorem release_queue {writer : Writer} (h : c.backend.holder = some writer) :
    c.queue = writer :: c.release.queue := by
  rw [queue, h]
  rfl

theorem callers_of_queue {writer : Writer} (h : c.queue = writer :: c'.queue) :
    c.callers = if writer.isShutdown then c'.callers else writer :: c'.callers := by
  rw [callers, callers, h, List.filter_cons]
  cases writer.isShutdown <;> rfl

theorem drained_resumed (htidy : c.Tidy) {report : Report}
    (h : c.drained = some (report, c')) : Resumed c report c' := by
  rw [drained] at h
  split at h
  · cases h
  next writer hholder =>
    have hqueue := release_queue hholder
    have hcallers := callers_of_queue hqueue
    have hwritten := htidy.held writer hholder
    have htidy' : c.Tidy → c.release.Tidy := fun htidy =>
      htidy.of_subset (hqueue ▸ List.subset_cons_self _ _) (fun other hother => by cases hother)
        (List.Subset.refl _)
    split at h
    next hafter =>
      cases h
      rw [Writer.isShutdown, hafter] at hcallers
      exact .returns hcallers hwritten ⟨rfl, rfl, rfl, rfl, List.Subset.refl _⟩ htidy'
    next hafter =>
      cases h
      rw [Writer.isShutdown, hafter] at hcallers
      exact .returns hcallers hwritten ⟨rfl, rfl, rfl, rfl, List.Subset.refl _⟩
        fun h => ⟨(htidy' h).commands, (htidy' h).held⟩
    next hafter =>
      cases h
      rw [Writer.isShutdown, hafter] at hcallers
      have hnoted : Aside c c.release.noteSent :=
        ⟨hcallers.symm, ⟨rfl, rfl, rfl, rfl, List.Subset.refl _⟩,
          fun h => ⟨(htidy' h).commands, (htidy' h).held⟩⟩
      exact .quiet (hnoted.trans (writeShutdown_aside _))
    next hafter =>
      cases h
      rw [Writer.isShutdown, hafter] at hcallers
      exact .quiet ⟨hcallers.symm, ⟨rfl, rfl, rfl, rfl, List.Subset.refl _⟩, htidy'⟩

theorem release_raise (c : Coroutines) (writer : Writer) :
    (c.release.raise writer).queue = c.release.queue ∧
      (c.release.raise writer).backend.holder = none ∧
      Same (c.raise writer) (c.release.raise writer) := by
  rw [raise, raise]
  cases writer.frame with
  | submit _ _ _ _ => exact ⟨rfl, rfl, rfl, rfl, rfl, rfl, List.Subset.refl _⟩
  | cancel _ _ _ => exact ⟨rfl, rfl, rfl, rfl, rfl, rfl, List.Subset.refl _⟩
  | shutdown _ _ => exact ⟨rfl, rfl, rfl, rfl, rfl, rfl, List.Subset.refl _⟩

theorem raise_reader (c : Coroutines) (writer : Writer) :
    (c.raise writer).backend.reader = c.backend.reader := by
  rw [raise]
  cases writer.frame <;> rfl

/-- A coroutine that submits nothing leaves the Turn when it raises. -/
theorem raise_active (c : Coroutines) {writer : Writer} (h : submitted? writer.frame = none) :
    (c.raise writer).backend.activeTurnId = c.backend.activeTurnId := by
  rw [raise]
  cases hframe : writer.frame with
  | submit _ _ _ _ =>
      rw [hframe] at h
      cases h
  | cancel _ _ _ => rfl
  | shutdown _ _ => rfl

theorem raise_written (c : Coroutines) (writer : Writer) :
    (c.raise writer).written = c.written := by
  rw [raise]
  cases writer.frame <;> rfl

theorem broken_resumed (htidy : c.Tidy) {report : Report} (h : c.next .broken = some (report, c')) :
    Resumed c report c' := by
  obtain ⟨writer, hholder, heq⟩ := Option.map_eq_some_iff.mp h
  cases heq
  obtain ⟨hraised, hfree, hsame⟩ := c.release_raise writer
  have hqueue : c.queue = writer :: (c.release.raise writer).queue := by
    rw [hraised]
    exact release_queue hholder
  have hcallers := callers_of_queue hqueue
  have htidy' : c.Tidy → (c.release.raise writer).Tidy := fun htidy =>
    htidy.of_subset (hqueue ▸ List.subset_cons_self _ _)
      (fun other hother => by cases hfree.symm.trans hother)
      ((c.raise_written writer) ▸ hsame.written)
  have hquiet (hshutdown : writer.isShutdown = true) :
      Resumed c none (c.release.raise writer) := by
    rw [hshutdown] at hcallers
    refine .quiet ⟨hcallers.symm, ?_, htidy'⟩
    have hframe := htidy.commands writer (hqueue ▸ List.mem_cons_self) hshutdown
    rw [raise] at hsame
    cases hsubmit : writer.frame with
    | submit _ _ _ _ =>
        rw [hsubmit] at hframe
        cases hframe
    | cancel _ _ _ =>
        rw [hsubmit] at hsame
        exact hsame
    | shutdown _ _ =>
        rw [hsubmit] at hsame
        exact hsame
  rw [closedStdin]
  cases hafter : writer.after with
  | submitReturns =>
      rw [Writer.isShutdown, hafter] at hcallers
      exact .raises hcallers hsame htidy'
  | cancelReturns =>
      rw [Writer.isShutdown, hafter] at hcallers
      exact .raises hcallers hsame htidy'
  | shutdownGoesOn => exact hquiet (by rw [Writer.isShutdown, hafter]; rfl)
  | shutdownWaits => exact hquiet (by rw [Writer.isShutdown, hafter]; rfl)

end Coroutines

end Paraegox.Textual
