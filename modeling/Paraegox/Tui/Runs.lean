import Paraegox.Tui.Contract

/-!
# Whole runs of the terminal chat

What the contract says of every run, whatever the terminal and the Agent do: what is on the
screen is what was said and typed, Turns are submitted one at a time, and the terminal and
the connection are left the way they were set up.
-/

namespace Paraegox.Tui

open Agent (Duration TurnId validateInput)
open Machine (exchanges)

section

variable (conversation : Conversation)

/-- What was said and typed after some exchanges. -/
def chatAfter (xs : List Asked) : Chat := xs.foldl (Chat.hear conversation) {}

/-- The Turn that is open after some exchanges. -/
def turnAfter (xs : List Asked) : Option OpenTurn := xs.foldl (track conversation) none

theorem after_eq (xs : List Asked) :
    (contract conversation).after {} xs =
      ⟨chatAfter conversation xs, turnAfter conversation xs, xs.filterMap call?,
        xs.foldl (lineReply conversation) none⟩ := by
  induction xs using List.reverseRecOn with
  | nil => rfl
  | append_singleton xs x ih =>
      have hcall : (call? x).toList = [x].filterMap call? := by
        cases hx : call? x <;> simp [hx]
      rw [Monitor.after, List.foldl_concat, ← Monitor.after, ih]
      simp only [chatAfter, turnAfter, List.foldl_concat, List.filterMap_append, ← hcall]
      rfl

end

/-- What `run_tui` returned. -/
def returned? : Dialogue Request Request.Answer Conversation.Point → Option TuiResult
  | .pure (.exited result) => some result
  | _ => none

theorem eq_of_returned? {rest : Dialogue Request Request.Answer Conversation.Point}
    {result : TuiResult} (h : returned? rest = some result) : rest = .pure (.exited result) := by
  unfold returned? at h
  split at h
  · cases h
    rfl
  · cases h

variable {conversation : Conversation}
  {tr : List (Transition.Event (Dialogue Request Request.Answer Conversation.Point)
    (Machine.Act Request Request.Answer) Unit)}
  {rest : Dialogue Request Request.Answer Conversation.Point}

/-- What was asked at some time of a run was permitted then. -/
theorem run_permits (h : conversation.runTui.system.Run (.pure .opening) tr rest)
    {before after : List Asked} {x : Asked} (htr : exchanges tr = before ++ x :: after) :
    Standing.Permits conversation ⟨chatAfter conversation before, turnAfter conversation before,
      before.filterMap call?, before.foldl (lineReply conversation) none⟩ x.question := by
  have hrespects := Machine.run_respects (M := contract conversation) resume_keeps h rfl
    (Monitor.admits_of_forall (fun _ _ => trivial) _ _)
  rw [htr] at hrespects
  rw [← after_eq]
  exact hrespects.at

theorem run_at (h : conversation.runTui.system.Run (.pure .opening) tr rest) :
    rest.Obeys (contract conversation) (fun standing => standing.At conversation)
      ⟨chatAfter conversation (exchanges tr), turnAfter conversation (exchanges tr),
        (exchanges tr).filterMap call?, (exchanges tr).foldl (lineReply conversation) none⟩ := by
  rw [← after_eq]
  exact Machine.run_obeys (M := contract conversation) resume_keeps h rfl
    (Monitor.admits_of_forall (fun _ _ => trivial) _ _)

/-! ## The screen -/

/-- Whatever is drawn is what was said and what is typed at that time, and the chat never
panics but where it prints to an output that is closed. -/
theorem screen_shows_what_was_said
    (h : conversation.runTui.system.Run (.pure .opening) tr rest) :
    (∀ before view drawn after, exchanges tr = before ++ ⟨.draw view, drawn⟩ :: after →
      ∃ area, view = (chatAfter conversation before).view conversation area) ∧
    (∀ before text printed after, exchanges tr = before ++ ⟨.println text, printed⟩ :: after →
      ∃ content, before.foldl (lineReply conversation) none = some content ∧
        text = "agent> " ++ content) ∧
    ∀ message, rest ≠ .pure (.unwinding message) ∧
      (conversation.isTerminal → rest ≠ .pure (.panicked message)) := by
  refine ⟨?_, ?_, ?_⟩
  · intro before view drawn after htr
    exact (run_permits h htr).2
  · intro before text printed after htr
    exact run_permits h htr
  · intro message
    have hat := run_at h
    constructor
    · rintro rfl
      exact hat
    · rintro hterminal rfl
      exact hat.2 hterminal

/-- A message and its reply on a terminal that was too small before. -/
theorem screen_shows_a_reply : ∃ tr rest before drawn,
    (Conversation.mk "node-a" "tcp/127.0.0.1:7447" ⟨⟨1⟩⟩ 1000000 true).runTui.system.Run
      (.pure .opening) tr rest ∧
    exchanges tr = before ++ [⟨.draw (.chat "node-a" none none
      [["YOU    ", "h"], [""], ["AGENT  ", "ok"], [""]] "Write a message…" (some "")
      " [Enter] send   [Esc] clear   [Ctrl-C] quit   [/quit] quit " "Agent reply received"),
        drawn⟩] ∧
    ∃ area, (.chat "node-a" none none
      [["YOU    ", "h"], [""], ["AGENT  ", "ok"], [""]] "Write a message…" (some "")
      " [Enter] send   [Esc] clear   [Ctrl-C] quit   [/quit] quit " "Agent reply received") =
        (chatAfter ⟨"node-a", "tcp/127.0.0.1:7447", ⟨⟨1⟩⟩, 1000000, true⟩ before).view
          ⟨"node-a", "tcp/127.0.0.1:7447", ⟨⟨1⟩⟩, 1000000, true⟩ area := by
  obtain ⟨tr, rest, hrun, hacts, -⟩ := Transition.System.exec_any
    (Conversation.mk "node-a" "tcp/127.0.0.1:7447" ⟨⟨1⟩⟩ 1000000 true).runTui.system
    (.pure .opening)
    [.resume, .answer ⟨.connect 1000000, .ok ()⟩, .answer ⟨.tryInit, .ok ()⟩,
      .resume, .answer ⟨.area, .ok ⟨30, 8⟩⟩, .answer ⟨.draw .tooSmall, .ok ()⟩,
      .answer ⟨.event, some (.ok (.key ⟨.char 'h', {}, .press⟩))⟩,
      .resume, .answer ⟨.area, .ok ⟨30, 8⟩⟩, .answer ⟨.draw .tooSmall, .ok ()⟩,
      .answer ⟨.event, some (.ok (.key ⟨.enter, {}, .press⟩))⟩, .answer ⟨.turnId, ⟨⟨2⟩⟩⟩,
      .resume, .answer ⟨.area, .ok ⟨30, 8⟩⟩, .answer ⟨.draw .tooSmall, .ok ()⟩,
      .answer ⟨.select ⟨⟨2⟩⟩ "h", .submission (.ok (.turn ⟨⟨⟨1⟩⟩, ⟨⟨2⟩⟩, .final "ok"⟩))⟩,
      .resume, .answer ⟨.area, .ok ⟨70, 20⟩⟩,
      .answer ⟨.draw (.chat "node-a" none none
        [["YOU    ", "h"], [""], ["AGENT  ", "ok"], [""]] "Write a message…" (some "")
        " [Enter] send   [Esc] clear   [Ctrl-C] quit   [/quit] quit " "Agent reply received"),
        .ok ()⟩]
    (fun _ => true) (by decide +kernel)
  have hexchanges : exchanges tr = _ := (Machine.exchanges_of_acts tr).trans (by rw [hacts])
  have hsplit := hexchanges.trans (List.dropLast_append_getLast (by decide)).symm
  exact ⟨tr, rest, _, _, hrun, hsplit,
    (screen_shows_what_was_said hrun).1 _ _ _ _ hsplit⟩

/-! ## Turns -/

/-- Turns are submitted one at a time, with inputs that the Agent takes where they come from
the editor; only the Turn that is open is cancelled, within two seconds; and a chat that
ends well leaves no Turn behind that was not to be cancelled. -/
theorem turns_one_at_a_time (h : conversation.runTui.system.Run (.pure .opening) tr rest) :
    (∀ before x after, exchanges tr = before ++ x :: after →
      (x.question = .turnId → turnAfter conversation before = none) ∧
      (∀ turnId input, x.question = .select turnId input →
        (∃ cancelled, turnAfter conversation before = some ⟨turnId, cancelled⟩) ∧
          validateInput input = .ok ()) ∧
      (∀ turnId input, x.question = .lineTurn turnId input →
        ∃ cancelled, turnAfter conversation before = some ⟨turnId, cancelled⟩) ∧
      ∀ turnId deadline, x.question = .cancel turnId deadline →
        (∃ cancelled, turnAfter conversation before = some ⟨turnId, cancelled⟩) ∧
          deadline ≤ conversation.timeout ∧ deadline ≤ CONTROL_TIMEOUT) ∧
    (rest = .pure (.exited (.ok ())) →
      ∀ turn ∈ turnAfter conversation (exchanges tr), turn.cancelled) := by
  refine ⟨fun before x after htr => ?_, ?_⟩
  · have hpermits := run_permits h htr
    refine ⟨?_, ?_, ?_, ?_⟩
    · intro hq
      rw [hq] at hpermits
      exact hpermits.2
    · intro turnId input hq
      rw [hq] at hpermits
      exact ⟨hpermits.2.1, hpermits.2.2⟩
    · intro turnId input hq
      rw [hq] at hpermits
      exact hpermits.2
    · intro turnId deadline hq
      rw [hq] at hpermits
      obtain ⟨-, hdrives, rfl⟩ := hpermits
      exact ⟨hdrives, min_le_left _ _, min_le_right _ _⟩
  · rintro rfl
    have hat : Standing.At conversation _ (.exited (.ok ())) := run_at h
    exact hat.1 rfl

/-- A Turn that is left with a Ctrl-C. -/
theorem turns_one_at_a_time_quit : ∃ tr,
    (Conversation.mk "node-a" "tcp/127.0.0.1:7447" ⟨⟨1⟩⟩ 1000000 true).runTui.system.Run
      (.pure .opening) tr (.pure (.exited (.ok ()))) ∧
    ∃ turn, turnAfter ⟨"node-a", "tcp/127.0.0.1:7447", ⟨⟨1⟩⟩, 1000000, true⟩ (exchanges tr) =
      some turn ∧ turn.cancelled := by
  obtain ⟨tr, rest, hrun, -, hreturned, hturn⟩ := Transition.System.exec_exists
    (Conversation.mk "node-a" "tcp/127.0.0.1:7447" ⟨⟨1⟩⟩ 1000000 true).runTui.system
    (.pure .opening)
    [.resume, .answer ⟨.connect 1000000, .ok ()⟩, .answer ⟨.tryInit, .ok ()⟩,
      .resume, .answer ⟨.area, .ok ⟨30, 8⟩⟩, .answer ⟨.draw .tooSmall, .ok ()⟩,
      .answer ⟨.event, some (.ok (.paste "hello"))⟩,
      .resume, .answer ⟨.area, .ok ⟨30, 8⟩⟩, .answer ⟨.draw .tooSmall, .ok ()⟩,
      .answer ⟨.event, some (.ok (.key ⟨.enter, {}, .press⟩))⟩, .answer ⟨.turnId, ⟨⟨2⟩⟩⟩,
      .resume, .answer ⟨.area, .ok ⟨30, 8⟩⟩, .answer ⟨.draw .tooSmall, .ok ()⟩,
      .answer ⟨.select ⟨⟨2⟩⟩ "hello",
        .event (some (.ok (.key ⟨.char 'c', ⟨true, false⟩, .press⟩)))⟩,
      .answer ⟨.cancel ⟨⟨2⟩⟩ 1000000, .ok (.cancel ⟨⟨1⟩⟩ ⟨⟨2⟩⟩ .cancellationRequested)⟩,
      .resume, .answer ⟨.tryRestore, .ok ()⟩, .resume, .answer ⟨.close 1000000, .ok ()⟩]
    (P := fun tr rest => returned? rest = some (.ok ()) ∧
      turnAfter ⟨"node-a", "tcp/127.0.0.1:7447", ⟨⟨1⟩⟩, 1000000, true⟩ (exchanges tr) =
        some ⟨⟨⟨2⟩⟩, true⟩) (by decide +kernel)
  obtain rfl := eq_of_returned? hreturned
  exact ⟨tr, hrun, _, hturn, (turns_one_at_a_time hrun).2 rfl _ hturn⟩

/-! ## The terminal -/

/-- The conversation happens while the terminal is set up, and in the end what was set up was
left once: the terminal first, by force where it could not be restored, and then the
connection. -/
theorem terminal_left_as_found (h : conversation.runTui.system.Run (.pure .opening) tr rest) :
    (∀ before x after, exchanges tr = before ++ x :: after →
      (∀ view turnId input, x.question = .draw view ∨ x.question = .event ∨
        x.question = .select turnId input → before.filterMap call? = [.initialized]) ∧
      (x.question = .turnId → before.filterMap call? = [.initialized] ∨
        ¬ conversation.isTerminal ∧ before.filterMap call? = [])) ∧
    ∀ result, rest = .pure (.exited result) →
      (exchanges tr).filterMap call? = [] ∧ result ≠ .ok () ∨
      (exchanges tr).filterMap call? = [.initialized, .restored, .closed] ∨
      (exchanges tr).filterMap call? = [.initialized, .unrestored, .forced, .closed] ∨
      (exchanges tr).filterMap call? = [.uninitialized, .forced, .closed] ∨
      ¬ conversation.isTerminal ∧ (exchanges tr).filterMap call? = [.closed] := by
  refine ⟨fun before x after htr => ?_, ?_⟩
  · have hpermits := run_permits h htr
    refine ⟨?_, ?_⟩
    · intro view turnId input hq
      rcases hq with hq | hq | hq
      · rw [hq] at hpermits
        exact hpermits.1
      · rw [hq] at hpermits
        exact hpermits.1
      · rw [hq] at hpermits
        exact hpermits.1
    · intro hq
      rw [hq] at hpermits
      exact hpermits.1
  · rintro result rfl
    have hat : Standing.At conversation _ (.exited result) := run_at h
    rcases hat.2 with hrefused | ⟨standing, hrestored, hcalls⟩
    · exact .inl hrefused
    · refine .inr ?_
      rcases hrestored with hstanding | hstanding | hstanding | ⟨hline, hstanding⟩
      · exact .inl (hcalls.trans (by rw [hstanding]; rfl))
      · exact .inr (.inl (hcalls.trans (by rw [hstanding]; rfl)))
      · exact .inr (.inr (.inl (hcalls.trans (by rw [hstanding]; rfl))))
      · exact .inr (.inr (.inr ⟨hline, hcalls.trans (by rw [hstanding]; rfl)⟩))

/-- The terminal cannot be restored after a Ctrl-C. -/
theorem terminal_left_as_found_forced : ∃ tr result,
    (Conversation.mk "node-a" "tcp/127.0.0.1:7447" ⟨⟨1⟩⟩ 1000000 true).runTui.system.Run
      (.pure .opening) tr (.pure (.exited result)) ∧
    (exchanges tr).filterMap call? ≠ [] ∧
    ((exchanges tr).filterMap call? = [.initialized, .restored, .closed] ∨
      (exchanges tr).filterMap call? = [.initialized, .unrestored, .forced, .closed] ∨
      (exchanges tr).filterMap call? = [.uninitialized, .forced, .closed]) := by
  obtain ⟨tr, rest, hrun, -, hreturned, hcalls⟩ := Transition.System.exec_exists
    (Conversation.mk "node-a" "tcp/127.0.0.1:7447" ⟨⟨1⟩⟩ 1000000 true).runTui.system
    (.pure .opening)
    [.resume, .answer ⟨.connect 1000000, .ok ()⟩, .answer ⟨.tryInit, .ok ()⟩,
      .resume, .answer ⟨.area, .ok ⟨30, 8⟩⟩, .answer ⟨.draw .tooSmall, .ok ()⟩,
      .answer ⟨.event, some (.ok (.key ⟨.char 'c', ⟨true, false⟩, .press⟩))⟩,
      .resume, .answer ⟨.tryRestore, .error ⟨.other, "not a terminal"⟩⟩, .answer ⟨.restore, ()⟩,
      .resume, .answer ⟨.close 1000000, .ok ()⟩]
    (P := fun tr rest => returned? rest = some (.error (.io ⟨.other, "not a terminal"⟩)) ∧
      (exchanges tr).filterMap call? ≠ []) (by decide +kernel)
  obtain rfl := eq_of_returned? hreturned
  refine ⟨tr, _, hrun, hcalls, ?_⟩
  rcases (terminal_left_as_found hrun).2 _ rfl with h | h | h | h | h
  · exact absurd h.1 hcalls
  · exact .inl h
  · exact .inr (.inl h)
  · exact .inr (.inr h)
  · exact absurd rfl h.1

end Paraegox.Tui
