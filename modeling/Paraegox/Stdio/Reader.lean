import Paraegox.Lib.Lines
import Paraegox.Lib.Transition
import Paraegox.Stdio.Frames

/-!
# Reading lines off the input

`BoundedJsonlReader::next_frame` gathers the bytes of its stream and hands out one
line at a time.  It waits only inside `read`, and a future that is dropped there
has taken nothing off the stream, so all it leaves behind is the buffer.

A `Feed` is the reader with its stream.  How many bytes a read brings is in its
label, as are a read that fails and a future that is dropped.
-/

namespace Paraegox.Stdio

def MAX_INPUT_FRAME_BYTES : Nat := 16 * 1024
def READ_CHUNK_BYTES : Nat := 1024

/-- `b'\n'`. -/
def NEWLINE : UInt8 := 10

/-- `b'\r'`. -/
def CARRIAGE_RETURN : UInt8 := 13

/-- `frame_too_large`. -/
def frameTooLarge : IoError := ⟨.invalidData, "JSONL command exceeds 16 KiB"⟩

/-- What `next_frame` returns. -/
abbrev FrameResult := Except IoError (Option (List UInt8))

structure BoundedJsonlReader where
  buffered : List UInt8
deriving DecidableEq, Repr

/-- A line without its carriage return. -/
def stripCarriageReturn (frame : List UInt8) : List UInt8 :=
  if frame.getLast? = some CARRIAGE_RETURN then frame.dropLast else frame

/-- `usize::sub` with overflow checks. -/
def checkedSub (a b : Nat) : Option Nat := if b ≤ a then some (a - b) else none

/-- How far `next_frame` gets without waiting. -/
inductive Poll where
  | ready (result : FrameResult)
  /-- It waits for a read into so many bytes. -/
  | reads (room : Nat)
  /-- A subtraction underflowed. -/
  | panicked
deriving DecidableEq

/-- One round of the loop of `next_frame`, up to its read. -/
def BoundedJsonlReader.poll (reader : BoundedJsonlReader) : Poll × BoundedJsonlReader :=
  match reader.buffered.findIdx? fun byte => byte = NEWLINE with
  | some newline =>
      if MAX_INPUT_FRAME_BYTES < newline then (.ready (.error frameTooLarge), reader)
      else
        let frame := (reader.buffered.take (newline + 1)).dropLast
        (.ready (.ok (some (stripCarriageReturn frame))), ⟨reader.buffered.drop (newline + 1)⟩)
  | none =>
      if MAX_INPUT_FRAME_BYTES < reader.buffered.length then
        (.ready (.error frameTooLarge), reader)
      else
        match checkedSub (MAX_INPUT_FRAME_BYTES + 1) reader.buffered.length with
        | none => (.panicked, reader)
        | some remaining => (.reads (min remaining READ_CHUNK_BYTES), reader)

/-- What `next_frame` returns at the end of its stream. -/
def BoundedJsonlReader.atEnd (reader : BoundedJsonlReader) : FrameResult × BoundedJsonlReader :=
  if reader.buffered.isEmpty then (.ok none, reader)
  else if MAX_INPUT_FRAME_BYTES < reader.buffered.length then (.error frameTooLarge, reader)
  else (.ok (some (stripCarriageReturn reader.buffered)), ⟨[]⟩)

/-! ## The reader and its stream -/

structure Feed where
  reader : BoundedJsonlReader
  /-- What the stream still holds. -/
  input : List UInt8
  /-- The size of the slice a pending `next_frame` reads into. -/
  waiting : Option Nat
deriving DecidableEq, Repr

/-- `BoundedJsonlReader::new` on a stream. -/
def Feed.start (stream : List UInt8) : Feed := ⟨⟨[]⟩, stream, none⟩

inductive FeedAction where
  /-- `next_frame` is called. -/
  | nextFrame
  /-- The pending read brings so many bytes. -/
  | read (count : Nat)
  /-- The pending read fails. -/
  | fail (error : IoError)
  /-- The pending future is dropped. -/
  | drop
deriving DecidableEq

inductive FeedReport where
  | silent
  | returned (result : FrameResult)
  /-- The error of a read that failed is returned as it is. -/
  | readFailed (error : IoError)
  | panicked
deriving DecidableEq

/-- `next_frame` goes on until it returns or waits. -/
def Feed.advance (feed : Feed) : FeedReport × Feed :=
  match feed.reader.poll with
  | (.ready result, reader) => (.returned result, { feed with reader, waiting := none })
  | (.reads room, reader) => (.silent, { feed with reader, waiting := some room })
  | (.panicked, reader) => (.panicked, { feed with reader, waiting := none })

/-- The pending read brings its bytes, or none at all. -/
def Feed.receive (feed : Feed) (count : Nat) : FeedReport × Feed :=
  if count = 0 then
    let (result, reader) := feed.reader.atEnd
    (.returned result, { feed with reader, waiting := none })
  else
    Feed.advance
      { feed with
        reader := ⟨feed.reader.buffered ++ feed.input.take count⟩
        input := feed.input.drop count }

/-- A read may bring `count` bytes: as many as fit and are there, and none only into
an empty slice or at the end of the stream. -/
def Feed.Brings (feed : Feed) (room count : Nat) : Prop :=
  count ≤ room ∧ count ≤ feed.input.length ∧ (count = 0 → room = 0 ∨ feed.input = [])

instance (feed : Feed) (room count : Nat) : Decidable (feed.Brings room count) :=
  inferInstanceAs (Decidable (_ ∧ _))

/-- The step a label names, where it is enabled. -/
def Feed.next (feed : Feed) : FeedAction → Option (FeedReport × Feed)
  | .nextFrame => if feed.waiting.isNone then some feed.advance else none
  | .read count =>
      feed.waiting.bind fun room =>
        if feed.Brings room count then some (feed.receive count) else none
  | .fail error => feed.waiting.map fun _ => (.readFailed error, { feed with waiting := none })
  | .drop => feed.waiting.map fun _ => (.silent, { feed with waiting := none })

def framing : Transition.System Feed FeedAction FeedReport := ⟨Feed.next⟩

/-- The results of `next_frame` in a run, but for the errors of the stream itself. -/
def FeedReport.result? : FeedReport → Option FrameResult
  | .returned result => some result
  | _ => none

/-! ## The reference -/

/-- The result of one more call, on the lines that are left.  A line that is too long
is never passed. -/
def nextLine : List (List UInt8) → FrameResult × List (List UInt8)
  | [] => (.ok none, [])
  | line :: rest =>
      if MAX_INPUT_FRAME_BYTES < line.length then (.error frameTooLarge, line :: rest)
      else (.ok (some (stripCarriageReturn line)), rest)

/-- The lines that are left of a feed. -/
def Feed.remaining (feed : Feed) : List (List UInt8) :=
  lines NEWLINE (feed.reader.buffered ++ feed.input)

/-! ## One round of the loop -/

/-- How a round ends. -/
inductive PollCase (buffered : List UInt8) : Poll × BoundedJsonlReader → Prop where
  | line {front rest : List UInt8} : buffered = front ++ NEWLINE :: rest → NEWLINE ∉ front →
      front.length ≤ MAX_INPUT_FRAME_BYTES →
      PollCase buffered (.ready (.ok (some (stripCarriageReturn front))), ⟨rest⟩)
  | tooLong : NEWLINE ∉ buffered → MAX_INPUT_FRAME_BYTES < buffered.length →
      PollCase buffered (.ready (.error frameTooLarge), ⟨buffered⟩)
  | waits : NEWLINE ∉ buffered → buffered.length ≤ MAX_INPUT_FRAME_BYTES →
      PollCase buffered
        (.reads (min (MAX_INPUT_FRAME_BYTES + 1 - buffered.length) READ_CHUNK_BYTES), ⟨buffered⟩)

/-- With at most one byte too many in the buffer a newline never comes too late. -/
theorem BoundedJsonlReader.poll_case {reader : BoundedJsonlReader}
    (h : reader.buffered.length ≤ MAX_INPUT_FRAME_BYTES + 1) :
    PollCase reader.buffered reader.poll := by
  rw [poll]
  cases hfind : reader.buffered.findIdx? fun byte => byte = NEWLINE with
  | some newline =>
      obtain ⟨front, rest, hsplit, hfront, rfl⟩ := findIdx?_split hfind
      have hlen : front.length ≤ MAX_INPUT_FRAME_BYTES := by
        rw [hsplit, List.length_append, List.length_cons] at h
        omega
      have htake : (reader.buffered.take (front.length + 1)).dropLast = front := by
        rw [hsplit, List.take_length_add_append]
        simp
      have hdrop : reader.buffered.drop (front.length + 1) = rest := by
        rw [hsplit, List.drop_length_add_append]
        rfl
      simp only [Nat.not_lt.mpr hlen, ↓reduceIte, htake, hdrop]
      exact .line hsplit hfront hlen
  | none =>
      have hnone : NEWLINE ∉ reader.buffered := fun hmem => by
        simpa using List.findIdx?_eq_none_iff.mp hfind NEWLINE hmem
      by_cases hlong : MAX_INPUT_FRAME_BYTES < reader.buffered.length
      · simp only [hlong, ↓reduceIte]
        exact .tooLong hnone hlong
      · simp only [hlong, ↓reduceIte, checkedSub, h]
        exact .waits hnone (Nat.le_of_not_lt hlong)

/-! ## What every step keeps -/

/-- The buffer is bounded, and a pending read has room and continues a line. -/
structure Feed.Inv (feed : Feed) : Prop where
  bounded : feed.reader.buffered.length ≤ MAX_INPUT_FRAME_BYTES + 1
  waiting : ∀ room, feed.waiting = some room → NEWLINE ∉ feed.reader.buffered ∧
    feed.reader.buffered.length ≤ MAX_INPUT_FRAME_BYTES ∧
    room = min (MAX_INPUT_FRAME_BYTES + 1 - feed.reader.buffered.length) READ_CHUNK_BYTES

/-- A step stutters or gives the next line, and never panics. -/
structure Feed.Advances (feed : Feed) (report : FeedReport) (feed' : Feed) : Prop where
  inv : feed'.Inv
  quiet : report ≠ .panicked
  line : (report.result? = none ∧ feed'.remaining = feed.remaining) ∨
    ∃ result, report.result? = some result ∧ nextLine feed.remaining = (result, feed'.remaining)

theorem Feed.start_inv (stream : List UInt8) : (Feed.start stream).Inv where
  bounded := Nat.zero_le _
  waiting _ h := by cases h

/-- The reader looks for a line in its buffer. -/
theorem Feed.advance_advances {feed : Feed}
    (h : feed.reader.buffered.length ≤ MAX_INPUT_FRAME_BYTES + 1) :
    feed.Advances feed.advance.1 feed.advance.2 := by
  have hcase := BoundedJsonlReader.poll_case h
  rw [advance]
  generalize feed.reader.poll = outcome at hcase
  cases hcase with
  | @line front rest hsplit hfront hlen =>
      have hremaining : feed.remaining = front :: lines NEWLINE (rest ++ feed.input) := by
        rw [remaining, hsplit, List.append_assoc, List.cons_append, lines_append_cons hfront]
      refine ⟨⟨?_, nofun⟩, nofun, .inr ⟨_, rfl, ?_⟩⟩
      · rw [hsplit, List.length_append, List.length_cons] at h
        exact Nat.le_trans (by simp only; omega) h
      · rw [hremaining, nextLine, if_neg (Nat.not_lt.mpr hlen)]
        rfl
  | tooLong hnone hlong =>
      have hne : feed.reader.buffered ≠ [] := List.ne_nil_of_length_pos (by omega)
      obtain ⟨tail, others, hremaining⟩ := lines_append hnone hne feed.input
      refine ⟨⟨h, nofun⟩, nofun, .inr ⟨_, rfl, ?_⟩⟩
      have hline : MAX_INPUT_FRAME_BYTES < (feed.reader.buffered ++ tail).length := by
        rw [List.length_append]
        omega
      simp only [remaining, hremaining, nextLine, if_pos hline]
  | waits hnone hlen =>
      refine ⟨⟨h, fun room hroom => ?_⟩, nofun, .inl ⟨rfl, rfl⟩⟩
      cases hroom
      exact ⟨hnone, hlen, rfl⟩

/-- The end of the stream ends the last line. -/
theorem Feed.atEnd_advances {feed : Feed} (hnone : NEWLINE ∉ feed.reader.buffered)
    (hlen : feed.reader.buffered.length ≤ MAX_INPUT_FRAME_BYTES) (hend : feed.input = []) :
    feed.Advances (.returned feed.reader.atEnd.1)
      { feed with reader := feed.reader.atEnd.2, waiting := none } := by
  have hremaining : feed.remaining = lines NEWLINE feed.reader.buffered := by
    rw [remaining, hend, List.append_nil]
  rw [BoundedJsonlReader.atEnd]
  by_cases hempty : feed.reader.buffered = []
  · simp only [hempty, List.isEmpty_nil, ↓reduceIte]
    refine ⟨⟨by simp [hempty], nofun⟩, nofun, .inr ⟨_, rfl, ?_⟩⟩
    rw [hremaining, hempty, remaining]
    simp [hempty, hend, nextLine]
  · have hfull : feed.reader.buffered.isEmpty = false := by simpa using hempty
    simp only [hfull, Bool.false_eq_true, ↓reduceIte, Nat.not_lt.mpr hlen]
    refine ⟨⟨by simp, nofun⟩, nofun, .inr ⟨_, rfl, ?_⟩⟩
    rw [hremaining, lines_of_notMem hnone hempty, nextLine, if_neg (Nat.not_lt.mpr hlen), remaining]
    simp [hend]

/-- A pending read has room, and what it brings fits the buffer. -/
theorem Feed.Inv.room {feed : Feed} (h : feed.Inv) {room : Nat} (hroom : feed.waiting = some room) :
    0 < room ∧ ∀ count, feed.Brings room count →
      (feed.reader.buffered ++ feed.input.take count).length ≤ MAX_INPUT_FRAME_BYTES + 1 := by
  obtain ⟨-, hlen, rfl⟩ := h.waiting room hroom
  refine ⟨?_, fun count hcount => ?_⟩
  · have : 0 < READ_CHUNK_BYTES := by decide
    omega
  · have := hcount.1
    rw [List.length_append, List.length_take]
    omega

theorem Feed.Inv.step {feed feed' : Feed} (h : feed.Inv) {action : FeedAction}
    {report : FeedReport} (hn : feed.next action = some (report, feed')) :
    feed.Advances report feed' := by
  cases action with
  | nextFrame =>
      simp only [next, Option.ite_none_right_eq_some, Option.some.injEq] at hn
      obtain ⟨-, hn⟩ := hn
      have := advance_advances h.bounded
      rwa [hn] at this
  | read count =>
      simp only [next, Option.bind_eq_some_iff, Option.ite_none_right_eq_some,
        Option.some.injEq] at hn
      obtain ⟨room, hroom, hbrings, hn⟩ := hn
      obtain ⟨hpos, hfits⟩ := h.room hroom
      rw [receive] at hn
      split_ifs at hn with hzero
      · obtain ⟨hnone, hlen, -⟩ := h.waiting room hroom
        have hend : feed.input = [] := (hbrings.2.2 hzero).resolve_left (Nat.ne_of_gt hpos)
        cases hn
        exact atEnd_advances hnone hlen hend
      · -- the bytes move from the stream to the buffer
        let moved : Feed :=
          { feed with
            reader := ⟨feed.reader.buffered ++ feed.input.take count⟩
            input := feed.input.drop count }
        have hsame : moved.remaining = feed.remaining := by
          simp only [moved, remaining, List.append_assoc, List.take_append_drop]
        have hadv : moved.Advances report feed' := by
          have := @advance_advances moved (hfits count hbrings)
          rwa [hn] at this
        exact ⟨hadv.inv, hadv.quiet, hsame ▸ hadv.line⟩
  | fail error =>
      simp only [next, Option.map_eq_some_iff, Prod.mk.injEq] at hn
      obtain ⟨room, -, rfl, rfl⟩ := hn
      exact ⟨⟨h.bounded, nofun⟩, nofun, .inl ⟨rfl, rfl⟩⟩
  | drop =>
      simp only [next, Option.map_eq_some_iff, Prod.mk.injEq] at hn
      obtain ⟨room, -, rfl, rfl⟩ := hn
      exact ⟨⟨h.bounded, nofun⟩, nofun, .inl ⟨rfl, rfl⟩⟩

/-! ## Runs -/

theorem Feed.Inv.takes {x : Transition.Event Feed FeedAction FeedReport} (hx : framing.Takes x)
    (h : x.pre.Inv) : x.pre.Advances x.report x.post := h.step hx

theorem Feed.run_inv {feed feed' : Feed}
    {tr : List (Transition.Event Feed FeedAction FeedReport)} (h : framing.Run feed tr feed')
    (hinv : feed.Inv) : feed'.Inv :=
  h.invariant (fun _ hx hi => (Inv.takes hx hi).inv) hinv

/-- The results of `next_frame` are the lines of the stream, in order. -/
theorem Feed.run_results {stream : List UInt8}
    {tr : List (Transition.Event Feed FeedAction FeedReport)} {feed : Feed}
    (h : framing.Run (.start stream) tr feed) :
    tr.filterMap (fun x => x.report.result?) =
      Transition.produce nextLine (tr.filterMap fun x => x.report.result?).length
        (lines NEWLINE stream) := by
  have hline : ∀ x, framing.Takes x → x.pre.Inv →
      (x.report.result? = none ∧ remaining x.post = remaining x.pre) ∨
        ∃ result, x.report.result? = some result ∧
          nextLine (remaining x.pre) = (result, remaining x.post) :=
    fun x hx hi => (Inv.takes hx hi).line
  exact h.produces (fun _ hx hi => (Inv.takes hx hi).inv) hline (start_inv stream)

/-- A pending read can end. -/
theorem Feed.brings_some (feed : Feed) {room : Nat} (h : 0 < room) :
    ∃ count, feed.Brings room count := by
  cases hinput : feed.input with
  | nil => exact ⟨0, Nat.zero_le _, Nat.zero_le _, fun _ => .inr hinput⟩
  | cons byte rest => exact ⟨1, h, by simp [hinput], nofun⟩

/-- A read that does not end the call takes bytes off the stream. -/
theorem Feed.read_shrinks {feed feed' : Feed} {count : Nat}
    (h : feed.next (.read count) = some (.silent, feed')) :
    feed'.input.length + 1 ≤ feed.input.length := by
  simp only [next, Option.bind_eq_some_iff, Option.ite_none_right_eq_some, Option.some.injEq] at h
  obtain ⟨room, -, ⟨-, hcount, -⟩, hreceive⟩ := h
  rw [receive] at hreceive
  split_ifs at hreceive with hzero
  · cases hreceive
  · have hadvance : ∀ moved : Feed, moved.advance.2.input = moved.input := by
      intro moved
      simp only [advance]
      split <;> rfl
    have hinput : feed'.input = feed.input.drop count :=
      (congrArg (fun p => p.2.input) hreceive).symm.trans (hadvance _)
    rw [hinput, List.length_drop]
    omega

/-- A call that is left to read returns before it has read more often than there are bytes. -/
theorem Feed.reads_bounded {feed feed' : Feed}
    {tr : List (Transition.Event Feed FeedAction FeedReport)} (h : framing.Run feed tr feed')
    (hreads : ∀ x ∈ tr, (∃ count, x.act = .read count) ∧ x.report = .silent) :
    tr.length ≤ feed.input.length := by
  induction h with
  | nil _ => exact Nat.zero_le _
  | @cons x tr feed' hx _ ih =>
      obtain ⟨⟨count, hact⟩, hreport⟩ := hreads x List.mem_cons_self
      have hnext : x.pre.next (.read count) = some (.silent, x.post) := by
        rw [← hact, ← hreport]
        exact hx
      have hrest := ih fun y hy => hreads y (List.mem_cons_of_mem _ hy)
      have hstep := read_shrinks hnext
      rw [List.length_cons]
      omega

/-- The reader returns a result or waits. -/
theorem Feed.advance_settles (feed : Feed) (h : feed.advance.1 ≠ .panicked) :
    (∃ result, feed.advance.1 = .returned result) ∧ feed.advance.2.waiting = none ∨
      feed.advance.1 = .silent ∧ ∃ room, feed.advance.2.waiting = some room := by
  rw [advance] at h ⊢
  split
  · exact .inl ⟨⟨_, rfl⟩, rfl⟩
  · exact .inr ⟨rfl, _, rfl⟩
  next heq =>
    rw [heq] at h
    exact absurd rfl h

/-- A step is a result, or the reader waits after it. -/
theorem Feed.read_settles {feed feed' : Feed} (hinv : feed.Inv) {count : Nat}
    {report : FeedReport} (h : feed.next (.read count) = some (report, feed')) :
    (∃ result, report = .returned result) ∧ feed'.waiting = none ∨
      report = .silent ∧ ∃ room, feed'.waiting = some room := by
  have hquiet := (hinv.step h).quiet
  simp only [next, Option.bind_eq_some_iff, Option.ite_none_right_eq_some, Option.some.injEq] at h
  obtain ⟨room, -, -, hreceive⟩ := h
  rw [receive] at hreceive
  split_ifs at hreceive
  · cases hreceive
    exact .inl ⟨⟨_, rfl⟩, rfl⟩
  · have hsettles := advance_settles
      { feed with
        reader := ⟨feed.reader.buffered ++ feed.input.take count⟩
        input := feed.input.drop count }
    rw [hreceive] at hsettles
    exact hsettles hquiet

/-- A pending call can be read to its result. -/
theorem Feed.Inv.returns {feed : Feed} (hinv : feed.Inv) {room : Nat}
    (hroom : feed.waiting = some room) :
    ∃ tr feed' result, framing.Run feed tr feed' ∧ feed'.Inv ∧ feed'.waiting = none ∧
      tr.filterMap (fun x => x.report.result?) = [result] := by
  induction hn : feed.input.length using Nat.strong_induction_on generalizing feed room with
  | _ n ih =>
      obtain ⟨count, hbrings⟩ := feed.brings_some (hinv.room hroom).1
      have hnext : feed.next (.read count) = some (feed.receive count) := by
        simp only [next, hroom, Option.bind_some, hbrings, ↓reduceIte]
      generalize feed.receive count = p at hnext
      obtain ⟨report, feed₁⟩ := p
      have hinv₁ := (hinv.step hnext).inv
      have hrun : framing.Run feed [⟨feed, .read count, report, feed₁⟩] feed₁ := .of_next hnext
      rcases read_settles hinv hnext with ⟨⟨result, rfl⟩, hidle⟩ | ⟨rfl, room₁, hroom₁⟩
      · exact ⟨_, feed₁, result, hrun, hinv₁, hidle, rfl⟩
      · have hless := read_shrinks hnext
        obtain ⟨tr, feed', result, htr, hinv', hidle, hresult⟩ :=
          ih feed₁.input.length (by omega) hinv₁ hroom₁ rfl
        exact ⟨_, feed', result, hrun.append htr, hinv', hidle, hresult⟩

/-- The reader can be called until it has returned any number of results. -/
theorem Feed.exists_results (stream : List UInt8) (n : Nat) :
    ∃ tr feed, framing.Run (.start stream) tr feed ∧ feed.Inv ∧ feed.waiting = none ∧
      (tr.filterMap fun x => x.report.result?).length = n := by
  induction n with
  | zero => exact ⟨[], _, .nil _, start_inv stream, rfl, rfl⟩
  | succ n ih =>
      obtain ⟨tr, feed, hrun, hinv, hidle, hlen⟩ := ih
      have hnext : feed.next .nextFrame = some feed.advance := by
        simp only [next, hidle, Option.isNone_none, ↓reduceIte]
      have hsettles := advance_settles feed (hinv.step hnext).quiet
      generalize feed.advance = p at hnext hsettles
      obtain ⟨report, feed₁⟩ := p
      have hinv₁ := (hinv.step hnext).inv
      have hcall : framing.Run feed [⟨feed, .nextFrame, report, feed₁⟩] feed₁ := .of_next hnext
      have hrun₁ := hrun.append hcall
      rcases hsettles with ⟨⟨result, rfl⟩, hidle₁⟩ | ⟨rfl, room, hroom⟩
      · refine ⟨_, feed₁, hrun₁, hinv₁, hidle₁, ?_⟩
        rw [List.filterMap_append, List.length_append, hlen]
        rfl
      · obtain ⟨tr', feed', result, htr', hinv', hidle', hresult⟩ := hinv₁.returns hroom
        refine ⟨_, feed', hrun₁.append htr', hinv', hidle', ?_⟩
        rw [List.filterMap_append, List.filterMap_append, hresult, List.length_append,
          List.length_append, hlen]
        rfl

/-- `next_frame` hands out the lines of its stream, however the stream is cut into reads
and wherever a call is dropped and made again. -/
theorem Feed.framing_exact {stream : List UInt8}
    {tr : List (Transition.Event Feed FeedAction FeedReport)} {feed : Feed}
    (h : framing.Run (.start stream) tr feed) :
    (tr.filterMap (fun x => x.report.result?) =
      Transition.produce nextLine (tr.filterMap fun x => x.report.result?).length
        (lines NEWLINE stream)) ∧
    feed.reader.buffered.length ≤ MAX_INPUT_FRAME_BYTES + 1 ∧
    (∀ x ∈ tr, x.report ≠ .panicked) ∧
    (∀ x ∈ tr, x.act = .read 0 → x.pre.input = []) ∧
    ∀ room, feed.waiting = some room →
      0 < room ∧ (∃ count, feed.Brings room count) ∧
      (∀ count, feed.Brings room count →
        (feed.reader.buffered ++ feed.input.take count).length ≤ MAX_INPUT_FRAME_BYTES + 1) ∧
      ∀ tr' feed', framing.Run feed tr' feed' →
        (∀ x ∈ tr', (∃ count, x.act = .read count) ∧ x.report = .silent) →
        tr'.length ≤ feed.input.length := by
  have hstart := start_inv stream
  have hinv := run_inv h hstart
  refine ⟨run_results h, hinv.bounded, fun x hx => ?_, fun x hx hzero => ?_,
    fun room hroom => ?_⟩
  · obtain ⟨_, _, _, hbefore, htakes, _⟩ := h.of_mem hx
    exact (Inv.takes htakes (run_inv hbefore hstart)).quiet
  · obtain ⟨_, _, _, hbefore, htakes, _⟩ := h.of_mem hx
    have hpre := run_inv hbefore hstart
    have hnext : x.pre.next (.read 0) = some (x.report, x.post) := hzero ▸ htakes
    simp only [next, Option.bind_eq_some_iff, Option.ite_none_right_eq_some] at hnext
    obtain ⟨room, hroom, hbrings, -⟩ := hnext
    exact (hbrings.2.2 rfl).resolve_left (Nat.ne_of_gt (hpre.room hroom).1)
  · obtain ⟨hpos, hfits⟩ := hinv.room hroom
    exact ⟨hpos, feed.brings_some hpos, hfits, fun _ _ hr hreads => reads_bounded hr hreads⟩

/-- A line that comes in two reads with a call dropped between them, and an unended one. -/
theorem Feed.framing_exact_dropped :
    ∃ tr feed, framing.Run (.start [97, 98, 13, 10, 99]) tr feed ∧
      tr.filterMap (fun x => x.report.result?) =
        [.ok (some [97, 98]), .ok (some [99]), .ok none] ∧
      feed.reader.buffered.length ≤ 16385 := by
  obtain ⟨tr, feed, hrun, -, htest⟩ := framing.exec_any (.start [97, 98, 13, 10, 99])
    [.nextFrame, .read 1, .drop, .nextFrame, .read 4, .nextFrame, .read 0, .nextFrame, .read 0]
    (fun q => (q.1.filterMap fun x => x.report.result?).length = 3) (by decide +kernel)
  obtain ⟨hresults, hbuffer, -⟩ := Feed.framing_exact hrun
  rw [of_decide_eq_true htest] at hresults
  exact ⟨tr, feed, hrun, hresults.trans (by decide), hbuffer⟩

end Paraegox.Stdio
