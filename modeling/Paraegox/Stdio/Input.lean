import Paraegox.Stdio.Reader
import Paraegox.Text.JsonBytes
import Paraegox.Wire.Decode

/-!
# Commands off the input

`next_command` decodes the line that `next_frame` hands out.  A stream of JSON objects,
one to a line, is read back line by line: compact JSON holds no byte below a blank, so
neither a newline nor a carriage return.
-/

namespace Paraegox

/-- A `u8`. -/
def Json.toU8 : Json → Option UInt8
  | .num n => if n < 2 ^ 8 then some (UInt8.ofNat n) else none
  | _ => none

theorem Json.toU8_toNat (v : UInt8) : toU8 (.num v.toNat) = some v := by
  rw [toU8, if_pos v.toNat_lt, UInt8.ofNat_toNat]

namespace Stdio

open Agent (SessionId TurnId)
open Json

/-! ## Commands -/

def InputFrame.ofJson (j : Json) : Option InputFrame := do
  let fields ← j.toFields
  match ← textField fields "type" with
  | "submit" =>
      if onlyFields fields ["type", "v", "session_id", "turn_id", "input"] then do
        let v ← (field fields "v").bind toU8
        let sessionId ← (field fields "session_id").bind SessionId.ofJson
        let turnId ← (field fields "turn_id").bind TurnId.ofJson
        let input ← textField fields "input"
        some (.submit v sessionId turnId input)
      else none
  | "cancel" =>
      if onlyFields fields ["type", "v", "session_id", "turn_id"] then do
        let v ← (field fields "v").bind toU8
        let sessionId ← (field fields "session_id").bind SessionId.ofJson
        let turnId ← (field fields "turn_id").bind TurnId.ofJson
        some (.cancel v sessionId turnId)
      else none
  | "shutdown" =>
      if onlyFields fields ["type", "v", "session_id"] then do
        let v ← (field fields "v").bind toU8
        let sessionId ← (field fields "session_id").bind SessionId.ofJson
        some (.shutdown v sessionId)
      else none
  | _ => none

/-- `next_command`, on what `next_frame` returns. -/
def nextCommand : FrameResult → Except IoError (Option InputFrame)
  | .error error => .error error
  | .ok none => .ok none
  | .ok (some frame) =>
      match (decode frame).bind InputFrame.ofJson with
      | some command => .ok (some command)
      | none => .error ⟨.invalidData, "invalid JSONL command"⟩

/-! ## Streams of JSON -/

/-- JSON values, one to a line. -/
def jsonLines (values : List Json) : List UInt8 :=
  values.flatMap fun value => value.encode ++ [NEWLINE]

theorem newline_notMem_encode (value : Json) : NEWLINE ∉ value.encode := by
  intro h
  have hle := le_of_mem_encode value NEWLINE h
  exact absurd hle (by decide)

theorem stripCarriageReturn_encode (value : Json) :
    stripCarriageReturn value.encode = value.encode := by
  refine if_neg ?_
  intro h
  have hle := le_of_mem_encode value CARRIAGE_RETURN (List.mem_of_getLast? h)
  exact absurd hle (by decide)

theorem lines_jsonLines_append (values : List Json) (rest : List UInt8) :
    lines NEWLINE (jsonLines values ++ rest) = values.map encode ++ lines NEWLINE rest := by
  have hmap : jsonLines values = (values.map encode).flatMap fun line => line ++ [NEWLINE] := by
    rw [jsonLines, List.flatMap_map]
  rw [hmap]
  refine lines_flatMap_append (fun line hline => ?_) rest
  obtain ⟨value, -, rfl⟩ := List.mem_map.mp hline
  exact newline_notMem_encode value

theorem lines_jsonLines (values : List Json) :
    lines NEWLINE (jsonLines values) = values.map encode := by
  have hlines := lines_jsonLines_append values []
  rwa [List.append_nil, lines_nil, List.append_nil] at hlines

/-- Call after call hands out value after value, and then the end of the stream. -/
theorem getElem?_produce_encode {values : List Json}
    (h : ∀ value ∈ values, value.encodedLen ≤ MAX_INPUT_FRAME_BYTES) {n k : Nat}
    {result : FrameResult}
    (hk : (Transition.produce nextLine n (values.map encode))[k]? = some result) :
    result = .ok (values[k]?.map encode) := by
  induction n generalizing values k with
  | zero => cases hk
  | succ n ih =>
      cases values with
      | nil =>
          cases k with
          | zero => exact (Option.some.inj hk).symm
          | succ k =>
              have hrest := ih h hk
              simpa using hrest
      | cons value values =>
          have hlen : ¬ MAX_INPUT_FRAME_BYTES < value.encode.length := by
            rw [length_encode]
            exact Nat.not_lt.mpr (h value List.mem_cons_self)
          rw [List.map_cons, Transition.produce, nextLine, if_neg hlen] at hk
          cases k with
          | zero =>
              rw [List.getElem?_cons_zero, stripCarriageReturn_encode] at hk
              exact (Option.some.inj hk).symm
          | succ k =>
              exact ih (fun v hv => h v (List.mem_cons_of_mem _ hv)) hk

/-- `BoundedJsonlReader` on a stream of JSON objects that fit, however it is cut into reads. -/
theorem Feed.results_jsonLines {values : List Json}
    (h : ∀ value ∈ values, value.encodedLen ≤ MAX_INPUT_FRAME_BYTES)
    {tr : List (Transition.Event Feed FeedAction FeedReport)} {feed : Feed}
    (hrun : framing.Run (.start (jsonLines values)) tr feed) {k : Nat} {result : FrameResult}
    (hk : (tr.filterMap fun x => x.report.result?)[k]? = some result) :
    result = .ok (values[k]?.map encode) := by
  rw [run_results hrun, lines_jsonLines] at hk
  exact getElem?_produce_encode h hk

/-- A call hands out the value behind those that were handed out before. -/
theorem getElem?_produce_append {before : List Json}
    (hbefore : ∀ value ∈ before, value.encodedLen ≤ MAX_INPUT_FRAME_BYTES) {value : Json}
    (h : value.encodedLen ≤ MAX_INPUT_FRAME_BYTES) {rest : List (List UInt8)} {n : Nat}
    {result : FrameResult}
    (hk : (Transition.produce nextLine n
      (before.map encode ++ value.encode :: rest))[before.length]? = some result) :
    result = .ok (some value.encode) := by
  have hfits (v : Json) (hv : v.encodedLen ≤ MAX_INPUT_FRAME_BYTES) :
      ¬ MAX_INPUT_FRAME_BYTES < v.encode.length := by
    rw [length_encode]
    exact Nat.not_lt.mpr hv
  induction before generalizing n with
  | nil =>
      cases n with
      | zero => cases hk
      | succ n =>
          rw [List.map_nil, List.nil_append, Transition.produce, nextLine, if_neg (hfits value h),
            stripCarriageReturn_encode] at hk
          exact (Option.some.inj hk).symm
  | cons first before ih =>
      cases n with
      | zero => cases hk
      | succ n =>
          have hfirst := hfits first (hbefore first List.mem_cons_self)
          rw [List.map_cons, List.cons_append, Transition.produce, nextLine, if_neg hfirst] at hk
          exact ih (fun v hv => hbefore v (List.mem_cons_of_mem _ hv)) hk

/-- `BoundedJsonlReader` on a stream with such an object behind others, whatever follows. -/
theorem Feed.result_jsonLine {before : List Json}
    (hbefore : ∀ value ∈ before, value.encodedLen ≤ MAX_INPUT_FRAME_BYTES) {value : Json}
    (h : value.encodedLen ≤ MAX_INPUT_FRAME_BYTES) {rest : List UInt8}
    {tr : List (Transition.Event Feed FeedAction FeedReport)} {feed : Feed}
    (hrun : framing.Run (.start (jsonLines before ++ (value.encode ++ NEWLINE :: rest))) tr feed)
    {result : FrameResult}
    (hk : (tr.filterMap fun x => x.report.result?)[before.length]? = some result) :
    result = .ok (some value.encode) := by
  rw [run_results hrun, lines_jsonLines_append,
    lines_append_cons (newline_notMem_encode value)] at hk
  exact getElem?_produce_append hbefore h hk

/-- A line that holds a command is read as that command. -/
theorem nextCommand_encode {value : Json} {command : InputFrame}
    (h : InputFrame.ofJson value = some command) :
    nextCommand (.ok (some value.encode)) = .ok (some command) := by
  rw [nextCommand, decode_encode, Option.bind_some, h]

end Stdio

end Paraegox
