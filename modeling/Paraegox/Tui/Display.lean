import Paraegox.Kernel.Identity
import Paraegox.Tui.App
import Paraegox.Tui.Draft

/-!
# What the terminal chat shows of a text

`bounded_display_text` keeps room for an ellipsis before it knows that it needs one.  So a
text is shown as it should be unless it is one that only just fits.
-/

namespace Paraegox.Tui

open Agent (SessionId)

/-- A text as it is shown where there is room: no control character but the newline. -/
def displayText (value : String) : List Char := value.toList.map displayChar

/-- A display that cuts a text only where it must. -/
structure CutsOnlyIfLong (value : String) (maxBytes : Nat) (output : String) : Prop where
  fits : output.utf8ByteSize ≤ maxBytes
  plain : ∀ c ∈ output.toList, isControl c → c = '\n'
  whole : String.utf8Len (displayText value) ≤ maxBytes → output.toList = displayText value
  cut : maxBytes < String.utf8Len (displayText value) →
    ∃ front, front <+: displayText value ∧ output.toList = front ++ ['…']

/-! ## Characters -/

theorem displayChar_plain (c : Char) (h : isControl (displayChar c)) : displayChar c = '\n' := by
  rw [displayChar] at h ⊢
  split_ifs at h ⊢ with hnewline hcontrol
  · exact hnewline
  · cases h
  · exact absurd h hcontrol

theorem displayChar_of_plain {c : Char} (h : isControl c → c = '\n') : displayChar c = c := by
  rw [displayChar]
  split_ifs with hnewline hcontrol
  · rfl
  · exact absurd (h hcontrol) hnewline
  · rfl

theorem displayChar_eq_ellipsis {c : Char} : displayChar c = '…' ↔ c = '…' := by
  constructor
  · intro h
    rw [displayChar] at h
    split_ifs at h with hnewline hcontrol
    · exact h
    · exact absurd h (by decide)
    · exact h
  · rintro rfl
    rfl

theorem displayText_plain (value : String) : ∀ c ∈ displayText value, isControl c → c = '\n' := by
  intro c hc hcontrol
  obtain ⟨d, -, rfl⟩ := List.mem_map.mp hc
  exact displayChar_plain d hcontrol

theorem displayText_of_plain {value : String} (h : ∀ c ∈ value.toList, isControl c → c = '\n') :
    displayText value = value.toList := by
  rw [displayText]
  exact (List.map_congr_left fun c hc => displayChar_of_plain (h c hc)).trans (List.map_id _)

/-- An ellipsis at the end of a text is its own. -/
theorem getLast?_displayText (value : String) :
    (displayText value).getLast? = some '…' ↔ value.toList.getLast? = some '…' := by
  rw [displayText, List.getLast?_map, Option.map_eq_some_iff]
  constructor
  · rintro ⟨c, hc, heq⟩
    rw [hc, displayChar_eq_ellipsis.mp heq]
  · intro h
    exact ⟨_, h, displayChar_eq_ellipsis.mpr rfl⟩

/-! ## The loop -/

/-- The loop takes the characters there is room for beside an ellipsis. -/
theorem displayChars_eq (maxBytes : Nat) (output : String) (text : List Char)
    (hroom : output.utf8ByteSize ≤ maxBytes - 3) :
    (displayChars maxBytes output text).1.toList = output.toList ++
        sliceTo (text.map displayChar) (maxBytes - 3 - output.utf8ByteSize) ∧
      ((displayChars maxBytes output text).2 = true ↔
        maxBytes - 3 < output.utf8ByteSize + String.utf8Len (text.map displayChar)) := by
  induction text generalizing output with
  | nil => simp [displayChars, sliceTo, hroom]
  | cons c text ih =>
      rw [displayChars, List.map_cons, sliceTo, String.utf8Len_cons]
      by_cases hc : output.utf8ByteSize + (displayChar c).utf8Size > maxBytes - 3
      · have hstop : ¬ (displayChar c).utf8Size ≤ maxBytes - 3 - output.utf8ByteSize := by omega
        rw [if_pos hc, if_neg hstop, List.append_nil]
        refine ⟨rfl, ?_⟩
        simp only [true_iff]
        omega
      · have hgo : (displayChar c).utf8Size ≤ maxBytes - 3 - output.utf8ByteSize := by omega
        have hsize : (output.push (displayChar c)).utf8ByteSize =
            output.utf8ByteSize + (displayChar c).utf8Size := String.utf8ByteSize_push
        have hleft : maxBytes - 3 - (output.utf8ByteSize + (displayChar c).utf8Size) =
            maxBytes - 3 - output.utf8ByteSize - (displayChar c).utf8Size := Nat.sub_add_eq _ _ _
        obtain ⟨htext, hflag⟩ := ih (output.push (displayChar c)) (by omega)
        rw [hsize, hleft, String.toList_push, List.append_assoc, List.singleton_append] at htext
        rw [hsize, Nat.add_assoc, Nat.add_comm (displayChar c).utf8Size] at hflag
        rw [if_neg hc, if_pos hgo]
        exact ⟨htext, hflag⟩

theorem sliceTo_eq_self {text : List Char} {n : Nat} (h : String.utf8Len text ≤ n) :
    sliceTo text n = text :=
  (sliceTo_front text n).eq_of_length_le (front_sliceTo List.prefix_rfl h).length_le

theorem boundedDisplayText_toList (value : String) (maxBytes : Nat) :
    (boundedDisplayText value maxBytes).toList =
      if String.utf8Len (displayText value) ≤ maxBytes - 3 then displayText value
      else sliceTo (displayText value) (maxBytes - 3) ++ ['…'] := by
  obtain ⟨htext, hflag⟩ := displayChars_eq maxBytes "" value.toList (Nat.zero_le _)
  have hempty : ("" : String).utf8ByteSize = 0 := rfl
  rw [hempty, Nat.zero_add] at hflag
  rw [hempty, Nat.sub_zero, String.toList_empty, List.nil_append] at htext
  have hdef : boundedDisplayText value maxBytes =
      if (displayChars maxBytes "" value.toList).2 then
        (displayChars maxBytes "" value.toList).1.push '…'
      else (displayChars maxBytes "" value.toList).1 := rfl
  rw [hdef, displayText]
  by_cases hlong : maxBytes - 3 < String.utf8Len (value.toList.map displayChar)
  · rw [if_pos (hflag.mpr hlong), if_neg (Nat.not_le.mpr hlong), String.toList_push, htext]
  · rw [if_neg (mt hflag.mp hlong), if_pos (Nat.not_lt.mp hlong), htext,
      sliceTo_eq_self (Nat.not_lt.mp hlong)]

/-! ## Where a display is as it should be -/

/-- The cut text and its ellipsis. -/
theorem utf8Len_cut_le (text : List Char) {maxBytes : Nat} (hroom : 3 ≤ maxBytes) :
    String.utf8Len (sliceTo text (maxBytes - 3) ++ ['…']) ≤ maxBytes := by
  have hcut := utf8Len_sliceTo_le text (maxBytes - 3)
  have hellipsis : String.utf8Len ['…'] = 3 := rfl
  rw [String.utf8Len_append, hellipsis]
  omega

/-- A cut text is whole again only if an ellipsis was all that was cut off. -/
theorem cut_eq_self {text : List Char} {n : Nat} (hlong : n < String.utf8Len text)
    (hfits : String.utf8Len text ≤ n + 3) :
    sliceTo text n ++ ['…'] = text ↔ text.getLast? = some '…' := by
  constructor
  · intro h
    rw [← h, List.getLast?_concat]
  · intro h
    obtain ⟨front, rfl⟩ := List.getLast?_eq_some_iff.mp h
    have hellipsis : String.utf8Len ['…'] = 3 := rfl
    rw [String.utf8Len_append, hellipsis] at hlong hfits
    have hfront : front <+: sliceTo (front ++ ['…']) n :=
      front_sliceTo (List.prefix_append _ _) (by omega)
    have hshort := utf8Len_sliceTo_le (front ++ ['…']) n
    rcases List.prefix_concat_iff.mp (sliceTo_front (front ++ ['…']) n) with hwhole | hcut
    · rw [hwhole, String.utf8Len_append, hellipsis] at hshort
      omega
    · rw [hcut.eq_of_length_le hfront.length_le]

theorem boundedDisplayText_le (value : String) {maxBytes : Nat} (hroom : 3 ≤ maxBytes) :
    (boundedDisplayText value maxBytes).utf8ByteSize ≤ maxBytes := by
  rw [← String.ofList_toList (s := boundedDisplayText value maxBytes), String.utf8ByteSize_ofList,
    boundedDisplayText_toList]
  split_ifs with hshort
  · omega
  · exact utf8Len_cut_le _ hroom

theorem boundedDisplayText_plain (value : String) (maxBytes : Nat) :
    ∀ c ∈ (boundedDisplayText value maxBytes).toList, isControl c → c = '\n' := by
  intro c hc hcontrol
  rw [boundedDisplayText_toList] at hc
  split_ifs at hc with hshort
  · exact displayText_plain value c hc hcontrol
  · rcases List.mem_append.mp hc with hc | hc
    · exact displayText_plain value c ((sliceTo_front _ _).subset hc) hcontrol
    · rw [List.mem_singleton.mp hc] at hcontrol
      cases hcontrol

/-- The one failing kind: a text that fits, but not beside an ellipsis it has no need of. -/
theorem cutsOnlyIfLong_iff (value : String) {maxBytes : Nat} (hroom : 3 ≤ maxBytes) :
    CutsOnlyIfLong value maxBytes (boundedDisplayText value maxBytes) ↔
      String.utf8Len (displayText value) ≤ maxBytes - 3 ∨
        maxBytes < String.utf8Len (displayText value) ∨ value.toList.getLast? = some '…' := by
  have hlist := boundedDisplayText_toList value maxBytes
  have hfits := boundedDisplayText_le value hroom
  have hplain := boundedDisplayText_plain value maxBytes
  by_cases hshort : String.utf8Len (displayText value) ≤ maxBytes - 3
  · rw [if_pos hshort] at hlist
    refine ⟨fun _ => .inl hshort, fun _ => ⟨hfits, hplain, fun _ => hlist, ?_⟩⟩
    intro hlong
    omega
  · rw [if_neg hshort] at hlist
    rcases Nat.lt_or_ge maxBytes (String.utf8Len (displayText value)) with hlong | hmiddle
    · refine ⟨fun _ => .inr (.inl hlong), fun _ => ⟨hfits, hplain, ?_, fun _ => ?_⟩⟩
      · intro hwhole
        omega
      · exact ⟨_, sliceTo_front _ _, hlist⟩
    · have hcut := cut_eq_self (Nat.not_le.mp hshort) (by omega)
      rw [getLast?_displayText] at hcut
      constructor
      · intro h
        exact .inr (.inr (hcut.mp (hlist.symm.trans (h.whole hmiddle))))
      · intro h
        have hlast : value.toList.getLast? = some '…' := by
          rcases h with h | h | h
          · exact absurd h hshort
          · omega
          · exact h
        refine ⟨hfits, hplain, fun _ => hlist.trans (hcut.mpr hlast), ?_⟩
        intro hlong
        omega

/-! ## What the chat shows in full -/

/-- A text of plain characters is shown in full unless it only just fits. -/
theorem boundedDisplayText_eq_iff {value : String} {maxBytes : Nat} (hroom : 3 ≤ maxBytes)
    (hplain : ∀ c ∈ value.toList, isControl c → c = '\n') (hfits : value.utf8ByteSize ≤ maxBytes) :
    boundedDisplayText value maxBytes = value ↔
      value.utf8ByteSize ≤ maxBytes - 3 ∨ value.toList.getLast? = some '…' := by
  have hsize : String.utf8Len (displayText value) = value.utf8ByteSize := by
    rw [displayText_of_plain hplain, ← String.utf8ByteSize_ofList, String.ofList_toList]
  have hiff := cutsOnlyIfLong_iff value hroom
  rw [hsize] at hiff
  constructor
  · intro h
    refine or_iff_not_imp_left.mpr fun hlong => ?_
    have hlist := boundedDisplayText_toList value maxBytes
    rw [h, hsize, if_neg hlong] at hlist
    rw [hlist, List.getLast?_concat]
  · intro h
    have hcuts := hiff.mpr (h.imp_right .inr)
    have hwhole := hcuts.whole (hsize.trans_le hfits)
    rw [displayText_of_plain hplain] at hwhole
    exact String.toList_inj.mp hwhole

/-- A node id is shown in full unless its last three bytes only just fit. -/
theorem target_eq_iff (nodeId : NodeId) (endpoint : String) (sessionId : SessionId) :
    (ChatApp.new nodeId.value endpoint sessionId).target = nodeId.value ↔
      nodeId.value.utf8ByteSize ≤ 61 := by
  have hchar : ∀ c ∈ nodeId.value.toList, c.isAlphanum || c == '-' || c == '_' :=
    List.all_eq_true.mp nodeId.valid.2.2
  have hplain : ∀ c ∈ nodeId.value.toList, isControl c → c = '\n' := by
    intro c hc hcontrol
    rw [nodeId.valid.not_isControl hc] at hcontrol
    cases hcontrol
  have hlast : nodeId.value.toList.getLast? ≠ some '…' := by
    intro h
    have hellipsis := hchar _ (List.mem_of_getLast? h)
    revert hellipsis
    decide
  exact (boundedDisplayText_eq_iff (by decide) hplain nodeId.valid.1.2).trans
    (or_iff_left hlast)

/-- The answer of the model as the chat keeps it. -/
theorem finishTurn_final (app : ChatApp) (content : String) :
    (app.finishTurn (.final content)).messages.getLast?.map ChatMessage.content =
      some (boundedDisplayText content MAX_MESSAGE_BYTES) := by
  simp [ChatApp.finishTurn, ChatApp.pushMessage, ChatApp.setNotice]

/-- A display cuts only what is too long, but for the texts that only just fit: of the node ids
those of 62 bytes or more, and of the answers those with less than three bytes to spare. -/
theorem display_cuts_only_if_long (value : String) (maxBytes : Nat) (nodeId : NodeId)
    (endpoint : String) (sessionId : SessionId) (app : ChatApp) (content : String) :
    (3 ≤ maxBytes →
      (CutsOnlyIfLong value maxBytes (boundedDisplayText value maxBytes) ↔
        String.utf8Len (displayText value) ≤ maxBytes - 3 ∨
          maxBytes < String.utf8Len (displayText value) ∨ value.toList.getLast? = some '…')) ∧
    ((ChatApp.new nodeId.value endpoint sessionId).target = nodeId.value ↔
      nodeId.value.utf8ByteSize ≤ 61) ∧
    ((∀ c ∈ content.toList, isControl c → c = '\n') → content.utf8ByteSize ≤ 16 * 1024 →
      ((app.finishTurn (.final content)).messages.getLast?.map ChatMessage.content =
          some content ↔
        content.utf8ByteSize ≤ 16 * 1024 - 3 ∨ content.toList.getLast? = some '…')) := by
  refine ⟨cutsOnlyIfLong_iff value, target_eq_iff nodeId endpoint sessionId, ?_⟩
  intro hplain hfits
  rw [finishTurn_final, Option.some.injEq]
  exact boundedDisplayText_eq_iff (by decide) hplain hfits

/-- Two short lines, and a text that its limit has room for. -/
theorem display_cuts_only_if_long_short :
    CutsOnlyIfLong "tab\tand" 16 (boundedDisplayText "tab\tand" 16) ∧
      ((ChatApp.new "node" "tcp/127.0.0.1:7447" ⟨⟨1⟩⟩).finishTurn
        (.final "one\ntwo")).messages.getLast?.map ChatMessage.content = some "one\ntwo" := by
  have h := display_cuts_only_if_long "tab\tand" 16 ⟨"node", by decide⟩ "tcp/127.0.0.1:7447"
    ⟨⟨1⟩⟩ (.new "node" "tcp/127.0.0.1:7447" ⟨⟨1⟩⟩) "one\ntwo"
  have hplain : ∀ c ∈ "one\ntwo".toList, isControl c → c = '\n' := by
    intro c hc hcontrol
    have hall : "one\ntwo".toList.all (fun c => !isControl c || c == '\n') = true := by
      decide +kernel
    simpa [hcontrol] using List.all_eq_true.mp hall c hc
  exact ⟨(h.1 (by decide)).mpr (.inl (by decide)),
    (h.2.2 hplain (by decide)).mpr (.inl (by decide))⟩

/-- A node id of 64 letters, in the 64 bytes it fits into. -/
theorem node_id_loses_its_tail : ∃ nodeId : NodeId,
    nodeId.value = String.ofList (List.replicate 64 'a') ∧
    nodeId.value.utf8ByteSize = 64 ∧
    (ChatApp.new nodeId.value "tcp/127.0.0.1:7447" ⟨⟨1⟩⟩).target =
      String.ofList (List.replicate 61 'a' ++ ['…']) ∧
    ¬ CutsOnlyIfLong nodeId.value 64 (boundedDisplayText nodeId.value 64) := by
  refine ⟨⟨String.ofList (List.replicate 64 'a'), by decide +kernel⟩, rfl, by decide +kernel,
    by decide +kernel, ?_⟩
  rw [cutsOnlyIfLong_iff _ (by decide)]
  decide +kernel

end Paraegox.Tui
