import Mathlib.Data.List.Basic

/-!
# The lines of a text

`List.splitOn` cuts a text at every separator.  Its last piece is what follows
the last separator, and that is a line only when there is something in it.
-/

variable {α : Type} [DecidableEq α]

/-- The lines of a text: a separator ends a line, and the end of the text ends a line
that is not empty. -/
def lines (sep : α) (text : List α) : List (List α) :=
  let pieces := text.splitOn sep
  if pieces.getLast? = some [] then pieces.dropLast else pieces

variable {sep : α}

@[simp] theorem lines_nil : lines sep [] = [] := rfl

/-- A text without a separator is one line. -/
theorem lines_of_notMem {line : List α} (h : sep ∉ line) (hne : line ≠ []) :
    lines sep line = [line] := by
  rw [lines, List.splitOn_eq_singleton h, List.getLast?_singleton]
  exact if_neg fun heq => hne (Option.some.inj heq)

/-- The first separator ends the first line. -/
theorem lines_append_cons {line : List α} (h : sep ∉ line) (text : List α) :
    lines sep (line ++ sep :: text) = line :: lines sep text := by
  have hne := List.splitOn_ne_nil sep text
  rw [lines, lines, List.splitOn_append_cons_self_of_not_mem h, List.getLast?_cons,
    List.dropLast_cons_of_ne_nil hne]
  cases hlast : (text.splitOn sep).getLast? with
  | none => exact absurd (List.getLast?_eq_none_iff.mp hlast) hne
  | some last =>
      rw [Option.getD_some]
      split_ifs <;> rfl

/-- Lines that are each ended by a separator, and what follows them. -/
theorem lines_flatMap_append {ls : List (List α)} (h : ∀ line ∈ ls, sep ∉ line) (text : List α) :
    lines sep ((ls.flatMap fun line => line ++ [sep]) ++ text) = ls ++ lines sep text := by
  induction ls with
  | nil => rfl
  | cons line ls ih =>
      rw [List.flatMap_cons, List.append_assoc, List.append_assoc, List.singleton_append,
        lines_append_cons (h line List.mem_cons_self),
        ih fun l hl => h l (List.mem_cons_of_mem _ hl), List.cons_append]

/-- A line goes on until its separator comes. -/
theorem lines_append {front : List α} (h : sep ∉ front) (hne : front ≠ []) (text : List α) :
    ∃ rest others, lines sep (front ++ text) = (front ++ rest) :: others := by
  by_cases hmem : sep ∈ text
  · obtain ⟨rest, text', rfl, hrest⟩ := List.eq_append_cons_of_mem hmem
    have hline : sep ∉ front ++ rest := by
      rw [List.mem_append]
      exact fun hm => hm.elim h hrest
    exact ⟨rest, lines sep text', by rw [← List.append_assoc, lines_append_cons hline]⟩
  · have hline : sep ∉ front ++ text := by
      rw [List.mem_append]
      exact fun hm => hm.elim h hmem
    exact ⟨text, [], lines_of_notMem hline (List.append_ne_nil_of_left_ne_nil hne text)⟩

/-- The position of the first separator cuts off the first line. -/
theorem findIdx?_split {text : List α} {i : Nat}
    (h : text.findIdx? (fun b => b = sep) = some i) :
    ∃ front rest, text = front ++ sep :: rest ∧ sep ∉ front ∧ front.length = i := by
  induction text generalizing i with
  | nil => cases h
  | cons b text ih =>
      rw [List.findIdx?_cons] at h
      split at h
      · next hb =>
          cases h
          exact ⟨[], text, by simpa using hb, List.not_mem_nil, rfl⟩
      · next hb =>
          obtain ⟨j, hj, rfl⟩ := Option.map_eq_some_iff.mp h
          obtain ⟨front, rest, rfl, hfront, rfl⟩ := ih hj
          refine ⟨b :: front, rest, rfl, ?_, rfl⟩
          rw [List.mem_cons, not_or]
          exact ⟨fun heq => hb (by simp [heq]), hfront⟩

/-- What is no separator is in one of the pieces. -/
theorem mem_splitOn {c : α} (hne : c ≠ sep) {text : List α} (h : c ∈ text) :
    ∃ piece ∈ text.splitOn sep, c ∈ piece := by
  induction text with
  | nil => exact absurd h List.not_mem_nil
  | cons d text ih =>
      obtain ⟨piece, pieces, hsplit⟩ := List.exists_cons_of_ne_nil (List.splitOn_ne_nil sep text)
      rw [hsplit] at ih
      rw [List.splitOn_cons_eq_if_modifyHead, hsplit]
      split
      · next hd =>
          have hmem := (List.mem_cons.mp h).resolve_left fun heq =>
            hne (heq.trans (by simpa using hd))
          obtain ⟨other, hother, hc⟩ := ih hmem
          exact ⟨other, List.mem_cons_of_mem _ hother, hc⟩
      · rw [List.modifyHead_cons]
        rcases List.mem_cons.mp h with rfl | hmem
        · exact ⟨c :: piece, List.mem_cons_self, List.mem_cons_self⟩
        · obtain ⟨other, hother, hc⟩ := ih hmem
          rcases List.mem_cons.mp hother with rfl | hother
          · exact ⟨d :: other, List.mem_cons_self, List.mem_cons_of_mem _ hc⟩
          · exact ⟨other, List.mem_cons_of_mem _ hother, hc⟩
