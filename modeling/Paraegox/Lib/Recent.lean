import Mathlib.Data.List.DropRight

/-!
# The most recent entries

A bounded queue that drops its oldest entry when it is full.  It holds the last of
all the entries that were ever pushed, so its history is the list that is not bounded.
-/

namespace Recent

variable {α β : Type*} (limit : Nat)

/-- Push an entry, and drop the oldest one where there is no room. -/
def push (queue : List α) (a : α) : List α :=
  (if queue.length = limit then queue.tail else queue) ++ [a]

theorem rtake_map (f : α → β) (history : List α) :
    (history.map f).rtake limit = (history.rtake limit).map f := by
  rw [List.rtake, List.rtake, List.length_map, List.map_drop]

variable {limit}

/-- A push is a push to the history. -/
theorem push_rtake (h : 0 < limit) (history : List α) (a : α) :
    push limit (history.rtake limit) a = (history ++ [a]).rtake limit := by
  obtain ⟨n, rfl⟩ := Nat.exists_eq_succ_of_ne_zero (Nat.ne_of_gt h)
  rw [push, List.rtake_concat_succ, List.append_left_inj, List.rtake, List.rtake,
    List.length_drop]
  split_ifs with hfull
  · -- one more is dropped
    have hlong : history.length - (n + 1) + 1 = history.length - n := by omega
    rw [List.tail_drop, hlong]
  · have hshort : history.length - (n + 1) = history.length - n := by omega
    rw [hshort]

/-- So are pushes one after the other. -/
theorem foldl_push (h : 0 < limit) (history entries : List α) :
    entries.foldl (push limit) (history.rtake limit) = (history ++ entries).rtake limit := by
  induction entries generalizing history with
  | nil => rw [List.foldl_nil, List.append_nil]
  | cons a entries ih =>
      rw [List.foldl_cons, push_rtake h, ih, List.append_assoc, List.singleton_append]

end Recent
