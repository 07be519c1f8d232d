/-
  Positions as line ends and bytes.

  A position is moved one character at a time.  The line is moved by line ends only
  (`line_foldl_step`), and on one line the column is moved by bytes (`foldl_step_of_not_mem`);
  so a position is told by the line ends in front of it and by the bytes behind the last of
  them (`behind_append`).
-/
import Mathlib
import Spirv.Position

namespace Spirv.Position

/-- Every line end moves to the next line, and nothing else does. -/
theorem line_foldl_step (cs : List Char) (p : Position) :
    (cs.foldl step p).line = p.line + cs.count '\n' := by
  induction cs generalizing p with
  | nil => rfl
  | cons c cs ih =>
    rw [List.foldl_cons, ih, List.count_cons, step]
    by_cases hc : c = '\n'
    · simp [hc, Nat.add_comm, Nat.add_left_comm]
    · simp [hc]

/-- On one line a position moves by bytes. -/
theorem foldl_step_of_not_mem {cs : List Char} (h : '\n' ∉ cs) (p : Position) :
    cs.foldl step p = ⟨p.line, p.column + (cs.map Char.utf8Size).sum⟩ := by
  induction cs generalizing p with
  | nil => rfl
  | cons c cs ih =>
    obtain ⟨hc, hcs⟩ := not_or.1 (mt List.mem_cons.2 h)
    rw [List.foldl_cons, ih hcs, step, if_neg (Ne.symm hc), List.map_cons, List.sum_cons,
      Nat.add_assoc]

/-- Behind a line end the column is zero. -/
theorem behind_of_getLast? {lines : List Char} (h : ∀ c ∈ lines.getLast?, c = '\n') :
    behind lines = ⟨lines.count '\n' + 1, 0⟩ := by
  rcases List.eq_nil_or_concat lines with rfl | ⟨front, c, rfl⟩
  · rfl
  · obtain rfl : c = '\n' := h c (by simp)
    rw [behind, List.concat_eq_append, List.foldl_append, List.count_append]
    simp [step, line_foldl_step, start, Nat.add_comm]

/-- **Positions.**  Behind whole lines and the beginning of another, the position has the
    number of the other, and as many columns as its beginning has bytes. -/
theorem behind_append {lines line : List Char} (hlines : ∀ c ∈ lines.getLast?, c = '\n')
    (hline : '\n' ∉ line) :
    behind (lines ++ line) = ⟨lines.count '\n' + 1, (line.map Char.utf8Size).sum⟩ := by
  have hstart := behind_of_getLast? hlines
  rw [behind] at hstart
  rw [behind, List.foldl_append, hstart, foldl_step_of_not_mem hline, Nat.zero_add]

-- A letter of two bytes between quotation marks.
example : behind ['{', '\n', ' ', '"', 'é', '"'] = ⟨2, 5⟩ := by decide

end Spirv.Position
