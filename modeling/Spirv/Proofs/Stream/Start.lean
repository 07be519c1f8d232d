/-
  Where a stream starts.

  The place of a stream is counted and never decides anything: `moved n s`, the stream `s`
  with `n` more words counted in front of it, takes the same steps, and only the places that
  its errors name are moved on (`next_moved`).  A stream that starts at an offset is one over
  the words from there, moved (`startingAt_eq_moved`), so the two yield the same in this
  sense (`items_startingAt`, `collect_startingAt`).

  As long as no error has been met, a stream is the one that starts at its offset
  (`startingAt_offset_after`), and what it yields is what is left of the items
  (`items_after`).
-/
import Spirv.Proofs.Stream.Append
import Spirv.Proofs.Stream.Place

namespace Spirv.Stream

/-- The stream with `n` more words counted in front of it. -/
def moved (n : Nat) (s : Stream) : Stream :=
  { s with offset := s.offset + n }

@[simp] theorem offset_moved (s : Stream) (n : Nat) : (s.moved n).offset = s.offset + n := rfl

/-- **Starting at an offset is dropping words.**  Only the count of the words differs. -/
theorem startingAt_eq_moved (words : List Word) (order : ByteOrder) (start : Nat) :
    startingAt words order start = (ofWords (words.drop start) order).moved start := by
  unfold ofWords startingAt moved
  rw [List.drop_zero, Nat.zero_add]

/-! ## Steps of a moved stream -/

theorem Step.moved {s t : Stream} {r : Except Error Instruction} (h : Step s r t) (n : Nat) :
    Step (s.moved n) (r.mapError (Error.moved n)) (t.moved n) := by
  cases h with
  | @passes order offset rest inst hwf =>
    have hstep : Step ⟨Instruction.encode order inst ++ rest, order, offset + n, false⟩ (.ok inst)
        ⟨rest, order, offset + n + inst.wordCount, false⟩ := .passes hwf
    rw [Nat.add_right_comm] at hstep
    exact hstep
  | stops hdef => exact .stops (hdef.moved n)

/-- **A step does not depend on the place.**  A moved stream yields the same, with its error
    moved, and the stream behind is moved as well. -/
theorem next_moved (n : Nat) (s : Stream) :
    (s.moved n).next = s.next.map (Prod.map (Except.mapError (Error.moved n)) (moved n)) := by
  cases hs : s.next with
  | none =>
    have hend := next_eq_none_iff.1 hs
    exact next_eq_none_iff.2 hend
  | some p =>
    obtain ⟨r, t⟩ := p
    exact next_eq_some_iff.2 ((next_eq_some_iff.1 hs).moved n)

theorem items_startingAt (words : List Word) (order : ByteOrder) (start : Nat) :
    (startingAt words order start).items =
      (ofWords (words.drop start) order).items.map (Except.mapError (Error.moved start)) := by
  rw [startingAt_eq_moved, items_image (next_moved start)]

theorem collect_startingAt (words : List Word) (order : ByteOrder) (start : Nat) :
    (startingAt words order start).collect =
      (decodeAll (words.drop start) order).mapError (Error.moved start) := by
  obtain ⟨insts, rest, defect, d⟩ := exists_division order 0 (words.drop start)
  have hmoved := d.moved start
  rw [Nat.zero_add] at hmoved
  have hcollect : (startingAt words order start).collect =
      verdict insts (defect.map (Error.moved start)) := hmoved.collect_eq
  have hdecode : decodeAll (words.drop start) order = verdict insts defect := d.collect_eq
  rw [hcollect, hdecode]
  cases defect <;> rfl

/-- Behind the words there is nothing to yield and nowhere to go. -/
theorem next_startingAt_of_length_le {words : List Word} {start : Nat}
    (h : words.length ≤ start) (order : ByteOrder) : (startingAt words order start).next = none := by
  rw [startingAt, List.drop_eq_nil_of_le h]
  exact next_nil order start false

/-! ## Going on -/

/-- What a stream yields after `n` calls is what is left of its items. -/
theorem items_after (n : Nat) (s : Stream) : (s.after n).items = s.items.drop n := by
  apply List.ext_getElem?
  intro i
  rw [List.getElem?_drop, getElem?_items, getElem?_items, after_add]

/-- A stream in its words that has met no error is the one that starts at its offset. -/
theorem Within.eq_startingAt {words : List Word} {order : ByteOrder} {start : Nat} {s : Stream}
    (w : Within words order start s) (h : s.failed = false) :
    startingAt words order s.offset = s := by
  rw [startingAt, ← w.rest_eq, ← w.order_eq, ← h]

/-- A stream that has not failed still has not after calls that yielded no error. -/
theorem failed_after {s : Stream} {n : Nat} (h : s.failed = false)
    (hok : ∀ e, .error e ∉ s.items.take n) : (s.after n).failed = false := by
  induction n generalizing s with
  | zero => exact h
  | succ n ih =>
    cases hs : s.next with
    | none =>
      rw [after_of_next_none hs]
      exact h
    | some p =>
      obtain ⟨r, t⟩ := p
      rw [items_of_next_some hs, List.take_succ_cons] at hok
      rw [after_succ_of_next_some hs]
      cases next_eq_some_iff.1 hs with
      | passes => exact ih rfl fun e he => hok e (List.mem_cons_of_mem _ he)
      | @stops _ _ _ e => exact absurd List.mem_cons_self (hok e)

/-- **A stream can be resumed.**  After calls that yielded no error, the stream that starts at
    the offset is the one that was left. -/
theorem startingAt_offset_after {words : List Word} {order : ByteOrder} {start n : Nat}
    (hok : ∀ e, .error e ∉ (startingAt words order start).items.take n) :
    startingAt words order ((startingAt words order start).after n).offset =
      (startingAt words order start).after n :=
  ((within_startingAt words order start).after n).eq_startingAt (failed_after rfl hok)

end Spirv.Stream
