/-
  How long a stream runs.

  Each step that yields leaves fewer words to look at (`remaining_lt_of_next`), so a stream
  yields no more items than words were left (`length_items_le_remaining`).  A stream that
  yields nothing stays as it is (`next_after_of_le`), and one that yields an error yields
  nothing from then on (`next_after_error`).

  Main statement: runs end, stay ended and move only on success (`run_ends`).
-/
import Spirv.Proofs.Stream.Division

namespace Spirv

namespace Stream

/-- A stream yields no more than one item for each word that is left. -/
theorem length_items_le_remaining (s : Stream) : s.items.length ≤ s.remaining := by
  induction hlen : s.remaining using Nat.strongRecOn generalizing s with
  | _ n ih =>
    cases hs : s.next with
    | none =>
      rw [items_of_next_none hs]
      exact Nat.zero_le n
    | some p =>
      obtain ⟨r, t⟩ := p
      have hlt := remaining_lt_of_next hs
      have htail := ih t.remaining (by omega) t rfl
      rw [items_of_next_some hs, List.length_cons]
      omega

theorem remaining_startingAt (words : List Word) (order : ByteOrder) (start : Nat) :
    (startingAt words order start).remaining = words.length - start := by
  rw [remaining, startingAt, List.length_drop]
  rfl

/-- An instruction that is yielded has a word. -/
theorem one_le_wordCount_of_next {s t : Stream} {inst : Instruction}
    (h : s.next = some (.ok inst, t)) : 1 ≤ inst.wordCount := by
  cases next_eq_some_iff.1 h with
  | passes hwf => exact hwf.one_le_wordCount

/-! ## One call after the others -/

theorem after_succ_of_next {s t : Stream} {n : Nat} {r : Except Error Instruction}
    (h : (s.after n).next = some (r, t)) : s.after (n + 1) = t := by
  rw [after_add, after_succ_of_next_some h, after]

/-- A call that yields nothing changes nothing. -/
theorem after_succ_of_none {s : Stream} {n : Nat} (h : (s.after n).next = none) :
    s.after (n + 1) = s.after n := by
  rw [after_add, after_of_next_none h]

/-- **What has ended stays ended.**  After a call that yields nothing no call yields
    anything. -/
theorem next_after_of_le {s : Stream} {n m : Nat} (h : (s.after n).next = none) (hle : n ≤ m) :
    (s.after m).next = none := by
  obtain ⟨d, rfl⟩ := Nat.exists_eq_add_of_le hle
  rw [after_add, after_of_next_none h, h]

/-- An error is the last that a stream yields. -/
theorem next_after_error {s t : Stream} {n : Nat} {e : Error}
    (h : (s.after n).next = some (.error e, t)) : (s.after (n + 1)).next = none := by
  rw [after_succ_of_next h]
  exact next_of_failed (offset_of_next_error h).2

theorem next_after_of_length_le {s : Stream} {n : Nat} (h : s.items.length ≤ n) :
    (s.after n).next = none := by
  rw [← Option.map_eq_none_iff, ← getElem?_items]
  exact List.getElem?_eq_none h

end Stream

open Spirv.Stream (startingAt)

/-- **Runs end, stay ended and move only on success.**  A stream from any start in any words
    yields, call by call, its items and then nothing.  These are no more than the words from
    the start on, and an error can only be the last of them.  A call that yields an instruction
    moves the offset by its length, which is at least one word.  A call that yields an error or
    nothing leaves the offset where it is, and no later call yields anything. -/
theorem run_ends (words : List Word) (order : ByteOrder) (start : Nat) :
    let s := startingAt words order start
    (∀ n, (s.after n).next.map Prod.fst = s.items[n]?) ∧
    s.items.length ≤ words.length - start ∧
    (∀ n, words.length - start ≤ n → (s.after n).next = none) ∧
    (∀ i e, s.items[i]? = some (.error e) → i + 1 = s.items.length) ∧
    (∀ n inst t, (s.after n).next = some (.ok inst, t) →
      1 ≤ inst.wordCount ∧
        (s.after (n + 1)).offset = (s.after n).offset + inst.wordCount) ∧
    ∀ n, ((s.after n).next = none ∨ ∃ e t, (s.after n).next = some (.error e, t)) →
      (s.after (n + 1)).offset = (s.after n).offset ∧ ∀ m, n < m → (s.after m).next = none := by
  intro s
  have hlen : s.items.length ≤ words.length - start := by
    rw [← Stream.remaining_startingAt words order start]
    exact s.length_items_le_remaining
  refine ⟨?_, hlen, ?_, ?_, ?_, ?_⟩
  · intro n
    exact (s.getElem?_items n).symm
  · intro n hn
    exact Stream.next_after_of_length_le (Nat.le_trans hlen hn)
  · intro i e hi
    obtain ⟨t, hnext⟩ := Stream.exists_next_of_getElem?_items hi
    have hlt := (List.getElem?_eq_some_iff.1 hi).1
    have hlast : s.items[i + 1]? = none := by
      rw [Stream.getElem?_items, Stream.next_after_error hnext, Option.map_none]
    have hle := List.getElem?_eq_none_iff.1 hlast
    omega
  · intro n inst t h
    rw [Stream.after_succ_of_next h]
    exact ⟨Stream.one_le_wordCount_of_next h, (Stream.offset_of_next_ok h).1⟩
  · rintro n (h | ⟨e, t, h⟩)
    · refine ⟨congrArg Stream.offset (Stream.after_succ_of_none h), ?_⟩
      intro m hm
      exact Stream.next_after_of_le h (Nat.le_of_lt hm)
    · refine ⟨?_, ?_⟩
      · rw [Stream.after_succ_of_next h]
        exact (Stream.offset_of_next_error h).1
      · intro m hm
        exact Stream.next_after_of_le (Stream.next_after_error h) hm

end Spirv
