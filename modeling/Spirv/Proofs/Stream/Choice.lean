/-
  What a stream chooses to copy.

  A copy is told an operation and a length, and checks the header against them; a stream
  reads the two off the header.  Both take over the well-formed instruction in front of the
  words, where there is one (`next_eq_ok_iff`, `Instruction.copy_eq_ok_iff_front`), so a
  stream yields exactly what can be copied in some way (`next_startingAt_eq_ok_iff`).

  Where nothing can be copied they differ in whom they blame: a stream the words
  (`Defect.not_isInternal`), a copy its caller (`Instruction.isInternal_of_copy`).

  Main statement: `next_pinned_by_copy`.
-/
import Spirv.Proofs.Stream.Step

namespace Spirv

open Instruction (copy encode)

namespace Stream

variable {words : List Word} {order : ByteOrder} {offset : Nat} {inst : Instruction} {t : Stream}

/-- A step yields an instruction exactly where a well-formed one stands in front. -/
theorem next_eq_ok_iff :
    (⟨words, order, offset, false⟩ : Stream).next = some (.ok inst, t) ↔
      inst.WellFormed ∧ ∃ rest, words = encode order inst ++ rest ∧
        t = ⟨rest, order, offset + inst.wordCount, false⟩ := by
  constructor
  · intro h
    cases next_eq_some_iff.1 h with
    | passes hwf => exact ⟨hwf, _, rfl, rfl⟩
  · rintro ⟨hwf, rest, rfl, rfl⟩
    exact next_encode_append hwf order offset rest

/-- **A stream yields what can be copied.**  A step yields an instruction exactly when it is a
    copy of the words in front, declared in some way with at least one word, and then the
    stream goes on behind as many words as were declared. -/
theorem next_startingAt_eq_ok_iff :
    (startingAt words order offset).next = some (.ok inst, t) ↔
      ∃ op count, 0 < count.toNat ∧ copy (words.drop offset) op count order = .ok inst ∧
        t = startingAt words order (offset + count.toNat) := by
  rw [startingAt, next_eq_ok_iff]
  constructor
  · rintro ⟨hwf, rest, hwords, rfl⟩
    have hcount := hwf.toNat_ofNat_wordCount
    have hpos : 0 < (UInt16.ofNat inst.wordCount).toNat := by
      rw [hcount]
      exact hwf.one_le_wordCount
    refine ⟨inst.opcode, UInt16.ofNat inst.wordCount, hpos, ?_, ?_⟩
    · rw [Instruction.copy_eq_ok_iff_front hpos]
      exact ⟨hwf, rfl, hcount.symm, rest, hwords⟩
    · rw [startingAt, hcount, ← List.drop_drop, hwords, Instruction.drop_encode_append]
  · rintro ⟨op, count, hpos, hcopy, rfl⟩
    obtain ⟨hwf, -, hcount, rest, hwords⟩ := (Instruction.copy_eq_ok_iff_front hpos).1 hcopy
    refine ⟨hwf, rest, hwords, ?_⟩
    rw [startingAt, ← hcount, ← List.drop_drop, hwords, Instruction.drop_encode_append]

/-- A defect is one of the words. -/
theorem Defect.not_isInternal {e : Error} (h : Defect order offset words e) :
    e.isInternal = false := by
  cases h <;> rfl

end Stream

open Spirv.Stream (ofWords startingAt)

/-- **The check of a copy pins the choice of a stream.**  Words that are at least one can be
    copied, as at least one word, for at most one declared operation and length.  A stream
    over them yields an instruction exactly when they can be copied, and it is this copy; the
    stream then stands behind as many words as were declared.  Where they cannot be copied the
    stream yields an error of the words, and every such copy fails with an internal one. -/
theorem next_pinned_by_copy {words : List Word} (hne : words ≠ []) (order : ByteOrder) :
    (∀ op count inst op' count' inst', 0 < count.toNat → 0 < count'.toNat →
      copy words op count order = .ok inst → copy words op' count' order = .ok inst' →
      op = op' ∧ count = count') ∧
    (∀ inst t, (ofWords words order).next = some (.ok inst, t) ↔
      ∃ op count, 0 < count.toNat ∧ copy words op count order = .ok inst ∧
        t = startingAt words order count.toNat) ∧
    ((∀ op count inst, 0 < count.toNat → copy words op count order ≠ .ok inst) →
      (∃ e t, (ofWords words order).next = some (.error e, t) ∧ e.isInternal = false) ∧
      ∀ op count, 0 < count.toNat →
        ∃ e, copy words op count order = .error e ∧ e.isInternal = true) := by
  have hchoice : ∀ inst t, (ofWords words order).next = some (.ok inst, t) ↔
      ∃ op count, 0 < count.toNat ∧ copy words op count order = .ok inst ∧
        t = startingAt words order count.toNat := by
    intro inst t
    rw [ofWords, Stream.next_startingAt_eq_ok_iff, List.drop_zero]
    simp only [Nat.zero_add]
  refine ⟨?_, hchoice, ?_⟩
  · intro op count inst op' count' inst' hpos hpos' h h'
    exact Instruction.copy_unique hpos hpos' h h'
  · intro hnone
    refine ⟨?_, ?_⟩
    · rcases Stream.exists_encode_or_defect order 0 hne with ⟨inst, rest, hwf, hwords⟩ | ⟨e, he⟩
      · have hnext := Stream.next_encode_append hwf order 0 rest
        rw [← hwords] at hnext
        obtain ⟨op, count, hpos, hcopy, -⟩ := (hchoice _ _).1 hnext
        exact absurd hcopy (hnone op count inst hpos)
      · exact ⟨e, _, Stream.next_of_defect he, he.not_isInternal⟩
    · intro op count hpos
      cases hcopy : copy words op count order with
      | ok inst => exact absurd hcopy (hnone op count inst hpos)
      | error e => exact ⟨e, rfl, Instruction.isInternal_of_copy hcopy⟩

/-- Big-endian words that are copied as an instruction of three words, with one more behind
    them, and words that declare more than there are. -/
theorem next_pinned_by_copy_three :
    let words : List Word := [0x15000300, 0x08000000, 0, 7]
    let broken : List Word := [0x15000500, 0x08000000]
    (ofWords words .big).next =
        some (.ok ⟨.opTypeInt, [0x00030015, 8, 0]⟩, startingAt words .big 3) ∧
      ∀ op count, 0 < count.toNat →
        ∃ e, copy broken op count .big = .error e ∧ e.isInternal = true := by
  intro words broken
  refine ⟨?_, ?_⟩
  · have hne : words ≠ [] := by decide
    have h := next_pinned_by_copy hne .big
    exact (h.2.1 _ _).2 ⟨.opTypeInt, 3, by decide, by decide, rfl⟩
  · have hne : broken ≠ [] := by decide
    have h := next_pinned_by_copy hne .big
    refine (h.2.2 ?_).2
    intro op count inst hpos hcopy
    have hnext := (h.2.1 inst _).2 ⟨op, count, hpos, hcopy, rfl⟩
    have hbroken : (ofWords broken .big).next =
        some (.error (.truncated 0 5 2), ⟨broken, .big, 0, true⟩) := by decide
    rw [hbroken] at hnext
    cases hnext

end Spirv
