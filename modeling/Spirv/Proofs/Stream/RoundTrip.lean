/-
  Writing and reading are inverse.

  - `decodeAll_assemble`: reading what has been written gives back the instructions;
  - `words_instructions_startingAt`: writing what has been read gives back the words, as
    far as the reading went, and it went to the end unless there was an error.

  The first direction looks at the lines that were written, and the operands may be any
  words.  The second looks at words that may be malformed anywhere.
-/
import Spirv.Proofs.Assembly
import Spirv.Proofs.Stream.Division

namespace Spirv

open Instruction (encodeAll encodeAll_eq_map length_encodeAll Covers)

/-! ## Reading what was written -/

/-- Lines divide into their instructions and nothing else. -/
theorem Line.division_assemble (order : ByteOrder) (offset : Nat) (lines : List Line) :
    Stream.Division order offset ((assemble lines).map order.toHost) (lines.map instruction) []
      none := by
  refine ⟨fun inst h => wellFormed_of_mem_map h, ?_, .finished⟩
  rw [List.append_nil, encodeAll_map_instruction]

/-- **Reading undoes writing.**  The words of any lines, written in any order, decode to
    exactly the instructions of the lines; a stream over them yields the same and stops at
    the end of the words. -/
theorem decodeAll_assemble (order : ByteOrder) (lines : List Line) :
    let words := (Line.assemble lines).map order.toHost
    let insts := lines.map Line.instruction
    decodeAll words order = .ok insts ∧
      insts.map (fun inst => (inst.opcode, inst.wordCount, inst.operands)) =
        lines.map (fun line => (line.opcode, 1 + line.operands.length, line.operands)) ∧
      (Stream.ofWords words order).items = insts.map .ok ∧
      (Stream.ofWords words order).atEnd.offset = words.length := by
  intro words insts
  have d := Line.division_assemble order 0 lines
  refine ⟨d.collect_eq, ?_, d.items_eq.trans (List.append_nil _), ?_⟩
  · rw [List.map_map]
    apply List.map_congr_left
    intro line _
    simp only [Function.comp_apply, Line.opcode_instruction, Line.wordCount_instruction,
      Line.operands_instruction, Line.wordCount]
  · show (Stream.mk words order 0 false).atEnd.offset = words.length
    rw [d.atEnd_eq, Nat.zero_add, Line.encodeAll_map_instruction]

/-! ## Writing what was read -/

/-- Instructions that make up all of the words cover each of their places once. -/
theorem Instruction.existsUnique_covers_of_encodeAll {order : ByteOrder} {insts : List Instruction}
    {words : List Word} (h : encodeAll order insts = words) {p : Nat} (hp : p < words.length) :
    ∃! i, Covers insts p i := by
  apply Instruction.existsUnique_covers
  rwa [← length_encodeAll order insts, h]

/-- **Writing undoes reading.**  From any place in any words, the instructions that a
    stream yields, written again, are the words from that place to where the stream stops;
    it stops at the end of the words exactly if it yields no error.  So words that decode
    are those of the instructions, and each of them belongs to one instruction. -/
theorem words_instructions_startingAt {words : List Word} {start : Nat} (order : ByteOrder)
    (hstart : start ≤ words.length) :
    let s := Stream.startingAt words order start
    let stop := s.atEnd.offset
    (s.instructions.flatMap Instruction.words).map order.toHost = words.extract start stop ∧
      start ≤ stop ∧ stop ≤ words.length ∧
      (∀ inst ∈ s.instructions, 1 ≤ inst.wordCount) ∧
      (stop = words.length ↔ ∀ e, .error e ∉ s.items) ∧
      ∀ insts, decodeAll words order = .ok insts →
        encodeAll order insts = words ∧ ∀ p < words.length, ∃! i, Covers insts p i := by
  intro s stop
  obtain ⟨insts, rest, defect, d⟩ := Stream.exists_division order start (words.drop start)
  have hinsts : s.instructions = insts := d.instructions_eq
  have hitems : s.items = Stream.outcomes insts defect := d.items_eq
  have hstop : stop = start + (encodeAll order insts).length :=
    congrArg Stream.offset d.atEnd_eq
  have hlen : words.length - start = (encodeAll order insts).length + rest.length := by
    rw [← List.length_drop, d.words_eq, List.length_append]
  refine ⟨?_, by omega, by omega, ?_, ?_, ?_⟩
  · rw [hinsts, ← encodeAll_eq_map, hstop, List.extract_eq_take_drop, Nat.add_sub_cancel_left,
      d.words_eq, List.take_left]
  · intro inst hinst
    rw [hinsts] at hinst
    exact (d.wellFormed inst hinst).one_le_wordCount
  · have hnone : (∀ e, .error e ∉ s.items) ↔ defect = none := by
      simp only [hitems, Stream.error_mem_outcomes]
      exact Option.eq_none_iff_forall_ne_some.symm
    rw [hnone, ← d.ending.eq_nil_iff, ← List.length_eq_zero_iff]
    omega
  · intro found hfound
    have hwords := encodeAll_of_decodeAll hfound
    exact ⟨hwords, fun p hp => Instruction.existsUnique_covers_of_encodeAll hwords hp⟩

/-- A big-endian stream whose second instruction has an operand like a header, and whose
    third wants more words than there are: it stops in front of the third. -/
theorem words_instructions_startingAt_one :
    let words : List Word := [7, 0x00000100, 0x15000200, 0x00000100, 0x00000500, 3]
    let s := Stream.startingAt words .big 1
    1 ≤ words.length ∧
      s.items = [.ok ⟨.opNop, [0x00010000]⟩, .ok ⟨.opTypeInt, [0x00020015, 0x00010000]⟩,
        .error (.truncated 4 5 2)] ∧
      s.atEnd.offset = 4 ∧ ¬ (∀ e, .error e ∉ s.items) ∧
      (s.instructions.flatMap Instruction.words).map ByteOrder.big.toHost =
        words.extract 1 s.atEnd.offset := by
  intro words s
  let second : Stream := ⟨[0x15000200, 0x00000100, 0x00000500, 3], .big, 2, false⟩
  let third : Stream := ⟨[0x00000500, 3], .big, 4, false⟩
  let last : Stream := ⟨[0x00000500, 3], .big, 4, true⟩
  have hfirst : s.next = some (.ok ⟨.opNop, [0x00010000]⟩, second) := by decide
  have hsecond : second.next = some (.ok ⟨.opTypeInt, [0x00020015, 0x00010000]⟩, third) := by
    decide
  have hthird : third.next = some (.error (.truncated 4 5 2), last) := by decide
  have hend : third.drain = ([.error (.truncated 4 5 2)], last) := by
    rw [Stream.drain_of_next_some hthird, Stream.items, Stream.atEnd,
      Stream.drain_of_next_none rfl]
  have hdrain : s.drain = ([.ok ⟨.opNop, [0x00010000]⟩,
      .ok ⟨.opTypeInt, [0x00020015, 0x00010000]⟩, .error (.truncated 4 5 2)], last) := by
    rw [Stream.drain_of_next_some hfirst, Stream.items, Stream.atEnd,
      Stream.drain_of_next_some hsecond, Stream.items, Stream.atEnd, hend]
  have hoffset : s.atEnd.offset = 4 := by
    rw [Stream.atEnd, hdrain]
  obtain ⟨hwritten, -, -, -, hstop, -⟩ :=
    @words_instructions_startingAt words 1 .big (by decide)
  refine ⟨by decide, congrArg Prod.fst hdrain, hoffset, ?_, hwritten⟩
  rw [← hstop, hoffset]
  decide

end Spirv
