/-
  One step of a stream, against the format of instructions.

  `Defect order offset words e` says that the words, which are at least one, do not begin
  with a well-formed instruction, and that `e` is the reason.  The declared length is
  judged first: an operation that does not exist is the reason only where the declared
  words are there.

  - words that are at least one begin with a well-formed instruction or have a defect
    (`exists_encode_or_defect`);
  - in front of a well-formed instruction a step yields it and moves past it, whatever
    follows (`next_encode_append`);
  - at a defect a step yields the error and stays (`next_of_defect`).

  Together these are all that a step does (`Step`, `next_eq_some_iff`); what is proved of
  whole runs rests on them and opens neither `next` nor `decode`.
-/
import Spirv.Proofs.Instruction.Copy
import Spirv.Stream

namespace Spirv.Stream

/-- The header that a raw word of a stream in the given order holds. -/
def headerOf (order : ByteOrder) (raw : Word) : Instruction.Header :=
  .ofWord (order.toHost raw)

/-- Why the words from `offset` on do not begin with a well-formed instruction. -/
inductive Defect (order : ByteOrder) (offset : Nat) : List Word → Error → Prop where
  /-- The header declares no words. -/
  | wordCountZero {raw : Word} {tail : List Word}
      (hcount : (headerOf order raw).wordCount.toNat = 0) :
      Defect order offset (raw :: tail) (.wordCountZero offset)
  /-- The header declares more words than there are, whatever the operation. -/
  | truncated {raw : Word} {tail : List Word}
      (hcount : (raw :: tail).length < (headerOf order raw).wordCount.toNat) :
      Defect order offset (raw :: tail)
        (.truncated offset (headerOf order raw).wordCount.toNat (raw :: tail).length)
  /-- The declared words are there, but no operation has the code. -/
  | unknownOpcode {raw : Word} {tail : List Word}
      (hpos : 0 < (headerOf order raw).wordCount.toNat)
      (hcount : (headerOf order raw).wordCount.toNat ≤ (raw :: tail).length)
      (hcode : ∀ op : Opcode, op.code ≠ (headerOf order raw).code) :
      Defect order offset (raw :: tail) (.unknownOpcode (headerOf order raw).code.toUInt32)

/-! ## The front of words -/

/-- Words that are at least one begin with a well-formed instruction or have a defect. -/
theorem exists_encode_or_defect (order : ByteOrder) (offset : Nat) {words : List Word}
    (h : words ≠ []) :
    (∃ inst rest, inst.WellFormed ∧ words = Instruction.encode order inst ++ rest) ∨
      ∃ e, Defect order offset words e := by
  obtain ⟨raw, tail, rfl⟩ := List.exists_cons_of_ne_nil h
  by_cases hzero : (headerOf order raw).wordCount.toNat = 0
  · exact .inr ⟨_, .wordCountZero hzero⟩
  by_cases hlen : (raw :: tail).length < (headerOf order raw).wordCount.toNat
  · exact .inr ⟨_, .truncated hlen⟩
  cases hcode : Opcode.ofCode? (headerOf order raw).code with
  | none =>
    exact .inr ⟨_, .unknownOpcode (by omega) (by omega) (Opcode.ofCode?_eq_none_iff.1 hcode)⟩
  | some op =>
    have hop := Opcode.ofCode?_eq_some_iff.1 hcode
    have hfirst : Instruction.firstHeader? order (raw :: tail) =
        some ⟨(headerOf order raw).wordCount, op.code⟩ := by
      rw [hop]
      rfl
    -- What the header declares can be copied, and a copy is what the words begin with.
    have hcopy := Instruction.copy_eq_ok_iff.2 ⟨Nat.not_lt.1 hlen, fun _ => hfirst, rfl⟩
    obtain ⟨hwf, -, -, rest, hrest⟩ :=
      (Instruction.copy_eq_ok_iff_front (Nat.pos_of_ne_zero hzero)).1 hcopy
    exact .inl ⟨_, rest, hwf, hrest⟩

/-! ## What a step does -/

theorem next_nil (order : ByteOrder) (offset : Nat) (failed : Bool) :
    (⟨[], order, offset, failed⟩ : Stream).next = none := by
  cases failed <;> rfl

theorem next_of_failed {s : Stream} (h : s.failed = true) : s.next = none := by
  rw [next, if_pos h]

/-- Nothing more is yielded after an error, and at the end of the words. -/
theorem next_eq_none_iff {s : Stream} : s.next = none ↔ s.failed = true ∨ s.rest = [] := by
  obtain ⟨words, order, offset, failed⟩ := s
  cases failed with
  | true => simp [next_of_failed]
  | false =>
    cases words with
    | nil => simp [next_nil]
    | cons raw tail =>
      rw [next_cons]
      cases decode order offset raw (raw :: tail) <;> simp

/-- A well-formed instruction in front of other words is decoded. -/
theorem decode_encode_append {inst : Instruction} (h : inst.WellFormed) {order : ByteOrder}
    (offset : Nat) {raw : Word} {tail rest : List Word}
    (hraw : Instruction.encode order inst ++ rest = raw :: tail) :
    decode order offset raw (raw :: tail) = .ok inst := by
  obtain ⟨head, hwords, hcode, hcount⟩ := h.exists_head
  have hpos := h.one_le_wordCount
  have hhead : order.toHost raw = head := by
    rw [Instruction.encode, hwords, List.map_cons, List.cons_append] at hraw
    rw [← (List.cons.inj hraw).1, ByteOrder.toHost_toHost]
  have hlen : inst.wordCount ≤ (raw :: tail).length := by
    rw [← hraw, List.length_append, Instruction.length_encode]
    omega
  have hne : (Instruction.Header.ofWord head).wordCount ≠ 0 :=
    Instruction.Header.wordCount_ne_zero (by omega)
  have hop : Opcode.ofCode (Instruction.Header.ofWord head).code = .ok inst.opcode := by
    rw [hcode, Opcode.ofCode, Opcode.ofCode?_code]
  have hnot : ¬ ((raw :: tail).take inst.wordCount).length < inst.wordCount := by
    rw [List.length_take]
    omega
  unfold decode
  rw [hhead]
  simp only [if_neg hne, hcount, if_neg hnot, hop]
  rw [Instruction.copy_eq_ok_iff_front (by omega)]
  exact ⟨h, rfl, hcount.symm, rest, hraw.symm⟩

theorem decode_of_defect {order : ByteOrder} {offset : Nat} {raw : Word} {tail : List Word}
    {e : Error} (h : Defect order offset (raw :: tail) e) :
    decode order offset raw (raw :: tail) = .error e := by
  unfold decode
  simp only [List.length_take]
  cases h with
  | wordCountZero hcount =>
    rw [if_pos (UInt16.toNat_inj.1 hcount)]
  | truncated hcount =>
    have hne := Instruction.Header.wordCount_ne_zero (Nat.lt_of_le_of_lt (Nat.zero_le _) hcount)
    unfold headerOf at hcount hne
    rw [if_neg hne, if_pos (by omega)]
    rfl
  | unknownOpcode hpos hcount hcode =>
    have hne := Instruction.Header.wordCount_ne_zero hpos
    unfold headerOf at hcount hcode hne
    rw [if_neg hne, if_neg (by omega), Opcode.ofCode, Opcode.ofCode?_eq_none_iff.2 hcode]
    rfl

/-- **A step over an instruction.**  The stream yields the instruction and stands behind
    it; what follows has no influence. -/
theorem next_encode_append {inst : Instruction} (h : inst.WellFormed) (order : ByteOrder)
    (offset : Nat) (rest : List Word) :
    (⟨Instruction.encode order inst ++ rest, order, offset, false⟩ : Stream).next =
      some (.ok inst, ⟨rest, order, offset + inst.wordCount, false⟩) := by
  have hpos := h.one_le_wordCount
  have hdrop := Instruction.drop_encode_append order inst rest
  cases hraw : Instruction.encode order inst ++ rest with
  | nil =>
    have hlen := congrArg List.length hraw
    rw [List.length_append, Instruction.length_encode, List.length_nil] at hlen
    omega
  | cons raw tail =>
    rw [next_cons, decode_encode_append h offset hraw, ← hraw]
    simp only [hdrop]

/-- **A step at a defect.**  The stream yields the error, stays where it is and is at its
    end for good. -/
theorem next_of_defect {order : ByteOrder} {offset : Nat} {words : List Word} {e : Error}
    (h : Defect order offset words e) :
    (⟨words, order, offset, false⟩ : Stream).next =
      some (.error e, ⟨words, order, offset, true⟩) := by
  cases words with
  | nil => cases h
  | cons raw tail => rw [next_cons, decode_of_defect h]

-- No operation has the code `0xffff`, but the missing word is what is reported.
example : (ofWords [0x0003ffff, 7] .little).next =
    some (.error (.truncated 0 3 2), ⟨[0x0003ffff, 7], .little, 0, true⟩) := by decide

/-- What a step does, to the stream before it and with the stream after it. -/
inductive Step : Stream → Except Error Instruction → Stream → Prop where
  /-- It yields the instruction in front and passes it. -/
  | passes {order : ByteOrder} {offset : Nat} {rest : List Word} {inst : Instruction}
      (h : inst.WellFormed) :
      Step ⟨Instruction.encode order inst ++ rest, order, offset, false⟩ (.ok inst)
        ⟨rest, order, offset + inst.wordCount, false⟩
  /-- It yields the defect in front and stops. -/
  | stops {order : ByteOrder} {offset : Nat} {words : List Word} {e : Error}
      (h : Defect order offset words e) :
      Step ⟨words, order, offset, false⟩ (.error e) ⟨words, order, offset, true⟩

/-- **All that a step does.** -/
theorem next_eq_some_iff {s t : Stream} {r : Except Error Instruction} :
    s.next = some (r, t) ↔ Step s r t := by
  constructor
  · intro h
    obtain ⟨words, order, offset, failed⟩ := s
    cases failed with
    | true =>
      rw [next_of_failed rfl] at h
      cases h
    | false =>
      by_cases hnil : words = []
      · rw [hnil, next_nil] at h
        cases h
      rcases exists_encode_or_defect order offset hnil with ⟨inst, rest, hwf, rfl⟩ | ⟨e, he⟩
      · rw [next_encode_append hwf] at h
        cases h
        exact .passes hwf
      · rw [next_of_defect he] at h
        cases h
        exact .stops he
  · intro h
    cases h with
    | passes hwf => exact next_encode_append hwf _ _ _
    | stops he => exact next_of_defect he

theorem Step.rest_ne_nil {s t : Stream} {r : Except Error Instruction} (h : Step s r t) :
    s.rest ≠ [] := by
  cases h with
  | passes hwf =>
    have hpos := hwf.one_le_wordCount
    rw [← List.length_pos_iff, List.length_append, Instruction.length_encode]
    omega
  | stops he => cases he <;> exact List.cons_ne_nil _ _

end Spirv.Stream
