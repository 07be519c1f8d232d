/-
  Copies, whatever was declared.

  A copy looks at three things: whether there are as many words as were declared, whether any
  was, and what header the first of them is (`firstHeader?`).  Each has its lemma, and the
  reasons for a failure are those of `Refusal` (`copy_eq_error_iff`).

  - only the declared words are looked at (`copy_congr`);
  - a copy of at least one word succeeds exactly when the words begin with a well-formed
    instruction of the declared operation and length (`copy_eq_ok_iff_front`), so what is
    declared of words that can be copied is declared in one way (`copy_unique`);
  - a well-formed instruction is a copy of itself (`WellFormed.copy_words`).

  Main statement: what a copy is, and what holds of its words (`copy_as_declared`).
-/
import Spirv.Proofs.Instruction

namespace Spirv.Instruction

/-- The header in the first of the raw words. -/
def firstHeader? (order : ByteOrder) (raw : List Word) : Option Header :=
  raw.head?.map fun w => Header.ofWord (order.toHost w)

/-- A header is another one when it differs in either field. -/
theorem Header.ne_iff {header : Header} {count code : UInt16} :
    header ≠ ⟨count, code⟩ ↔ header.wordCount ≠ count ∨ header.code ≠ code := by
  obtain ⟨count', code'⟩ := header
  rw [Ne, Header.mk.injEq, not_and_or]

/-- Why the first `count` of the raw words are not copied as an instruction `op`. -/
inductive Refusal (raw : List Word) (op : Opcode) (count : UInt16) (order : ByteOrder) :
    Error → Prop where
  /-- There are fewer, whatever they are. -/
  | shortInput (hlen : raw.length < count.toNat) :
      Refusal raw op count order (.inconsistent (.shortInput count raw.length))
  /-- They are there, but the first is another header. -/
  | headerMismatch {found : Header} (hlen : count.toNat ≤ raw.length) (hpos : 0 < count.toNat)
      (hfound : firstHeader? order raw = some found) (hne : found ≠ ⟨count, op.code⟩) :
      Refusal raw op count order (.inconsistent (.headerMismatch ⟨count, op.code⟩ found))

variable {raw : List Word} {op : Opcode} {count : UInt16} {order : ByteOrder}
  {inst : Instruction}

/-! ## What a copy looks at -/

theorem copy_of_length_lt (hlen : raw.length < count.toNat) :
    copy raw op count order = .error (.inconsistent (.shortInput count raw.length)) := by
  unfold copy
  rw [if_pos]
  rw [List.length_take]
  omega

/-- A copy of no words is empty, whatever the operation. -/
theorem copy_zero (raw : List Word) (op : Opcode) (order : ByteOrder) :
    copy raw op 0 order = .ok ⟨op, []⟩ := rfl

/-- Words that are enough and at least one are copied if the first is the declared header. -/
theorem copy_of_firstHeader? (hlen : count.toNat ≤ raw.length) (hpos : 0 < count.toNat)
    {found : Header} (hfound : firstHeader? order raw = some found) :
    copy raw op count order =
      if found = ⟨count, op.code⟩ then .ok ⟨op, (raw.take count.toNat).map order.toHost⟩
      else .error (.inconsistent (.headerMismatch ⟨count, op.code⟩ found)) := by
  obtain ⟨head, hhead, rfl⟩ := Option.map_eq_some_iff.1 hfound
  obtain ⟨tail, rfl⟩ := List.head?_eq_some_iff.1 hhead
  obtain ⟨n, hn⟩ := Nat.exists_eq_succ_of_ne_zero (Nat.ne_of_gt hpos)
  unfold copy
  simp only
  rw [if_neg (by rw [List.length_take]; omega), hn, List.take_succ_cons, List.map_cons]

theorem exists_firstHeader? (hlen : count.toNat ≤ raw.length) (hpos : 0 < count.toNat)
    (order : ByteOrder) : ∃ found, firstHeader? order raw = some found := by
  obtain ⟨head, tail, rfl⟩ := List.exists_cons_of_length_pos (Nat.lt_of_lt_of_le hpos hlen)
  exact ⟨_, rfl⟩

/-- A copy succeeds exactly when there are enough words and their first, if any was declared,
    is the declared header. -/
theorem copy_eq_ok_iff :
    copy raw op count order = .ok inst ↔
      count.toNat ≤ raw.length ∧
        (0 < count.toNat → firstHeader? order raw = some ⟨count, op.code⟩) ∧
        inst = ⟨op, (raw.take count.toNat).map order.toHost⟩ := by
  rcases Nat.lt_or_ge raw.length count.toNat with hlen | hlen
  · rw [copy_of_length_lt hlen]
    simp [Nat.not_le.2 hlen]
  rcases Nat.eq_zero_or_pos count.toNat with hzero | hpos
  · obtain rfl : count = 0 := UInt16.toNat_inj.1 hzero
    simp [copy_zero, eq_comm]
  · obtain ⟨found, hfound⟩ := exists_firstHeader? hlen hpos order
    rw [copy_of_firstHeader? hlen hpos hfound, hfound, Option.some_inj]
    by_cases hsame : found = ⟨count, op.code⟩
    · simp [hsame, hlen, eq_comm]
    · simp [hsame, hpos]

/-- A copy fails exactly for the reasons that there are. -/
theorem copy_eq_error_iff {e : Error} :
    copy raw op count order = .error e ↔ Refusal raw op count order e := by
  constructor
  · intro h
    rcases Nat.lt_or_ge raw.length count.toNat with hlen | hlen
    · rw [copy_of_length_lt hlen] at h
      cases h
      exact .shortInput hlen
    rcases Nat.eq_zero_or_pos count.toNat with hzero | hpos
    · obtain rfl : count = 0 := UInt16.toNat_inj.1 hzero
      cases h
    · obtain ⟨found, hfound⟩ := exists_firstHeader? hlen hpos order
      rw [copy_of_firstHeader? hlen hpos hfound] at h
      split at h
      · cases h
      · rename_i hne
        cases h
        exact .headerMismatch hlen hpos hfound hne
  · intro h
    cases h with
    | shortInput hlen => exact copy_of_length_lt hlen
    | headerMismatch hlen hpos hfound hne =>
      rw [copy_of_firstHeader? hlen hpos hfound, if_neg hne]

/-- What goes wrong with a copy is the fault of who declared it. -/
theorem isInternal_of_copy {e : Error} (h : copy raw op count order = .error e) :
    e.isInternal = true := by
  cases copy_eq_error_iff.1 h <;> rfl

/-- **Only the declared words are looked at.**  Words that begin with the same ones are copied
    alike; where there are fewer than declared, these are all the same words. -/
theorem copy_congr {raw' : List Word} (h : raw'.take count.toNat = raw.take count.toNat) :
    copy raw' op count order = copy raw op count order := by
  have hlen := congrArg List.length h
  rw [List.length_take, List.length_take] at hlen
  rcases Nat.lt_or_ge raw.length count.toNat with hlt | hge
  · -- Both lists are shorter than the declared length, so each is its own front.
    rw [List.take_of_length_le (by omega), List.take_of_length_le (by omega)] at h
    rw [h]
  · have hnot : ¬ (raw.take count.toNat).length < count.toNat := by
      rw [List.length_take]
      omega
    unfold copy
    simp only [h]
    rw [if_neg hnot, if_neg hnot]

/-! ## The front of the words -/

/-- The number of words of a well-formed instruction fits into its header. -/
theorem WellFormed.toNat_ofNat_wordCount (h : inst.WellFormed) :
    (UInt16.ofNat inst.wordCount).toNat = inst.wordCount := by
  obtain ⟨head, -, -, hcount⟩ := h.exists_head
  have hlt := (Header.ofWord head).wordCount.toNat_lt
  rw [UInt16.toNat_ofNat']
  omega

theorem WellFormed.head?_words (h : inst.WellFormed) :
    inst.words.head? = some (Header.toWord ⟨UInt16.ofNat inst.wordCount, inst.opcode.code⟩) := by
  have hcount : inst.wordCount = 1 + inst.operands.length := by
    rw [wordCount, h.words_eq, List.length_cons, Nat.add_comm]
  rw [h.words_eq, List.head?_cons, headerFor, hcount]

/-- The first header in front of other words is that of the instruction. -/
theorem WellFormed.firstHeader?_encode_append (h : inst.WellFormed) (order : ByteOrder)
    (rest : List Word) :
    firstHeader? order (encode order inst ++ rest) =
      some ⟨UInt16.ofNat inst.wordCount, inst.opcode.code⟩ := by
  obtain ⟨head, hwords, -, -⟩ := h.exists_head
  have hhead := h.head?_words
  rw [hwords, List.head?_cons, Option.some_inj] at hhead
  rw [firstHeader?, encode, hwords, List.map_cons, List.cons_append, List.head?_cons,
    Option.map_some, ByteOrder.toHost_toHost, hhead, Header.ofWord_toWord]

/-- **A copy is what the words begin with.**  At least one word is copied exactly when a
    well-formed instruction of the declared operation and length stands in front. -/
theorem copy_eq_ok_iff_front (hpos : 0 < count.toNat) :
    copy raw op count order = .ok inst ↔
      inst.WellFormed ∧ inst.opcode = op ∧ inst.wordCount = count.toNat ∧
        ∃ rest, raw = encode order inst ++ rest := by
  constructor
  · intro h
    have hcount := wordCount_of_copy h
    have hfront := encode_of_copy h
    obtain ⟨hlen, hfirst, hinst⟩ := copy_eq_ok_iff.1 h
    obtain ⟨w, tail, rfl⟩ := List.exists_cons_of_length_pos (Nat.lt_of_lt_of_le hpos hlen)
    obtain ⟨n, hn⟩ := Nat.exists_eq_succ_of_ne_zero (Nat.ne_of_gt hpos)
    have hheader : Header.ofWord (order.toHost w) = ⟨count, op.code⟩ :=
      Option.some.inj (hfirst hpos)
    rw [hn, List.take_succ_cons, List.map_cons] at hinst
    refine ⟨?_, by rw [hinst], hcount, (w :: tail).drop count.toNat, ?_⟩
    · rw [hinst, wellFormed_mk_iff, hheader]
      refine ⟨rfl, ?_⟩
      rw [hinst, wordCount, List.length_cons] at hcount
      rw [← hcount, Nat.add_comm]
    · rw [hfront, List.take_append_drop]
  · rintro ⟨hwf, rfl, hcount, rest, rfl⟩
    have hsame : UInt16.ofNat inst.wordCount = count := by
      rw [hcount, UInt16.ofNat_toNat]
    rw [copy_eq_ok_iff, ← hcount, take_encode_append]
    refine ⟨?_, ?_, ?_⟩
    · rw [List.length_append, length_encode]
      omega
    · intro _
      rw [hwf.firstHeader?_encode_append, hsame]
    · rw [encode, ByteOrder.map_toHost_map_toHost]

/-- Words of which an instruction of at least one word can be copied declare it in one
    way. -/
theorem copy_unique {op' : Opcode} {count' : UInt16} {inst' : Instruction}
    (hpos : 0 < count.toNat) (hpos' : 0 < count'.toNat)
    (h : copy raw op count order = .ok inst) (h' : copy raw op' count' order = .ok inst') :
    op = op' ∧ count = count' := by
  have hfirst := (copy_eq_ok_iff.1 h).2.1 hpos
  have hfirst' := (copy_eq_ok_iff.1 h').2.1 hpos'
  have hsame := Option.some.inj (hfirst.symm.trans hfirst')
  exact ⟨Opcode.code_inj (congrArg Header.code hsame), congrArg Header.wordCount hsame⟩

/-! ## The words of a copy -/

theorem operand?_eq (inst : Instruction) (i : Nat) : inst.operand? i = inst.words[i + 1]? := by
  rw [operand?, operands, List.getElem?_drop, Nat.add_comm]

/-- **A well-formed instruction is a copy of itself.** -/
theorem WellFormed.copy_words (h : inst.WellFormed) :
    copy inst.words inst.opcode (UInt16.ofNat inst.wordCount) .little = .ok inst := by
  have hpos := h.one_le_wordCount
  have hcount := h.toNat_ofNat_wordCount
  rw [copy_eq_ok_iff_front (by omega)]
  refine ⟨h, rfl, hcount.symm, [], ?_⟩
  have hid : ByteOrder.little.toHost = id := rfl
  rw [List.append_nil, encode, hid, List.map_id]

/-- **A copy is of what was declared.**  Where there are fewer words than declared, it fails
    and tells how many there are.  Otherwise, if any is declared and the first of them is
    another header, it fails and tells what was declared and what was found.  Otherwise it is
    the declared operation with the declared words, corrected.  Words behind the declared ones
    have no influence.

    A copy of at least one word begins with the header that states its operation and its
    length, has its operands behind it, and is a copy of itself.  A copy of no words is empty,
    whatever the operation. -/
theorem copy_as_declared (raw : List Word) (op : Opcode) (count : UInt16) (order : ByteOrder) :
    let result := copy raw op count order
    (result = .error (.inconsistent (.shortInput count raw.length)) ↔
      raw.length < count.toNat) ∧
    (∀ found,
      result = .error (.inconsistent (.headerMismatch ⟨count, op.code⟩ found)) ↔
        count.toNat ≤ raw.length ∧ 0 < count.toNat ∧ firstHeader? order raw = some found ∧
          (found.wordCount ≠ count ∨ found.code ≠ op.code)) ∧
    (∀ inst, result = .ok inst ↔
      count.toNat ≤ raw.length ∧
        (0 < count.toNat → firstHeader? order raw = some ⟨count, op.code⟩) ∧
        inst = ⟨op, (raw.take count.toNat).map order.toHost⟩) ∧
    (∀ raw', raw'.take count.toNat = raw.take count.toNat →
      copy raw' op count order = result) ∧
    (0 < count.toNat → ∀ inst, result = .ok inst →
      inst.wordCount = count.toNat ∧
        inst.words.head? = some (Header.toWord ⟨UInt16.ofNat inst.wordCount, inst.opcode.code⟩) ∧
        (∀ i, i + 1 < count.toNat →
          ∃ w, inst.words[i + 1]? = some w ∧ inst.operand? i = some w) ∧
        (∀ i, count.toNat ≤ i + 1 → inst.operand? i = none) ∧
        copy inst.words inst.opcode (UInt16.ofNat inst.wordCount) .little = .ok inst) ∧
    (count = 0 → result = .ok ⟨op, []⟩) := by
  intro result
  refine ⟨?_, ?_, ?_, ?_, ?_, ?_⟩
  · show copy raw op count order = _ ↔ _
    rw [copy_eq_error_iff]
    constructor
    · intro h
      cases h with
      | shortInput hlen => exact hlen
    · exact .shortInput
  · intro found
    show copy raw op count order = _ ↔ _
    rw [copy_eq_error_iff, ← Header.ne_iff]
    constructor
    · intro h
      cases h with
      | headerMismatch hlen hpos hfound hne => exact ⟨hlen, hpos, hfound, hne⟩
    · rintro ⟨hlen, hpos, hfound, hne⟩
      exact .headerMismatch hlen hpos hfound hne
  · intro inst
    exact copy_eq_ok_iff
  · intro raw' h
    exact copy_congr h
  · intro hpos inst h
    obtain ⟨hwf, -, hcount, -⟩ := (copy_eq_ok_iff_front hpos).1 h
    refine ⟨hcount, hwf.head?_words, ?_, ?_, hwf.copy_words⟩
    · intro i hi
      rw [← hcount, wordCount] at hi
      refine ⟨inst.words[i + 1], List.getElem?_eq_getElem hi, ?_⟩
      rw [operand?_eq, List.getElem?_eq_getElem hi]
    · intro i hi
      rw [← hcount, wordCount] at hi
      rw [operand?_eq, List.getElem?_eq_none hi]
  · rintro rfl
    exact copy_zero raw op order

end Spirv.Instruction
