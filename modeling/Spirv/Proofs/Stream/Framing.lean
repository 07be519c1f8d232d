/-
  What decides where instructions begin.

  A step looks at the first word in front of it and at the number of words; the words behind
  the first decide nothing but the operands (`Step.of_head`).  So two streams over words of
  the same number stay at the same offsets as long as the words agree wherever the first
  stream reads a header.  `Visits s place` says that it does so at `place`, the place of a
  failing header included, and `Aligned` is the relation that two such streams keep: a step
  keeps it (`Aligned.next`), and so do any number of calls (`Aligned.after`).

  `framing` forgets the operands of what a stream yields.  The operands themselves are read
  place by place (`Within.getElem?_words`), and no place is read twice
  (`position_unique`).

  Main statement: operands have no influence on framing (`framing_of_same_headers`).
-/
import Spirv.Proofs.Stream.Place

namespace Spirv

namespace Stream

/-- What a stream yields, without the operands. -/
def framing (r : Except Error Instruction) : Except Error (Opcode × Nat) :=
  r.map fun inst => (inst.opcode, inst.wordCount)

/-- In one of its calls the stream reads a header at the place. -/
def Visits (s : Stream) (place : Nat) : Prop :=
  ∃ n, (s.after n).next.isSome = true ∧ (s.after n).offset = place

/-! ## The first word decides -/

/-- A defect is one of the first word and the number of words. -/
theorem Defect.of_head {order : ByteOrder} {offset : Nat} {words words' : List Word} {e : Error}
    (h : Defect order offset words e) (hhead : words'.head? = words.head?)
    (hlen : words'.length = words.length) : Defect order offset words' e := by
  have hcons : ∀ raw tail, words = raw :: tail → ∃ tail', words' = raw :: tail' := by
    intro raw tail hwords
    rw [hwords, List.head?_cons] at hhead
    exact List.head?_eq_some_iff.1 hhead
  cases h with
  | @wordCountZero raw tail hcount =>
    obtain ⟨tail', rfl⟩ := hcons raw tail rfl
    exact .wordCountZero hcount
  | @truncated raw tail hcount =>
    obtain ⟨tail', rfl⟩ := hcons raw tail rfl
    rw [← hlen] at hcount ⊢
    exact .truncated hcount
  | @unknownOpcode raw tail hpos hcount hcode =>
    obtain ⟨tail', rfl⟩ := hcons raw tail rfl
    rw [← hlen] at hcount
    exact .unknownOpcode hpos hcount hcode

/-- An instruction in front is one of the first word and the number of words, up to its
    operands. -/
theorem exists_encode_of_head {order : ByteOrder} {inst : Instruction} (h : inst.WellFormed)
    {rest words' : List Word}
    (hhead : words'.head? = (Instruction.encode order inst ++ rest).head?)
    (hlen : words'.length = (Instruction.encode order inst ++ rest).length) :
    ∃ inst' rest', inst'.WellFormed ∧ words' = Instruction.encode order inst' ++ rest' ∧
      inst'.opcode = inst.opcode ∧ inst'.wordCount = inst.wordCount := by
  have hne : words' ≠ [] := by
    rintro rfl
    rw [List.length_nil, List.length_append, Instruction.length_encode] at hlen
    have hpos := h.one_le_wordCount
    omega
  rcases exists_encode_or_defect order 0 hne with ⟨inst', rest', hwf, rfl⟩ | ⟨e, hdef⟩
  · have hfirst := h.firstHeader?_encode_append order rest
    have hfirst' := hwf.firstHeader?_encode_append order rest'
    rw [Instruction.firstHeader?, hhead, ← Instruction.firstHeader?, hfirst] at hfirst'
    have hsame := Option.some.inj hfirst'
    refine ⟨inst', rest', hwf, rfl, Opcode.code_inj ?_, ?_⟩
    · exact (congrArg Instruction.Header.code hsame).symm
    · have hcount := congrArg (fun header => header.wordCount.toNat) hsame
      rwa [h.toNat_ofNat_wordCount, hwf.toNat_ofNat_wordCount, eq_comm] at hcount
  · -- The defect would be one of the words in front of which the instruction stands.
    have hdef' := next_of_defect (hdef.of_head hhead.symm hlen.symm)
    rw [next_encode_append h] at hdef'
    cases hdef'

/-- **The first word decides a step.**  In front of as many words with the same first one, a
    stream at the same place takes the same step, up to the operands. -/
theorem Step.of_head {s s' t : Stream} {r : Except Error Instruction} (h : Step s r s')
    (horder : t.order = s.order) (hoffset : t.offset = s.offset) (hfailed : t.failed = s.failed)
    (hhead : t.rest.head? = s.rest.head?) (hlen : t.rest.length = s.rest.length) :
    ∃ r' t', Step t r' t' ∧ framing r' = framing r ∧ t'.offset = s'.offset ∧
      t'.failed = s'.failed := by
  obtain ⟨words', order', offset', failed'⟩ := t
  cases h with
  | @passes order offset rest inst hwf =>
    obtain ⟨inst', rest', hwf', hwords, hop, hcount⟩ := exists_encode_of_head hwf hhead hlen
    dsimp only at horder hoffset hfailed hwords
    subst horder hoffset hfailed hwords
    refine ⟨_, _, .passes hwf', ?_, ?_, rfl⟩
    · show Except.ok (inst'.opcode, inst'.wordCount) = Except.ok (inst.opcode, inst.wordCount)
      rw [hop, hcount]
    · show offset' + inst'.wordCount = offset' + inst.wordCount
      rw [hcount]
  | @stops order offset words e hdef =>
    dsimp only at horder hoffset hfailed
    subst horder hoffset hfailed
    exact ⟨_, _, .stops (hdef.of_head hhead hlen), rfl, rfl, rfl⟩

/-! ## Two streams at the same offsets -/

/-- The streams stand at the same place of their words, and the words agree wherever the
    first still reads a header. -/
structure Aligned (a b : List Word) (order : ByteOrder) (start : Nat) (s t : Stream) : Prop where
  left : Within a order start s
  right : Within b order start t
  offset_eq : t.offset = s.offset
  failed_eq : t.failed = s.failed
  agree : ∀ place, s.Visits place → a[place]? = b[place]?

section Aligned

variable {a b : List Word} {order : ByteOrder} {start : Nat} {s t : Stream}

theorem aligned_startingAt (order : ByteOrder) (start : Nat)
    (h : ∀ place, (startingAt a order start).Visits place → a[place]? = b[place]?) :
    Aligned a b order start (startingAt a order start) (startingAt b order start) :=
  ⟨within_startingAt a order start, within_startingAt b order start, rfl, rfl, h⟩

theorem Aligned.length_eq (h : Aligned a b order start s t) (hlen : a.length = b.length) :
    t.rest.length = s.rest.length := by
  rw [h.left.rest_eq, h.right.rest_eq, h.offset_eq, List.length_drop, List.length_drop, hlen]

/-- Where the first stream reads a header, the second has the same. -/
theorem Aligned.head_eq (h : Aligned a b order start s t) (hsome : s.next.isSome = true) :
    t.rest.head? = s.rest.head? := by
  have hagree := h.agree s.offset ⟨0, hsome, rfl⟩
  rw [h.left.rest_eq, h.right.rest_eq, h.offset_eq, List.head?_drop, List.head?_drop, hagree]

theorem Aligned.next_eq_none_iff (h : Aligned a b order start s t) (hlen : a.length = b.length) :
    t.next = none ↔ s.next = none := by
  have hrest : t.rest = [] ↔ s.rest = [] := by
    rw [← List.length_eq_zero_iff, ← List.length_eq_zero_iff, h.length_eq hlen]
  rw [Stream.next_eq_none_iff, Stream.next_eq_none_iff, h.failed_eq, hrest]

/-- A header that is read after a step is one that is read. -/
theorem Visits.of_next {s' : Stream} {r : Except Error Instruction} {place : Nat}
    (hs : s.next = some (r, s')) (h : s'.Visits place) : s.Visits place := by
  obtain ⟨n, hsome, hoffset⟩ := h
  refine ⟨n + 1, ?_, ?_⟩
  · rw [after_succ_of_next_some hs, hsome]
  · rw [after_succ_of_next_some hs, hoffset]

/-- **A step keeps the streams aligned.**  If the first yields, then so does the second, and
    the same but for the operands. -/
theorem Aligned.next {s' : Stream} {r : Except Error Instruction}
    (h : Aligned a b order start s t) (hlen : a.length = b.length)
    (hs : s.next = some (r, s')) :
    ∃ r' t', t.next = some (r', t') ∧ framing r' = framing r ∧
      Aligned a b order start s' t' := by
  have hsome : s.next.isSome = true := by rw [hs]; rfl
  have horder : t.order = s.order := by rw [h.left.order_eq, h.right.order_eq]
  have hstep := next_eq_some_iff.1 hs
  obtain ⟨r', t', hstep', hframing, hoffset, hfailed⟩ :=
    hstep.of_head horder h.offset_eq h.failed_eq (h.head_eq hsome) (h.length_eq hlen)
  refine ⟨r', t', next_eq_some_iff.2 hstep', hframing, ?_⟩
  exact ⟨h.left.step hstep, h.right.step hstep', hoffset, hfailed,
    fun place hplace => h.agree place (hplace.of_next hs)⟩

/-- However often the streams are asked, they stay aligned. -/
theorem Aligned.after (h : Aligned a b order start s t) (hlen : a.length = b.length) (n : Nat) :
    Aligned a b order start (s.after n) (t.after n) := by
  refine after_simulation ?_ ?_ h n
  · intro s t h hs
    exact (h.next_eq_none_iff hlen).2 hs
  · intro s t r s' h hs
    obtain ⟨r', t', ht, -, h'⟩ := h.next hlen hs
    exact ⟨r', t', ht, h'⟩

/-- Aligned streams yield the same next, up to the operands. -/
theorem Aligned.framing_next (h : Aligned a b order start s t) (hlen : a.length = b.length) :
    (t.next.map Prod.fst).map framing = (s.next.map Prod.fst).map framing := by
  cases hs : s.next with
  | none => rw [(h.next_eq_none_iff hlen).2 hs]
  | some p =>
    obtain ⟨r, s'⟩ := p
    obtain ⟨r', t', ht, hframing, -⟩ := h.next hlen hs
    rw [ht]
    simp only [Option.map_some, hframing]

/-- Aligned streams yield the same items, up to the operands. -/
theorem Aligned.framing_items (h : Aligned a b order start s t) (hlen : a.length = b.length) :
    t.items.map framing = s.items.map framing := by
  apply List.ext_getElem?
  intro i
  rw [List.getElem?_map, List.getElem?_map, getElem?_items, getElem?_items]
  exact (h.after hlen i).framing_next hlen

theorem Aligned.visits_iff (h : Aligned a b order start s t) (hlen : a.length = b.length)
    (place : Nat) : t.Visits place ↔ s.Visits place := by
  have hsome : ∀ n, (t.after n).next.isSome = (s.after n).next.isSome := by
    intro n
    have hframing := congrArg Option.isSome ((h.after hlen n).framing_next hlen)
    simpa using hframing
  unfold Visits
  simp only [hsome, (h.after hlen _).offset_eq]

end Aligned

/-! ## Places of words -/

theorem offset_le_of_next {s t : Stream} {r : Except Error Instruction}
    (h : s.next = some (r, t)) : s.offset ≤ t.offset := by
  cases r with
  | ok inst =>
    have hoffset := (offset_of_next_ok h).1
    omega
  | error e =>
    have hoffset := (offset_of_next_error h).1
    omega

theorem offset_le_offset_after (s : Stream) (n : Nat) : s.offset ≤ (s.after n).offset := by
  refine after_invariant (P := fun t => s.offset ≤ t.offset) ?_ (Nat.le_refl _) n
  intro t r t' h hle
  have hnext := offset_le_of_next h
  omega

/-- Behind an instruction no call comes back to its words. -/
theorem offset_add_wordCount_le {s : Stream} {i k : Nat} {inst : Instruction}
    (h : s.items[i]? = some (.ok inst)) (hik : i < k) :
    (s.after i).offset + inst.wordCount ≤ (s.after k).offset := by
  obtain ⟨t, hnext⟩ := exists_next_of_getElem?_items h
  obtain ⟨d, rfl⟩ : ∃ d, k = i + (d + 1) := ⟨k - i - 1, by omega⟩
  rw [after_add, after_succ_of_next_some hnext, ← (offset_of_next_ok hnext).1]
  exact t.offset_le_offset_after d

/-- **No place is read twice.**  The place of a word determines its instruction and its
    position there. -/
theorem position_unique {s : Stream} {i k : Nat} {x y : Instruction}
    (hx : s.items[i]? = some (.ok x)) (hy : s.items[k]? = some (.ok y)) {j l : Nat}
    (hj : j < x.wordCount) (hl : l < y.wordCount)
    (hplace : (s.after i).offset + j = (s.after k).offset + l) : i = k ∧ j = l := by
  have hik : i = k := by
    rcases Nat.lt_trichotomy i k with hlt | heq | hgt
    · have := offset_add_wordCount_le hx hlt
      omega
    · exact heq
    · have := offset_add_wordCount_le hy hgt
      omega
  rw [hik] at hplace
  exact ⟨hik, by omega⟩

end Stream

/-! ## Operands have no influence -/

open Spirv.Stream (startingAt Visits framing)

/-- **Operands never influence framing.**  Let two lists have as many words and agree at
    every place where a stream over the first reads a header.  Then the streams over the two
    are at the same offset after every number of calls, read headers at the same places and
    yield the same items but for their operands, the final error included.  Each word of an
    item is the corrected word at its place, so that two items at the same position differ in
    a word exactly where the lists differ at its place, and no other word is read there. -/
theorem framing_of_same_headers {a b : List Word} (order : ByteOrder) (start : Nat)
    (hlen : a.length = b.length)
    (hagree : ∀ place, (startingAt a order start).Visits place → a[place]? = b[place]?) :
    let s := startingAt a order start
    let t := startingAt b order start
    (∀ n, (t.after n).offset = (s.after n).offset) ∧
    (∀ place, t.Visits place ↔ s.Visits place) ∧
    t.items.map framing = s.items.map framing ∧
    (∀ i x y, s.items[i]? = some (.ok x) → t.items[i]? = some (.ok y) →
      ∀ j < x.wordCount,
        let place := (s.after i).offset + j
        place < a.length ∧
        x.words[j]? = a[place]?.map order.toHost ∧
        y.words[j]? = b[place]?.map order.toHost ∧
        (x.words[j]? ≠ y.words[j]? ↔ a[place]? ≠ b[place]?)) ∧
    ∀ i k x y, s.items[i]? = some (.ok x) → s.items[k]? = some (.ok y) →
      ∀ j < x.wordCount, ∀ l < y.wordCount,
        (s.after i).offset + j = (s.after k).offset + l → i = k ∧ j = l := by
  intro s t
  have haligned : Stream.Aligned a b order start s t := Stream.aligned_startingAt order start hagree
  have hframing := haligned.framing_items hlen
  refine ⟨?_, haligned.visits_iff hlen, hframing, ?_, ?_⟩
  · intro n
    exact (haligned.after hlen n).offset_eq
  · intro i x y hx hy j hj place
    have hcount : y.wordCount = x.wordCount := by
      have hi := congrArg (fun l => l[i]?) hframing
      simp only [List.getElem?_map, hx, hy, Option.map_some] at hi
      exact congrArg Prod.snd (Except.ok.inj (Option.some.inj hi))
    have hi := haligned.after hlen i
    obtain ⟨s', hs⟩ := Stream.exists_next_of_getElem?_items hx
    obtain ⟨t', ht⟩ := Stream.exists_next_of_getElem?_items hy
    obtain ⟨hplace, hxj⟩ := hi.left.getElem?_words hs hj
    obtain ⟨-, hyj⟩ := hi.right.getElem?_words ht (j := j) (by omega)
    rw [hi.offset_eq] at hyj
    refine ⟨hplace, hxj, hyj, ?_⟩
    rw [hxj, hyj]
    exact not_congr (Option.map_injective order.toHost_injective).eq_iff
  · intro i k x y hx hy j hj l hl hplace
    exact Stream.position_unique hx hy hj hl hplace

/-- Two big-endian lists whose streams start at 1 and yield an instruction of three words and
    one of a single word; the last declares more words than there are.  The lists differ in an
    operand, where one has zero and the other the header that follows, and behind the failing
    header. -/
theorem framing_of_same_headers_one :
    let a : List Word := [7, 0x15000300, 8, 0, 0x00000100, 0x15000500, 1]
    let b : List Word := [7, 0x15000300, 8, 0x00000100, 0x00000100, 0x15000500, 2]
    let s := startingAt a .big 1
    let t := startingAt b .big 1
    a.length = b.length ∧
    (∀ place, s.Visits place → a[place]? = b[place]?) ∧
    (∀ n, (t.after n).offset = (s.after n).offset) ∧
    t.items.map framing = s.items.map framing := by
  intro a b s t
  have hlen : a.length = b.length := by decide
  have hagree : ∀ place, s.Visits place → a[place]? = b[place]? := by
    rintro place ⟨n, hsome, rfl⟩
    match n, hsome with
    | 0, _ => decide
    | 1, _ => decide
    | 2, _ => decide
    | n + 3, hsome =>
      have hend : (s.after 3).next = none := by decide
      rw [Nat.add_comm, Stream.after_add, Stream.after_of_next_none hend, hend] at hsome
      cases hsome
  have h := framing_of_same_headers .big 1 hlen hagree
  exact ⟨hlen, hagree, h.1, h.2.2.1⟩

end Spirv
