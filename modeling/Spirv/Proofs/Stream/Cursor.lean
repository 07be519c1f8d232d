/-
  A cursor over words, and the stream that it is.

  A cursor keeps all of the words and counts its place in them.  A step asks first whether
  the place is still in the words, decodes there, and moves by the length that the header
  declares; it returns a cursor on every path, with an error the one that it had.  A
  `Stream` keeps only the words from its place on, so that no step counts or drops words
  twice: `stream` forgets the words in front.

  - decoding yields what `Stream.decode` yields, and moves the cursor only behind an
    instruction (`decodeNext_eq`);
  - a step of the cursor is the step of its stream (`next_stream`);
  - so they agree after any number of steps, on the place and on what comes next
    (`after_stream`), from any place (`startingAt_run`).
-/
import Spirv.Proofs.Stream.Division

namespace Spirv

/-- A place in a list of raw words, with all of the words. -/
structure Cursor where
  words : List Word
  order : ByteOrder
  /-- The place, in words from the start of the list. -/
  offset : Nat
  /-- Whether an error has been met. -/
  failed : Bool
  deriving DecidableEq

namespace Cursor

/-- The cursor at `offset` in the words. -/
def startingAt (words : List Word) (order : ByteOrder) (offset : Nat) : Cursor :=
  ⟨words, order, offset, false⟩

/-! ## One step -/

/-- The instruction at the cursor, which is in the words, or an error; and the cursor after it. -/
def decodeNext (c : Cursor) (h : c.offset < c.words.length) : Except Error Instruction × Cursor :=
  let rest := c.words.drop c.offset
  let header := Instruction.Header.ofWord (c.order.toHost c.words[c.offset])
  let needed := header.wordCount.toNat
  if header.wordCount = 0 then
    (.error (.wordCountZero c.offset), c)
  else if rest.length < needed then
    (.error (.truncated c.offset needed rest.length), c)
  else
    match Opcode.ofCode header.code with
    | .error e => (.error e, c)
    | .ok op =>
      match Instruction.copy rest op header.wordCount c.order with
      | .error e => (.error e, c)
      | .ok inst => (.ok inst, { c with offset := c.offset + needed })

/-- The next instruction or error and the cursor after it; `none` behind the words, and after
    an error. -/
def next (c : Cursor) : Option (Except Error Instruction × Cursor) :=
  if h : c.failed = true ∨ c.words.length ≤ c.offset then none
  else
    match c.decodeNext (Nat.not_le.1 fun hle => h (.inr hle)) with
    | (.ok inst, c) => some (.ok inst, c)
    | (.error e, c) => some (.error e, { c with failed := true })

/-- The cursor after `n` steps. -/
def after : Nat → Cursor → Cursor
  | 0, c => c
  | n + 1, c =>
    match c.next with
    | none => c
    | some (_, d) => after n d

/-! ## The stream of a cursor -/

/-- The words from the place of the cursor on. -/
def stream (c : Cursor) : Stream :=
  ⟨c.words.drop c.offset, c.order, c.offset, c.failed⟩

@[simp] theorem offset_stream (c : Cursor) : c.stream.offset = c.offset := rfl

theorem stream_startingAt (words : List Word) (order : ByteOrder) (offset : Nat) :
    (startingAt words order offset).stream = Stream.startingAt words order offset := rfl

/-- Decoding at the cursor is decoding the words from there, and only an instruction moves the
    cursor, by its length. -/
theorem decodeNext_eq (c : Cursor) (h : c.offset < c.words.length) :
    c.decodeNext h =
      match Stream.decode c.order c.offset c.words[c.offset] (c.words.drop c.offset) with
      | .ok inst => (.ok inst, { c with offset := c.offset + inst.wordCount })
      | .error e => (.error e, c) := by
  unfold decodeNext Stream.decode
  simp only [List.length_take]
  set header := Instruction.Header.ofWord (c.order.toHost c.words[c.offset])
  by_cases hzero : header.wordCount = 0
  · rw [if_pos hzero, if_pos hzero]
  by_cases hshort : (c.words.drop c.offset).length < header.wordCount.toNat
  · rw [if_neg hzero, if_neg hzero, if_pos hshort, if_pos (by omega)]
  rw [if_neg hzero, if_neg hzero, if_neg hshort, if_neg (by omega)]
  cases Opcode.ofCode header.code with
  | error e => rfl
  | ok op =>
    cases hcopy : Instruction.copy (c.words.drop c.offset) op header.wordCount c.order with
    | error e => simp only [hcopy]
    | ok inst => simp only [hcopy, Instruction.wordCount_of_copy hcopy]

/-- **A cursor is its stream.**  A step of either yields the same, and what is behind it is the
    stream of what is behind it. -/
theorem next_stream (c : Cursor) : c.stream.next = c.next.map (Prod.map id stream) := by
  obtain ⟨words, order, offset, failed⟩ := c
  unfold next
  split
  · rename_i hend
    have hnone : (stream ⟨words, order, offset, failed⟩).next = none := by
      refine Stream.next_eq_none_iff.2 (hend.imp id ?_)
      exact List.drop_eq_nil_of_le
    rw [hnone]
    rfl
  · rename_i hend
    obtain ⟨hfailed, hinside⟩ := not_or.1 hend
    have hlt : offset < words.length := Nat.not_le.1 hinside
    obtain rfl : failed = false := Bool.eq_false_of_not_eq_true hfailed
    have hrest : words.drop offset = words[offset] :: words.drop (offset + 1) :=
      List.drop_eq_getElem_cons hlt
    rw [decodeNext_eq, stream, hrest, Stream.next_cons, ← hrest]
    cases Stream.decode order offset words[offset] (words.drop offset) with
    | error e => simp [stream]
    | ok inst => simp [stream, List.drop_drop]

/-- **A run of a cursor is the run of its stream.** -/
theorem after_stream (n : Nat) (c : Cursor) : c.stream.after n = (c.after n).stream := by
  induction n generalizing c with
  | zero => rfl
  | succ n ih =>
    have hnext := next_stream c
    cases hc : c.next with
    | none =>
      rw [hc, Option.map_none] at hnext
      rw [Stream.after_of_next_none hnext, after, hc]
    | some p =>
      obtain ⟨r, d⟩ := p
      rw [hc, Option.map_some] at hnext
      rw [Stream.after_succ_of_next_some hnext, after, hc]
      exact ih d

/-- A cursor and a stream that start at the same place of the same words are at the same place
    after every number of steps, and yield the same next. -/
theorem startingAt_run (words : List Word) (order : ByteOrder) (start n : Nat) :
    let c := (startingAt words order start).after n
    let s := (Stream.startingAt words order start).after n
    s.offset = c.offset ∧ s.next.map Prod.fst = c.next.map Prod.fst := by
  intro c s
  have hs : s = c.stream := after_stream n (startingAt words order start)
  rw [hs, next_stream, Option.map_map]
  exact ⟨rfl, rfl⟩

end Cursor

end Spirv
