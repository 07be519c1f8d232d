/-
  Streams of instructions.

  A `Stream` walks a list of raw words, one instruction at a time.  `next` reads the
  header at the current place, checks the length that it declares, resolves the operation
  and copies the words; after the first error the stream is at its end for good.

  - all that a step does to a stream is told by `next_cases`, and by `next_cons` for a
    stream with a word in front;
  - each step that yields leaves less to walk (`remaining_lt_of_next`), so `drain` is
    total;
  - `drain` unfolds along `next` (`drain_of_next_none`, `drain_of_next_some`);
  - an instruction moves the offset by its length, an error does not move it
    (`offset_of_next_ok`, `offset_of_next_error`).
-/
import Spirv.Instruction

namespace Spirv

/-- A place in a list of raw words. -/
structure Stream where
  /-- The raw words from the current place on. -/
  rest : List Word
  /-- The byte order of the words. -/
  order : ByteOrder
  /-- The current place, in words from the start of the list. -/
  offset : Nat
  /-- Whether an error has been met. -/
  failed : Bool
  deriving DecidableEq

namespace Stream

/-- The stream over `words` that starts at `offset`, where an instruction must start. -/
def startingAt (words : List Word) (order : ByteOrder) (offset : Nat) : Stream :=
  ⟨words.drop offset, order, offset, false⟩

/-- The stream over `words`. -/
def ofWords (words : List Word) (order : ByteOrder) : Stream :=
  startingAt words order 0

/-! ## One step -/

/-- The instruction whose raw header is `head`, the first of the words `rest` at `offset`.
    The declared length is checked before the operation is resolved. -/
def decode (order : ByteOrder) (offset : Nat) (head : Word) (rest : List Word) :
    Except Error Instruction :=
  let header := Instruction.Header.ofWord (order.toHost head)
  let needed := header.wordCount.toNat
  if header.wordCount = 0 then
    .error (.wordCountZero offset)
  else if (rest.take needed).length < needed then
    .error (.truncated offset needed rest.length)
  else
    match Opcode.ofCode header.code with
    | .error e => .error e
    | .ok op => Instruction.copy rest op header.wordCount order

/-- The next instruction or error and the stream after it; `none` at the end.  The stream
    moves by the declared length, which is that of the instruction (`wordCount_of_decode`). -/
def next (s : Stream) : Option (Except Error Instruction × Stream) :=
  if s.failed then none
  else
    match s.rest with
    | [] => none
    | head :: _ =>
      let needed := (Instruction.Header.ofWord (s.order.toHost head)).wordCount.toNat
      match decode s.order s.offset head s.rest with
      | .ok inst =>
        some (.ok inst, { s with rest := s.rest.drop needed, offset := s.offset + needed })
      | .error e => some (.error e, { s with failed := true })

/-! ## Progress -/

/-- The number of words that a step may still look at. -/
def remaining (s : Stream) : Nat :=
  if s.failed then 0 else s.rest.length

theorem wordCount_of_decode {order : ByteOrder} {offset : Nat} {head : Word} {rest : List Word}
    {inst : Instruction} (h : decode order offset head rest = .ok inst) :
    inst.wordCount = (Instruction.Header.ofWord (order.toHost head)).wordCount.toNat ∧
      1 ≤ inst.wordCount ∧ inst.wordCount ≤ rest.length := by
  unfold decode at h
  simp only at h
  split at h
  · cases h
  · rename_i hzero
    split at h
    · cases h
    · rename_i hlen
      split at h
      · cases h
      · have hcount := Instruction.wordCount_of_copy h
        have hne : (Instruction.Header.ofWord (order.toHost head)).wordCount.toNat ≠ 0 :=
          fun hz => hzero (UInt16.toNat_inj.1 hz)
        rw [List.length_take] at hlen
        exact ⟨hcount, by omega, by omega⟩

/-- The declared length that a stream moves by is that of the instruction. -/
theorem next_cons (order : ByteOrder) (offset : Nat) (head : Word) (tail : List Word) :
    (⟨head :: tail, order, offset, false⟩ : Stream).next =
      match decode order offset head (head :: tail) with
      | .ok inst =>
        some (.ok inst,
          ⟨(head :: tail).drop inst.wordCount, order, offset + inst.wordCount, false⟩)
      | .error e => some (.error e, ⟨head :: tail, order, offset, true⟩) := by
  have hnext : (⟨head :: tail, order, offset, false⟩ : Stream).next =
      match decode order offset head (head :: tail) with
      | .ok inst =>
        let needed := (Instruction.Header.ofWord (order.toHost head)).wordCount.toNat
        some (.ok inst, ⟨(head :: tail).drop needed, order, offset + needed, false⟩)
      | .error e => some (.error e, ⟨head :: tail, order, offset, true⟩) := rfl
  rw [hnext]
  cases hdec : decode order offset head (head :: tail) with
  | ok inst => simp only [(wordCount_of_decode hdec).1]
  | error e => rfl

/-- A step that yields has a word in front, and yields what is decoded there: behind an
    instruction the stream has moved by its length, behind an error it has failed. -/
theorem next_cases {s t : Stream} {r : Except Error Instruction} (h : s.next = some (r, t)) :
    s.failed = false ∧ ∃ head tail, s.rest = head :: tail ∧
      ((∃ inst, r = .ok inst ∧ decode s.order s.offset head s.rest = .ok inst ∧
          t = { s with rest := s.rest.drop inst.wordCount, offset := s.offset + inst.wordCount }) ∨
        ∃ e, r = .error e ∧ t = { s with failed := true }) := by
  obtain ⟨words, order, offset, failed⟩ := s
  cases failed with
  | true => cases h
  | false =>
    cases words with
    | nil => cases h
    | cons head tail =>
      rw [next_cons] at h
      refine ⟨rfl, head, tail, rfl, ?_⟩
      cases hdec : decode order offset head (head :: tail) with
      | ok inst =>
        rw [hdec] at h
        cases h
        exact .inl ⟨inst, rfl, rfl, rfl⟩
      | error e =>
        rw [hdec] at h
        cases h
        exact .inr ⟨e, rfl, rfl⟩

theorem remaining_lt_of_next {s t : Stream} {r : Except Error Instruction}
    (h : s.next = some (r, t)) : t.remaining < s.remaining := by
  obtain ⟨hfailed, head, tail, hrest, ⟨inst, -, hdec, rfl⟩ | ⟨e, -, rfl⟩⟩ := next_cases h
  · obtain ⟨-, hpos, hle⟩ := wordCount_of_decode hdec
    simp only [remaining, hfailed, List.length_drop, Bool.false_eq_true, if_false]
    omega
  · simp [remaining, hfailed, hrest]

/-! ## To the end -/

/-- Everything that the stream still yields, and the stream at its end. -/
def drain (s : Stream) : List (Except Error Instruction) × Stream :=
  match h : s.next with
  | none => ([], s)
  | some (r, t) =>
    have := remaining_lt_of_next h
    let (rs, last) := t.drain
    (r :: rs, last)
termination_by s.remaining

/-- Everything that the stream still yields. -/
def items (s : Stream) : List (Except Error Instruction) :=
  s.drain.1

/-- The stream at its end. -/
def atEnd (s : Stream) : Stream :=
  s.drain.2

/-- The instructions that the stream still yields, or its error. -/
def collect (s : Stream) : Except Error (List Instruction) :=
  s.items.mapM id

theorem drain_of_next_none {s : Stream} (h : s.next = none) : s.drain = ([], s) := by
  rw [drain]
  split
  · rfl
  · rename_i h'
    rw [h] at h'
    cases h'

theorem drain_of_next_some {s t : Stream} {r : Except Error Instruction}
    (h : s.next = some (r, t)) : s.drain = (r :: t.items, t.atEnd) := by
  rw [drain]
  split
  · rename_i h'
    rw [h] at h'
    cases h'
  · rename_i h'
    rw [h] at h'
    cases h'
    rfl

theorem items_of_next_none {s : Stream} (h : s.next = none) : s.items = [] := by
  rw [items, drain_of_next_none h]

theorem items_of_next_some {s t : Stream} {r : Except Error Instruction}
    (h : s.next = some (r, t)) : s.items = r :: t.items := by
  rw [items, drain_of_next_some h]

theorem atEnd_of_next_none {s : Stream} (h : s.next = none) : s.atEnd = s := by
  rw [atEnd, drain_of_next_none h]

/-! ## The offset -/

theorem offset_of_next_ok {s t : Stream} {inst : Instruction} (h : s.next = some (.ok inst, t)) :
    t.offset = s.offset + inst.wordCount ∧ t.rest = s.rest.drop inst.wordCount := by
  obtain ⟨-, _, _, -, ⟨_, hinst, -, rfl⟩ | ⟨_, herror, -⟩⟩ := next_cases h
  · cases hinst
    exact ⟨rfl, rfl⟩
  · cases herror

theorem offset_of_next_error {s t : Stream} {e : Error} (h : s.next = some (.error e, t)) :
    t.offset = s.offset ∧ t.failed = true := by
  obtain ⟨-, _, _, -, ⟨_, hinst, -, -⟩ | ⟨_, -, rfl⟩⟩ := next_cases h
  · cases hinst
  · exact ⟨rfl, rfl⟩

end Stream

/-- Every instruction in the words, or the first error. -/
def decodeAll (words : List Word) (order : ByteOrder) : Except Error (List Instruction) :=
  (Stream.ofWords words order).collect

end Spirv
