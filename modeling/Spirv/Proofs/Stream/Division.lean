/-
  Whole runs of a stream: how words divide into instructions.

  `Division order offset words insts rest defect` says that the words are the
  instructions, all of them well formed, and then `rest`, where `rest` is empty if there is
  no defect and has the defect at its front otherwise.  The offset counts on from `offset`.

  - all words divide (`exists_division`), and in one way only (`Division.unique`);
  - a run yields what the division says: the instructions, then the error if there is one,
    and it stops in front of `rest` (`Division.drain_eq`, `Division.collect_eq`);
  - once the instructions have been yielded, the offset is that of `rest`, however often
    the stream is asked again (`Division.offset_after`);
  - what every step keeps, any number of calls keep, for one stream (`after_invariant`) and
    for two side by side (`after_simulation`);
  - a map of streams that each step respects is respected by whole runs (`after_image`,
    `items_image`).

  So what a run does over words that may be malformed anywhere is read off a division.
-/
import Spirv.Proofs.Stream.Step

namespace Spirv

namespace Stream

open Instruction (encode encodeAll encodeAll_cons length_encode)

/-! ## Divisions -/

/-- What is left of the words behind the last instruction, from `offset` on. -/
inductive Ending (order : ByteOrder) (offset : Nat) : List Word → Option Error → Prop where
  /-- Nothing is left. -/
  | finished : Ending order offset [] none
  /-- Words are left, and they do not begin with an instruction. -/
  | broken {rest : List Word} {e : Error} (h : Defect order offset rest e) :
      Ending order offset rest (some e)

/-- The words from `offset` on are the instructions and then `rest`. -/
structure Division (order : ByteOrder) (offset : Nat) (words : List Word)
    (insts : List Instruction) (rest : List Word) (defect : Option Error) : Prop where
  wellFormed : ∀ inst ∈ insts, inst.WellFormed
  words_eq : words = encodeAll order insts ++ rest
  ending : Ending order (offset + (encodeAll order insts).length) rest defect

theorem Ending.eq_nil_iff {order : ByteOrder} {offset : Nat} {rest : List Word}
    {defect : Option Error} (h : Ending order offset rest defect) :
    rest = [] ↔ defect = none := by
  cases h with
  | finished => simp
  | broken h => cases h <;> simp

theorem Ending.division {order : ByteOrder} {offset : Nat} {words : List Word}
    {defect : Option Error} (h : Ending order offset words defect) :
    Division order offset words [] words defect :=
  ⟨by simp, rfl, h⟩

theorem Division.cons {order : ByteOrder} {offset : Nat} {words rest : List Word}
    {inst : Instruction} {insts : List Instruction} {defect : Option Error}
    (h : inst.WellFormed)
    (d : Division order (offset + inst.wordCount) words insts rest defect) :
    Division order offset (encode order inst ++ words) (inst :: insts) rest defect := by
  refine ⟨List.forall_mem_cons.2 ⟨h, d.wellFormed⟩, ?_, ?_⟩
  · rw [d.words_eq, encodeAll_cons, List.append_assoc]
  · rw [encodeAll_cons, List.length_append, length_encode, ← Nat.add_assoc]
    exact d.ending

/-- **Words divide.**  Whatever they are, the words are well-formed instructions up to
    their end or to the first defect. -/
theorem exists_division (order : ByteOrder) (offset : Nat) (words : List Word) :
    ∃ insts rest defect, Division order offset words insts rest defect := by
  induction hlen : words.length using Nat.strongRecOn generalizing offset words with
  | _ n ih =>
    by_cases hnil : words = []
    · subst hnil
      exact ⟨[], [], none, Ending.finished.division⟩
    rcases exists_encode_or_defect order offset hnil with ⟨inst, tail, hwf, rfl⟩ | ⟨e, he⟩
    · have hpos := hwf.one_le_wordCount
      rw [List.length_append, length_encode] at hlen
      obtain ⟨insts, rest, defect, d⟩ :=
        ih tail.length (by omega) (offset + inst.wordCount) tail rfl
      exact ⟨inst :: insts, rest, defect, d.cons hwf⟩
    · exact ⟨[], words, some e, (Ending.broken he).division⟩

/-! ## What a run yields -/

/-- The instructions, and then the error if there is one. -/
def outcomes (insts : List Instruction) (defect : Option Error) :
    List (Except Error Instruction) :=
  insts.map .ok ++ defect.toList.map .error

theorem filterMap_toOption_outcomes (insts : List Instruction) (defect : Option Error) :
    (outcomes insts defect).filterMap Except.toOption = insts := by
  rw [outcomes, List.filterMap_append, List.filterMap_map, List.filterMap_map]
  cases defect <;> simp [Function.comp_def, Except.toOption]

theorem error_mem_outcomes {insts : List Instruction} {defect : Option Error} {e : Error} :
    .error e ∈ outcomes insts defect ↔ defect = some e := by
  simp [outcomes]

/-- The instructions, or the error if there is one. -/
def verdict (insts : List Instruction) : Option Error → Except Error (List Instruction)
  | none => .ok insts
  | some e => .error e

theorem mapM_outcomes (insts : List Instruction) (defect : Option Error) :
    (outcomes insts defect).mapM id = verdict insts defect := by
  induction insts with
  | nil => cases defect <;> rfl
  | cons inst insts ih =>
    rw [outcomes] at ih
    rw [outcomes, List.map_cons, List.cons_append, List.mapM_cons, ih]
    cases defect <;> rfl

/-- The instructions that the stream still yields. -/
def instructions (s : Stream) : List Instruction :=
  s.items.filterMap Except.toOption

theorem drain_of_ending {order : ByteOrder} {offset : Nat} {words : List Word}
    {defect : Option Error} (h : Ending order offset words defect) :
    (⟨words, order, offset, false⟩ : Stream).drain =
      (outcomes [] defect, ⟨words, order, offset, defect.isSome⟩) := by
  cases h with
  | finished => exact drain_of_next_none (next_nil order offset false)
  | broken h =>
    have hlast : (⟨words, order, offset, true⟩ : Stream).next = none := next_of_failed rfl
    rw [drain_of_next_some (next_of_defect h), items_of_next_none hlast,
      atEnd_of_next_none hlast]
    rfl

/-- **A run follows the division.**  It yields the instructions and then the error, and it
    stops in front of what is left. -/
theorem Division.drain_eq {order : ByteOrder} {offset : Nat} {words rest : List Word}
    {insts : List Instruction} {defect : Option Error}
    (d : Division order offset words insts rest defect) :
    (⟨words, order, offset, false⟩ : Stream).drain =
      (outcomes insts defect,
        ⟨rest, order, offset + (encodeAll order insts).length, defect.isSome⟩) := by
  obtain ⟨hwf, rfl, hend⟩ := d
  induction insts generalizing offset with
  | nil => exact drain_of_ending hend
  | cons inst insts ih =>
    obtain ⟨hinst, hinsts⟩ := List.forall_mem_cons.1 hwf
    rw [encodeAll_cons, List.length_append, length_encode, ← Nat.add_assoc] at hend ⊢
    have htail := ih hinsts hend
    rw [List.append_assoc, drain_of_next_some (next_encode_append hinst order offset _), items,
      atEnd, htail]
    rfl

section Run

variable {order : ByteOrder} {offset : Nat} {words rest : List Word}
  {insts : List Instruction} {defect : Option Error}

theorem Division.items_eq (d : Division order offset words insts rest defect) :
    (⟨words, order, offset, false⟩ : Stream).items = outcomes insts defect := by
  rw [items, d.drain_eq]

theorem Division.instructions_eq (d : Division order offset words insts rest defect) :
    (⟨words, order, offset, false⟩ : Stream).instructions = insts := by
  rw [instructions, d.items_eq, filterMap_toOption_outcomes]

theorem Division.atEnd_eq (d : Division order offset words insts rest defect) :
    (⟨words, order, offset, false⟩ : Stream).atEnd =
      ⟨rest, order, offset + (encodeAll order insts).length, defect.isSome⟩ := by
  rw [atEnd, d.drain_eq]

theorem Division.collect_eq (d : Division order offset words insts rest defect) :
    (⟨words, order, offset, false⟩ : Stream).collect = verdict insts defect := by
  rw [collect, d.items_eq, mapM_outcomes]

/-- **Words divide in one way.** -/
theorem Division.unique {rest' : List Word} {insts' : List Instruction} {defect' : Option Error}
    (d : Division order offset words insts rest defect)
    (d' : Division order offset words insts' rest' defect') :
    insts = insts' ∧ rest = rest' ∧ defect = defect' := by
  have hitems : outcomes insts defect = outcomes insts' defect' := by
    rw [← d.items_eq, d'.items_eq]
  have hend := d.atEnd_eq.symm.trans d'.atEnd_eq
  refine ⟨?_, congrArg Stream.rest hend, ?_⟩
  · rw [← filterMap_toOption_outcomes insts defect, hitems, filterMap_toOption_outcomes]
  · apply Option.ext
    intro e
    have hmem : .error e ∈ outcomes insts defect ↔ .error e ∈ outcomes insts' defect' := by
      rw [hitems]
    rwa [error_mem_outcomes, error_mem_outcomes] at hmem

/-- A run gives instructions exactly when the words are these and nothing else. -/
theorem collect_eq_ok_iff :
    (⟨words, order, offset, false⟩ : Stream).collect = .ok insts ↔
      Division order offset words insts [] none := by
  constructor
  · intro h
    obtain ⟨found, rest, defect, d⟩ := exists_division order offset words
    rw [d.collect_eq] at h
    cases defect with
    | none =>
      have hrest : rest = [] := d.ending.eq_nil_iff.2 rfl
      rw [← hrest, ← Except.ok.inj h]
      exact d
    | some e => cases h
  · intro d
    exact d.collect_eq

/-- A run gives an error exactly when the words divide up to it. -/
theorem collect_eq_error_iff {e : Error} :
    (⟨words, order, offset, false⟩ : Stream).collect = .error e ↔
      ∃ insts rest, Division order offset words insts rest (some e) := by
  constructor
  · intro h
    obtain ⟨insts, rest, defect, d⟩ := exists_division order offset words
    rw [d.collect_eq] at h
    cases defect with
    | none => cases h
    | some e' =>
      rw [← Except.error.inj h]
      exact ⟨insts, rest, d⟩
  · rintro ⟨insts, rest, d⟩
    exact d.collect_eq

end Run

/-! ## Call by call -/

/-- The stream after it has been asked for the next instruction `n` times. -/
def after : Nat → Stream → Stream
  | 0, s => s
  | n + 1, s =>
    match s.next with
    | none => s
    | some (_, t) => after n t

theorem after_of_next_none {s : Stream} (h : s.next = none) (n : Nat) : after n s = s := by
  cases n with
  | zero => rfl
  | succ n => rw [after, h]

theorem after_succ_of_next_some {s t : Stream} {r : Except Error Instruction}
    (h : s.next = some (r, t)) (n : Nat) : after (n + 1) s = after n t := by
  rw [after, h]

/-- What every step keeps, a stream keeps however often it is asked. -/
theorem after_invariant {P : Stream → Prop}
    (hstep : ∀ s r t, s.next = some (r, t) → P s → P t) {s : Stream} (h : P s) (n : Nat) :
    P (after n s) := by
  induction n generalizing s with
  | zero => exact h
  | succ n ih =>
    cases hs : s.next with
    | none =>
      rw [after_of_next_none hs]
      exact h
    | some p =>
      obtain ⟨r, t⟩ := p
      rw [after_succ_of_next_some hs]
      exact ih (hstep s r t hs h)

/-- Two streams of which the second keeps step with the first do so however often both are
    asked. -/
theorem after_simulation {R : Stream → Stream → Prop}
    (hnone : ∀ s t, R s t → s.next = none → t.next = none)
    (hsome : ∀ s t r s', R s t → s.next = some (r, s') →
      ∃ r' t', t.next = some (r', t') ∧ R s' t')
    {s t : Stream} (h : R s t) (n : Nat) : R (after n s) (after n t) := by
  induction n generalizing s t with
  | zero => exact h
  | succ n ih =>
    cases hs : s.next with
    | none =>
      rw [after_of_next_none hs, after_of_next_none (hnone s t h hs)]
      exact h
    | some p =>
      obtain ⟨r, s'⟩ := p
      obtain ⟨r', t', ht, h'⟩ := hsome s t r s' h hs
      rw [after_succ_of_next_some hs, after_succ_of_next_some ht]
      exact ih h'

theorem after_add (m n : Nat) (s : Stream) : after (m + n) s = after n (after m s) := by
  induction m generalizing s with
  | zero => rw [Nat.zero_add, after]
  | succ m ih =>
    rw [Nat.succ_add]
    cases h : s.next with
    | none => rw [after_of_next_none h, after_of_next_none h, after_of_next_none h]
    | some p =>
      obtain ⟨r, t⟩ := p
      rw [after_succ_of_next_some h, after_succ_of_next_some h, ih]

/-- What the next call yields after `i` calls is the item at position `i`. -/
theorem getElem?_items (s : Stream) (i : Nat) : s.items[i]? = (after i s).next.map Prod.fst := by
  induction i generalizing s with
  | zero =>
    rw [after]
    cases h : s.next with
    | none => rw [items_of_next_none h]; rfl
    | some p => rw [items_of_next_some h]; rfl
  | succ i ih =>
    cases h : s.next with
    | none => rw [items_of_next_none h, after_of_next_none h, h]; rfl
    | some p =>
      obtain ⟨r, t⟩ := p
      rw [items_of_next_some h, after_succ_of_next_some h, List.getElem?_cons_succ, ih]

/-- The item at a position is what the call yields that follows as many others. -/
theorem exists_next_of_getElem?_items {s : Stream} {i : Nat} {r : Except Error Instruction}
    (h : s.items[i]? = some r) : ∃ t, (s.after i).next = some (r, t) := by
  rw [getElem?_items] at h
  obtain ⟨⟨r', t⟩, hnext, rfl⟩ := Option.map_eq_some_iff.1 h
  exact ⟨t, hnext⟩

/-! ### Images of streams

If a step of the image of a stream is the image of the step, then so are any number of calls
and all that is yielded. -/

section Image

variable {f : Stream → Stream} {g : Except Error Instruction → Except Error Instruction}

theorem fst_next_image (h : ∀ s, (f s).next = s.next.map (Prod.map g f)) (s : Stream) :
    (f s).next.map Prod.fst = (s.next.map Prod.fst).map g := by
  rw [h, Option.map_map, Option.map_map]
  rfl

theorem after_image (h : ∀ s, (f s).next = s.next.map (Prod.map g f)) (n : Nat) (s : Stream) :
    after n (f s) = f (after n s) := by
  refine after_simulation (R := fun s t => t = f s) ?_ ?_ (rfl : f s = f s) n
  · rintro s _ rfl hs
    rw [h, hs, Option.map_none]
  · rintro s _ r s' rfl hs
    refine ⟨g r, f s', ?_, rfl⟩
    rw [h, hs]
    rfl

theorem items_image (h : ∀ s, (f s).next = s.next.map (Prod.map g f)) (s : Stream) :
    (f s).items = s.items.map g := by
  apply List.ext_getElem?
  intro i
  rw [List.getElem?_map, getElem?_items, getElem?_items, after_image h, fst_next_image h]

end Image

theorem Ending.offset_after {order : ByteOrder} {offset : Nat} {words : List Word}
    {defect : Option Error} (h : Ending order offset words defect) (n : Nat) :
    (after n ⟨words, order, offset, false⟩).offset = offset := by
  cases h with
  | finished => rw [after_of_next_none (next_nil order offset false)]
  | broken h =>
    cases n with
    | zero => rfl
    | succ n =>
      rw [after_succ_of_next_some (next_of_defect h), after_of_next_none (next_of_failed rfl)]

/-- **The offset stays behind the instructions.**  After as many calls as there are
    instructions, and after any more, the offset is the place of what is left. -/
theorem Division.offset_after {order : ByteOrder} {offset : Nat} {words rest : List Word}
    {insts : List Instruction} {defect : Option Error}
    (d : Division order offset words insts rest defect) {n : Nat} (hn : insts.length ≤ n) :
    (after n ⟨words, order, offset, false⟩).offset =
      offset + (encodeAll order insts).length := by
  obtain ⟨hwf, rfl, hend⟩ := d
  induction insts generalizing offset n with
  | nil => exact hend.offset_after n
  | cons inst insts ih =>
    obtain ⟨hinst, hinsts⟩ := List.forall_mem_cons.1 hwf
    obtain ⟨m, rfl⟩ := Nat.exists_eq_add_of_le' (Nat.le_trans (Nat.succ_pos _) hn)
    rw [encodeAll_cons, List.length_append, length_encode, ← Nat.add_assoc] at hend ⊢
    rw [List.append_assoc, after_succ_of_next_some (next_encode_append hinst order offset _)]
    exact ih (Nat.le_of_succ_le_succ hn) hinsts hend

end Stream

/-! ## All of the words -/

/-- Decoding succeeds exactly when the words are these instructions and nothing else. -/
theorem decodeAll_eq_ok_iff {words : List Word} {order : ByteOrder} {insts : List Instruction} :
    decodeAll words order = .ok insts ↔ Stream.Division order 0 words insts [] none :=
  Stream.collect_eq_ok_iff

theorem encodeAll_of_decodeAll {words : List Word} {order : ByteOrder}
    {insts : List Instruction} (h : decodeAll words order = .ok insts) :
    Instruction.encodeAll order insts = words := by
  have d := decodeAll_eq_ok_iff.1 h
  rw [d.words_eq, List.append_nil]

/-- Decoding fails exactly when the words divide up to the error. -/
theorem decodeAll_eq_error_iff {words : List Word} {order : ByteOrder} {e : Error} :
    decodeAll words order = .error e ↔
      ∃ insts rest, Stream.Division order 0 words insts rest (some e) :=
  Stream.collect_eq_error_iff

end Spirv
