/-
  Words behind words.

  `Error.moved n e` is the error `e` with the place that it names moved on by `n` words.
  A division at one offset is a division at every other, with its error moved
  (`Division.moved`), and well-formed instructions can be put in front of it
  (`Division.prepend`).

  What becomes of a defect when more words follow depends on its kind.  A count of zero and
  an unknown operation stay (`Defect.append`).  A truncated instruction stays truncated, with
  more words available, until the missing ones are there
  (`Defect.truncated_append`); from then on nothing is truncated at its place
  (`Division.ne_truncated`).

  Main statement: decoding of appended words, in these three cases (`decodeAll_append`).
-/
import Spirv.Proofs.Stream.Division

namespace Spirv

open Instruction (encodeAll length_encodeAll)

/-- The error with the place that it names, if it names one, moved on by `n` words. -/
def Error.moved (n : Nat) : Error → Error
  | .wordCountZero offset => .wordCountZero (offset + n)
  | .truncated offset needed available => .truncated (offset + n) needed available
  | e => e

namespace Stream

variable {order : ByteOrder} {offset : Nat} {words rest : List Word}
  {insts : List Instruction} {defect : Option Error}

/-! ## Another place -/

theorem Defect.moved {e : Error} (h : Defect order offset words e) (n : Nat) :
    Defect order (offset + n) words (e.moved n) := by
  cases h with
  | wordCountZero hcount => exact .wordCountZero hcount
  | truncated hcount => exact .truncated hcount
  | unknownOpcode hpos hcount hcode => exact .unknownOpcode hpos hcount hcode

theorem Ending.moved (h : Ending order offset words defect) (n : Nat) :
    Ending order (offset + n) words (defect.map (Error.moved n)) := by
  cases h with
  | finished => exact .finished
  | broken h => exact .broken (h.moved n)

/-- **Places move together.**  Words that start `n` words later divide in the same way, and
    the place of their defect is `n` words later. -/
theorem Division.moved (d : Division order offset words insts rest defect) (n : Nat) :
    Division order (offset + n) words insts rest (defect.map (Error.moved n)) := by
  refine ⟨d.wellFormed, d.words_eq, ?_⟩
  rw [Nat.add_right_comm]
  exact d.ending.moved n

/-- Instructions may be put in front of words that divide behind them. -/
theorem Division.prepend {front : List Instruction} (hwf : ∀ inst ∈ front, inst.WellFormed)
    (d : Division order (offset + (encodeAll order front).length) words insts rest defect) :
    Division order offset (encodeAll order front ++ words) (front ++ insts) rest defect := by
  have happ : encodeAll order (front ++ insts) = encodeAll order front ++ encodeAll order insts :=
    List.flatMap_append
  refine ⟨?_, ?_, ?_⟩
  · intro inst hinst
    rcases List.mem_append.1 hinst with h | h
    · exact hwf inst h
    · exact d.wellFormed inst h
  · rw [happ, List.append_assoc, d.words_eq]
  · rw [happ, List.length_append, ← Nat.add_assoc]
    exact d.ending

/-! ## More words behind a defect -/

/-- Only a truncated instruction asks for what follows. -/
theorem Defect.append {e : Error} (h : Defect order offset words e)
    (hkind : ∀ o n a, e ≠ .truncated o n a) (more : List Word) :
    Defect order offset (words ++ more) e := by
  cases h with
  | wordCountZero hcount => exact .wordCountZero hcount
  | truncated _ => exact absurd rfl (hkind _ _ _)
  | unknownOpcode hpos hcount hcode =>
    refine .unknownOpcode hpos ?_ hcode
    simp only [List.append_eq, List.length_cons, List.length_append] at hcount ⊢
    omega

/-- A truncated instruction stays truncated while words are missing. -/
theorem Defect.truncated_append {place needed available : Nat}
    (h : Defect order offset words (.truncated place needed available)) {more : List Word}
    (hshort : more.length < needed - available) :
    Defect order offset (words ++ more) (.truncated place needed (available + more.length)) := by
  cases h with
  | @truncated raw tail hcount =>
    have hlen : (raw :: tail).length + more.length = (raw :: (tail ++ more)).length :=
      List.length_append.symm
    rw [hlen]
    refine .truncated ?_
    simp only [List.append_eq, List.length_cons, List.length_append] at hcount hshort ⊢
    omega

/-- A truncated instruction is no longer so when its words are there. -/
theorem Defect.not_truncated_append {place needed available : Nat}
    (h : Defect order offset words (.truncated place needed available)) {more : List Word}
    (hlong : needed - available ≤ more.length) (place' needed' available' : Nat) :
    ¬ Defect order offset (words ++ more) (.truncated place' needed' available') := by
  intro h'
  cases h with
  | truncated hcount =>
    cases h' with
    | truncated hcount' =>
      simp only [List.append_eq, List.length_cons, List.length_append] at hcount hcount' hlong
      omega

/-- What is truncated lies behind the instructions. -/
theorem Division.place_eq {place needed available : Nat}
    (d : Division order offset words insts rest (some (.truncated place needed available))) :
    place = offset + (encodeAll order insts).length := by
  obtain ⟨-, -, hend⟩ := d
  cases hend with
  | broken h =>
    cases h with
    | truncated => rfl

/-- If nothing is truncated at the front, then nothing is reported truncated there: behind an
    instruction the place is another one. -/
theorem Division.ne_truncated (d : Division order offset words insts rest defect)
    (hfront : ∀ place needed available,
      ¬ Defect order offset words (.truncated place needed available)) (needed available : Nat) :
    defect ≠ some (.truncated offset needed available) := by
  rintro rfl
  have hplace := d.place_eq
  cases insts with
  | nil =>
    obtain ⟨-, hwords, hend⟩ := d
    cases hend with
    | broken h =>
      rw [hwords] at hfront
      exact hfront _ _ _ h
  | cons inst insts =>
    have hpos := (d.wellFormed inst List.mem_cons_self).one_le_wordCount
    rw [length_encodeAll, List.map_cons, List.sum_cons] at hplace
    omega

end Stream

open Spirv.Stream (Defect Division verdict exists_division)

/-! ## Decoding -/

theorem decodeAll_append_of_ok {a b : List Word} {order : ByteOrder} {xs : List Instruction}
    (h : decodeAll a order = .ok xs) {ys : List Instruction} {rest : List Word}
    {defect : Option Error} (d : Division order 0 b ys rest defect) :
    decodeAll (a ++ b) order = verdict (xs ++ ys) (defect.map (Error.moved a.length)) := by
  have hxs := decodeAll_eq_ok_iff.1 h
  have ha : a = encodeAll order xs := (encodeAll_of_decodeAll h).symm
  have hd := d.moved a.length
  rw [ha] at hd ⊢
  exact (hd.prepend hxs.wellFormed).collect_eq

/-- Words that end in a defect, and more words behind it: what is decoded is said by the
    division of everything from the defect on. -/
theorem decodeAll_append_of_error {a b : List Word} {order : ByteOrder} {e : Error}
    (h : decodeAll a order = .error e) :
    ∃ start tail, Defect order start tail e ∧
      ∀ insts rest defect, Division order start (tail ++ b) insts rest defect →
        ∃ front, decodeAll (a ++ b) order = verdict (front ++ insts) defect := by
  obtain ⟨front, tail, d⟩ := decodeAll_eq_error_iff.1 h
  obtain ⟨hwf, hwords, hend⟩ := d
  cases hend with
  | broken hdef =>
    refine ⟨_, tail, hdef, ?_⟩
    intro insts rest defect d
    refine ⟨front, ?_⟩
    rw [hwords, List.append_assoc]
    exact (d.prepend hwf).collect_eq

/-- **Decoding is compositional.**  Behind words that decode, other words decode as they do
    alone, with their error at a later place.  A word count of zero or an unknown operation
    is reported whatever follows.  A truncated instruction is reported truncated until the
    words that it lacks are there, and then no longer. -/
theorem decodeAll_append (a b : List Word) (order : ByteOrder) :
    (∀ xs, decodeAll a order = .ok xs →
      (∀ ys, decodeAll b order = .ok ys → decodeAll (a ++ b) order = .ok (xs ++ ys)) ∧
      ∀ e, decodeAll b order = .error e →
        decodeAll (a ++ b) order = .error (e.moved a.length)) ∧
    (∀ offset, decodeAll a order = .error (.wordCountZero offset) →
      decodeAll (a ++ b) order = .error (.wordCountZero offset)) ∧
    (∀ code, decodeAll a order = .error (.unknownOpcode code) →
      decodeAll (a ++ b) order = .error (.unknownOpcode code)) ∧
    ∀ offset needed available,
      decodeAll a order = .error (.truncated offset needed available) →
      (b.length < needed - available →
        decodeAll (a ++ b) order =
          .error (.truncated offset needed (available + b.length))) ∧
      (needed - available ≤ b.length → ∀ needed' available',
        decodeAll (a ++ b) order ≠ .error (.truncated offset needed' available')) := by
  -- A defect that stays is the whole division of what follows the instructions.
  have hstays : ∀ e e', decodeAll a order = .error e →
      (∀ start tail, Defect order start tail e → Defect order start (tail ++ b) e') →
      decodeAll (a ++ b) order = .error e' := by
    intro e e' h hdef
    obtain ⟨start, tail, hd, hall⟩ := decodeAll_append_of_error (b := b) h
    obtain ⟨front, hfront⟩ := hall _ _ _ (Stream.Ending.broken (hdef start tail hd)).division
    exact hfront
  refine ⟨?_, ?_, ?_, ?_⟩
  · intro xs hxs
    refine ⟨?_, ?_⟩
    · intro ys hys
      exact decodeAll_append_of_ok hxs (decodeAll_eq_ok_iff.1 hys)
    · intro e he
      obtain ⟨ys, rest, d⟩ := decodeAll_eq_error_iff.1 he
      exact decodeAll_append_of_ok hxs d
  · intro offset h
    exact hstays _ _ h fun start tail hd => hd.append (by intro o n a; simp) b
  · intro code h
    exact hstays _ _ h fun start tail hd => hd.append (by intro o n a; simp) b
  · intro offset needed available h
    refine ⟨?_, ?_⟩
    · intro hshort
      exact hstays _ _ h fun start tail hd => hd.truncated_append hshort
    · intro hlong needed' available' h'
      obtain ⟨start, tail, hd, hall⟩ := decodeAll_append_of_error (b := b) h
      obtain ⟨insts, rest, defect, d⟩ := exists_division order start (tail ++ b)
      obtain ⟨front, hfront⟩ := hall _ _ _ d
      rw [h'] at hfront
      cases defect with
      | none => cases hfront
      | some e =>
        have hplace : offset = start := by
          cases hd with
          | truncated => rfl
        refine d.ne_truncated (hd.not_truncated_append hlong) needed' available' ?_
        rw [← hplace, ← Except.error.inj hfront]

/-- An instruction that lacks two words, is given one of them, and then both. -/
theorem decodeAll_append_lacking :
    let a : List Word := [0x00010000, 0x00030015]
    decodeAll a .little = .error (.truncated 1 3 1) ∧
      decodeAll (a ++ [7]) .little = .error (.truncated 1 3 2) ∧
      ∀ needed available,
        decodeAll (a ++ [7, 8]) .little ≠ .error (.truncated 1 needed available) := by
  have h : decodeAll [0x00010000, 0x00030015] .little = .error (.truncated 1 3 1) := by
    decide +kernel
  have hone := (decodeAll_append [0x00010000, 0x00030015] [7] .little).2.2.2 1 3 1 h
  have hboth := (decodeAll_append [0x00010000, 0x00030015] [7, 8] .little).2.2.2 1 3 1 h
  exact ⟨h, hone.1 (by decide), hboth.2 (by decide)⟩

end Spirv
