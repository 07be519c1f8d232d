/-
  What words are accepted, and what is said of the others.

  `Written order insts words` says that the words are those of well-formed instructions,
  and `Broken order insts rest e words` that they are so up to `rest`, where the defect
  `e` is.  Main statement: words are one or the other, never both, and in one way; decoding
  answers accordingly (`decodeAll_written_or_broken`).
-/
import Spirv.Proofs.Stream.Division

namespace Spirv

open Instruction (encodeAll)

namespace Stream

/-- The words are the instructions, one after the other, and nothing else. -/
def Written (order : ByteOrder) (insts : List Instruction) (words : List Word) : Prop :=
  (∀ inst ∈ insts, inst.WellFormed) ∧ words = encodeAll order insts

/-- The words are the instructions and then `rest`, which has the defect at its front. -/
def Broken (order : ByteOrder) (insts : List Instruction) (rest : List Word) (e : Error)
    (words : List Word) : Prop :=
  (∀ inst ∈ insts, inst.WellFormed) ∧ words = encodeAll order insts ++ rest ∧
    Defect order (encodeAll order insts).length rest e

variable {order : ByteOrder} {words rest : List Word} {insts : List Instruction} {e : Error}

theorem written_iff :
    Written order insts words ↔ Division order 0 words insts [] none := by
  constructor
  · rintro ⟨hwf, rfl⟩
    exact ⟨hwf, (List.append_nil _).symm, .finished⟩
  · intro d
    exact ⟨d.wellFormed, by rw [d.words_eq, List.append_nil]⟩

theorem broken_iff :
    Broken order insts rest e words ↔ Division order 0 words insts rest (some e) := by
  constructor
  · rintro ⟨hwf, hwords, hdef⟩
    rw [← Nat.zero_add (encodeAll order insts).length] at hdef
    exact ⟨hwf, hwords, .broken hdef⟩
  · rintro ⟨hwf, hwords, hend⟩
    rw [Nat.zero_add] at hend
    cases hend with
    | broken hdef => exact ⟨hwf, hwords, hdef⟩

/-- The words are written in one way and not broken, or broken in one way and not
    written. -/
theorem existsUnique_written_or_broken (words : List Word) (order : ByteOrder) :
    ((∃! insts, Written order insts words) ∧
        ¬ ∃ insts rest e, Broken order insts rest e words) ∨
      ((∃! parts : List Instruction × List Word × Error,
          Broken order parts.1 parts.2.1 parts.2.2 words) ∧
        ¬ ∃ insts, Written order insts words) := by
  obtain ⟨insts, rest, defect, d⟩ := exists_division order 0 words
  cases defect with
  | none =>
    obtain rfl := d.ending.eq_nil_iff.2 rfl
    refine .inl ⟨⟨insts, written_iff.2 d, ?_⟩, ?_⟩
    · intro insts' h
      exact ((written_iff.1 h).unique d).1
    · rintro ⟨insts', rest', e, h⟩
      cases ((broken_iff.1 h).unique d).2.2
  | some e =>
    refine .inr ⟨⟨(insts, rest, e), broken_iff.2 d, ?_⟩, ?_⟩
    · rintro ⟨insts', rest', e'⟩ h
      obtain ⟨hinsts, hrest, hdefect⟩ := (broken_iff.1 h).unique d
      exact Prod.ext hinsts (Prod.ext hrest (Option.some.inj hdefect))
    · rintro ⟨insts', h⟩
      cases ((written_iff.1 h).unique d).2.2

end Stream

open Spirv.Stream (Written Broken)

/-- **Decoding accepts exactly its grammar and reports the first defect.**  Words are
    written in one way or broken in one way.  If they are written, decoding gives the
    instructions.  If they are broken, it gives the error of the defect, and a stream
    yields the instructions in front of it and then the error; its offset reaches the
    place of the defect and stays there. -/
theorem decodeAll_written_or_broken (words : List Word) (order : ByteOrder) :
    (((∃! insts, Written order insts words) ∧
        ¬ ∃ insts rest e, Broken order insts rest e words) ∨
      ((∃! parts : List Instruction × List Word × Error,
          Broken order parts.1 parts.2.1 parts.2.2 words) ∧
        ¬ ∃ insts, Written order insts words)) ∧
    (∀ insts, Written order insts words → decodeAll words order = .ok insts) ∧
    (∀ insts rest e, Broken order insts rest e words →
      decodeAll words order = .error e ∧
      (Stream.ofWords words order).items = insts.map .ok ++ [.error e] ∧
      ∀ n, insts.length ≤ n →
        ((Stream.ofWords words order).after n).offset = (encodeAll order insts).length) := by
  refine ⟨Stream.existsUnique_written_or_broken words order, ?_, ?_⟩
  · intro insts h
    exact (Stream.written_iff.1 h).collect_eq
  · intro insts rest e h
    have d := Stream.broken_iff.1 h
    refine ⟨d.collect_eq, d.items_eq, ?_⟩
    intro n hn
    have hoffset := d.offset_after hn
    rwa [Nat.zero_add] at hoffset

end Spirv
