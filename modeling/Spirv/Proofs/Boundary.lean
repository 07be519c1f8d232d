/-
  Where a text divides.

  A text divides in one way into characters of a class and a rest that does not go on with
  them (`append_inj_of_boundary`), such as what stands before the first of some mark
  (`append_cons_inj`).
-/
import Mathlib

namespace Spirv

/-- A text divides in one way into characters of a class and a rest that does not begin with
    one of them. -/
theorem append_inj_of_boundary {p : Char → Bool} {as bs rest rest' : List Char}
    (has : ∀ c ∈ as, p c = true) (hbs : ∀ c ∈ bs, p c = true)
    (hrest : ∀ c ∈ rest.head?, p c = false) (hrest' : ∀ c ∈ rest'.head?, p c = false)
    (h : as ++ rest = bs ++ rest') : as = bs ∧ rest = rest' := by
  have hstop : ∀ {rest : List Char}, (∀ c ∈ rest.head?, p c = false) → rest.takeWhile p = [] := by
    intro rest hrest
    cases rest with
    | nil => rfl
    | cons c rest => exact List.takeWhile_cons_of_neg (by simp [hrest c rfl])
  have hfirst := congrArg (List.takeWhile p) h
  rw [List.takeWhile_append_of_pos has, List.takeWhile_append_of_pos hbs, hstop hrest,
    hstop hrest', List.append_nil, List.append_nil] at hfirst
  rw [hfirst, List.append_cancel_left_eq] at h
  exact ⟨hfirst, h⟩

/-- Texts that are divided by a mark that neither has before it have the same parts. -/
theorem append_cons_inj {mark : Char} {as bs rest rest' : List Char} (ha : mark ∉ as)
    (hb : mark ∉ bs) (h : as ++ mark :: rest = bs ++ mark :: rest') : as = bs ∧ rest = rest' := by
  have hmark : ∀ {cs : List Char}, mark ∉ cs → ∀ c ∈ cs, (c != mark) = true := by
    intro cs hcs c hc
    rw [bne_iff_ne]
    rintro rfl
    exact hcs hc
  have hstop : ∀ {rest : List Char}, ∀ c ∈ (mark :: rest).head?, (c != mark) = false := by
    rintro rest c ⟨⟩
    exact bne_self_eq_false mark
  obtain ⟨hfront, hback⟩ := append_inj_of_boundary (hmark ha) (hmark hb) hstop hstop h
  exact ⟨hfront, (List.cons.inj hback).2⟩

end Spirv
