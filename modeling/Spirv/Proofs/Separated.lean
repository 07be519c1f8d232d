/-
  Words with a separator between them.

  Words are joined with a separator between them, and a text is split where the separator
  stands.  If no word has the first letter of the separator, this does not stand before the
  end of a word (`not_matchesAt_word`): the search passes over the word (`split_word`), finds
  the separator behind it, and goes on with the next word.

  Main statement: splitting gives the words back (`split_intercalate`).
-/
import Mathlib

namespace Spirv.Separated

open String.Slice.Pattern String.Slice.Pattern.Model

variable {sep : String} {c : Char} {s : String.Slice} {p q : s.Pos} {front word rest : String}

/-- A text that is not empty begins with the same letter as the separator if one text
    continues both. -/
theorem head?_of_append_eq {t t' : String} (ht : t ≠ "") (hsep : sep.toList.head? = some c)
    (h : sep ++ t' = t ++ rest) : t.toList.head? = some c := by
  have hhead := congrArg (fun text => text.toList.head?) h
  simp only [String.toList_append, List.head?_append, hsep, Option.some_or] at hhead
  cases hfirst : t.toList.head? with
  | none => exact absurd (String.toList_eq_nil_iff.1 (List.head?_eq_none_iff.1 hfirst)) ht
  | some d =>
    rw [hfirst, Option.some_or] at hhead
    exact hhead.symm

/-- The separator does not stand inside a word without its first letter. -/
theorem not_matchesAt_word {place : s.Pos} (hsep : sep.toList.head? = some c)
    (hword : c ∉ word.toList) (hp : p.Splits front (word ++ rest))
    (hq : q.Splits (front ++ word) rest) (hle : p ≤ place) (hlt : place < q) :
    ¬ MatchesAt sep place := by
  rw [ForwardStringSearcher.matchesAt_iff_splits]
  rintro ⟨before, behind, hplace⟩
  -- The word divides at the place, and the separator would begin with its second part.
  obtain ⟨first, hbefore, -⟩ := (hp.le_iff_exists_eq_append hplace).1 hle
  obtain ⟨second, hne, hcut, hbehind⟩ := (hplace.lt_iff_exists_eq_append hq).1 hlt
  have hword' : word.toList = first.toList ++ second.toList := by
    rw [hbefore, String.append_assoc] at hcut
    simpa using congrArg String.toList hcut
  apply hword
  rw [hword']
  exact List.mem_append_right _ (List.mem_of_mem_head? (head?_of_append_eq hne hsep hbehind))

theorem copy_subslice (hp : p.Splits front (word ++ rest)) (hq : q.Splits (front ++ word) rest)
    (hle : p ≤ q) : (s.subslice p q hle).copy = word := by
  obtain ⟨_, hcopy⟩ := String.Slice.copy_slice_eq_iff_splits.2 ⟨front, rest, hp, hq⟩
  rw [String.Slice.Subslice.copy_eq, Function.comp_apply, String.Slice.toSlice_subslice, hcopy]

/-- The search for the separator passes over a word without its first letter. -/
theorem split_word [StrictPatternModel sep] (hsep : sep.toList.head? = some c)
    (hword : c ∉ word.toList) (hp : p.Splits front (word ++ rest))
    (hq : q.Splits (front ++ word) rest) (hle : p ≤ q) :
    Model.split sep p p p.le_refl = Model.split sep p q hle :=
  split_eq_of_not_matchesAt q hle fun _ => not_matchesAt_word hsep hword hp hq

/-- From the beginning of a word on, the pieces are the words that are left. -/
theorem map_copy_split [StrictPatternModel sep] {words : List String}
    (hsep : sep.toList.head? = some c) (hwords : ∀ w ∈ word :: words, c ∉ w.toList)
    (hp : p.Splits front (sep.intercalate (word :: words))) :
    (Model.split sep p p p.le_refl).map String.Slice.Subslice.copy = word :: words := by
  have hword := hwords word List.mem_cons_self
  induction words generalizing p front word with
  | nil =>
    rw [String.intercalate_singleton, ← String.append_empty (s := word)] at hp
    have hq : s.endPos.Splits (front ++ word) "" := by
      rw [← String.append_empty (s := front ++ word), String.append_assoc, ← hp.eq_append]
      exact s.splits_endPos
    have hle := (hp.le_iff_exists_eq_append hq).2 ⟨word, rfl, rfl⟩
    rw [split_word hsep hword hp hq hle, split_endPos, List.map_singleton,
      copy_subslice hp hq hle]
  | cons next words ih =>
    rw [String.intercalate_cons_cons, String.append_assoc] at hp
    have hatWord : s.copy = front ++ word ++ (sep ++ sep.intercalate (next :: words)) := by
      rw [hp.eq_append, String.append_assoc]
    have hatNext : s.copy = front ++ word ++ sep ++ sep.intercalate (next :: words) := by
      rw [hatWord, ← String.append_assoc]
    have hq := String.Slice.Pos.splits_ofEqAppend hatWord
    have hnext := String.Slice.Pos.splits_ofEqAppend hatNext
    have hle := (hp.le_iff_exists_eq_append hq).2 ⟨word, rfl, rfl⟩
    have hmatch := ForwardStringSearcher.isLongestMatchAt_iff_splits.2 ⟨_, _, hq, hnext⟩
    have hrest : ∀ w ∈ next :: words, c ∉ w.toList := fun w hw =>
      hwords w (List.mem_cons_of_mem _ hw)
    rw [split_word hsep hword hp hq hle, split_eq_of_isLongestMatchAt hmatch, List.map_cons,
      copy_subslice hp hq hle, ih hrest hnext (hrest next List.mem_cons_self)]

/-- **Splitting gives the words back** that were joined with the separator. -/
theorem split_intercalate {words : List String} (hsep : sep.toList.head? = some c)
    (hne : words ≠ []) (hwords : ∀ w ∈ words, c ∉ w.toList) :
    ((sep.intercalate words).split sep).toList.map String.Slice.copy = words := by
  have hsepne : sep ≠ "" := by
    rintro rfl
    cases hsep
  have := ForwardStringSearcher.strictPatternModel hsepne
  have := ForwardStringSearcher.lawfulToForwardSearcherModel hsepne
  obtain ⟨word, words, rfl⟩ := List.exists_cons_of_ne_nil hne
  have hstart := (sep.intercalate (word :: words)).toSlice.splits_startPos
  rw [String.copy_toSlice] at hstart
  rw [String.split_eq_split_toSlice, String.Slice.toList_split_eq_splitToSubslice, List.map_map,
    ← String.Slice.Subslice.copy_eq, toList_splitToSubslice_eq_modelSplit]
  exact map_copy_split hsep hwords hstart

end Spirv.Separated
