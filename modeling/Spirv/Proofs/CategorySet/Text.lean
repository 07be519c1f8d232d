/-
  The texts of sets of categories.

  The text of a set is the names of its members with `, ` between them.  A text that is not
  empty begins and ends with a word (`exists_text_eq_word_append`,
  `exists_text_eq_append_word`).  The names are without commas, so the text of a tidy word
  divides into them again (`namesIn_text`), and the set is collected from them
  (`ofList_namesIn_text`).
-/
import Spirv.Proofs.CategorySet
import Spirv.Proofs.Column
import Spirv.Proofs.Separated

namespace Spirv

open Column (IsWord isVisible)

/-! ## Names -/

-- By unification, as for the mnemonics: the kernel is slow to take a text apart.
theorem Category.exists_letters_name (c : Category) :
    ∃ letters, c.name = String.ofList letters ∧
      (!letters.isEmpty && letters.all fun x => isVisible x && x != ',') = true := by
  cases c <;> exact ⟨_, rfl, rfl⟩

theorem Category.isWord_name (c : Category) : IsWord c.name.toList ∧ ',' ∉ c.name.toList := by
  obtain ⟨letters, hname, hcheck⟩ := c.exists_letters_name
  rw [hname, String.toList_ofList]
  simp only [Bool.and_eq_true, Bool.not_eq_true', List.isEmpty_eq_false_iff, List.all_eq_true,
    bne_iff_ne] at hcheck
  obtain ⟨hne, hletters⟩ := hcheck
  refine ⟨⟨hne, fun x hx => (hletters x hx).1⟩, ?_⟩
  intro hcomma
  exact (hletters ',' hcomma).2 rfl

theorem Category.ofName?_comp_name : ofName? ∘ name = some :=
  funext ofName?_name

/-! ## Words with a separator between them -/

namespace CategorySet

theorem exists_intercalate_eq_append_word {words : List (List Char)} (hne : words ≠ [])
    (h : ∀ w ∈ words, IsWord w) :
    ∃ front word, IsWord word ∧ [',', ' '].intercalate words = front ++ word := by
  induction words with
  | nil => exact absurd rfl hne
  | cons first words ih =>
    cases words with
    | nil => exact ⟨[], first, h first List.mem_cons_self, List.intercalate_singleton⟩
    | cons next words =>
      obtain ⟨front, word, hword, heq⟩ :=
        ih (List.cons_ne_nil _ _) fun w hw => h w (List.mem_cons_of_mem _ hw)
      refine ⟨first ++ [',', ' '] ++ front, word, hword, ?_⟩
      rw [List.intercalate_cons_cons, heq]
      simp

theorem mem_intercalate {sep : List Char} {words : List (List Char)} {c : Char}
    (h : c ∈ sep.intercalate words) : c ∈ sep ∨ ∃ w ∈ words, c ∈ w := by
  induction words with
  | nil => cases h
  | cons first words ih =>
    cases words with
    | nil =>
      rw [List.intercalate_singleton] at h
      exact .inr ⟨first, List.mem_cons_self, h⟩
    | cons next words =>
      rw [List.intercalate_cons_cons, List.mem_append, List.mem_append] at h
      rcases h with (h | h) | h
      · exact .inr ⟨first, List.mem_cons_self, h⟩
      · exact .inl h
      · rcases ih h with hsep | ⟨w, hw, hc⟩
        · exact .inl hsep
        · exact .inr ⟨w, List.mem_cons_of_mem _ hw, hc⟩

/-! ## Texts -/

/-- The names of the members, each as its letters. -/
def letters (s : CategorySet) : List (List Char) :=
  s.names.map String.toList

theorem toList_text (s : CategorySet) : s.text.toList = [',', ' '].intercalate s.letters := by
  rw [text_eq_intercalate, String.toList_intercalate, letters]
  rfl

theorem isWord_of_mem_letters {s : CategorySet} {w : List Char} (h : w ∈ s.letters) :
    IsWord w := by
  simp only [letters, names, List.map_map, List.mem_map] at h
  obtain ⟨c, -, rfl⟩ := h
  exact c.isWord_name.1

/-- A text that is not empty begins with a word. -/
theorem exists_text_eq_word_append {s : CategorySet} (h : s.text.toList ≠ []) :
    ∃ word rest, IsWord word ∧ s.text.toList = word ++ rest := by
  rw [toList_text] at h ⊢
  cases hletters : s.letters with
  | nil => exact absurd (by rw [hletters]; rfl) h
  | cons word words =>
    have hword := isWord_of_mem_letters (hletters ▸ List.mem_cons_self)
    cases words with
    | nil => exact ⟨word, [], hword, by simp⟩
    | cons next words =>
      exact ⟨word, _, hword, by rw [List.intercalate_cons_cons, List.append_assoc]⟩

/-- A text that is not empty ends with a word. -/
theorem exists_text_eq_append_word {s : CategorySet} (h : s.text.toList ≠ []) :
    ∃ front word, IsWord word ∧ s.text.toList = front ++ word := by
  rw [toList_text] at h ⊢
  refine exists_intercalate_eq_append_word ?_ fun w hw => isWord_of_mem_letters hw
  rintro hnil
  exact h (by rw [hnil]; rfl)

/-- A text has visible characters and blanks. -/
theorem visible_or_blank_of_mem_text {s : CategorySet} {c : Char} (h : c ∈ s.text.toList) :
    isVisible c = true ∨ c = ' ' := by
  rw [toList_text] at h
  rcases mem_intercalate h with h | ⟨w, hw, hc⟩
  · rcases List.mem_pair.1 h with rfl | rfl
    · exact .inl rfl
    · exact .inr rfl
  · exact .inl ((isWord_of_mem_letters hw).visible c hc)

/-! ## Reading texts -/

/-- The pieces of a text between the places where `, ` stands. -/
def namesIn (text : String) : List String :=
  (text.split ", ").toList.map String.Slice.copy

theorem namesIn_empty : namesIn "" = [""] :=
  Separated.split_intercalate (c := ',') rfl (List.cons_ne_nil "" []) (by simp)

/-- A tidy word that is not empty has names. -/
theorem Tidy.names_ne_nil {s : CategorySet} (hs : s.Tidy) (h : s.isEmpty = false) :
    s.names ≠ [] := by
  intro hnames
  rw [hs.names_inj tidy_empty hnames] at h
  cases h

/-- The text of a set that has members divides into their names. -/
theorem namesIn_text {s : CategorySet} (hs : s.Tidy) (h : s.isEmpty = false) :
    namesIn s.text = s.names := by
  rw [text_eq_intercalate]
  refine Separated.split_intercalate (c := ',') rfl (hs.names_ne_nil h) ?_
  intro name hname
  obtain ⟨c, -, rfl⟩ := List.mem_map.1 hname
  exact c.isWord_name.2

theorem map_ofName?_names (s : CategorySet) :
    s.names.map Category.ofName? = s.toList.map some := by
  rw [names, List.map_map, Category.ofName?_comp_name]

/-- **A text tells its set.**  Collecting the categories that its pieces name gives the set
    back. -/
theorem ofList_namesIn_text {s : CategorySet} (hs : s.Tidy) :
    ofList ((namesIn s.text).filterMap Category.ofName?) = s := by
  cases h : s.isEmpty with
  | true =>
    obtain rfl := isEmpty_iff.1 h
    have hnone : Category.ofName? "" = none := by decide +kernel
    show ofList ((namesIn "").filterMap Category.ofName?) = empty
    rw [namesIn_empty, List.filterMap_cons_none hnone]
    rfl
  | false =>
    have hmembers : s.names.filterMap Category.ofName? = s.toList := by
      rw [names, List.filterMap_map, Category.ofName?_comp_name, List.filterMap_some]
    rw [namesIn_text hs h, hmembers, hs.ofList_toList]

theorem text_inj {s t : CategorySet} (hs : s.Tidy) (ht : t.Tidy) (h : s.text = t.text) :
    s = t := by
  rw [← ofList_namesIn_text hs, h, ofList_namesIn_text ht]

theorem text_eq_empty_iff {s : CategorySet} (hs : s.Tidy) : s.text = "" ↔ s.isEmpty = true := by
  have hempty : empty.text = "" := rfl
  rw [isEmpty_iff, ← hempty]
  constructor
  · exact text_inj hs tidy_empty
  · rintro rfl
    rfl

end CategorySet

end Spirv
