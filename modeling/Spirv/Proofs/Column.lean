/-
  Lines read by their words.

  A word is a run of visible characters.  `splitWords n` takes the first `n` words off a line
  and gives what follows the blanks behind them: words with blanks between them are found
  again, however many blanks there are (`splitWords_succ`).  Blanks that end a line are
  dropped up to a word (`dropTrailingBlanks_append_replicate`, `dropTrailingBlanks_append_word`).
-/
import Mathlib
import Spirv.Column

namespace Spirv.Column

/-! ## Words -/

/-- The printable characters of ASCII, the blank excepted. -/
def isVisible (c : Char) : Bool :=
  decide ('!' ≤ c) && decide (c ≤ '~')

/-- Visible characters, of which there is at least one. -/
structure IsWord (cs : List Char) : Prop where
  ne_nil : cs ≠ []
  visible : ∀ c ∈ cs, isVisible c = true

theorem not_mem_of_visible {cs : List Char} (h : ∀ c ∈ cs, isVisible c = true) {c : Char}
    (hc : isVisible c = false) : c ∉ cs := by
  intro hmem
  rw [h c hmem] at hc
  cases hc

theorem IsWord.exists_eq_cons {word : List Char} (h : IsWord word) :
    ∃ c cs, word = c :: cs ∧ isVisible c = true := by
  obtain ⟨c, cs, rfl⟩ := List.exists_cons_of_ne_nil h.ne_nil
  exact ⟨c, cs, rfl, h.visible c List.mem_cons_self⟩

/-- A line ends visibly when it ends in a word. -/
theorem IsWord.visible_getLast? {word : List Char} (h : IsWord word) (front : List Char) :
    ∀ c ∈ (front ++ word).getLast?, isVisible c = true := by
  intro c hc
  rw [List.getLast?_append, List.getLast?_eq_getLast_of_ne_nil h.ne_nil, Option.some_or,
    Option.mem_some_iff] at hc
  exact h.visible c (hc ▸ List.getLast_mem h.ne_nil)

/-! ## Splitting -/

/-- The first word of a line, and what follows the blanks behind it. -/
def nextWord (cs : List Char) : List Char × List Char :=
  let cs := cs.dropWhile (· == ' ')
  (cs.takeWhile (· != ' '), (cs.dropWhile (· != ' ')).dropWhile (· == ' '))

/-- The first words of a line, and what follows the blanks behind them. -/
def splitWords : Nat → List Char → List (List Char) × List Char
  | 0, cs => ([], cs)
  | n + 1, cs =>
    let (word, rest) := nextWord cs
    let (words, rest) := splitWords n rest
    (word :: words, rest)

theorem dropWhile_replicate_blank_append (k : Nat) (cs : List Char) :
    (List.replicate k ' ' ++ cs).dropWhile (· == ' ') = cs.dropWhile (· == ' ') := by
  apply List.dropWhile_append_of_pos
  intro c hc
  rw [List.eq_of_mem_replicate hc]
  rfl

theorem IsWord.dropWhile_append {word : List Char} (h : IsWord word) (rest : List Char) :
    (word ++ rest).dropWhile (· == ' ') = word ++ rest := by
  obtain ⟨c, cs, rfl, hc⟩ := h.exists_eq_cons
  have hne : ¬ (c == ' ') = true := by
    rw [beq_iff_eq]
    rintro rfl
    cases hc
  exact List.dropWhile_cons_of_neg hne

/-- A word is found behind any blanks, up to the next blank. -/
theorem nextWord_append {word rest : List Char} (h : IsWord word) (k : Nat)
    (hrest : ∀ c ∈ rest.head?, c = ' ') :
    nextWord (List.replicate k ' ' ++ (word ++ rest)) = (word, rest.dropWhile (· == ' ')) := by
  have hword : ∀ c ∈ word, (c != ' ') = true := by
    intro c hc
    rw [bne_iff_ne]
    rintro rfl
    cases h.visible ' ' hc
  have hstop : rest.takeWhile (· != ' ') = [] ∧ rest.dropWhile (· != ' ') = rest := by
    cases rest with
    | nil => exact ⟨rfl, rfl⟩
    | cons c cs =>
      obtain rfl : c = ' ' := hrest c rfl
      exact ⟨rfl, rfl⟩
  unfold nextWord
  rw [dropWhile_replicate_blank_append, h.dropWhile_append]
  dsimp only
  rw [List.takeWhile_append_of_pos hword, List.dropWhile_append_of_pos hword, hstop.1, hstop.2,
    List.append_nil]

/-- The first word is taken off with the blanks around it. -/
theorem splitWords_succ {word rest : List Char} (h : IsWord word) (n k : Nat)
    (hrest : ∀ c ∈ rest.head?, c = ' ') :
    splitWords (n + 1) (List.replicate k ' ' ++ (word ++ rest)) =
      (word :: (splitWords n (rest.dropWhile (· == ' '))).1,
        (splitWords n (rest.dropWhile (· == ' '))).2) := by
  rw [splitWords, nextWord_append h k hrest]

/-- Blanks in front of a word do not matter. -/
theorem splitWords_dropWhile (n : Nat) (cs : List Char) :
    splitWords (n + 1) (cs.dropWhile (· == ' ')) = splitWords (n + 1) cs := by
  rw [splitWords, splitWords, nextWord, nextWord, List.dropWhile_idempotent]

/-! ## Trailing blanks -/

theorem dropTrailingBlanks_append_replicate (cs : List Char) (k : Nat) :
    dropTrailingBlanks (cs ++ List.replicate k ' ') = dropTrailingBlanks cs := by
  rw [dropTrailingBlanks, List.reverse_append, List.reverse_replicate,
    dropWhile_replicate_blank_append]
  rfl

theorem dropTrailingBlanks_append_word {word : List Char} (h : IsWord word) (front : List Char) :
    dropTrailingBlanks (front ++ word) = front ++ word := by
  have hreverse : IsWord word.reverse := by
    refine ⟨by simpa using h.ne_nil, ?_⟩
    intro c hc
    exact h.visible c (List.mem_reverse.1 hc)
  rw [dropTrailingBlanks, List.reverse_append, hreverse.dropWhile_append, List.reverse_append,
    List.reverse_reverse, List.reverse_reverse]

end Spirv.Column
