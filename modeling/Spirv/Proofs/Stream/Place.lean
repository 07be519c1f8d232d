/-
  The place of a stream in its words.

  `Within words order start s` says that `s` stands in the words, or where it was told to
  start behind them: what it has left is what lies from its offset on.  A step keeps this
  (`Within.step`), so it holds however often a stream has been asked (`Within.after`).

  A stream that yields anything stands in front of a word (`Within.exists_word`).  An
  instruction that it yields has the words there, corrected (`Within.getElem?_words`), and an
  error that it yields is a defect of the words there (`defect_of_next`).
-/
import Spirv.Proofs.Stream.Division

namespace Spirv.Stream

/-- The stream stands in the words, or where it started behind them. -/
structure Within (words : List Word) (order : ByteOrder) (start : Nat) (s : Stream) : Prop where
  order_eq : s.order = order
  rest_eq : s.rest = words.drop s.offset
  offset_le : s.offset ≤ max start words.length

variable {words : List Word} {order : ByteOrder} {start : Nat} {s t : Stream}
  {r : Except Error Instruction}

theorem within_startingAt (words : List Word) (order : ByteOrder) (start : Nat) :
    Within words order start (startingAt words order start) :=
  ⟨rfl, rfl, Nat.le_max_left _ _⟩

theorem Within.offset_lt (w : Within words order start s) (h : s.rest ≠ []) :
    s.offset < words.length := by
  have hlen := List.length_pos_iff.2 h
  rw [w.rest_eq, List.length_drop] at hlen
  omega

/-- A step keeps the place. -/
theorem Within.step (w : Within words order start s) (h : Step s r t) :
    Within words order start t := by
  have hlt := w.offset_lt h.rest_ne_nil
  cases h with
  | @passes order offset rest inst hwf =>
    have hrest := w.rest_eq
    have hlen := congrArg List.length hrest
    simp only [List.length_append, Instruction.length_encode, List.length_drop] at hlen hlt
    refine ⟨w.order_eq, ?_, ?_⟩
    · show rest = words.drop (offset + inst.wordCount)
      rw [← List.drop_drop, ← hrest, Instruction.drop_encode_append]
    · show offset + inst.wordCount ≤ max start words.length
      omega
  | stops => exact ⟨w.order_eq, w.rest_eq, w.offset_le⟩

/-- However often the stream is asked, it keeps the place. -/
theorem Within.after (w : Within words order start s) (n : Nat) :
    Within words order start (after n s) :=
  after_invariant (fun _ _ _ h w => w.step (next_eq_some_iff.1 h)) w n

/-- A stream that yields stands in front of a word. -/
theorem Within.exists_word (w : Within words order start s) (h : s.next = some (r, t)) :
    ∃ hlt : s.offset < words.length,
      s.rest = words[s.offset] :: words.drop (s.offset + 1) := by
  have hlt := w.offset_lt (next_eq_some_iff.1 h).rest_ne_nil
  exact ⟨hlt, by rw [w.rest_eq, List.drop_eq_getElem_cons hlt]⟩

/-- The words of an instruction that a stream yields are those at its place, corrected one by
    one. -/
theorem Within.getElem?_words {inst : Instruction} (w : Within words order start s)
    (h : s.next = some (.ok inst, t)) {j : Nat} (hj : j < inst.wordCount) :
    s.offset + j < words.length ∧
      inst.words[j]? = words[s.offset + j]?.map order.toHost := by
  cases next_eq_some_iff.1 h with
  | @passes order' offset rest inst hwf =>
    obtain rfl : order' = order := w.order_eq
    have hrest : Instruction.encode order' inst ++ rest = words.drop offset := w.rest_eq
    have hj' : j < (Instruction.encode order' inst).length := by
      rwa [Instruction.length_encode]
    have hget : words[offset + j]? = (inst.words[j]?).map order'.toHost := by
      rw [← List.getElem?_drop, ← hrest, List.getElem?_append_left hj', Instruction.encode,
        List.getElem?_map]
    have hlen := congrArg List.length hrest
    rw [List.length_append, List.length_drop] at hlen
    refine ⟨by show offset + j < words.length; omega, ?_⟩
    show inst.words[j]? = words[offset + j]?.map order'.toHost
    rw [hget, Option.map_map]
    simp [Function.comp_def]

/-- An error that a stream yields is a defect of the words in front of it. -/
theorem defect_of_next {e : Error} (h : s.next = some (.error e, t)) :
    Defect s.order s.offset s.rest e := by
  cases next_eq_some_iff.1 h with
  | stops hdef => exact hdef

/-- An error among all that a stream over words yields is a defect of some of them. -/
theorem exists_defect_of_mem_items {e : Error}
    (h : .error e ∈ (startingAt words order start).items) :
    ∃ offset rest, Defect order offset rest e := by
  obtain ⟨insts, rest, defect, d⟩ := exists_division order start (words.drop start)
  have hitems : (startingAt words order start).items = outcomes insts defect := d.items_eq
  rw [hitems, error_mem_outcomes] at h
  subst h
  cases d.ending with
  | broken hdef => exact ⟨_, rest, hdef⟩

end Spirv.Stream
