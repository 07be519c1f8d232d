/-
  Module headers against their format.

  `ModuleHeader.Fault order words e` says that the words do not begin with a header in the
  given order and that `e` is the reason.  Their number is judged before the magic number.
  Reading fails exactly for these reasons (`parse_eq_error_iff`), and succeeds exactly on what
  writing a header begins (`parse_eq_ok_iff`), whatever follows (`parse_take`).  No words are a
  header in both byte orders (`order_unique`).

  Main statement: which words are headers, of what and by which tool (`parse_accepts_headers`).
-/
import Mathlib
import Spirv.ModuleHeader
import Spirv.Proofs.Generator

namespace Spirv.ModuleHeader

/-- Why words do not begin with a module header. -/
inductive Fault (order : ByteOrder) : List Word → Error → Prop where
  /-- There are too few of them, whatever they are. -/
  | short {words : List Word} (hlen : words.length < length) :
      Fault order words (.shortHeader words.length)
  /-- The first is not the magic number. -/
  | magic {first : Word} {tail : List Word} (hlen : length ≤ (first :: tail).length)
      (hfirst : order.toHost first ≠ magic) :
      Fault order (first :: tail) (.badMagic (order.toHost first))

theorem parse_of_length_lt {words : List Word} (h : words.length < length) (order : ByteOrder) :
    parse words order = .error (.shortHeader words.length) := by
  unfold parse
  split
  · simp only [List.length_cons, length] at h
    omega
  · rfl

/-- Words that are enough for a header give its fields, or their first is not the magic
    number. -/
theorem parse_of_length_le {first : Word} {tail : List Word}
    (h : length ≤ (first :: tail).length) (order : ByteOrder) :
    ∃ header, parse (first :: tail) order =
      if order.toHost first = magic then .ok header
      else .error (.badMagic (order.toHost first)) := by
  match tail, h with
  | version :: generator :: bound :: schema :: _, _ => exact ⟨_, rfl⟩

theorem parse_eq_error_iff {words : List Word} {order : ByteOrder} {e : Error} :
    parse words order = .error e ↔ Fault order words e := by
  by_cases hlen : words.length < length
  · rw [parse_of_length_lt hlen]
    constructor
    · intro h
      cases h
      exact .short hlen
    · intro h
      cases h with
      | short => rfl
      | magic hle => exact absurd hlen (Nat.not_lt.2 hle)
  · cases words with
    | nil => exact absurd (by decide) hlen
    | cons first tail =>
      obtain ⟨header, hparse⟩ := parse_of_length_le (Nat.not_lt.1 hlen) order
      rw [hparse]
      by_cases hfirst : order.toHost first = magic
      · rw [if_pos hfirst]
        constructor
        · intro h
          cases h
        · intro h
          cases h with
          | short hlt => exact absurd hlt hlen
          | magic _ hne => exact absurd hfirst hne
      · rw [if_neg hfirst]
        constructor
        · intro h
          cases h
          exact .magic (Nat.not_lt.1 hlen) hfirst
        · intro h
          cases h with
          | short hlt => exact absurd hlt hlen
          | magic => rfl

/-- **Reading and writing headers are inverse.**  Words are read as a header exactly when they
    begin with the words of it. -/
theorem parse_eq_ok_iff {words : List Word} {order : ByteOrder} {header : ModuleHeader} :
    parse words order = .ok header ↔ ∃ rest, words = header.encode order ++ rest := by
  constructor
  · intro h
    unfold parse at h
    split at h
    · rename_i first version generator bound schema rest
      split at h
      · rename_i hfirst
        cases h
        refine ⟨rest, ?_⟩
        have hmagic : order.toHost magic = first := by
          rw [← hfirst, ByteOrder.toHost_toHost]
        simp [encode, hmagic]
      · cases h
    · cases h
  · rintro ⟨rest, rfl⟩
    exact parse_encode order header rest

theorem length_encode (order : ByteOrder) (header : ModuleHeader) :
    (header.encode order).length = length := rfl

/-- A header is in the first words, which are its fields after the magic number. -/
theorem parse_eq_ok_iff_take {words : List Word} {order : ByteOrder} {header : ModuleHeader} :
    parse words order = .ok header ↔ (words.take length).map order.toHost =
      [magic, header.version, header.generator, header.bound, header.schema] := by
  rw [parse_eq_ok_iff]
  constructor
  · rintro ⟨rest, rfl⟩
    rw [List.take_left' (header.length_encode order), encode, order.map_toHost_map_toHost]
  · intro h
    have htake : words.take length = header.encode order := by
      rw [encode, ← h, order.map_toHost_map_toHost]
    exact ⟨words.drop length, by rw [← htake, List.take_append_drop]⟩

/-- Words behind the header are not looked at. -/
theorem parse_take (words : List Word) (order : ByteOrder) :
    parse (words.take length) order = parse words order := by
  by_cases hlen : words.length < length
  · rw [List.take_of_length_le (Nat.le_of_lt hlen)]
  · match words with
    | [] | [_] | [_, _] | [_, _, _] | [_, _, _, _] => simp [length] at hlen
    | _ :: _ :: _ :: _ :: _ :: _ => rfl

/-! ## The other byte order -/

/-- Words that are a header in one byte order show the magic number in the other with its
    bytes in reverse. -/
theorem parse_swapped_of_ok {words : List Word} {order : ByteOrder} {header : ModuleHeader}
    (h : parse words order = .ok header) :
    parse words order.swapped = .error (.badMagic 0x03022307) := by
  obtain ⟨rest, rfl⟩ := parse_eq_ok_iff.1 h
  have hfirst : order.swapped.toHost (order.toHost magic) = 0x03022307 := by
    rw [ByteOrder.toHost_swapped_toHost]
    decide
  have hne : order.swapped.toHost (order.toHost magic) ≠ magic := by
    rw [hfirst]
    decide
  have hlen : length ≤ (header.encode order ++ rest).length := by
    rw [List.length_append, length_encode]
    exact Nat.le_add_right _ _
  have hfault : Fault order.swapped (header.encode order ++ rest)
      (.badMagic (order.swapped.toHost (order.toHost magic))) := .magic hlen hne
  rw [hfirst] at hfault
  exact parse_eq_error_iff.2 hfault

/-- Words are a header in one byte order at most. -/
theorem order_unique {words : List Word} {order other : ByteOrder} {header header' : ModuleHeader}
    (h : parse words order = .ok header) (h' : parse words other = .ok header') :
    order = other := by
  by_contra hne
  have hother : other = order.swapped := by
    cases order <;> cases other <;> simp_all [ByteOrder.swapped]
  rw [hother, parse_swapped_of_ok h] at h'
  cases h'

/-! ## The tool -/

theorem toNat_tool (header : ModuleHeader) :
    header.tool.toNat = header.generator.toNat / 65536 :=
  Generator.toNat_idOf header.generator

theorem toolLabel_eq_iff {header : ModuleHeader} {text : String} :
    header.toolLabel = text ↔ Generator.Labelled (header.generator.toNat / 65536) text := by
  rw [toolLabel, Generator.label_eq_iff, UInt16.toNat_toUInt32, toNat_tool]

/-! ## Headers -/

/-- **Headers.**  Words are refused for one of two reasons, of which a want of words goes
    first, and are a header in every other case, with the fields that their first five have in
    the byte order; what comes behind does not matter.  What is written as a header is read back.
    Words are a header in one byte order at most, and show the reverse of the magic number in the
    other.  The tool of a header, and its label, are those of the upper half of the generator. -/
theorem parse_accepts_headers :
    (∀ words order e, parse words order = .error e ↔ Fault order words e) ∧
    (∀ words order header, parse words order = .ok header ↔
      (words.take length).map order.toHost =
        [magic, header.version, header.generator, header.bound, header.schema]) ∧
    (∀ words order, parse (words.take length) order = parse words order) ∧
    (∀ (header : ModuleHeader) order tail, parse (header.encode order ++ tail) order = .ok header) ∧
    (∀ words order other header header', parse words order = .ok header →
      parse words other = .ok header' → order = other) ∧
    (∀ words order header, parse words order = .ok header →
      parse words order.swapped = .error (.badMagic 0x03022307)) ∧
    ∀ header : ModuleHeader, header.tool.toNat = header.generator.toNat / 65536 ∧
      ∀ text, header.toolLabel = text ↔
        Generator.Labelled (header.generator.toNat / 65536) text := by
  refine ⟨fun _ _ _ => parse_eq_error_iff, fun _ _ _ => parse_eq_ok_iff_take, parse_take, ?_, ?_,
    fun _ _ _ => parse_swapped_of_ok, ?_⟩
  · intro header order tail
    exact parse_encode order header tail
  · intro words order other header header' h h'
    exact order_unique h h'
  · intro header
    exact ⟨header.toNat_tool, fun _ => toolLabel_eq_iff⟩

end Spirv.ModuleHeader
