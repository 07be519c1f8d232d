/-
  Bytes against words.

  A word is four bytes, which a stream holds in one of two orders.  `ByteOrder.weight` says to
  which power of 256 the byte at a position counts, so that the byte is a digit of the word
  (`ByteOrder.toNat_getElem?_wordBytes`).

  - in the bytes of a list of words the bytes of word `k` stand at `4 * k` and the three
    positions behind it (`getElem?_ofWords`);
  - bytes are those of some words exactly if these words, each corrected, are read from them
    (`words_eq_ok_map_iff`), so bytes that fill whole words are those of one list of words
    (`existsUnique_ofWords_iff`).

  Main statement: `words_bytes_correspond`.
-/
import Mathlib
import Spirv.Binary

namespace Spirv

/-! ## The bytes of a word -/

/-- The bytes of a word are its digits to the base 256, the lowest first. -/
theorem Word.toNat_getElem?_bytes (w : Word) {i : Nat} (hi : i < 4) :
    w.bytes[i]?.map UInt8.toNat = some (w.toNat / 256 ^ i % 256) := by
  have hshift : ∀ s : Word, s.toNat < 32 →
      (w >>> s).toUInt8.toNat = w.toNat / 2 ^ s.toNat % 256 := by
    intro s hs
    rw [toNat_byte w s hs, Nat.shiftRight_eq_div_pow]
  have hcases : i = 0 ∨ i = 1 ∨ i = 2 ∨ i = 3 := by omega
  rcases hcases with rfl | rfl | rfl | rfl
  · show some w.toUInt8.toNat = _
    rw [UInt32.toNat_toUInt8, Nat.pow_zero, Nat.div_one]
  · exact congrArg some (hshift 8 (by decide))
  · exact congrArg some (hshift 16 (by decide))
  · exact congrArg some (hshift 24 (by decide))

namespace ByteOrder

/-- The power of 256 to which the byte at the position counts, among the four of a word. -/
def weight : ByteOrder → Nat → Nat
  | little, i => i
  | big, i => 3 - i

theorem getElem?_wordBytes (order : ByteOrder) (w : Word) {i : Nat} (hi : i < 4) :
    (order.wordBytes w)[i]? = w.bytes[order.weight i]? := by
  cases order with
  | little => rfl
  | big => exact List.getElem?_reverse hi

/-- A byte of a word is the digit that its position in the order has. -/
theorem toNat_getElem?_wordBytes (order : ByteOrder) (w : Word) {i : Nat} (hi : i < 4) :
    (order.wordBytes w)[i]?.map UInt8.toNat = some (w.toNat / 256 ^ order.weight i % 256) := by
  have hweight : order.weight i < 4 := by
    cases order with
    | little => exact hi
    | big =>
      show 3 - i < 4
      omega
  rw [getElem?_wordBytes order w hi, w.toNat_getElem?_bytes hweight]

end ByteOrder

namespace Binary

/-! ## The bytes of a list of words -/

/-- Each word has four positions of its own. -/
theorem getElem?_ofWords (order : ByteOrder) (ws : List Word) (k : Nat) {i : Nat} (hi : i < 4) :
    (ofWords order ws)[4 * k + i]? = ws[k]?.bind fun w => (order.wordBytes w)[i]? := by
  induction ws generalizing k with
  | nil => rfl
  | cons w ws ih =>
    have hlen := length_wordBytes order w
    rw [ofWords, List.flatMap_cons]
    cases k with
    | zero =>
      rw [Nat.mul_zero, Nat.zero_add, List.getElem?_append_left (by omega)]
      rfl
    | succ k =>
      rw [List.getElem?_append_right (by omega), List.getElem?_cons_succ, ← ih k, ofWords, hlen,
        show 4 * (k + 1) + i - 4 = 4 * k + i by omega]

/-- Each byte is a digit of the word to which its position belongs. -/
theorem toNat_getElem?_ofWords (order : ByteOrder) (ws : List Word) (k : Nat) {i : Nat}
    (hi : i < 4) :
    (ofWords order ws)[4 * k + i]?.map UInt8.toNat =
      ws[k]?.map fun w => w.toNat / 256 ^ order.weight i % 256 := by
  rw [getElem?_ofWords order ws k hi]
  cases ws[k]? with
  | none => rfl
  | some w => exact order.toNat_getElem?_wordBytes w hi

example : ofWords .little [0x07230203] = [0x03, 0x02, 0x23, 0x07] ∧
    ofWords .big [0x07230203] = [0x07, 0x23, 0x02, 0x03] := by
  decide

/-! ## Reading what was written -/

/-- **Bytes are those of the words that are read from them.** -/
theorem words_eq_ok_map_iff {order : ByteOrder} {bytes : List UInt8} {ws : List Word} :
    words bytes = .ok (ws.map order.toHost) ↔ ofWords order ws = bytes := by
  constructor
  · intro h
    have hbytes : Word.bytes ∘ order.toHost = order.wordBytes := funext order.bytes_toHost
    rw [← flatMap_bytes_of_words h, List.flatMap_map, ofWords, ← hbytes]
    rfl
  · rintro rfl
    exact words_ofWords order ws

/-- Bytes that fill whole words are read. -/
theorem exists_words_eq_ok {bytes : List UInt8} (h : bytes.length % 4 = 0) :
    ∃ ws, words bytes = .ok ws ∧ ws.length = bytes.length / 4 ∧ ofWords .little ws = bytes := by
  have hread : words bytes = .ok (group bytes) := words_eq_ok_iff.2 ⟨h, rfl⟩
  have hbytes : ofWords .little (group bytes) = bytes := flatMap_bytes_of_words hread
  refine ⟨group bytes, hread, ?_, hbytes⟩
  have hlen := length_ofWords .little (group bytes)
  rw [hbytes] at hlen
  omega

/-- In either order, bytes fill whole words exactly if they are those of one list of words. -/
theorem existsUnique_ofWords_iff {order : ByteOrder} {bytes : List UInt8} :
    bytes.length % 4 = 0 ↔ ∃! ws, ofWords order ws = bytes := by
  constructor
  · intro h
    obtain ⟨raw, hread, -, -⟩ := exists_words_eq_ok h
    refine ⟨raw.map order.toHost, ?_, ?_⟩
    · show ofWords order (raw.map order.toHost) = bytes
      rw [← words_eq_ok_map_iff, ByteOrder.map_toHost_map_toHost, hread]
    · intro ws hws
      rw [← words_eq_ok_map_iff, hread] at hws
      rw [Except.ok.inj hws, ByteOrder.map_toHost_map_toHost]
  · rintro ⟨ws, rfl, -⟩
    rw [length_ofWords]
    omega

/-- **Bytes and words correspond.**  Bytes that do not fill whole words are refused for their
    number.  All others are read as a quarter as many words, of which they are the bytes from
    the lowest to the highest, as they lie in memory.  Words that are written in either order
    are read back and corrected to what they were, so each order makes bytes that fill whole
    words those of one list of words; the byte at a position is the digit of the word there
    that the order puts in this place.  Correcting a word twice changes nothing. -/
theorem words_bytes_correspond :
    (∀ bytes e, words bytes = .error e ↔
      bytes.length % 4 ≠ 0 ∧ e = .unalignedLength bytes.length) ∧
    (∀ bytes : List UInt8, bytes.length % 4 = 0 → ∃ ws, words bytes = .ok ws ∧
      ws.length = bytes.length / 4 ∧ ofWords .little ws = bytes) ∧
    (∀ order ws, ∃ raw, words (ofWords order ws) = .ok raw ∧ raw.map order.toHost = ws) ∧
    (∀ order (bytes : List UInt8),
      bytes.length % 4 = 0 ↔ ∃! ws, ofWords order ws = bytes) ∧
    (∀ order ws k i, i < 4 → (ofWords order ws)[4 * k + i]?.map UInt8.toNat =
      ws[k]?.map fun w => w.toNat / 256 ^ order.weight i % 256) ∧
    ∀ (order : ByteOrder) w, order.toHost (order.toHost w) = w := by
  refine ⟨fun _ _ => words_eq_error_iff, fun _ => exists_words_eq_ok, ?_,
    fun _ _ => existsUnique_ofWords_iff, ?_, ByteOrder.toHost_toHost⟩
  · intro order ws
    have hread := words_ofWords order ws
    exact ⟨_, hread, map_toHost_of_words_ofWords hread⟩
  · intro order ws k i hi
    exact toNat_getElem?_ofWords order ws k hi

end Binary

end Spirv
