/-
  Binaries: files of bytes that hold words.

  `words` groups the bytes by four, as they lie in memory; the byte order of the file is
  corrected later, word by word.  `ofWords` writes a list of words in a given order.

  - grouping loses nothing (`flatMap_bytes_of_words`);
  - words that are written in an order come back once they are corrected
    (`map_toHost_of_words_ofWords`).
-/
import Spirv.ByteOrder
import Spirv.Error

namespace Spirv.Binary

/-- The words in the bytes; up to three bytes at the end that fill no word are left out. -/
def group : List UInt8 → List Word
  | a :: b :: c :: d :: rest => Word.ofBytes a b c d :: group rest
  | _ => []

/-- The words in the bytes, which must fill whole words. -/
def words (bytes : List UInt8) : Except Error (List Word) :=
  if bytes.length % 4 = 0 then .ok (group bytes) else .error (.unalignedLength bytes.length)

/-- The bytes of the words, each written in the given order. -/
def ofWords (order : ByteOrder) (ws : List Word) : List UInt8 :=
  ws.flatMap order.wordBytes

/-! ## Grouping -/

theorem length_wordBytes (order : ByteOrder) (w : Word) : (order.wordBytes w).length = 4 := by
  cases order <;> rfl

theorem length_ofWords (order : ByteOrder) (ws : List Word) :
    (ofWords order ws).length = 4 * ws.length := by
  induction ws with
  | nil => rfl
  | cons w ws ih =>
    rw [ofWords, List.flatMap_cons, List.length_append, length_wordBytes, List.length_cons]
    rw [ofWords] at ih
    omega

theorem group_wordBytes_append (order : ByteOrder) (w : Word) (rest : List UInt8) :
    group (order.wordBytes w ++ rest) = order.toHost w :: group rest := by
  have h := ByteOrder.bytes_toHost order w
  rw [← h]
  simp only [Word.bytes, List.cons_append, List.nil_append, group, Word.ofBytes_bytes]

theorem group_ofWords (order : ByteOrder) (ws : List Word) :
    group (ofWords order ws) = ws.map order.toHost := by
  induction ws with
  | nil => rfl
  | cons w ws ih => rw [ofWords, List.flatMap_cons, group_wordBytes_append, List.map_cons, ← ih, ofWords]

theorem flatMap_bytes_group : ∀ (bytes : List UInt8), bytes.length % 4 = 0 →
    (group bytes).flatMap Word.bytes = bytes
  | [], _ => rfl
  | a :: b :: c :: d :: rest, h => by
    rw [group, List.flatMap_cons, Word.bytes_ofBytes, flatMap_bytes_group rest]
    · rfl
    · simp only [List.length_cons] at h
      omega
  | [_], h => by simp at h
  | [_, _], h => by simp at h
  | [_, _, _], h => by simp at h

theorem flatMap_bytes_of_words {bytes : List UInt8} {ws : List Word} (h : words bytes = .ok ws) :
    ws.flatMap Word.bytes = bytes := by
  unfold words at h
  split at h
  · rename_i hlen
    cases h
    exact flatMap_bytes_group bytes hlen
  · cases h

theorem words_eq_ok_iff {bytes : List UInt8} {ws : List Word} :
    words bytes = .ok ws ↔ bytes.length % 4 = 0 ∧ ws = group bytes := by
  unfold words
  split
  · rename_i h
    simp [h, eq_comm]
  · rename_i h
    simp [h]

theorem words_eq_error_iff {bytes : List UInt8} {e : Error} :
    words bytes = .error e ↔ bytes.length % 4 ≠ 0 ∧ e = .unalignedLength bytes.length := by
  unfold words
  split
  · rename_i h
    simp [h]
  · rename_i h
    simp [h, eq_comm]

theorem words_ofWords (order : ByteOrder) (ws : List Word) :
    words (ofWords order ws) = .ok (ws.map order.toHost) := by
  rw [words, if_pos (by rw [length_ofWords]; omega), group_ofWords]

theorem map_toHost_of_words_ofWords {order : ByteOrder} {ws raw : List Word}
    (h : words (ofWords order ws) = .ok raw) : raw.map order.toHost = ws := by
  rw [words_ofWords] at h
  cases h
  exact ByteOrder.map_toHost_map_toHost order ws

end Spirv.Binary
