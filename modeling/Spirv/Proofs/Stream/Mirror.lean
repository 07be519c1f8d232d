/-
  The same words in the opposite byte order.

  The mirror of a stream has the bytes of each of its words swapped, and the opposite byte
  order.  Correcting a swapped word in the opposite order gives the same value
  (`ByteOrder.toHost_swapped_byteSwap`), so a reader that corrects each word once, before it
  looks at it, cannot tell a stream from its mirror.

  - a copy from the swapped words is the copy from the words, and fails where that fails
    (`Instruction.copy_byteSwap`);
  - a step of the mirror is the mirror of the step (`next_mirror`), and so are any number of
    steps (`after_mirror`);
  - a module header is read alike (`ModuleHeader.parse_byteSwap`).

  Main statement: two runs in lockstep, with the two other readers (`byteSwap_lockstep`).
-/
import Spirv.ModuleHeader
import Spirv.Proofs.Stream.Division

namespace Spirv

theorem ByteOrder.map_toHost_swapped_map_byteSwap (order : ByteOrder) (ws : List Word) :
    (ws.map Word.byteSwap).map order.swapped.toHost = ws.map order.toHost := by
  rw [List.map_map]
  apply List.map_congr_left
  intro w _
  exact order.toHost_swapped_byteSwap w

/-! ## Copies -/

theorem Instruction.copy_byteSwap (raw : List Word) (op : Opcode) (count : UInt16)
    (order : ByteOrder) :
    copy (raw.map Word.byteSwap) op count order.swapped = copy raw op count order := by
  have hfixed : ((raw.map Word.byteSwap).take count.toNat).map order.swapped.toHost =
      (raw.take count.toNat).map order.toHost := by
    rw [← List.map_take, order.map_toHost_swapped_map_byteSwap]
  unfold copy
  dsimp only
  rw [hfixed]
  simp only [List.length_take, List.length_map]

/-! ## Steps -/

namespace Stream

/-- The stream over the swapped words in the opposite order, at the same place. -/
def mirror (s : Stream) : Stream :=
  { s with rest := s.rest.map Word.byteSwap, order := s.order.swapped }

@[simp] theorem mirror_offset (s : Stream) : s.mirror.offset = s.offset := rfl

theorem mirror_startingAt (words : List Word) (order : ByteOrder) (start : Nat) :
    (startingAt words order start).mirror =
      startingAt (words.map Word.byteSwap) order.swapped start := by
  unfold startingAt mirror
  rw [List.map_drop]

theorem decode_byteSwap (order : ByteOrder) (offset : Nat) (head : Word) (rest : List Word) :
    decode order.swapped offset head.byteSwap (rest.map Word.byteSwap) =
      decode order offset head rest := by
  unfold decode
  rw [order.toHost_swapped_byteSwap]
  simp only [List.length_take, List.length_map, Instruction.copy_byteSwap]

/-- **A step commutes with the mirror.**  It yields the same, and what is behind it is the
    mirror of what was behind it. -/
theorem next_mirror (s : Stream) : s.mirror.next = s.next.map (Prod.map id mirror) := by
  obtain ⟨words, order, offset, failed⟩ := s
  cases failed with
  | true => rfl
  | false =>
    cases words with
    | nil => rfl
    | cons head tail =>
      have hmirror : (⟨head :: tail, order, offset, false⟩ : Stream).mirror =
          ⟨head.byteSwap :: tail.map Word.byteSwap, order.swapped, offset, false⟩ := rfl
      have hdecode := decode_byteSwap order offset head (head :: tail)
      rw [List.map_cons] at hdecode
      rw [hmirror, next_cons, next_cons, hdecode]
      cases decode order offset head (head :: tail) with
      | error e => rfl
      | ok inst =>
        have hdrop : (head.byteSwap :: tail.map Word.byteSwap).drop inst.wordCount =
            ((head :: tail).drop inst.wordCount).map Word.byteSwap := by
          rw [List.map_drop, List.map_cons]
        simp only [hdrop]
        rfl

theorem fst_next_mirror (s : Stream) : s.mirror.next.map Prod.fst = s.next.map Prod.fst := by
  rw [fst_next_image next_mirror, Option.map_id_apply]

/-- However often the two are asked, one is the mirror of the other. -/
theorem after_mirror (n : Nat) (s : Stream) : s.mirror.after n = (s.after n).mirror :=
  after_image next_mirror n s

end Stream

/-! ## Module headers -/

theorem ModuleHeader.parse_byteSwap (words : List Word) (order : ByteOrder) :
    parse (words.map Word.byteSwap) order.swapped = parse words order := by
  unfold parse
  match words with
  | first :: version :: generator :: bound :: schema :: tail =>
    simp only [List.map_cons, ByteOrder.toHost_swapped_byteSwap]
  | [] | [_] | [_, _] | [_, _, _] | [_, _, _, _] => rfl

/-! ## Lockstep -/

/-- **Byte orders are symmetric.**  Over words and over the same words with their bytes
    swapped, in opposite orders and from any place, two streams are at the same offset after
    every number of calls, and the next call yields the same from both.  A copy of any
    declared instruction and a module header are read alike too, failures included. -/
theorem byteSwap_lockstep (words : List Word) (order : ByteOrder) :
    let swapped := words.map Word.byteSwap
    (∀ start n,
      let s := (Stream.startingAt words order start).after n
      let t := (Stream.startingAt swapped order.swapped start).after n
      t.offset = s.offset ∧ t.next.map Prod.fst = s.next.map Prod.fst) ∧
    (∀ op count,
      Instruction.copy swapped op count order.swapped = Instruction.copy words op count order) ∧
    ModuleHeader.parse swapped order.swapped = ModuleHeader.parse words order := by
  intro swapped
  refine ⟨?_, ?_, ModuleHeader.parse_byteSwap words order⟩
  · intro start n s t
    have hmirror : t = s.mirror := by
      show (Stream.startingAt swapped order.swapped start).after n = _
      rw [← Stream.mirror_startingAt, Stream.after_mirror]
    rw [hmirror]
    exact ⟨s.mirror_offset, s.fst_next_mirror⟩
  · intro op count
    exact Instruction.copy_byteSwap words op count order

end Spirv
