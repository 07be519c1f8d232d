/-
  Byte orders.

  Words are first read as they lie in memory, least significant byte first
  (`Word.ofBytes`).  `ByteOrder.toHost` corrects a word of a stream written in the given
  order: words of a big-endian stream have their bytes swapped, the others stay.  The
  same function turns a value into the word that such a stream holds, because it is its
  own inverse (`toHost_toHost`).
-/
import Spirv.Word

namespace Spirv

/-- The order in which a stream holds the four bytes of a word. -/
inductive ByteOrder where
  /-- Least significant byte first. -/
  | little
  /-- Most significant byte first. -/
  | big
  deriving DecidableEq, Inhabited

namespace ByteOrder

/-- The name of the order in configuration documents. -/
def name : ByteOrder → String
  | little => "little"
  | big => "big"

/-- The opposite order. -/
def swapped : ByteOrder → ByteOrder
  | little => big
  | big => little

/-- Whether words of this order differ from the words in memory. -/
def needsSwap : ByteOrder → Bool
  | little => false
  | big => true

/-- Corrects a word of a stream in this order. -/
def toHost (order : ByteOrder) (w : Word) : Word :=
  if order.needsSwap then w.byteSwap else w

/-- The order with the given name, where `le` and `be` are short names and capital ASCII
    letters count as small ones. -/
def ofName? (text : String) : Option ByteOrder :=
  match text.map Char.toLower with
  | "little" | "le" => some little
  | "big" | "be" => some big
  | _ => none

/-- The bytes of a word as a stream in this order holds them. -/
def wordBytes (order : ByteOrder) (w : Word) : List UInt8 :=
  match order with
  | little => w.bytes
  | big => w.bytes.reverse

/-! ## Correction -/

@[simp] theorem toHost_toHost (order : ByteOrder) (w : Word) :
    order.toHost (order.toHost w) = w := by
  cases order
  · rfl
  · exact Word.byteSwap_byteSwap w

theorem toHost_injective (order : ByteOrder) : Function.Injective order.toHost := by
  intro v w h
  rw [← order.toHost_toHost v, h, toHost_toHost]

theorem map_toHost_map_toHost (order : ByteOrder) (ws : List Word) :
    (ws.map order.toHost).map order.toHost = ws := by
  simp [List.map_map, Function.comp_def]

theorem toHost_swapped_byteSwap (order : ByteOrder) (w : Word) :
    order.swapped.toHost w.byteSwap = order.toHost w := by
  cases order
  · exact Word.byteSwap_byteSwap w
  · rfl

/-- A word that was read in the wrong order after the right one has its bytes swapped. -/
theorem toHost_swapped_toHost (order : ByteOrder) (w : Word) :
    order.swapped.toHost (order.toHost w) = w.byteSwap := by
  cases order <;> rfl

theorem bytes_toHost (order : ByteOrder) (w : Word) :
    (order.toHost w).bytes = order.wordBytes w := by
  cases order
  · rfl
  · exact Word.bytes_byteSwap w

end ByteOrder

end Spirv
