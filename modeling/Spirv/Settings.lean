/-
  Settings: how the words of a file are read.
-/
import Spirv.ByteOrder
import Spirv.Error

namespace Spirv

/-- How the words of a file are read. -/
structure Settings where
  /-- The byte order of the file. -/
  byteOrder : ByteOrder := .little
  /-- Whether the file begins with a module header. -/
  moduleHeader : Bool := true
  deriving DecidableEq

instance : Inhabited Settings := ⟨{}⟩

/-- The byte order that a user asks for by name. -/
def ByteOrder.parse (text : String) : Except Error ByteOrder :=
  match ofName? text with
  | some order => .ok order
  | none => .error (.settings (.unknownByteOrder (text.map Char.toLower)))

end Spirv
