/-
  Summaries of single operations and tools.
-/
import Spirv.CategoryTable
import Spirv.Generator
import Spirv.Opcode.MemorySemantics
import Spirv.Registry

namespace Spirv

/-- The text, or `none` in its place where there is nothing to tell. -/
def orNone (nothing : Bool) (text : String) : String :=
  if nothing then "none" else text

/-- The operation's name and code, its categories, and the positions of its
    memory-semantics operands. -/
def Opcode.summary (op : Opcode) : String :=
  op.name ++ " (" ++ toString op.code ++ ")\n" ++
  "  categories: " ++ orNone op.categories.isEmpty op.categories.text ++ "\n" ++
  "  memory semantics operands: " ++
    orNone op.semanticsOperands.isEmpty (", ".intercalate (op.semanticsOperands.map toString)) ++
    "\n"

/-- The id in decimal and the label of the tool that has it. -/
def Generator.summary (id : UInt32) : String :=
  toString id ++ ": " ++ Generator.label id ++ "\n"

end Spirv
