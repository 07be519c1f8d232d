/-
  Module headers.

  A module begins with five words: the magic number, the version, the generator, the bound
  of its ids and the schema.  `parse` reads them in a given byte order and `encode` writes
  them.
-/
import Spirv.ByteOrder
import Spirv.Error
import Spirv.Generator

namespace Spirv

/-- The words of a module header after the magic number. -/
structure ModuleHeader where
  /-- Major version in bits 16 to 23, minor version in bits 8 to 15. -/
  version : Word
  /-- The id of the tool in the high half, its own version in the low half. -/
  generator : Word
  /-- Every id of the module is smaller. -/
  bound : Word
  /-- Reserved. -/
  schema : Word
  deriving DecidableEq

namespace ModuleHeader

/-- The first word of a module. -/
def magic : Word := 0x07230203

/-- The number of words in a header. -/
def length : Nat := 5

/-- The header at the front of raw words. -/
def parse (words : List Word) (order : ByteOrder) : Except Error ModuleHeader :=
  match words with
  | first :: version :: generator :: bound :: schema :: _ =>
    if order.toHost first = magic then
      .ok ⟨order.toHost version, order.toHost generator, order.toHost bound, order.toHost schema⟩
    else .error (.badMagic (order.toHost first))
  | _ => .error (.shortHeader words.length)

/-- The words of the header as a module in the given order holds them. -/
def encode (order : ByteOrder) (h : ModuleHeader) : List Word :=
  [magic, h.version, h.generator, h.bound, h.schema].map order.toHost

/-- The major version. -/
def major (h : ModuleHeader) : UInt8 :=
  (h.version >>> 16).toUInt8

/-- The minor version. -/
def minor (h : ModuleHeader) : UInt8 :=
  (h.version >>> 8).toUInt8

/-- The registered id of the tool that produced the module. -/
def tool (h : ModuleHeader) : UInt16 :=
  Generator.idOf h.generator

/-- The label of the tool that produced the module. -/
def toolLabel (h : ModuleHeader) : String :=
  Generator.label h.tool.toUInt32

theorem parse_encode (order : ByteOrder) (h : ModuleHeader) (rest : List Word) :
    parse (h.encode order ++ rest) order = .ok h := by
  simp [parse, encode]

end ModuleHeader

end Spirv
