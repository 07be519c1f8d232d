/-
  Generators: the tools that produce SPIR-V.

  The generator word of a module header holds the registered id of a tool in its high half
  and a version of the tool's own in its low half.  `tools` is the registry in ascending
  order of the ids; a tool may be registered under its vendor's name alone.
-/
import Spirv.Word

namespace Spirv.Generator

/-- A registered tool. -/
structure Tool where
  id : UInt32
  vendor : String
  /-- The tool's own name, empty where only the vendor is registered. -/
  name : String
  deriving DecidableEq

/-- The vendor and the tool's own name. -/
def Tool.label (t : Tool) : String :=
  if t.name.isEmpty then t.vendor else t.vendor ++ " " ++ t.name

/-- The registered tools. -/
def tools : List Tool :=
  [⟨0, "Khronos", ""⟩,
   ⟨1, "LunarG", ""⟩,
   ⟨2, "Valve", ""⟩,
   ⟨3, "Codeplay", ""⟩,
   ⟨4, "NVIDIA", ""⟩,
   ⟨5, "ARM", ""⟩,
   ⟨6, "Khronos", "LLVM/SPIR-V Translator"⟩,
   ⟨7, "Khronos", "SPIR-V Tools Assembler"⟩,
   ⟨8, "Khronos", "Glslang Reference Front End"⟩,
   ⟨9, "Qualcomm", ""⟩,
   ⟨10, "AMD", ""⟩,
   ⟨11, "Intel", ""⟩,
   ⟨12, "Imagination", ""⟩,
   ⟨13, "Google", "Shaderc over Glslang"⟩,
   ⟨14, "Google", "spiregg"⟩,
   ⟨15, "Google", "rspirv"⟩,
   ⟨16, "X-LEGEND", "Mesa-IR/SPIR-V Translator"⟩,
   ⟨17, "Khronos", "SPIR-V Tools Linker"⟩,
   ⟨18, "Wine", "VKD3D Shader Compiler"⟩,
   ⟨19, "Tellusim", "Clay Shader Compiler"⟩,
   ⟨20, "W3C WebGPU Group", "WHLSL Shader Translator"⟩,
   ⟨21, "Google", "Clspv"⟩,
   ⟨22, "Google", "MLIR SPIR-V Serializer"⟩,
   ⟨23, "Google", "Tint Compiler"⟩,
   ⟨24, "Google", "ANGLE Shader Compiler"⟩,
   ⟨25, "Netease Games", "Messiah Shader Compiler"⟩,
   ⟨26, "Xenia", "Xenia Emulator Microcode Translator"⟩,
   ⟨27, "Embark Studios", "Rust GPU Compiler Backend"⟩,
   ⟨28, "gfx-rs community", "Naga"⟩,
   ⟨29, "Mikkosoft Productions", "MSP Shader Compiler"⟩,
   ⟨30, "SpvGenTwo community", "SpvGenTwo SPIR-V IR Tools"⟩,
   ⟨31, "Google", "Skia SkSL"⟩,
   ⟨32, "TornadoVM", "Beehive SPIRV Toolkit"⟩]

/-- The label of an id that is not registered. -/
def unregistered : String := "Unknown"

/-- The tool with the given id. -/
def find? (id : UInt32) : Option Tool :=
  tools.find? fun t => t.id == id

/-- The label of the tool with the given id. -/
def label (id : UInt32) : String :=
  match find? id with
  | some t => t.label
  | none => unregistered

/-! ## The generator word -/

/-- Distance of the tool's id from bit 0. -/
def idShift : Word := 16

/-- Mask of the tool's own version. -/
def versionMask : Word := 0xffff

/-- The id of the tool in a generator word. -/
def idOf (w : Word) : UInt16 :=
  (w >>> idShift).toUInt16

/-- The tool's own version in a generator word. -/
def versionOf (w : Word) : UInt16 :=
  (w &&& versionMask).toUInt16

end Spirv.Generator
