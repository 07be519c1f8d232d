/-
  Categories: the classes of operations under the names that reports use.

  `all` lists the categories in the order of reports, `index` is the position in it
  (`getElem?_all_index`), and `ofName?` is the inverse of `name` (`ofName?_eq_some_iff`).
-/
import Spirv.Opcode.Class

namespace Spirv

/-- A class of operations. -/
inductive Category where
  | scalarType | specConstant | constant | constantOrUndef | scalarSpecConstant
  | compositeType | returnsLogicalPointer | returnsLogicalVariablePointer | generatesType
  | decoration | load | branch | returns | abort | returnOrAbort | blockTerminator
  | atomicWithLoad | atomicOp | baseOpaqueType | nonUniformGroupOp | scalarizable | debug
  | commutativeBinaryOp | linearAlgebra | imageSample | extendedInstruction | accessChain
  | bitOp | generatesUntypedPointer
  deriving DecidableEq

namespace Category

/-- The name in reports. -/
def name : Category → String
  | scalarType => "scalar-type"
  | specConstant => "spec-constant"
  | constant => "constant"
  | constantOrUndef => "constant-or-undef"
  | scalarSpecConstant => "scalar-spec-constant"
  | compositeType => "composite-type"
  | returnsLogicalPointer => "returns-logical-pointer"
  | returnsLogicalVariablePointer => "returns-logical-variable-pointer"
  | generatesType => "generates-type"
  | decoration => "decoration"
  | load => "load"
  | branch => "branch"
  | returns => "return"
  | abort => "abort"
  | returnOrAbort => "return-or-abort"
  | blockTerminator => "block-terminator"
  | atomicWithLoad => "atomic-with-load"
  | atomicOp => "atomic-op"
  | baseOpaqueType => "base-opaque-type"
  | nonUniformGroupOp => "non-uniform-group-op"
  | scalarizable => "scalarizable"
  | debug => "debug"
  | commutativeBinaryOp => "commutative-binary-op"
  | linearAlgebra => "linear-algebra"
  | imageSample => "image-sample"
  | extendedInstruction => "extended-instruction"
  | accessChain => "access-chain"
  | bitOp => "bit-op"
  | generatesUntypedPointer => "generates-untyped-pointer"

/-- Whether the operation belongs to the category. -/
def holds : Category → Opcode → Bool
  | scalarType => Opcode.isScalarType
  | specConstant => Opcode.isSpecConstant
  | constant => Opcode.isConstant
  | constantOrUndef => Opcode.isConstantOrUndef
  | scalarSpecConstant => Opcode.isScalarSpecConstant
  | compositeType => Opcode.isCompositeType
  | returnsLogicalPointer => Opcode.returnsLogicalPointer
  | returnsLogicalVariablePointer => Opcode.returnsLogicalVariablePointer
  | generatesType => Opcode.generatesType
  | decoration => Opcode.isDecoration
  | load => Opcode.isLoad
  | branch => Opcode.isBranch
  | returns => Opcode.isReturn
  | abort => Opcode.isAbort
  | returnOrAbort => Opcode.isReturnOrAbort
  | blockTerminator => Opcode.isBlockTerminator
  | atomicWithLoad => Opcode.isAtomicWithLoad
  | atomicOp => Opcode.isAtomicOp
  | baseOpaqueType => Opcode.isBaseOpaqueType
  | nonUniformGroupOp => Opcode.isNonUniformGroupOp
  | scalarizable => Opcode.isScalarizable
  | debug => Opcode.isDebug
  | commutativeBinaryOp => Opcode.isCommutativeBinaryOp
  | linearAlgebra => Opcode.isLinearAlgebra
  | imageSample => Opcode.isImageSample
  | extendedInstruction => Opcode.isExtendedInstruction
  | accessChain => Opcode.isAccessChain
  | bitOp => Opcode.isBitOp
  | generatesUntypedPointer => Opcode.generatesUntypedPointer

/-- Every category, in the order of reports. -/
def all : List Category :=
  [.scalarType, .specConstant, .constant, .constantOrUndef, .scalarSpecConstant,
   .compositeType, .returnsLogicalPointer, .returnsLogicalVariablePointer, .generatesType,
   .decoration, .load, .branch, .returns, .abort, .returnOrAbort, .blockTerminator,
   .atomicWithLoad, .atomicOp, .baseOpaqueType, .nonUniformGroupOp, .scalarizable, .debug,
   .commutativeBinaryOp, .linearAlgebra, .imageSample, .extendedInstruction, .accessChain,
   .bitOp, .generatesUntypedPointer]

/-- The number of categories. -/
abbrev count : Nat := 29

/-- The position of the category in `all`. -/
def index : Category → Fin count
  | scalarType => 0
  | specConstant => 1
  | constant => 2
  | constantOrUndef => 3
  | scalarSpecConstant => 4
  | compositeType => 5
  | returnsLogicalPointer => 6
  | returnsLogicalVariablePointer => 7
  | generatesType => 8
  | decoration => 9
  | load => 10
  | branch => 11
  | returns => 12
  | abort => 13
  | returnOrAbort => 14
  | blockTerminator => 15
  | atomicWithLoad => 16
  | atomicOp => 17
  | baseOpaqueType => 18
  | nonUniformGroupOp => 19
  | scalarizable => 20
  | debug => 21
  | commutativeBinaryOp => 22
  | linearAlgebra => 23
  | imageSample => 24
  | extendedInstruction => 25
  | accessChain => 26
  | bitOp => 27
  | generatesUntypedPointer => 28

/-- The category with the given name. -/
def ofName? (text : String) : Option Category :=
  all.find? fun c => c.name == text

/-- The operations of the category, in ascending order of their codes. -/
def members (c : Category) : List Opcode :=
  Opcode.all.filter c.holds

/-! ## The list and the positions agree -/

theorem getElem?_all_index (c : Category) : all[c.index.val]? = some c := by
  cases c <;> rfl

theorem mem_all (c : Category) : c ∈ all :=
  List.mem_of_getElem? c.getElem?_all_index

theorem index_inj {c d : Category} (h : c.index = d.index) : c = d := by
  have hd := d.getElem?_all_index
  rw [← h, c.getElem?_all_index] at hd
  exact Option.some.inj hd

/-! ## Names -/

theorem ofName?_name (c : Category) : ofName? c.name = some c := by
  cases c <;> decide +kernel

theorem name_inj {c d : Category} (h : c.name = d.name) : c = d := by
  have hd := ofName?_name d
  rw [← h, ofName?_name c] at hd
  exact Option.some.inj hd

theorem ofName?_eq_some_iff {text : String} {c : Category} :
    ofName? text = some c ↔ c.name = text := by
  constructor
  · intro h
    simpa using List.find?_some h
  · rintro rfl
    exact ofName?_name c

end Category

end Spirv
