/-
  Classes of operations.

  Each predicate lists the members of one class and answers `false` for every other
  operation.  Classes may overlap.  Those that are unions of others are defined from
  them: constants with the undefined value, returns with aborts, block terminators, and
  all atomics.
-/
import Spirv.Opcode

namespace Spirv.Opcode

/-! ## Types -/

/-- Declares an integer, floating-point or Boolean type. -/
def isScalarType : Opcode → Bool
  | .opTypeInt | .opTypeFloat | .opTypeBool => true
  | _ => false

/-- Declares a type made of parts: vectors, matrices, arrays, structures, cooperative types. -/
def isCompositeType : Opcode → Bool
  | .opTypeVector | .opTypeMatrix | .opTypeArray | .opTypeStruct | .opTypeRuntimeArray
  | .opTypeCooperativeMatrixNV | .opTypeCooperativeMatrixKHR | .opTypeCooperativeVectorNV => true
  | _ => false

/-- Declares a type whose layout is hidden. -/
def isBaseOpaqueType : Opcode → Bool
  | .opTypeImage | .opTypeSampler | .opTypeSampledImage | .opTypeOpaque | .opTypeEvent
  | .opTypeDeviceEvent | .opTypeReserveId | .opTypeQueue | .opTypePipe
  | .opTypeForwardPointer | .opTypePipeStorage | .opTypeNamedBarrier => true
  | _ => false

/-- Declares a type.  `OpTypeForwardPointer` does not: it announces the storage class of a
    pointer type that another instruction declares. -/
def generatesType : Opcode → Bool
  | .opTypeVoid | .opTypeBool | .opTypeInt | .opTypeFloat | .opTypeVector | .opTypeMatrix
  | .opTypeImage | .opTypeSampler | .opTypeSampledImage | .opTypeArray
  | .opTypeRuntimeArray | .opTypeStruct | .opTypeOpaque | .opTypePointer | .opTypeFunction
  | .opTypeEvent | .opTypeDeviceEvent | .opTypeReserveId | .opTypeQueue | .opTypePipe
  | .opTypePipeStorage | .opTypeNamedBarrier | .opTypeAccelerationStructureKHR
  | .opTypeCooperativeMatrixNV | .opTypeCooperativeMatrixKHR | .opTypeCooperativeVectorNV
  | .opTypeRayQueryKHR | .opTypeHitObjectNV | .opTypeUntypedPointerKHR
  | .opTypeNodePayloadArrayAMDX | .opTypeTensorLayoutNV | .opTypeTensorViewNV
  | .opTypeTensorARM | .opTypeTaskSequenceINTEL => true
  | _ => false

/-! ## Constants -/

/-- Declares a constant, specialised or not. -/
def isConstant : Opcode → Bool
  | .opConstantTrue | .opConstantFalse | .opConstant | .opConstantComposite
  | .opConstantCompositeReplicateEXT | .opConstantSampler | .opConstantNull
  | .opConstantFunctionPointerINTEL | .opConstantStringAMDX | .opSpecConstantTrue
  | .opSpecConstantFalse | .opSpecConstant | .opSpecConstantComposite
  | .opSpecConstantCompositeReplicateEXT | .opSpecConstantOp | .opSpecConstantStringAMDX
  | .opAsmTargetINTEL | .opAsmINTEL => true
  | _ => false

/-- A constant, or the undefined value. -/
def isConstantOrUndef (op : Opcode) : Bool :=
  op == .opUndef || op.isConstant

/-- Declares a constant whose value may be set before a module is used. -/
def isSpecConstant : Opcode → Bool
  | .opSpecConstantTrue | .opSpecConstantFalse | .opSpecConstant
  | .opSpecConstantComposite | .opSpecConstantCompositeReplicateEXT | .opSpecConstantOp => true
  | _ => false

/-- Declares a scalar constant whose value may be set before a module is used. -/
def isScalarSpecConstant : Opcode → Bool
  | .opSpecConstantTrue | .opSpecConstantFalse | .opSpecConstant => true
  | _ => false

/-! ## Pointers and memory -/

/-- The result may be used as a logical pointer. -/
def returnsLogicalPointer : Opcode → Bool
  | .opVariable | .opUntypedVariableKHR | .opAccessChain | .opInBoundsAccessChain
  | .opUntypedAccessChainKHR | .opUntypedInBoundsAccessChainKHR | .opFunctionParameter
  | .opImageTexelPointer | .opCopyObject | .opRawAccessChainNV
  | .opAllocateNodePayloadsAMDX => true
  | _ => false

/-- The result may be used as a logical pointer where variable pointers are allowed. -/
def returnsLogicalVariablePointer : Opcode → Bool
  | .opVariable | .opUntypedVariableKHR | .opAccessChain | .opInBoundsAccessChain
  | .opUntypedAccessChainKHR | .opUntypedInBoundsAccessChainKHR | .opFunctionParameter
  | .opImageTexelPointer | .opCopyObject | .opAllocateNodePayloadsAMDX | .opSelect
  | .opPhi | .opFunctionCall | .opPtrAccessChain | .opUntypedPtrAccessChainKHR | .opLoad
  | .opConstantNull | .opRawAccessChainNV => true
  | _ => false

/-- The result is a pointer to no particular type. -/
def generatesUntypedPointer : Opcode → Bool
  | .opUntypedVariableKHR | .opUntypedAccessChainKHR | .opUntypedInBoundsAccessChainKHR
  | .opUntypedPtrAccessChainKHR | .opUntypedInBoundsPtrAccessChainKHR => true
  | _ => false

/-- Steps from a pointer to a part of what it points to. -/
def isAccessChain : Opcode → Bool
  | .opAccessChain | .opInBoundsAccessChain | .opPtrAccessChain
  | .opInBoundsPtrAccessChain | .opUntypedAccessChainKHR
  | .opUntypedInBoundsAccessChainKHR | .opUntypedPtrAccessChainKHR
  | .opUntypedInBoundsPtrAccessChainKHR | .opRawAccessChainNV => true
  | _ => false

/-- Reads memory, or samples, fetches or reads an image. -/
def isLoad : Opcode → Bool
  | .opLoad | .opImageSampleExplicitLod | .opImageSampleImplicitLod
  | .opImageSampleDrefImplicitLod | .opImageSampleDrefExplicitLod
  | .opImageSampleProjImplicitLod | .opImageSampleProjExplicitLod
  | .opImageSampleProjDrefImplicitLod | .opImageSampleProjDrefExplicitLod
  | .opImageSampleFootprintNV | .opImageFetch | .opImageGather | .opImageDrefGather
  | .opImageRead | .opImageSparseSampleImplicitLod | .opImageSparseSampleExplicitLod
  | .opImageSparseSampleDrefExplicitLod | .opImageSparseSampleDrefImplicitLod
  | .opImageSparseFetch | .opImageSparseGather | .opImageSparseDrefGather
  | .opImageSparseRead => true
  | _ => false

/-- Samples an image, in any of its forms. -/
def isImageSample : Opcode → Bool
  | .opImageSampleImplicitLod | .opImageSampleExplicitLod | .opImageSampleDrefImplicitLod
  | .opImageSampleDrefExplicitLod | .opImageSampleProjImplicitLod
  | .opImageSampleProjExplicitLod | .opImageSampleProjDrefImplicitLod
  | .opImageSampleProjDrefExplicitLod | .opImageSparseSampleImplicitLod
  | .opImageSparseSampleExplicitLod | .opImageSparseSampleDrefImplicitLod
  | .opImageSparseSampleDrefExplicitLod | .opImageSampleFootprintNV => true
  | _ => false

/-! ## Annotations -/

/-- Attaches a decoration to an id. -/
def isDecoration : Opcode → Bool
  | .opDecorate | .opDecorateId | .opMemberDecorate | .opGroupDecorate
  | .opGroupMemberDecorate | .opDecorateString | .opMemberDecorateString => true
  | _ => false

/-- Names things and maps to source text; has no effect when it is executed. -/
def isDebug : Opcode → Bool
  | .opName | .opMemberName | .opSource | .opSourceContinued | .opSourceExtension
  | .opString | .opLine | .opNoLine | .opModuleProcessed => true
  | _ => false

/-- Calls into an extended instruction set. -/
def isExtendedInstruction : Opcode → Bool
  | .opExtInst | .opExtInstWithForwardRefsKHR => true
  | _ => false

/-! ## Control flow -/

/-- Passes control to another block. -/
def isBranch : Opcode → Bool
  | .opBranch | .opBranchConditional | .opSwitch => true
  | _ => false

/-- Leaves the current function. -/
def isReturn : Opcode → Bool
  | .opReturn | .opReturnValue => true
  | _ => false

/-- Ends the invocation or the shader stage without returning. -/
def isAbort : Opcode → Bool
  | .opKill | .opUnreachable | .opTerminateInvocation | .opTerminateRayKHR
  | .opIgnoreIntersectionKHR | .opEmitMeshTasksEXT => true
  | _ => false

/-- A return or an abort. -/
def isReturnOrAbort (op : Opcode) : Bool :=
  op.isReturn || op.isAbort

/-- Ends a block: a branch, a return or an abort. -/
def isBlockTerminator (op : Opcode) : Bool :=
  op.isBranch || op.isReturnOrAbort

/-! ## Atomics -/

/-- An atomic operation that reads the value it replaces. -/
def isAtomicWithLoad : Opcode → Bool
  | .opAtomicLoad | .opAtomicExchange | .opAtomicCompareExchange
  | .opAtomicCompareExchangeWeak | .opAtomicIIncrement | .opAtomicIDecrement
  | .opAtomicIAdd | .opAtomicFAddEXT | .opAtomicISub | .opAtomicSMin | .opAtomicUMin
  | .opAtomicFMinEXT | .opAtomicSMax | .opAtomicUMax | .opAtomicFMaxEXT | .opAtomicAnd
  | .opAtomicOr | .opAtomicXor | .opAtomicFlagTestAndSet => true
  | _ => false

/-- Any atomic operation, the ones that read nothing back included. -/
def isAtomicOp (op : Opcode) : Bool :=
  op.isAtomicWithLoad || op == .opAtomicStore || op == .opAtomicFlagClear

/-! ## Arithmetic -/

/-- Gives the same result when it is done for each component of a vector by itself. -/
def isScalarizable : Opcode → Bool
  | .opPhi | .opCopyObject | .opConvertFToU | .opConvertFToS | .opConvertSToF
  | .opConvertUToF | .opUConvert | .opSConvert | .opFConvert | .opQuantizeToF16
  | .opVectorInsertDynamic | .opSNegate | .opFNegate | .opIAdd | .opFAdd | .opISub
  | .opFSub | .opIMul | .opFMul | .opUDiv | .opSDiv | .opFDiv | .opUMod | .opSRem
  | .opSMod | .opFRem | .opFMod | .opVectorTimesScalar | .opIAddCarry | .opISubBorrow
  | .opUMulExtended | .opSMulExtended | .opShiftRightLogical | .opShiftRightArithmetic
  | .opShiftLeftLogical | .opBitwiseOr | .opBitwiseAnd | .opNot | .opBitFieldInsert
  | .opBitFieldSExtract | .opBitFieldUExtract | .opBitReverse | .opBitCount | .opIsNan
  | .opIsInf | .opIsFinite | .opIsNormal | .opSignBitSet | .opLessOrGreater | .opOrdered
  | .opUnordered | .opLogicalEqual | .opLogicalNotEqual | .opLogicalOr | .opLogicalAnd
  | .opLogicalNot | .opSelect | .opIEqual | .opINotEqual | .opUGreaterThan
  | .opSGreaterThan | .opUGreaterThanEqual | .opSGreaterThanEqual | .opULessThan
  | .opSLessThan | .opULessThanEqual | .opSLessThanEqual | .opFOrdEqual | .opFUnordEqual
  | .opFOrdNotEqual | .opFUnordNotEqual | .opFOrdLessThan | .opFUnordLessThan
  | .opFOrdGreaterThan | .opFUnordGreaterThan | .opFOrdLessThanEqual
  | .opFUnordLessThanEqual | .opFOrdGreaterThanEqual | .opFUnordGreaterThanEqual => true
  | _ => false

/-- Takes two operands whose order does not matter. -/
def isCommutativeBinaryOp : Opcode → Bool
  | .opPtrEqual | .opPtrNotEqual | .opIAdd | .opFAdd | .opIMul | .opFMul | .opDot
  | .opIAddCarry | .opUMulExtended | .opSMulExtended | .opBitwiseOr | .opBitwiseXor
  | .opBitwiseAnd | .opOrdered | .opUnordered | .opLogicalEqual | .opLogicalNotEqual
  | .opLogicalOr | .opLogicalAnd | .opIEqual | .opINotEqual | .opFOrdEqual
  | .opFUnordEqual | .opFOrdNotEqual | .opFUnordNotEqual => true
  | _ => false

/-- Arithmetic on vectors and matrices. -/
def isLinearAlgebra : Opcode → Bool
  | .opTranspose | .opVectorTimesScalar | .opMatrixTimesScalar | .opVectorTimesMatrix
  | .opMatrixTimesVector | .opMatrixTimesMatrix | .opOuterProduct | .opDot => true
  | _ => false

/-- Works on single bits: bitwise logic, shifts, bit counts. -/
def isBitOp : Opcode → Bool
  | .opShiftRightLogical | .opShiftRightArithmetic | .opShiftLeftLogical | .opBitwiseOr
  | .opBitwiseXor | .opBitwiseAnd | .opNot | .opBitReverse | .opBitCount => true
  | _ => false

/-! ## Groups -/

/-- A collective operation over the active invocations of a subgroup. -/
def isNonUniformGroupOp : Opcode → Bool
  | .opGroupNonUniformElect | .opGroupNonUniformAll | .opGroupNonUniformAny
  | .opGroupNonUniformAllEqual | .opGroupNonUniformBroadcast
  | .opGroupNonUniformBroadcastFirst | .opGroupNonUniformBallot
  | .opGroupNonUniformInverseBallot | .opGroupNonUniformBallotBitExtract
  | .opGroupNonUniformBallotBitCount | .opGroupNonUniformBallotFindLSB
  | .opGroupNonUniformBallotFindMSB | .opGroupNonUniformShuffle
  | .opGroupNonUniformShuffleXor | .opGroupNonUniformShuffleUp
  | .opGroupNonUniformShuffleDown | .opGroupNonUniformIAdd | .opGroupNonUniformFAdd
  | .opGroupNonUniformIMul | .opGroupNonUniformFMul | .opGroupNonUniformSMin
  | .opGroupNonUniformUMin | .opGroupNonUniformFMin | .opGroupNonUniformSMax
  | .opGroupNonUniformUMax | .opGroupNonUniformFMax | .opGroupNonUniformBitwiseAnd
  | .opGroupNonUniformBitwiseOr | .opGroupNonUniformBitwiseXor
  | .opGroupNonUniformLogicalAnd | .opGroupNonUniformLogicalOr
  | .opGroupNonUniformLogicalXor | .opGroupNonUniformQuadBroadcast
  | .opGroupNonUniformQuadSwap | .opGroupNonUniformRotateKHR
  | .opGroupNonUniformQuadAllKHR | .opGroupNonUniformQuadAnyKHR => true
  | _ => false

end Spirv.Opcode
