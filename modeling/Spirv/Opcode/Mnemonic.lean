/-
  Mnemonics: the names of the operations in listings and queries.

  `mnemonic` is the canonical name.  `aliases` lists further registered spellings, which
  name an operation but are never printed.  `ofName?` resolves a name of either kind; the
  leading `Op` may be left out.
-/
import Spirv.Opcode

namespace Spirv.Opcode

/-- The canonical name of the operation. -/
def mnemonic : Opcode → String
  | opNop => "OpNop"
  | opUndef => "OpUndef"
  | opSourceContinued => "OpSourceContinued"
  | opSource => "OpSource"
  | opSourceExtension => "OpSourceExtension"
  | opName => "OpName"
  | opMemberName => "OpMemberName"
  | opString => "OpString"
  | opLine => "OpLine"
  | opExtension => "OpExtension"
  | opExtInstImport => "OpExtInstImport"
  | opExtInst => "OpExtInst"
  | opMemoryModel => "OpMemoryModel"
  | opEntryPoint => "OpEntryPoint"
  | opExecutionMode => "OpExecutionMode"
  | opCapability => "OpCapability"
  | opTypeVoid => "OpTypeVoid"
  | opTypeBool => "OpTypeBool"
  | opTypeInt => "OpTypeInt"
  | opTypeFloat => "OpTypeFloat"
  | opTypeVector => "OpTypeVector"
  | opTypeMatrix => "OpTypeMatrix"
  | opTypeImage => "OpTypeImage"
  | opTypeSampler => "OpTypeSampler"
  | opTypeSampledImage => "OpTypeSampledImage"
  | opTypeArray => "OpTypeArray"
  | opTypeRuntimeArray => "OpTypeRuntimeArray"
  | opTypeStruct => "OpTypeStruct"
  | opTypeOpaque => "OpTypeOpaque"
  | opTypePointer => "OpTypePointer"
  | opTypeFunction => "OpTypeFunction"
  | opTypeEvent => "OpTypeEvent"
  | opTypeDeviceEvent => "OpTypeDeviceEvent"
  | opTypeReserveId => "OpTypeReserveId"
  | opTypeQueue => "OpTypeQueue"
  | opTypePipe => "OpTypePipe"
  | opTypeForwardPointer => "OpTypeForwardPointer"
  | opConstantTrue => "OpConstantTrue"
  | opConstantFalse => "OpConstantFalse"
  | opConstant => "OpConstant"
  | opConstantComposite => "OpConstantComposite"
  | opConstantSampler => "OpConstantSampler"
  | opConstantNull => "OpConstantNull"
  | opSpecConstantTrue => "OpSpecConstantTrue"
  | opSpecConstantFalse => "OpSpecConstantFalse"
  | opSpecConstant => "OpSpecConstant"
  | opSpecConstantComposite => "OpSpecConstantComposite"
  | opSpecConstantOp => "OpSpecConstantOp"
  | opFunction => "OpFunction"
  | opFunctionParameter => "OpFunctionParameter"
  | opFunctionEnd => "OpFunctionEnd"
  | opFunctionCall => "OpFunctionCall"
  | opVariable => "OpVariable"
  | opImageTexelPointer => "OpImageTexelPointer"
  | opLoad => "OpLoad"
  | opStore => "OpStore"
  | opCopyMemory => "OpCopyMemory"
  | opCopyMemorySized => "OpCopyMemorySized"
  | opAccessChain => "OpAccessChain"
  | opInBoundsAccessChain => "OpInBoundsAccessChain"
  | opPtrAccessChain => "OpPtrAccessChain"
  | opArrayLength => "OpArrayLength"
  | opGenericPtrMemSemantics => "OpGenericPtrMemSemantics"
  | opInBoundsPtrAccessChain => "OpInBoundsPtrAccessChain"
  | opDecorate => "OpDecorate"
  | opMemberDecorate => "OpMemberDecorate"
  | opDecorationGroup => "OpDecorationGroup"
  | opGroupDecorate => "OpGroupDecorate"
  | opGroupMemberDecorate => "OpGroupMemberDecorate"
  | opVectorExtractDynamic => "OpVectorExtractDynamic"
  | opVectorInsertDynamic => "OpVectorInsertDynamic"
  | opVectorShuffle => "OpVectorShuffle"
  | opCompositeConstruct => "OpCompositeConstruct"
  | opCompositeExtract => "OpCompositeExtract"
  | opCompositeInsert => "OpCompositeInsert"
  | opCopyObject => "OpCopyObject"
  | opTranspose => "OpTranspose"
  | opSampledImage => "OpSampledImage"
  | opImageSampleImplicitLod => "OpImageSampleImplicitLod"
  | opImageSampleExplicitLod => "OpImageSampleExplicitLod"
  | opImageSampleDrefImplicitLod => "OpImageSampleDrefImplicitLod"
  | opImageSampleDrefExplicitLod => "OpImageSampleDrefExplicitLod"
  | opImageSampleProjImplicitLod => "OpImageSampleProjImplicitLod"
  | opImageSampleProjExplicitLod => "OpImageSampleProjExplicitLod"
  | opImageSampleProjDrefImplicitLod => "OpImageSampleProjDrefImplicitLod"
  | opImageSampleProjDrefExplicitLod => "OpImageSampleProjDrefExplicitLod"
  | opImageFetch => "OpImageFetch"
  | opImageGather => "OpImageGather"
  | opImageDrefGather => "OpImageDrefGather"
  | opImageRead => "OpImageRead"
  | opImageWrite => "OpImageWrite"
  | opImage => "OpImage"
  | opImageQueryFormat => "OpImageQueryFormat"
  | opImageQueryOrder => "OpImageQueryOrder"
  | opImageQuerySizeLod => "OpImageQuerySizeLod"
  | opImageQuerySize => "OpImageQuerySize"
  | opImageQueryLod => "OpImageQueryLod"
  | opImageQueryLevels => "OpImageQueryLevels"
  | opImageQuerySamples => "OpImageQuerySamples"
  | opConvertFToU => "OpConvertFToU"
  | opConvertFToS => "OpConvertFToS"
  | opConvertSToF => "OpConvertSToF"
  | opConvertUToF => "OpConvertUToF"
  | opUConvert => "OpUConvert"
  | opSConvert => "OpSConvert"
  | opFConvert => "OpFConvert"
  | opQuantizeToF16 => "OpQuantizeToF16"
  | opConvertPtrToU => "OpConvertPtrToU"
  | opSatConvertSToU => "OpSatConvertSToU"
  | opSatConvertUToS => "OpSatConvertUToS"
  | opConvertUToPtr => "OpConvertUToPtr"
  | opPtrCastToGeneric => "OpPtrCastToGeneric"
  | opGenericCastToPtr => "OpGenericCastToPtr"
  | opGenericCastToPtrExplicit => "OpGenericCastToPtrExplicit"
  | opBitcast => "OpBitcast"
  | opSNegate => "OpSNegate"
  | opFNegate => "OpFNegate"
  | opIAdd => "OpIAdd"
  | opFAdd => "OpFAdd"
  | opISub => "OpISub"
  | opFSub => "OpFSub"
  | opIMul => "OpIMul"
  | opFMul => "OpFMul"
  | opUDiv => "OpUDiv"
  | opSDiv => "OpSDiv"
  | opFDiv => "OpFDiv"
  | opUMod => "OpUMod"
  | opSRem => "OpSRem"
  | opSMod => "OpSMod"
  | opFRem => "OpFRem"
  | opFMod => "OpFMod"
  | opVectorTimesScalar => "OpVectorTimesScalar"
  | opMatrixTimesScalar => "OpMatrixTimesScalar"
  | opVectorTimesMatrix => "OpVectorTimesMatrix"
  | opMatrixTimesVector => "OpMatrixTimesVector"
  | opMatrixTimesMatrix => "OpMatrixTimesMatrix"
  | opOuterProduct => "OpOuterProduct"
  | opDot => "OpDot"
  | opIAddCarry => "OpIAddCarry"
  | opISubBorrow => "OpISubBorrow"
  | opUMulExtended => "OpUMulExtended"
  | opSMulExtended => "OpSMulExtended"
  | opAny => "OpAny"
  | opAll => "OpAll"
  | opIsNan => "OpIsNan"
  | opIsInf => "OpIsInf"
  | opIsFinite => "OpIsFinite"
  | opIsNormal => "OpIsNormal"
  | opSignBitSet => "OpSignBitSet"
  | opLessOrGreater => "OpLessOrGreater"
  | opOrdered => "OpOrdered"
  | opUnordered => "OpUnordered"
  | opLogicalEqual => "OpLogicalEqual"
  | opLogicalNotEqual => "OpLogicalNotEqual"
  | opLogicalOr => "OpLogicalOr"
  | opLogicalAnd => "OpLogicalAnd"
  | opLogicalNot => "OpLogicalNot"
  | opSelect => "OpSelect"
  | opIEqual => "OpIEqual"
  | opINotEqual => "OpINotEqual"
  | opUGreaterThan => "OpUGreaterThan"
  | opSGreaterThan => "OpSGreaterThan"
  | opUGreaterThanEqual => "OpUGreaterThanEqual"
  | opSGreaterThanEqual => "OpSGreaterThanEqual"
  | opULessThan => "OpULessThan"
  | opSLessThan => "OpSLessThan"
  | opULessThanEqual => "OpULessThanEqual"
  | opSLessThanEqual => "OpSLessThanEqual"
  | opFOrdEqual => "OpFOrdEqual"
  | opFUnordEqual => "OpFUnordEqual"
  | opFOrdNotEqual => "OpFOrdNotEqual"
  | opFUnordNotEqual => "OpFUnordNotEqual"
  | opFOrdLessThan => "OpFOrdLessThan"
  | opFUnordLessThan => "OpFUnordLessThan"
  | opFOrdGreaterThan => "OpFOrdGreaterThan"
  | opFUnordGreaterThan => "OpFUnordGreaterThan"
  | opFOrdLessThanEqual => "OpFOrdLessThanEqual"
  | opFUnordLessThanEqual => "OpFUnordLessThanEqual"
  | opFOrdGreaterThanEqual => "OpFOrdGreaterThanEqual"
  | opFUnordGreaterThanEqual => "OpFUnordGreaterThanEqual"
  | opShiftRightLogical => "OpShiftRightLogical"
  | opShiftRightArithmetic => "OpShiftRightArithmetic"
  | opShiftLeftLogical => "OpShiftLeftLogical"
  | opBitwiseOr => "OpBitwiseOr"
  | opBitwiseXor => "OpBitwiseXor"
  | opBitwiseAnd => "OpBitwiseAnd"
  | opNot => "OpNot"
  | opBitFieldInsert => "OpBitFieldInsert"
  | opBitFieldSExtract => "OpBitFieldSExtract"
  | opBitFieldUExtract => "OpBitFieldUExtract"
  | opBitReverse => "OpBitReverse"
  | opBitCount => "OpBitCount"
  | opDPdx => "OpDPdx"
  | opDPdy => "OpDPdy"
  | opFwidth => "OpFwidth"
  | opDPdxFine => "OpDPdxFine"
  | opDPdyFine => "OpDPdyFine"
  | opFwidthFine => "OpFwidthFine"
  | opDPdxCoarse => "OpDPdxCoarse"
  | opDPdyCoarse => "OpDPdyCoarse"
  | opFwidthCoarse => "OpFwidthCoarse"
  | opEmitVertex => "OpEmitVertex"
  | opEndPrimitive => "OpEndPrimitive"
  | opEmitStreamVertex => "OpEmitStreamVertex"
  | opEndStreamPrimitive => "OpEndStreamPrimitive"
  | opControlBarrier => "OpControlBarrier"
  | opMemoryBarrier => "OpMemoryBarrier"
  | opAtomicLoad => "OpAtomicLoad"
  | opAtomicStore => "OpAtomicStore"
  | opAtomicExchange => "OpAtomicExchange"
  | opAtomicCompareExchange => "OpAtomicCompareExchange"
  | opAtomicCompareExchangeWeak => "OpAtomicCompareExchangeWeak"
  | opAtomicIIncrement => "OpAtomicIIncrement"
  | opAtomicIDecrement => "OpAtomicIDecrement"
  | opAtomicIAdd => "OpAtomicIAdd"
  | opAtomicISub => "OpAtomicISub"
  | opAtomicSMin => "OpAtomicSMin"
  | opAtomicUMin => "OpAtomicUMin"
  | opAtomicSMax => "OpAtomicSMax"
  | opAtomicUMax => "OpAtomicUMax"
  | opAtomicAnd => "OpAtomicAnd"
  | opAtomicOr => "OpAtomicOr"
  | opAtomicXor => "OpAtomicXor"
  | opPhi => "OpPhi"
  | opLoopMerge => "OpLoopMerge"
  | opSelectionMerge => "OpSelectionMerge"
  | opLabel => "OpLabel"
  | opBranch => "OpBranch"
  | opBranchConditional => "OpBranchConditional"
  | opSwitch => "OpSwitch"
  | opKill => "OpKill"
  | opReturn => "OpReturn"
  | opReturnValue => "OpReturnValue"
  | opUnreachable => "OpUnreachable"
  | opLifetimeStart => "OpLifetimeStart"
  | opLifetimeStop => "OpLifetimeStop"
  | opGroupAsyncCopy => "OpGroupAsyncCopy"
  | opGroupWaitEvents => "OpGroupWaitEvents"
  | opGroupAll => "OpGroupAll"
  | opGroupAny => "OpGroupAny"
  | opGroupBroadcast => "OpGroupBroadcast"
  | opGroupIAdd => "OpGroupIAdd"
  | opGroupFAdd => "OpGroupFAdd"
  | opGroupFMin => "OpGroupFMin"
  | opGroupUMin => "OpGroupUMin"
  | opGroupSMin => "OpGroupSMin"
  | opGroupFMax => "OpGroupFMax"
  | opGroupUMax => "OpGroupUMax"
  | opGroupSMax => "OpGroupSMax"
  | opReadPipe => "OpReadPipe"
  | opWritePipe => "OpWritePipe"
  | opReservedReadPipe => "OpReservedReadPipe"
  | opReservedWritePipe => "OpReservedWritePipe"
  | opReserveReadPipePackets => "OpReserveReadPipePackets"
  | opReserveWritePipePackets => "OpReserveWritePipePackets"
  | opCommitReadPipe => "OpCommitReadPipe"
  | opCommitWritePipe => "OpCommitWritePipe"
  | opIsValidReserveId => "OpIsValidReserveId"
  | opGetNumPipePackets => "OpGetNumPipePackets"
  | opGetMaxPipePackets => "OpGetMaxPipePackets"
  | opGroupReserveReadPipePackets => "OpGroupReserveReadPipePackets"
  | opGroupReserveWritePipePackets => "OpGroupReserveWritePipePackets"
  | opGroupCommitReadPipe => "OpGroupCommitReadPipe"
  | opGroupCommitWritePipe => "OpGroupCommitWritePipe"
  | opEnqueueMarker => "OpEnqueueMarker"
  | opEnqueueKernel => "OpEnqueueKernel"
  | opGetKernelNDrangeSubGroupCount => "OpGetKernelNDrangeSubGroupCount"
  | opGetKernelNDrangeMaxSubGroupSize => "OpGetKernelNDrangeMaxSubGroupSize"
  | opGetKernelWorkGroupSize => "OpGetKernelWorkGroupSize"
  | opGetKernelPreferredWorkGroupSizeMultiple => "OpGetKernelPreferredWorkGroupSizeMultiple"
  | opRetainEvent => "OpRetainEvent"
  | opReleaseEvent => "OpReleaseEvent"
  | opCreateUserEvent => "OpCreateUserEvent"
  | opIsValidEvent => "OpIsValidEvent"
  | opSetUserEventStatus => "OpSetUserEventStatus"
  | opCaptureEventProfilingInfo => "OpCaptureEventProfilingInfo"
  | opGetDefaultQueue => "OpGetDefaultQueue"
  | opBuildNDRange => "OpBuildNDRange"
  | opImageSparseSampleImplicitLod => "OpImageSparseSampleImplicitLod"
  | opImageSparseSampleExplicitLod => "OpImageSparseSampleExplicitLod"
  | opImageSparseSampleDrefImplicitLod => "OpImageSparseSampleDrefImplicitLod"
  | opImageSparseSampleDrefExplicitLod => "OpImageSparseSampleDrefExplicitLod"
  | opImageSparseSampleProjImplicitLod => "OpImageSparseSampleProjImplicitLod"
  | opImageSparseSampleProjExplicitLod => "OpImageSparseSampleProjExplicitLod"
  | opImageSparseSampleProjDrefImplicitLod => "OpImageSparseSampleProjDrefImplicitLod"
  | opImageSparseSampleProjDrefExplicitLod => "OpImageSparseSampleProjDrefExplicitLod"
  | opImageSparseFetch => "OpImageSparseFetch"
  | opImageSparseGather => "OpImageSparseGather"
  | opImageSparseDrefGather => "OpImageSparseDrefGather"
  | opImageSparseTexelsResident => "OpImageSparseTexelsResident"
  | opNoLine => "OpNoLine"
  | opAtomicFlagTestAndSet => "OpAtomicFlagTestAndSet"
  | opAtomicFlagClear => "OpAtomicFlagClear"
  | opImageSparseRead => "OpImageSparseRead"
  | opSizeOf => "OpSizeOf"
  | opTypePipeStorage => "OpTypePipeStorage"
  | opConstantPipeStorage => "OpConstantPipeStorage"
  | opCreatePipeFromPipeStorage => "OpCreatePipeFromPipeStorage"
  | opGetKernelLocalSizeForSubgroupCount => "OpGetKernelLocalSizeForSubgroupCount"
  | opGetKernelMaxNumSubgroups => "OpGetKernelMaxNumSubgroups"
  | opTypeNamedBarrier => "OpTypeNamedBarrier"
  | opNamedBarrierInitialize => "OpNamedBarrierInitialize"
  | opMemoryNamedBarrier => "OpMemoryNamedBarrier"
  | opModuleProcessed => "OpModuleProcessed"
  | opExecutionModeId => "OpExecutionModeId"
  | opDecorateId => "OpDecorateId"
  | opGroupNonUniformElect => "OpGroupNonUniformElect"
  | opGroupNonUniformAll => "OpGroupNonUniformAll"
  | opGroupNonUniformAny => "OpGroupNonUniformAny"
  | opGroupNonUniformAllEqual => "OpGroupNonUniformAllEqual"
  | opGroupNonUniformBroadcast => "OpGroupNonUniformBroadcast"
  | opGroupNonUniformBroadcastFirst => "OpGroupNonUniformBroadcastFirst"
  | opGroupNonUniformBallot => "OpGroupNonUniformBallot"
  | opGroupNonUniformInverseBallot => "OpGroupNonUniformInverseBallot"
  | opGroupNonUniformBallotBitExtract => "OpGroupNonUniformBallotBitExtract"
  | opGroupNonUniformBallotBitCount => "OpGroupNonUniformBallotBitCount"
  | opGroupNonUniformBallotFindLSB => "OpGroupNonUniformBallotFindLSB"
  | opGroupNonUniformBallotFindMSB => "OpGroupNonUniformBallotFindMSB"
  | opGroupNonUniformShuffle => "OpGroupNonUniformShuffle"
  | opGroupNonUniformShuffleXor => "OpGroupNonUniformShuffleXor"
  | opGroupNonUniformShuffleUp => "OpGroupNonUniformShuffleUp"
  | opGroupNonUniformShuffleDown => "OpGroupNonUniformShuffleDown"
  | opGroupNonUniformIAdd => "OpGroupNonUniformIAdd"
  | opGroupNonUniformFAdd => "OpGroupNonUniformFAdd"
  | opGroupNonUniformIMul => "OpGroupNonUniformIMul"
  | opGroupNonUniformFMul => "OpGroupNonUniformFMul"
  | opGroupNonUniformSMin => "OpGroupNonUniformSMin"
  | opGroupNonUniformUMin => "OpGroupNonUniformUMin"
  | opGroupNonUniformFMin => "OpGroupNonUniformFMin"
  | opGroupNonUniformSMax => "OpGroupNonUniformSMax"
  | opGroupNonUniformUMax => "OpGroupNonUniformUMax"
  | opGroupNonUniformFMax => "OpGroupNonUniformFMax"
  | opGroupNonUniformBitwiseAnd => "OpGroupNonUniformBitwiseAnd"
  | opGroupNonUniformBitwiseOr => "OpGroupNonUniformBitwiseOr"
  | opGroupNonUniformBitwiseXor => "OpGroupNonUniformBitwiseXor"
  | opGroupNonUniformLogicalAnd => "OpGroupNonUniformLogicalAnd"
  | opGroupNonUniformLogicalOr => "OpGroupNonUniformLogicalOr"
  | opGroupNonUniformLogicalXor => "OpGroupNonUniformLogicalXor"
  | opGroupNonUniformQuadBroadcast => "OpGroupNonUniformQuadBroadcast"
  | opGroupNonUniformQuadSwap => "OpGroupNonUniformQuadSwap"
  | opCopyLogical => "OpCopyLogical"
  | opPtrEqual => "OpPtrEqual"
  | opPtrNotEqual => "OpPtrNotEqual"
  | opPtrDiff => "OpPtrDiff"
  | opColorAttachmentReadEXT => "OpColorAttachmentReadEXT"
  | opDepthAttachmentReadEXT => "OpDepthAttachmentReadEXT"
  | opStencilAttachmentReadEXT => "OpStencilAttachmentReadEXT"
  | opTypeTensorARM => "OpTypeTensorARM"
  | opTensorReadARM => "OpTensorReadARM"
  | opTensorWriteARM => "OpTensorWriteARM"
  | opTensorQuerySizeARM => "OpTensorQuerySizeARM"
  | opTerminateInvocation => "OpTerminateInvocation"
  | opTypeUntypedPointerKHR => "OpTypeUntypedPointerKHR"
  | opUntypedVariableKHR => "OpUntypedVariableKHR"
  | opUntypedAccessChainKHR => "OpUntypedAccessChainKHR"
  | opUntypedInBoundsAccessChainKHR => "OpUntypedInBoundsAccessChainKHR"
  | opSubgroupBallotKHR => "OpSubgroupBallotKHR"
  | opSubgroupFirstInvocationKHR => "OpSubgroupFirstInvocationKHR"
  | opUntypedPtrAccessChainKHR => "OpUntypedPtrAccessChainKHR"
  | opUntypedInBoundsPtrAccessChainKHR => "OpUntypedInBoundsPtrAccessChainKHR"
  | opUntypedArrayLengthKHR => "OpUntypedArrayLengthKHR"
  | opUntypedPrefetchKHR => "OpUntypedPrefetchKHR"
  | opSubgroupAllKHR => "OpSubgroupAllKHR"
  | opSubgroupAnyKHR => "OpSubgroupAnyKHR"
  | opSubgroupAllEqualKHR => "OpSubgroupAllEqualKHR"
  | opGroupNonUniformRotateKHR => "OpGroupNonUniformRotateKHR"
  | opSubgroupReadInvocationKHR => "OpSubgroupReadInvocationKHR"
  | opExtInstWithForwardRefsKHR => "OpExtInstWithForwardRefsKHR"
  | opTraceRayKHR => "OpTraceRayKHR"
  | opExecuteCallableKHR => "OpExecuteCallableKHR"
  | opConvertUToAccelerationStructureKHR => "OpConvertUToAccelerationStructureKHR"
  | opIgnoreIntersectionKHR => "OpIgnoreIntersectionKHR"
  | opTerminateRayKHR => "OpTerminateRayKHR"
  | opSDot => "OpSDot"
  | opUDot => "OpUDot"
  | opSUDot => "OpSUDot"
  | opSDotAccSat => "OpSDotAccSat"
  | opUDotAccSat => "OpUDotAccSat"
  | opSUDotAccSat => "OpSUDotAccSat"
  | opTypeCooperativeMatrixKHR => "OpTypeCooperativeMatrixKHR"
  | opCooperativeMatrixLoadKHR => "OpCooperativeMatrixLoadKHR"
  | opCooperativeMatrixStoreKHR => "OpCooperativeMatrixStoreKHR"
  | opCooperativeMatrixMulAddKHR => "OpCooperativeMatrixMulAddKHR"
  | opCooperativeMatrixLengthKHR => "OpCooperativeMatrixLengthKHR"
  | opConstantCompositeReplicateEXT => "OpConstantCompositeReplicateEXT"
  | opSpecConstantCompositeReplicateEXT => "OpSpecConstantCompositeReplicateEXT"
  | opCompositeConstructReplicateEXT => "OpCompositeConstructReplicateEXT"
  | opTypeRayQueryKHR => "OpTypeRayQueryKHR"
  | opRayQueryInitializeKHR => "OpRayQueryInitializeKHR"
  | opRayQueryTerminateKHR => "OpRayQueryTerminateKHR"
  | opRayQueryGenerateIntersectionKHR => "OpRayQueryGenerateIntersectionKHR"
  | opRayQueryConfirmIntersectionKHR => "OpRayQueryConfirmIntersectionKHR"
  | opRayQueryProceedKHR => "OpRayQueryProceedKHR"
  | opRayQueryGetIntersectionTypeKHR => "OpRayQueryGetIntersectionTypeKHR"
  | opGroupIAddNonUniformAMD => "OpGroupIAddNonUniformAMD"
  | opGroupFAddNonUniformAMD => "OpGroupFAddNonUniformAMD"
  | opGroupFMinNonUniformAMD => "OpGroupFMinNonUniformAMD"
  | opGroupUMinNonUniformAMD => "OpGroupUMinNonUniformAMD"
  | opGroupSMinNonUniformAMD => "OpGroupSMinNonUniformAMD"
  | opGroupFMaxNonUniformAMD => "OpGroupFMaxNonUniformAMD"
  | opGroupUMaxNonUniformAMD => "OpGroupUMaxNonUniformAMD"
  | opGroupSMaxNonUniformAMD => "OpGroupSMaxNonUniformAMD"
  | opFragmentMaskFetchAMD => "OpFragmentMaskFetchAMD"
  | opFragmentFetchAMD => "OpFragmentFetchAMD"
  | opReadClockKHR => "OpReadClockKHR"
  | opAllocateNodePayloadsAMDX => "OpAllocateNodePayloadsAMDX"
  | opEnqueueNodePayloadsAMDX => "OpEnqueueNodePayloadsAMDX"
  | opTypeNodePayloadArrayAMDX => "OpTypeNodePayloadArrayAMDX"
  | opFinishWritingNodePayloadAMDX => "OpFinishWritingNodePayloadAMDX"
  | opNodePayloadArrayLengthAMDX => "OpNodePayloadArrayLengthAMDX"
  | opIsNodePayloadValidAMDX => "OpIsNodePayloadValidAMDX"
  | opConstantStringAMDX => "OpConstantStringAMDX"
  | opSpecConstantStringAMDX => "OpSpecConstantStringAMDX"
  | opGroupNonUniformQuadAllKHR => "OpGroupNonUniformQuadAllKHR"
  | opGroupNonUniformQuadAnyKHR => "OpGroupNonUniformQuadAnyKHR"
  | opTypeHitObjectNV => "OpTypeHitObjectNV"
  | opImageSampleFootprintNV => "OpImageSampleFootprintNV"
  | opTypeCooperativeVectorNV => "OpTypeCooperativeVectorNV"
  | opCooperativeVectorMatrixMulNV => "OpCooperativeVectorMatrixMulNV"
  | opCooperativeVectorOuterProductAccumulateNV => "OpCooperativeVectorOuterProductAccumulateNV"
  | opCooperativeVectorReduceSumAccumulateNV => "OpCooperativeVectorReduceSumAccumulateNV"
  | opCooperativeVectorMatrixMulAddNV => "OpCooperativeVectorMatrixMulAddNV"
  | opCooperativeMatrixConvertNV => "OpCooperativeMatrixConvertNV"
  | opEmitMeshTasksEXT => "OpEmitMeshTasksEXT"
  | opSetMeshOutputsEXT => "OpSetMeshOutputsEXT"
  | opGroupNonUniformPartitionNV => "OpGroupNonUniformPartitionNV"
  | opWritePackedPrimitiveIndices4x8NV => "OpWritePackedPrimitiveIndices4x8NV"
  | opReportIntersectionKHR => "OpReportIntersectionKHR"
  | opIgnoreIntersectionNV => "OpIgnoreIntersectionNV"
  | opTerminateRayNV => "OpTerminateRayNV"
  | opTraceNV => "OpTraceNV"
  | opTypeAccelerationStructureKHR => "OpTypeAccelerationStructureKHR"
  | opExecuteCallableNV => "OpExecuteCallableNV"
  | opTypeCooperativeMatrixNV => "OpTypeCooperativeMatrixNV"
  | opCooperativeMatrixLoadNV => "OpCooperativeMatrixLoadNV"
  | opCooperativeMatrixStoreNV => "OpCooperativeMatrixStoreNV"
  | opCooperativeMatrixMulAddNV => "OpCooperativeMatrixMulAddNV"
  | opCooperativeMatrixLengthNV => "OpCooperativeMatrixLengthNV"
  | opBeginInvocationInterlockEXT => "OpBeginInvocationInterlockEXT"
  | opEndInvocationInterlockEXT => "OpEndInvocationInterlockEXT"
  | opTypeTensorLayoutNV => "OpTypeTensorLayoutNV"
  | opTypeTensorViewNV => "OpTypeTensorViewNV"
  | opDemoteToHelperInvocation => "OpDemoteToHelperInvocation"
  | opIsHelperInvocationEXT => "OpIsHelperInvocationEXT"
  | opRawAccessChainNV => "OpRawAccessChainNV"
  | opConstantFunctionPointerINTEL => "OpConstantFunctionPointerINTEL"
  | opFunctionPointerCallINTEL => "OpFunctionPointerCallINTEL"
  | opAsmTargetINTEL => "OpAsmTargetINTEL"
  | opAsmINTEL => "OpAsmINTEL"
  | opAsmCallINTEL => "OpAsmCallINTEL"
  | opAtomicFMinEXT => "OpAtomicFMinEXT"
  | opAtomicFMaxEXT => "OpAtomicFMaxEXT"
  | opAssumeTrueKHR => "OpAssumeTrueKHR"
  | opExpectKHR => "OpExpectKHR"
  | opDecorateString => "OpDecorateString"
  | opMemberDecorateString => "OpMemberDecorateString"
  | opAtomicFAddEXT => "OpAtomicFAddEXT"
  | opTypeTaskSequenceINTEL => "OpTypeTaskSequenceINTEL"

/-- The operation whose canonical name is `name`, letter for letter. -/
def ofMnemonic? (name : String) : Option Opcode :=
  all.find? fun op => op.mnemonic == name

/-- Names that were registered for an operation before its present one. -/
def aliases : List (String × Opcode) :=
  [("OpDecorateStringGOOGLE", .opDecorateString),
   ("OpMemberDecorateStringGOOGLE", .opMemberDecorateString),
   ("OpTypeAccelerationStructureNV", .opTypeAccelerationStructureKHR),
   ("OpReportIntersectionNV", .opReportIntersectionKHR),
   ("OpDemoteToHelperInvocationEXT", .opDemoteToHelperInvocation)]

/-- The name with its leading `Op`, which is added where it is missing. -/
def fullName (name : String) : String :=
  match name.toList with
  | 'O' :: 'p' :: _ => name
  | _ => "Op" ++ name

/-- The operation named by a mnemonic or an alias, with or without the leading `Op`. -/
def ofName? (name : String) : Option Opcode :=
  ofMnemonic? (fullName name) <|> aliases.lookup (fullName name)

end Spirv.Opcode
