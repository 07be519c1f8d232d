/-
  The operation codes of SPIR-V.

  `Opcode` has one constructor for each registered operation, named as its mnemonic with
  a small first letter (`OpTypeInt` is `opTypeInt`).  `code` is the 16-bit number that
  stands for the operation in an instruction header, `all` lists the operations in
  ascending order of their codes, and `ofCode?` reads a code back:

  - every operation is listed (`mem_all`);
  - codes ascend strictly along the list, so no two operations share one (`code_inj`);
  - `ofCode?` is the inverse of `code` (`ofCode?_eq_some_iff`).
-/
import Spirv.Error

namespace Spirv

/-- A registered operation. -/
inductive Opcode where
  | opNop | opUndef | opSourceContinued | opSource | opSourceExtension | opName | opMemberName
  | opString | opLine | opExtension | opExtInstImport | opExtInst | opMemoryModel | opEntryPoint
  | opExecutionMode | opCapability | opTypeVoid | opTypeBool | opTypeInt | opTypeFloat
  | opTypeVector | opTypeMatrix | opTypeImage | opTypeSampler | opTypeSampledImage | opTypeArray
  | opTypeRuntimeArray | opTypeStruct | opTypeOpaque | opTypePointer | opTypeFunction | opTypeEvent
  | opTypeDeviceEvent | opTypeReserveId | opTypeQueue | opTypePipe | opTypeForwardPointer
  | opConstantTrue | opConstantFalse | opConstant | opConstantComposite | opConstantSampler
  | opConstantNull | opSpecConstantTrue | opSpecConstantFalse | opSpecConstant
  | opSpecConstantComposite | opSpecConstantOp | opFunction | opFunctionParameter | opFunctionEnd
  | opFunctionCall | opVariable | opImageTexelPointer | opLoad | opStore | opCopyMemory
  | opCopyMemorySized | opAccessChain | opInBoundsAccessChain | opPtrAccessChain | opArrayLength
  | opGenericPtrMemSemantics | opInBoundsPtrAccessChain | opDecorate | opMemberDecorate
  | opDecorationGroup | opGroupDecorate | opGroupMemberDecorate | opVectorExtractDynamic
  | opVectorInsertDynamic | opVectorShuffle | opCompositeConstruct | opCompositeExtract
  | opCompositeInsert | opCopyObject | opTranspose | opSampledImage | opImageSampleImplicitLod
  | opImageSampleExplicitLod | opImageSampleDrefImplicitLod | opImageSampleDrefExplicitLod
  | opImageSampleProjImplicitLod | opImageSampleProjExplicitLod | opImageSampleProjDrefImplicitLod
  | opImageSampleProjDrefExplicitLod | opImageFetch | opImageGather | opImageDrefGather
  | opImageRead | opImageWrite | opImage | opImageQueryFormat | opImageQueryOrder
  | opImageQuerySizeLod | opImageQuerySize | opImageQueryLod | opImageQueryLevels
  | opImageQuerySamples | opConvertFToU | opConvertFToS | opConvertSToF | opConvertUToF
  | opUConvert | opSConvert | opFConvert | opQuantizeToF16 | opConvertPtrToU | opSatConvertSToU
  | opSatConvertUToS | opConvertUToPtr | opPtrCastToGeneric | opGenericCastToPtr
  | opGenericCastToPtrExplicit | opBitcast | opSNegate | opFNegate | opIAdd | opFAdd | opISub
  | opFSub | opIMul | opFMul | opUDiv | opSDiv | opFDiv | opUMod | opSRem | opSMod | opFRem
  | opFMod | opVectorTimesScalar | opMatrixTimesScalar | opVectorTimesMatrix | opMatrixTimesVector
  | opMatrixTimesMatrix | opOuterProduct | opDot | opIAddCarry | opISubBorrow | opUMulExtended
  | opSMulExtended | opAny | opAll | opIsNan | opIsInf | opIsFinite | opIsNormal | opSignBitSet
  | opLessOrGreater | opOrdered | opUnordered | opLogicalEqual | opLogicalNotEqual | opLogicalOr
  | opLogicalAnd | opLogicalNot | opSelect | opIEqual | opINotEqual | opUGreaterThan
  | opSGreaterThan | opUGreaterThanEqual | opSGreaterThanEqual | opULessThan | opSLessThan
  | opULessThanEqual | opSLessThanEqual | opFOrdEqual | opFUnordEqual | opFOrdNotEqual
  | opFUnordNotEqual | opFOrdLessThan | opFUnordLessThan | opFOrdGreaterThan | opFUnordGreaterThan
  | opFOrdLessThanEqual | opFUnordLessThanEqual | opFOrdGreaterThanEqual | opFUnordGreaterThanEqual
  | opShiftRightLogical | opShiftRightArithmetic | opShiftLeftLogical | opBitwiseOr | opBitwiseXor
  | opBitwiseAnd | opNot | opBitFieldInsert | opBitFieldSExtract | opBitFieldUExtract
  | opBitReverse | opBitCount | opDPdx | opDPdy | opFwidth | opDPdxFine | opDPdyFine | opFwidthFine
  | opDPdxCoarse | opDPdyCoarse | opFwidthCoarse | opEmitVertex | opEndPrimitive
  | opEmitStreamVertex | opEndStreamPrimitive | opControlBarrier | opMemoryBarrier | opAtomicLoad
  | opAtomicStore | opAtomicExchange | opAtomicCompareExchange | opAtomicCompareExchangeWeak
  | opAtomicIIncrement | opAtomicIDecrement | opAtomicIAdd | opAtomicISub | opAtomicSMin
  | opAtomicUMin | opAtomicSMax | opAtomicUMax | opAtomicAnd | opAtomicOr | opAtomicXor | opPhi
  | opLoopMerge | opSelectionMerge | opLabel | opBranch | opBranchConditional | opSwitch | opKill
  | opReturn | opReturnValue | opUnreachable | opLifetimeStart | opLifetimeStop | opGroupAsyncCopy
  | opGroupWaitEvents | opGroupAll | opGroupAny | opGroupBroadcast | opGroupIAdd | opGroupFAdd
  | opGroupFMin | opGroupUMin | opGroupSMin | opGroupFMax | opGroupUMax | opGroupSMax | opReadPipe
  | opWritePipe | opReservedReadPipe | opReservedWritePipe | opReserveReadPipePackets
  | opReserveWritePipePackets | opCommitReadPipe | opCommitWritePipe | opIsValidReserveId
  | opGetNumPipePackets | opGetMaxPipePackets | opGroupReserveReadPipePackets
  | opGroupReserveWritePipePackets | opGroupCommitReadPipe | opGroupCommitWritePipe
  | opEnqueueMarker | opEnqueueKernel | opGetKernelNDrangeSubGroupCount
  | opGetKernelNDrangeMaxSubGroupSize | opGetKernelWorkGroupSize
  | opGetKernelPreferredWorkGroupSizeMultiple | opRetainEvent | opReleaseEvent | opCreateUserEvent
  | opIsValidEvent | opSetUserEventStatus | opCaptureEventProfilingInfo | opGetDefaultQueue
  | opBuildNDRange | opImageSparseSampleImplicitLod | opImageSparseSampleExplicitLod
  | opImageSparseSampleDrefImplicitLod | opImageSparseSampleDrefExplicitLod
  | opImageSparseSampleProjImplicitLod | opImageSparseSampleProjExplicitLod
  | opImageSparseSampleProjDrefImplicitLod | opImageSparseSampleProjDrefExplicitLod
  | opImageSparseFetch | opImageSparseGather | opImageSparseDrefGather
  | opImageSparseTexelsResident | opNoLine | opAtomicFlagTestAndSet | opAtomicFlagClear
  | opImageSparseRead | opSizeOf | opTypePipeStorage | opConstantPipeStorage
  | opCreatePipeFromPipeStorage | opGetKernelLocalSizeForSubgroupCount | opGetKernelMaxNumSubgroups
  | opTypeNamedBarrier | opNamedBarrierInitialize | opMemoryNamedBarrier | opModuleProcessed
  | opExecutionModeId | opDecorateId | opGroupNonUniformElect | opGroupNonUniformAll
  | opGroupNonUniformAny | opGroupNonUniformAllEqual | opGroupNonUniformBroadcast
  | opGroupNonUniformBroadcastFirst | opGroupNonUniformBallot | opGroupNonUniformInverseBallot
  | opGroupNonUniformBallotBitExtract | opGroupNonUniformBallotBitCount
  | opGroupNonUniformBallotFindLSB | opGroupNonUniformBallotFindMSB | opGroupNonUniformShuffle
  | opGroupNonUniformShuffleXor | opGroupNonUniformShuffleUp | opGroupNonUniformShuffleDown
  | opGroupNonUniformIAdd | opGroupNonUniformFAdd | opGroupNonUniformIMul | opGroupNonUniformFMul
  | opGroupNonUniformSMin | opGroupNonUniformUMin | opGroupNonUniformFMin | opGroupNonUniformSMax
  | opGroupNonUniformUMax | opGroupNonUniformFMax | opGroupNonUniformBitwiseAnd
  | opGroupNonUniformBitwiseOr | opGroupNonUniformBitwiseXor | opGroupNonUniformLogicalAnd
  | opGroupNonUniformLogicalOr | opGroupNonUniformLogicalXor | opGroupNonUniformQuadBroadcast
  | opGroupNonUniformQuadSwap | opCopyLogical | opPtrEqual | opPtrNotEqual | opPtrDiff
  | opColorAttachmentReadEXT | opDepthAttachmentReadEXT | opStencilAttachmentReadEXT
  | opTypeTensorARM | opTensorReadARM | opTensorWriteARM | opTensorQuerySizeARM
  | opTerminateInvocation | opTypeUntypedPointerKHR | opUntypedVariableKHR
  | opUntypedAccessChainKHR | opUntypedInBoundsAccessChainKHR | opSubgroupBallotKHR
  | opSubgroupFirstInvocationKHR | opUntypedPtrAccessChainKHR | opUntypedInBoundsPtrAccessChainKHR
  | opUntypedArrayLengthKHR | opUntypedPrefetchKHR | opSubgroupAllKHR | opSubgroupAnyKHR
  | opSubgroupAllEqualKHR | opGroupNonUniformRotateKHR | opSubgroupReadInvocationKHR
  | opExtInstWithForwardRefsKHR | opTraceRayKHR | opExecuteCallableKHR
  | opConvertUToAccelerationStructureKHR | opIgnoreIntersectionKHR | opTerminateRayKHR | opSDot
  | opUDot | opSUDot | opSDotAccSat | opUDotAccSat | opSUDotAccSat | opTypeCooperativeMatrixKHR
  | opCooperativeMatrixLoadKHR | opCooperativeMatrixStoreKHR | opCooperativeMatrixMulAddKHR
  | opCooperativeMatrixLengthKHR | opConstantCompositeReplicateEXT
  | opSpecConstantCompositeReplicateEXT | opCompositeConstructReplicateEXT | opTypeRayQueryKHR
  | opRayQueryInitializeKHR | opRayQueryTerminateKHR | opRayQueryGenerateIntersectionKHR
  | opRayQueryConfirmIntersectionKHR | opRayQueryProceedKHR | opRayQueryGetIntersectionTypeKHR
  | opGroupIAddNonUniformAMD | opGroupFAddNonUniformAMD | opGroupFMinNonUniformAMD
  | opGroupUMinNonUniformAMD | opGroupSMinNonUniformAMD | opGroupFMaxNonUniformAMD
  | opGroupUMaxNonUniformAMD | opGroupSMaxNonUniformAMD | opFragmentMaskFetchAMD
  | opFragmentFetchAMD | opReadClockKHR | opAllocateNodePayloadsAMDX | opEnqueueNodePayloadsAMDX
  | opTypeNodePayloadArrayAMDX | opFinishWritingNodePayloadAMDX | opNodePayloadArrayLengthAMDX
  | opIsNodePayloadValidAMDX | opConstantStringAMDX | opSpecConstantStringAMDX
  | opGroupNonUniformQuadAllKHR | opGroupNonUniformQuadAnyKHR | opTypeHitObjectNV
  | opImageSampleFootprintNV | opTypeCooperativeVectorNV | opCooperativeVectorMatrixMulNV
  | opCooperativeVectorOuterProductAccumulateNV | opCooperativeVectorReduceSumAccumulateNV
  | opCooperativeVectorMatrixMulAddNV | opCooperativeMatrixConvertNV | opEmitMeshTasksEXT
  | opSetMeshOutputsEXT | opGroupNonUniformPartitionNV | opWritePackedPrimitiveIndices4x8NV
  | opReportIntersectionKHR | opIgnoreIntersectionNV | opTerminateRayNV | opTraceNV
  | opTypeAccelerationStructureKHR | opExecuteCallableNV | opTypeCooperativeMatrixNV
  | opCooperativeMatrixLoadNV | opCooperativeMatrixStoreNV | opCooperativeMatrixMulAddNV
  | opCooperativeMatrixLengthNV | opBeginInvocationInterlockEXT | opEndInvocationInterlockEXT
  | opTypeTensorLayoutNV | opTypeTensorViewNV | opDemoteToHelperInvocation
  | opIsHelperInvocationEXT | opRawAccessChainNV | opConstantFunctionPointerINTEL
  | opFunctionPointerCallINTEL | opAsmTargetINTEL | opAsmINTEL | opAsmCallINTEL | opAtomicFMinEXT
  | opAtomicFMaxEXT | opAssumeTrueKHR | opExpectKHR | opDecorateString | opMemberDecorateString
  | opAtomicFAddEXT | opTypeTaskSequenceINTEL
  deriving DecidableEq

namespace Opcode

/-! ## Codes -/

/-- The number of the operation, the low half of an instruction header. -/
def code : Opcode → UInt16
  | opNop => 0
  | opUndef => 1
  | opSourceContinued => 2
  | opSource => 3
  | opSourceExtension => 4
  | opName => 5
  | opMemberName => 6
  | opString => 7
  | opLine => 8
  | opExtension => 10
  | opExtInstImport => 11
  | opExtInst => 12
  | opMemoryModel => 14
  | opEntryPoint => 15
  | opExecutionMode => 16
  | opCapability => 17
  | opTypeVoid => 19
  | opTypeBool => 20
  | opTypeInt => 21
  | opTypeFloat => 22
  | opTypeVector => 23
  | opTypeMatrix => 24
  | opTypeImage => 25
  | opTypeSampler => 26
  | opTypeSampledImage => 27
  | opTypeArray => 28
  | opTypeRuntimeArray => 29
  | opTypeStruct => 30
  | opTypeOpaque => 31
  | opTypePointer => 32
  | opTypeFunction => 33
  | opTypeEvent => 34
  | opTypeDeviceEvent => 35
  | opTypeReserveId => 36
  | opTypeQueue => 37
  | opTypePipe => 38
  | opTypeForwardPointer => 39
  | opConstantTrue => 41
  | opConstantFalse => 42
  | opConstant => 43
  | opConstantComposite => 44
  | opConstantSampler => 45
  | opConstantNull => 46
  | opSpecConstantTrue => 48
  | opSpecConstantFalse => 49
  | opSpecConstant => 50
  | opSpecConstantComposite => 51
  | opSpecConstantOp => 52
  | opFunction => 54
  | opFunctionParameter => 55
  | opFunctionEnd => 56
  | opFunctionCall => 57
  | opVariable => 59
  | opImageTexelPointer => 60
  | opLoad => 61
  | opStore => 62
  | opCopyMemory => 63
  | opCopyMemorySized => 64
  | opAccessChain => 65
  | opInBoundsAccessChain => 66
  | opPtrAccessChain => 67
  | opArrayLength => 68
  | opGenericPtrMemSemantics => 69
  | opInBoundsPtrAccessChain => 70
  | opDecorate => 71
  | opMemberDecorate => 72
  | opDecorationGroup => 73
  | opGroupDecorate => 74
  | opGroupMemberDecorate => 75
  | opVectorExtractDynamic => 77
  | opVectorInsertDynamic => 78
  | opVectorShuffle => 79
  | opCompositeConstruct => 80
  | opCompositeExtract => 81
  | opCompositeInsert => 82
  | opCopyObject => 83
  | opTranspose => 84
  | opSampledImage => 86
  | opImageSampleImplicitLod => 87
  | opImageSampleExplicitLod => 88
  | opImageSampleDrefImplicitLod => 89
  | opImageSampleDrefExplicitLod => 90
  | opImageSampleProjImplicitLod => 91
  | opImageSampleProjExplicitLod => 92
  | opImageSampleProjDrefImplicitLod => 93
  | opImageSampleProjDrefExplicitLod => 94
  | opImageFetch => 95
  | opImageGather => 96
  | opImageDrefGather => 97
  | opImageRead => 98
  | opImageWrite => 99
  | opImage => 100
  | opImageQueryFormat => 101
  | opImageQueryOrder => 102
  | opImageQuerySizeLod => 103
  | opImageQuerySize => 104
  | opImageQueryLod => 105
  | opImageQueryLevels => 106
  | opImageQuerySamples => 107
  | opConvertFToU => 109
  | opConvertFToS => 110
  | opConvertSToF => 111
  | opConvertUToF => 112
  | opUConvert => 113
  | opSConvert => 114
  | opFConvert => 115
  | opQuantizeToF16 => 116
  | opConvertPtrToU => 117
  | opSatConvertSToU => 118
  | opSatConvertUToS => 119
  | opConvertUToPtr => 120
  | opPtrCastToGeneric => 121
  | opGenericCastToPtr => 122
  | opGenericCastToPtrExplicit => 123
  | opBitcast => 124
  | opSNegate => 126
  | opFNegate => 127
  | opIAdd => 128
  | opFAdd => 129
  | opISub => 130
  | opFSub => 131
  | opIMul => 132
  | opFMul => 133
  | opUDiv => 134
  | opSDiv => 135
  | opFDiv => 136
  | opUMod => 137
  | opSRem => 138
  | opSMod => 139
  | opFRem => 140
  | opFMod => 141
  | opVectorTimesScalar => 142
  | opMatrixTimesScalar => 143
  | opVectorTimesMatrix => 144
  | opMatrixTimesVector => 145
  | opMatrixTimesMatrix => 146
  | opOuterProduct => 147
  | opDot => 148
  | opIAddCarry => 149
  | opISubBorrow => 150
  | opUMulExtended => 151
  | opSMulExtended => 152
  | opAny => 154
  | opAll => 155
  | opIsNan => 156
  | opIsInf => 157
  | opIsFinite => 158
  | opIsNormal => 159
  | opSignBitSet => 160
  | opLessOrGreater => 161
  | opOrdered => 162
  | opUnordered => 163
  | opLogicalEqual => 164
  | opLogicalNotEqual => 165
  | opLogicalOr => 166
  | opLogicalAnd => 167
  | opLogicalNot => 168
  | opSelect => 169
  | opIEqual => 170
  | opINotEqual => 171
  | opUGreaterThan => 172
  | opSGreaterThan => 173
  | opUGreaterThanEqual => 174
  | opSGreaterThanEqual => 175
  | opULessThan => 176
  | opSLessThan => 177
  | opULessThanEqual => 178
  | opSLessThanEqual => 179
  | opFOrdEqual => 180
  | opFUnordEqual => 181
  | opFOrdNotEqual => 182
  | opFUnordNotEqual => 183
  | opFOrdLessThan => 184
  | opFUnordLessThan => 185
  | opFOrdGreaterThan => 186
  | opFUnordGreaterThan => 187
  | opFOrdLessThanEqual => 188
  | opFUnordLessThanEqual => 189
  | opFOrdGreaterThanEqual => 190
  | opFUnordGreaterThanEqual => 191
  | opShiftRightLogical => 194
  | opShiftRightArithmetic => 195
  | opShiftLeftLogical => 196
  | opBitwiseOr => 197
  | opBitwiseXor => 198
  | opBitwiseAnd => 199
  | opNot => 200
  | opBitFieldInsert => 201
  | opBitFieldSExtract => 202
  | opBitFieldUExtract => 203
  | opBitReverse => 204
  | opBitCount => 205
  | opDPdx => 207
  | opDPdy => 208
  | opFwidth => 209
  | opDPdxFine => 210
  | opDPdyFine => 211
  | opFwidthFine => 212
  | opDPdxCoarse => 213
  | opDPdyCoarse => 214
  | opFwidthCoarse => 215
  | opEmitVertex => 218
  | opEndPrimitive => 219
  | opEmitStreamVertex => 220
  | opEndStreamPrimitive => 221
  | opControlBarrier => 224
  | opMemoryBarrier => 225
  | opAtomicLoad => 227
  | opAtomicStore => 228
  | opAtomicExchange => 229
  | opAtomicCompareExchange => 230
  | opAtomicCompareExchangeWeak => 231
  | opAtomicIIncrement => 232
  | opAtomicIDecrement => 233
  | opAtomicIAdd => 234
  | opAtomicISub => 235
  | opAtomicSMin => 236
  | opAtomicUMin => 237
  | opAtomicSMax => 238
  | opAtomicUMax => 239
  | opAtomicAnd => 240
  | opAtomicOr => 241
  | opAtomicXor => 242
  | opPhi => 245
  | opLoopMerge => 246
  | opSelectionMerge => 247
  | opLabel => 248
  | opBranch => 249
  | opBranchConditional => 250
  | opSwitch => 251
  | opKill => 252
  | opReturn => 253
  | opReturnValue => 254
  | opUnreachable => 255
  | opLifetimeStart => 256
  | opLifetimeStop => 257
  | opGroupAsyncCopy => 259
  | opGroupWaitEvents => 260
  | opGroupAll => 261
  | opGroupAny => 262
  | opGroupBroadcast => 263
  | opGroupIAdd => 264
  | opGroupFAdd => 265
  | opGroupFMin => 266
  | opGroupUMin => 267
  | opGroupSMin => 268
  | opGroupFMax => 269
  | opGroupUMax => 270
  | opGroupSMax => 271
  | opReadPipe => 274
  | opWritePipe => 275
  | opReservedReadPipe => 276
  | opReservedWritePipe => 277
  | opReserveReadPipePackets => 278
  | opReserveWritePipePackets => 279
  | opCommitReadPipe => 280
  | opCommitWritePipe => 281
  | opIsValidReserveId => 282
  | opGetNumPipePackets => 283
  | opGetMaxPipePackets => 284
  | opGroupReserveReadPipePackets => 285
  | opGroupReserveWritePipePackets => 286
  | opGroupCommitReadPipe => 287
  | opGroupCommitWritePipe => 288
  | opEnqueueMarker => 291
  | opEnqueueKernel => 292
  | opGetKernelNDrangeSubGroupCount => 293
  | opGetKernelNDrangeMaxSubGroupSize => 294
  | opGetKernelWorkGroupSize => 295
  | opGetKernelPreferredWorkGroupSizeMultiple => 296
  | opRetainEvent => 297
  | opReleaseEvent => 298
  | opCreateUserEvent => 299
  | opIsValidEvent => 300
  | opSetUserEventStatus => 301
  | opCaptureEventProfilingInfo => 302
  | opGetDefaultQueue => 303
  | opBuildNDRange => 304
  | opImageSparseSampleImplicitLod => 305
  | opImageSparseSampleExplicitLod => 306
  | opImageSparseSampleDrefImplicitLod => 307
  | opImageSparseSampleDrefExplicitLod => 308
  | opImageSparseSampleProjImplicitLod => 309
  | opImageSparseSampleProjExplicitLod => 310
  | opImageSparseSampleProjDrefImplicitLod => 311
  | opImageSparseSampleProjDrefExplicitLod => 312
  | opImageSparseFetch => 313
  | opImageSparseGather => 314
  | opImageSparseDrefGather => 315
  | opImageSparseTexelsResident => 316
  | opNoLine => 317
  | opAtomicFlagTestAndSet => 318
  | opAtomicFlagClear => 319
  | opImageSparseRead => 320
  | opSizeOf => 321
  | opTypePipeStorage => 322
  | opConstantPipeStorage => 323
  | opCreatePipeFromPipeStorage => 324
  | opGetKernelLocalSizeForSubgroupCount => 325
  | opGetKernelMaxNumSubgroups => 326
  | opTypeNamedBarrier => 327
  | opNamedBarrierInitialize => 328
  | opMemoryNamedBarrier => 329
  | opModuleProcessed => 330
  | opExecutionModeId => 331
  | opDecorateId => 332
  | opGroupNonUniformElect => 333
  | opGroupNonUniformAll => 334
  | opGroupNonUniformAny => 335
  | opGroupNonUniformAllEqual => 336
  | opGroupNonUniformBroadcast => 337
  | opGroupNonUniformBroadcastFirst => 338
  | opGroupNonUniformBallot => 339
  | opGroupNonUniformInverseBallot => 340
  | opGroupNonUniformBallotBitExtract => 341
  | opGroupNonUniformBallotBitCount => 342
  | opGroupNonUniformBallotFindLSB => 343
  | opGroupNonUniformBallotFindMSB => 344
  | opGroupNonUniformShuffle => 345
  | opGroupNonUniformShuffleXor => 346
  | opGroupNonUniformShuffleUp => 347
  | opGroupNonUniformShuffleDown => 348
  | opGroupNonUniformIAdd => 349
  | opGroupNonUniformFAdd => 350
  | opGroupNonUniformIMul => 351
  | opGroupNonUniformFMul => 352
  | opGroupNonUniformSMin => 353
  | opGroupNonUniformUMin => 354
  | opGroupNonUniformFMin => 355
  | opGroupNonUniformSMax => 356
  | opGroupNonUniformUMax => 357
  | opGroupNonUniformFMax => 358
  | opGroupNonUniformBitwiseAnd => 359
  | opGroupNonUniformBitwiseOr => 360
  | opGroupNonUniformBitwiseXor => 361
  | opGroupNonUniformLogicalAnd => 362
  | opGroupNonUniformLogicalOr => 363
  | opGroupNonUniformLogicalXor => 364
  | opGroupNonUniformQuadBroadcast => 365
  | opGroupNonUniformQuadSwap => 366
  | opCopyLogical => 400
  | opPtrEqual => 401
  | opPtrNotEqual => 402
  | opPtrDiff => 403
  | opColorAttachmentReadEXT => 4160
  | opDepthAttachmentReadEXT => 4161
  | opStencilAttachmentReadEXT => 4162
  | opTypeTensorARM => 4163
  | opTensorReadARM => 4164
  | opTensorWriteARM => 4165
  | opTensorQuerySizeARM => 4166
  | opTerminateInvocation => 4416
  | opTypeUntypedPointerKHR => 4417
  | opUntypedVariableKHR => 4418
  | opUntypedAccessChainKHR => 4419
  | opUntypedInBoundsAccessChainKHR => 4420
  | opSubgroupBallotKHR => 4421
  | opSubgroupFirstInvocationKHR => 4422
  | opUntypedPtrAccessChainKHR => 4423
  | opUntypedInBoundsPtrAccessChainKHR => 4424
  | opUntypedArrayLengthKHR => 4425
  | opUntypedPrefetchKHR => 4426
  | opSubgroupAllKHR => 4428
  | opSubgroupAnyKHR => 4429
  | opSubgroupAllEqualKHR => 4430
  | opGroupNonUniformRotateKHR => 4431
  | opSubgroupReadInvocationKHR => 4432
  | opExtInstWithForwardRefsKHR => 4433
  | opTraceRayKHR => 4445
  | opExecuteCallableKHR => 4446
  | opConvertUToAccelerationStructureKHR => 4447
  | opIgnoreIntersectionKHR => 4448
  | opTerminateRayKHR => 4449
  | opSDot => 4450
  | opUDot => 4451
  | opSUDot => 4452
  | opSDotAccSat => 4453
  | opUDotAccSat => 4454
  | opSUDotAccSat => 4455
  | opTypeCooperativeMatrixKHR => 4456
  | opCooperativeMatrixLoadKHR => 4457
  | opCooperativeMatrixStoreKHR => 4458
  | opCooperativeMatrixMulAddKHR => 4459
  | opCooperativeMatrixLengthKHR => 4460
  | opConstantCompositeReplicateEXT => 4461
  | opSpecConstantCompositeReplicateEXT => 4462
  | opCompositeConstructReplicateEXT => 4463
  | opTypeRayQueryKHR => 4472
  | opRayQueryInitializeKHR => 4473
  | opRayQueryTerminateKHR => 4474
  | opRayQueryGenerateIntersectionKHR => 4475
  | opRayQueryConfirmIntersectionKHR => 4476
  | opRayQueryProceedKHR => 4477
  | opRayQueryGetIntersectionTypeKHR => 4479
  | opGroupIAddNonUniformAMD => 5000
  | opGroupFAddNonUniformAMD => 5001
  | opGroupFMinNonUniformAMD => 5002
  | opGroupUMinNonUniformAMD => 5003
  | opGroupSMinNonUniformAMD => 5004
  | opGroupFMaxNonUniformAMD => 5005
  | opGroupUMaxNonUniformAMD => 5006
  | opGroupSMaxNonUniformAMD => 5007
  | opFragmentMaskFetchAMD => 5011
  | opFragmentFetchAMD => 5012
  | opReadClockKHR => 5056
  | opAllocateNodePayloadsAMDX => 5074
  | opEnqueueNodePayloadsAMDX => 5075
  | opTypeNodePayloadArrayAMDX => 5076
  | opFinishWritingNodePayloadAMDX => 5078
  | opNodePayloadArrayLengthAMDX => 5090
  | opIsNodePayloadValidAMDX => 5101
  | opConstantStringAMDX => 5103
  | opSpecConstantStringAMDX => 5104
  | opGroupNonUniformQuadAllKHR => 5110
  | opGroupNonUniformQuadAnyKHR => 5111
  | opTypeHitObjectNV => 5281
  | opImageSampleFootprintNV => 5283
  | opTypeCooperativeVectorNV => 5288
  | opCooperativeVectorMatrixMulNV => 5289
  | opCooperativeVectorOuterProductAccumulateNV => 5290
  | opCooperativeVectorReduceSumAccumulateNV => 5291
  | opCooperativeVectorMatrixMulAddNV => 5292
  | opCooperativeMatrixConvertNV => 5293
  | opEmitMeshTasksEXT => 5294
  | opSetMeshOutputsEXT => 5295
  | opGroupNonUniformPartitionNV => 5296
  | opWritePackedPrimitiveIndices4x8NV => 5299
  | opReportIntersectionKHR => 5334
  | opIgnoreIntersectionNV => 5335
  | opTerminateRayNV => 5336
  | opTraceNV => 5337
  | opTypeAccelerationStructureKHR => 5341
  | opExecuteCallableNV => 5344
  | opTypeCooperativeMatrixNV => 5358
  | opCooperativeMatrixLoadNV => 5359
  | opCooperativeMatrixStoreNV => 5360
  | opCooperativeMatrixMulAddNV => 5361
  | opCooperativeMatrixLengthNV => 5362
  | opBeginInvocationInterlockEXT => 5364
  | opEndInvocationInterlockEXT => 5365
  | opTypeTensorLayoutNV => 5370
  | opTypeTensorViewNV => 5371
  | opDemoteToHelperInvocation => 5380
  | opIsHelperInvocationEXT => 5381
  | opRawAccessChainNV => 5398
  | opConstantFunctionPointerINTEL => 5600
  | opFunctionPointerCallINTEL => 5601
  | opAsmTargetINTEL => 5609
  | opAsmINTEL => 5610
  | opAsmCallINTEL => 5611
  | opAtomicFMinEXT => 5614
  | opAtomicFMaxEXT => 5615
  | opAssumeTrueKHR => 5630
  | opExpectKHR => 5631
  | opDecorateString => 5632
  | opMemberDecorateString => 5633
  | opAtomicFAddEXT => 6035
  | opTypeTaskSequenceINTEL => 6199

/-- Every operation, in ascending order of the codes. -/
def all : List Opcode :=
  [.opNop, .opUndef, .opSourceContinued, .opSource, .opSourceExtension, .opName, .opMemberName,
   .opString, .opLine, .opExtension, .opExtInstImport, .opExtInst, .opMemoryModel, .opEntryPoint,
   .opExecutionMode, .opCapability, .opTypeVoid, .opTypeBool, .opTypeInt, .opTypeFloat,
   .opTypeVector, .opTypeMatrix, .opTypeImage, .opTypeSampler, .opTypeSampledImage, .opTypeArray,
   .opTypeRuntimeArray, .opTypeStruct, .opTypeOpaque, .opTypePointer, .opTypeFunction,
   .opTypeEvent, .opTypeDeviceEvent, .opTypeReserveId, .opTypeQueue, .opTypePipe,
   .opTypeForwardPointer, .opConstantTrue, .opConstantFalse, .opConstant, .opConstantComposite,
   .opConstantSampler, .opConstantNull, .opSpecConstantTrue, .opSpecConstantFalse, .opSpecConstant,
   .opSpecConstantComposite, .opSpecConstantOp, .opFunction, .opFunctionParameter, .opFunctionEnd,
   .opFunctionCall, .opVariable, .opImageTexelPointer, .opLoad, .opStore, .opCopyMemory,
   .opCopyMemorySized, .opAccessChain, .opInBoundsAccessChain, .opPtrAccessChain, .opArrayLength,
   .opGenericPtrMemSemantics, .opInBoundsPtrAccessChain, .opDecorate, .opMemberDecorate,
   .opDecorationGroup, .opGroupDecorate, .opGroupMemberDecorate, .opVectorExtractDynamic,
   .opVectorInsertDynamic, .opVectorShuffle, .opCompositeConstruct, .opCompositeExtract,
   .opCompositeInsert, .opCopyObject, .opTranspose, .opSampledImage, .opImageSampleImplicitLod,
   .opImageSampleExplicitLod, .opImageSampleDrefImplicitLod, .opImageSampleDrefExplicitLod,
   .opImageSampleProjImplicitLod, .opImageSampleProjExplicitLod, .opImageSampleProjDrefImplicitLod,
   .opImageSampleProjDrefExplicitLod, .opImageFetch, .opImageGather, .opImageDrefGather,
   .opImageRead, .opImageWrite, .opImage, .opImageQueryFormat, .opImageQueryOrder,
   .opImageQuerySizeLod, .opImageQuerySize, .opImageQueryLod, .opImageQueryLevels,
   .opImageQuerySamples, .opConvertFToU, .opConvertFToS, .opConvertSToF, .opConvertUToF,
   .opUConvert, .opSConvert, .opFConvert, .opQuantizeToF16, .opConvertPtrToU, .opSatConvertSToU,
   .opSatConvertUToS, .opConvertUToPtr, .opPtrCastToGeneric, .opGenericCastToPtr,
   .opGenericCastToPtrExplicit, .opBitcast, .opSNegate, .opFNegate, .opIAdd, .opFAdd, .opISub,
   .opFSub, .opIMul, .opFMul, .opUDiv, .opSDiv, .opFDiv, .opUMod, .opSRem, .opSMod, .opFRem,
   .opFMod, .opVectorTimesScalar, .opMatrixTimesScalar, .opVectorTimesMatrix, .opMatrixTimesVector,
   .opMatrixTimesMatrix, .opOuterProduct, .opDot, .opIAddCarry, .opISubBorrow, .opUMulExtended,
   .opSMulExtended, .opAny, .opAll, .opIsNan, .opIsInf, .opIsFinite, .opIsNormal, .opSignBitSet,
   .opLessOrGreater, .opOrdered, .opUnordered, .opLogicalEqual, .opLogicalNotEqual, .opLogicalOr,
   .opLogicalAnd, .opLogicalNot, .opSelect, .opIEqual, .opINotEqual, .opUGreaterThan,
   .opSGreaterThan, .opUGreaterThanEqual, .opSGreaterThanEqual, .opULessThan, .opSLessThan,
   .opULessThanEqual, .opSLessThanEqual, .opFOrdEqual, .opFUnordEqual, .opFOrdNotEqual,
   .opFUnordNotEqual, .opFOrdLessThan, .opFUnordLessThan, .opFOrdGreaterThan, .opFUnordGreaterThan,
   .opFOrdLessThanEqual, .opFUnordLessThanEqual, .opFOrdGreaterThanEqual,
   .opFUnordGreaterThanEqual, .opShiftRightLogical, .opShiftRightArithmetic, .opShiftLeftLogical,
   .opBitwiseOr, .opBitwiseXor, .opBitwiseAnd, .opNot, .opBitFieldInsert, .opBitFieldSExtract,
   .opBitFieldUExtract, .opBitReverse, .opBitCount, .opDPdx, .opDPdy, .opFwidth, .opDPdxFine,
   .opDPdyFine, .opFwidthFine, .opDPdxCoarse, .opDPdyCoarse, .opFwidthCoarse, .opEmitVertex,
   .opEndPrimitive, .opEmitStreamVertex, .opEndStreamPrimitive, .opControlBarrier,
   .opMemoryBarrier, .opAtomicLoad, .opAtomicStore, .opAtomicExchange, .opAtomicCompareExchange,
   .opAtomicCompareExchangeWeak, .opAtomicIIncrement, .opAtomicIDecrement, .opAtomicIAdd,
   .opAtomicISub, .opAtomicSMin, .opAtomicUMin, .opAtomicSMax, .opAtomicUMax, .opAtomicAnd,
   .opAtomicOr, .opAtomicXor, .opPhi, .opLoopMerge, .opSelectionMerge, .opLabel, .opBranch,
   .opBranchConditional, .opSwitch, .opKill, .opReturn, .opReturnValue, .opUnreachable,
   .opLifetimeStart, .opLifetimeStop, .opGroupAsyncCopy, .opGroupWaitEvents, .opGroupAll,
   .opGroupAny, .opGroupBroadcast, .opGroupIAdd, .opGroupFAdd, .opGroupFMin, .opGroupUMin,
   .opGroupSMin, .opGroupFMax, .opGroupUMax, .opGroupSMax, .opReadPipe, .opWritePipe,
   .opReservedReadPipe, .opReservedWritePipe, .opReserveReadPipePackets,
   .opReserveWritePipePackets, .opCommitReadPipe, .opCommitWritePipe, .opIsValidReserveId,
   .opGetNumPipePackets, .opGetMaxPipePackets, .opGroupReserveReadPipePackets,
   .opGroupReserveWritePipePackets, .opGroupCommitReadPipe, .opGroupCommitWritePipe,
   .opEnqueueMarker, .opEnqueueKernel, .opGetKernelNDrangeSubGroupCount,
   .opGetKernelNDrangeMaxSubGroupSize, .opGetKernelWorkGroupSize,
   .opGetKernelPreferredWorkGroupSizeMultiple, .opRetainEvent, .opReleaseEvent, .opCreateUserEvent,
   .opIsValidEvent, .opSetUserEventStatus, .opCaptureEventProfilingInfo, .opGetDefaultQueue,
   .opBuildNDRange, .opImageSparseSampleImplicitLod, .opImageSparseSampleExplicitLod,
   .opImageSparseSampleDrefImplicitLod, .opImageSparseSampleDrefExplicitLod,
   .opImageSparseSampleProjImplicitLod, .opImageSparseSampleProjExplicitLod,
   .opImageSparseSampleProjDrefImplicitLod, .opImageSparseSampleProjDrefExplicitLod,
   .opImageSparseFetch, .opImageSparseGather, .opImageSparseDrefGather,
   .opImageSparseTexelsResident, .opNoLine, .opAtomicFlagTestAndSet, .opAtomicFlagClear,
   .opImageSparseRead, .opSizeOf, .opTypePipeStorage, .opConstantPipeStorage,
   .opCreatePipeFromPipeStorage, .opGetKernelLocalSizeForSubgroupCount,
   .opGetKernelMaxNumSubgroups, .opTypeNamedBarrier, .opNamedBarrierInitialize,
   .opMemoryNamedBarrier, .opModuleProcessed, .opExecutionModeId, .opDecorateId,
   .opGroupNonUniformElect, .opGroupNonUniformAll, .opGroupNonUniformAny,
   .opGroupNonUniformAllEqual, .opGroupNonUniformBroadcast, .opGroupNonUniformBroadcastFirst,
   .opGroupNonUniformBallot, .opGroupNonUniformInverseBallot, .opGroupNonUniformBallotBitExtract,
   .opGroupNonUniformBallotBitCount, .opGroupNonUniformBallotFindLSB,
   .opGroupNonUniformBallotFindMSB, .opGroupNonUniformShuffle, .opGroupNonUniformShuffleXor,
   .opGroupNonUniformShuffleUp, .opGroupNonUniformShuffleDown, .opGroupNonUniformIAdd,
   .opGroupNonUniformFAdd, .opGroupNonUniformIMul, .opGroupNonUniformFMul, .opGroupNonUniformSMin,
   .opGroupNonUniformUMin, .opGroupNonUniformFMin, .opGroupNonUniformSMax, .opGroupNonUniformUMax,
   .opGroupNonUniformFMax, .opGroupNonUniformBitwiseAnd, .opGroupNonUniformBitwiseOr,
   .opGroupNonUniformBitwiseXor, .opGroupNonUniformLogicalAnd, .opGroupNonUniformLogicalOr,
   .opGroupNonUniformLogicalXor, .opGroupNonUniformQuadBroadcast, .opGroupNonUniformQuadSwap,
   .opCopyLogical, .opPtrEqual, .opPtrNotEqual, .opPtrDiff, .opColorAttachmentReadEXT,
   .opDepthAttachmentReadEXT, .opStencilAttachmentReadEXT, .opTypeTensorARM, .opTensorReadARM,
   .opTensorWriteARM, .opTensorQuerySizeARM, .opTerminateInvocation, .opTypeUntypedPointerKHR,
   .opUntypedVariableKHR, .opUntypedAccessChainKHR, .opUntypedInBoundsAccessChainKHR,
   .opSubgroupBallotKHR, .opSubgroupFirstInvocationKHR, .opUntypedPtrAccessChainKHR,
   .opUntypedInBoundsPtrAccessChainKHR, .opUntypedArrayLengthKHR, .opUntypedPrefetchKHR,
   .opSubgroupAllKHR, .opSubgroupAnyKHR, .opSubgroupAllEqualKHR, .opGroupNonUniformRotateKHR,
   .opSubgroupReadInvocationKHR, .opExtInstWithForwardRefsKHR, .opTraceRayKHR,
   .opExecuteCallableKHR, .opConvertUToAccelerationStructureKHR, .opIgnoreIntersectionKHR,
   .opTerminateRayKHR, .opSDot, .opUDot, .opSUDot, .opSDotAccSat, .opUDotAccSat, .opSUDotAccSat,
   .opTypeCooperativeMatrixKHR, .opCooperativeMatrixLoadKHR, .opCooperativeMatrixStoreKHR,
   .opCooperativeMatrixMulAddKHR, .opCooperativeMatrixLengthKHR, .opConstantCompositeReplicateEXT,
   .opSpecConstantCompositeReplicateEXT, .opCompositeConstructReplicateEXT, .opTypeRayQueryKHR,
   .opRayQueryInitializeKHR, .opRayQueryTerminateKHR, .opRayQueryGenerateIntersectionKHR,
   .opRayQueryConfirmIntersectionKHR, .opRayQueryProceedKHR, .opRayQueryGetIntersectionTypeKHR,
   .opGroupIAddNonUniformAMD, .opGroupFAddNonUniformAMD, .opGroupFMinNonUniformAMD,
   .opGroupUMinNonUniformAMD, .opGroupSMinNonUniformAMD, .opGroupFMaxNonUniformAMD,
   .opGroupUMaxNonUniformAMD, .opGroupSMaxNonUniformAMD, .opFragmentMaskFetchAMD,
   .opFragmentFetchAMD, .opReadClockKHR, .opAllocateNodePayloadsAMDX, .opEnqueueNodePayloadsAMDX,
   .opTypeNodePayloadArrayAMDX, .opFinishWritingNodePayloadAMDX, .opNodePayloadArrayLengthAMDX,
   .opIsNodePayloadValidAMDX, .opConstantStringAMDX, .opSpecConstantStringAMDX,
   .opGroupNonUniformQuadAllKHR, .opGroupNonUniformQuadAnyKHR, .opTypeHitObjectNV,
   .opImageSampleFootprintNV, .opTypeCooperativeVectorNV, .opCooperativeVectorMatrixMulNV,
   .opCooperativeVectorOuterProductAccumulateNV, .opCooperativeVectorReduceSumAccumulateNV,
   .opCooperativeVectorMatrixMulAddNV, .opCooperativeMatrixConvertNV, .opEmitMeshTasksEXT,
   .opSetMeshOutputsEXT, .opGroupNonUniformPartitionNV, .opWritePackedPrimitiveIndices4x8NV,
   .opReportIntersectionKHR, .opIgnoreIntersectionNV, .opTerminateRayNV, .opTraceNV,
   .opTypeAccelerationStructureKHR, .opExecuteCallableNV, .opTypeCooperativeMatrixNV,
   .opCooperativeMatrixLoadNV, .opCooperativeMatrixStoreNV, .opCooperativeMatrixMulAddNV,
   .opCooperativeMatrixLengthNV, .opBeginInvocationInterlockEXT, .opEndInvocationInterlockEXT,
   .opTypeTensorLayoutNV, .opTypeTensorViewNV, .opDemoteToHelperInvocation,
   .opIsHelperInvocationEXT, .opRawAccessChainNV, .opConstantFunctionPointerINTEL,
   .opFunctionPointerCallINTEL, .opAsmTargetINTEL, .opAsmINTEL, .opAsmCallINTEL, .opAtomicFMinEXT,
   .opAtomicFMaxEXT, .opAssumeTrueKHR, .opExpectKHR, .opDecorateString, .opMemberDecorateString,
   .opAtomicFAddEXT, .opTypeTaskSequenceINTEL]

/-- The operation with the given code. -/
def ofCode? (code : UInt16) : Option Opcode :=
  all.find? fun op => op.code == code

/-- The operation with the given code; a code that is not registered is an error. -/
def ofCode (code : UInt16) : Except Error Opcode :=
  match ofCode? code with
  | some op => .ok op
  | none => .error (.unknownOpcode code.toUInt32)

/-- The operation with the given code, for numbers of any size: one above 16 bits is no
    code, and the error carries all of it. -/
def ofNumber (number : UInt32) : Except Error Opcode :=
  if number < 0x10000 then ofCode number.toUInt16 else .error (.unknownOpcode number)

/-! ## The list is complete and ascends -/

/-- Whether the numbers ascend strictly. -/
def ascends : List Nat → Bool
  | a :: b :: rest => decide (a < b) && ascends (b :: rest)
  | _ => true

theorem ascends_codes : ascends (all.map fun op => op.code.toNat) = true := by
  decide +kernel

theorem all_eq_map_ofNat : all = (List.range 458).map ofNat := by
  decide +kernel

theorem ctorIdx_lt (op : Opcode) : op.ctorIdx < 458 := by
  cases op <;> exact Nat.le_of_ble_eq_true rfl

theorem mem_all (op : Opcode) : op ∈ all := by
  rw [all_eq_map_ofNat, List.mem_map]
  exact ⟨op.ctorIdx, List.mem_range.2 op.ctorIdx_lt, ofNat_ctorIdx op⟩

theorem pairwise_of_ascends : ∀ {l : List Nat}, ascends l = true → l.Pairwise (· < ·)
  | [], _ => .nil
  | [a], _ => by simp
  | a :: b :: rest, h => by
    simp only [ascends, Bool.and_eq_true, decide_eq_true_eq] at h
    have ih := pairwise_of_ascends h.2
    refine List.pairwise_cons.2 ⟨fun c hc => ?_, ih⟩
    rcases List.mem_cons.1 hc with rfl | hc
    · exact h.1
    · exact Nat.lt_trans h.1 (List.rel_of_pairwise_cons ih hc)

theorem pairwise_code : all.Pairwise fun a b => a.code.toNat < b.code.toNat :=
  List.pairwise_map.1 (pairwise_of_ascends ascends_codes)

theorem code_inj {a b : Opcode} (h : a.code = b.code) : a = b := by
  obtain ⟨i, hi, rfl⟩ := List.mem_iff_getElem.1 a.mem_all
  obtain ⟨j, hj, rfl⟩ := List.mem_iff_getElem.1 b.mem_all
  have hp := List.pairwise_iff_getElem.1 pairwise_code
  rcases Nat.lt_trichotomy i j with hij | rfl | hij
  · exact absurd (congrArg UInt16.toNat h) (Nat.ne_of_lt (hp i j hi hj hij))
  · rfl
  · exact absurd (congrArg UInt16.toNat h).symm (Nat.ne_of_lt (hp j i hj hi hij))

/-! ## Reading codes -/

theorem ofCode?_eq_some_iff {code : UInt16} {op : Opcode} :
    ofCode? code = some op ↔ op.code = code := by
  unfold ofCode?
  constructor
  · intro h
    simpa using List.find?_some h
  · rintro rfl
    cases h : all.find? fun a => a.code == op.code with
    | none => simpa using List.find?_eq_none.1 h op op.mem_all
    | some a =>
      have ha : a.code = op.code := by simpa using List.find?_some h
      rw [code_inj ha]

theorem ofCode?_code (op : Opcode) : ofCode? op.code = some op :=
  ofCode?_eq_some_iff.2 rfl

theorem ofCode?_eq_none_iff {code : UInt16} :
    ofCode? code = none ↔ ∀ op : Opcode, op.code ≠ code := by
  simp [Option.eq_none_iff_forall_ne_some, ofCode?_eq_some_iff]

end Opcode

end Spirv
