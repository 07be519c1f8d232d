/-
  Memory-semantics operands.

  A memory-semantics id says which orderings a barrier or an atomic operation asks for.
  `semanticsOperands` gives its positions among the operands, counted from the first word
  after the header; a result type and a result id count where the operation has them.
-/
import Spirv.Opcode

namespace Spirv.Opcode

/-- The positions of the memory-semantics ids among the operands, in their order.  A
    compare-exchange has one for success and one for failure. -/
def semanticsOperands : Opcode → List Nat
  | .opMemoryBarrier => [1]
  | .opAtomicStore | .opControlBarrier | .opAtomicFlagClear | .opMemoryNamedBarrier => [2]
  | .opAtomicLoad | .opAtomicExchange | .opAtomicIIncrement | .opAtomicIDecrement
  | .opAtomicIAdd | .opAtomicFAddEXT | .opAtomicISub | .opAtomicSMin | .opAtomicUMin
  | .opAtomicFMinEXT | .opAtomicSMax | .opAtomicUMax | .opAtomicFMaxEXT | .opAtomicAnd
  | .opAtomicOr | .opAtomicXor | .opAtomicFlagTestAndSet => [4]
  | .opAtomicCompareExchange | .opAtomicCompareExchangeWeak => [4, 5]
  | _ => []

end Spirv.Opcode
