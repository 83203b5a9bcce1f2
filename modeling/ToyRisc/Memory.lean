/-
The data memory: a row of bytes.
-/
import ToyRisc.Decimal

namespace ToyRisc

structure Memory where
  bytes : List UInt8
  deriving DecidableEq, Repr

namespace Memory

/-- A memory of zero bytes; a negative size gives none. -/
def ofSize (size : Int) : Memory := ⟨List.replicate size.toNat 0⟩

def size (memory : Memory) : Nat := memory.bytes.length

/-- The bytes in decimal, with commas between them. -/
def render (memory : Memory) : String :=
  String.intercalate "," (memory.bytes.map fun byte => Decimal.text byte.toNat)

@[simp] theorem size_ofSize (size : Int) : (ofSize size).size = size.toNat := by
  simp [ofSize, Memory.size]

end Memory

end ToyRisc
