import Mathlib.Data.List.Basic

/-!
Blocks of memory.

A block has a size, and a byte at each offset something was written to.
Growing it keeps the bytes it has; what lies beyond its size is not its own, so
a program has to keep its stores below.
-/

namespace ConnmanUi

/-- An allocated block; `byte` is `none` where nothing was written. -/
structure ByteBlock where
  size : Nat
  byte : Nat → Option UInt8

namespace ByteBlock

variable {b : ByteBlock} {bytes : List UInt8} {offset start width size : Nat}

/-- No block: the null pointer. -/
def null : ByteBlock := ⟨0, fun _ => none⟩

/-- `realloc`: the bytes both sizes have room for are kept. -/
def realloc (b : ByteBlock) (size : Nat) : ByteBlock where
  size := size
  byte i := if i < b.size ∧ i < size then b.byte i else none

def store (b : ByteBlock) (offset : Nat) (bytes : List UInt8) : ByteBlock :=
  { b with byte := fun i =>
      if offset ≤ i ∧ i < offset + bytes.length then bytes[i - offset]? else b.byte i }

/-- The bytes from `start` on. -/
def load (b : ByteBlock) (start width : Nat) : List (Option UInt8) :=
  (List.range width).map fun i => b.byte (start + i)

@[simp] theorem size_realloc : (b.realloc size).size = size := rfl

@[simp] theorem size_store : (b.store offset bytes).size = b.size := rfl

theorem load_congr {b' : ByteBlock} (same : ∀ i < width, b'.byte (start + i) = b.byte (start + i)) :
    b'.load start width = b.load start width :=
  List.map_congr_left fun i within => same i (List.mem_range.mp within)

theorem load_realloc (within : start + width ≤ b.size) (grown : b.size ≤ size) :
    (b.realloc size).load start width = b.load start width := by
  apply load_congr
  intro i lt
  exact if_pos ⟨by omega, by omega⟩

theorem load_store_apart (apart : start + width ≤ offset ∨ offset + bytes.length ≤ start) :
    (b.store offset bytes).load start width = b.load start width := by
  apply load_congr
  intro i lt
  exact if_neg (by omega)

theorem load_store_same (b : ByteBlock) (offset : Nat) (bytes : List UInt8) :
    (b.store offset bytes).load offset bytes.length = bytes.map some := by
  apply List.ext_getElem
  · simp [load]
  · intro i lt _
    have within : i < bytes.length := by simpa [load] using lt
    simp [load, store, within]

end ByteBlock

end ConnmanUi
