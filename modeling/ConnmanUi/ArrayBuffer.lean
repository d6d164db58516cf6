import ConnmanUi.ByteBlock
import ConnmanUi.CuiDbusGuarantees

/-!
The buffer of `cui_dbus_get_array` (`lib/dbus.c`).

The block is sized by the type's element size, but `value_array` is an array of
pointers: each element is written eight bytes after the one before, whatever it
is, and a null pointer ends them.  `storeElements` runs the loop over a block of
bytes and notes every store with the size allocated at that moment; the fault
`readCells` reports is one of these stores reaching past the end, and
`cuiDbusGetArray_overrun_iff` says so of the whole function.
-/

namespace ConnmanUi

open DBus

variable {type : Basic} {size n : Nat} {l : List type.Carrier} {block : ByteBlock}

/-- How a value lies in memory; a string is the pointer to it. -/
structure Representation (type : Basic) where
  bytes : type.Carrier → List UInt8
  width : ∀ x, (bytes x).length = basicWidth type

/-- A store into the block, and the size of the block at that moment. -/
structure Store where
  offset : Nat
  width : Nat
  allocated : Nat
  deriving DecidableEq

def Store.InBounds (s : Store) : Prop := s.offset + s.width ≤ s.allocated

instance (s : Store) : Decidable s.InBounds := inferInstanceAs (Decidable (_ ≤ _))

/-- The loop of `cui_dbus_get_array` after `iteration` elements, and the null
pointer behind the last of them: the stores made, and the block. -/
def storeElements (repr : Representation type) (size : Nat) :
    List type.Carrier → Nat → ByteBlock → List Store × ByteBlock
  | [], iteration, block =>
    if iteration > 0 then
      ([⟨8 * iteration, 8, block.size⟩], block.store (8 * iteration) (List.replicate 8 0))
    else ([], block)
  | x :: rest, iteration, block =>
    let iteration := iteration + 1
    let block := block.realloc (size * (iteration + 1))
    let stored := block.store (8 * (iteration - 1)) (repr.bytes x)
    let (stores, filled) := storeElements repr size rest iteration stored
    (⟨8 * (iteration - 1), (repr.bytes x).length, block.size⟩ :: stores, filled)

/-- The block after `iteration` elements. -/
def Sized (size iteration : Nat) (block : ByteBlock) : Prop :=
  iteration = 0 ∨ block.size = size * (iteration + 1)

/-- Every store is inside the block, and reading the result as an array of the
type gives the elements. -/
def BufferHolds (repr : Representation type) (size : Nat) (l : List type.Carrier) : Prop :=
  let (stores, block) := storeElements repr size l 0 .null
  (∀ s ∈ stores, s.InBounds) ∧
    ∀ i, (within : i < l.length) →
      block.load (i * basicWidth type) (basicWidth type) = (repr.bytes l[i]).map some

/-! ## The fault of the reader -/

/-- The stores `readCells` checks are those of the loop. -/
theorem readCells_overrun_iff (repr : Representation type) (n : Nat) (block : ByteBlock) (iters : List Body)
    (elements : iters.map (cellOf type) = l.map fun x => some (some ⟨type, x⟩))
    (sized : Sized size n block) :
    readCells type size iters n = .error .overrun ↔
      ∃ s ∈ (storeElements repr size l n block).1, ¬ s.InBounds := by
  induction iters generalizing l n block with
  | nil =>
    obtain rfl : l = [] := by simpa using elements
    simp only [readCells, storeElements]
    by_cases none : n = 0
    · simp [none]
    · have held : block.size = size * (n + 1) := sized.resolve_left none
      simp [none, Nat.pos_of_ne_zero none, held, Store.InBounds]
  | cons iter iters ih =>
    cases l with
    | nil => cases elements
    | cons x l =>
      obtain ⟨cell, rest⟩ := List.cons.inj elements
      have later := ih (n + 1) ((block.realloc (size * (n + 2))).store (8 * n) (repr.bytes x)) rest (.inr rfl)
      have width : cellWidth (some ⟨type, x⟩) = (repr.bytes x).length := (repr.width x).symm
      simp only [readCells, cell, storeElements, List.mem_cons, exists_eq_or_imp, Nat.add_sub_cancel,
        ByteBlock.size_realloc, Store.InBounds, Nat.not_le]
      simp only [Store.InBounds, Nat.not_le] at later
      by_cases past : size * (n + 2) < 8 * n + cellWidth (some ⟨type, x⟩)
      · rw [if_pos past]
        exact iff_of_true rfl (.inl (width ▸ past))
      · rw [if_neg past]
        rw [width] at past
        refine Iff.trans ?_ (later.trans (or_iff_right past).symm)
        cases readCells type size iters (n + 1) <;> simp [Except.map]

/-- `cui_dbus_get_array` writes past the end when one of the stores does. -/
theorem cuiDbusGetArray_overrun_iff (repr : Representation type) {iter items : Body} {elem : Sig}
    (accepted : elementSize type = some size) (holds : HoldsArray iter elem items)
    (elements : items.positions.map (cellOf type) = l.map fun x => some (some ⟨type, x⟩)) :
    cuiDbusGetArray iter type = .error .overrun ↔
      ∃ s ∈ (storeElements repr size l 0 .null).1, ¬ s.InBounds := by
  rw [← readCells_overrun_iff repr 0 _ items.positions elements (.inl rfl)]
  obtain ⟨rest, rfl | ⟨rest', rfl⟩⟩ := holds
  all_goals
    simp only [cuiDbusGetArray, accepted, recurse, readLocal, Body.inside, bind, Except.bind]
    cases readCells type size items.positions 0 with
    | error fault => simp
    | ok cells => cases cells <;> simp

/-! ## Elements the size of a pointer -/

/-- The types whose values are as wide as the stride. -/
def PointerSized (type : Basic) : Prop :=
  type = .double ∨ type = .string ∨ type = .objectPath ∨ type = .signature

instance (type : Basic) : Decidable (PointerSized type) := inferInstanceAs (Decidable (_ ∨ _))

theorem PointerSized.width (eight : PointerSized type) : basicWidth type = 8 := by
  rcases eight with rfl | rfl | rfl | rfl <;> rfl

/-- Of the types accepted, these are the ones reckoned with eight bytes. -/
theorem pointerSized_cases (accepted : elementSize type = some size) :
    PointerSized type ∧ size = 8 ∨ ¬ PointerSized type ∧ size = 4 := by
  cases type <;> cases accepted <;> simp [PointerSized]

variable {repr : Representation type}

theorem storeElements_inBounds (eight : basicWidth type = 8) (sized : Sized 8 n block) :
    ∀ s ∈ (storeElements repr 8 l n block).1, s.InBounds := by
  induction l generalizing n block with
  | nil =>
    rw [storeElements]
    split
    · next pos =>
      have held : block.size = 8 * (n + 1) := sized.resolve_left (Nat.pos_iff_ne_zero.mp pos)
      simp only [List.mem_singleton, forall_eq, Store.InBounds, held]
      omega
    · simp
  | cons x l ih =>
    intro s mem
    rcases List.mem_cons.mp mem with rfl | later
    · have width := (repr.width x).trans eight
      simp only [Store.InBounds, width, ByteBlock.size_realloc]
      omega
    · exact ih (.inr rfl) s later

/-- The elements stored so far stay, while the block grows. -/
theorem load_storeElements (eight : basicWidth type = 8) (sized : Sized 8 n block) {i : Nat}
    (stored : i < n) :
    (storeElements repr 8 l n block).2.load (i * 8) 8 = block.load (i * 8) 8 := by
  have held : block.size = 8 * (n + 1) := sized.resolve_left (by omega)
  induction l generalizing n block with
  | nil =>
    rw [storeElements, if_pos (by omega)]
    apply ByteBlock.load_store_apart
    omega
  | cons x l ih =>
    have width := (repr.width x).trans eight
    refine (ih (.inr rfl) (by omega) rfl).trans ?_
    rw [ByteBlock.load_store_apart (by omega), ByteBlock.load_realloc (by omega) (by omega)]

/-- Each element is found where an array of the type has it. -/
theorem load_element (repr : Representation type) (n : Nat) (block : ByteBlock) (eight : basicWidth type = 8) (i : Nat)
    (within : i < l.length) :
    (storeElements repr 8 l n block).2.load ((n + i) * 8) 8 = (repr.bytes l[i]).map some := by
  induction l generalizing n block i with
  | nil => exact absurd within (Nat.not_lt_zero i)
  | cons x l ih =>
    cases i with
    | zero =>
      have width := (repr.width x).trans eight
      refine (load_storeElements eight (.inr rfl) (Nat.lt_succ_self n)).trans ?_
      have here := (block.realloc (8 * (n + 1 + 1))).load_store_same (n * 8) (repr.bytes x)
      rw [width] at here
      rw [Nat.add_sub_cancel, Nat.mul_comm 8 n]
      exact here
    | succ i =>
      have later := ih (n + 1) ((block.realloc (8 * (n + 1 + 1))).store (8 * (n + 1 - 1)) (repr.bytes x)) i
        (Nat.lt_of_succ_lt_succ within)
      rw [Nat.add_right_comm n 1 i] at later
      exact later

/-! ## Elements half that size -/

/-- The null pointer of a block half as long as it is written is past its end. -/
theorem storeElements_four (repr : Representation type) (n : Nat) (block : ByteBlock) (some : l ≠ [] ∨ n ≠ 0)
    (sized : Sized 4 n block) :
    ∃ s ∈ (storeElements repr 4 l n block).1, ¬ s.InBounds := by
  induction l generalizing n block with
  | nil =>
    have pos : n ≠ 0 := some.resolve_left fun any => any rfl
    have held : block.size = 4 * (n + 1) := sized.resolve_left pos
    rw [storeElements, if_pos (Nat.pos_of_ne_zero pos)]
    refine ⟨_, List.mem_singleton_self _, ?_⟩
    simp only [Store.InBounds, held]
    omega
  | cons x l ih =>
    obtain ⟨s, mem, past⟩ := ih (n + 1)
      ((block.realloc (4 * (n + 1 + 1))).store (8 * (n + 1 - 1)) (repr.bytes x))
      (.inr (Nat.succ_ne_zero n)) (.inr rfl)
    exact ⟨s, List.mem_cons_of_mem _ mem, past⟩

/-- The array decoder stays inside its buffer, and hands over the elements at
their own size, exactly for the types as wide as a pointer. -/
theorem buffer_holds_iff (repr : Representation type) (accepted : elementSize type = some size)
    (l : List type.Carrier) (some : l ≠ []) : BufferHolds repr size l ↔ PointerSized type := by
  rcases pointerSized_cases accepted with ⟨pointer, rfl⟩ | ⟨narrow, rfl⟩
  · refine iff_of_true ⟨storeElements_inBounds pointer.width (.inl rfl), fun i within => ?_⟩ pointer
    have found := load_element repr 0 .null pointer.width i within
    rw [Nat.zero_add] at found
    rw [pointer.width]
    exact found
  · refine iff_of_false (fun holds => ?_) narrow
    obtain ⟨s, mem, past⟩ := storeElements_four repr 0 .null (.inl some) (.inl rfl)
    exact past (holds.1 s mem)

/-- A double, least significant byte first. -/
def doubleBytes : Representation .double where
  bytes x := (List.range 8).map fun i => (x >>> (8 * i).toUInt64).toUInt8
  width _ := by simp [basicWidth]

theorem buffer_holds_two_doubles :
    elementSize .double = some 8 ∧
      BufferHolds doubleBytes 8 [0x3ff0000000000000, 0x4000000000000000] :=
  ⟨rfl, (buffer_holds_iff doubleBytes rfl _ (by decide)).mpr (.inl rfl)⟩

/-- A boolean is a 32 bit integer, 0 or 1. -/
def booleanBytes : Representation .boolean where
  bytes x := [if x then 1 else 0, 0, 0, 0]
  width _ := rfl

/-- An array of one boolean: the null pointer takes the bytes 8 to 15 of a block
of eight. -/
theorem boolean_past_buffer :
    elementSize .boolean = some 4 ∧
      (storeElements booleanBytes 4 [true] 0 .null).1 = [⟨0, 4, 8⟩, ⟨8, 8, 8⟩] ∧
      ¬ BufferHolds booleanBytes 4 [true] := by
  refine ⟨rfl, by decide, fun holds => ?_⟩
  have inside := holds.1 ⟨8, 8, 8⟩ (by decide)
  exact absurd inside (by decide)

end ConnmanUi
