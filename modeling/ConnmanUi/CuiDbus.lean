import ConnmanUi.DBusBody
import Mathlib.Data.Sigma.Basic

/-!
Reading messages (`lib/dbus.c`).

A reader that meets a value of another type often goes on all the same, so the
model says where that goes wrong: `Fault` is what a program must not do, and a
function that may do it answers in `Reads`.  A destination a function may leave
alone is an option, with `none` for untouched.
-/

namespace ConnmanUi

open DBus

/-- What a reader must not do. -/
inductive Fault where
  /-- A variable is read that nothing has written. -/
  | unwritten
  /-- An element of another type is taken for a string. -/
  | foreign
  /-- A buffer is written past its end. -/
  | overrun
  deriving DecidableEq

abbrev Reads := Except Fault

/-- A variable is read. -/
def readLocal {α : Type} : Option α → Reads α
  | some a => .ok a
  | none => .error .unwritten

/-- `dbus_message_iter_recurse`; only into a container does it write the second
iterator. -/
def recurse (iter : Body) : Reads Body := readLocal iter.inside

/-- `dbus_message_iter_get_basic` into a `char *`. -/
def getCharPointer : Body → Reads String
  | .basic .string s _ => .ok s
  | .basic _ _ _ => .error .foreign
  | _ => .error .unwritten

/-- `cui_dbus_get_basic`: what is written, if it returns 0. -/
def cuiDbusGetBasic (iter : Body) (type : Basic) : Option type.Carrier := iter.getBasic type

/-- `cui_dbus_get_basic_variant`, likewise. -/
def cuiDbusGetBasicVariant (iter : Body) (type : Basic) : Option type.Carrier :=
  match iter with
  | .variant inner _ => inner.getBasic type
  | _ => none

/-! ## Arrays -/

/-- The eight bytes of an element of `value_array`: what was read into them,
`none` if nothing was. -/
abbrev Cell := Option ((b : Basic) × b.Carrier)

/-- The `size` `cui_dbus_get_array` reckons with, for the types it takes. -/
def elementSize : Basic → Option Nat
  | .boolean => some 4
  | .int16 => some 4
  | .int32 => some 4
  | .uint16 => some 4
  | .uint32 => some 4
  | .double => some 8
  | .string => some 8
  | .objectPath => some 8
  | .signature => some 8
  | _ => none

/-- How many bytes `dbus_message_iter_get_basic` writes. -/
def basicWidth : Basic → Nat
  | .byte => 1
  | .boolean => 4
  | .int16 => 2
  | .uint16 => 2
  | .int32 => 4
  | .uint32 => 4
  | .int64 => 8
  | .uint64 => 8
  | .double => 8
  | .string => 8
  | .objectPath => 8
  | .signature => 8
  | .unixFd => 4

/-- What is read for one element: a variant must hold the type asked for, and
anything else is read as it is. -/
def cellOf (type : Basic) : Body → Option Cell
  | .variant inner _ => (inner.getBasic type).map fun x => some ⟨type, x⟩
  | .basic b x _ => some (some ⟨b, x⟩)
  | _ => some none

def cellWidth : Cell → Nat
  | some ⟨b, _⟩ => basicWidth b
  | none => 0

/-- The loop of `cui_dbus_get_array` over the elements after the first `n`,
`none` for its error path.  Elements are eight bytes apart whatever their size
is reckoned, and eight bytes of NULL end the array. -/
def readCells (type : Basic) (size : Nat) : List Body → Nat → Reads (Option (List Cell))
  | [], n => if n ≠ 0 ∧ size * (n + 1) < 8 * n + 8 then .error .overrun else .ok (some [])
  | iter :: rest, n =>
    match cellOf type iter with
    | none => .ok none
    | some cell =>
      if size * (n + 2) < 8 * n + cellWidth cell then .error .overrun
      else (readCells type size rest (n + 1)).map fun cells => cells.map (cell :: ·)

/-- `cui_dbus_get_array`: what it returns, and `length` and the elements; no
elements are a NULL array. -/
def cuiDbusGetArray (iter : Body) (type : Basic) : Reads (Int × Option (Nat × List Cell)) :=
  match elementSize type with
  | none => .ok (-22, none)
  | some size => do
    let inner ← recurse iter
    let array ← match iter with
      | .variant _ _ => recurse inner
      | _ => .ok inner
    match ← readCells type size array.positions 0 with
    | none => .ok (-12, some (0, []))
    | some cells => .ok (0, some (cells.length - 1, cells))

/-- The bytes of an array of bytes. -/
def fixedBytes : Body → List UInt8
  | .basic .byte x rest => x :: fixedBytes rest
  | _ => []

/-- `cui_dbus_get_fixed_array`, the length being the list's. -/
def cuiDbusGetFixedArray : Body → Int × Option (List UInt8)
  | .array elem items _ => if elem = .basic .byte .nil then (0, some (fixedBytes items)) else (-22, none)
  | _ => (-22, none)

/-! ## Dictionaries -/

/-- `enum cui_dbus_entry`. -/
inductive EntryType where
  | basic
  | array
  | fixedArray
  | dict
  deriving DecidableEq

/-- What a destination may hold afterwards. -/
inductive Got where
  | basic (b : Basic) (x : b.Carrier)
  | array (length : Nat) (cells : List Cell)
  | fixedArray (bytes : List UInt8)
  | iter (a : Body)
  deriving DecidableEq

/-- `cui_dbus_get`. -/
def cuiDbusGet (iter : Body) (entryType : EntryType) (type : Basic) : Reads (Int × Option Got) :=
  match entryType with
  | .basic =>
    match cuiDbusGetBasic iter type with
    | some x => .ok (0, some (.basic type x))
    | none => .ok (-22, none)
  | .array => (cuiDbusGetArray iter type).map fun got => (got.1, got.2.map fun a => .array a.1 a.2)
  | .fixedArray => .ok ((cuiDbusGetFixedArray iter).1, (cuiDbusGetFixedArray iter).2.map .fixedArray)
  | .dict => (recurse iter).map fun a => (0, some (.iter a))

section Foreach
variable {σ : Type}

/-- The loop of `cui_dbus_foreach_dict_entry`. -/
def foreachEntry (callback : Body → σ → Reads (Bool × σ)) : List Body → σ → Reads (Int × σ)
  | [], data => .ok (-22, data)
  | .dictEntry content _ :: rest, data => do
    let (done, data) ← callback content data
    if done then .ok (0, data) else foreachEntry callback rest data
  | _ :: _, data => .ok (-22, data)

/-- `cui_dbus_foreach_dict_entry`. -/
def cuiDbusForeachDictEntry (iter : Body) (callback : Body → σ → Reads (Bool × σ)) (data : σ) : Reads (Int × σ) :=
  match iter with
  | .array elem items _ =>
    if elem = .basic .byte .nil then .ok (-22, data) else foreachEntry callback items.positions data
  | _ => .ok (-22, data)

end Foreach

/-- `get_dict_entry_cb`: the comparison is `strncmp` to the key's length, and
what `cui_dbus_get` returns is not looked at. -/
def getDictEntryCb (key : String) (entryType : EntryType) (type : Basic) (iter : Body) (destination : Option Got) :
    Reads (Bool × Option Got) := do
  let name ← getCharPointer iter
  if key.toList.isPrefixOf name.toList then
    let value ← recurse iter.next
    let got ← cuiDbusGet value entryType type
    .ok (true, got.2)
  else .ok (false, destination)

/-- `cui_dbus_get_dict_entry`. -/
def cuiDbusGetDictEntry (iter : Body) (key : String) (entryType : EntryType) (type : Basic) :
    Reads (Int × Option Got) :=
  cuiDbusForeachDictEntry iter (getDictEntryCb key entryType type) none

/-! ## Values of the type asked for -/

section WellTyped
variable {key : String} {type : Basic} {entryType : EntryType}

/-- The entry a key finds: the first whose name begins with it. -/
def entryFor (entries : List (String × Body)) (key : String) : Option Body :=
  (entries.find? fun entry => key.toList.isPrefixOf entry.1.toList).map (·.2)

theorem foreachEntry_ofEntries {σ : Type} (callback : Body → σ → Reads (Bool × σ)) (name : String) (inner : Body)
    (entries : List (String × Body)) (data : σ) :
    foreachEntry callback (Body.ofEntries ((name, inner) :: entries)).positions data =
      (callback (.basic .string name (.variant inner .nil)) data).bind fun answer =>
        if answer.1 then .ok (0, answer.2) else foreachEntry callback (Body.ofEntries entries).positions answer.2 :=
  rfl

/-- In a dictionary of variants `cui_dbus_get_dict_entry` reads what the variant
holds, and succeeds whether or not it could. -/
theorem getDictEntry_dictionary (entries : List (String × Body)) :
    cuiDbusGetDictEntry (.dictionary entries) key entryType type =
      match entryFor entries key with
      | none => .ok (-22, none)
      | some inner => (cuiDbusGet inner entryType type).map fun got => (0, got.2) := by
  show foreachEntry _ _ none = _
  induction entries with
  | nil => rfl
  | cons entry entries ih =>
    obtain ⟨name, inner⟩ := entry
    rw [foreachEntry_ofEntries]
    by_cases found : key.toList.isPrefixOf name.toList = true
    · have first : entryFor ((name, inner) :: entries) key = some inner := by simp [entryFor, found]
      simp only [first]
      simp only [getDictEntryCb, getCharPointer, bind, Except.bind, found, if_true, recurse, readLocal, Body.next,
        Body.inside]
      cases cuiDbusGet inner entryType type <;> rfl
    · have later : entryFor ((name, inner) :: entries) key = entryFor entries key := by
        simp [entryFor, found]
      simp only [later, ← ih]
      simp [getDictEntryCb, getCharPointer, bind, Except.bind, found]

/-- The elements of an array are read one by one as they are; those of eight
bytes have room. -/
theorem readCells_ofList (eight : basicWidth type = 8) (l : List type.Carrier) (n : Nat) :
    readCells type 8 (Body.ofList type l).positions n = .ok (some (l.map fun x => some ⟨type, x⟩)) := by
  induction l generalizing n with
  | nil =>
    have room : ¬(n ≠ 0 ∧ 8 * (n + 1) < 8 * n + 8) := by omega
    exact if_neg room
  | cons x l ih =>
    have room : ¬8 * (n + 2) < 8 * n + cellWidth (some ⟨type, x⟩) := by
      rw [show cellWidth (some ⟨type, x⟩) = 8 from eight]
      omega
    simp only [Body.ofList, Body.positions, readCells, cellOf, if_neg room, ih (n + 1), Except.map, Option.map_some,
      List.map_cons]

/-- Those of four bytes have none: the array is made half as long as it is
written. -/
theorem readCells_four (l : List type.Carrier) (n : Nat) (some' : l ≠ [] ∨ n ≠ 0) :
    readCells type 4 (Body.ofList type l).positions n = .error .overrun := by
  induction l generalizing n with
  | nil =>
    have past : n ≠ 0 ∧ 4 * (n + 1) < 8 * n + 8 := ⟨some'.resolve_left fun any => any rfl, by omega⟩
    exact if_pos past
  | cons x l ih =>
    simp only [Body.ofList, Body.positions, readCells, cellOf]
    split
    · rfl
    · rw [ih (n + 1) (.inr (Nat.succ_ne_zero n))]
      rfl

theorem basicWidth_of_elementSize (size : elementSize type = some 8) : basicWidth type = 8 := by
  cases type <;> first | rfl | cases size

/-- Such an array is read whole, in a variant or not; `length` is one short. -/
theorem cuiDbusGetArray_ofList (size : elementSize type = some 8) (elem : Sig) (l : List type.Carrier) (rest : Body) :
    cuiDbusGetArray (.array elem (Body.ofList type l) rest) type =
      .ok (0, some (l.length - 1, l.map fun x => some ⟨type, x⟩)) := by
  simp only [cuiDbusGetArray, size, recurse, readLocal, Body.inside, bind, Except.bind]
  rw [readCells_ofList (basicWidth_of_elementSize size) l 0]
  simp

theorem cuiDbusGetArray_variant (size : elementSize type = some 8) (elem : Sig) (l : List type.Carrier)
    (rest rest' : Body) :
    cuiDbusGetArray (.variant (.array elem (Body.ofList type l) rest) rest') type =
      .ok (0, some (l.length - 1, l.map fun x => some ⟨type, x⟩)) := by
  simp only [cuiDbusGetArray, size, recurse, readLocal, Body.inside, bind, Except.bind]
  rw [readCells_ofList (basicWidth_of_elementSize size) l 0]
  simp

theorem cuiDbusGetArray_four (size : elementSize type = some 4) (elem : Sig) (l : List type.Carrier) (rest : Body)
    (any : l ≠ []) : cuiDbusGetArray (.array elem (Body.ofList type l) rest) type = .error .overrun := by
  simp only [cuiDbusGetArray, size, recurse, readLocal, Body.inside, bind, Except.bind]
  rw [readCells_four l 0 (.inl any)]

theorem elementSize_cases (listed : elementSize type ≠ none) :
    elementSize type = some 4 ∨ elementSize type = some 8 := by
  cases type <;> first | exact .inl rfl | exact .inr rfl | exact absurd rfl listed

end WellTyped

end ConnmanUi
