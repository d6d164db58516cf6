import ConnmanUi.CuiDbus
import ConnmanUi.DBusWriter

/-!
What the readers of `lib/dbus.c` promise their callers.

A lookup should find the entry with exactly the key it is given, and say whether
it did; an array should come back with its elements and their number, or not at
all.  `lookup_exact_iff` and `array_faithful_iff` say for which messages that is
so.
-/

namespace ConnmanUi

open DBus

/-! ## Lookups -/

section Lookup
variable {entries : List (String × Body)} {key : String} {type : Basic}

/-- `cui_dbus_get_dict_entry_basic`. -/
def cuiDbusGetDictEntryBasic (iter : Body) (key : String) (type : Basic) : Reads (Int × Option Got) :=
  cuiDbusGetDictEntry iter key .basic type

/-- What the first entry under exactly this key holds. -/
def exactEntry (entries : List (String × Body)) (key : String) : Option Body :=
  (entries.find? fun entry => entry.1 = key).map (·.2)

/-- A lookup succeeds if and only if the first entry under the key has a value
of the type asked for, which the destination then holds; otherwise it fails and
writes nothing. -/
def LooksUp (entries : List (String × Body)) (key : String) (type : Basic) (got : Reads (Int × Option Got)) : Prop :=
  match (exactEntry entries key).bind (·.getBasic type) with
  | some x => got = .ok (0, some (.basic type x))
  | none => ∃ ret : Int, ret < 0 ∧ got = .ok (ret, none)

/-- What a lookup does: an entry whose key begins with the one asked for is as
good as any, and an entry that was found is a success. -/
theorem getDictEntryBasic_eq (entries : List (String × Body)) (rest : Body) (key : String) (type : Basic) :
    cuiDbusGetDictEntryBasic (.array .stringVariant (.ofEntries entries) rest) key type =
      match entryFor entries key with
      | none => .ok (-22, none)
      | some inner => .ok (0, (inner.getBasic type).map (.basic type)) := by
  show cuiDbusGetDictEntry (.dictionary entries) key .basic type = _
  rw [getDictEntry_dictionary]
  cases entryFor entries key with
  | none => rfl
  | some inner =>
    cases read : inner.getBasic type <;> simp [cuiDbusGet, cuiDbusGetBasic, Except.map, read]

/-- An entry under exactly the key begins with it. -/
theorem exactEntry_eq_none (none_ : entryFor entries key = none) : exactEntry entries key = none := by
  simp only [entryFor, exactEntry, Option.map_eq_none_iff, List.find?_eq_none] at none_ ⊢
  intro entry there same
  have whole : key.toList.isPrefixOf entry.1.toList = true := by
    rw [of_decide_eq_true same]
    exact List.isPrefixOf_iff_prefix.mpr List.prefix_rfl
  exact none_ entry there whole

/-- A lookup is exact if and only if no key begins with the one asked for, or
the first that does and the first that equals it hold the same value of the
type. -/
theorem lookup_exact_iff (entries : List (String × Body)) (rest : Body) (key : String) (type : Basic) :
    LooksUp entries key type
        (cuiDbusGetDictEntryBasic (.array .stringVariant (.ofEntries entries) rest) key type) ↔
      entryFor entries key = none ∨
        ∃ x, (entryFor entries key).bind (·.getBasic type) = some x ∧
          (exactEntry entries key).bind (·.getBasic type) = some x := by
  rw [getDictEntryBasic_eq]
  unfold LooksUp
  cases found : entryFor entries key with
  | none =>
    rw [exactEntry_eq_none found]
    exact ⟨fun _ => .inl rfl, fun _ => ⟨-22, by decide, rfl⟩⟩
  | some inner =>
    cases exact_ : (exactEntry entries key).bind (·.getBasic type) with
    | none =>
      -- success is reported whatever was found
      constructor
      · rintro ⟨ret, negative, same⟩
        have zero : ret = 0 := (congrArg Prod.fst (Except.ok.inj same)).symm
        omega
      · rintro (missing | ⟨x, -, same⟩)
        · cases missing
        · cases same
    | some y =>
      cases read : inner.getBasic type with
      | none => simp [read]
      | some x => simp [read, eq_comm]

/-- The prefix of an IPv6 address is looked up, and the entry under PrefixLength
is found, which has another type: success, and nothing is written. -/
theorem not_always_exact :
    ¬∀ (entries : List (String × Body)) (rest : Body) (key : String) (type : Basic), LooksUp entries key type
      (cuiDbusGetDictEntryBasic (.array .stringVariant (.ofEntries entries) rest) key type) := by
  intro always
  obtain ⟨ret, negative, same⟩ := always [("PrefixLength", .basic .byte 64 .nil)] .nil "Prefix" .uint16
  have zero : ret = 0 := (congrArg Prod.fst (Except.ok.inj same)).symm
  omega

end Lookup

/-! ## Arrays -/

section Array
variable {iter items : Body} {elem : Sig} {type : Basic}

/-- The types whose values are pointers to characters. -/
def StringLike (type : Basic) : Prop := type = .string ∨ type = .objectPath ∨ type = .signature

/-- An iterator at an array, or at a variant that holds one. -/
def HoldsArray (iter : Body) (elem : Sig) (items : Body) : Prop :=
  ∃ rest, iter = .array elem items rest ∨ ∃ rest', iter = .variant (.array elem items rest') rest

/-- The value of an element of the type, or of a variant that holds one. -/
def elementOf (type : Basic) : Body → Option type.Carrier
  | .variant inner _ => inner.getBasic type
  | iter => iter.getBasic type

/-- What `cui_dbus_get_array` does with `value_array`. -/
inductive HeapCall where
  | realloc
  | free

/-- The loop of `cui_dbus_get_array` again, with its error path. -/
def arrayHeap (type : Basic) : List Body → List HeapCall
  | [] => []
  | iter :: rest =>
    .realloc ::
      match cellOf type iter with
      | none => [.free]
      | some _ => arrayHeap type rest

/-- How many blocks there are: `realloc` puts one in the place of the last. -/
def HeapCall.run (_ : Nat) : HeapCall → Nat
  | realloc => 1
  | free => 0

def blocksLeft (calls : List HeapCall) : Nat := calls.foldl HeapCall.run 0

/-- The elements of an array that are all of the type are handed over in order,
in a block of the caller's unless there are none; an array with any other
element is refused, and nothing stays allocated.  `Length` is what the length
has to be, given the number of elements. -/
def ReadsArray (Length : Nat → Nat → Prop) (type : Basic) (items : Body)
    (got : Reads (Int × Option (Nat × List Cell))) (blocks : Nat) : Prop :=
  match items.positions.mapM (elementOf type) with
  | some xs =>
    (∃ length, Length length xs.length ∧ got = .ok (0, some (length, xs.map fun x => some ⟨type, x⟩))) ∧
      blocks = if xs.isEmpty then 0 else 1
  | none => (∃ ret : Int, ret < 0 ∧ got = .ok (ret, some (0, []))) ∧ blocks = 0

theorem mapM_eq_none {α β : Type} {f : α → Option β} {l : List α} : l.mapM f = none ↔ ∃ a ∈ l, f a = none := by
  induction l with
  | nil => simp
  | cons a l ih =>
    cases first : f a with
    | none => simp [first]
    | some b =>
      cases later : l.mapM f with
      | none => simpa [first, later] using ih.mp later
      | some bs =>
        have all : ∀ a' ∈ l, f a' ≠ none := fun a' there none_ => by simpa [later] using ih.mpr ⟨a', there, none_⟩
        simpa [first, later] using all

theorem mapM_map_eq {α β γ : Type} {f : α → Option β} {g : α → Option γ} {h : γ → β} {l : List α}
    (same : ∀ a ∈ l, f a = (g a).map h) : l.mapM f = (l.mapM g).map (List.map h) := by
  induction l with
  | nil => rfl
  | cons a l ih =>
    rw [List.mapM_cons, List.mapM_cons, same a List.mem_cons_self,
      ih fun a' there => same a' (List.mem_cons_of_mem a there)]
    cases g a <;> cases l.mapM g <;> rfl

theorem items_of_mapM_nil {β : Type} {f : Body → Option β} (none_ : items.positions.mapM f = some []) : items = .nil := by
  cases items with
  | nil => rfl
  | _ =>
    rw [Body.positions, List.mapM_cons] at none_
    obtain ⟨b, -, rest⟩ := Option.bind_eq_some_iff.mp none_
    obtain ⟨bs, -, same⟩ := Option.bind_eq_some_iff.mp rest
    cases same

/-- The elements of eight bytes have room, whatever they are. -/
theorem readCells_eight (type : Basic) (l : List Body) (n : Nat) :
    readCells type 8 l n = .ok (l.mapM (cellOf type)) := by
  induction l generalizing n with
  | nil =>
    have room : ¬(n ≠ 0 ∧ 8 * (n + 1) < 8 * n + 8) := by omega
    exact if_neg room
  | cons iter l ih =>
    unfold readCells
    cases read : cellOf type iter with
    | none => simp [read]
    | some cell =>
      have width : cellWidth cell ≤ 8 := by
        cases cell with
        | none => decide
        | some value =>
          show basicWidth value.1 ≤ 8
          cases value.1 <;> decide
      have room : ¬8 * (n + 2) < 8 * n + cellWidth cell := by omega
      simp only [if_neg room, ih (n + 1), Except.map, List.mapM_cons, read]
      cases l.mapM (cellOf type) <;> rfl

theorem StringLike.elementSize (stringLike : StringLike type) : elementSize type = some 8 := by
  rcases stringLike with rfl | rfl | rfl <;> rfl

/-- What `cui_dbus_get_array` makes of an array. -/
theorem cuiDbusGetArray_eq (stringLike : StringLike type) (holds : HoldsArray iter elem items) :
    cuiDbusGetArray iter type =
      match items.positions.mapM (cellOf type) with
      | none => .ok (-12, some (0, []))
      | some cells => .ok (0, some (cells.length - 1, cells)) := by
  obtain ⟨rest, rfl | ⟨rest', rfl⟩⟩ := holds
  · cases read : items.positions.mapM (cellOf type) <;>
      simp [cuiDbusGetArray, stringLike.elementSize, recurse, readLocal, Body.inside, bind, Except.bind,
        readCells_eight, read]
  · cases read : items.positions.mapM (cellOf type) <;>
      simp [cuiDbusGetArray, stringLike.elementSize, recurse, readLocal, Body.inside, bind, Except.bind,
        readCells_eight, read]

theorem foldl_arrayHeap (l : List Body) (held : Nat) :
    (arrayHeap type l).foldl HeapCall.run held =
      match l.mapM (cellOf type) with
      | none => 0
      | some cells => if cells.isEmpty then held else 1 := by
  induction l generalizing held with
  | nil => rfl
  | cons iter l ih =>
    cases read : cellOf type iter with
    | none => simp [arrayHeap, read, HeapCall.run]
    | some cell =>
      have step : (arrayHeap type (iter :: l)).foldl HeapCall.run held = (arrayHeap type l).foldl HeapCall.run 1 := by
        simp [arrayHeap, read, HeapCall.run]
      rw [step, ih]
      cases later : l.mapM (cellOf type) <;> simp [read, later]

/-- Each element of an array has its type. -/
theorem head_of_uniform (uniform : items.Uniform elem) : ∀ iter ∈ items.positions, iter.sig.head = elem := by
  induction items with
  | nil => nofun
  | _ =>
    rename_i ih
    intro iter there
    rcases List.mem_cons.mp there with rfl | later
    · exact uniform.1.symm
    · exact ih uniform.2 iter later

/-- The types of elements that are looked at before they are used, or need not
be. -/
def Readable (type : Basic) (elem : Sig) : Prop := elem = .variant .nil ∨ elem = .basic type .nil

theorem cellOf_readable (readable : Readable type iter.sig.head) :
    cellOf type iter = (elementOf type iter).map fun x => some ⟨type, x⟩ := by
  cases iter with
  | variant inner rest => rfl
  | basic b x rest =>
    obtain rfl : b = type := (Sig.basic.inj (readable.resolve_left nofun)).1
    simp [cellOf, elementOf]
  | _ => rcases readable with wrong | wrong <;> cases wrong

/-- Any other element is taken for what it is not. -/
theorem cellOf_foreign (foreign : ¬Readable type iter.sig.head) :
    (∃ cell, cellOf type iter = some cell) ∧ elementOf type iter = none := by
  cases iter with
  | variant inner rest => exact absurd (.inl rfl) foreign
  | basic b x rest =>
    have other : b ≠ type := fun same => foreign (.inr (by rw [← same]; rfl))
    exact ⟨⟨_, rfl⟩, dif_neg other⟩
  | _ => exact ⟨⟨_, rfl⟩, rfl⟩

theorem elementOf_basic (typed : iter.sig.head = .basic type .nil) : elementOf type iter ≠ none := by
  cases iter with
  | basic b x rest =>
    obtain rfl : b = type := (Sig.basic.inj typed).1
    simp [elementOf]
  | _ => cases typed

theorem positions_ne_nil (some_ : items ≠ .nil) : ∃ iter, iter ∈ items.positions := by
  cases items with
  | nil => exact absurd rfl some_
  | _ => exact ⟨_, List.mem_cons_self⟩

/-- Elements that can be read are, but for the length. -/
theorem readsArray_readable {Length : Nat → Nat → Prop} (stringLike : StringLike type)
    (uniform : items.Uniform elem) (holds : HoldsArray iter elem items) (readable : Readable type elem) :
    ReadsArray Length type items (cuiDbusGetArray iter type) (blocksLeft (arrayHeap type items.positions)) ↔
      ∀ xs, items.positions.mapM (elementOf type) = some xs → Length (xs.length - 1) xs.length := by
  have cells : items.positions.mapM (cellOf type) =
      (items.positions.mapM (elementOf type)).map (List.map fun x => some ⟨type, x⟩) := by
    refine mapM_map_eq fun a there => cellOf_readable ?_
    rw [head_of_uniform uniform a there]
    exact readable
  have left : blocksLeft (arrayHeap type items.positions) = _ := foldl_arrayHeap items.positions 0
  rw [cuiDbusGetArray_eq stringLike holds, left, cells]
  unfold ReadsArray
  cases items.positions.mapM (elementOf type) with
  | none => exact ⟨fun _ => nofun, fun _ => ⟨⟨-12, by decide, rfl⟩, rfl⟩⟩
  | some xs => simp [List.isEmpty_iff]

/-- Other elements are not, unless there are none. -/
theorem readsArray_foreign {Length : Nat → Nat → Prop} (stringLike : StringLike type)
    (uniform : items.Uniform elem) (holds : HoldsArray iter elem items) (foreign : ¬Readable type elem)
    (some_ : items ≠ .nil) :
    ¬ReadsArray Length type items (cuiDbusGetArray iter type) (blocksLeft (arrayHeap type items.positions)) := by
  have foreign' : ∀ a ∈ items.positions, ¬Readable type a.sig.head := fun a there => by
    rw [head_of_uniform uniform a there]
    exact foreign
  obtain ⟨first, there⟩ := positions_ne_nil some_
  have refused : items.positions.mapM (elementOf type) = none :=
    mapM_eq_none.mpr ⟨first, there, (cellOf_foreign (foreign' first there)).2⟩
  rw [cuiDbusGetArray_eq stringLike holds]
  unfold ReadsArray
  rw [refused]
  cases taken : items.positions.mapM (cellOf type) with
  | none =>
    obtain ⟨a, there, unread⟩ := mapM_eq_none.mp taken
    obtain ⟨cell, read⟩ := (cellOf_foreign (foreign' a there)).1
    rw [read] at unread
    cases unread
  | some cells =>
    rintro ⟨⟨ret, negative, same⟩, -⟩
    have zero : ret = 0 := (congrArg Prod.fst (Except.ok.inj same)).symm
    omega

/-- An array is read as it should be if and only if it is empty, or it is one of
variants of which one does not hold the type; with the length left aside, also
if its elements are variants, or of the type. -/
theorem array_faithful_iff (stringLike : StringLike type) (uniform : items.Uniform elem)
    (holds : HoldsArray iter elem items) :
    (ReadsArray (· = ·) type items (cuiDbusGetArray iter type) (blocksLeft (arrayHeap type items.positions)) ↔
        items = .nil ∨ elem = .variant .nil ∧ ∃ a ∈ items.positions, elementOf type a = none) ∧
      (ReadsArray (fun _ _ => True) type items (cuiDbusGetArray iter type)
          (blocksLeft (arrayHeap type items.positions)) ↔
        items = .nil ∨ elem = .variant .nil ∨ elem = .basic type .nil) := by
  by_cases readable : Readable type elem
  · rw [readsArray_readable stringLike uniform holds readable, readsArray_readable stringLike uniform holds readable]
    refine ⟨?_, fun _ => .inr readable, fun _ _ _ => trivial⟩
    constructor
    · intro counted
      cases all : items.positions.mapM (elementOf type) with
      | none =>
        have refused := mapM_eq_none.mp all
        obtain ⟨a, there, unread⟩ := refused
        rcases readable with rfl | rfl
        · exact .inr ⟨rfl, a, there, unread⟩
        · exact absurd unread (elementOf_basic (head_of_uniform uniform a there))
      | some xs =>
        have length := counted xs all
        obtain rfl : xs = [] := List.length_eq_zero_iff.mp (by omega)
        exact .inl (items_of_mapM_nil all)
    · rintro (rfl | ⟨-, refused⟩) xs all
      · cases all
        rfl
      · rw [mapM_eq_none.mpr refused] at all
        cases all
  · by_cases none_ : items = .nil
    · subst none_
      rw [cuiDbusGetArray_eq stringLike holds]
      exact ⟨⟨fun _ => .inl rfl, fun _ => ⟨⟨0, rfl, rfl⟩, rfl⟩⟩, ⟨fun _ => .inl rfl, fun _ => ⟨⟨0, trivial, rfl⟩, rfl⟩⟩⟩
    · have never : ∀ Length : Nat → Nat → Prop, ¬ReadsArray Length type items (cuiDbusGetArray iter type)
          (blocksLeft (arrayHeap type items.positions)) :=
        fun _ => readsArray_foreign stringLike uniform holds readable none_
      refine ⟨⟨fun read => absurd read (never _), ?_⟩, ⟨fun read => absurd read (never _), ?_⟩⟩
      · rintro (empty | ⟨variants, -⟩)
        · exact absurd empty none_
        · exact absurd (.inl variants) readable
      · rintro (empty | typed)
        · exact absurd empty none_
        · exact absurd typed readable

/-- Variants of a string and a number are not taken for strings. -/
theorem array_faithful_iff_mixed :
    let items := Body.variant (.basic .string "a" .nil) (.variant (.basic .byte 1 .nil) .nil)
    ReadsArray (· = ·) .string items (cuiDbusGetArray (.array (.variant .nil) items .nil) .string)
      (blocksLeft (arrayHeap .string items.positions)) :=
  (array_faithful_iff (.inl rfl) (show Body.Uniform (.variant .nil) (.variant _ (.variant _ .nil)) by decide)
    ⟨.nil, .inl rfl⟩).1.mpr
    (.inr ⟨rfl, .variant (.basic .byte 1 .nil) .nil, by decide, rfl⟩)

/-- An array of two strings comes back with the length 1. -/
theorem not_always_faithful :
    ¬∀ (iter items : Body) (elem : Sig) (type : Basic), StringLike type → items.Uniform elem →
      HoldsArray iter elem items →
      ReadsArray (· = ·) type items (cuiDbusGetArray iter type) (blocksLeft (arrayHeap type items.positions)) := by
  intro always
  obtain ⟨⟨length, rfl, same⟩, -⟩ := always (.array .string (.ofList .string ["a", "b"]) .nil)
    (.ofList .string ["a", "b"]) .string .string (.inl rfl) (by decide) ⟨.nil, .inl rfl⟩
  exact absurd (congrArg (fun got => got.toOption.bind fun a => a.2.map Prod.fst) same) (by decide)

end Array

end ConnmanUi
