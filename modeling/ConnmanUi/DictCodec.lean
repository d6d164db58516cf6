import ConnmanUi.CuiDbusAppend

/-!
Dictionaries written and read back (`lib/dbus.c`).

`Entries` is what a caller puts into a dictionary, kind by kind, and `ReadsBack`
goes through them again with `cui_dbus_get_dict_entry`, in a nested dictionary
with the iterator that was got for it.  `round_trip_iff` says for which entries
that gives back what was written: a fixed array cannot be written at all, for
`map_array_to_signature` names no type for bytes; an array comes back with a
length that is one short; and the iterator for a nested dictionary is already at
its first entry, where the readers, which want the array, find nothing
(`getDictEntry_inside`).
-/

namespace ConnmanUi

open DBus Writer

/-- The entries of a dictionary, each with its key. -/
inductive Entries where
  | nil
  | basic (key : String) (type : Basic) (value : type.Carrier) (rest : Entries)
  | array (key : String) (type : Basic) (items : List type.Carrier) (rest : Entries)
  | fixedArray (key : String) (bytes : List UInt8) (rest : Entries)
  | dict (key : String) (entries rest : Entries)

/-- An entry as it is asked for, with the value that was put into it and what
reading it should give. -/
structure Member where
  key : String
  inner : Body
  entryType : EntryType
  type : Basic
  got : Got

namespace Member

def basic (key : String) (type : Basic) (value : type.Carrier) : Member :=
  ⟨key, .basic type value .nil, .basic, type, .basic type value⟩

/-- An array is read with its length. -/
def array (key : String) (type : Basic) (items : List type.Carrier) : Member :=
  ⟨key, .array (.basic type .nil) (.ofList type items) .nil, .array, type,
    .array items.length (items.map fun x => some ⟨type, x⟩)⟩

def fixedArray (key : String) (bytes : List UInt8) : Member :=
  ⟨key, .array .byte (.ofList .byte bytes) .nil, .fixedArray, .byte, .fixedArray bytes⟩

/-- A dictionary is read as an iterator at its first entry; the type asked for
does not matter. -/
def dict (key : String) (entries : List (String × Body)) : Member :=
  ⟨key, .dictionary entries, .dict, .string, .iter (.ofEntries entries)⟩

def entry (m : Member) : String × Body := (m.key, m.inner)

end Member

/-- A value that was read, without the length of an array. -/
def Got.elements : Got → Got
  | .array _ cells => .array 0 cells
  | got => got

/-- Two values are alike if the length of an array is not looked at. -/
def Got.Alike (got got' : Got) : Prop := got.elements = got'.elements

namespace Entries

/-- The entries one by one. -/
def members : Entries → List Member
  | nil => []
  | basic key type value rest => .basic key type value :: rest.members
  | array key type items rest => .array key type items :: rest.members
  | fixedArray key bytes rest => .fixedArray key bytes :: rest.members
  | dict key entries rest => .dict key (entries.members.map Member.entry) :: rest.members

/-- What the message should hold. -/
def list (e : Entries) : List (String × Body) := e.members.map Member.entry

/-- The types both sides accept. -/
def Accepted : Entries → Prop
  | nil => True
  | basic _ type _ rest => Mapped type ∧ rest.Accepted
  | array _ type _ rest => elementSize type ≠ none ∧ rest.Accepted
  | fixedArray _ _ rest => rest.Accepted
  | dict _ entries rest => entries.Accepted ∧ rest.Accepted

/-- No key begins with another. -/
def PrefixFree (e : Entries) : Prop :=
  (e.members.map Member.key).Pairwise fun key key' =>
    key.toList.isPrefixOf key'.toList = false ∧ key'.toList.isPrefixOf key.toList = false

/-- Somewhere there is a fixed array, however deep. -/
def HasFixedArray : Entries → Prop
  | nil => False
  | basic _ _ _ rest => rest.HasFixedArray
  | array _ _ _ rest => rest.HasFixedArray
  | fixedArray _ _ _ => True
  | dict _ entries rest => entries.HasFixedArray ∨ rest.HasFixedArray

/-- The entries are appended in turn. -/
def append : Entries → PropertyFunction
  | nil, _, w => .ok w
  | basic key type value rest, iter, w =>
    (cuiDbusAppendDictEntry iter key (.basic type value) w).bind (rest.append iter)
  | array key type items rest, iter, w =>
    (cuiDbusAppendDictEntry iter key (.array type (some (appendList type items))) w).bind (rest.append iter)
  | fixedArray key bytes rest, iter, w =>
    (cuiDbusAppendDictEntry iter key (.fixedArray .byte bytes) w).bind (rest.append iter)
  | dict key entries rest, iter, w =>
    (cuiDbusAppendDictEntry iter key (.dict (some fun iter w => entries.append iter w)) w).bind (rest.append iter)

/-- A message with the entries in a dictionary. -/
def message (e : Entries) : Writes Writer := cuiDbusAppendDict 0 none (some e.append) .empty

instance decidableHasFixedArray : (e : Entries) → Decidable e.HasFixedArray
  | nil => .isFalse id
  | basic _ _ _ rest => rest.decidableHasFixedArray
  | array _ _ _ rest => rest.decidableHasFixedArray
  | fixedArray _ _ _ => .isTrue trivial
  | dict _ entries rest =>
    have := entries.decidableHasFixedArray
    have := rest.decidableHasFixedArray
    inferInstanceAs (Decidable (_ ∨ _))

instance decidableAccepted : (e : Entries) → Decidable e.Accepted
  | nil => .isTrue trivial
  | basic _ _ _ rest =>
    have := rest.decidableAccepted
    inferInstanceAs (Decidable (_ ∧ _))
  | array _ _ _ rest =>
    have := rest.decidableAccepted
    inferInstanceAs (Decidable (_ ≠ _ ∧ _))
  | fixedArray _ _ rest => rest.decidableAccepted
  | dict _ entries rest =>
    have := entries.decidableAccepted
    have := rest.decidableAccepted
    inferInstanceAs (Decidable (_ ∧ _))

instance (e : Entries) : Decidable e.PrefixFree := inferInstanceAs (Decidable (List.Pairwise _ _))

/-- Reading an entry gives what was put into it, or a value like it. -/
def Gives (same : Got → Got → Prop) (iter : Body) (m : Member) : Prop :=
  ∃ got, cuiDbusGetDictEntry iter m.key m.entryType m.type = .ok (0, some got) ∧ same got m.got

/-- All entries are read back from `iter`; those of a dictionary in it from the
iterator that is got for it. -/
def ReadsBack (same : Got → Got → Prop) : Entries → Body → Prop
  | nil, _ => True
  | basic key type value rest, iter => Gives same iter (.basic key type value) ∧ rest.ReadsBack same iter
  | array key type items rest, iter => Gives same iter (.array key type items) ∧ rest.ReadsBack same iter
  | fixedArray key bytes rest, iter => Gives same iter (.fixedArray key bytes) ∧ rest.ReadsBack same iter
  | dict key entries rest, iter =>
    (∃ inner, cuiDbusGetDictEntry iter key .dict .string = .ok (0, some (.iter inner)) ∧ entries.ReadsBack same inner) ∧
      rest.ReadsBack same iter

/-- The entries make a well-typed message. -/
def Written (e : Entries) (body : Body) : Prop :=
  e.message = .ok [(.message, body)] ∧ body.Message ∧ body.sig = .dictionary

/-- They do, and they are read back from it. -/
def RoundTrip (same : Got → Got → Prop) (e : Entries) : Prop := ∃ body, e.Written body ∧ e.ReadsBack same body

/-- No fixed arrays, only arrays that fit, and no dictionary with something in it. -/
def Plain (fits : (type : Basic) → List type.Carrier → Prop) : Entries → Prop
  | nil => True
  | basic _ _ _ rest => rest.Plain fits
  | array _ type items rest => fits type items ∧ rest.Plain fits
  | fixedArray _ _ _ => False
  | dict _ entries rest => entries = nil ∧ rest.Plain fits

/-! ## Writing -/

variable {e : Entries}

/-- Without fixed arrays the entries are written as they should be. -/
theorem fills_append (accepted : e.Accepted) (without : ¬e.HasFixedArray) :
    Fills e.append .stringVariant (.ofEntries e.list) := by
  induction e with
  | nil => exact fills_nothing _
  | basic key type value rest ih => exact (fills_basic key accepted.1 value).append (ih accepted.2 without)
  | array key type items rest ih =>
    exact (fills_array key accepted.1 (fills_appendList type items)).append (ih accepted.2 without)
  | fixedArray key bytes rest ih => exact absurd trivial without
  | dict key entries rest ihEntries ih =>
    have inside := ihEntries accepted.1 fun there => without (.inl there)
    exact (fills_dict key inside).append (ih accepted.2 fun there => without (.inr there))

theorem breaks_fixedArray (key : String) (bytes : List UInt8) :
    Breaks (fun dict => cuiDbusAppendDictEntry dict key (.fixedArray .byte bytes)) .stringVariant .signature :=
  breaks_dictEntry (refuses_signature (by decide))

theorem breaks_dict (key : String) {write : PropertyFunction} (breaks : Breaks write .stringVariant .signature) :
    Breaks (fun dict => cuiDbusAppendDictEntry dict key (.dict (some write))) .stringVariant .signature :=
  breaks_dictEntry (refuses_variant (show Sig.ofVariant "a{sv}" = some .dictionary by decide) rfl
    (refuses_array (show Sig.ofArray "{sv}" = some .stringVariant by decide) breaks))

/-- With one they are not. -/
theorem breaks_append (accepted : e.Accepted) (there : e.HasFixedArray) :
    Breaks e.append .stringVariant .signature := by
  induction e with
  | nil => exact there.elim
  | basic key type value rest ih => exact (fills_basic key accepted.1 value).breaks (ih accepted.2 there)
  | array key type items rest ih =>
    exact (fills_array key accepted.1 (fills_appendList type items)).breaks (ih accepted.2 there)
  | fixedArray key bytes rest ih => exact (breaks_fixedArray key bytes).first
  | dict key entries rest ihEntries ih =>
    by_cases inside : entries.HasFixedArray
    · exact (breaks_dict key (ihEntries accepted.1 inside)).first
    · exact (fills_dict key (fills_append accepted.1 inside)).breaks
        (ih accepted.2 (there.resolve_left inside))

theorem message_broken (accepted : e.Accepted) (there : e.HasFixedArray) : e.message = .error .signature :=
  refuses_array (show Sig.ofArray "{sv}" = some .stringVariant by decide) (breaks_append accepted there)
    .message .message .nil [] rfl

/-- A dictionary of these entries is one the bus delivers. -/
theorem list_wellFormed (e : Entries) : (Body.dictionary e.list).WellFormed := by
  refine Body.wellFormed_dictionary.mpr ?_
  induction e with
  | nil =>
    intro m there
    cases there
  | basic key type value rest ih => exact List.forall_mem_cons.mpr ⟨⟨rfl, rfl, trivial⟩, ih⟩
  | array key type items rest ih =>
    exact List.forall_mem_cons.mpr ⟨⟨rfl, rfl, Body.wellFormed_array items⟩, ih⟩
  | fixedArray key bytes rest ih =>
    exact List.forall_mem_cons.mpr ⟨⟨rfl, rfl, @Body.wellFormed_array .byte bytes⟩, ih⟩
  | dict key entries rest ihEntries ih =>
    exact List.forall_mem_cons.mpr ⟨⟨rfl, rfl, Body.wellFormed_dictionary.mpr ihEntries⟩, ih⟩

theorem message_written (accepted : e.Accepted) (without : ¬e.HasFixedArray) : e.Written (.dictionary e.list) :=
  ⟨puts_dict (fills_append accepted without) .message .message .nil [] rfl, ⟨e.list_wellFormed, rfl⟩,
    Body.sig_dictionary _⟩

/-- Only a fixed array keeps the message from being written. -/
theorem written_iff (accepted : e.Accepted) : (∃ body, e.Written body) ↔ ¬e.HasFixedArray := by
  constructor
  · rintro ⟨body, written, -⟩ there
    rw [message_broken accepted there] at written
    cases written
  · exact fun without => ⟨_, message_written accepted without⟩

theorem roundTrip_iff (accepted : e.Accepted) (same : Got → Got → Prop) :
    RoundTrip same e ↔ ¬e.HasFixedArray ∧ e.ReadsBack same (.dictionary e.list) := by
  constructor
  · rintro ⟨body, written, back⟩
    have without := (written_iff accepted).mp ⟨body, written⟩
    have message := (message_written accepted without).1
    rw [written.1] at message
    cases message
    exact ⟨without, back⟩
  · rintro ⟨without, back⟩
    exact ⟨_, message_written accepted without, back⟩

/-! ## Reading back -/

/-- A key finds its own entry. -/
theorem entryFor_member (prefixFree : e.PrefixFree) : ∀ m ∈ e.members, entryFor e.list m.key = some m.inner := by
  unfold PrefixFree at prefixFree
  unfold list
  generalize e.members = l at prefixFree
  induction l with
  | nil =>
    intro m there
    cases there
  | cons first l ih =>
    obtain ⟨apart, later⟩ := List.pairwise_cons.mp prefixFree
    intro m there
    rcases List.mem_cons.mp there with rfl | there
    · simp [entryFor, Member.entry]
    · have other := (apart m.key (List.mem_map_of_mem there)).2
      have passed : entryFor ((first :: l).map Member.entry) m.key = entryFor (l.map Member.entry) m.key := by
        simp [entryFor, Member.entry, other]
      rw [passed]
      exact ih later m there

section Reading
variable {same : Got → Got → Prop} {l : List (String × Body)}

theorem gives_iff {m : Member} (found : entryFor l m.key = some m.inner) :
    Gives same (.dictionary l) m ↔
      ∃ result got, cuiDbusGet m.inner m.entryType m.type = .ok (result, some got) ∧ same got m.got := by
  have read : cuiDbusGetDictEntry (.dictionary l) m.key m.entryType m.type =
      (cuiDbusGet m.inner m.entryType m.type).map fun got => (0, got.2) := by
    rw [getDictEntry_dictionary, found]
  unfold Gives
  rw [read]
  constructor
  · rintro ⟨got, read, alike⟩
    cases inner : cuiDbusGet m.inner m.entryType m.type with
    | error fault =>
      rw [inner] at read
      cases read
    | ok answer =>
      rw [inner] at read
      obtain ⟨result, destination⟩ := answer
      cases read
      exact ⟨result, got, rfl, alike⟩
  · rintro ⟨result, got, read, alike⟩
    rw [read]
    exact ⟨got, rfl, alike⟩

theorem get_basic (key : String) (type : Basic) (value : type.Carrier) :
    cuiDbusGet (Member.basic key type value).inner .basic type = .ok (0, some (.basic type value)) := by
  simp [cuiDbusGet, cuiDbusGetBasic, Member.basic]

theorem get_array (key : String) {type : Basic} (items : List type.Carrier) (listed : elementSize type ≠ none) :
    cuiDbusGet (Member.array key type items).inner .array type =
      if items = [] ∨ elementSize type = some 8 then
        .ok (0, some (.array (items.length - 1) (items.map fun x => some ⟨type, x⟩)))
      else .error .overrun := by
  simp only [cuiDbusGet, Member.array]
  rcases elementSize_cases listed with four | eight
  · cases items with
    | nil => simp [cuiDbusGetArray, four, recurse, readLocal, Body.inside, Body.ofList, Body.positions, readCells,
        Except.map, bind, Except.bind]
    | cons x items =>
      rw [cuiDbusGetArray_four four _ _ _ (List.cons_ne_nil x items), if_neg (by simp [four])]
      rfl
  · rw [cuiDbusGetArray_ofList eight, if_pos (.inr eight)]
    rfl

theorem gives_basic (alike : ∀ got, same got got) {key : String} {type : Basic} {value : type.Carrier}
    (found : entryFor l key = some (Member.basic key type value).inner) :
    Gives same (.dictionary l) (.basic key type value) :=
  (gives_iff (m := Member.basic key type value) found).mpr ⟨0, _, get_basic key type value, alike _⟩

/-- An array is read if it is empty or its elements are eight bytes long, its
length one short. -/
theorem gives_array {key : String} {type : Basic} {items : List type.Carrier} (listed : elementSize type ≠ none)
    (found : entryFor l key = some (Member.array key type items).inner) :
    Gives same (.dictionary l) (.array key type items) ↔ (items = [] ∨ elementSize type = some 8) ∧
      same (.array (items.length - 1) (items.map fun x => some ⟨type, x⟩)) (Member.array key type items).got := by
  have read := get_array key items listed
  rw [gives_iff (m := .array key type items) found]
  by_cases room : items = [] ∨ elementSize type = some 8
  · rw [if_pos room] at read
    rw [and_iff_right room]
    constructor
    · rintro ⟨result, got, read', alike⟩
      have same' := read.symm.trans read'
      cases same'
      exact alike
    · exact fun alike => ⟨0, _, read, alike⟩
  · rw [if_neg room] at read
    constructor
    · rintro ⟨result, got, read', -⟩
      exact nomatch read.symm.trans read'
    · exact fun both => absurd both.1 room

/-- The iterator that is got for a dictionary is at its first entry. -/
theorem getDictEntry_dict {key : String} {entries : List (String × Body)}
    (found : entryFor l key = some (Member.dict key entries).inner) :
    cuiDbusGetDictEntry (.dictionary l) key .dict .string = .ok (0, some (.iter (.ofEntries entries))) := by
  rw [getDictEntry_dictionary, found]
  rfl

/-- There `cui_dbus_foreach_dict_entry`, which asks for an array, refuses. -/
theorem getDictEntry_inside (entries : List (String × Body)) (key : String) (entryType : EntryType) (type : Basic) :
    cuiDbusGetDictEntry (.ofEntries entries) key entryType type = .ok (-22, none) := by
  cases entries with
  | nil => rfl
  | cons entry entries => rfl

/-- So nothing of what is in it is read back. -/
theorem readsBack_inside (inside : Entries) (entries : List (String × Body)) :
    inside.ReadsBack same (.ofEntries entries) ↔ inside = nil := by
  have refused : ∀ m, ¬Gives same (.ofEntries entries) m := by
    rintro m ⟨got, read, -⟩
    rw [getDictEntry_inside] at read
    cases read
  cases inside with
  | nil => exact ⟨fun _ => rfl, fun _ => trivial⟩
  | basic key type value rest => exact ⟨fun back => absurd back.1 (refused _), nofun⟩
  | array key type items rest => exact ⟨fun back => absurd back.1 (refused _), nofun⟩
  | fixedArray key bytes rest => exact ⟨fun back => absurd back.1 (refused _), nofun⟩
  | dict key nested rest =>
    refine ⟨fun back => ?_, nofun⟩
    obtain ⟨inner, read, -⟩ := back.1
    rw [getDictEntry_inside] at read
    cases read

/-- What is read back of entries that a dictionary holds, if arrays are read back
when they fit. -/
theorem readsBack_iff {fits : (type : Basic) → List type.Carrier → Prop} (alike : ∀ got, same got got)
    (arrays : ∀ (key : String) (type : Basic) (items : List type.Carrier),
      ((items = [] ∨ elementSize type = some 8) ∧
        same (.array (items.length - 1) (items.map fun x => some ⟨type, x⟩)) (Member.array key type items).got) ↔
      fits type items)
    (accepted : e.Accepted) (without : ¬e.HasFixedArray) (found : ∀ m ∈ e.members, entryFor l m.key = some m.inner) :
    e.ReadsBack same (.dictionary l) ↔ e.Plain fits := by
  induction e with
  | nil => exact Iff.rfl
  | basic key type value rest ih =>
    have own := found _ List.mem_cons_self
    have rest' := ih accepted.2 without fun m there => found m (List.mem_cons_of_mem _ there)
    exact ⟨fun back => rest'.mp back.2, fun plain => ⟨gives_basic alike own, rest'.mpr plain⟩⟩
  | array key type items rest ih =>
    have own := (gives_array accepted.1 (found _ List.mem_cons_self)).trans (arrays key type items)
    exact and_congr own (ih accepted.2 without fun m there => found m (List.mem_cons_of_mem _ there))
  | fixedArray key bytes rest ih => exact absurd trivial without
  | dict key entries rest ihEntries ih =>
    have own : cuiDbusGetDictEntry (.dictionary l) key .dict .string =
        .ok (0, some (.iter (.ofEntries (entries.members.map Member.entry)))) :=
      getDictEntry_dict (found _ List.mem_cons_self)
    refine and_congr ?_ (ih accepted.2 (fun there => without (.inr there))
      fun m there => found m (List.mem_cons_of_mem _ there))
    have inside : entries.ReadsBack same (.ofEntries (entries.members.map Member.entry)) ↔ entries = nil :=
      readsBack_inside entries _
    rw [← inside]
    constructor
    · rintro ⟨inner, read, back⟩
      rw [own] at read
      cases read
      exact back
    · exact fun back => ⟨_, own, back⟩

end Reading

theorem Plain.without {fits : (type : Basic) → List type.Carrier → Prop} (plain : e.Plain fits) : ¬e.HasFixedArray := by
  induction e with
  | nil => exact id
  | basic key type value rest ih => exact ih plain
  | array key type items rest ih => exact ih plain.2
  | fixedArray key bytes rest ih => exact plain.elim
  | dict key entries rest ihEntries ih =>
    rintro (there | there)
    · rw [plain.1] at there
      exact there
    · exact ih plain.2 there

/-- With its length an array is read back only if it is empty. -/
theorem array_exact (key : String) (type : Basic) (items : List type.Carrier) :
    ((items = [] ∨ elementSize type = some 8) ∧
      Got.array (items.length - 1) (items.map fun x => some ⟨type, x⟩) = (Member.array key type items).got) ↔
    items = [] := by
  cases items with
  | nil => simp [Member.array]
  | cons x items => simp [Member.array]

theorem array_alike (key : String) (type : Basic) (items : List type.Carrier) :
    ((items = [] ∨ elementSize type = some 8) ∧
      Got.Alike (.array (items.length - 1) (items.map fun x => some ⟨type, x⟩)) (Member.array key type items).got) ↔
    items = [] ∨ elementSize type = some 8 :=
  and_iff_left rfl

/-- A dictionary is written well-typed exactly if there is no fixed array in it,
however deep.  It goes round exactly if moreover its arrays and its dictionaries
are empty; with the length left aside, an array may also have elements of eight
bytes. -/
theorem round_trip_iff (accepted : e.Accepted) (prefixFree : e.PrefixFree) :
    ((∃ body, e.Written body) ↔ ¬e.HasFixedArray) ∧
    (RoundTrip Eq e ↔ e.Plain fun _ items => items = []) ∧
    (RoundTrip Got.Alike e ↔ e.Plain fun type items => items = [] ∨ elementSize type = some 8) := by
  have found := entryFor_member prefixFree
  refine ⟨written_iff accepted, ?_, ?_⟩
  · rw [roundTrip_iff accepted]
    have back := fun without => readsBack_iff Eq.refl array_exact accepted without found
    exact ⟨fun trip => (back trip.1).mp trip.2, fun plain => ⟨plain.without, (back plain.without).mpr plain⟩⟩
  · rw [roundTrip_iff accepted]
    have alike : ∀ got, Got.Alike got got := fun _ => rfl
    have back := fun without => readsBack_iff alike array_alike accepted without found
    exact ⟨fun trip => (back trip.1).mp trip.2, fun plain => ⟨plain.without, (back plain.without).mpr plain⟩⟩

/-- A byte, no strings, and a dictionary with nothing in it. -/
theorem round_trip_iff_empty :
    RoundTrip Eq (.basic "Strength" .byte 40 (.array "Domains" .string [] (.dict "Settings" .nil .nil))) :=
  (round_trip_iff (by decide) (by decide)).2.1.mpr ⟨rfl, rfl, trivial⟩

/-- One byte in a fixed array cannot be written; of two strings in an array the
length tells one; of one number the end is written past the array; and the name
in a dictionary is not found again. -/
theorem not_always_round_trip :
    ¬RoundTrip Eq (.fixedArray "Key" [1] .nil) ∧
    ¬RoundTrip Eq (.array "Domains" .string ["a", "b"] .nil) ∧
    ¬RoundTrip Got.Alike (.array "Sizes" .uint32 [1] .nil) ∧
    ¬RoundTrip Got.Alike (.dict "Settings" (.basic "Name" .string "home" .nil) .nil) := by
  refine ⟨?_, ?_, ?_, ?_⟩
  · rintro ⟨body, ⟨written, -⟩, -⟩
    cases written
  · rintro ⟨body, ⟨written, -⟩, ⟨got, read, same⟩, -⟩
    cases written
    cases read
    cases same
  · rintro ⟨body, ⟨written, -⟩, ⟨got, read, -⟩, -⟩
    cases written
    cases read
  · rintro ⟨body, ⟨written, -⟩, ⟨inner, read, ⟨got, read', -⟩, -⟩, -⟩
    cases written
    cases read
    cases read'

end Entries

end ConnmanUi
