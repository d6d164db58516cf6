/-!
Message bodies of D-Bus.

A message body is a sequence of values; so is what a container holds.  `Body`
is such a sequence, read from its head, which makes it an iterator as well: the
head is the current element, the rest is what follows it.  A signature is a
sequence of types in the same way.  `WellFormed` is what the bus guarantees of a
body: containers hold what their signatures say.  Nothing guarantees that a body
has the signature its reader expects.
-/

namespace DBus

/-- The basic types. -/
inductive Basic where
  | byte
  | boolean
  | int16
  | uint16
  | int32
  | uint32
  | int64
  | uint64
  | double
  | string
  | objectPath
  | signature
  | unixFd
  deriving DecidableEq

/-- The values of a basic type; a double is its 64 bits. -/
abbrev Basic.Carrier : Basic → Type
  | .byte => UInt8
  | .boolean => Bool
  | .int16 => Int16
  | .uint16 => UInt16
  | .int32 => Int32
  | .uint32 => UInt32
  | .int64 => Int64
  | .uint64 => UInt64
  | .double => UInt64
  | .string => String
  | .objectPath => String
  | .signature => String
  | .unixFd => UInt32

instance (b : Basic) : DecidableEq b.Carrier := by
  cases b <;> infer_instance

/-- A sequence of types. -/
inductive Sig where
  | nil
  | basic (b : Basic) (rest : Sig)
  | variant (rest : Sig)
  | array (elem rest : Sig)
  | struct (fields rest : Sig)
  | dictEntry (content rest : Sig)
  deriving DecidableEq

/-- A sequence of values; an array carries the type of its elements. -/
inductive Body where
  | nil
  | basic (b : Basic) (x : b.Carrier) (rest : Body)
  | variant (inner rest : Body)
  | array (elem : Sig) (items rest : Body)
  | struct (fields rest : Body)
  | dictEntry (content rest : Body)
  deriving DecidableEq

namespace Sig

/-- Exactly one type, and one that may stand by itself. -/
def Single : Sig → Bool
  | .basic _ .nil => true
  | .variant .nil => true
  | .array _ .nil => true
  | .struct _ .nil => true
  | _ => false

/-- Types as the bus allows them: structures are not empty, and dictionary
entries are elements of arrays, with a basic key and one value. -/
def Valid : Sig → Bool
  | .nil => true
  | .basic _ rest => rest.Valid
  | .variant rest => rest.Valid
  | .array (.dictEntry (.basic _ value) .nil) rest => value.Single && value.Valid && rest.Valid
  | .array elem rest => elem.Single && elem.Valid && rest.Valid
  | .struct fields rest => fields != .nil && fields.Valid && rest.Valid
  | .dictEntry _ _ => false

abbrev string : Sig := .basic .string .nil

abbrev boolean : Sig := .basic .boolean .nil

abbrev byte : Sig := .basic .byte .nil

abbrev uint16 : Sig := .basic .uint16 .nil

abbrev strings : Sig := .array string .nil

/-- `{sv}`, the type of the entries of a dictionary of variants. -/
def stringVariant : Sig := .dictEntry (.basic .string (.variant .nil)) .nil

/-- `a{sv}`. -/
abbrev dictionary : Sig := .array stringVariant .nil

end Sig

namespace Body

variable {a items : Body} {k : Basic} {elem : Sig} {l : List (String × Body)}

/-- The signature of a body. -/
def sig : Body → Sig
  | .nil => .nil
  | .basic b _ rest => .basic b rest.sig
  | .variant _ rest => .variant rest.sig
  | .array elem _ rest => .array elem rest.sig
  | .struct fields rest => .struct fields.sig rest.sig
  | .dictEntry content rest => .dictEntry content.sig rest.sig

/-- Every element has the type `elem`. -/
def Uniform (elem : Sig) : Body → Prop
  | .nil => True
  | .basic b _ rest => elem = .basic b .nil ∧ rest.Uniform elem
  | .variant _ rest => elem = .variant .nil ∧ rest.Uniform elem
  | .array e _ rest => elem = .array e .nil ∧ rest.Uniform elem
  | .struct fields rest => elem = .struct fields.sig .nil ∧ rest.Uniform elem
  | .dictEntry content rest => elem = .dictEntry content.sig .nil ∧ rest.Uniform elem

/-- Every container holds what its signature says: a variant one value, and an
array elements of its type.  What a structure or a dictionary entry may hold is
up to the signature around it. -/
def WellFormed : Body → Prop
  | .nil => True
  | .basic _ _ rest => rest.WellFormed
  | .variant inner rest => inner.sig.Single = true ∧ inner.sig.Valid = true ∧ inner.WellFormed ∧ rest.WellFormed
  | .array elem items rest => items.Uniform elem ∧ items.WellFormed ∧ rest.WellFormed
  | .struct fields rest => fields.WellFormed ∧ rest.WellFormed
  | .dictEntry content rest => content.WellFormed ∧ rest.WellFormed

instance decidableUniform (elem : Sig) : (a : Body) → Decidable (a.Uniform elem)
  | .nil => .isTrue trivial
  | .basic _ _ rest => @instDecidableAnd _ _ _ (decidableUniform elem rest)
  | .variant _ rest => @instDecidableAnd _ _ _ (decidableUniform elem rest)
  | .array _ _ rest => @instDecidableAnd _ _ _ (decidableUniform elem rest)
  | .struct _ rest => @instDecidableAnd _ _ _ (decidableUniform elem rest)
  | .dictEntry _ rest => @instDecidableAnd _ _ _ (decidableUniform elem rest)

instance decidableWellFormed : (a : Body) → Decidable a.WellFormed
  | .nil => .isTrue trivial
  | .basic _ _ rest => decidableWellFormed rest
  | .variant inner rest =>
    have := decidableWellFormed inner
    have := decidableWellFormed rest
    inferInstanceAs (Decidable (_ ∧ _ ∧ _ ∧ _))
  | .array elem items rest =>
    have := decidableWellFormed items
    have := decidableWellFormed rest
    inferInstanceAs (Decidable (items.Uniform elem ∧ _ ∧ _))
  | .struct fields rest => @instDecidableAnd _ _ (decidableWellFormed fields) (decidableWellFormed rest)
  | .dictEntry content rest => @instDecidableAnd _ _ (decidableWellFormed content) (decidableWellFormed rest)

/-- A message as the bus delivers it. -/
def Message (a : Body) : Prop := a.WellFormed ∧ a.sig.Valid = true

/-- One sequence after another. -/
def append : Body → Body → Body
  | .nil, c => c
  | .basic b x rest, c => .basic b x (rest.append c)
  | .variant inner rest, c => .variant inner (rest.append c)
  | .array elem items rest, c => .array elem items (rest.append c)
  | .struct fields rest, c => .struct fields (rest.append c)
  | .dictEntry content rest, c => .dictEntry content (rest.append c)

instance : Append Body := ⟨append⟩

/-- The elements of one basic type. -/
def ofList (b : Basic) : List b.Carrier → Body
  | [] => .nil
  | x :: xs => .basic b x (ofList b xs)

/-- The entries of a dictionary of variants: the names, and what the variants
hold. -/
def ofEntries : List (String × Body) → Body
  | [] => .nil
  | (name, inner) :: entries => .dictEntry (.basic .string name (.variant inner .nil)) (ofEntries entries)

/-- A dictionary of variants, by itself. -/
def dictionary (entries : List (String × Body)) : Body := .array .stringVariant (ofEntries entries) .nil

/-- `ofEntries` taken back. -/
def entries : Body → List (String × Body)
  | .dictEntry (.basic .string name (.variant inner _)) rest => (name, inner) :: rest.entries
  | _ => []

/-- What the dictionary entries at the head of a sequence hold. -/
def contents : Body → List Body
  | .dictEntry content rest => content :: rest.contents
  | _ => []

/-! ### Reading -/

/-- `dbus_message_iter_next`; past the end there is nothing to pass. -/
def next : Body → Body
  | .nil => .nil
  | .basic _ _ rest => rest
  | .variant _ rest => rest
  | .array _ _ rest => rest
  | .struct _ rest => rest
  | .dictEntry _ rest => rest

/-- What `dbus_message_iter_recurse` goes into: what the current element holds,
if it is a container. -/
def inside : Body → Option Body
  | .variant inner _ => some inner
  | .array _ items _ => some items
  | .struct fields _ => some fields
  | .dictEntry content _ => some content
  | _ => none

/-- The iterator at each element in turn. -/
def positions : Body → List Body
  | .nil => []
  | .basic b x rest => .basic b x rest :: rest.positions
  | .variant inner rest => .variant inner rest :: rest.positions
  | .array elem items rest => .array elem items rest :: rest.positions
  | .struct fields rest => .struct fields rest :: rest.positions
  | .dictEntry content rest => .dictEntry content rest :: rest.positions

/-- The current element, if it has this basic type. -/
def getBasic (b : Basic) : Body → Option b.Carrier
  | .basic b' x _ => if same : b' = b then some (same ▸ x) else none
  | _ => none

/-! ### Sequences -/

@[simp] theorem getBasic_basic (k : Basic) (x : k.Carrier) (rest : Body) : (Body.basic k x rest).getBasic k = some x :=
  dif_pos rfl

theorem getBasic_eq_some {x : k.Carrier} : a.getBasic k = some x ↔ ∃ rest, a = .basic k x rest := by
  cases a with
  | basic k' x' rest =>
    constructor
    · intro read
      obtain ⟨rfl, same⟩ := Option.dite_none_right_eq_some.mp read
      exact ⟨rest, congrArg (Body.basic k' · rest) (Option.some.inj same)⟩
    · rintro ⟨rest', same⟩
      rw [same]
      exact getBasic_basic ..
  | _ => simp [getBasic]

@[simp] theorem nil_append (a : Body) : Body.nil ++ a = a := rfl

@[simp] theorem append_nil (a : Body) : a ++ .nil = a := by
  induction a with
  | nil => rfl
  | basic b x rest ih => exact congrArg (Body.basic b x) ih
  | variant inner rest _ ih => exact congrArg (Body.variant inner) ih
  | array elem items rest _ ih => exact congrArg (Body.array elem items) ih
  | struct fields rest _ ih => exact congrArg (Body.struct fields) ih
  | dictEntry content rest _ ih => exact congrArg (Body.dictEntry content) ih

theorem append_assoc (a b c : Body) : a ++ b ++ c = a ++ (b ++ c) := by
  induction a with
  | nil => rfl
  | basic k x rest ih => exact congrArg (Body.basic k x) ih
  | variant inner rest _ ih => exact congrArg (Body.variant inner) ih
  | array elem items rest _ ih => exact congrArg (Body.array elem items) ih
  | struct fields rest _ ih => exact congrArg (Body.struct fields) ih
  | dictEntry content rest _ ih => exact congrArg (Body.dictEntry content) ih

/-! ### Types and what has them -/

theorem sig_eq_nil : a.sig = .nil ↔ a = .nil := by
  cases a <;> simp [sig]

theorem sig_eq_basic : a.sig = .basic k .nil ↔ ∃ x, a = .basic k x .nil := by
  cases a with
  | basic k' x rest =>
    constructor
    · intro same
      obtain ⟨rfl, ended⟩ := Sig.basic.inj same
      exact ⟨x, congrArg (Body.basic k' x) (sig_eq_nil.mp ended)⟩
    · rintro ⟨x, same⟩
      rw [same]
      rfl
  | _ => simp [sig]

theorem sig_eq_array : a.sig = .array elem .nil ↔ ∃ items, a = .array elem items .nil := by
  cases a with
  | array elem' items rest => simp [sig, sig_eq_nil]
  | _ => simp [sig]

/-- The elements of an array of a basic type are a list. -/
theorem uniform_basic : items.Uniform (.basic k .nil) ↔ ∃ l, items = ofList k l := by
  constructor
  · intro uniform
    induction items with
    | nil => exact ⟨[], rfl⟩
    | basic k' x rest ih =>
      obtain ⟨same, uniform⟩ := uniform
      cases same
      obtain ⟨l, rfl⟩ := ih uniform
      exact ⟨x :: l, rfl⟩
    | _ => cases uniform.1
  · rintro ⟨l, rfl⟩
    induction l with
    | nil => trivial
    | cons x l ih => exact ⟨rfl, ih⟩

@[simp] theorem entries_ofEntries (l : List (String × Body)) : (ofEntries l).entries = l := by
  induction l with
  | nil => rfl
  | cons entry l ih => exact congrArg (entry :: ·) ih

/-- The elements of a dictionary of variants are its entries. -/
theorem uniform_stringVariant : items.Uniform .stringVariant ↔ ∃ l, items = ofEntries l := by
  constructor
  · intro uniform
    induction items with
    | nil => exact ⟨[], rfl⟩
    | dictEntry content rest _ ih =>
      obtain ⟨same, uniform⟩ := uniform
      obtain ⟨l, rfl⟩ := ih uniform
      have typed : content.sig = .basic .string (.variant .nil) := (Sig.dictEntry.inj same).1.symm
      obtain ⟨name, inner, rfl⟩ : ∃ name inner, content = .basic .string name (.variant inner .nil) := by
        cases content with
        | basic k name value =>
          obtain ⟨rfl, typedValue⟩ := Sig.basic.inj typed
          cases value with
          | variant inner ended => exact ⟨name, inner, by rw [sig_eq_nil.mp (Sig.variant.inj typedValue)]⟩
          | _ => cases typedValue
        | _ => cases typed
      exact ⟨(name, inner) :: l, rfl⟩
    | _ => cases uniform.1
  · rintro ⟨l, rfl⟩
    induction l with
    | nil => trivial
    | cons entry l ih => exact ⟨rfl, ih⟩

theorem WellFormed.next (wellFormed : a.WellFormed) : a.next.WellFormed := by
  cases a with
  | nil => trivial
  | basic => exact wellFormed
  | variant => exact wellFormed.2.2.2
  | array => exact wellFormed.2.2
  | struct => exact wellFormed.2
  | dictEntry => exact wellFormed.2

/-- A variant holds one value. -/
theorem WellFormed.single {k : Basic} {x : k.Carrier} {after rest : Body}
    (wellFormed : (Body.variant (.basic k x after) rest).WellFormed) : after = .nil := by
  obtain ⟨single, -⟩ := wellFormed
  cases after with
  | nil => rfl
  | _ => cases single

theorem WellFormed.contents (wellFormed : items.WellFormed) : ∀ content ∈ items.contents, content.WellFormed := by
  induction items with
  | dictEntry content rest _ ih =>
    intro other there
    rcases List.mem_cons.mp there with rfl | later
    · exact wellFormed.1
    · exact ih wellFormed.2 other later
  | _ =>
    intro other there
    cases there

theorem wellFormed_ofList (l : List k.Carrier) : (ofList k l).WellFormed := by
  induction l with
  | nil => trivial
  | cons x l ih => exact ih

/-- An array of a basic type. -/
theorem wellFormed_array (l : List k.Carrier) : (Body.array (.basic k .nil) (ofList k l) .nil).WellFormed :=
  ⟨uniform_basic.mpr ⟨l, rfl⟩, wellFormed_ofList l, trivial⟩

theorem wellFormed_ofEntries : (ofEntries l).WellFormed ↔
    ∀ entry ∈ l, entry.2.sig.Single = true ∧ entry.2.sig.Valid = true ∧ entry.2.WellFormed := by
  induction l with
  | nil => simp [ofEntries, WellFormed]
  | cons entry l ih => simp [ofEntries, WellFormed, ih, and_assoc]

theorem sig_dictionary (l : List (String × Body)) : (dictionary l).sig = .dictionary := rfl

theorem wellFormed_dictionary : (dictionary l).WellFormed ↔
    ∀ entry ∈ l, entry.2.sig.Single = true ∧ entry.2.sig.Valid = true ∧ entry.2.WellFormed := by
  have uniform : (ofEntries l).Uniform .stringVariant := uniform_stringVariant.mpr ⟨l, rfl⟩
  simp [dictionary, WellFormed, wellFormed_ofEntries, uniform]

end Body

end DBus
