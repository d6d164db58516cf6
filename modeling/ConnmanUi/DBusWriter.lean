import ConnmanUi.DBusBody

/-!
Writing message bodies of D-Bus.

A message is written from the outside in: a container is opened through the
iterator of the one around it and closed through it again.  A `Writer` is the
stack of the containers that are open, with what has been put into each, and an
iterator is its place in the stack.  `Misuse` is what libdbus answers with a
failed assertion.

`Puts` and `Fills` say what a piece of a program writes; the rules below them
compose.
-/

namespace DBus

/-! ## Signatures -/

namespace Sig

/-- The first type of a sequence, by itself. -/
def head : Sig → Sig
  | .nil => .nil
  | .basic b _ => .basic b .nil
  | .variant _ => .variant .nil
  | .array elem _ => .array elem .nil
  | .struct fields _ => .struct fields .nil
  | .dictEntry content _ => .dictEntry content .nil

def tail : Sig → Sig
  | .nil => .nil
  | .basic _ rest => rest
  | .variant rest => rest
  | .array _ rest => rest
  | .struct _ rest => rest
  | .dictEntry _ rest => rest

/-- The code of a basic type. -/
def code : Char → Option Basic
  | 'y' => some .byte
  | 'b' => some .boolean
  | 'n' => some .int16
  | 'q' => some .uint16
  | 'i' => some .int32
  | 'u' => some .uint32
  | 'x' => some .int64
  | 't' => some .uint64
  | 'd' => some .double
  | 's' => some .string
  | 'o' => some .objectPath
  | 'g' => some .signature
  | 'h' => some .unixFd
  | _ => none

/-- One more character, from the right.  The sequences read so far stand with
the brackets that close them, the innermost first. -/
def read : Char → List (Char × Sig) → Option (List (Char × Sig))
  | 'v', (close, rest) :: outer => some ((close, .variant rest) :: outer)
  | 'a', (close, rest) :: outer => if rest = .nil then none else some ((close, .array rest.head rest.tail) :: outer)
  | ')', outer => some ((')', .nil) :: outer)
  | '}', outer => some (('}', .nil) :: outer)
  | '(', (')', fields) :: (close, rest) :: outer => some ((close, .struct fields rest) :: outer)
  | '{', ('}', content) :: (close, rest) :: outer => some ((close, .dictEntry content rest) :: outer)
  | c, (close, rest) :: outer => (code c).map fun b => (close, .basic b rest) :: outer
  | _, [] => none

/-- The sequence of types a signature spells. -/
def parse (signature : String) : Option Sig :=
  match signature.toList.foldr (fun c seen => seen.bind (read c)) (some [('.', .nil)]) with
  | some [(_, type)] => some type
  | _ => none

/-- The type a variant of this signature holds. -/
def ofVariant (signature : String) : Option Sig := (parse signature).filter fun type => type.Single && type.Valid

/-- The type of the elements of an array of this signature. -/
def ofArray (signature : String) : Option Sig := (parse signature).filter fun elem => (Sig.array elem .nil).Valid

end Sig

/-! ## Writers -/

/-- What a program must not do with a message it writes. -/
inductive Misuse where
  /-- An iterator is used while a container opened through it is open, or one
  that is closed. -/
  | order
  /-- What is put somewhere has another type than what belongs there. -/
  | type
  /-- A signature spells no type. -/
  | signature
  /-- A container is closed before it is full. -/
  | unfinished
  /-- A string that is put somewhere is NULL. -/
  | null
  deriving DecidableEq

abbrev Writes := Except Misuse

/-- A container that is open, with the types that are still missing. -/
inductive Holder where
  | message
  | variant (left : Sig)
  | array (elem : Sig)
  | dictEntry (left : Sig)
  deriving DecidableEq

/-- The holder after a value of this type. -/
def Holder.take (type : Sig) : Holder → Option Holder
  | .message => some .message
  | .variant left => if left.head = type then some (.variant left.tail) else none
  | .array elem => if elem = type then some (.array elem) else none
  | .dictEntry left => if left.head = type then some (.dictEntry left.tail) else none

/-- The value a holder is when it is closed. -/
def Holder.close (written : Body) : Holder → Writes Body
  | .message => .error .order
  | .variant left => if left = .nil then .ok (.variant written .nil) else .error .unfinished
  | .array elem => .ok (.array elem written .nil)
  | .dictEntry left => if left = .nil then .ok (.dictEntry written .nil) else .error .unfinished

/-- The containers that are open, the innermost first. -/
abbrev Writer := List (Holder × Body)

namespace Writer

/-- A message with nothing in it, and the iterator at it. -/
def empty : Writer := [(.message, .nil)]

/-- A value is put after what the iterator's container holds. -/
def put (iter : Nat) (value : Body) : Writer → Writes Writer
  | (holder, written) :: outer =>
    if outer.length = iter then
      match holder.take value.sig with
      | some holder => .ok ((holder, written ++ value) :: outer)
      | none => .error .type
    else .error .order
  | [] => .error .order

/-- `dbus_message_iter_append_basic`. -/
def appendBasic (iter : Nat) (type : Basic) (x : type.Carrier) (w : Writer) : Writes Writer :=
  put iter (.basic type x .nil) w

/-- `dbus_message_iter_append_fixed_array`: the elements of an array at once. -/
def appendFixedArray (iter : Nat) (type : Basic) (xs : List type.Carrier) : Writer → Writes Writer
  | (.array elem, written) :: outer =>
    if outer.length = iter then
      if elem = .basic type .nil then .ok ((.array elem, written ++ .ofList type xs) :: outer) else .error .type
    else .error .order
  | _ => .error .order

/-- The containers `dbus_message_iter_open_container` opens here. -/
inductive Kind where
  | variant
  | array
  | dictEntry

/-- What a container of this signature is when nothing is in it; a dictionary
entry has the signature its array gives it. -/
def opened (kind : Kind) (signature : Option String) (parent : Holder) : Writes Holder :=
  match kind, signature with
  | .variant, some signature =>
    match Sig.ofVariant signature with
    | some type => if (parent.take (.variant .nil)).isSome then .ok (.variant type) else .error .type
    | none => .error .signature
  | .array, some signature =>
    match Sig.ofArray signature with
    | some elem => if (parent.take (.array elem .nil)).isSome then .ok (.array elem) else .error .type
    | none => .error .signature
  | .dictEntry, none =>
    match parent with
    | .array (.dictEntry content .nil) => .ok (.dictEntry content)
    | _ => .error .type
  | _, _ => .error .signature

/-- `dbus_message_iter_open_container`, with the iterator at the container. -/
def openContainer (iter : Nat) (kind : Kind) (signature : Option String) : Writer → Writes (Nat × Writer)
  | (parent, written) :: outer =>
    if outer.length = iter then
      (opened kind signature parent).map fun holder => (iter + 1, (holder, .nil) :: (parent, written) :: outer)
    else .error .order
  | [] => .error .order

/-- `dbus_message_iter_close_container`. -/
def closeContainer (iter sub : Nat) : Writer → Writes Writer
  | (holder, written) :: outer =>
    if outer.length = sub then (holder.close written).bind fun value => put iter value outer else .error .order
  | [] => .error .order

/-- A container that is opened, filled and closed. -/
def within (kind : Kind) (signature : Option String) (write : Nat → Writer → Writes Writer) (iter : Nat) (w : Writer) :
    Writes Writer := do
  let (sub, w) ← openContainer iter kind signature w
  let w ← write sub w
  closeContainer iter sub w

/-! ## What is written -/

/-- Exactly this value is put into whatever takes it. -/
def Puts (write : Nat → Writer → Writes Writer) (value : Body) : Prop :=
  ∀ holder holder' written outer, holder.take value.sig = some holder' →
    write outer.length ((holder, written) :: outer) = .ok ((holder', written ++ value) :: outer)

/-- Exactly these elements are put into an array. -/
def Fills (write : Nat → Writer → Writes Writer) (elem : Sig) (items : Body) : Prop :=
  ∀ written outer, write outer.length ((.array elem, written) :: outer) =
    .ok ((.array elem, written ++ items) :: outer)

variable {write write' : Nat → Writer → Writes Writer} {signature : String} {elem type : Sig}
  {value items items' written : Body} {holder : Holder} {outer : Writer} {misuse : Misuse}

theorem Holder.take_array (belongs : type = elem) : (Holder.array elem).take type = some (.array elem) :=
  if_pos belongs.symm

theorem put_ok {holder' : Holder} (takes : holder.take value.sig = some holder') :
    put outer.length value ((holder, written) :: outer) = .ok ((holder', written ++ value) :: outer) := by
  simp [put, takes]

theorem puts_basic (type : Basic) (x : type.Carrier) :
    Puts (fun iter => appendBasic iter type x) (.basic type x .nil) :=
  fun _ _ _ _ takes => put_ok takes

theorem puts_variant (spells : Sig.ofVariant signature = some value.sig) (single : value.sig.Single = true)
    (puts : Puts write value) : Puts (within .variant (some signature) write) (.variant value .nil) := by
  intro holder holder' written outer takes
  have left : value.sig.head = value.sig ∧ value.sig.tail = .nil := by
    cases shape : value.sig with
    | nil => exact ⟨rfl, rfl⟩
    | _ =>
      rw [shape] at single
      rename Sig => rest
      cases rest <;> first | exact ⟨rfl, rfl⟩ | cases single
  have inside : write (outer.length + 1) ((.variant value.sig, .nil) :: (holder, written) :: outer) =
      .ok ((.variant .nil, value) :: (holder, written) :: outer) := by
    have filled := puts (.variant value.sig) (.variant value.sig.tail) .nil ((holder, written) :: outer)
      (if_pos left.1)
    rw [left.2] at filled
    exact filled
  have takes' : holder.take (.variant .nil) = some holder' := takes
  simp only [within, openContainer, opened, spells, takes', Option.isSome_some, if_true, Except.map, bind, Except.bind,
    inside, closeContainer, List.length_cons, Holder.close]
  exact put_ok takes

theorem puts_array (spells : Sig.ofArray signature = some elem) (fills : Fills write elem items) :
    Puts (within .array (some signature) write) (.array elem items .nil) := by
  intro holder holder' written outer takes
  have inside := fills .nil ((holder, written) :: outer)
  have takes' : holder.take (.array elem .nil) = some holder' := takes
  simp only [within, openContainer, opened, spells, takes', Option.isSome_some, if_true, Except.map, bind, Except.bind,
    closeContainer, Holder.close]
  rw [show outer.length + 1 = ((holder, written) :: outer).length from rfl, inside]
  simp only [List.length_cons, if_true]
  exact put_ok takes

/-- A value fills an array of its type by one. -/
theorem Puts.fills (puts : Puts write value) : Fills write value.sig value :=
  fun written outer => puts _ _ written outer (Holder.take_array rfl)

theorem fills_nothing (elem : Sig) : Fills (fun _ w => .ok w) elem .nil :=
  fun written outer => by rw [Body.append_nil]

theorem Fills.append (first : Fills write elem items) (later : Fills write' elem items') :
    Fills (fun iter w => (write iter w).bind (write' iter)) elem (items ++ items') := by
  intro written outer
  show (write outer.length _).bind _ = _
  rw [first written outer, ← Body.append_assoc]
  exact later _ outer

/-- An entry of a dictionary of variants: a key, then a variant. -/
theorem fills_dictEntry {key : String} (puts : Puts write (.variant value .nil)) :
    Fills (within .dictEntry none fun iter w => (appendBasic iter .string key w).bind (write iter)) .stringVariant
      (.ofEntries [(key, value)]) := by
  intro written outer
  have takes : (Holder.array .stringVariant).take (Body.ofEntries [(key, value)]).sig =
      some (.array .stringVariant) := Holder.take_array rfl
  have named := puts_basic .string key (.dictEntry (.basic .string (.variant .nil))) (.dictEntry (.variant .nil)) .nil
    ((.array .stringVariant, written) :: outer) rfl
  have valued := puts (.dictEntry (.variant .nil)) (.dictEntry .nil) (.basic .string key .nil)
    ((.array .stringVariant, written) :: outer) rfl
  rw [List.length_cons] at named valued
  simp only [within, openContainer, opened, Sig.stringVariant, if_true, Except.map, bind, Except.bind]
  simp only [Sig.stringVariant] at named valued
  rw [named]
  simp only [Body.nil_append, valued, closeContainer, List.length_cons, if_true, Holder.close, Except.bind]
  exact put_ok takes

/-! ## What goes wrong -/

/-- Putting a value of this type ends in a misuse, wherever one may be put. -/
def Refuses (write : Nat → Writer → Writes Writer) (type : Sig) (misuse : Misuse) : Prop :=
  ∀ holder holder' written outer, holder.take type = some holder' →
    write outer.length ((holder, written) :: outer) = .error misuse

/-- So does filling an array. -/
def Breaks (write : Nat → Writer → Writes Writer) (elem : Sig) (misuse : Misuse) : Prop :=
  ∀ written outer, write outer.length ((.array elem, written) :: outer) = .error misuse

/-- A signature that spells no type opens nothing. -/
theorem refuses_signature (spells : Sig.ofVariant signature = none) :
    Refuses (within .variant (some signature) write) (.variant .nil) .signature :=
  fun _ _ _ _ _ => by simp [within, openContainer, opened, spells, Except.map, bind, Except.bind]

theorem refuses_variant (spells : Sig.ofVariant signature = some type) (single : type.head = type)
    (refuses : Refuses write type misuse) :
    Refuses (within .variant (some signature) write) (.variant .nil) misuse := by
  intro holder holder' written outer takes
  have inside := refuses (.variant type) (.variant type.tail) .nil ((holder, written) :: outer) (if_pos single)
  rw [List.length_cons] at inside
  simp only [within, openContainer, opened, spells, takes, Option.isSome_some, if_true, Except.map, bind, Except.bind,
    inside]

theorem refuses_array (spells : Sig.ofArray signature = some elem) (breaks : Breaks write elem misuse) :
    Refuses (within .array (some signature) write) (.array elem .nil) misuse := by
  intro holder holder' written outer takes
  have inside := breaks .nil ((holder, written) :: outer)
  rw [List.length_cons] at inside
  simp only [within, openContainer, opened, spells, takes, Option.isSome_some, if_true, Except.map, bind, Except.bind,
    inside]

theorem breaks_dictEntry {key : String} (refuses : Refuses write (.variant .nil) misuse) :
    Breaks (within .dictEntry none fun iter w => (appendBasic iter .string key w).bind (write iter)) .stringVariant
      misuse := by
  intro written outer
  have named := puts_basic .string key (.dictEntry (.basic .string (.variant .nil))) (.dictEntry (.variant .nil)) .nil
    ((.array .stringVariant, written) :: outer) rfl
  have valued := refuses (.dictEntry (.variant .nil)) (.dictEntry .nil) (.basic .string key .nil)
    ((.array .stringVariant, written) :: outer) rfl
  simp only [List.length_cons, Sig.stringVariant] at named valued
  simp only [within, openContainer, opened, Sig.stringVariant, if_true, Except.map, bind, Except.bind, named,
    Body.nil_append, valued]

theorem Breaks.first (breaks : Breaks write elem misuse) :
    Breaks (fun iter w => (write iter w).bind (write' iter)) elem misuse := by
  intro written outer
  show (write outer.length _).bind _ = _
  rw [breaks written outer]
  rfl

theorem Fills.breaks (first : Fills write elem items) (breaks : Breaks write' elem misuse) :
    Breaks (fun iter w => (write iter w).bind (write' iter)) elem misuse := by
  intro written outer
  show (write outer.length _).bind _ = _
  rw [first written outer]
  exact breaks _ outer

end Writer

end DBus
