import ConnmanUi.CuiDbus
import ConnmanUi.DBusWriter

/-!
Writing messages (`lib/dbus.c`).

The writers name the type of each variant in a signature they look up.
-/

namespace ConnmanUi

open DBus Writer

/-- `map_basic_to_signature`. -/
def mapBasicToSignature : Basic → String
  | .boolean => "b"
  | .int16 => "n"
  | .uint16 => "q"
  | .int32 => "i"
  | .uint32 => "u"
  | .double => "d"
  | .string => "s"
  | .objectPath => "o"
  | .signature => "g"
  | .byte => "y"
  | _ => "v"

/-- `map_array_to_signature`; for bytes it names the array twice. -/
def mapArrayToSignature : Basic → String
  | .boolean => "ab"
  | .int16 => "an"
  | .uint16 => "aq"
  | .int32 => "ai"
  | .uint32 => "au"
  | .double => "ad"
  | .string => "as"
  | .objectPath => "ao"
  | .signature => "ag"
  | .byte => "aa"
  | _ => "av"

/-- `cui_dbus_property_f` with its `user_data`. -/
abbrev PropertyFunction := Nat → Writer → Writes Writer

/-- Nothing is written by a `property_function` that is NULL. -/
def callProperty : Option PropertyFunction → PropertyFunction
  | some propertyFunction => propertyFunction
  | none => fun _ w => .ok w

/-- What the writers do with a value: alone, or after its key and in a variant. -/
def withKey (keyName : Option String) (signature : String) (write : PropertyFunction) : PropertyFunction :=
  fun iter w =>
    match keyName with
    | some key => (appendBasic iter .string key w).bind (within .variant (some signature) write iter)
    | none => write iter w

/-- `cui_dbus_append_dict`. -/
def cuiDbusAppendDict (iter : Nat) (keyName : Option String) (propertyFunction : Option PropertyFunction) (w : Writer) :
    Writes Writer :=
  withKey keyName "a{sv}" (within .array (some "{sv}") (callProperty propertyFunction)) iter w

/-- `cui_dbus_append_basic`. -/
def cuiDbusAppendBasic (iter : Nat) (keyName : Option String) (type : Basic) (value : type.Carrier) (w : Writer) :
    Writes Writer :=
  withKey keyName (mapBasicToSignature type) (fun iter => appendBasic iter type value) iter w

/-- `cui_dbus_append_array`. -/
def cuiDbusAppendArray (iter : Nat) (keyName : Option String) (type : Basic)
    (propertyFunction : Option PropertyFunction) (w : Writer) : Writes Writer :=
  withKey keyName (mapArrayToSignature type)
    (within .array (some (mapBasicToSignature type)) (callProperty propertyFunction)) iter w

/-- `cui_dbus_append_fixed_array`, with the elements at once. -/
def cuiDbusAppendFixedArray (iter : Nat) (keyName : Option String) (type : Basic) (value : List type.Carrier)
    (w : Writer) : Writes Writer :=
  withKey keyName (mapArrayToSignature .byte)
    (within .array (some (mapBasicToSignature .byte)) fun array => appendFixedArray array type value) iter w

/-- The arguments of `cui_dbus_append_dict_entry` for each `entry_type`. -/
inductive Payload where
  | basic (type : Basic) (value : type.Carrier)
  | array (type : Basic) (propertyFunction : Option PropertyFunction)
  | fixedArray (type : Basic) (value : List type.Carrier)
  | dict (propertyFunction : Option PropertyFunction)

/-- `cui_dbus_append_dict_entry`. -/
def cuiDbusAppendDictEntry (dict : Nat) (keyName : String) (payload : Payload) (w : Writer) : Writes Writer :=
  within .dictEntry none (fun entry w =>
    match payload with
    | .basic type value => cuiDbusAppendBasic entry (some keyName) type value w
    | .array type propertyFunction => cuiDbusAppendArray entry (some keyName) type propertyFunction w
    | .fixedArray type value => cuiDbusAppendFixedArray entry (some keyName) type value w
    | .dict propertyFunction => cuiDbusAppendDict entry (some keyName) propertyFunction w) dict w

/-- A property function that appends one value after another, as
`append_string_list` does. -/
def appendList (type : Basic) : List type.Carrier → PropertyFunction
  | [], _, w => .ok w
  | x :: xs, iter, w => (cuiDbusAppendBasic iter none type x w).bind (appendList type xs iter)

/-! ## What the entries are -/

variable {type : Basic} {key : String} {write : PropertyFunction} {elem : Sig} {items value : Body}

/-- The types `map_basic_to_signature` knows. -/
def Mapped (type : Basic) : Prop := mapBasicToSignature type ≠ "v"

instance (type : Basic) : Decidable (Mapped type) := inferInstanceAs (Decidable (_ ≠ _))

theorem ofVariant_basic (mapped : Mapped type) :
    Sig.ofVariant (mapBasicToSignature type) = some (.basic type .nil) := by
  cases type <;> first | decide | exact absurd mapped (by decide)

theorem ofArray_basic (mapped : Mapped type) : Sig.ofArray (mapBasicToSignature type) = some (.basic type .nil) := by
  cases type <;> first | decide | exact absurd mapped (by decide)

/-- The types `cui_dbus_get_array` takes. -/
theorem ofVariant_array (listed : elementSize type ≠ none) :
    Mapped type ∧ Sig.ofVariant (mapArrayToSignature type) = some (.array (.basic type .nil) .nil) := by
  cases type <;> first | decide | exact absurd listed (by decide)

theorem fills_appendList (type : Basic) (xs : List type.Carrier) :
    Fills (appendList type xs) (.basic type .nil) (.ofList type xs) := by
  induction xs with
  | nil => exact fills_nothing _
  | cons x xs ih => exact (puts_basic type x).fills.append ih

/-- An entry whose value is put into a variant of its type. -/
theorem fills_withKey {signature : String} (spells : Sig.ofVariant signature = some value.sig)
    (single : value.sig.Single = true) (puts : Puts write value) :
    Fills (within .dictEntry none (withKey (some key) signature write)) .stringVariant (.ofEntries [(key, value)]) :=
  fills_dictEntry (puts_variant spells single puts)

theorem fills_basic (key : String) (mapped : Mapped type) (x : type.Carrier) :
    Fills (fun dict => cuiDbusAppendDictEntry dict key (.basic type x)) .stringVariant
      (.ofEntries [(key, .basic type x .nil)]) :=
  fills_withKey (ofVariant_basic mapped) rfl (puts_basic type x)

theorem fills_array (key : String) (listed : elementSize type ≠ none)
    (fills : Fills write (.basic type .nil) items) :
    Fills (fun dict => cuiDbusAppendDictEntry dict key (.array type (some write))) .stringVariant
      (.ofEntries [(key, .array (.basic type .nil) items .nil)]) :=
  fills_withKey (ofVariant_array listed).2 rfl (puts_array (ofArray_basic (ofVariant_array listed).1) fills)

theorem puts_dict (fills : Fills write .stringVariant items) :
    Puts (within .array (some "{sv}") write) (.array .stringVariant items .nil) :=
  puts_array (by decide) fills

theorem fills_dict (key : String) (fills : Fills write .stringVariant items) :
    Fills (fun dict => cuiDbusAppendDictEntry dict key (.dict (some write))) .stringVariant
      (.ofEntries [(key, .array .stringVariant items .nil)]) :=
  fills_withKey (show Sig.ofVariant "a{sv}" = some .dictionary by decide) rfl (puts_dict fills)

end ConnmanUi
