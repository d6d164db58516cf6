/-!
Values in messages (`lib/dbus.c`).

The readers write through a pointer and leave the destination alone where the
value has another type, so each takes what the destination held.
-/

namespace ConnmanUi

/-- What a variant holds, dictionaries apart. -/
inductive Variant where
  | string (s : String)
  | boolean (b : Bool)
  | byte (n : UInt8)
  | uint16 (n : UInt16)
  | strings (l : List String)
  deriving DecidableEq

/-- The value of a property. -/
inductive Value where
  | variant (v : Variant)
  | dict (entries : List (String × Variant))
  deriving DecidableEq

/-- A dictionary of properties. -/
abbrev Dict := List (String × Value)

/-- `cui_dbus_get_basic_variant` for a string; `destination` is what the
destination held. -/
def Value.getString (destination : Option String) : Value → Option String
  | .variant (.string s) => some s
  | _ => destination

def Value.getBoolean (destination : Bool) : Value → Bool
  | .variant (.boolean b) => b
  | _ => destination

def Value.getByte (destination : UInt8) : Value → UInt8
  | .variant (.byte n) => n
  | _ => destination

/-- `cui_dbus_get_array` for strings; no elements give a NULL array, and so
does an array that cannot be read. -/
def Variant.getArray : Variant → List String
  | .strings l => l
  | _ => []

def Value.getArray : Value → List String
  | .variant v => v.getArray
  | .dict _ => []

/-- `g_strjoinv(";", array)`, NULL for a NULL array. -/
def joinv : List String → Option String
  | [] => none
  | l => some (";".intercalate l)

/-- The entries `cui_dbus_foreach_dict_entry` finds in a variant. -/
def Value.entries : Value → List (String × Variant)
  | .variant _ => []
  | .dict entries => entries

/-- `cui_dbus_get_dict_entry`: the first entry whose name begins with the key,
the comparison being `strncmp` to the key's length. -/
def getDictEntry (dict : List (String × Variant)) (key : String) : Option Variant :=
  (dict.find? fun entry => key.toList.isPrefixOf entry.1.toList).map (·.2)

/-- `cui_dbus_get_dict_entry_basic` for a string: whether there is an entry,
and what the destination holds afterwards. -/
def getDictString (dict : List (String × Variant)) (key : String) (destination : Option String) :
    Bool × Option String :=
  match getDictEntry dict key with
  | none => (false, destination)
  | some (.string s) => (true, some s)
  | some _ => (true, destination)

def getDictBoolean (dict : List (String × Variant)) (key : String) (destination : Bool) :
    Bool × Bool :=
  match getDictEntry dict key with
  | none => (false, destination)
  | some (.boolean b) => (true, b)
  | some _ => (true, destination)

def getDictUint16 (dict : List (String × Variant)) (key : String) (destination : UInt16) :
    Bool × UInt16 :=
  match getDictEntry dict key with
  | none => (false, destination)
  | some (.uint16 n) => (true, n)
  | some _ => (true, destination)

/-- `cui_dbus_get_dict_entry_array` for strings. -/
def getDictArray (dict : List (String × Variant)) (key : String) : Option (List String) :=
  (getDictEntry dict key).map Variant.getArray

end ConnmanUi
