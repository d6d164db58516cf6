import ConnmanUi.Pool

/-!
Objects kept under their D-Bus path (`lib/service.c`, `lib/technology.c`).

The service and the technology module share one way of keeping objects: a hash
table of `struct connman_service` or `struct connman_technology` under their
path, a PropertyChanged watch for each, and for each property a slot for the
update timer, one for the error timer and one for the SetProperty call in
flight.  This module is that shared part, with the functions the two files
spell out twice; what differs is a parameter.

Objects are named by the order they were allocated in.  The storage of an
object that is not allocated, or has been freed, is blank: nothing is said
about reading it.  A `char *path` that aliases `object->path` is the object it
points into.
-/

namespace ConnmanUi

/-- The address of an allocated object. -/
abbrev ObjId := Nat

/-- A client callback with its user data. -/
abbrev Callback := Nat

def EINVAL : Int := 22
def ENOMEM : Int := 12

/-- An `enum` of updatable properties: the array bounds of the slots, and the
enumerator whose value is zero. -/
class PropertyIndex (ι : Type) where
  zero : ι
  all : List ι
  mem_all : ∀ i, i ∈ all
  nodup_all : all.Nodup

/-- `struct property_change`.  `name` is the property whose name string the
field holds. -/
structure PropertyChange (ι : Type) where
  index : ι
  path : ObjId
  name : ι
  error : Bool
  deriving DecidableEq

/-- What the modules attach to the main loop. -/
inductive Source (ι : Type) where
  | property (change : PropertyChange ι)
  | refresh
  deriving DecidableEq

/-- `struct property_setting`, of a SetProperty in flight.  `notify` is whether
`dbus_pending_call_set_notify` succeeded; without it nothing in the module runs
when the reply arrives. -/
structure PropertySetting (ι : Type) where
  data : ObjId
  index : ι
  notify : Bool
  deriving DecidableEq

/-- The slot a SetProperty in flight is recorded in. -/
def PropertySetting.slot {ι : Type} (set : PropertySetting ι) : Option (ObjId × ι) :=
  some (set.data, set.index)

/-- A Scan in flight, with the user data of its notify function. -/
structure ScanCall where
  technology : ObjId
  notify : Bool
  deriving DecidableEq

/-- How libdbus and the allocator answer a method call being sent: no message,
no `struct property_setting`, `dbus_connection_send_with_reply` returning
FALSE, TRUE with a NULL call, or `dbus_pending_call_set_notify` FALSE. -/
inductive SendOutcome where
  | sent
  | noMessage
  | noSetting
  | refused
  | noPending
  | noNotify
  deriving DecidableEq

/-- What happened, for the statements about callbacks: a signal changed a
property of an object with a callback registered, a timer fired while `reg` was
registered, a callback was invoked. -/
inductive Note (ι : Type) where
  | changed (o : ObjId) (i : ι)
  | fired (o : ObjId) (i : ι) (reg : Option Callback)
  | changedCb (cb : Callback) (path : String) (name : ι)
  | errorCb (cb : Callback) (path : String) (name : ι)
  | scanCb (cb : Callback)
  | removedCb (path : String)
  | addedCb (path : String)
  | refreshCb
  deriving DecidableEq

/-- The fields `struct connman_service` and `struct connman_technology` share,
and the technologies' scan; `rest` is what else is particular to one of them. -/
structure Object (ι ρ : Type) where
  path : String
  rest : ρ
  /-- `update_index`, `none` for the `_MAX` value. -/
  updateIndex : Option ι
  propertyChangedWid : Nat := 0
  toUpdate : ι → Nat := fun _ => 0
  propertyChangedCb : Option Callback := none
  callModify : ι → Nat := fun _ => 0
  toError : ι → Nat := fun _ => 0
  propertySetErrorCb : Option Callback := none
  scanCb : Option Callback := none
  scanCall : Nat := 0

/-- `g_try_malloc0`: all zero. -/
def Object.blank {ι ρ : Type} [PropertyIndex ι] [Inhabited ρ] : Object ι ρ where
  path := ""
  rest := default
  updateIndex := some PropertyIndex.zero

/-- A module's objects, with the main loop, the connection and the bus as the
module uses them. -/
structure Registry (ι ρ : Type) where
  heap : ObjId → Object ι ρ
  /-- How many objects have been allocated. -/
  next : ObjId := 0
  /-- The objects freed, newest first. -/
  freed : List ObjId := []
  /-- Those of them the table or the selection still held. -/
  early : List ObjId := []
  /-- The hash table. -/
  table : List (String × ObjId) := []
  /-- `selected_service`; the technology module has none. -/
  selected : Option ObjId := none
  sources : Pool (Source ι)
  calls : Pool (PropertySetting ι)
  scans : Pool ScanCall
  watches : Pool ObjId
  /-- `to_refresh`; the technology module has none. -/
  toRefresh : Nat := 0
  /-- The property timer whose callback is running. -/
  dispatching : Option (Nat × PropertyChange ι) := none
  /-- Ids given to `g_source_remove` that named no source. -/
  stray : List Nat := []
  /-- What happened, newest first. -/
  log : List (Note ι) := []

namespace Registry

variable {ι ρ : Type} [DecidableEq ι] [PropertyIndex ι] [Inhabited ρ] {r r' : Registry ι ρ}
  {o o' : ObjId} {i : ι} {path : String}

/-- Nothing allocated, nothing pending. -/
def empty (sources calls scans watches : HandleSupply) : Registry ι ρ where
  heap _ := Object.blank
  sources := { supply := sources }
  calls := { supply := calls }
  scans := { supply := scans }
  watches := { supply := watches }

/-- Allocated and not freed. -/
def Live (r : Registry ι ρ) (o : ObjId) : Prop := o < r.next ∧ o ∉ r.freed

instance : Decidable (r.Live o) := inferInstanceAs (Decidable (_ ∧ _))

def modify (r : Registry ι ρ) (o : ObjId) (f : Object ι ρ → Object ι ρ) : Registry ι ρ :=
  { r with heap := Function.update r.heap o (f (r.heap o)) }

def note (r : Registry ι ρ) (n : Note ι) : Registry ι ρ := { r with log := n :: r.log }

/-- `get_service`, and with nothing selected `get_technology`. -/
def get (r : Registry ι ρ) (path : String) : Option ObjId :=
  match r.table.lookup path with
  | some o => some o
  | none =>
    match r.selected with
    | some o => if (r.heap o).path = path then some o else none
    | none => none

/-! ## Timers -/

/-- `destroy_property`. -/
def destroyProperty (r : Registry ι ρ) (c : PropertyChange ι) : Registry ι ρ :=
  match r.get (r.heap c.path).path with
  | none => r
  | some o =>
    if c.error then
      r.modify o fun obj => { obj with toError := Function.update obj.toError c.index 0 }
    else r.modify o fun obj => { obj with toUpdate := Function.update obj.toUpdate c.index 0 }

/-- The destroy function a source was attached with. -/
def destroyNotify (r : Registry ι ρ) : Source ι → Registry ι ρ
  | .property c => r.destroyProperty c
  | .refresh => r

/-- `g_source_remove`. -/
def sourceRemove (r : Registry ι ρ) (id : Nat) : Registry ι ρ :=
  match r.sources.find id with
  | none => { r with stray := id :: r.stray }
  | some source => destroyNotify { r with sources := r.sources.detach id } source

/-- `property_changed_or_error`.  `global` is the callback the technology
module invokes before the object's own. -/
def propertyChangedOrError (global : Option Callback) (r : Registry ι ρ) (c : PropertyChange ι) :
    Registry ι ρ :=
  let path := (r.heap c.path).path
  match r.get path with
  | none => r
  | some o =>
    if c.error then
      match (r.heap o).propertySetErrorCb with
      | none => r
      | some cb => r.note (.errorCb cb path c.name)
    else
      let r := match global with
        | none => r
        | some cb => r.note (.changedCb cb path c.name)
      match (r.heap o).propertyChangedCb with
      | none => r
      | some cb => r.note (.changedCb cb path c.name)

/-- A timer is attached for a property change and stored in the update or the
error slot of `slot`. -/
def attachChange (r : Registry ι ρ) (c : PropertyChange ι) (slot : ι) : Registry ι ρ :=
  let id := r.sources.fresh
  let r := { r with sources := r.sources.attach (.property c) }
  if c.error then
    r.modify c.path fun obj => { obj with toError := Function.update obj.toError slot id }
  else r.modify c.path fun obj => { obj with toUpdate := Function.update obj.toUpdate slot id }

/-- `property_update`. -/
def propertyUpdate (r : Registry ι ρ) (o : ObjId) (i : ι) : Registry ι ρ :=
  match (r.heap o).propertyChangedCb with
  | none => r
  | some _ =>
    let r := if (r.heap o).toUpdate i ≠ 0 then r.sourceRemove ((r.heap o).toUpdate i) else r
    r.attachChange { index := i, path := o, name := i, error := false } i

/-- A property timer is due: its callback runs. -/
def timerRun (global : Option Callback) (r : Registry ι ρ) (id : Nat) : Option (Registry ι ρ) :=
  match r.sources.find id with
  | some (.property c) =>
    let r := { r with dispatching := some (id, c) }
    let r := if c.error then r else r.note (.fired c.path c.index (r.heap c.path).propertyChangedCb)
    some (propertyChangedOrError global r c)
  | _ => none

/-- The callback has returned FALSE: the main loop destroys the source, unless
it was removed meanwhile. -/
def timerDone (r : Registry ι ρ) : Option (Registry ι ρ) :=
  match r.dispatching with
  | some (id, c) =>
    let r := { r with dispatching := none }
    some (if r.sources.find id = some (.property c) then r.sourceRemove id else r)
  | none => none

/-- The part of `call_refresh_callback` that replaces the timer. -/
def scheduleRefresh (r : Registry ι ρ) : Registry ι ρ :=
  let r := if r.toRefresh ≠ 0 then r.sourceRemove r.toRefresh else r
  { r with sources := r.sources.attach .refresh, toRefresh := r.sources.fresh }

/-- The refresh timer has run; nothing clears `to_refresh`. -/
def refreshDone (r : Registry ι ρ) (id : Nat) : Registry ι ρ :=
  { r with sources := r.sources.detach id }

/-! ## SetProperty calls -/

/-- The sending part of `set_service_property` and `set_technology_property`;
`dbus_connection_send_with_reply` clears the slot before it can fail. -/
def sendSetProperty (r : Registry ι ρ) (o : ObjId) (i : ι) (outcome : SendOutcome) :
    Registry ι ρ × Int :=
  if (r.heap o).callModify i ≠ 0 then (r, -EINVAL)
  else
    let store (r : Registry ι ρ) (id : Nat) := r.modify o fun obj =>
      { obj with callModify := Function.update obj.callModify i id }
    match outcome with
    | .noMessage => (r, -ENOMEM)
    | .noSetting => (r, -ENOMEM)
    | .refused => (store r 0, -EINVAL)
    | .noPending => (store r 0, -EINVAL)
    | .noNotify =>
      (store { r with calls := r.calls.attach ⟨o, i, false⟩ } r.calls.fresh, -EINVAL)
    | .sent => (store { r with calls := r.calls.attach ⟨o, i, true⟩ } r.calls.fresh, 0)

/-- `set_property_cb`: the slot of the call is emptied, and an error reply
attaches an error timer.  Its `property_change` is all zero but for the path,
the name and the error, so its index is the zero enumerator. -/
def setPropertyCb (r : Registry ι ρ) (o : ObjId) (i : ι) (failed : Bool) : Registry ι ρ :=
  let r := r.modify o fun obj => { obj with callModify := Function.update obj.callModify i 0 }
  match (r.heap o).propertySetErrorCb with
  | none => r
  | some _ =>
    if failed then
      let r := if (r.heap o).toError i ≠ 0 then r.sourceRemove ((r.heap o).toError i) else r
      r.attachChange { index := PropertyIndex.zero, path := o, name := i, error := true } i
    else r

/-- The reply to a SetProperty arrives. -/
def setPropertyReply (r : Registry ι ρ) (call : Nat) (failed : Bool) : Option (Registry ι ρ) :=
  match r.calls.find call with
  | some ⟨o, i, true⟩ => some (setPropertyCb { r with calls := r.calls.detach call } o i failed)
  | _ => none

/-! ## Scans -/

/-- The sending part of `connman_technology_scan`, which stores the callback
first and takes it back when it fails. -/
def sendScan (r : Registry ι ρ) (o : ObjId) (callback : Option Callback) (outcome : SendOutcome) :
    Registry ι ρ × Int :=
  let store (r : Registry ι ρ) (id : Nat) (callback : Option Callback) := r.modify o fun obj =>
    { obj with scanCb := callback, scanCall := id }
  match outcome with
  | .noMessage => (r, -ENOMEM)
  | .refused => (store r 0 none, -EINVAL)
  | .noPending => (store r 0 none, -EINVAL)
  | .noNotify => (store { r with scans := r.scans.attach ⟨o, false⟩ } r.scans.fresh none, -EINVAL)
  | _ => (store { r with scans := r.scans.attach ⟨o, true⟩ } r.scans.fresh callback, 0)

/-- The reply to a Scan arrives: `scan_callback`. -/
def scanCallback (r : Registry ι ρ) (call : Nat) : Option (Registry ι ρ) :=
  match r.scans.find call with
  | some ⟨o, true⟩ =>
    let r := { r with scans := r.scans.detach call }
    let r := r.modify o fun obj => { obj with scanCall := 0 }
    match (r.heap o).scanCb with
    | none => some r
    | some cb => some (r.note (.scanCb cb))
  | _ => none

/-! ## Selecting, creating and freeing objects -/

/-- `connman_service_select` on the object found. -/
def select (r : Registry ι ρ) (o : ObjId) : Registry ι ρ := { r with selected := some o }

/-- A new object under `path`, entered in the table, with its watch. -/
def create (r : Registry ι ρ) (path : String) : Registry ι ρ :=
  { r with
    heap := Function.update r.heap r.next
      { Object.blank with path := path, propertyChangedWid := r.watches.fresh }
    next := r.next + 1
    table := (path, r.next) :: r.table
    watches := r.watches.attach r.next }

/-- One round of the loop in `service_free` and `technology_free`. -/
def freeSlot (o : ObjId) (r : Registry ι ρ) (i : ι) : Registry ι ρ :=
  let r := if (r.heap o).toUpdate i ≠ 0 then r.sourceRemove ((r.heap o).toUpdate i) else r
  let r := if (r.heap o).callModify i ≠ 0 then
      { r with calls := r.calls.detach ((r.heap o).callModify i) } else r
  if (r.heap o).toError i ≠ 0 then r.sourceRemove ((r.heap o).toError i) else r

/-- The watch and the loop. -/
def freeSlots (r : Registry ι ρ) (o : ObjId) : Registry ι ρ :=
  let r := if (r.heap o).propertyChangedWid ≠ 0 then
      { r with watches := r.watches.detach (r.heap o).propertyChangedWid } else r
  PropertyIndex.all.foldl (freeSlot o) r

/-- The `g_free` of an object and its strings. -/
def storageFree (r : Registry ι ρ) (o : ObjId) : Registry ι ρ :=
  { r with
    heap := Function.update r.heap o Object.blank
    freed := o :: r.freed
    early := if r.selected = some o ∨ o ∈ r.table.map Prod.snd then o :: r.early else r.early }

/-- The scan call recorded is cancelled. -/
def cancelScan (r : Registry ι ρ) (o : ObjId) : Registry ι ρ :=
  if (r.heap o).scanCall ≠ 0 then { r with scans := r.scans.detach (r.heap o).scanCall } else r

/-- Everything an object holds of the bus, the connection and the main loop is
given back. -/
def releaseHandles (r : Registry ι ρ) (o : ObjId) : Registry ι ρ := (r.freeSlots o).cancelScan o

/-- `service_free`, which leaves the selected service alone, and
`technology_free`, which has a scan to cancel: a technology is never selected
and a service never scans. -/
def objectFree (r : Registry ι ρ) (o : ObjId) : Registry ι ρ :=
  if r.selected = some o then r else (r.releaseHandles o).storageFree o

/-- `connman_service_deselect`: what was selected is freed, unless it is still
found under its path. -/
def deselect (r : Registry ι ρ) : Registry ι ρ :=
  match r.selected with
  | none => r
  | some o =>
    let r := { r with selected := none }
    match r.get (r.heap o).path with
    | none => r.objectFree o
    | some _ => r

/-- `g_hash_table_remove`, with the value's destroy function. -/
def hashRemove (free : Registry ι ρ → ObjId → Registry ι ρ) (r : Registry ι ρ) (path : String) :
    Registry ι ρ :=
  match r.table.lookup path with
  | none => r
  | some o => free { r with table := r.table.filter (·.1 ≠ path) } o

/-- `g_hash_table_remove_all`: the table is emptied, then its values are
destroyed. -/
def hashRemoveAll (free : Registry ι ρ → ObjId → Registry ι ρ) (r : Registry ι ρ) : Registry ι ρ :=
  r.table.foldl (fun r entry => free r entry.2) { r with table := [] }

end Registry

end ConnmanUi
