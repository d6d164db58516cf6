import ConnmanUi.Message
import ConnmanUi.Registry
import ConnmanUi.Run

/-!
The technology module (`lib/technology.c`) with the manager's technology part
(`lib/manager.c`).

A step is a call of the client, or a message or timer the main loop hands to
the module.  While a property timer's callback runs only the client acts.  The
calls libdbus makes for the manager are taken to succeed; those of a
SetProperty or a Scan may fail in every way they can.
-/

namespace ConnmanUi.Technology

open Registry

/-- `enum connman_technology_property`. -/
inductive Property where
  | powered
  | connected
  | tethering
  | tetheringIdentifier
  | tetheringPassphrase
  deriving DecidableEq

instance : PropertyIndex Property where
  zero := .powered
  all := [.powered, .connected, .tethering, .tetheringIdentifier, .tetheringPassphrase]
  mem_all i := by cases i <;> decide
  nodup_all := by decide

/-- `Technology_updatable_properties`. -/
def Property.ofName : String → Option Property
  | "Powered" => some .powered
  | "Connected" => some .connected
  | "Tethering" => some .tethering
  | "TetheringIdentifier" => some .tetheringIdentifier
  | "TetheringPassphrase" => some .tetheringPassphrase
  | _ => none

/-- The members of `struct connman_technology` that hold properties. -/
structure Record where
  name : Option String := none
  type : Option String := none
  powered : Bool := false
  connected : Bool := false
  tethering : Bool := false
  tetheringIdentifier : Option String := none
  tetheringPassphrase : Option String := none
  deriving DecidableEq, Inhabited

/-- `struct connman_technology_interface` and the manager's technology part. -/
structure State where
  reg : Registry Property Record
  /-- `tech_if` is not NULL. -/
  up : Bool := false
  set : Bool := false
  propertyChangedCb : Option Callback := none
  addedCb : Option Callback := none
  removedCb : Option Callback := none
  /-- `manager->get_technologies_call`, by its number among the calls sent. -/
  getTechnologiesCall : Option Nat := none
  /-- How many GetTechnologies calls have been sent. -/
  sent : Nat := 0
  /-- The manager's TechnologyAdded and TechnologyRemoved watches. -/
  technologySignals : Bool := false

/-- The arguments of a GetTechnologies reply. -/
inductive TechnologiesReply where
  | technologies (technologies : List (String × Dict))
  | notArray
  | noArguments

/-- The argument of a function that sets a property. -/
inductive Setting where
  | enable (enable : Bool)
  | tether (tethering : Bool)
  | tetheringIdentifier (identifier : String)
  | tetheringPassphrase (passphrase : String)

section Handlers

variable (uninit : Option String) (s : State)

/-! ## The manager -/

/-- `__connman_manager_get_technologies`: the call in flight is cancelled. -/
def connmanManagerGetTechnologies : State :=
  { s with getTechnologiesCall := some s.sent, sent := s.sent + 1 }

/-- `__connman_manager_register_technology_signals`, with callbacks or with
NULL. -/
def connmanManagerRegisterTechnologySignals (cb : Bool) : State := { s with technologySignals := cb }

/-! ## Technologies and their properties -/

/-- What `update_technology_property` stores; `uninit` is what its local holds
before it is written. -/
def storeProperty (obj : Object Property Record) (name : String) (arg : Value) :
    Object Property Record :=
  match name with
  | "Name" => { obj with rest := { obj.rest with name := arg.getString uninit } }
  | "Type" => { obj with rest := { obj.rest with type := arg.getString uninit } }
  | "Powered" =>
    { obj with
      rest := { obj.rest with powered := arg.getBoolean obj.rest.powered }
      updateIndex := some .powered }
  | "Connected" =>
    { obj with
      rest := { obj.rest with connected := arg.getBoolean obj.rest.connected }
      updateIndex := some .connected }
  | "Tethering" =>
    { obj with
      rest := { obj.rest with tethering := arg.getBoolean obj.rest.tethering }
      updateIndex := some .tethering }
  | "TetheringIdentifier" =>
    { obj with
      rest := { obj.rest with tetheringIdentifier := arg.getString uninit }
      updateIndex := some .tetheringIdentifier }
  | "TetheringPassphrase" =>
    { obj with
      rest := { obj.rest with tetheringPassphrase := arg.getString uninit }
      updateIndex := some .tetheringPassphrase }
  | _ => obj

/-- `update_technology_property`.  Only a PropertyChanged signal resets
`update_index` first; an entry of a dictionary that stores nothing updatable
passes on the property stored last. -/
def updateTechnologyProperty (o : ObjId) (entry : String × Value) : State :=
  let s := { s with reg := s.reg.modify o fun obj => storeProperty uninit obj entry.1 entry.2 }
  match (s.reg.heap o).updateIndex with
  | some i => { s with reg := s.reg.propertyUpdate o i }
  | none => s

/-- `property_changed_signal_cb`. -/
def propertyChangedSignalCb (o : ObjId) (name : String) (value : Value) : State :=
  let s := { s with reg := s.reg.modify o fun obj => { obj with updateIndex := none } }
  updateTechnologyProperty uninit s o (name, value)

/-- The technology `update_or_create_technology` works on. -/
def getOrCreate (path : String) : State × ObjId :=
  match s.reg.get path with
  | some o => (s, o)
  | none => ({ s with reg := s.reg.create path }, s.reg.next)

/-- `update_or_create_technology`. -/
def updateOrCreateTechnology (technology : String × Dict) : State :=
  if s.up then
    let found := getOrCreate s technology.1
    technology.2.foldl (fun s entry => updateTechnologyProperty uninit s found.2 entry) found.1
  else s

/-- `tech_if->added_cb` is called, if there is one. -/
def callAddedCb (path : String) : State :=
  match s.addedCb with
  | none => s
  | some _ => { s with reg := s.reg.note (.addedCb path) }

/-- `tech_if->removed_cb` is called, if there is one. -/
def callRemovedCb (path : String) : State :=
  match s.removedCb with
  | none => s
  | some _ => { s with reg := s.reg.note (.removedCb path) }

/-- `technology_added_cb`. -/
def technologyAddedCb (technology : String × Dict) : State :=
  let s := callAddedCb (updateOrCreateTechnology uninit s technology) technology.1
  if s.set then connmanManagerGetTechnologies s else s

/-- `technology_removed_cb`. -/
def technologyRemovedCb (path : String) : State :=
  let s := callRemovedCb s path
  { s with reg := s.reg.hashRemove objectFree path }

/-- `get_technologies_cb`. -/
def getTechnologiesCb (reply : TechnologiesReply) : State :=
  if s.up then
    match reply with
    | .technologies technologies =>
      let s := technologies.foldl (updateOrCreateTechnology uninit) s
      if s.set then s
      else
        let s := connmanManagerRegisterTechnologySignals s true
        connmanManagerGetTechnologies { s with set := true }
    | _ => s
  else s

/-- `get_technologies_callback` of the manager. -/
def getTechnologiesCallback (reply : TechnologiesReply) : State :=
  let s := { s with getTechnologiesCall := none }
  match reply with
  | .noArguments => s
  | _ => getTechnologiesCb uninit s reply

/-! ## The functions the client calls -/

/-- `connman_technology_init`. -/
def connmanTechnologyInit : State :=
  if s.up then s else connmanManagerGetTechnologies { s with up := true }

/-- `connman_technology_finalize`. -/
def connmanTechnologyFinalize : State :=
  if s.up then
    let s := connmanManagerRegisterTechnologySignals s false
    { s with
      reg := s.reg.hashRemoveAll objectFree
      up := false
      set := false
      propertyChangedCb := none
      addedCb := none
      removedCb := none }
  else s

/-- `connman_technology_set_global_property_callback`. -/
def connmanTechnologySetGlobalPropertyCallback (cb : Option Callback) : State :=
  if s.up then { s with propertyChangedCb := cb } else s

/-- `connman_technology_set_property_changed_callback`. -/
def connmanTechnologySetPropertyChangedCallback (path : String) (cb : Option Callback) : State :=
  match s.reg.get path with
  | none => s
  | some o => { s with reg := s.reg.modify o fun obj => { obj with propertyChangedCb := cb } }

/-- `connman_technology_set_property_error_callback`. -/
def connmanTechnologySetPropertyErrorCallback (path : String) (cb : Option Callback) : State :=
  match s.reg.get path with
  | none => s
  | some o => { s with reg := s.reg.modify o fun obj => { obj with propertySetErrorCb := cb } }

/-- `connman_technology_set_removed_callback`. -/
def connmanTechnologySetRemovedCallback (cb : Option Callback) : State :=
  if s.up then { s with removedCb := cb } else s

/-- `connman_technology_set_added_callback`. -/
def connmanTechnologySetAddedCallback (cb : Option Callback) : State :=
  if s.up then { s with addedCb := cb } else s

/-- `connman_technology_get_technologies`. -/
def connmanTechnologyGetTechnologies : List String := s.reg.table.map Prod.fst

/-- `connman_technology_scan`. -/
def connmanTechnologyScan (path : String) (callback : Option Callback) (outcome : SendOutcome) :
    State × Int :=
  match s.reg.get path with
  | none => (s, -EINVAL)
  | some o =>
    let sent := s.reg.sendScan o callback outcome
    ({ s with reg := sent.1 }, sent.2)

/-- `set_technology_property`. -/
def setTechnologyProperty (o : ObjId) (i : Property) (outcome : SendOutcome) : State × Int :=
  let sent := s.reg.sendSetProperty o i outcome
  ({ s with reg := sent.1 }, sent.2)

/-- `connman_technology_enable`. -/
def connmanTechnologyEnable (path : String) (enable : Bool) (outcome : SendOutcome) : State × Int :=
  match s.reg.get path with
  | none => (s, -EINVAL)
  | some o =>
    if (s.reg.heap o).rest.powered = enable then (s, 0)
    else setTechnologyProperty s o .powered outcome

/-- `connman_technology_tether`. -/
def connmanTechnologyTether (path : String) (tethering : Bool) (outcome : SendOutcome) : State × Int :=
  match s.reg.get path with
  | none => (s, -EINVAL)
  | some o =>
    if (s.reg.heap o).rest.tethering = tethering then (s, 0)
    else setTechnologyProperty s o .tethering outcome

/-- `connman_technology_set_tethering_identifier`. -/
def connmanTechnologySetTetheringIdentifier (path : String) (outcome : SendOutcome) : State × Int :=
  match s.reg.get path with
  | none => (s, -EINVAL)
  | some o => setTechnologyProperty s o .tetheringIdentifier outcome

/-- `connman_technology_set_tethering_passphrase`. -/
def connmanTechnologySetTetheringPassphrase (path : String) (outcome : SendOutcome) : State × Int :=
  match s.reg.get path with
  | none => (s, -EINVAL)
  | some o => setTechnologyProperty s o .tetheringPassphrase outcome

/-- The functions that set a property. -/
def connmanTechnologySet (path : String) (setting : Setting) (outcome : SendOutcome) : State × Int :=
  match setting with
  | .enable enable => connmanTechnologyEnable s path enable outcome
  | .tether tethering => connmanTechnologyTether s path tethering outcome
  | .tetheringIdentifier _ => connmanTechnologySetTetheringIdentifier s path outcome
  | .tetheringPassphrase _ => connmanTechnologySetTetheringPassphrase s path outcome

end Handlers

/-! ## Steps -/

inductive Event where
  | init
  | finalize
  | setGlobalPropertyCallback (cb : Option Callback)
  | setPropertyChangedCallback (path : String) (cb : Option Callback)
  | setPropertyErrorCallback (path : String) (cb : Option Callback)
  | setRemovedCallback (cb : Option Callback)
  | setAddedCallback (cb : Option Callback)
  | scan (path : String) (callback : Option Callback) (outcome : SendOutcome)
  | set (path : String) (setting : Setting) (outcome : SendOutcome)
  | timerDone
  | technologyAdded (uninit : Option String) (technology : String × Dict)
  | technologyRemoved (path : String)
  | getTechnologiesReply (call : Nat) (uninit : Option String) (reply : TechnologiesReply)
  | propertyChanged (wid : Nat) (uninit : Option String) (name : String) (value : Value)
  | setPropertyReply (call : Nat) (failed : Bool)
  | scanReply (call : Nat)
  | timer (id : Nat)

/-- A PropertyChanged signal that changes an updatable property of an object
with a callback is noted. -/
def noteChanged (r : Registry Property Record) (o : ObjId) (name : String) :
    Registry Property Record :=
  match Property.ofName name, (r.heap o).propertyChangedCb with
  | some i, some _ => r.note (.changed o i)
  | _, _ => r

/-- What the main loop hands to the module. -/
def dispatch (s : State) : Event → Option State
  | .technologyAdded uninit technology =>
    if s.technologySignals then some (technologyAddedCb uninit s technology) else none
  | .technologyRemoved path =>
    if s.technologySignals then some (technologyRemovedCb s path) else none
  | .getTechnologiesReply call uninit reply =>
    if s.getTechnologiesCall = some call then some (getTechnologiesCallback uninit s reply) else none
  | .propertyChanged wid uninit name value =>
    (s.reg.watches.find wid).map fun o =>
      propertyChangedSignalCb uninit { s with reg := noteChanged s.reg o name } o name value
  | .setPropertyReply call failed =>
    (s.reg.setPropertyReply call failed).map fun reg => { s with reg := reg }
  | .scanReply call => (s.reg.scanCallback call).map fun reg => { s with reg := reg }
  | .timer id => (s.reg.timerRun s.propertyChangedCb id).map fun reg => { s with reg := reg }
  | _ => none

/-- One step. -/
def step (s : State) : Event → Option State
  | .init => some (connmanTechnologyInit s)
  | .finalize => some (connmanTechnologyFinalize s)
  | .setGlobalPropertyCallback cb => some (connmanTechnologySetGlobalPropertyCallback s cb)
  | .setPropertyChangedCallback path cb => some (connmanTechnologySetPropertyChangedCallback s path cb)
  | .setPropertyErrorCallback path cb => some (connmanTechnologySetPropertyErrorCallback s path cb)
  | .setRemovedCallback cb => some (connmanTechnologySetRemovedCallback s cb)
  | .setAddedCallback cb => some (connmanTechnologySetAddedCallback s cb)
  | .scan path callback outcome => some (connmanTechnologyScan s path callback outcome).1
  | .set path setting outcome => some (connmanTechnologySet s path setting outcome).1
  | .timerDone => s.reg.timerDone.map fun reg => { s with reg := reg }
  | e => if s.reg.dispatching = none then dispatch s e else none

/-- The state the program starts in. -/
def Boot (s : State) : Prop :=
  ∃ sources calls scans watches : HandleSupply,
    s = { reg := Registry.empty sources calls scans watches }

end ConnmanUi.Technology
