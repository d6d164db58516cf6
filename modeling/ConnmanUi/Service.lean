import ConnmanUi.ServiceRecord
import ConnmanUi.Run

/-!
The service module (`lib/service.c`) with the manager's service part
(`lib/manager.c`).

A step is a call of the client, or a message or timer the main loop hands to
the module.  While a property timer's callback runs only the client acts.  The
calls libdbus makes for the manager are taken to succeed; those of a
SetProperty may fail in every way they can.
-/

namespace ConnmanUi.Service

open Registry

/-- `struct connman_service_interface` and the manager's service part. -/
structure State where
  reg : Registry Property Record
  /-- `service_if` is not NULL. -/
  up : Bool := false
  refreshed : Bool := false
  /-- `ordered_services`: an element points to the path of the object named. -/
  ordered : List ObjId := []
  removedCb : Option Callback := none
  refreshServicesCb : Option Callback := none
  scanServicesCb : Option Callback := none
  /-- `manager->get_services_call`, by its number among the calls sent. -/
  getServicesCall : Option Nat := none
  /-- How many GetServices calls have been sent. -/
  sent : Nat := 0
  /-- The manager's ServicesChanged watch. -/
  servicesChanged : Bool := false

/-- The arguments of a GetServices reply. -/
inductive ServicesReply where
  | services (services : List (String × Dict))
  | notArray
  | noArguments

/-- What `connman_technology_get_technologies` and `connman_technology_is_enabled`
say when the list is refreshed. -/
inductive Wifi where
  | noTechnologies
  | unpowered
  | powered

/-- The argument of a `connman_service_set_*` function. -/
inductive Setting where
  | autoconnectable (enable : Bool)
  | ipv4Config (config : Option ConnmanIpv4)
  | ipv6Config (config : Option ConnmanIpv6)
  | proxyConfig (config : Option ConnmanProxy)
  | nameserversConfig (config : Option String)
  | domainsConfig (config : Option String)
  | timeserversConfig (config : Option String)

section Handlers

variable (uninit : Uninit) (s : State)

/-! ## The manager -/

/-- `__connman_manager_get_services`: the call in flight is cancelled. -/
def connmanManagerGetServices : State :=
  { s with getServicesCall := some s.sent, sent := s.sent + 1 }

/-- `__connman_manager_register_service_signal`, with a callback or with NULL. -/
def connmanManagerRegisterServiceSignal (cb : Bool) : State := { s with servicesChanged := cb }

/-! ## Services and their properties -/

/-- `update_service_property` on a service of the module. -/
def updateProperty (o : ObjId) (entry : String × Value) : State :=
  { s with reg := s.reg.modify o fun obj => updateServiceProperty uninit obj entry.1 entry.2 }

/-- The service `update_or_create_service` works on. -/
def getOrCreate (path : String) : State × ObjId :=
  match s.reg.get path with
  | some o => (s, o)
  | none => ({ s with reg := s.reg.create path }, s.reg.next)

/-- `update_or_create_service`. -/
def updateOrCreateService (service : String × Dict) : State :=
  let found := getOrCreate s service.1
  let s := { found.1 with ordered := found.1.ordered ++ [found.2] }
  service.2.foldl (fun s entry => updateProperty uninit s found.2 entry) s

/-- `property_changed_signal_cb`. -/
def propertyChangedSignalCb (o : ObjId) (name : String) (value : Value) : State :=
  let s := { s with reg := s.reg.modify o fun obj => { obj with updateIndex := none } }
  let s := updateProperty uninit s o (name, value)
  match (s.reg.heap o).updateIndex with
  | some i => { s with reg := s.reg.propertyUpdate o i }
  | none => s

/-- `call_refresh_callback`. -/
def callRefreshCallback : State :=
  match s.refreshServicesCb with
  | none => s
  | some _ => { s with reg := s.reg.scheduleRefresh }

/-- One round of the second loop of `service_changed_signal_cb`. -/
def removeService (path : String) : State :=
  match s.reg.get path with
  | none => s
  | some _ =>
    let reg := s.reg.hashRemove objectFree path
    match s.removedCb with
    | none => { s with reg := reg }
    | some _ => { s with reg := reg.note (.removedCb path) }

/-- `service_changed_signal_cb`. -/
def serviceChangedSignalCb (changed : List (String × Dict)) (removed : List String) : State :=
  if s.up then
    let s := { s with ordered := [] }
    let s := changed.foldl (updateOrCreateService uninit) s
    let s := removed.foldl removeService s
    if s.refreshed then callRefreshCallback s else s
  else s

/-- `get_services_cb`. -/
def getServicesCb (reply : ServicesReply) : State :=
  if s.up then
    let s := { s with ordered := [] }
    match reply with
    | .services services =>
      let s := services.foldl (updateOrCreateService uninit) s
      if s.refreshed then callRefreshCallback s
      else connmanManagerGetServices { s with refreshed := true }
    | _ => s
  else s

/-- `get_services_callback` of the manager. -/
def getServicesCallback (reply : ServicesReply) : State :=
  let s := { s with getServicesCall := none }
  match reply with
  | .noArguments => s
  | _ => getServicesCb uninit s reply

/-- `refresh_cb`, and the end of its timer. -/
def refreshCb (id : Nat) : State :=
  let reg := s.reg.refreshDone id
  match s.refreshServicesCb with
  | none => { s with reg := reg }
  | some _ => { s with reg := reg.note .refreshCb }

/-- `scan_services_cb`. -/
def scanServicesCb : State :=
  match s.scanServicesCb with
  | none => s
  | some cb => { s with reg := s.reg.note (.scanCb cb) }

/-! ## The functions the client calls -/

/-- `connman_service_init`. -/
def connmanServiceInit : State := { s with up := true }

/-- `connman_service_finalize`. -/
def connmanServiceFinalize : State :=
  if s.up then
    let s := connmanManagerRegisterServiceSignal s false
    let reg := s.reg.deselect.hashRemoveAll objectFree
    { s with
      reg := { reg with toRefresh := 0 }
      up := false
      refreshed := false
      ordered := []
      removedCb := none
      refreshServicesCb := none
      scanServicesCb := none }
  else s

/-- `connman_service_refresh_services_list`; the scan it starts is the
technology module's. -/
def connmanServiceRefreshServicesList (wifi : Wifi) (refreshCb scanCb : Option Callback) : State :=
  if s.up then
    let s := { s with refreshed := false }
    match wifi with
    | .noTechnologies => s
    | .unpowered =>
      let s := { s with refreshServicesCb := refreshCb, scanServicesCb := scanCb }
      let s := connmanManagerGetServices s
      scanServicesCb s
    | .powered =>
      let s := { s with refreshServicesCb := refreshCb, scanServicesCb := scanCb }
      let s := connmanManagerRegisterServiceSignal s true
      connmanManagerGetServices s
  else s

/-- `connman_service_get_services`. -/
def connmanServiceGetServices : List String := s.ordered.map fun o => (s.reg.heap o).path

/-- `connman_service_free_services_list`. -/
def connmanServiceFreeServicesList : State :=
  if s.up then
    let s := connmanManagerRegisterServiceSignal s false
    { s with ordered := [], reg := s.reg.hashRemoveAll objectFree }
  else s

/-- `connman_service_select`. -/
def connmanServiceSelect (path : String) : State :=
  match s.reg.get path with
  | none => s
  | some o => { s with reg := s.reg.select o }

/-- `connman_service_deselect`. -/
def connmanServiceDeselect : State := { s with reg := s.reg.deselect }

/-- `connman_service_set_property_changed_callback`. -/
def connmanServiceSetPropertyChangedCallback (path : String) (cb : Option Callback) : State :=
  match s.reg.get path with
  | none => s
  | some o => { s with reg := s.reg.modify o fun obj => { obj with propertyChangedCb := cb } }

/-- `connman_service_set_property_error_callback`. -/
def connmanServiceSetPropertyErrorCallback (path : String) (cb : Option Callback) : State :=
  match s.reg.get path with
  | none => s
  | some o => { s with reg := s.reg.modify o fun obj => { obj with propertySetErrorCb := cb } }

/-- `connman_service_set_removed_callback`. -/
def connmanServiceSetRemovedCallback (cb : Option Callback) : State :=
  if s.up then { s with removedCb := cb } else s

/-- `call_empty_method`, which sends Connect, Disconnect or Remove. -/
def callEmptyMethod (path : String) (outcome : SendOutcome) : Int :=
  match s.reg.get path with
  | none => -EINVAL
  | some _ =>
    match outcome with
    | .noMessage => -ENOMEM
    | .refused => -EINVAL
    | _ => 0

/-- `connman_service_connect`. -/
def connmanServiceConnect (path : String) (outcome : SendOutcome) : Int :=
  callEmptyMethod s path outcome

/-- `set_service_property`. -/
def setServiceProperty (o : ObjId) (i : Property) (outcome : SendOutcome) : State × Int :=
  let sent := s.reg.sendSetProperty o i outcome
  ({ s with reg := sent.1 }, sent.2)

/-- A `connman_service_set_*_config` for an address or proxy struct. -/
def setConfig {γ : Type} [DecidableEq γ] (path : String) (config : Option γ)
    (current : Record → Option γ) (i : Property) (outcome : SendOutcome) : State × Int :=
  match config with
  | none => (s, -EINVAL)
  | some config =>
    match s.reg.get path with
    | none => (s, -EINVAL)
    | some o =>
      if current (s.reg.heap o).rest = some config then (s, 0)
      else setServiceProperty s o i outcome

/-- A `connman_service_set_*_config` for a list of servers or domains, which
`g_strsplit` does not make of a NULL string. -/
def setListConfig (path : String) (config : Option String) (current : Record → Option String)
    (i : Property) (outcome : SendOutcome) : State × Int :=
  match s.reg.get path with
  | none => (s, -EINVAL)
  | some o =>
    if current (s.reg.heap o).rest = config then (s, 0)
    else match config with
      | none => (s, -ENOMEM)
      | some _ => setServiceProperty s o i outcome

/-- `connman_service_set_autoconnectable`. -/
def connmanServiceSetAutoconnectable (path : String) (outcome : SendOutcome) : State × Int :=
  match s.reg.get path with
  | none => (s, -EINVAL)
  | some o => setServiceProperty s o .autoconnect outcome

/-- The `connman_service_set_*` functions. -/
def connmanServiceSet (path : String) (setting : Setting) (outcome : SendOutcome) : State × Int :=
  match setting with
  | .autoconnectable _ => connmanServiceSetAutoconnectable s path outcome
  | .ipv4Config c => setConfig s path c (· (.updatable .ipv4Configuration)) .ipv4Configuration outcome
  | .ipv6Config c => setConfig s path c (· (.updatable .ipv6Configuration)) .ipv6Configuration outcome
  | .proxyConfig c => setConfig s path c (· (.updatable .proxyConfiguration)) .proxyConfiguration outcome
  | .nameserversConfig c =>
    setListConfig s path c (· (.updatable .nameserversConfiguration)) .nameserversConfiguration outcome
  | .domainsConfig c =>
    setListConfig s path c (· (.updatable .domainsConfiguration)) .domainsConfiguration outcome
  | .timeserversConfig c =>
    setListConfig s path c (· (.updatable .timeserversConfiguration)) .timeserversConfiguration outcome

end Handlers

/-! ## Steps -/

inductive Event where
  | init
  | finalize
  | refreshServicesList (wifi : Wifi) (refreshCb scanCb : Option Callback)
  | freeServicesList
  | select (path : String)
  | deselect
  | setPropertyChangedCallback (path : String) (cb : Option Callback)
  | setPropertyErrorCallback (path : String) (cb : Option Callback)
  | setRemovedCallback (cb : Option Callback)
  | set (path : String) (setting : Setting) (outcome : SendOutcome)
  | timerDone
  | servicesChanged (uninit : Uninit) (changed : List (String × Dict)) (removed : List String)
  | getServicesReply (call : Nat) (uninit : Uninit) (reply : ServicesReply)
  | propertyChanged (wid : Nat) (uninit : Uninit) (name : String) (value : Value)
  | setPropertyReply (call : Nat) (failed : Bool)
  | scanServices
  | timer (id : Nat)
  | refreshTimer (id : Nat)

/-- A PropertyChanged signal that changes an updatable property of an object
with a callback is noted. -/
def noteChanged (r : Registry Property Record) (o : ObjId) (name : String) :
    Registry Property Record :=
  match Key.ofName name, (r.heap o).propertyChangedCb with
  | some (.updatable i), some _ => r.note (.changed o i)
  | _, _ => r

/-- What the main loop hands to the module. -/
def dispatch (s : State) : Event → Option State
  | .servicesChanged uninit changed removed =>
    if s.servicesChanged then some (serviceChangedSignalCb uninit s changed removed) else none
  | .getServicesReply call uninit reply =>
    if s.getServicesCall = some call then some (getServicesCallback uninit s reply) else none
  | .propertyChanged wid uninit name value =>
    (s.reg.watches.find wid).map fun o =>
      propertyChangedSignalCb uninit { s with reg := noteChanged s.reg o name } o name value
  | .setPropertyReply call failed =>
    (s.reg.setPropertyReply call failed).map fun reg => { s with reg := reg }
  | .scanServices => some (scanServicesCb s)
  | .timer id => (s.reg.timerRun none id).map fun reg => { s with reg := reg }
  | .refreshTimer id =>
    if s.reg.sources.find id = some .refresh then some (refreshCb s id) else none
  | _ => none

/-- One step. -/
def step (s : State) : Event → Option State
  | .init => some (connmanServiceInit s)
  | .finalize => some (connmanServiceFinalize s)
  | .refreshServicesList wifi refreshCb scanCb =>
    some (connmanServiceRefreshServicesList s wifi refreshCb scanCb)
  | .freeServicesList => some (connmanServiceFreeServicesList s)
  | .select path => some (connmanServiceSelect s path)
  | .deselect => some (connmanServiceDeselect s)
  | .setPropertyChangedCallback path cb => some (connmanServiceSetPropertyChangedCallback s path cb)
  | .setPropertyErrorCallback path cb => some (connmanServiceSetPropertyErrorCallback s path cb)
  | .setRemovedCallback cb => some (connmanServiceSetRemovedCallback s cb)
  | .set path setting outcome => some (connmanServiceSet s path setting outcome).1
  | .timerDone => s.reg.timerDone.map fun reg => { s with reg := reg }
  | e => if s.reg.dispatching = none then dispatch s e else none

/-- The state the program starts in. -/
def Boot (s : State) : Prop :=
  ∃ sources calls scans watches : HandleSupply,
    s = { reg := Registry.empty sources calls scans watches }

end ConnmanUi.Service
