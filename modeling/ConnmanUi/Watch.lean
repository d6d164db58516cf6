import Mathlib.Algebra.Group.Nat.Defs
import ConnmanUi.Run

/-!
Watches for signals and for names on the bus (`gdbus/watch.c`).

A listener is a match rule with the callbacks that wait for it.  `message_filter`
goes through the listeners, and for each that a signal matches through its
callbacks; these may add and remove watches as they run, so each round of the two
loops is a step of its own, and so is each callback's return.

While a listener's callbacks run it is locked: those that ran wait in `processed`,
and what is added goes there too.  A step that reads memory that is not there,
takes away a filter that is not there or never ends is a `fault`, the last one of
its run: the second loop of `message_filter` is no good for two listeners that
are to be deleted (`deleteListeners`).

A signal is dispatched while the filter is installed once on its connection.  It
is installed again, and then called twice for a signal, after a match rule was
refused on a connection without listeners; what happens then is left out.
-/

namespace ConnmanUi.Watch

/-! ## Data -/

/-- `struct service_data` of a callback: none, one whose GetNameOwner is on its
way, one whose `update_service` is to run, or one that was freed while the
callback kept the pointer. -/
inductive ServiceData where
  | null
  | call
  | idle
  | freed
  deriving DecidableEq

/-- `struct filter_callback`, with which of its functions it has. -/
structure FilterCallback where
  id : Nat
  connFunc : Bool := false
  discFunc : Bool := false
  signalFunc : Bool := false
  destroyFunc : Bool := false
  data : ServiceData := .null
  deriving DecidableEq

/-- `handle_func`. -/
inductive HandleFunc where
  | signalFilter
  | serviceFilter
  deriving DecidableEq

/-- What a listener asks for: `filter_data_get` tells listeners apart by these. -/
structure Match where
  connection : Nat
  name : Option String := none
  owner : Option String := none
  path : Option String := none
  interface : Option String := none
  member : Option String := none
  argument : Option String := none
  deriving DecidableEq

/-- `struct filter_data`; `key` is where it is.  `registered` is set of every
listener. -/
structure FilterData extends Match where
  key : Nat
  handleFunc : HandleFunc
  callbacks : List FilterCallback := []
  processed : List FilterCallback := []
  nameWatch : Nat := 0
  lock : Bool := false
  deriving DecidableEq

/-- A signal, which has a sender; `args` are the strings its arguments begin
with. -/
structure Message where
  sender : String
  path : String
  interface : String
  member : String
  args : List String
  deriving DecidableEq

/-- What goes wrong. -/
inductive Fault where
  /-- `g_str_equal` of NULL. -/
  | nullArgument
  /-- `message_filter` comes to a listener it is to delete, and that is gone. -/
  | deletedListener
  /-- It comes to one that has callbacks again, and from there to the same one. -/
  | endless
  /-- `dbus_connection_remove_filter` of a filter that is not there. -/
  | missingFilter
  /-- A callback, or the `struct service_data` of one, is read after it was freed. -/
  | freedCallback
  | freedServiceData
  /-- The owner that `check_name_cache` found is read after it was freed. -/
  | freedOwner
  deriving DecidableEq

/-- `message_filter` with a message on a connection, and the listeners it is to
delete. -/
structure Filtering where
  connection : Nat
  message : Message
  deleteListener : List Nat := []
  deriving DecidableEq

/-- Where it is. -/
inductive Stage where
  /-- At the head of its loop, with `current`. -/
  | scan (current : Option Nat)
  /-- At the head of the loop of `handle_func` for a listener. -/
  | handle (current : Nat)
  /-- In a callback of the listener. -/
  | call (current : Nat) (id : Nat)
  deriving DecidableEq

inductive Phase where
  | idle
  | filtering (f : Filtering) (stage : Stage)
  /-- `update_service` has called the connect function of a callback. -/
  | updating (id : Nat)
  | fault (why : Fault)
  deriving DecidableEq

/-- What the callbacks of the program are called for. -/
inductive Note where
  | called (id : Nat)
  | destroyed (id : Nat)
  deriving DecidableEq

structure State where
  /-- `listener_id`. -/
  listenerId : Nat := 0
  /-- The key of the next listener. -/
  next : Nat := 0
  listeners : List FilterData := []
  /-- The connections `message_filter` is installed on, as often as it is. -/
  filters : List Nat := []
  /-- The match rules the bus has for each connection. -/
  rules : List (Nat × String) := []
  phase : Phase := .idle
  /-- Newest first. -/
  log : List Note := []
  deriving DecidableEq

/-- What libdbus and the bus answer. -/
structure Answers where
  /-- `dbus_connection_add_filter`. -/
  filterAdded : Bool := true
  /-- `dbus_bus_add_match` of a rule, without an error. -/
  matchAdded : String → Bool := fun _ => true
  /-- `dbus_bus_remove_match` of a rule the bus has. -/
  matchRemoved : String → Bool := fun _ => true

/-- How far `check_service` gets with the GetNameOwner call. -/
inductive Lookup where
  | sent
  | noData
  | noMessage
  | notSent
  deriving DecidableEq

variable (s : State)

def State.listener (key : Nat) : Option FilterData := s.listeners.find? (·.key = key)

def State.setListener (d : FilterData) : State :=
  { s with listeners := s.listeners.map fun old => if old.key = d.key then d else old }

def State.note (note : Note) : State := { s with log := note :: s.log }

/-! ## Listeners -/

/-- `filter_data_find`. -/
def filterDataFind (connection : Nat) : Bool := s.listeners.any (·.connection = connection)

/-- `filter_data_find_match`. -/
def filterDataFindMatch (m : Match) : Option FilterData := s.listeners.find? (·.toMatch = m)

/-- `format_rule`, of a rule that fits its buffer. -/
def formatRule (m : Match) : String :=
  let entry (key : String) (value : Option String) : String :=
    match value with
    | some value => "," ++ key ++ "='" ++ value ++ "'"
    | none => ""
  "type='signal'" ++ entry "sender" (m.name <|> m.owner) ++ entry "path" m.path ++
    entry "interface" m.interface ++ entry "member" m.member ++ entry "arg0" m.argument

/-- `add_match`. -/
def addMatch (m : Match) (answers : Answers) : State × Bool :=
  if answers.matchAdded (formatRule m) then ({ s with rules := (m.connection, formatRule m) :: s.rules }, true) else (s, false)

/-- `remove_match`. -/
def removeMatch (m : Match) (answers : Answers) : State × Bool :=
  if answers.matchRemoved (formatRule m) ∧ (m.connection, formatRule m) ∈ s.rules then
    ({ s with rules := s.rules.erase (m.connection, formatRule m) }, true)
  else (s, false)

/-- A sender is a unique name, which is an owner, or it is a name. -/
def sentBy (connection : Nat) (sender path interface member argument : Option String) : Match :=
  match sender with
  | none => ⟨connection, none, none, path, interface, member, argument⟩
  | some sender =>
    if sender.startsWith ":" then ⟨connection, none, some sender, path, interface, member, argument⟩
    else ⟨connection, some sender, none, path, interface, member, argument⟩

/-- `filter_data_get`: the key of the listener. -/
def filterDataGet (filter : HandleFunc) (m : Match) (answers : Answers) : State × Option Nat :=
  if !filterDataFind s m.connection && !answers.filterAdded then (s, none)
  else
    let s := if filterDataFind s m.connection then s else { s with filters := m.connection :: s.filters }
    match filterDataFindMatch s m with
    | some data => (s, some data.key)
    | none =>
      let added := addMatch s m answers
      if added.2 then
        let s := added.1
        ({ s with listeners := s.listeners ++ [{ m with key := s.next, handleFunc := filter }], next := s.next + 1 },
          some s.next)
      else (s, none)

/-- `listener_id` is a `guint`. -/
def nextId : Nat := (s.listenerId + 1) % 2 ^ 32

/-- With another callback, which waits while the listener is locked. -/
def FilterData.add (d : FilterData) (cb : FilterCallback) : FilterData :=
  if d.lock then { d with processed := d.processed ++ [cb] } else { d with callbacks := d.callbacks ++ [cb] }

def FilterData.remove (d : FilterData) (id : Nat) : FilterData :=
  { d with callbacks := d.callbacks.filter (·.id ≠ id), processed := d.processed.filter (·.id ≠ id) }

/-- The callback is through, and waits until the others are. -/
def FilterData.wait (d : FilterData) (cb : FilterCallback) : FilterData :=
  { d with callbacks := d.callbacks.filter (·.id ≠ cb.id), processed := d.processed ++ [cb] }

/-- `filter_data_add_callback`, of a callback that is to have the next id. -/
def filterDataAddCallback (key : Nat) (cb : FilterCallback) : State :=
  let added := { s with listenerId := nextId s }
  match s.listener key with
  | none => added
  | some data => added.setListener (data.add { cb with id := nextId s })

/-- `filter_data_find_callback` among all the listeners. -/
def State.findCallback (id : Nat) : Option (FilterData × FilterCallback) :=
  s.listeners.findSome? fun data =>
    ((data.callbacks ++ data.processed).find? (·.id = id)).map fun cb => (data, cb)

/-- `dbus_connection_remove_filter`. -/
def removeFilter (connection : Nat) : Except Fault State :=
  if connection ∈ s.filters then .ok { s with filters := s.filters.erase connection } else .error .missingFilter

/-- The listener leaves the list; the filter goes with the last of its
connection. -/
def removeListener (data : FilterData) : Except Fault State :=
  let s := { s with listeners := s.listeners.filter (·.key ≠ data.key) }
  if filterDataFind s data.connection then .ok s else removeFilter s data.connection

/-- The callback leaves its listener, and its destroy function is called. -/
def dropCallback (data : FilterData) (cb : FilterCallback) : State :=
  let s := s.setListener (data.remove cb.id)
  if cb.destroyFunc then s.note (.destroyed cb.id) else s

/-- `filter_data_remove_callback`; `freeing` is the `g_dbus_remove_watch` of
`filter_data_free`. -/
def filterDataRemoveCallback (freeing : State → Nat → Except Fault State) (answers : Answers) (data : FilterData)
    (cb : FilterCallback) : Except Fault State :=
  if cb.data = .freed then .error .freedServiceData
  else if (data.remove cb.id).callbacks ≠ [] ∨ data.lock then .ok (dropCallback s data cb)
  else
    let removed := removeMatch (dropCallback s data cb) data.toMatch answers
    if removed.2 then do
      let s ← removeListener removed.1 data
      freeing s data.nameWatch
    else .ok removed.1

/-- `g_dbus_remove_watch`; a listener that is freed has one of its own removed,
so there are at most as many rounds as listeners. -/
def removeWatch (answers : Answers) : Nat → State → Nat → Except Fault State
  | 0, s, _ => .ok s
  | rounds + 1, s, id =>
    if id = 0 then .ok s
    else
      match s.findCallback id with
      | none => .ok s
      | some (data, cb) => filterDataRemoveCallback s (removeWatch answers rounds) answers data cb

def gDbusRemoveWatch (id : Nat) (answers : Answers) : Except Fault State :=
  removeWatch answers s.listeners.length s id

/-! ## Names -/

/-- `update_name_cache`. -/
def updateNameCache (name owner : String) : State :=
  { s with listeners := s.listeners.map fun data =>
      if data.name = some name then { data with owner := some owner } else data }

/-- `check_name_cache`. -/
def checkNameCache (name : String) : Option String :=
  (s.listeners.find? (·.name = some name)).bind (·.owner)

/-- A change of one callback, wherever it is. -/
def State.modifyCallback (id : Nat) (f : FilterCallback → FilterCallback) : State :=
  let change := fun cb : FilterCallback => if cb.id = id then f cb else cb
  { s with listeners := s.listeners.map fun data =>
      { data with callbacks := data.callbacks.map change, processed := data.processed.map change } }

/-- `check_service` for the callback it is to tell.  What fails after
`callback->data` is set leaves the pointer there. -/
def checkService (name : String) (id : Nat) (lookup : Lookup) : State :=
  let setData (data : ServiceData) := s.modifyCallback id fun cb => { cb with data := data }
  match lookup with
  | .noData => s
  | lookup =>
    if (checkNameCache s name).isSome then setData .idle
    else if lookup = .sent then setData .call else setData .freed

/-! ## Adding watches -/

/-- `g_dbus_add_service_watch`, of a name that is not NULL. -/
def gDbusAddServiceWatch (connection : Nat) (name : String) (connect disconnect destroy : Bool) (answers : Answers)
    (lookup : Lookup) : State × Nat :=
  let got := filterDataGet s .serviceFilter
    (sentBy connection none none (some "org.freedesktop.DBus") (some "NameOwnerChanged") (some name)) answers
  match got.2 with
  | none => (got.1, 0)
  | some key =>
    let id := nextId got.1
    let s := filterDataAddCallback got.1 key
      { id := 0, connFunc := connect, discFunc := disconnect, destroyFunc := destroy }
    (if connect then checkService s name id lookup else s, id)

/-- What `g_dbus_add_signal_watch` and `g_dbus_add_properties_watch` have in
common; a listener with a name gets a watch of that name. -/
def addSignalWatch (m : Match) (function destroy : Bool) (answers : Answers) : State × Nat :=
  let got := filterDataGet s .signalFilter m answers
  match got.2 with
  | none => (got.1, 0)
  | some key =>
    let id := nextId got.1
    let s := filterDataAddCallback got.1 key { id := 0, signalFunc := function, destroyFunc := destroy }
    match s.listener key with
    | none => (s, id)
    | some data =>
      match data.name with
      | none => (s, id)
      | some name =>
        if data.nameWatch ≠ 0 then (s, id)
        else
          let watch := gDbusAddServiceWatch s data.connection name false false false answers .sent
          (({ watch.1 with listeners := watch.1.listeners.map fun old =>
              if old.key = key then { old with nameWatch := watch.2 } else old }), id)

/-- `g_dbus_add_signal_watch`. -/
def gDbusAddSignalWatch (connection : Nat) (sender path interface member : Option String)
    (function destroy : Bool) (answers : Answers) : State × Nat :=
  addSignalWatch s (sentBy connection sender path interface member none) function destroy answers

/-- `g_dbus_add_properties_watch`. -/
def gDbusAddPropertiesWatch (connection : Nat) (sender path interface : Option String)
    (function destroy : Bool) (answers : Answers) : State × Nat :=
  addSignalWatch s (sentBy connection sender path (some "org.freedesktop.DBus.Properties")
    (some "PropertiesChanged") interface) function destroy answers

/-! ## `message_filter` -/

/-- The field is set, and to something else. -/
def differs (field : Option String) (value : String) : Bool := field.any (· ≠ value)

/-- The tests of `message_filter`, in their order; `none` is a NULL first
argument that is compared. -/
def Match.accepts (d : Match) (m : Message) : Option Bool :=
  if differs d.owner m.sender || differs d.path m.path || differs d.interface m.interface ||
      differs d.member m.member then some false
  else
    match d.argument with
    | none => some true
    | some argument => m.args.head?.map (· = argument)

/-- `current->next`. -/
def successor (current : Nat) : Option Nat :=
  ((s.listeners.dropWhile (·.key ≠ current)).tail.head?).map (·.key)

/-- The callbacks are those that waited in `processed`. -/
def FilterData.unlock (d : FilterData) : FilterData :=
  { d with callbacks := d.processed, processed := [], lock := false }

/-- A listener for which none waited is to be deleted. -/
def Filtering.left (f : Filtering) (d : FilterData) : Filtering :=
  if d.processed = [] then { f with deleteListener := d.key :: f.deleteListener } else f

theorem Filtering.left_connection (f : Filtering) (d : FilterData) : (f.left d).connection = f.connection := by
  unfold left
  split <;> rfl

theorem Filtering.left_message (f : Filtering) (d : FilterData) : (f.left d).message = f.message := by
  unfold left
  split <;> rfl

/-- `message_filter` goes on to the next listener. -/
def leave (f : Filtering) (data : FilterData) : State :=
  let s := s.setListener data.unlock
  { s with phase := .filtering (f.left data) (.scan (successor s data.key)) }

/-- `message_filter` comes to a listener, and locks it if the signal is for it.
`service_filter` returns at once if the signal is not what it should be. -/
def enter (f : Filtering) (data : FilterData) : Except Fault State :=
  let pass := { s with phase := .filtering f (.scan (successor s data.key)) }
  if data.connection ≠ f.connection then .ok pass
  else
    match data.accepts f.message with
    | none => .error .nullArgument
    | some false => .ok pass
    | some true =>
      let s := s.setListener { data with lock := true }
      let handling (s : State) : State := { s with phase := .filtering f (.handle data.key) }
      match data.handleFunc, f.message.args with
      | .signalFilter, _ => .ok (handling s)
      | .serviceFilter, name :: _ :: new :: _ => .ok (handling (updateNameCache s name new))
      | .serviceFilter, _ => .ok (leave s f { data with lock := true })

/-- The function of the callback that the message is for. -/
def FilterData.calls (d : FilterData) (cb : FilterCallback) (m : Message) : Bool :=
  match d.handleFunc, m.args with
  | .signalFilter, _ => cb.signalFunc
  | .serviceFilter, _ :: _ :: new :: _ => if new = "" then cb.discFunc else cb.connFunc
  | .serviceFilter, _ => false

/-- Only a watch of a bus name goes after one call, if it has only one of the two
functions. -/
def FilterData.once (d : FilterData) (cb : FilterCallback) : Bool :=
  d.handleFunc = .serviceFilter && d.argument.any (·.startsWith ":") && (!cb.connFunc || !cb.discFunc)

/-- After its function a callback waits in `processed`, unless it is removed. -/
def settle (f : Filtering) (data : FilterData) (cb : FilterCallback) : Except Fault State :=
  let handling (s : State) : State := { s with phase := .filtering f (.handle data.key) }
  if data.once cb then
    (filterDataRemoveCallback s (fun s _ => .ok s) {} data cb).map handling
  else
    .ok (handling (s.setListener (data.wait cb)))

/-- A round of the loop of `signal_filter` or `service_filter`. -/
def round (f : Filtering) (data : FilterData) : Except Fault State :=
  match data.callbacks with
  | [] => .ok (leave s f data)
  | cb :: _ =>
    if data.calls cb f.message then
      .ok { s.note (.called cb.id) with phase := .filtering f (.call data.key cb.id) }
    else settle s f data cb

/-- A round of the second loop of `message_filter`: the listener is deleted,
unless it has callbacks again. -/
def deleteListener (answers : Answers) (key : Nat) : Except Fault State :=
  match s.listener key with
  | none => .error .deletedListener
  | some data =>
    if data.callbacks ≠ [] then .ok s
    else
      let s := (removeMatch s data.toMatch answers).1
      let s := { s with listeners := s.listeners.filter (·.key ≠ key) }
      gDbusRemoveWatch s data.nameWatch answers

/-- The second loop.  It goes on with `delete_listener->next`, so after the first
listener it comes to the second one again and again: after a round that is gone,
or it has callbacks and nothing changes any more. -/
def deleteListeners (answers : Answers) : List Nat → Except Fault State
  | [] => .ok s
  | [key] => deleteListener s answers key
  | first :: second :: _ => do
    let s ← deleteListener s answers first
    let s ← deleteListener s answers second
    match s.listener second with
    | none => .error .deletedListener
    | some _ => .error .endless

/-- The end of `message_filter`. -/
def finish (f : Filtering) (answers : Answers) : Except Fault State := do
  let s ← deleteListeners s answers f.deleteListener
  let s ← if filterDataFind s f.connection then .ok s else removeFilter s f.connection
  .ok { s with phase := .idle }

/-- `message_filter` goes on. -/
def proceed (f : Filtering) (answers : Answers) : Stage → Option (Except Fault State)
  | .scan none => some (finish s f answers)
  | .scan (some current) => (s.listener current).map (enter s f)
  | .handle current => (s.listener current).map (round s f)
  | .call _ _ => none

/-- A callback of the listener returns; for one of `signal_filter` that is FALSE
if it is not to be kept. -/
def returned (f : Filtering) (current id : Nat) (keep : Bool) (answers : Answers) : Option (Except Fault State) :=
  (s.listener current).map fun data =>
    let handling (s : State) : State := { s with phase := .filtering f (.handle current) }
    match data.callbacks.find? (·.id = id) with
    | none =>
      if data.handleFunc = .signalFilter ∧ keep = false then .error .freedCallback
      else .ok (handling s)
    | some cb =>
      if data.handleFunc = .signalFilter ∧ keep = false then
        (filterDataRemoveCallback s (fun s _ => .ok s) answers data cb).map handling
      else settle s f data cb

/-! ## The owner of a name -/

/-- `service_data_free`, which clears the callback's pointer. -/
def serviceDataFree (id : Nat) : State := s.modifyCallback id fun cb => { cb with data := .null }

/-- `update_service` up to the connect function's return. -/
def updateService (name owner : String) (cb : FilterCallback) : State :=
  let s := updateNameCache s name owner
  if cb.connFunc then { s.note (.called cb.id) with phase := .updating cb.id } else serviceDataFree s cb.id

/-- `service_reply`, with the owner or an error. -/
def serviceReply (id : Nat) (owner : Option String) : Option State := do
  let (data, cb) ← s.findCallback id
  let name ← data.argument
  if cb.data = .call then
    match owner with
    | none => some (serviceDataFree s id)
    | some owner => some (updateService s name owner cb)
  else none

/-- `update_service` as an idle source: the owner it has is that of a listener,
and goes before it is copied. -/
def updateServiceIdle (id : Nat) (owner : String) : Option (Except Fault State) := do
  let (data, cb) ← s.findCallback id
  let name ← data.argument
  if cb.data = .idle then
    if s.listeners.any (·.name = some name) then some (.error .freedOwner)
    else some (.ok (updateService s name owner cb))
  else none

/-- The connect function returns to `update_service`, which frees its data. -/
def updated (id : Nat) : Except Fault State :=
  match s.findCallback id with
  | none => .error .freedServiceData
  | some _ => .ok { serviceDataFree s id with phase := .idle }

/-! ## Steps -/

inductive Event where
  | addSignalWatch (connection : Nat) (sender path interface member : Option String) (function destroy : Bool)
      (answers : Answers)
  | addPropertiesWatch (connection : Nat) (sender path interface : Option String) (function destroy : Bool)
      (answers : Answers)
  | addServiceWatch (connection : Nat) (name : String) (connect disconnect destroy : Bool) (answers : Answers)
      (lookup : Lookup)
  | removeWatch (id : Nat) (answers : Answers)
  /-- The connection dispatches a signal. -/
  | message (connection : Nat) (m : Message)
  | proceed (answers : Answers)
  /-- The callback that runs returns. -/
  | returned (keep : Bool) (answers : Answers)
  | serviceReply (id : Nat) (owner : Option String)
  | updateService (id : Nat) (owner : String)

/-- A faulty step ends the run. -/
def settled (s : State) : Except Fault State → State
  | .ok s' => s'
  | .error why => { s with phase := .fault why }

/-- What the program does is done while none of its callbacks runs, or by one
that does. -/
def Phase.calls : Phase → Bool
  | .idle | .filtering _ (.call ..) | .updating _ => true
  | _ => false

def step (s : State) : Event → Option State
  | .addSignalWatch connection sender path interface member function destroy answers =>
    if s.phase.calls then
      some (gDbusAddSignalWatch s connection sender path interface member function destroy answers).1
    else none
  | .addPropertiesWatch connection sender path interface function destroy answers =>
    if s.phase.calls then
      some (gDbusAddPropertiesWatch s connection sender path interface function destroy answers).1
    else none
  | .addServiceWatch connection name connect disconnect destroy answers lookup =>
    if s.phase.calls then
      some (gDbusAddServiceWatch s connection name connect disconnect destroy answers lookup).1
    else none
  | .removeWatch id answers => if s.phase.calls then some (settled s (gDbusRemoveWatch s id answers)) else none
  | .message connection m =>
    if s.phase = .idle ∧ s.filters.count connection = 1 then
      let f : Filtering := { connection := connection, message := m }
      some { s with phase := .filtering f (.scan (s.listeners.head?.map (·.key))) }
    else none
  | .proceed answers =>
    match s.phase with
    | .filtering f stage => (proceed s f answers stage).map (settled s)
    | _ => none
  | .returned keep answers =>
    match s.phase with
    | .filtering f (.call current id) => (returned s f current id keep answers).map (settled s)
    | .updating id => some (settled s (updated s id))
    | _ => none
  | .serviceReply id owner => if s.phase = .idle then serviceReply s id owner else none
  | .updateService id owner => if s.phase = .idle then (updateServiceIdle s id owner).map (settled s) else none

/-- No watch has been added. -/
def Start (s : State) : Prop := s = {}

end ConnmanUi.Watch
