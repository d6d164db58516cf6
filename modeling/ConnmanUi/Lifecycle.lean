import ConnmanUi.ManagerCalls

/-!
The library's modules coming up and going down (`lib/interface.c`,
`lib/manager.c`, `lib/technology.c`, `lib/service.c`, `lib/agent.c`,
`src/main.c`).

Each module has one global structure.  Its pointer may be NULL, or name memory
that was freed, or name what the module's init function has built so far
(`Singleton`).  The program goes on with a freed structure as with any other:
reading it gives anything (`stale` in the events) and writing it nothing.  What
the tables of technologies and services hold is up to the events.

Whenever the manager is NULL none of its handlers is registered
(`no_manager_handlers`).  An init function that fails leaves its pointer NULL,
but for three steps (`all_or_nothing_iff`).
-/

namespace ConnmanUi.Lifecycle

open Run
open ManagerCalls (Listing Method Signal Sending connmanManagerGetTechnologies connmanManagerGetServices
  connmanManagerRegisterTechnologySignals connmanManagerRegisterServiceSignal)

/-- The pointer to a module's one structure. -/
inductive Singleton (α : Type) where
  | null
  | freed
  | built (a : α)
  deriving DecidableEq

/-- What reading a field gives, if the pointer is not NULL. -/
def Singleton.read {α β : Type} (p : Singleton α) (stale : β) (field : α → β) : Option β :=
  match p with
  | .null => none
  | .freed => some stale
  | .built a => some (field a)

def Singleton.modify {α : Type} (p : Singleton α) (f : α → α) : Singleton α :=
  match p with
  | .built a => .built (f a)
  | p => p

/-- `struct connman_interface`. -/
structure ConnmanInterface where
  /-- `interface_watch_id` is not zero. -/
  interfaceWatch : Bool := false
  deriving DecidableEq

/-- `struct connman_technology_interface`, without what the user interface sets
in it. -/
structure TechnologyInterface where
  /-- `dbus_cnx` is not NULL. -/
  dbusCnx : Bool := false
  set : Bool := false
  deriving DecidableEq

/-- `struct connman_service_interface`, likewise. -/
structure ServiceInterface where
  /-- `dbus_cnx` is not NULL. -/
  dbusCnx : Bool := false
  refreshed : Bool := false
  deriving DecidableEq

/-- `struct connman_agent`, likewise. -/
structure AgentInterface where
  /-- `dbus_cnx` is not NULL. -/
  dbusCnx : Bool := false
  deriving DecidableEq

/-- The callbacks the modules pass to the manager: `get_technologies_cb` for
the technologies, `get_services_cb` for the services. -/
abbrev Bus := ManagerCalls.State Unit

/-- The library. -/
structure Library where
  connman : Singleton ConnmanInterface := .null
  /-- `manager`, with its calls and watches. -/
  bus : Bus
  techIf : Singleton TechnologyInterface := .null
  serviceIf : Singleton ServiceInterface := .null
  agentIf : Singleton AgentInterface := .null

variable (s : Library)

/-! ## Init and finalize -/

/-- What can fail in an init function. -/
structure Outcome where
  /-- Both callbacks are given. -/
  callbacks : Bool := true
  /-- `g_dbus_setup_bus` for the system bus. -/
  systemBus : Bool := true
  sessionBus : Bool := true
  /-- `g_dbus_request_name`. -/
  name : Bool := true
  /-- `g_try_malloc0`. -/
  memory : Bool := true
  /-- `g_hash_table_new_full`. -/
  table : Bool := true
  /-- The method call that asks the manager. -/
  sending : Sending := .sent
  /-- The watch the function adds. -/
  watch : Bool := true
  deriving DecidableEq

/-- `connman_manager_finalize`. -/
def connmanManagerFinalize : Library := { s with bus := ManagerCalls.connmanManagerFinalize s.bus }

/-- `connman_technology_finalize`. -/
def connmanTechnologyFinalize : Library :=
  if s.techIf = .null then s
  else { s with
    bus := (connmanManagerRegisterTechnologySignals s.bus false false true true).1
    techIf := .null }

/-- `connman_service_finalize`. -/
def connmanServiceFinalize : Library :=
  if s.serviceIf = .null then s
  else { s with
    bus := (connmanManagerRegisterServiceSignal s.bus false true).1
    serviceIf := .null }

/-- `connman_agent_finalize`. -/
def connmanAgentFinalize : Library := { s with agentIf := .null }

/-- The part of `connman_down` that is the library's. -/
def connmanDown : Library :=
  connmanManagerFinalize (connmanTechnologyFinalize (connmanServiceFinalize (connmanAgentFinalize s)))

/-- `connman_interface_finalize`: every watch on the connection goes. -/
def connmanInterfaceFinalize : Library :=
  if s.connman = .null then s
  else { s with
    connman := .null
    bus := { s.bus with watches := s.bus.watches.releaseAll (s.bus.watches.live.map Prod.fst) } }

/-- `connman_interface_init`, with `connman_down` as the callback that is told
at once that ConnMan is not there. -/
def connmanInterfaceInit (o : Outcome) : Library × Int :=
  if s.connman ≠ .null then (s, 0)
  else if !o.callbacks then (s, -22)
  else if !o.systemBus then (s, -12)
  else if !o.sessionBus then (s, -12)
  else if !o.name then (s, -114)
  else if !o.memory then (s, -12)
  else if !o.watch then ({ s with connman := .freed }, -22)
  else (connmanDown { s with connman := .built { interfaceWatch := true } }, 0)

/-- `connman_manager_init`. -/
def connmanManagerInit (o : Outcome) : Library × Int :=
  let init := ManagerCalls.connmanManagerInit s.bus (s.connman ≠ .null) ⟨o.memory, o.sending, o.watch⟩
  ({ s with bus := init.1 }, init.2)

/-- `connman_technology_init`. -/
def connmanTechnologyInit (o : Outcome) : Library × Int :=
  if s.connman = .null then (s, -22)
  else if s.techIf ≠ .null then (s, 0)
  else if !o.memory then (s, -12)
  else if !o.table then ({ s with techIf := .freed }, -12)
  else
    let got := connmanManagerGetTechnologies s.bus (some ()) o.sending
    if got.2 < 0 then ({ s with bus := got.1, techIf := .built {} }, got.2)
    else ({ s with bus := got.1, techIf := .built { dbusCnx := true } }, 0)

/-- `connman_service_init`. -/
def connmanServiceInit (o : Outcome) : Library × Int :=
  if s.connman = .null then (s, -22)
  else if s.serviceIf ≠ .null then (s, 0)
  else if !o.memory then (s, -12)
  else if !o.table then ({ s with serviceIf := .freed }, -12)
  else ({ s with serviceIf := .built { dbusCnx := true } }, 0)

/-- `connman_agent_init`. -/
def connmanAgentInit (o : Outcome) : Library × Int :=
  if s.connman = .null then (s, -22)
  else if s.agentIf ≠ .null then (s, 0)
  else if !o.memory then (s, -12)
  else ({ s with agentIf := .built { dbusCnx := true } }, 0)

/-- The part of `connman_up` that is the library's: what the functions return
is ignored. -/
def connmanUp (manager service technology agent : Outcome) : Library :=
  let s := (connmanManagerInit s manager).1
  let s := (connmanServiceInit s service).1
  let s := (connmanTechnologyInit s technology).1
  (connmanAgentInit s agent).1

/-! ## The menu and the messages -/

/-- What the client finds when it opens the menu: whether any technology is
known, whether a wifi one is powered, and how the bus fares. -/
structure Menu where
  techs : Bool
  wifi : Bool
  watch : Bool
  sending : Sending
  deriving DecidableEq

/-- `connman_service_refresh_services_list`. -/
def connmanServiceRefreshServicesList (menu : Menu) : Library :=
  if s.serviceIf = .null then s
  else
    let s := { s with serviceIf := s.serviceIf.modify fun a => { a with refreshed := false } }
    if s.techIf = .null ∨ menu.techs = false then s
    else if !menu.wifi then { s with bus := (connmanManagerGetServices s.bus (some ()) menu.sending).1 }
    else
      let bus := (connmanManagerRegisterServiceSignal s.bus true menu.watch).1
      { s with bus := (connmanManagerGetServices bus (some ()) menu.sending).1 }

/-- `connman_service_free_services_list`. -/
def connmanServiceFreeServicesList : Library :=
  if s.serviceIf = .null then s
  else { s with bus := (connmanManagerRegisterServiceSignal s.bus false true).1 }

/-- What a message holds, what freed memory reads, and how the bus fares with
what its handler asks for. -/
structure Contents where
  /-- The message has arguments. -/
  args : Bool
  /-- The first of them is an array. -/
  array : Bool
  stale : Bool
  watchAdded : Bool
  watchRemoved : Bool
  sending : Sending
  deriving DecidableEq

/-- `get_services_cb`. -/
def getServicesCb (c : Contents) : Library :=
  match s.serviceIf.read c.stale ServiceInterface.refreshed with
  | none => s
  | some refreshed =>
    if c.array && !refreshed then
      { s with
        serviceIf := s.serviceIf.modify fun a => { a with refreshed := true }
        bus := (connmanManagerGetServices s.bus (some ()) c.sending).1 }
    else s

/-- `get_technologies_cb`. -/
def getTechnologiesCb (c : Contents) : Library :=
  match s.techIf.read c.stale TechnologyInterface.set with
  | none => s
  | some set =>
    if c.array && !set then
      let registered := connmanManagerRegisterTechnologySignals s.bus true true c.watchAdded c.watchRemoved
      { s with
        techIf := s.techIf.modify fun a => { a with set := if registered.2 = 0 then true else a.set }
        bus := (connmanManagerGetTechnologies registered.1 (some ()) c.sending).1 }
    else s

/-- A pending call completes, and the callback runs that its handler ends
with. -/
def reply (h : Nat) (c : Contents) : Option Library :=
  (ManagerCalls.reply s.bus h c.args).map fun replied =>
    let s := { s with bus := replied.1 }
    match replied.2 with
    | none => s
    | some (.technologies, _) => getTechnologiesCb s c
    | some (.services, _) => getServicesCb s c

/-- A signal is delivered to a watch.  Its handler reads `manager`; the handlers
of TechnologyAdded and TechnologyRemoved end in `technology_added_cb` and
`technology_removed_cb`, which read `tech_if`.  Without them the program is
gone. -/
def signal (h : Nat) (c : Contents) : Option Library := do
  let watched ← s.bus.watches.find h
  let manager ← s.bus.manager
  match watched with
  | .propertyChanged => some s
  | .servicesChanged => some s
  | .technologyRemoved =>
    if c.args && manager.signalCb .technologyRemoved then (s.techIf.read c.stale TechnologyInterface.set).map fun _ => s
    else some s
  | .technologyAdded =>
    if c.args && manager.signalCb .technologyAdded then
      (s.techIf.read c.stale TechnologyInterface.set).map fun set =>
        if set then { s with bus := (connmanManagerGetTechnologies s.bus (some ()) c.sending).1 } else s
    else some s

/-! ## Runs -/

inductive Event where
  /-- `main` calls `connman_interface_init`. -/
  | start (o : Outcome)
  /-- ConnMan appears on the bus. -/
  | up (manager service technology agent : Outcome)
  /-- ConnMan leaves the bus. -/
  | down
  /-- The main loop ends. -/
  | quit
  | openMenu (menu : Menu)
  | closeMenu
  | reply (h : Nat) (c : Contents)
  | signal (h : Nat) (c : Contents)

/-- What the main loop hands to the program. -/
def dispatch (s : Library) : Event → Option Library
  | .start _ => none
  | .up manager service technology agent => some (connmanUp s manager service technology agent)
  | .down => some (connmanDown s)
  | .quit => some (connmanInterfaceFinalize (connmanDown s))
  | .openMenu menu => some (connmanServiceRefreshServicesList s menu)
  | .closeMenu => some (connmanServiceFreeServicesList s)
  | .reply h c => reply s h c
  | .signal h c => signal s h c

/-- One event.  The main loop runs while `connman` is there; `main` ends when
`connman_interface_init` fails. -/
def step (s : Library) (e : Event) : Option Library :=
  match s.connman, e with
  | .null, .start o => some (connmanInterfaceInit s o).1
  | .built _, e => dispatch s e
  | _, _ => none

/-- The program just started. -/
def Boot (s : Library) : Prop :=
  s.connman = .null ∧ s.bus.manager = none ∧ s.bus.calls.live = [] ∧ s.bus.watches.live = [] ∧
    s.techIf = .null ∧ s.serviceIf = .null ∧ s.agentIf = .null

variable {s} {s' : Library} {e : Event}

/-! ## No handler without a manager -/

/-- The manager's calls and watches are in their slots, and a watch of
ServicesChanged comes with the service module that asked for it. -/
structure Tended (s : Library) : Prop where
  slotted : ManagerCalls.Slotted s.bus
  watched : ManagerCalls.Watched s.bus
  served : s.bus.wid .servicesChanged ≠ 0 → s.serviceIf ≠ .null

/-- The manager's own part of a step, after which the ServicesChanged watch is
as it was or gone. -/
theorem Tended.bus {bus : Bus} (tended : Tended s) (slotted : ManagerCalls.Slotted bus)
    (watched : ManagerCalls.Watched bus)
    (served : bus.wid .servicesChanged = s.bus.wid .servicesChanged ∨ bus.wid .servicesChanged = 0)
    (bus' : s'.bus = bus) (services : s'.serviceIf = s.serviceIf) : Tended s' where
  slotted := bus' ▸ slotted
  watched := bus' ▸ watched
  served used := by
    rw [bus'] at used
    rw [services]
    rcases served with same | gone
    · exact tended.served (same ▸ used)
    · exact absurd gone used

theorem Tended.getTechnologies (tended : Tended s) (cb : Option Unit) (sending : Sending)
    (bus : s'.bus = (connmanManagerGetTechnologies s.bus cb sending).1) (services : s'.serviceIf = s.serviceIf) :
    Tended s' := by
  have same := ManagerCalls.sameWatches_managerGet (s := s.bus) .technologies cb sending
  exact tended.bus (tended.slotted.managerGet .technologies cb sending) (tended.watched.of_same same)
    (.inl (congrFun same.wid _)) bus services

theorem Tended.getServices (tended : Tended s) (cb : Option Unit) (sending : Sending)
    (bus : s'.bus = (connmanManagerGetServices s.bus cb sending).1)
    (services : s'.serviceIf = .null → s.serviceIf = .null) : Tended s' := by
  have same := ManagerCalls.sameWatches_managerGet (s := s.bus) .services cb sending
  refine ⟨?_, ?_, fun used => ?_⟩
  · rw [bus]
    exact tended.slotted.managerGet .services cb sending
  · rw [bus]
    exact tended.watched.of_same same
  · rw [bus] at used
    exact fun gone => tended.served (by rw [← same.wid]; exact used) (services gone)

theorem Tended.registerTechnologySignals (tended : Tended s) (addedCb removedCb watchAdded watchRemoved : Bool)
    (bus : s'.bus = (connmanManagerRegisterTechnologySignals s.bus addedCb removedCb watchAdded watchRemoved).1)
    (services : s'.serviceIf = s.serviceIf) : Tended s' := by
  have same := ManagerCalls.sameCalls_registerTechnologySignals (s := s.bus) addedCb removedCb watchAdded watchRemoved
  have watched := tended.watched.registerTechnologySignals addedCb removedCb watchAdded watchRemoved
  exact tended.bus (tended.slotted.of_eq same.calls same.callSlot) watched.1 (.inl watched.2) bus services

/-- Registering for ServicesChanged, or giving the watch up; the service module
is there unless it is given up. -/
theorem Tended.registerServiceSignal (tended : Tended s) (cb watchChanged : Bool)
    (bus : s'.bus = (connmanManagerRegisterServiceSignal s.bus cb watchChanged).1)
    (services : cb = true → s'.serviceIf ≠ .null) : Tended s' := by
  have same := ManagerCalls.sameCalls_registerServiceSignal (s := s.bus) cb watchChanged
  have watched := tended.watched.registerServiceSignal cb watchChanged
  refine ⟨?_, ?_, fun used => ?_⟩
  · rw [bus]
    exact tended.slotted.of_eq same.calls same.callSlot
  · rw [bus]
    exact watched.1
  · cases cb with
    | true => exact services rfl
    | false =>
      rw [bus] at used
      exact absurd (watched.2 rfl) used

theorem Tended.managerFinalize (tended : Tended s) (closed : s.bus.wid .servicesChanged = 0) :
    Tended (connmanManagerFinalize s) :=
  tended.bus tended.slotted.finalize (tended.watched.finalize closed)
    (.inr (congrFun ManagerCalls.wid_finalize _)) rfl rfl

theorem Tended.managerInit (tended : Tended s) (o : Outcome) : Tended (connmanManagerInit s o).1 := by
  have watched := tended.watched.init (s.connman ≠ .null) ⟨o.memory, o.sending, o.watch⟩
  exact tended.bus (tended.slotted.init _ _) watched.1 (.inl watched.2) rfl rfl

theorem Tended.serviceInit (tended : Tended s) (o : Outcome) : Tended (connmanServiceInit s o).1 := by
  unfold connmanServiceInit
  split
  · exact tended
  split
  · exact tended
  split
  · exact tended
  split
  · exact ⟨tended.slotted, tended.watched, fun _ => nofun⟩
  · exact ⟨tended.slotted, tended.watched, fun _ => nofun⟩

theorem Tended.technologyInit (tended : Tended s) (o : Outcome) : Tended (connmanTechnologyInit s o).1 := by
  unfold connmanTechnologyInit
  split
  · exact tended
  split
  · exact tended
  split
  · exact tended
  split
  · exact ⟨tended.slotted, tended.watched, tended.served⟩
  · dsimp only
    split
    · exact tended.getTechnologies (some ()) o.sending rfl rfl
    · exact tended.getTechnologies (some ()) o.sending rfl rfl

theorem Tended.agentInit (tended : Tended s) (o : Outcome) : Tended (connmanAgentInit s o).1 := by
  unfold connmanAgentInit
  split
  · exact tended
  split
  · exact tended
  split
  · exact tended
  · exact ⟨tended.slotted, tended.watched, tended.served⟩

theorem Tended.up (tended : Tended s) (manager service technology agent : Outcome) :
    Tended (connmanUp s manager service technology agent) :=
  (((tended.managerInit manager).serviceInit service).technologyInit technology).agentInit agent

/-- The service module gives the watch of ServicesChanged up before it goes; if
it was not there, there was no such watch. -/
theorem Tended.serviceFinalize (tended : Tended s) :
    Tended (connmanServiceFinalize s) ∧ (connmanServiceFinalize s).bus.wid .servicesChanged = 0 := by
  unfold connmanServiceFinalize
  split
  case isTrue absent =>
    refine ⟨tended, ?_⟩
    by_contra used
    exact tended.served used absent
  case isFalse =>
    exact ⟨tended.registerServiceSignal false true rfl nofun, (tended.watched.registerServiceSignal false true).2 rfl⟩

theorem Tended.technologyFinalize (tended : Tended s) :
    Tended (connmanTechnologyFinalize s) ∧
      (connmanTechnologyFinalize s).bus.wid .servicesChanged = s.bus.wid .servicesChanged := by
  unfold connmanTechnologyFinalize
  split
  · exact ⟨tended, rfl⟩
  · exact ⟨tended.registerTechnologySignals false false true true rfl rfl,
      (tended.watched.registerTechnologySignals false false true true).2⟩

theorem Tended.down (tended : Tended s) : Tended (connmanDown s) := by
  have agent : Tended (connmanAgentFinalize s) := ⟨tended.slotted, tended.watched, tended.served⟩
  have service := agent.serviceFinalize
  have technology := service.1.technologyFinalize
  exact technology.1.managerFinalize (technology.2.trans service.2)

theorem Tended.interfaceFinalize (tended : Tended s) (down : s.bus.manager = none) :
    Tended (connmanInterfaceFinalize s) := by
  unfold connmanInterfaceFinalize
  split
  · exact tended
  · refine ⟨tended.slotted.of_eq rfl rfl, ⟨fun signal used => ?_, fun h watched signal found => ?_⟩, tended.served⟩
    · exact absurd (congrFun (ManagerCalls.wid_down down) signal) used
    · have gone := tended.watched.find_down down h
      rw [Pool.find_releaseAll, gone, ite_self] at found
      cases found

theorem Tended.openMenu (tended : Tended s) (menu : Menu) : Tended (connmanServiceRefreshServicesList s menu) := by
  unfold connmanServiceRefreshServicesList
  split
  · exact tended
  case isFalse there =>
    have still : s.serviceIf.modify (fun a => { a with refreshed := false }) ≠ .null := by
      cases service : s.serviceIf with
      | null => exact absurd service there
      | freed => exact nofun
      | built a => exact nofun
    have noted : Tended { s with serviceIf := s.serviceIf.modify fun a => { a with refreshed := false } } :=
      ⟨tended.slotted, tended.watched, fun _ => still⟩
    dsimp only
    split
    · exact noted
    split
    · exact noted.getServices (some ()) menu.sending rfl id
    · have watching : Tended { s with
          serviceIf := s.serviceIf.modify fun a => { a with refreshed := false }
          bus := (connmanManagerRegisterServiceSignal s.bus true menu.watch).1 } :=
        noted.registerServiceSignal true menu.watch rfl fun _ => still
      exact watching.getServices (some ()) menu.sending rfl id

theorem Tended.getServicesCb (tended : Tended s) (c : Contents) : Tended (getServicesCb s c) := by
  unfold Lifecycle.getServicesCb
  cases service : s.serviceIf with
  | null => exact tended
  | freed | built a =>
    dsimp only [Singleton.read]
    split
    · exact tended.getServices (some ()) c.sending rfl nofun
    · exact tended

theorem Tended.getTechnologiesCb (tended : Tended s) (c : Contents) : Tended (getTechnologiesCb s c) := by
  unfold Lifecycle.getTechnologiesCb
  split
  · exact tended
  · split
    · have registered : Tended { s with
          bus := (connmanManagerRegisterTechnologySignals s.bus true true c.watchAdded c.watchRemoved).1 } :=
        tended.registerTechnologySignals true true c.watchAdded c.watchRemoved rfl rfl
      exact registered.getTechnologies (some ()) c.sending rfl rfl
    · exact tended

theorem Tended.reply (tended : Tended s) {h : Nat} {c : Contents} (ran : reply s h c = some s') : Tended s' := by
  obtain ⟨⟨bus, called⟩, replied, rfl⟩ := Option.map_eq_some_iff.mp ran
  have same := ManagerCalls.sameWatches_reply replied
  have handled : Tended { s with bus := bus } :=
    tended.bus (tended.slotted.handled (ManagerCalls.reply_handled replied)) (tended.watched.of_same same)
      (.inl (congrFun same.wid _)) rfl rfl
  dsimp only
  split
  · exact handled
  · exact handled.getTechnologiesCb c
  · exact handled.getServicesCb c

theorem Tended.signal (tended : Tended s) {h : Nat} {c : Contents} (ran : signal s h c = some s') : Tended s' := by
  obtain ⟨watched, _, ran⟩ := Option.bind_eq_some_iff.mp ran
  obtain ⟨manager, _, ran⟩ := Option.bind_eq_some_iff.mp ran
  cases watched with
  | propertyChanged => exact Option.some.inj ran ▸ tended
  | servicesChanged => exact Option.some.inj ran ▸ tended
  | technologyRemoved =>
    dsimp only at ran
    split at ran
    · obtain ⟨_, _, rfl⟩ := Option.map_eq_some_iff.mp ran
      exact tended
    · exact Option.some.inj ran ▸ tended
  | technologyAdded =>
    dsimp only at ran
    split at ran
    · obtain ⟨set, _, rfl⟩ := Option.map_eq_some_iff.mp ran
      split
      · exact tended.getTechnologies (some ()) c.sending rfl rfl
      · exact tended
    · exact Option.some.inj ran ▸ tended

theorem Tended.interfaceInit (tended : Tended s) (o : Outcome) : Tended (connmanInterfaceInit s o).1 := by
  have same : ∀ connman, Tended { s with connman := connman } := fun _ =>
    ⟨tended.slotted, tended.watched, tended.served⟩
  unfold connmanInterfaceInit
  repeat' split
  · exact tended
  · exact tended
  · exact tended
  · exact tended
  · exact tended
  · exact tended
  · exact same .freed
  · exact (same _).down

theorem Tended.dispatch (tended : Tended s) (ran : dispatch s e = some s') : Tended s' := by
  cases e with
  | start o => cases ran
  | up manager service technology agent => exact Option.some.inj ran ▸ tended.up manager service technology agent
  | down => exact Option.some.inj ran ▸ tended.down
  | quit => exact Option.some.inj ran ▸ tended.down.interfaceFinalize ManagerCalls.manager_finalize
  | openMenu menu => exact Option.some.inj ran ▸ tended.openMenu menu
  | closeMenu =>
    cases ran
    unfold connmanServiceFreeServicesList
    split
    · exact tended
    · exact tended.registerServiceSignal false true rfl nofun
  | reply h c => exact tended.reply ran
  | signal h c => exact tended.signal ran

theorem tended_step (tended : Tended s) (ran : step s e = some s') : Tended s' := by
  unfold step at ran
  split at ran
  · exact Option.some.inj ran ▸ tended.interfaceInit _
  · exact tended.dispatch ran
  · cases ran

theorem boot_tended (boot : Boot s) : Tended s := by
  obtain ⟨_, down, calls, watches, _⟩ := boot
  refine ⟨?_, ?_, fun used => absurd (congrFun (ManagerCalls.wid_down down) _) used⟩
  · unfold ManagerCalls.Slotted
    rw [ManagerCalls.callSlot_down down]
    refine ⟨fun m used => absurd rfl used, fun h call m found => ?_⟩
    rw [Pool.find, calls] at found
    cases found
  · unfold ManagerCalls.Watched
    rw [ManagerCalls.wid_down down]
    refine ⟨fun signal used => absurd rfl used, fun h watched signal found => ?_⟩
    rw [Pool.find, watches] at found
    cases found

/-- **No handler without a manager.**  In every run, whatever fails in the init
functions and whatever the bus delivers: whenever the manager is NULL, no watch
and no call of the manager is left, so none of their handlers can run. -/
theorem no_manager_handlers (s : Library) (reached : Reaches step Always Boot s) (down : s.bus.manager = none) :
    (∀ h, s.bus.watches.find h = none) ∧ ∀ h, s.bus.calls.find h = none := by
  have tended : Tended s := reached.invariant (fun _ => boot_tended) fun _ _ _ tended _ ran => tended_step tended ran
  exact ⟨tended.watched.find_down down, tended.slotted.find_down down⟩

/-- The program as it starts. -/
def started : Library := { bus := { calls := { supply := .counting }, watches := { supply := .counting } } }

/-- ConnMan comes up and the menu is opened over a powered wifi. -/
def opened : List Event :=
  [.start {}, .up {} {} {} {}, .openMenu ⟨true, true, true, .sent⟩]

/-- With the menu open the manager has two watches and three calls; when ConnMan
leaves, none. -/
theorem no_manager_handlers_opened : ∃ s s', play step Always started opened = some s ∧
    s.bus.watches.live.map Prod.snd = [.servicesChanged, .propertyChanged] ∧
    s.bus.calls.live.map (fun call => call.2.method) = [.get .services, .get .technologies, .getProperties] ∧
    step s .down = some s' ∧ (∀ h, s'.bus.watches.find h = none) ∧ ∀ h, s'.bus.calls.find h = none := by
  obtain ⟨s, ran⟩ : ∃ s, play step Always started opened = some s := ⟨_, rfl⟩
  obtain ⟨s', gone⟩ : ∃ s', play step Always started (opened ++ [.down]) = some s' := ⟨_, rfl⟩
  have handlers := no_manager_handlers s' ((Reaches.here ⟨rfl, rfl, rfl, rfl, rfl, rfl, rfl⟩).play _ gone)
  refine ⟨s, s', ran, ?_, ?_, ?_, handlers ?_⟩
  · cases ran
    decide
  · cases ran
    decide
  · cases ran
    exact gone
  · cases gone
    rfl

end ConnmanUi.Lifecycle
