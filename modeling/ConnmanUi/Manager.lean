import ConnmanUi.Message
import ConnmanUi.Pool
import ConnmanUi.Run

/-!
The manager's own properties (`lib/manager.c`).

There is one manager, with a slot for the timer of each of its properties.  The
slots are exact in every run (`timers_booked`): the destroy function of a timer
empties the slot of the property the timer is for.
-/

namespace ConnmanUi

/-- `enum connman_state`. -/
inductive ConnmanState where
  | unknown
  | offline
  | idle
  | ready
  | online
  | failure
  deriving DecidableEq

/-- `string2enum_state`. -/
def string2enumState : Option String → ConnmanState
  | some "offline" => .offline
  | some "idle" => .idle
  | some "ready" => .ready
  | some "online" => .online
  | some "failure" => .failure
  | _ => .offline

namespace Manager

open Run

/-- `enum connman_manage_property`. -/
inductive Property where
  | state
  | offlineMode
  deriving DecidableEq

def Property.all : List Property := [.state, .offlineMode]

/-- `struct connman_manager`, as far as its own properties go, with the main
loop. -/
structure State where
  /-- `manager` is not NULL. -/
  up : Bool := false
  state : ConnmanState := .unknown
  offlinemode : Bool := false
  propertyChangedCb : Option Nat := none
  source : Property → Nat := fun _ => 0
  /-- A GetProperties call is in flight. -/
  getPropertiesCall : Bool := false
  /-- The PropertyChanged watch. -/
  propertyChangedWid : Bool := false
  sources : Pool Property
  /-- The timer whose callback is running. -/
  dispatching : Option (Nat × Property) := none
  /-- Ids given to `g_source_remove` that named no source. -/
  stray : List Nat := []
  /-- The callbacks invoked, newest first. -/
  log : List (Nat × Property) := []

variable (s : State) {s' : State}

/-- `destroy_property`. -/
def destroyProperty (i : Property) : State :=
  if s.up then { s with source := Function.update s.source i 0 } else s

/-- `g_source_remove`. -/
def sourceRemove (id : Nat) : State :=
  match s.sources.find id with
  | none => { s with stray := id :: s.stray }
  | some i => destroyProperty { s with sources := s.sources.detach id } i

/-- The timer in a slot is removed, if there is one. -/
def removeSource (i : Property) : State :=
  if s.source i ≠ 0 then sourceRemove s (s.source i) else s

/-- `update_manager_property`. -/
def updateManagerProperty (i : Property) : State :=
  let s := removeSource s i
  { s with
    source := Function.update s.source i s.sources.fresh
    sources := s.sources.attach i }

/-- `property_changed`, run by the timer `id`. -/
def propertyChanged (id : Nat) (i : Property) : State :=
  let s := { s with dispatching := some (id, i) }
  if s.up then
    match s.propertyChangedCb with
    | none => s
    | some cb => { s with log := (cb, i) :: s.log }
  else s

/-- The callback has returned FALSE: the main loop destroys the source, unless
it was removed meanwhile. -/
def timerDone : Option State :=
  s.dispatching.map fun d =>
    let s := { s with dispatching := none }
    if s.sources.find d.1 = some d.2 then sourceRemove s d.1 else s

/-- The part of `get_properties_callback` and of `property_changed_signal_cb`
that stores a property that was read. -/
def store (s : State) (state : Option (Option String)) (offlinemode : Option Bool) : State :=
  let s := match state with
    | none => s
    | some state => updateManagerProperty { s with state := string2enumState state } .state
  match offlinemode with
  | none => s
  | some offlinemode => updateManagerProperty { s with offlinemode := offlinemode } .offlineMode

/-- `get_properties_callback`, on the dictionary of the reply if it has one. -/
def getPropertiesCallback (uninit : Option String) (uninitMode : Bool)
    (reply : Option (List (String × Variant))) : State :=
  let s := { s with getPropertiesCall := false }
  match reply with
  | none => s
  | some dict =>
    let state := getDictString dict "State" uninit
    let offlinemode := getDictBoolean dict "OfflineMode" uninitMode
    store s (if state.1 then some state.2 else none) (if offlinemode.1 then some offlinemode.2 else none)

/-- `property_changed_signal_cb`. -/
def propertyChangedSignalCb (name : String) (value : Value) : State :=
  match name, value with
  | "State", .variant (.string state) => store s (some (some state)) none
  | "OfflineMode", .variant (.boolean offlinemode) => store s none (some offlinemode)
  | _, _ => s

/-- `connman_manager_init`. -/
def connmanManagerInit (cb : Option Nat) : State :=
  if s.up then s
  else { s with up := true, propertyChangedCb := cb, getPropertiesCall := true, propertyChangedWid := true }

/-- `connman_manager_finalize`. -/
def connmanManagerFinalize : State :=
  if s.up then
    let s := Property.all.foldl removeSource { s with propertyChangedCb := none }
    { s with
      up := false
      state := .unknown
      offlinemode := false
      source := fun _ => 0
      getPropertiesCall := false
      propertyChangedWid := false }
  else s

inductive Event where
  | init (cb : Option Nat)
  | finalize
  | timerDone
  | getPropertiesReply (uninit : Option String) (uninitMode : Bool)
      (reply : Option (List (String × Variant)))
  | propertyChanged (name : String) (value : Value)
  | timer (id : Nat)

/-- What the main loop hands to the manager. -/
def dispatch (s : State) : Event → Option State
  | .getPropertiesReply uninit uninitMode reply =>
    if s.getPropertiesCall then some (getPropertiesCallback s uninit uninitMode reply) else none
  | .propertyChanged name value =>
    if s.propertyChangedWid then some (propertyChangedSignalCb s name value) else none
  | .timer id => (s.sources.find id).map fun i => propertyChanged s id i
  | _ => none

/-- One step. -/
def step (s : State) : Event → Option State
  | .init cb => some (connmanManagerInit s cb)
  | .finalize => some (connmanManagerFinalize s)
  | .timerDone => timerDone s
  | e => if s.dispatching = none then dispatch s e else none

/-- The state the program starts in. -/
def Boot (s : State) : Prop := ∃ sources : HandleSupply, s = { sources := { supply := sources } }

/-! ## Exact slots -/

/-- A slot is nonzero exactly while a timer for its property is pending, whose
id it holds; no timer is pending without a manager; and no id was given to
`g_source_remove` that named no source. -/
structure Booked (s : State) : Prop where
  tracks : s.sources.Tracks some s.source
  down : s.up = false → ∀ i, s.source i = 0
  messages : s.up = false → s.getPropertiesCall = false ∧ s.propertyChangedWid = false
  stray : s.stray = []

variable {s} {i j : Property} {id : Nat}

theorem Booked.up_of_find (booked : Booked s) (found : s.sources.find id = some i) : s.up = true := by
  cases up : s.up with
  | true => rfl
  | false =>
    have stored := booked.tracks.stored id i i found rfl
    rw [booked.down up i] at stored
    exact absurd stored.symm (Pool.ne_zero_of_find found)

/-- Removing a pending timer empties its slot, and nothing else. -/
theorem sourceRemove_found (up : s.up = true) (found : s.sources.find id = some i) :
    sourceRemove s id =
      { s with sources := s.sources.detach id, source := Function.update s.source i 0 } := by
  simp [sourceRemove, destroyProperty, found, up]

theorem Booked.sourceRemove (booked : Booked s) (found : s.sources.find id = some i) :
    Booked (sourceRemove s id) := by
  have up := booked.up_of_find found
  have stored := booked.tracks.stored id i i found rfl
  rw [sourceRemove_found up found]
  exact {
    tracks := by
      have detached := booked.tracks.detach i
      rw [stored] at detached
      exact detached
    down := fun down => absurd (up.symm.trans down) nofun
    messages := booked.messages
    stray := booked.stray }

theorem removeSource_spec (booked : Booked s) (i : Property) :
    Booked (removeSource s i) ∧ removeSource s i =
      { s with sources := s.sources.detach (s.source i), source := Function.update s.source i 0 } := by
  unfold removeSource
  split
  case isTrue used =>
    obtain ⟨j, found, own⟩ := booked.tracks.holds i used
    cases own
    exact ⟨booked.sourceRemove found, sourceRemove_found (booked.up_of_find found) found⟩
  case isFalse empty =>
    refine ⟨booked, ?_⟩
    rw [not_not.mp empty, Pool.detach_zero, ← not_not.mp empty, Function.update_eq_self]

theorem Booked.updateManagerProperty (booked : Booked s) (up : s.up = true) (i : Property) :
    Booked (updateManagerProperty s i) ∧ (Manager.updateManagerProperty s i).up = true := by
  obtain ⟨removed, eq⟩ := removeSource_spec booked i
  have stays : (removeSource s i).up = true := by
    rw [eq]
    exact up
  have free : (removeSource s i).source i = 0 := by
    rw [eq]
    exact Function.update_self ..
  refine ⟨?_, stays⟩
  exact {
    tracks := removed.tracks.attach rfl free
    down := fun down => absurd (stays.symm.trans down) nofun
    messages := removed.messages
    stray := removed.stray }

theorem Booked.store (booked : Booked s) (up : s.up = true) (state : Option (Option String))
    (offlinemode : Option Bool) : Booked (store s state offlinemode) := by
  have first : Booked (match state with
      | none => s
      | some state => Manager.updateManagerProperty { s with state := string2enumState state } .state) ∧
      (match state with
      | none => s
      | some state => Manager.updateManagerProperty { s with state := string2enumState state } .state).up =
        true := by
    cases state with
    | none => exact ⟨booked, up⟩
    | some state =>
      exact Booked.updateManagerProperty (s := { s with state := string2enumState state })
        ⟨booked.tracks, booked.down, booked.messages, booked.stray⟩ up .state
  unfold Manager.store
  dsimp only
  generalize (match state with
      | none => s
      | some state => Manager.updateManagerProperty { s with state := string2enumState state } .state) = s₁
    at first ⊢
  obtain ⟨booked₁, up₁⟩ := first
  cases offlinemode with
  | none => exact booked₁
  | some offlinemode =>
    exact (Booked.updateManagerProperty (s := { s₁ with offlinemode := offlinemode })
      ⟨booked₁.tracks, booked₁.down, booked₁.messages, booked₁.stray⟩ up₁ .offlineMode).1

theorem Booked.finalize (booked : Booked s) : Booked (connmanManagerFinalize s) := by
  unfold connmanManagerFinalize
  split
  case isFalse => exact booked
  case isTrue =>
    have start : Booked { s with propertyChangedCb := none } :=
      ⟨booked.tracks, booked.down, booked.messages, booked.stray⟩
    obtain ⟨first, eq⟩ := removeSource_spec start .state
    obtain ⟨second, eq'⟩ := removeSource_spec first .offlineMode
    have empty : ∀ i, (Property.all.foldl removeSource { s with propertyChangedCb := none }).source i = 0 := by
      intro i
      simp only [Property.all, List.foldl_cons, List.foldl_nil]
      rw [eq', eq]
      cases i <;> rfl
    have booked' : Booked (Property.all.foldl removeSource { s with propertyChangedCb := none }) := second
    exact {
      tracks := booked'.tracks.congr fun i => (empty i).symm
      down := fun _ _ => rfl
      messages := fun _ => ⟨rfl, rfl⟩
      stray := booked'.stray }

theorem boot_booked (boot : Boot s) : Booked s := by
  obtain ⟨sources, rfl⟩ := boot
  exact {
    tracks := ⟨fun _ used => absurd rfl used, fun _ _ _ found => by cases found⟩
    down := fun _ _ => rfl
    messages := fun _ => ⟨rfl, rfl⟩
    stray := rfl }

theorem booked_step {e : Event} (booked : Booked s) (ran : step s e = some s') : Booked s' := by
  have handed : (if s.dispatching = none then dispatch s e else none) = some s' →
      dispatch s e = some s' := fun h => (Option.ite_none_right_eq_some.mp h).2
  cases e with
  | init cb =>
    cases ran
    unfold connmanManagerInit
    split
    · exact booked
    · exact ⟨booked.tracks, nofun, nofun, booked.stray⟩
  | finalize =>
    cases ran
    exact booked.finalize
  | timerDone =>
    obtain ⟨⟨id, i⟩, _, rfl⟩ := Option.map_eq_some_iff.mp ran
    have idle : Booked { s with dispatching := none } :=
      ⟨booked.tracks, booked.down, booked.messages, booked.stray⟩
    dsimp only
    split
    case isTrue pending => exact idle.sourceRemove pending
    case isFalse => exact idle
  | getPropertiesReply uninit uninitMode reply =>
    obtain ⟨asked, ran⟩ := Option.ite_none_right_eq_some.mp (handed ran)
    cases ran
    have up : s.up = true := by
      cases up : s.up with
      | true => rfl
      | false => rw [(booked.messages up).1] at asked; cases asked
    have answered : Booked { s with getPropertiesCall := false } :=
      ⟨booked.tracks, booked.down, fun down => absurd (up.symm.trans down) nofun, booked.stray⟩
    unfold getPropertiesCallback
    cases reply with
    | none => exact answered
    | some dict => exact answered.store up _ _
  | propertyChanged name value =>
    obtain ⟨watched, ran⟩ := Option.ite_none_right_eq_some.mp (handed ran)
    cases ran
    have up : s.up = true := by
      cases up : s.up with
      | true => rfl
      | false => rw [(booked.messages up).2] at watched; cases watched
    unfold propertyChangedSignalCb
    split
    · exact booked.store up _ _
    · exact booked.store up _ _
    · exact booked
  | timer id =>
    obtain ⟨i, found, rfl⟩ := Option.map_eq_some_iff.mp (handed ran)
    unfold propertyChanged
    dsimp only
    split
    · split
      · exact ⟨booked.tracks, booked.down, booked.messages, booked.stray⟩
      · exact ⟨booked.tracks, booked.down, booked.messages, booked.stray⟩
    · exact ⟨booked.tracks, booked.down, booked.messages, booked.stray⟩

theorem reaches_booked {guard : State → Event → Prop} (reached : Reaches step guard Boot s) : Booked s :=
  reached.invariant (fun _ => boot_booked) fun _ _ _ booked _ ran => booked_step booked ran

end Manager

end ConnmanUi
