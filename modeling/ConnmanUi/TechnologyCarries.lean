import ConnmanUi.TechnologyFrames

/-!
What a technology keeps while others come.

A step that frees nothing leaves every technology its callbacks, and gives none
to another; and while a technology has callbacks, Powered does not change
without an update being scheduled (`step_carries`).  A technology that is freed
loses its callbacks, and the others keep theirs (`listeners_hashRemove`).
-/

namespace ConnmanUi

open Registry

namespace Registry

variable {ι ρ : Type} {r r' r'' : Registry ι ρ}
  {o o' : ObjId} {path : String}

/-- The callbacks of an object. -/
def listeners (r : Registry ι ρ) (o : ObjId) : Option Callback × Option Callback :=
  ((r.heap o).propertyChangedCb, (r.heap o).propertySetErrorCb)

/-- Storage that is not allocated has no callbacks. -/
def Blank (r : Registry ι ρ) : Prop := ∀ o, ¬ r.Live o → r.listeners o = (none, none)

theorem SameCallbacks.listeners (same : SameCallbacks r r') : r'.listeners = r.listeners :=
  funext fun o => Prod.ext (same.changed o) (same.error o)

theorem SameObjects.listeners (same : SameObjects r r') : r'.listeners = r.listeners :=
  same.sameCallbacks.listeners

theorem listeners_modify {f : Object ι ρ → Object ι ρ}
    (changed : (f (r.heap o)).propertyChangedCb = (r.heap o).propertyChangedCb)
    (error : (f (r.heap o)).propertySetErrorCb = (r.heap o).propertySetErrorCb) :
    (r.modify o f).listeners = r.listeners :=
  funext fun o' => Prod.ext (modify_field Object.propertyChangedCb changed o')
    (modify_field Object.propertySetErrorCb error o')

theorem listeners_setCallbacks (r : Registry ι ρ) (o : ObjId) (changed error : Option Callback) (o' : ObjId) :
    (r.setCallbacks o changed error).listeners o' = if o' = o then (changed, error) else r.listeners o' := by
  unfold setCallbacks Registry.listeners
  rw [heap_modify]
  split
  · rfl
  · rfl

theorem listeners_create [PropertyIndex ι] [Inhabited ρ]
    (blank : Blank r) (path : String) : (r.create path).listeners = r.listeners := by
  funext o
  by_cases new : o = r.next
  · subst new
    rw [blank _ (next_not_live r)]
    simp [Registry.listeners, Registry.create, Object.blank]
  · simp [Registry.listeners, Registry.create, new]

theorem listeners_objectFree [DecidableEq ι] [PropertyIndex ι] [Inhabited ρ]
    (unselected : r.selected = none) (o o' : ObjId) :
    (r.objectFree o).listeners o' = if o' = o then (none, none) else r.listeners o' := by
  unfold objectFree
  rw [if_neg (by rw [unselected]; nofun)]
  have released := (releaseHandles_spec o r).1.listeners
  by_cases here : o' = o
  · simp [Registry.listeners, storageFree, here, Object.blank]
  · rw [if_neg here, ← released]
    simp [Registry.listeners, storageFree, here]

/-- Only what leaves the table loses its callbacks. -/
theorem listeners_hashRemove [DecidableEq ι] [PropertyIndex ι] [Inhabited ρ]
    (unselected : r.selected = none) (path : String) (o : ObjId) :
    (r.hashRemove objectFree path).listeners o =
      if r.table.lookup path = some o then (none, none) else r.listeners o := by
  unfold hashRemove
  cases entry : r.table.lookup path with
  | none => rfl
  | some left =>
    dsimp only
    rw [listeners_objectFree (r := { r with table := r.table.filter (·.1 ≠ path) }) unselected]
    by_cases here : o = left
    · rw [if_pos here, if_pos (congrArg some here.symm)]
    · rw [if_neg here, if_neg fun same => here (Option.some.inj same).symm]
      rfl

theorem get_eq_lookup (unselected : r.selected = none) (path : String) : r.get path = r.table.lookup path := by
  unfold Registry.get
  rw [unselected]
  split
  case h_1 found => exact found.symm
  case h_2 absent => exact absent.symm

theorem get_hashRemove [DecidableEq ι] [PropertyIndex ι] [Inhabited ρ]
    (unselected : r.selected = none) (path other : String) :
    (r.hashRemove objectFree path).get other = if other = path then none else r.get other := by
  have unselected' : (r.hashRemove objectFree path).selected = none := (Op.removed path).unselected unselected
  rw [get_eq_lookup unselected', hashRemove_table, lookup_filter_ne, get_eq_lookup unselected]

theorem listeners_freeAll [DecidableEq ι] [PropertyIndex ι] [Inhabited ρ]
    (leaving : List (String × ObjId)) (unselected : r.selected = none) (o : ObjId) :
    (leaving.foldl (fun r entry => r.objectFree entry.2) r).listeners o =
      if o ∈ leaving.map Prod.snd then (none, none) else r.listeners o := by
  induction leaving generalizing r with
  | nil => rfl
  | cons entry leaving ih =>
    rw [List.foldl_cons, ih (by rw [objectFree_selected, unselected]), listeners_objectFree unselected]
    by_cases later : o ∈ leaving.map Prod.snd
    · rw [if_pos later, List.map_cons, if_pos (List.mem_cons_of_mem _ later)]
    · rw [if_neg later]
      simp only [List.map_cons, List.mem_cons, later, or_false]

theorem listeners_hashRemoveAll [DecidableEq ι] [PropertyIndex ι] [Inhabited ρ]
    (unselected : r.selected = none) (o : ObjId) :
    (r.hashRemoveAll objectFree).listeners o =
      if o ∈ r.table.map Prod.snd then (none, none) else r.listeners o :=
  listeners_freeAll (r := { r with table := [] }) r.table unselected o

theorem sendScan_listeners (callback : Option Callback) (outcome : SendOutcome) :
    (r.sendScan o callback outcome).1.listeners = r.listeners := by
  have stored : ∀ (scans : Pool ScanCall) (id : Nat) (callback : Option Callback),
      (Registry.modify { r with scans := scans } o fun obj =>
        { obj with scanCb := callback, scanCall := id }).listeners = r.listeners := fun scans id callback =>
    listeners_modify (r := { r with scans := scans }) rfl rfl
  cases outcome with
  | noMessage => rfl
  | refused => exact stored r.scans 0 none
  | noPending => exact stored r.scans 0 none
  | noNotify => exact stored _ _ _
  | sent => exact stored _ _ _
  | noSetting => exact stored _ _ _

theorem scanCallback_listeners {call : Nat} (ran : r.scanCallback call = some r') :
    r'.listeners = r.listeners := by
  unfold Registry.scanCallback at ran
  split at ran
  case h_2 => cases ran
  case h_1 o _ =>
    have replied : (Registry.modify { r with scans := r.scans.detach call } o fun obj =>
        { obj with scanCall := 0 }).listeners = r.listeners :=
      listeners_modify (r := { r with scans := r.scans.detach call }) rfl rfl
    dsimp only at ran
    split at ran
    · cases ran
      exact replied
    · cases ran
      exact replied

end Registry

namespace Technology

variable {uninit : Option String} {s s' : State} {e : Event} {o o' : ObjId} {path : String}
  {r r' r'' : Registry Property Record}

/-- From `r` to `r'` the technologies live on, with the callbacks they had and
nobody else has any, and Powered of one with callbacks has not changed without
an update being scheduled. -/
structure Carries (r r' : Registry Property Record) : Prop where
  live : ∀ o, r.Live o → r'.Live o
  known : ∀ path o, r.get path = some o → r'.get path = some o
  listeners : r'.listeners = r.listeners
  powered : ∀ o, r.Live o → (r.listeners o).1 ≠ none →
    r'.timerSlot (.update o .powered) ≠ 0 ∨ (r'.heap o).rest.powered = (r.heap o).rest.powered
  updating : ∀ o, r.Live o → r.timerSlot (.update o .powered) ≠ 0 → r'.timerSlot (.update o .powered) ≠ 0

theorem Carries.refl (r : Registry Property Record) : Carries r r :=
  ⟨fun _ => id, fun _ _ => id, rfl, fun _ _ _ => .inr rfl, fun _ _ => id⟩

theorem Carries.trans (first : Carries r r') (rest : Carries r' r'') : Carries r r'' where
  live o alive := rest.live o (first.live o alive)
  known path o found := rest.known path o (first.known path o found)
  listeners := rest.listeners.trans first.listeners
  powered o alive registered := by
    have alive' := first.live o alive
    rcases first.powered o alive registered with updating | same
    · exact .inl (rest.updating o alive' updating)
    · rw [← same]
      exact rest.powered o alive' (by rw [first.listeners]; exact registered)
  updating o alive used := rest.updating o (first.live o alive) (first.updating o alive used)

theorem Carries.blank (carries : Carries r r') (blank : Blank r) : Blank r' := by
  intro o dead
  rw [carries.listeners]
  exact blank o fun alive => dead (carries.live o alive)

/-- Objects that stay where they are, with their callbacks. -/
theorem Carries.of_place (place : SamePlace r r') (listeners : r'.listeners = r.listeners)
    (powered : ∀ o, r.Live o → (r.listeners o).1 ≠ none →
      r'.timerSlot (.update o .powered) ≠ 0 ∨ (r'.heap o).rest.powered = (r.heap o).rest.powered)
    (updating : ∀ o, r.Live o → r.timerSlot (.update o .powered) ≠ 0 →
      r'.timerSlot (.update o .powered) ≠ 0) : Carries r r' :=
  ⟨fun o => (place.live o).mpr, fun path _ found => (place.get path).trans found, listeners, powered, updating⟩

/-- Nothing is stored, and no timer is touched. -/
theorem Carries.of_same (data : SameData r r') (listeners : r'.listeners = r.listeners) (same : SameTimers r r') :
    Carries r r' :=
  .of_place data.toSamePlace listeners (fun _ _ _ => .inr (by rw [data.rest]))
    fun o _ used => ne_of_eq_of_ne ((same.slots (.update o .powered)).resolve_right nofun) used

/-! ## Listing technologies -/

theorem updateTechnologyProperty_rest (uninit : Option String) (s : State) (o : ObjId) (entry : String × Value)
    (o' : ObjId) :
    ((updateTechnologyProperty uninit s o entry).reg.heap o').rest =
      if o' = o then (storeProperty uninit (s.reg.heap o) entry.1 entry.2).rest else (s.reg.heap o').rest := by
  have stored : ((s.reg.modify o fun obj => storeProperty uninit obj entry.1 entry.2).heap o').rest =
      if o' = o then (storeProperty uninit (s.reg.heap o) entry.1 entry.2).rest else (s.reg.heap o').rest := by
    rw [heap_modify]
    split
    · rfl
    · rfl
  unfold updateTechnologyProperty
  dsimp only
  split
  · exact ((propertyUpdate_upkeep _ _ _).object o').rest.trans stored
  · exact stored

theorem updateTechnologyProperty_listeners (uninit : Option String) (s : State) (o : ObjId) (entry : String × Value) :
    (updateTechnologyProperty uninit s o entry).reg.listeners = s.reg.listeners := by
  obtain ⟨rest, handled⟩ := updateTechnologyProperty_reg uninit s o entry
  have stored : ∀ index, (s.reg.setData o rest index).listeners = s.reg.listeners := fun index =>
    listeners_modify rfl rfl
  rw [handled]
  split
  · exact (propertyUpdate_upkeep _ _ _).toSameObjects.listeners.trans (stored _)
  · exact stored none

/-- An entry that names Powered has an update scheduled, if there is a callback. -/
theorem updateTechnologyProperty_carries (uninit : Option String) (timed : Timed s.reg) (live : s.reg.Live o)
    (entry : String × Value) : Carries s.reg (updateTechnologyProperty uninit s o entry).reg := by
  obtain ⟨passes, _, _⟩ := updateTechnologyProperty_passes uninit o timed entry
  refine .of_place (updateTechnologyProperty_spec uninit entry live).1.place
    (updateTechnologyProperty_listeners uninit s o entry) (fun o' _ registered => ?_) fun o' _ used => ?_
  · rw [updateTechnologyProperty_rest]
    split
    case isFalse => exact .inr rfl
    case isTrue here =>
      subst here
      by_cases named : Property.ofName entry.1 = some .powered
      · exact .inl (passes.renewed .powered ⟨registered, by simp [nextIndex, named]⟩).1
      · exact .inr (storeProperty_powered _ named)
  · by_cases passed : o' = o ∧ (s.reg.heap o).propertyChangedCb ≠ none ∧
        nextIndex (s.reg.heap o).updateIndex entry = some .powered
    · obtain ⟨rfl, passed⟩ := passed
      exact (passes.renewed .powered passed).1
    · rw [passes.kept o' .powered passed]
      exact used

theorem updateProperties_carries (uninit : Option String) (dict : Dict) (owned : Owned s.reg) (timed : Timed s.reg)
    (live : s.reg.Live o) :
    Carries s.reg (dict.foldl (fun s entry => updateTechnologyProperty uninit s o entry) s).reg := by
  induction dict generalizing s with
  | nil => exact .refl _
  | cons entry dict ih =>
    have ops := (updateTechnologyProperty_spec (s := s) uninit entry live).1
    have after := ops.ops.invariant owned timed fun _ _ owned timed op => timed.op owned op
    exact (updateTechnologyProperty_carries uninit timed live entry).trans
      (ih after.1 after.2 ((ops.place.live o).mpr live))

theorem create_carries (owned : Owned r) (held : Held r) (blank : Blank r) (absent : r.get path = none) :
    Carries r (r.create path) where
  live o alive := (live_create owned path o).mpr (.inl alive)
  known path' o found := by
    obtain ⟨alive, named, _⟩ := owned.get_spec found
    have after := ((held o alive).create owned absent).2
    rw [heap_create_of_live path alive, named] at after
    exact after
  listeners := listeners_create blank path
  powered o alive _ := .inr (by rw [heap_create_of_live path alive])
  updating o alive used := by
    have same : ((r.create path).heap o).toUpdate .powered = (r.heap o).toUpdate .powered := by
      rw [heap_create_of_live path alive]
    exact ne_of_eq_of_ne same used

/-- What listing technologies needs and keeps. -/
structure Listable (s : State) : Prop where
  owned : Owned s.reg
  held : Held s.reg
  timed : Timed s.reg
  blank : Blank s.reg
  unselected : s.reg.selected = none

theorem updateOrCreateTechnology_carries (uninit : Option String) (listable : Listable s) (up : s.up = true)
    (technology : String × Dict) :
    Carries s.reg (updateOrCreateTechnology uninit s technology).reg := by
  unfold updateOrCreateTechnology getOrCreate
  rw [if_pos up]
  cases found : s.reg.get technology.1 with
  | some o =>
    exact updateProperties_carries uninit technology.2 listable.owned listable.timed
      (listable.owned.get_spec found).1
  | none =>
    have created := create_carries listable.owned listable.held listable.blank found
    have ops : Ops s.reg (s.reg.create technology.1) := .one (.created technology.1 found)
    have after := ops.invariant listable.owned listable.timed fun _ _ owned timed op => timed.op owned op
    exact created.trans (updateProperties_carries (s := { s with reg := s.reg.create technology.1 }) uninit
      technology.2 after.1 after.2 (found_created listable.owned technology.1).1)

theorem Listable.next (listable : Listable s) (uninit : Option String) (up : s.up = true)
    (technology : String × Dict) : Listable (updateOrCreateTechnology uninit s technology) := by
  have lists := updateOrCreateTechnology_lists uninit listable.owned listable.unselected up technology
  have carries := updateOrCreateTechnology_carries uninit listable up technology
  have after := lists.ops.invariant listable.owned listable.timed fun _ _ owned timed op => timed.op owned op
  exact ⟨after.1, after.2.held, after.2, carries.blank listable.blank, lists.selected.trans listable.unselected⟩

theorem updateOrCreateTechnologies_carries (uninit : Option String) (technologies : List (String × Dict))
    (listable : Listable s) (up : s.up = true) :
    Carries s.reg (technologies.foldl (updateOrCreateTechnology uninit) s).reg := by
  induction technologies generalizing s with
  | nil => exact .refl _
  | cons technology technologies ih =>
    have lists := updateOrCreateTechnology_lists uninit listable.owned listable.unselected up technology
    have up' : (updateOrCreateTechnology uninit s technology).up = true := by
      rw [lists.rest]
      exact up
    exact (updateOrCreateTechnology_carries uninit listable up technology).trans
      (ih (listable.next uninit up technology) up')

/-! ## Steps -/

/-- What the client has registered with the module as a whole, and whether that
is up. -/
structure Registrations where
  up : Bool
  propertyChangedCb : Option Callback
  addedCb : Option Callback
  removedCb : Option Callback

def registrations (s : State) : Registrations :=
  ⟨s.up, s.propertyChangedCb, s.addedCb, s.removedCb⟩

/-- The events that free nothing and set no callback. -/
def Still : Event → Prop
  | .set .. | .scan .. | .technologyAdded .. | .getTechnologiesReply .. | .propertyChanged .. | .setPropertyReply ..
    | .scanReply _ | .timer _ => True
  | _ => False

theorem Tidy.listable (tidy : Tidy s) (timed : Timed s.reg) (blank : Blank s.reg) : Listable s :=
  ⟨tidy.owned, tidy.held, timed, blank, tidy.unselected⟩

theorem registrations_of_frame (frame : s' = { s with reg := s'.reg }) : registrations s' = registrations s := by
  rw [frame]
  rfl

theorem getTechnologiesCallback_registrations (tidy : Tidy s) (uninit : Option String) (reply : TechnologiesReply) :
    registrations (getTechnologiesCallback uninit s reply) = registrations s := by
  cases reply with
  | noArguments => rfl
  | notArray =>
    unfold getTechnologiesCallback getTechnologiesCb
    dsimp only
    split
    · rfl
    · rfl
  | technologies technologies =>
    unfold getTechnologiesCallback
    dsimp only
    by_cases up : s.up = true
    · obtain ⟨listed, lists, handled⟩ := getTechnologiesCb_spec uninit
        (s := { s with getTechnologiesCall := none }) tidy.owned tidy.unselected up technologies
      have same := registrations_of_frame lists.rest
      rw [handled]
      split
      · exact same
      · exact same
    · unfold getTechnologiesCb
      rw [if_neg up]
      rfl

/-- What the client has registered stays registered. -/
theorem registrations_step (tidy : Tidy s) (ran : step s e = some s') (still : Still e ∨ e = .timerDone) :
    registrations s' = registrations s := by
  cases e with
  | set path setting outcome =>
    cases ran
    exact registrations_of_frame (connmanTechnologySet_spec tidy.owned path setting outcome).2
  | scan path callback outcome =>
    cases ran
    exact registrations_of_frame (connmanTechnologyScan_spec tidy.owned path callback outcome).2
  | technologyAdded uninit technology =>
    obtain ⟨heard, ran⟩ := Option.ite_none_right_eq_some.mp (handed ran).2
    cases ran
    obtain ⟨listed, lists, handled⟩ :=
      technologyAddedCb_spec uninit tidy.owned tidy.unselected (tidy.signals heard) technology
    have same := registrations_of_frame lists.rest
    rw [handled]
    split
    · exact same
    · exact same
  | getTechnologiesReply call uninit reply =>
    obtain ⟨_, ran⟩ := Option.ite_none_right_eq_some.mp (handed ran).2
    cases ran
    exact getTechnologiesCallback_registrations tidy uninit reply
  | propertyChanged wid uninit name value =>
    obtain ⟨o, _, rfl⟩ := Option.map_eq_some_iff.mp (handed ran).2
    rw [propertyChangedSignalCb_frame]
    rfl
  | setPropertyReply call failed =>
    obtain ⟨reg, _, rfl⟩ := Option.map_eq_some_iff.mp (handed ran).2
    rfl
  | scanReply call =>
    obtain ⟨reg, _, rfl⟩ := Option.map_eq_some_iff.mp (handed ran).2
    rfl
  | timer id =>
    obtain ⟨reg, _, rfl⟩ := Option.map_eq_some_iff.mp (handed ran).2
    rfl
  | timerDone =>
    obtain ⟨reg, _, rfl⟩ := Option.map_eq_some_iff.mp ran
    rfl
  | _ => exact (still.resolve_right nofun).elim

theorem technologyAddedCb_carries (uninit : Option String) (listable : Listable s) (up : s.up = true)
    (technology : String × Dict) : Carries s.reg (technologyAddedCb uninit s technology).reg := by
  have listed := updateOrCreateTechnology_carries uninit listable up technology
  have told : ∀ s path, Carries s.reg (callAddedCb s path).reg := by
    intro s path
    unfold callAddedCb
    split
    · exact .refl _
    · exact .of_same (note_upkeep _ _).toSameObjects.sameData rfl (note_sameTimers _ _)
  unfold technologyAddedCb
  dsimp only
  split
  · exact listed.trans (told _ _)
  · exact listed.trans (told _ _)

theorem getTechnologiesCallback_carries (uninit : Option String) (listable : Listable s) (reply : TechnologiesReply) :
    Carries s.reg (getTechnologiesCallback uninit s reply).reg := by
  have idle : Listable { s with getTechnologiesCall := none } :=
    ⟨listable.owned, listable.held, listable.timed, listable.blank, listable.unselected⟩
  unfold getTechnologiesCallback getTechnologiesCb
  cases reply with
  | noArguments => exact .refl _
  | notArray =>
    dsimp only
    split
    · exact .refl _
    · exact .refl _
  | technologies technologies =>
    dsimp only
    split
    case isFalse => exact .refl _
    case isTrue up =>
      have listed := updateOrCreateTechnologies_carries uninit technologies idle up
      split
      · exact listed
      · exact listed

theorem step_carries (listable : Listable s) (tidy : Tidy s) (ran : step s e = some s') (still : Still e) :
    Carries s.reg s'.reg := by
  have refl : Carries s.reg s.reg := .refl _
  cases e with
  | set path setting outcome =>
    obtain ⟨same, _⟩ := callbacks_step ran trivial
    cases ran
    obtain ⟨timers, data, _⟩ := set_step s path setting outcome
    exact .of_same data same.listeners timers
  | scan path callback outcome =>
    cases ran
    unfold connmanTechnologyScan
    split
    · exact refl
    · exact .of_same (sendScan_sameData callback outcome) (sendScan_listeners callback outcome)
        (sendScan_sameTimers _ _ callback outcome)
  | technologyAdded uninit technology =>
    obtain ⟨heard, ran⟩ := Option.ite_none_right_eq_some.mp (handed ran).2
    cases ran
    exact technologyAddedCb_carries uninit listable (tidy.signals heard) technology
  | getTechnologiesReply call uninit reply =>
    obtain ⟨_, ran⟩ := Option.ite_none_right_eq_some.mp (handed ran).2
    cases ran
    exact getTechnologiesCallback_carries uninit listable reply
  | propertyChanged wid uninit name value =>
    obtain ⟨same, _⟩ := callbacks_step ran trivial
    obtain ⟨o, _, _, passes, _, data⟩ := propertyChanged_step tidy listable.timed ran
    refine .of_place same.toSamePlace same.listeners (fun o' _ registered => ?_) fun o' _ used => ?_
    · by_cases named : o' = o ∧ Property.ofName name = some .powered
      · obtain ⟨rfl, named⟩ := named
        exact .inl (passes.renewed .powered ⟨registered, named⟩).1
      · exact .inr (data o' fun here powered => named ⟨here, powered⟩)
    · by_cases passed : o' = o ∧ (s.reg.heap o).propertyChangedCb ≠ none ∧ Property.ofName name = some .powered
      · obtain ⟨rfl, passed⟩ := passed
        exact (passes.renewed .powered passed).1
      · rw [passes.kept o' .powered passed]
        exact used
  | setPropertyReply call failed =>
    obtain ⟨same, _⟩ := callbacks_step ran trivial
    obtain ⟨reg, replied, rfl⟩ := Option.map_eq_some_iff.mp (handed ran).2
    have data := setPropertyReply_sameData replied
    refine .of_place same.toSamePlace same.listeners (fun o _ _ => .inr (by rw [data.rest])) fun o live used => ?_
    exact (listable.timed.setPropertyReply_grows replied).stays.slots o .powered live.1
      ((data.toSamePlace.live o).mpr live) used
  | scanReply call =>
    obtain ⟨reg, replied, rfl⟩ := Option.map_eq_some_iff.mp (handed ran).2
    exact .of_same (scanCallback_sameData replied) (scanCallback_listeners replied) (scanCallback_sameTimers replied)
  | timer id =>
    obtain ⟨same, _⟩ := callbacks_step ran trivial
    obtain ⟨reg, fired, rfl⟩ := Option.map_eq_some_iff.mp (handed ran).2
    exact .of_same (timerRun_upkeep fired).toSameObjects.sameData same.listeners (timerRun_sameTimers fired)
  | _ => exact still.elim

end Technology

end ConnmanUi
