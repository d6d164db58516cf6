import ConnmanUi.SettingCalls
import ConnmanUi.TechnologyUpdates

/-!
Who is told that a property of a technology changed.

The timer of a change invokes the global callback and the technology's own.
`property_update` attaches it only if the technology has its own callback, so a
client with a global callback misses changes of the technologies nobody else
listens to (`listeners_reached_iff`).
-/

namespace ConnmanUi

open Registry Run

namespace Registry

variable {ι ρ : Type} {r r' r'' : Registry ι ρ}
  {o : ObjId} {i : ι} {id : Nat} {c : PropertyChange ι} {a : Act}

/-! ## What a timer invokes -/

/-- The callbacks invoked for a change, the last one first. -/
def invoked (global own : Option Callback) (path : String) (name : ι) : List (Note ι) :=
  own.toList.map (.changedCb · path name) ++ global.toList.map (.changedCb · path name)

/-- An update timer that fires invokes both callbacks registered then, once. -/
theorem timerRun_log [DecidableEq ι] [PropertyIndex ι] {global : Option Callback} (timed : Timed r)
    (found : r.sources.find id = some (.property c)) (error : c.error = false)
    (ran : r.timerRun global id = some r') :
    r'.log = invoked global (r.heap c.path).propertyChangedCb (r.heap c.path).path c.index ++
      .fired c.path c.index (r.heap c.path).propertyChangedCb :: r.log := by
  have own : (Source.property c).slot = .update c.path c.index := by simp [Source.slot, error]
  have live := (timed.updates c.path c.index).live timed.recorded found own
  have there := (timed.held c.path live).2
  have named := timed.recorded.formed id c found
  unfold PropertyChange.Formed at named
  simp only [error, Bool.false_eq_true, ↓reduceIte] at named
  obtain ⟨c', found', rfl⟩ := timerRun_spec ran
  rw [found] at found'
  cases found'
  have place : ({ r with dispatching := some (id, c) }.note
      (.fired c.path c.index (r.heap c.path).propertyChangedCb)).get (r.heap c.path).path = some c.path := there
  simp only [error, Bool.false_eq_true, ↓reduceIte]
  unfold propertyChangedOrError invoked
  simp only [note] at place ⊢
  rw [place]
  simp only [error, Bool.false_eq_true, ↓reduceIte, named]
  cases global <;> cases (r.heap c.path).propertyChangedCb <;> rfl

/-! ## Timers that stay pending -/

/-- The update timers of the objects there were stay pending. -/
structure Stays (r r' : Registry ι ρ) : Prop where
  next : r.next ≤ r'.next
  live : ∀ o, o < r.next → r'.Live o → r.Live o
  slots : ∀ o i, o < r.next → r'.Live o → r.timerSlot (.update o i) ≠ 0 → r'.timerSlot (.update o i) ≠ 0

theorem Grows.stays (grows : Grows r r') : Stays r r' :=
  ⟨grows.next, fun o old alive => (grows.live o old alive).1, grows.slots⟩

theorem Stays.refl (r : Registry ι ρ) : Stays r r := ⟨Nat.le_refl _, fun _ _ alive => alive, fun _ _ _ _ used => used⟩

theorem Stays.trans (first : Stays r r') (rest : Stays r' r'') : Stays r r'' where
  next := first.next.trans rest.next
  live o old alive := first.live o old (rest.live o (Nat.lt_of_lt_of_le old first.next) alive)
  slots o i old alive used := by
    have old' := Nat.lt_of_lt_of_le old first.next
    exact rest.slots o i old' alive (first.slots o i old (rest.live o old' alive) used)

theorem stays_of_place (place : SamePlace r r')
    (slots : ∀ o i, r.timerSlot (.update o i) ≠ 0 → r'.timerSlot (.update o i) ≠ 0) : Stays r r' where
  next := place.next.ge
  live o _ := (place.live o).mp
  slots o i _ _ := slots o i

theorem SameTimers.stays (same : SameTimers r r') (place : SamePlace r r') : Stays r r' :=
  stays_of_place place fun o i used => ne_of_eq_of_ne ((same.slots (.update o i)).resolve_right nofun) used

theorem Timed.stays_op [DecidableEq ι] [PropertyIndex ι] [Inhabited ρ]
    (timed : Timed r) (owned : Owned r) (op : Op r r') : Stays r r' := by
  cases op with
  | quiet op =>
    rcases op.timers with same | ⟨r₁, o, i, same, place, _, rfl⟩
    · exact same.stays op.place
    · exact (same.stays place).trans ((timed.same same place).propertyUpdate_grows o i).stays
  | created path => exact (timed.create_grows owned path).stays
  | removed path => exact (timed.removal_grows owned path).1.1.stays
  | removedAll => exact (timed.removal_grows owned "").2.1.1.stays
  | deselected => exact (timed.removal_grows owned "").2.2.1.stays

/-- Only a timer that is over is lost. -/
theorem Timed.stays_change [DecidableEq ι] [PropertyIndex ι] [Inhabited ρ]
    (timed : Timed r) (owned : Owned r) (change : Change r a r') (going : a ≠ .timerDone) :
    Stays r r' := by
  refine (change.invariant (I := fun r' => Timed r' ∧ Stays r r') owned ⟨timed, .refl r⟩
    (fun _ _ owned inv op => ⟨inv.1.op owned op, inv.2.trans (inv.1.stays_op owned op)⟩) ?_
    fun _ _ inv _ => ⟨inv.1.scheduleRefresh, inv.2.trans inv.1.scheduleRefresh_grows.stays⟩).2.2
  intro r' owned inv acts
  refine ⟨inv.1.acts owned acts, ?_⟩
  cases acts with
  | replied call failed ran => exact (inv.1.setPropertyReply_grows ran).stays
  | timerDone ran => exact absurd rfl going
  | refreshDone id due => exact ⟨Nat.le_refl _, fun _ _ alive => alive, fun _ _ _ _ used => used⟩

end Registry

namespace Technology

variable {uninit : Option String} {s s' : State} {e : Event} {o : ObjId} {i : Property}

/-! ## The running timer -/

theorem updateTechnologyProperty_dispatching (uninit : Option String) (s : State) (o : ObjId)
    (entry : String × Value) :
    (updateTechnologyProperty uninit s o entry).reg.dispatching = s.reg.dispatching := by
  obtain ⟨rest, handled⟩ := updateTechnologyProperty_reg uninit s o entry
  rw [handled]
  split
  · exact (propertyUpdate_hushed _ _ _).dispatching
  · rfl

theorem updateOrCreateTechnology_dispatching (uninit : Option String) (s : State)
    (technology : String × Dict) :
    (updateOrCreateTechnology uninit s technology).reg.dispatching = s.reg.dispatching := by
  have updates : ∀ (o : ObjId) (dict : Dict) (s : State),
      (dict.foldl (fun s entry => updateTechnologyProperty uninit s o entry) s).reg.dispatching =
        s.reg.dispatching := by
    intro o dict
    induction dict with
    | nil => exact fun _ => rfl
    | cons entry dict ih => exact fun s => (ih _).trans (updateTechnologyProperty_dispatching uninit s o entry)
  have found : (getOrCreate s technology.1).1.reg.dispatching = s.reg.dispatching := by
    unfold getOrCreate
    split <;> rfl
  unfold updateOrCreateTechnology
  split
  · exact (updates _ _ _).trans found
  · rfl

theorem technologyAddedCb_dispatching (uninit : Option String) (s : State) (technology : String × Dict) :
    (technologyAddedCb uninit s technology).reg.dispatching = s.reg.dispatching := by
  have told : ∀ s path, (callAddedCb s path).reg.dispatching = s.reg.dispatching := by
    intro s path
    unfold callAddedCb
    split <;> rfl
  have listed := updateOrCreateTechnology_dispatching uninit s technology
  unfold technologyAddedCb
  dsimp only
  split
  · exact (told _ _).trans listed
  · exact (told _ _).trans listed

theorem technologyRemovedCb_dispatching (tidy : Tidy s) (timed : Timed s.reg) (path : String) :
    (technologyRemovedCb s path).reg.dispatching = s.reg.dispatching := by
  have quiet := (callRemovedCb_spec s path).1
  have same : (callRemovedCb s path).reg.dispatching = s.reg.dispatching := by
    unfold callRemovedCb
    split <;> rfl
  obtain ⟨owned, timed⟩ := quiet.ops.invariant tidy.owned timed fun _ _ owned timed op => timed.op owned op
  exact ((timed.removal_grows owned path).1.2).trans same

theorem getTechnologiesCallback_dispatching (uninit : Option String) (s : State) (reply : TechnologiesReply) :
    (getTechnologiesCallback uninit s reply).reg.dispatching = s.reg.dispatching := by
  have folded : ∀ (technologies : List (String × Dict)) (s : State),
      (technologies.foldl (updateOrCreateTechnology uninit) s).reg.dispatching = s.reg.dispatching := by
    intro technologies
    induction technologies with
    | nil => exact fun _ => rfl
    | cons technology technologies ih =>
      exact fun s => (ih _).trans (updateOrCreateTechnology_dispatching uninit s technology)
  cases reply with
  | noArguments => rfl
  | notArray =>
    unfold getTechnologiesCallback getTechnologiesCb
    dsimp only
    split <;> rfl
  | technologies technologies =>
    have listed := folded technologies { s with getTechnologiesCall := none }
    unfold getTechnologiesCallback getTechnologiesCb
    dsimp only
    split
    · split
      · exact listed
      · exact listed
    · rfl

/-- What reaches the module from the main loop, a timer apart, leaves alone which
timer is running. -/
theorem dispatch_dispatching (tidy : Tidy s) (timed : Timed s.reg) (ran : dispatch s e = some s')
    (fires : ∀ id, e ≠ .timer id) : s'.reg.dispatching = s.reg.dispatching := by
  cases e with
  | timer id => exact absurd rfl (fires id)
  | technologyAdded uninit technology =>
    obtain ⟨_, ran⟩ := Option.ite_none_right_eq_some.mp ran
    cases ran
    exact technologyAddedCb_dispatching uninit s technology
  | technologyRemoved path =>
    obtain ⟨_, ran⟩ := Option.ite_none_right_eq_some.mp ran
    cases ran
    exact technologyRemovedCb_dispatching tidy timed path
  | getTechnologiesReply call uninit reply =>
    obtain ⟨_, ran⟩ := Option.ite_none_right_eq_some.mp ran
    cases ran
    exact getTechnologiesCallback_dispatching uninit s reply
  | propertyChanged wid uninit name value =>
    obtain ⟨o, _, rfl⟩ := Option.map_eq_some_iff.mp ran
    unfold propertyChangedSignalCb
    refine (updateTechnologyProperty_dispatching uninit _ o (name, value)).trans ?_
    dsimp only
    rw [noteChanged_eq]
    split <;> rfl
  | setPropertyReply call failed =>
    obtain ⟨reg, replied, rfl⟩ := Option.map_eq_some_iff.mp ran
    obtain ⟨o, i, _, rfl⟩ := setPropertyReply_eq replied
    exact (setPropertyCb_hushed _ o i failed).dispatching
  | scanReply call =>
    obtain ⟨reg, replied, rfl⟩ := Option.map_eq_some_iff.mp ran
    unfold Registry.scanCallback at replied
    split at replied
    case h_2 => cases replied
    case h_1 =>
      dsimp only at replied
      split at replied
      · cases replied
        rfl
      · cases replied
        rfl
  | _ => cases ran

theorem connmanTechnologySet_dispatching (s : State) (path : String) (setting : Setting) (outcome : SendOutcome) :
    (connmanTechnologySet s path setting outcome).1.reg.dispatching = s.reg.dispatching := by
  cases known : s.reg.get path with
  | none => rw [connmanTechnologySet_unknown known]
  | some o =>
    rcases connmanTechnologySet_asks known setting outcome with asked | ⟨_, same⟩
    · rw [asked]
      exact (sendSetProperty_hushed outcome).dispatching
    · rw [same]

/-- Only a timer's own steps change which timer is running. -/
theorem dispatching_step (tidy : Tidy s) (timed : Timed s.reg) (ran : step s e = some s')
    (fires : ∀ id, e ≠ .timer id) (ends : e ≠ .timerDone) : s'.reg.dispatching = s.reg.dispatching := by
  cases e with
  | timer id => exact absurd rfl (fires id)
  | timerDone => exact absurd rfl ends
  | init =>
    cases ran
    unfold connmanTechnologyInit
    split <;> rfl
  | finalize =>
    cases ran
    unfold connmanTechnologyFinalize
    split
    · exact (timed.removal_grows tidy.owned "").2.1.2
    · rfl
  | setGlobalPropertyCallback cb =>
    cases ran
    unfold connmanTechnologySetGlobalPropertyCallback
    split <;> rfl
  | setPropertyChangedCallback path cb =>
    cases ran
    unfold connmanTechnologySetPropertyChangedCallback
    split <;> rfl
  | setPropertyErrorCallback path cb =>
    cases ran
    unfold connmanTechnologySetPropertyErrorCallback
    split <;> rfl
  | setRemovedCallback cb =>
    cases ran
    unfold connmanTechnologySetRemovedCallback
    split <;> rfl
  | setAddedCallback cb =>
    cases ran
    unfold connmanTechnologySetAddedCallback
    split <;> rfl
  | scan path callback outcome =>
    cases ran
    unfold connmanTechnologyScan
    split
    · rfl
    · exact (sendScan_hushed callback outcome).dispatching
  | set path setting outcome =>
    cases ran
    exact connmanTechnologySet_dispatching s path setting outcome
  | _ => exact dispatch_dispatching tidy timed (handed ran).2 nofun

/-! ## Changes that are due -/

/-- Somebody is to be told about the technology: the client of the global
callback, or that of its own. -/
def Heeded (s : State) (o : ObjId) : Prop :=
  s.propertyChangedCb ≠ none ∨ (s.reg.heap o).propertyChangedCb ≠ none

instance : Decidable (Heeded s o) := inferInstanceAs (Decidable (_ ∨ _))

/-- The property a signal changes, and the technology it changes it of. -/
def changed (s : State) (wid : Nat) (name : String) : Option (ObjId × Property) :=
  (s.reg.watches.find wid).bind fun o => (Property.ofName name).map fun i => (o, i)

/-- What an observer notes: the changes somebody is to be told about, until
their timer fires. -/
def noteDue (s : State) (e : Event) (_ : State) (due : List (ObjId × Property)) : List (ObjId × Property) :=
  match e with
  | .propertyChanged wid _ name _ =>
    match changed s wid name with
    | some (o, i) => if Heeded s o then (o, i) :: due else due
    | none => due
  | .timer id =>
    match s.reg.sources.find id with
    | some (.property c) => if c.error then due else due.filter (· ≠ (c.path, c.index))
    | _ => due
  | _ => due

abbrev watchDue := observe step noteDue

/-- Every change due of a technology there is has one timer pending, and a timer
that fires invokes the callbacks registered then, once each. -/
def Heard (w : Watched State (List (ObjId × Property))) (e : Event) : Prop :=
  ∀ w' ∈ watchDue w e,
    (∀ o i, (o, i) ∈ w'.ghost → w'.state.reg.Live o → ∃! id, w'.state.reg.PendingUpdate o i id) ∧
      ∀ id, e = .timer id → ∀ c, w.state.reg.sources.find id = some (.property c) → c.error = false →
        w'.state.reg.log =
          invoked w.state.propertyChangedCb (w.state.reg.heap c.path).propertyChangedCb
            (w.state.reg.heap c.path).path c.index ++
          .fired c.path c.index (w.state.reg.heap c.path).propertyChangedCb :: w.state.reg.log

/-- A property that changes while the global callback is registered is one of a
technology with a callback of its own, or one whose timer is pending already. -/
def Attended (w : Watched State (List (ObjId × Property))) : Event → Prop
  | .propertyChanged wid _ name _ => w.state.propertyChangedCb ≠ none →
    ∀ d ∈ changed w.state wid name,
      (w.state.reg.heap d.1).propertyChangedCb ≠ none ∨ (w.state.reg.heap d.1).toUpdate d.2 ≠ 0
  | _ => True

/-- What every step keeps that is attended to. -/
structure Due (w : Watched State (List (ObjId × Property))) : Prop where
  tidy : Tidy w.state
  timed : Timed w.state.reg
  known : ∀ o i, (o, i) ∈ w.ghost → o < w.state.reg.next
  pending : ∀ o i, (o, i) ∈ w.ghost → w.state.reg.Live o → (w.state.reg.heap o).toUpdate i ≠ 0
  /-- What the running timer passes on is not due. -/
  running : ∀ id c, w.state.reg.dispatching = some (id, c) → c.error = false → (c.path, c.index) ∉ w.ghost

variable {w w' : Watched State (List (ObjId × Property))}

/-- A step that says nothing of a property leaves what is due pending. -/
theorem Due.silent (due : Due w) (ran : step w.state e = some s') (fires : ∀ id, e ≠ .timer id)
    (ends : e ≠ .timerDone) : Due ⟨s', w.ghost⟩ := by
  have change := step_change due.tidy ran
  have going : act e ≠ .timerDone := by
    cases e with
    | timerDone => exact absurd rfl ends
    | _ => nofun
  have stays := due.timed.stays_change due.tidy.owned change going
  refine ⟨tidy_step due.tidy ran, due.timed.change due.tidy.owned change, fun o i mem => ?_, fun o i mem alive => ?_,
    fun id c running => ?_⟩
  · exact Nat.lt_of_lt_of_le (due.known o i mem) stays.next
  · have old := due.known o i mem
    exact stays.slots o i old alive (due.pending o i mem (stays.live o old alive))
  · rw [dispatching_step due.tidy due.timed ran fires ends] at running
    exact due.running id c running

theorem Due.propertyChanged (due : Due w) {wid : Nat} {name : String} {value : Value}
    (attended : Attended w (.propertyChanged wid uninit name value))
    (ran : step w.state (.propertyChanged wid uninit name value) = some s') :
    Due ⟨s', noteDue w.state (.propertyChanged wid uninit name value) s' w.ghost⟩ := by
  have silent := due.silent ran (fun _ => nofun) nofun
  obtain ⟨idle, handled⟩ := handed ran
  obtain ⟨o, watched, handled⟩ := Option.map_eq_some_iff.mp handled
  have live := due.tidy.owned.watch_live watched
  have passes := (signal_passes uninit name value due.timed live).1
  simp only [noteDue]
  cases told : changed w.state wid name with
  | none => exact silent
  | some d =>
    obtain ⟨o', i⟩ := d
    have here : o' = o ∧ Property.ofName name = some i := by
      simp only [changed, watched, Option.bind_some, Option.map_eq_some_iff, Prod.mk.injEq] at told
      obtain ⟨_, named, rfl, rfl⟩ := told
      exact ⟨rfl, named⟩
    obtain ⟨rfl, named⟩ := here
    dsimp only
    split
    case isFalse => exact silent
    case isTrue heeded =>
      have slot : s'.reg.timerSlot (.update o' i) ≠ 0 := by
        rw [← handled]
        by_cases own : (w.state.reg.heap o').propertyChangedCb = none
        · have pending := (attended (heeded.resolve_right (absurd own)) _ told).resolve_left (absurd own)
          exact ne_of_eq_of_ne (passes.kept o' i fun both => both.2.1 own) pending
        · exact (passes.renewed i ⟨own, named⟩).1
      refine ⟨silent.tidy, silent.timed, fun o i mem => ?_, fun o i mem alive => ?_, fun id c running => ?_⟩
      · rcases List.mem_cons.mp mem with new | old
        · cases new
          exact Nat.lt_of_lt_of_le live.1
            (due.timed.stays_change due.tidy.owned (step_change due.tidy ran) nofun).next
        · exact silent.known o i old
      · rcases List.mem_cons.mp mem with new | old
        · cases new
          exact slot
        · exact silent.pending o i old alive
      · rw [dispatching_step due.tidy due.timed ran (fun _ => nofun) nofun, idle] at running
        cases running

theorem Due.timer (due : Due w) {id : Nat} (ran : step w.state (.timer id) = some s') :
    Due ⟨s', noteDue w.state (.timer id) s' w.ghost⟩ := by
  have change := step_change due.tidy ran
  obtain ⟨reg, fired, rfl⟩ := Option.map_eq_some_iff.mp (handed ran).2
  have same := timerRun_sameTimers fired
  have place := (timerRun_upkeep fired).toSameObjects.place
  obtain ⟨c, found, after⟩ := timerRun_spec fired
  have sub : ∀ d ∈ noteDue w.state (.timer id) { w.state with reg := reg } w.ghost, d ∈ w.ghost := by
    intro d mem
    simp only [noteDue, found] at mem
    split at mem
    · exact mem
    · exact List.mem_of_mem_filter mem
  refine ⟨tidy_step due.tidy ran, due.timed.change due.tidy.owned change, fun o i mem => ?_, fun o i mem alive => ?_,
    fun id' c' running error => ?_⟩
  · rw [place.next]
    exact due.known o i (sub _ mem)
  · have pending := due.pending o i (sub _ mem) ((place.live o).mp alive)
    exact ne_of_eq_of_ne ((same.slots (.update o i)).resolve_right nofun) pending
  · have now : reg.dispatching = some (id, c) := by
      rw [after, propertyChangedOrError_dispatching]
      split <;> rfl
    rw [now] at running
    cases running
    simp [noteDue, found, error]

theorem Due.timerDone (due : Due w) (ran : step w.state .timerDone = some s') : Due ⟨s', w.ghost⟩ := by
  have change := step_change due.tidy ran
  have timed' := due.timed.change due.tidy.owned change
  obtain ⟨reg, ended, rfl⟩ := Option.map_eq_some_iff.mp ran
  have place := (timerDone_upkeep ended).toSameObjects.place
  rw [timerDone_eq] at ended
  obtain ⟨⟨id, c⟩, running, rfl⟩ := Option.map_eq_some_iff.mp ended
  refine ⟨tidy_step due.tidy ran, timed', fun o i mem => ?_, fun o i mem alive => ?_, fun id' c' running' => ?_⟩
  · rw [place.next]
    exact due.known o i mem
  · have pending := due.pending o i mem ((place.live o).mp alive)
    dsimp only
    split
    case isFalse => exact pending
    case isTrue own =>
      -- the timer that is over passed another property on
      have other : (Source.property c).slot ≠ .update o i := by
        intro same
        obtain ⟨_, timer, error, rfl, rfl⟩ := slot_update same
        cases timer
        exact due.running id c running error mem
      have idle : Timed { w.state.reg with dispatching := none } :=
        due.timed.same (idle_sameTimers _) ⟨rfl, rfl, rfl, rfl, fun _ => rfl⟩
      exact ne_of_eq_of_ne (idle.sourceRemove_slot own other) pending
  · dsimp only at running'
    split at running'
    · rw [(sourceRemove_hushed _ _).dispatching] at running'
      cases running'
    · cases running'

theorem due_step (due : Due w) (attended : Attended w e) (ran : watchDue w e = some w') : Due w' := by
  obtain ⟨s', stepped, rfl⟩ := observe_eq_some ran
  cases e with
  | propertyChanged wid uninit name value => exact due.propertyChanged attended stepped
  | timer id => exact due.timer stepped
  | timerDone => exact due.timerDone stepped
  | _ => exact due.silent stepped (fun _ => nofun) nofun

/-- A change that nobody attends to is due with no timer pending. -/
theorem attended_of_heard (due : Due w) (ran : watchDue w e = some w') (heard : Heard w e) : Attended w e := by
  cases e with
  | propertyChanged wid uninit name value =>
    intro registered d told
    by_contra neither
    obtain ⟨own, empty⟩ := not_or.mp neither
    obtain ⟨pending, _⟩ := heard w' ran
    obtain ⟨s', stepped, rfl⟩ := observe_eq_some ran
    obtain ⟨o, watched, handled⟩ := Option.map_eq_some_iff.mp (handed stepped).2
    have live := due.tidy.owned.watch_live watched
    obtain ⟨passes, timed'⟩ := signal_passes uninit name value due.timed live
    have live' : s'.reg.Live o :=
      (Quiet.place (quiet_step due.tidy.owned stepped id)).live o |>.mpr live
    have here : d.1 = o := by
      simp only [changed, watched, Option.bind_some] at told
      obtain ⟨i, _, rfl⟩ := Option.map_eq_some_iff.mp told
      rfl
    obtain ⟨o', i⟩ := d
    obtain rfl : o' = o := here
    have mem : (o', i) ∈ noteDue w.state (.propertyChanged wid uninit name value) s' w.ghost := by
      have told : changed w.state wid name = some (o', i) := told
      simp only [noteDue, told]
      rw [if_pos (.inl registered)]
      exact List.mem_cons_self
    obtain ⟨id, there, _⟩ := pending o' i mem live'
    rw [← handled] at there
    obtain ⟨slot, used⟩ := timed'.pendingUpdate_iff.mp there
    have kept := passes.kept o' i fun both => own both.2.1
    exact used (slot.symm.trans (kept.trans (not_not.mp empty)))
  | _ => trivial

theorem heard_of_due (due : Due w) (attended : Attended w e) : Heard w e := by
  intro w' ran
  have due' := due_step due attended ran
  refine ⟨fun o i mem live => ?_, ?_⟩
  · have used := due'.pending o i mem live
    refine ⟨_, due'.timed.pendingUpdate_iff.mpr ⟨rfl, used⟩, fun id there => ?_⟩
    exact (due'.timed.pendingUpdate_iff.mp there).1.symm
  · rintro id rfl c found error
    obtain ⟨s', stepped, rfl⟩ := observe_eq_some ran
    obtain ⟨reg, fired, rfl⟩ := Option.map_eq_some_iff.mp (handed stepped).2
    exact timerRun_log due.timed found error fired

/-- In a run every registered listener is told of every change, once for each
burst, exactly if each change the global callback is registered for is attended
to. -/
theorem listeners_reached_iff (s : State) (start : Start s) (events : List Event) :
    AllSteps watchDue Heard ⟨s, []⟩ events ↔ AllSteps watchDue Attended ⟨s, []⟩ events := by
  have first : Due ⟨s, []⟩ := by
    obtain ⟨tidy, timed, _⟩ := reaches_announced (.here start)
    exact ⟨tidy, timed, nofun, nofun, nofun⟩
  exact AllSteps.iff (I := Due)
    (fun _ _ _ due ran => ⟨attended_of_heard due ran, heard_of_due due⟩)
    (fun _ _ _ due ran _ attended => due_step due attended ran) first events

instance : Decidable (Attended w e) := by
  unfold Attended
  split
  · exact inferInstanceAs (Decidable (_ → ∀ d ∈ _, _))
  · infer_instance

/-- A technology changes twice while both callbacks are registered, and its
timer fires. -/
def notifying : List Event :=
  listing ++ [.setGlobalPropertyCallback (some 1), .setPropertyChangedCallback "/t" (some 2),
    .propertyChanged 1 none "Powered" (.variant (.boolean true)),
    .propertyChanged 1 none "Powered" (.variant (.boolean false)), .timer 2, .timerDone]

theorem listeners_reached_notifying : AllSteps watchDue Heard ⟨started, []⟩ notifying := by
  have attended : (play watchDue Attended ⟨started, []⟩ notifying).isSome := by decide +kernel
  exact (listeners_reached_iff started started_start notifying).mpr (.of_play (Option.some_get attended).symm)

/-- Only the global callback is registered. -/
def heeded : List Event := listing ++ [.setGlobalPropertyCallback (some 1)]

def afterHeeded : Watched State (List (ObjId × Property)) :=
  (heeded.foldlM watchDue ⟨started, []⟩).get (by decide +kernel)

def missed : Event := .propertyChanged 1 none "Powered" (.variant (.boolean true))

def afterMissed : Watched State (List (ObjId × Property)) :=
  (watchDue afterHeeded missed).get (by decide +kernel)

/-- It misses the change. -/
theorem not_always_heard : ¬ ∀ s, Start s → ∀ events, AllSteps watchDue Heard ⟨s, []⟩ events := by
  intro always
  have ran : watchDue afterHeeded missed = some afterMissed := (Option.some_get _).symm
  have heard := AllSteps.last heeded missed (always started started_start _) (Option.some_get _).symm ran
  obtain ⟨id, ⟨c, found, _⟩, _⟩ := (heard _ ran).1 0 .powered (by decide +kernel) (by decide +kernel)
  have idle : afterMissed.state.reg.sources.live = [] := by decide +kernel
  rw [Pool.find, idle] at found
  cases found

end Technology

end ConnmanUi
