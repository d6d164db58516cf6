import ConnmanUi.RegistryFreeing

/-!
What a step keeps of the timers.

`Timed` holds of every run that orphans nothing: update slots are exact.  Error
slots stay exact (`Errors.change`) under `ErrorsFine`, the condition that
`set_property_cb` takes for granted when it leaves `property->index` zero.
Where both do, and no refresh timer is removed that has already run
(`RefreshFine`), every id given to `g_source_remove` names a pending source
(`Sound`).
-/

namespace ConnmanUi.Registry

variable {ι ρ : Type} {r r' : Registry ι ρ}
  {o o' : ObjId} {i : ι} {a : Act}

/-! ## Update slots -/

section

/-- Objects are found, slots record timers, and update slots are exact. -/
structure Timed [DecidableEq ι] [PropertyIndex ι] (r : Registry ι ρ) : Prop where
  held : Held r
  recorded : Recorded r
  updates : Updates r

theorem Timed.same [DecidableEq ι] [PropertyIndex ι]
    (timed : Timed r) (same : SameTimers r r') (place : SamePlace r r') : Timed r' where
  held := timed.held.place place
  recorded := timed.recorded.same same fun o alive => (place.live o).mpr alive
  updates := timed.updates.same same

theorem Timed.propertyUpdate [DecidableEq ι] [PropertyIndex ι]
    (timed : Timed r) (live : r.Live o) (i : ι) : Timed (r.propertyUpdate o i) where
  held := timed.held.place (propertyUpdate_upkeep r o i).toSameObjects.place
  recorded := timed.recorded.propertyUpdate live i
  updates := timed.updates.propertyUpdate timed.recorded timed.held o i

theorem Timed.op [DecidableEq ι] [PropertyIndex ι] [Inhabited ρ]
    (timed : Timed r) (owned : Owned r) (op : Op r r') : Timed r' where
  held := timed.held.op owned op
  recorded := timed.recorded.op owned op
  updates := by
    have gone := removal_invariant (I := fun r => Recorded r ∧ Updates r) owned
      ⟨timed.recorded, timed.updates⟩
      (fun r table inv => ⟨inv.1.same (table_sameTimers r table) fun _ alive => alive,
        inv.2.same (table_sameTimers r table)⟩)
      (fun r inv => ⟨inv.1.same (selected_sameTimers r none) fun _ alive => alive,
        inv.2.same (selected_sameTimers r none)⟩)
      fun r o inv gone => ⟨inv.1.objectFree o, fun o' i => (inv.2 o' i).objectFree inv.1 gone⟩
    cases op with
    | quiet op =>
      rcases op.timers with same | ⟨r₁, o, i, same, place, live, rfl⟩
      · exact timed.updates.same same
      · exact (timed.updates.same same).propertyUpdate
          (timed.recorded.same same fun o alive => (place.live o).mpr alive) (timed.held.place place) o i
    | created path => exact timed.updates.same (create_sameTimers timed.recorded path)
    | removed path => exact (gone path).1.2
    | removedAll => exact (gone "").2.1.2
    | deselected => exact (gone "").2.2.2

theorem calls_sameTimers (r : Registry ι ρ) (calls : Pool (PropertySetting ι)) :
    SameTimers r { r with calls := calls } := ⟨rfl, fun k => .inl (by cases k <;> rfl), rfl⟩

variable [DecidableEq ι] [PropertyIndex ι]

theorem setPropertyReply_eq {call : Nat} {failed : Bool} (ran : r.setPropertyReply call failed = some r') :
    ∃ o i, r.calls.find call = some ⟨o, i, true⟩ ∧
      r' = setPropertyCb { r with calls := r.calls.detach call } o i failed := by
  unfold Registry.setPropertyReply at ran
  split at ran
  case h_2 => cases ran
  case h_1 o i found => exact ⟨o, i, found, (Option.some.inj ran).symm⟩

theorem Timed.acts (timed : Timed r) (owned : Owned r) (acts : Acts r a r') : Timed r' where
  held := timed.held.place acts.place
  recorded := timed.recorded.acts owned acts
  updates := by
    cases acts with
    | replied call failed ran =>
      obtain ⟨o, i, _, rfl⟩ := setPropertyReply_eq ran
      have same := calls_sameTimers r (r.calls.detach call)
      exact (timed.updates.same same).setPropertyCb (timed.recorded.same same fun _ alive => alive)
        (timed.held.place (samePlace_of_calls r _)) o i failed
    | timerDone ran =>
      rw [timerDone_eq] at ran
      obtain ⟨⟨id, c⟩, _, rfl⟩ := Option.map_eq_some_iff.mp ran
      have idle := idle_sameTimers r
      split
      · exact (timed.updates.same idle).sourceRemove (timed.recorded.same idle fun _ alive => alive)
          (timed.held.place ⟨rfl, rfl, rfl, rfl, fun _ => rfl⟩) id
      · exact timed.updates.same idle
    | refreshDone id due => exact timed.updates.refreshDone due

theorem Timed.scheduleRefresh (timed : Timed r) : Timed r.scheduleRefresh where
  held := timed.held.place (scheduleRefresh_sameObjects r).1.place
  recorded := timed.recorded.scheduleRefresh
  updates := timed.updates.scheduleRefresh timed.recorded timed.held

variable [Inhabited ρ]

theorem Timed.change (timed : Timed r) (owned : Owned r) (change : Change r a r') : Timed r' :=
  (change.invariant owned timed (fun _ _ owned timed op => timed.op owned op)
    (fun _ owned timed acts => timed.acts owned acts) fun _ _ timed _ => timed.scheduleRefresh).2

theorem Recorded.change (recorded : Recorded r) (owned : Owned r) (change : Change r a r') :
    Recorded r' :=
  (change.invariant owned recorded (fun _ _ owned recorded op => recorded.op owned op)
    (fun _ owned recorded acts => recorded.acts owned acts)
    fun _ _ recorded _ => recorded.scheduleRefresh).2

end

/-! ## Error slots -/

section

variable [DecidableEq ι] [PropertyIndex ι]

/-- An error timer that is destroyed empties its own slot: it is for the
property whose enumerator is zero, and finds its object.  One that is replaced
may also meet an empty slot. -/
def ErrorsFine (r : Registry ι ρ) : Act → Prop
  | .reply call failed => failed = true → ∀ set ∈ r.calls.find call,
    (r.heap set.data).propertySetErrorCb ≠ none → (r.heap set.data).toError set.index ≠ 0 →
    ∀ o ∈ r.get (r.heap set.data).path,
      o = set.data ∧ set.index = PropertyIndex.zero ∨ (r.heap o).toError PropertyIndex.zero = 0
  | .timerDone => ∀ d ∈ r.dispatching, d.2.error = true →
    r.sources.find d.1 = some (.property d.2) →
    d.2.name = PropertyIndex.zero ∧ r.get (r.heap d.2.path).path = some d.2.path
  | _ => True

instance (r : Registry ι ρ) (a : Act) : Decidable (r.ErrorsFine a) := by
  cases a with
  | reply call failed => exact inferInstanceAs (Decidable (_ → ∀ set ∈ _, _ → _ → ∀ o ∈ _, _))
  | timerDone => exact inferInstanceAs (Decidable (∀ d ∈ _, _ → _ → _))
  | _ => exact isTrue trivial

theorem Errors.op [Inhabited ρ] (errors : Errors r) (recorded : Recorded r) (owned : Owned r) (op : Op r r') :
    Errors r' := by
  have gone := removal_invariant (I := fun r => Recorded r ∧ Errors r) owned ⟨recorded, errors⟩
    (fun r table inv => ⟨inv.1.same (table_sameTimers r table) fun _ alive => alive,
      inv.2.same (table_sameTimers r table)⟩)
    (fun r inv => ⟨inv.1.same (selected_sameTimers r none) fun _ alive => alive,
      inv.2.same (selected_sameTimers r none)⟩)
    fun r o inv gone => ⟨inv.1.objectFree o, fun o' i => (inv.2 o' i).objectFree inv.1 gone⟩
  cases op with
  | quiet op =>
    rcases op.timers with same | ⟨r₁, o, i, same, place, live, rfl⟩
    · exact errors.same same
    · exact (errors.same same).propertyUpdate
        (recorded.same same fun o alive => (place.live o).mpr alive) o i
  | created path => exact errors.same (create_sameTimers recorded path)
  | removed path => exact (gone path).1.2
  | removedAll => exact (gone "").2.1.2
  | deselected => exact (gone "").2.2.2

theorem Errors.acts (errors : Errors r) (recorded : Recorded r) (fine : r.ErrorsFine a)
    (acts : Acts r a r') : Errors r' := by
  cases acts with
  | replied call failed ran =>
    obtain ⟨o, i, found, rfl⟩ := setPropertyReply_eq ran
    have same := calls_sameTimers r (r.calls.detach call)
    refine (errors.same same).setPropertyCb (recorded.same same fun _ alive => alive) o i failed ?_
    intro failed registered used o' there
    rw [(samePlace_of_calls r _).get] at there
    exact fine failed _ found registered used o' there
  | timerDone ran =>
    rw [timerDone_eq] at ran
    obtain ⟨⟨id, c⟩, running, rfl⟩ := Option.map_eq_some_iff.mp ran
    have idle := errors.same (idle_sameTimers r)
    split
    case isFalse => exact idle
    case isTrue pending =>
      refine idle.sourceRemove fun c' found error => ?_
      have pending : r.sources.find id = some (.property c) := pending
      have found : r.sources.find id = some (.property c') := found
      rw [pending] at found
      cases found
      obtain ⟨top, there⟩ := fine (id, c) running error pending
      have formed := recorded.formed id c pending
      unfold PropertyChange.Formed at formed
      rw [if_pos error] at formed
      exact ⟨top.trans formed.symm, there⟩
  | refreshDone id due => exact errors.refreshDone due

theorem Errors.change [Inhabited ρ] (errors : Errors r) (recorded : Recorded r) (owned : Owned r)
    (fine : r.ErrorsFine a) (change : Change r a r') : Errors r' :=
  (change.invariant (I := fun r => Recorded r ∧ Errors r) owned ⟨recorded, errors⟩
    (fun _ _ owned inv op => ⟨inv.1.op owned op, inv.2.op inv.1 owned op⟩)
    (fun _ owned inv acts => ⟨inv.1.acts owned acts, inv.2.acts inv.1 fine acts⟩)
    fun _ _ inv _ => ⟨inv.1.scheduleRefresh, inv.2.scheduleRefresh inv.1⟩).2.2

/-- The error timers pending for a property of an object. -/
def PendingError (r : Registry ι ρ) (o : ObjId) (i : ι) (id : Nat) : Prop :=
  ∃ c, r.sources.find id = some (.property c) ∧ c.error = true ∧ c.path = o ∧ c.name = i

/-- An error slot is nonzero exactly while an error timer for its object and
property is pending, whose id it holds; and no such timer outlives the object. -/
structure ErrorsBooked (r : Registry ι ρ) : Prop where
  slot : ∀ o i, (r.heap o).toError i ≠ 0 ↔ ∃ id, r.PendingError o i id
  id : ∀ o i id, r.PendingError o i id → (r.heap o).toError i = id
  live : ∀ o i id, r.PendingError o i id → r.Live o

theorem Errors.booked (errors : Errors r) (recorded : Recorded r) : ErrorsBooked r := by
  have own : ∀ {c : PropertyChange ι}, c.error = true →
      (Source.property c).slot = .error c.path c.name := fun error => by simp [Source.slot, error]
  have stored : ∀ o i id, r.PendingError o i id → (r.heap o).toError i = id := by
    rintro _ _ id ⟨c, found, error, rfl, rfl⟩
    exact (errors c.path c.name).id_eq found (own error)
  refine ⟨fun o i => ⟨fun used => ?_, ?_⟩, stored, ?_⟩
  · obtain ⟨s, found, slot⟩ := (errors o i).filled used
    obtain ⟨c, rfl, error, path, name⟩ := slot_error slot
    exact ⟨_, c, found, error, path, name⟩
  · rintro ⟨id, pending⟩
    rw [stored o i id pending]
    obtain ⟨c, found, _⟩ := pending
    exact Pool.ne_zero_of_find found
  · rintro _ _ id ⟨c, found, error, rfl, rfl⟩
    exact (errors c.path c.name).error_live recorded found (own error)

end

/-! ## Ids that name nothing -/

/-- A refresh timer that is replaced has not run yet. -/
def RefreshFine (r : Registry ι ρ) : Act → Prop
  | .schedule => r.toRefresh ≠ 0 → r.sources.find r.toRefresh = some .refresh
  | _ => True

variable [DecidableEq ι] [PropertyIndex ι]

instance (r : Registry ι ρ) (a : Act) : Decidable (r.RefreshFine a) := by
  cases a with
  | schedule => exact inferInstanceAs (Decidable (_ → _))
  | _ => exact isTrue trivial

/-- All slots are exact, and no id was given to `g_source_remove` that named no
source. -/
structure Sound (r : Registry ι ρ) : Prop where
  timed : Timed r
  errors : Errors r
  stray : r.stray = []

/-- `Sound`, with the refresh slot as long as a refresh is to come. -/
structure Ready (a : Act) (r : Registry ι ρ) : Prop where
  sound : Sound r
  refresh : a = .schedule → Filled r .refresh

theorem propertyUpdate_ready (ready : Ready a r) (live : r.Live o) (i : ι) :
    Ready a (r.propertyUpdate o i) := by
  obtain ⟨⟨timed, errors, stray⟩, refresh⟩ := ready
  refine ⟨⟨timed.propertyUpdate live i, errors.propertyUpdate timed.recorded o i, ?_⟩, fun due => ?_⟩
  · rw [propertyUpdate_eq]
    split
    · exact stray
    · rw [attachChange_stray, removeSlot_stray (timed.updates o i).filled]
      exact stray
  · rw [propertyUpdate_eq]
    split
    · exact refresh due
    · have removed := (refresh due).removeSlot timed.recorded (l := .update o i) nofun
      exact removed.attach_other nofun

theorem Ready.same (ready : Ready a r) (same : SameTimers r r') (place : SamePlace r r') :
    Ready a r' where
  sound := {
    timed := ready.sound.timed.same same place
    errors := ready.sound.errors.same same
    stray := same.stray.trans ready.sound.stray }
  refresh due := (ready.refresh due).same same

theorem Ready.op [Inhabited ρ] (ready : Ready a r) (owned : Owned r) (op : Op r r') : Ready a r' := by
  obtain ⟨⟨timed, errors, stray⟩, refresh⟩ := ready
  have gone := removal_invariant
    (I := fun r => Recorded r ∧ Updates r ∧ Errors r ∧ r.stray = [] ∧ (a = .schedule → Filled r .refresh))
    owned ⟨timed.recorded, timed.updates, errors, stray, refresh⟩
    (fun r table inv => ⟨inv.1.same (table_sameTimers r table) fun _ alive => alive,
      inv.2.1.same (table_sameTimers r table), inv.2.2.1.same (table_sameTimers r table),
      inv.2.2.2.1, fun due => (inv.2.2.2.2 due).same (table_sameTimers r table)⟩)
    (fun r inv => ⟨inv.1.same (selected_sameTimers r none) fun _ alive => alive,
      inv.2.1.same (selected_sameTimers r none), inv.2.2.1.same (selected_sameTimers r none),
      inv.2.2.2.1, fun due => (inv.2.2.2.2 due).same (selected_sameTimers r none)⟩)
    fun r o inv gone => by
      obtain ⟨recorded, updates, errors, stray, refresh⟩ := inv
      obtain ⟨stray', refresh'⟩ := objectFree_filled recorded (o := o)
        fun i => ⟨(updates o i).filled, (errors o i).filled⟩
      exact ⟨recorded.objectFree o, fun o' i => (updates o' i).objectFree recorded gone,
        fun o' i => (errors o' i).objectFree recorded gone, stray'.trans stray,
        fun due => refresh' (refresh due)⟩
  have timed' := timed.op owned op
  have errors' := errors.op timed.recorded owned op
  suffices tidy : r'.stray = [] ∧ (a = .schedule → Filled r' .refresh) from
    ⟨⟨timed', errors', tidy.1⟩, tidy.2⟩
  cases op with
  | quiet op =>
    rcases op.timers with same | ⟨r₁, o, i, same, place, live, rfl⟩
    · exact ⟨same.stray.trans stray, fun due => (refresh due).same same⟩
    · have ready₁ : Ready a r₁ := Ready.same ⟨⟨timed, errors, stray⟩, refresh⟩ same place
      have updated := propertyUpdate_ready ready₁ ((place.live o).mpr live) i
      exact ⟨updated.sound.stray, updated.refresh⟩
  | created path =>
    have same := create_sameTimers timed.recorded path
    exact ⟨same.stray.trans stray, fun due => (refresh due).same same⟩
  | removed path => exact (gone path).1.2.2.2
  | removedAll => exact (gone "").2.1.2.2.2
  | deselected => exact (gone "").2.2.2.2.2

theorem Ready.acts (ready : Ready a r) (owned : Owned r) (fine : r.ErrorsFine a)
    (acts : Acts r a r') : Ready a r' := by
  have timed' := ready.sound.timed.acts owned acts
  have errors' := ready.sound.errors.acts ready.sound.timed.recorded fine acts
  have unscheduled : a ≠ .schedule := by
    rintro rfl
    cases acts
  refine ⟨⟨timed', errors', ?_⟩, fun due => absurd due unscheduled⟩
  cases acts with
  | replied call failed ran =>
    obtain ⟨o, i, _, rfl⟩ := setPropertyReply_eq ran
    have same := (calls_sameTimers r (r.calls.detach call)).trans (emptyCall_sameTimers _ o i)
    rw [setPropertyCb_eq]
    split
    · exact same.stray.trans ready.sound.stray
    · split
      · rw [attachChange_stray, removeSlot_stray ((ready.sound.errors o i).filled.same same)]
        exact same.stray.trans ready.sound.stray
      · exact same.stray.trans ready.sound.stray
  | timerDone ran =>
    rw [timerDone_eq] at ran
    obtain ⟨⟨id, c⟩, _, rfl⟩ := Option.map_eq_some_iff.mp ran
    split
    case isFalse => exact ready.sound.stray
    case isTrue pending =>
      have removed := sourceRemove_stray (r := { r with dispatching := none }) pending
      exact removed.trans ready.sound.stray
  | refreshDone id => exact ready.sound.stray

/-- What a step keeps of all timers. -/
theorem Sound.change [Inhabited ρ] (sound : Sound r) (owned : Owned r) (fine : r.ErrorsFine a)
    (refresh : r.RefreshFine a) (change : Change r a r') : Sound r' := by
  have ready : Ready a r := ⟨sound, fun due used => by
    subst due
    exact ⟨.refresh, refresh used, rfl⟩⟩
  suffices scheduled : ∀ r : Registry ι ρ, Owned r → Ready a r → a = .schedule → Ready a r.scheduleRefresh from
    (change.invariant owned ready (fun _ _ owned ready op => ready.op owned op)
      (fun _ owned ready acts => ready.acts owned fine acts) scheduled).2.sound
  intro r _ ready due
  have scheduled := ready.sound.timed.recorded.scheduleRefresh
  refine ⟨⟨ready.sound.timed.scheduleRefresh,
    ready.sound.errors.scheduleRefresh ready.sound.timed.recorded, ?_⟩, fun _ _ => ?_⟩
  · exact (removeSlot_stray (ready.refresh due)).trans ready.sound.stray
  · refine ⟨.refresh, ?_, rfl⟩
    have attached := Pool.find_attach (r.removeSlot .refresh).sources .refresh
      (r.removeSlot .refresh).sources.fresh
    rw [if_pos rfl] at attached
    exact attached

end ConnmanUi.Registry
