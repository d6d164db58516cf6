import ConnmanUi.RegistryOps

/-!
The timers an object's slots record.

`Recorded` holds of every run: a slot holds zero or the id of a timer attached
for it, so removing the timer in a slot never hits another one.  It rests on
the main loop numbering its sources.  What an operation does to timers is
nothing, or `property_update` after nothing (`QuietOp.timers`), but for those
that free objects.
-/

namespace ConnmanUi

/-- Where the id of a timer is kept. -/
inductive TimerSlot (ι : Type) where
  | update (o : ObjId) (i : ι)
  | error (o : ObjId) (i : ι)
  | refresh
  deriving DecidableEq

/-- The slot a timer is attached for; an error timer's is that of the property
it names. -/
def Source.slot {ι : Type} : Source ι → TimerSlot ι
  | .property c => if c.error then .error c.path c.name else .update c.path c.index
  | .refresh => .refresh

/-- A timer as `property_update` and `set_property_cb` make it. -/
def PropertyChange.Formed {ι : Type} [PropertyIndex ι] (c : PropertyChange ι) : Prop :=
  if c.error then c.index = PropertyIndex.zero else c.name = c.index

namespace Registry

variable {ι ρ : Type} {r r' : Registry ι ρ}
  {o o' : ObjId} {i j : ι} {path : String} {k : TimerSlot ι}

/-- What a slot holds. -/
def timerSlot (r : Registry ι ρ) : TimerSlot ι → Nat
  | .update o i => (r.heap o).toUpdate i
  | .error o i => (r.heap o).toError i
  | .refresh => r.toRefresh

/-- The timer in a slot is removed, if there is one. -/
def removeSlot [DecidableEq ι] (r : Registry ι ρ) (k : TimerSlot ι) : Registry ι ρ :=
  if r.timerSlot k ≠ 0 then r.sourceRemove (r.timerSlot k) else r

/-- Slots hold zero or the id of a timer of their own, and those of an object
that is not live hold zero. -/
structure Recorded [PropertyIndex ι] (r : Registry ι ρ) : Prop where
  numbers : r.sources.supply.Numbers
  records : r.sources.Records Source.slot r.timerSlot
  formed : ∀ id c, r.sources.find id = some (.property c) → c.Formed
  empty : ∀ o, ¬ r.Live o → ∀ i, (r.heap o).toUpdate i = 0 ∧ (r.heap o).toError i = 0

/-! ## Destroying a timer -/

section

/-- The slot the destroy function of a timer empties, if it finds the object. -/
def emptied (r : Registry ι ρ) (c : PropertyChange ι) : Option (TimerSlot ι) :=
  (r.get (r.heap c.path).path).map fun o => if c.error then .error o c.index else .update o c.index

variable [DecidableEq ι]

theorem timerSlot_destroyProperty (r : Registry ι ρ) (c : PropertyChange ι) (k : TimerSlot ι) :
    (r.destroyProperty c).timerSlot k = if r.emptied c = some k then 0 else r.timerSlot k := by
  unfold destroyProperty emptied
  cases found : r.get (r.heap c.path).path with
  | none => simp
  | some o =>
    cases error : c.error with
    | true =>
      cases k with
      | update o' i => by_cases same : o' = o <;> simp [timerSlot, heap_modify, same]
      | error o' i =>
        by_cases same : o' = o
        · by_cases index : i = c.index
          · simp [timerSlot, heap_modify, same, index]
          · simp [timerSlot, heap_modify, same, index, Ne.symm index]
        · simp [timerSlot, heap_modify, same, Ne.symm same]
      | refresh => simp [timerSlot, modify]
    | false =>
      cases k with
      | update o' i =>
        by_cases same : o' = o
        · by_cases index : i = c.index
          · simp [timerSlot, heap_modify, same, index]
          · simp [timerSlot, heap_modify, same, index, Ne.symm index]
        · simp [timerSlot, heap_modify, same, Ne.symm same]
      | error o' i => by_cases same : o' = o <;> simp [timerSlot, heap_modify, same]
      | refresh => simp [timerSlot, modify]

theorem destroyProperty_sources (r : Registry ι ρ) (c : PropertyChange ι) :
    (r.destroyProperty c).sources = r.sources := by
  unfold destroyProperty
  split
  · rfl
  · split
    · rfl
    · rfl

theorem sourceRemove_none {id : Nat} (absent : r.sources.find id = none) :
    r.sourceRemove id = { r with stray := id :: r.stray } := by
  simp [sourceRemove, absent]

theorem sourceRemove_property {id : Nat} {c : PropertyChange ι}
    (found : r.sources.find id = some (.property c)) :
    r.sourceRemove id = { r with sources := r.sources.detach id }.destroyProperty c := by
  simp [sourceRemove, found, destroyNotify]

theorem sourceRemove_refresh {id : Nat} (found : r.sources.find id = some .refresh) :
    r.sourceRemove id = { r with sources := r.sources.detach id } := by
  simp [sourceRemove, found, destroyNotify]

theorem sourceRemove_sources (r : Registry ι ρ) (id : Nat) :
    (r.sourceRemove id).sources = r.sources.detach id := by
  cases found : r.sources.find id with
  | none =>
    rw [sourceRemove_none found]
    exact (Pool.detach_of_find_none found).symm
  | some source =>
    cases source with
    | property c => rw [sourceRemove_property found, destroyProperty_sources]
    | refresh => rw [sourceRemove_refresh found]

/-- Destroying a timer empties the slot its destroy function finds. -/
theorem timerSlot_sourceRemove {id : Nat} {c : PropertyChange ι}
    (found : r.sources.find id = some (.property c)) (k : TimerSlot ι) :
    (r.sourceRemove id).timerSlot k = if r.emptied c = some k then 0 else r.timerSlot k := by
  rw [sourceRemove_property found]
  exact timerSlot_destroyProperty { r with sources := r.sources.detach id } c k

theorem timerSlot_sourceRemove_or (r : Registry ι ρ) (id : Nat) (k : TimerSlot ι) :
    (r.sourceRemove id).timerSlot k = r.timerSlot k ∨ (r.sourceRemove id).timerSlot k = 0 := by
  cases found : r.sources.find id with
  | none =>
    rw [sourceRemove_none found]
    exact .inl rfl
  | some source =>
    cases source with
    | refresh =>
      rw [sourceRemove_refresh found]
      exact .inl rfl
    | property c =>
      rw [timerSlot_sourceRemove found]
      split
      · exact .inr rfl
      · exact .inl rfl

theorem removeSlot_upkeep (r : Registry ι ρ) (k : TimerSlot ι) : Upkeep r (r.removeSlot k) :=
  sourceRemove_if_upkeep r _

theorem removeSlot_sources (r : Registry ι ρ) (k : TimerSlot ι) :
    (r.removeSlot k).sources = r.sources.detach (r.timerSlot k) := by
  unfold removeSlot
  split
  · exact sourceRemove_sources r _
  case isFalse empty => rw [not_not.mp empty, Pool.detach_zero]

end

/-! ## Recorded timers -/

/-- `r'` attached and removed nothing, and emptied at most the refresh slot. -/
structure SameTimers (r r' : Registry ι ρ) : Prop where
  sources : r'.sources = r.sources
  slots : ∀ k, r'.timerSlot k = r.timerSlot k ∨ k = .refresh ∧ r'.timerSlot k = 0
  stray : r'.stray = r.stray

theorem Recorded.sourceRemove [DecidableEq ι] [PropertyIndex ι]
    (recorded : Recorded r) (id : Nat) : Recorded (r.sourceRemove id) where
  numbers := by
    rw [sourceRemove_sources]
    exact recorded.numbers
  records := by
    rw [sourceRemove_sources]
    exact (recorded.records.detach id).mono (fun _ mem => mem) (fun _ _ found => found)
      (timerSlot_sourceRemove_or r id)
  formed id' c found := by
    rw [sourceRemove_sources] at found
    exact recorded.formed id' c (Pool.find_of_find_detach found)
  empty o dead i := by
    have blank := recorded.empty o
      (fun live => dead (((sourceRemove_upkeep r id).toSameObjects.live o).mpr live)) i
    constructor
    · rcases timerSlot_sourceRemove_or r id (.update o i) with same | zero
      · exact same.trans blank.1
      · exact zero
    · rcases timerSlot_sourceRemove_or r id (.error o i) with same | zero
      · exact same.trans blank.2
      · exact zero

theorem Recorded.removeSlot [DecidableEq ι] [PropertyIndex ι]
    (recorded : Recorded r) (k : TimerSlot ι) : Recorded (r.removeSlot k) := by
  unfold Registry.removeSlot
  split
  · exact recorded.sourceRemove _
  · exact recorded

theorem Recorded.same [PropertyIndex ι] (recorded : Recorded r) (same : SameTimers r r')
    (live : ∀ o, r.Live o → r'.Live o) : Recorded r' where
  numbers := by
    rw [same.sources]
    exact recorded.numbers
  records := by
    rw [same.sources]
    exact recorded.records.mono (fun _ mem => mem) (fun _ _ found => found)
      fun k => (same.slots k).imp id And.right
  formed := by
    rw [same.sources]
    exact recorded.formed
  empty o dead i := by
    have blank := recorded.empty o (fun alive => dead (live o alive)) i
    constructor
    · rcases same.slots (.update o i) with kept | ⟨refresh, _⟩
      · exact kept.trans blank.1
      · cases refresh
    · rcases same.slots (.error o i) with kept | ⟨refresh, _⟩
      · exact kept.trans blank.2
      · cases refresh

/-- Where `attachChange` stores the id. -/
def attachSlot (c : PropertyChange ι) (i : ι) : TimerSlot ι :=
  if c.error then .error c.path i else .update c.path i

theorem attachChange_sources [DecidableEq ι] (r : Registry ι ρ) (c : PropertyChange ι) (i : ι) :
    (r.attachChange c i).sources = r.sources.attach (.property c) := by
  unfold attachChange
  dsimp only
  split
  · rfl
  · rfl

theorem timerSlot_attachChange [DecidableEq ι] (r : Registry ι ρ) (c : PropertyChange ι) (i : ι) :
    (r.attachChange c i).timerSlot =
      Function.update r.timerSlot (attachSlot c i) r.sources.fresh := by
  funext k
  unfold attachChange attachSlot
  dsimp only
  cases error : c.error with
  | true =>
    cases k with
    | update o j => by_cases same : o = c.path <;> simp [timerSlot, heap_modify, same]
    | error o j =>
      by_cases same : o = c.path
      · by_cases index : j = i
        · simp [timerSlot, heap_modify, same, index]
        · simp [timerSlot, heap_modify, same, index]
      · simp [timerSlot, heap_modify, same]
    | refresh => simp [timerSlot, modify]
  | false =>
    cases k with
    | update o j =>
      by_cases same : o = c.path
      · by_cases index : j = i
        · simp [timerSlot, heap_modify, same, index]
        · simp [timerSlot, heap_modify, same, index]
      · simp [timerSlot, heap_modify, same]
    | error o j => by_cases same : o = c.path <;> simp [timerSlot, heap_modify, same]
    | refresh => simp [timerSlot, modify]

theorem Recorded.attachChange [DecidableEq ι] [PropertyIndex ι] (recorded : Recorded r) {c : PropertyChange ι} {i : ι}
    (live : r.Live c.path) (own : (Source.property c).slot = attachSlot c i) (formed : c.Formed) :
    Recorded (r.attachChange c i) where
  numbers := by
    rw [attachChange_sources]
    exact recorded.numbers
  records := by
    rw [attachChange_sources, timerSlot_attachChange, ← own]
    exact recorded.records.attach recorded.numbers (.property c)
  formed id' c' found := by
    rw [attachChange_sources, Pool.find_attach] at found
    split at found
    · cases found
      exact formed
    · exact recorded.formed id' c' found
  empty o dead j := by
    have other : o ≠ c.path := fun same =>
      dead (same ▸ ((attachChange_upkeep r c i).toSameObjects.live c.path).mpr live)
    have blank := recorded.empty o
      (fun alive => dead (((attachChange_upkeep r c i).toSameObjects.live o).mpr alive)) j
    have update : (r.attachChange c i).timerSlot (.update o j) = r.timerSlot (.update o j) := by
      rw [timerSlot_attachChange, Function.update_of_ne]
      unfold attachSlot
      split <;> simp [other]
    have error : (r.attachChange c i).timerSlot (.error o j) = r.timerSlot (.error o j) := by
      rw [timerSlot_attachChange, Function.update_of_ne]
      unfold attachSlot
      split <;> simp [other]
    exact ⟨update.trans blank.1, error.trans blank.2⟩

/-! ## The operations on timers -/

/-- `g_timeout_add_full` for the refresh timer. -/
theorem Recorded.scheduleRefresh [DecidableEq ι] [PropertyIndex ι]
    (recorded : Recorded r) : Recorded r.scheduleRefresh := by
  have removed := recorded.removeSlot .refresh
  have scheduled : r.scheduleRefresh = { r.removeSlot .refresh with
      sources := (r.removeSlot .refresh).sources.attach .refresh
      toRefresh := (r.removeSlot .refresh).sources.fresh } := rfl
  rw [scheduled]
  exact {
    numbers := removed.numbers
    records := by
      refine (removed.records.attach removed.numbers .refresh).congr fun k => ?_
      cases k with
      | update o i => rfl
      | error o i => rfl
      | refresh => simp [timerSlot, Source.slot]
    formed := fun id c found => by
      rw [Pool.find_attach] at found
      split at found
      · cases found
      · exact removed.formed id c found
    empty := removed.empty }

theorem Recorded.refreshDone [PropertyIndex ι] (recorded : Recorded r) (id : Nat) : Recorded (r.refreshDone id) where
  numbers := recorded.numbers
  records := recorded.records.detach id
  formed id' c found := recorded.formed id' c (Pool.find_of_find_detach found)
  empty := recorded.empty

/-- The timer `property_update` attaches. -/
def updateChange (o : ObjId) (i : ι) : PropertyChange ι := { index := i, path := o, name := i, error := false }

/-- The timer `set_property_cb` attaches. -/
def errorChange [PropertyIndex ι] (o : ObjId) (i : ι) : PropertyChange ι :=
  { index := PropertyIndex.zero, path := o, name := i, error := true }

@[simp] theorem attachSlot_updateChange (o : ObjId) (i j : ι) :
    attachSlot (updateChange o i) j = .update o j := rfl

@[simp] theorem attachSlot_errorChange [PropertyIndex ι] (o : ObjId) (i j : ι) :
    attachSlot (errorChange o i) j = .error o j := rfl

/-- A new update timer takes the place of the one in its slot. -/
theorem propertyUpdate_eq [DecidableEq ι] (r : Registry ι ρ) (o : ObjId) (i : ι) :
    r.propertyUpdate o i =
      match (r.heap o).propertyChangedCb with
      | none => r
      | some _ => (r.removeSlot (.update o i)).attachChange (updateChange o i) i := rfl

theorem Recorded.propertyUpdate [DecidableEq ι] [PropertyIndex ι] (recorded : Recorded r) (live : r.Live o) (i : ι) :
    Recorded (r.propertyUpdate o i) := by
  rw [propertyUpdate_eq]
  split
  · exact recorded
  · exact (recorded.removeSlot _).attachChange
      (((removeSlot_upkeep r _).toSameObjects.live o).mpr live) rfl rfl

/-- The slot of a call is emptied. -/
def emptyCall [DecidableEq ι] (r : Registry ι ρ) (o : ObjId) (i : ι) : Registry ι ρ :=
  r.modify o fun obj => { obj with callModify := Function.update obj.callModify i 0 }

theorem setPropertyCb_eq [DecidableEq ι] [PropertyIndex ι] (r : Registry ι ρ) (o : ObjId) (i : ι) (failed : Bool) :
    setPropertyCb r o i failed =
      match (r.heap o).propertySetErrorCb with
      | none => r.emptyCall o i
      | some _ =>
        if failed then ((r.emptyCall o i).removeSlot (.error o i)).attachChange (errorChange o i) i
        else r.emptyCall o i := by
  have same : ((r.emptyCall o i).heap o).propertySetErrorCb = (r.heap o).propertySetErrorCb := by
    simp [emptyCall, heap_modify]
  rw [← same]
  rfl

theorem modify_sameTimers {f : Object ι ρ → Object ι ρ}
    (update : (f (r.heap o)).toUpdate = (r.heap o).toUpdate)
    (error : (f (r.heap o)).toError = (r.heap o).toError) : SameTimers r (r.modify o f) where
  sources := rfl
  slots k := by
    left
    cases k with
    | refresh => rfl
    | update o' i =>
      by_cases same : o' = o
      · simp [timerSlot, heap_modify, same, update]
      · simp [timerSlot, heap_modify, same]
    | error o' i =>
      by_cases same : o' = o
      · simp [timerSlot, heap_modify, same, error]
      · simp [timerSlot, heap_modify, same]
  stray := rfl

theorem SameTimers.trans {r'' : Registry ι ρ} (h : SameTimers r r') (h' : SameTimers r' r'') :
    SameTimers r r'' where
  sources := h'.sources.trans h.sources
  slots k := by
    rcases h'.slots k with kept | zero
    · rw [kept]
      exact h.slots k
    · exact .inr zero
  stray := h'.stray.trans h.stray

theorem setData_sameTimers (r : Registry ι ρ) (o : ObjId) (rest : ρ) (index : Option ι) :
    SameTimers r (r.setData o rest index) := modify_sameTimers rfl rfl

theorem setCallbacks_sameTimers (r : Registry ι ρ) (o : ObjId) (changed error : Option Callback) :
    SameTimers r (r.setCallbacks o changed error) := modify_sameTimers rfl rfl

theorem note_sameTimers (r : Registry ι ρ) (n : Note ι) : SameTimers r (r.note n) :=
  ⟨rfl, fun k => .inl (by cases k <;> rfl), rfl⟩

theorem sendSetProperty_sameTimers [DecidableEq ι] (r : Registry ι ρ) (o : ObjId) (i : ι) (outcome : SendOutcome) :
    SameTimers r (r.sendSetProperty o i outcome).1 := by
  have stored : ∀ (calls : Pool (PropertySetting ι)) (id : Nat),
      SameTimers r (Registry.modify { r with calls := calls } o fun obj =>
        { obj with callModify := Function.update obj.callModify i id }) := fun calls id =>
    SameTimers.trans (⟨rfl, fun k => .inl (by cases k <;> rfl), rfl⟩ : SameTimers r { r with calls := calls })
      (modify_sameTimers rfl rfl)
  unfold Registry.sendSetProperty
  split
  · exact ⟨rfl, fun k => .inl rfl, rfl⟩
  · cases outcome with
    | noMessage => exact ⟨rfl, fun k => .inl rfl, rfl⟩
    | noSetting => exact ⟨rfl, fun k => .inl rfl, rfl⟩
    | refused => exact stored r.calls 0
    | noPending => exact stored r.calls 0
    | noNotify => exact stored _ _
    | sent => exact stored _ _

theorem scans_sameTimers (r : Registry ι ρ) (scans : Pool ScanCall) :
    SameTimers r { r with scans := scans } := ⟨rfl, fun k => .inl (by cases k <;> rfl), rfl⟩

theorem sendScan_sameTimers (r : Registry ι ρ) (o : ObjId) (callback : Option Callback)
    (outcome : SendOutcome) : SameTimers r (r.sendScan o callback outcome).1 := by
  have stored : ∀ (scans : Pool ScanCall) (id : Nat) (callback : Option Callback),
      SameTimers r (Registry.modify { r with scans := scans } o fun obj =>
        { obj with scanCb := callback, scanCall := id }) := fun scans id callback =>
    (scans_sameTimers r scans).trans (modify_sameTimers rfl rfl)
  cases outcome with
  | noMessage => exact ⟨rfl, fun k => .inl rfl, rfl⟩
  | refused => exact stored r.scans 0 none
  | noPending => exact stored r.scans 0 none
  | noNotify => exact stored _ _ _
  | sent => exact stored _ _ _
  | noSetting => exact stored _ _ _

theorem scanCallback_sameTimers {call : Nat} (ran : r.scanCallback call = some r') :
    SameTimers r r' := by
  unfold Registry.scanCallback at ran
  split at ran
  case h_2 => cases ran
  case h_1 o _ =>
    have replied : SameTimers r (Registry.modify { r with scans := r.scans.detach call } o fun obj =>
        { obj with scanCall := 0 }) := (scans_sameTimers r _).trans (modify_sameTimers rfl rfl)
    dsimp only at ran
    split at ran
    · cases ran
      exact replied
    · cases ran
      exact replied.trans (note_sameTimers _ _)

theorem emptyCall_sameTimers [DecidableEq ι] (r : Registry ι ρ) (o : ObjId) (i : ι) :
    SameTimers r (r.emptyCall o i) := modify_sameTimers rfl rfl

theorem propertyChangedOrError_sameTimers (global : Option Callback) (r : Registry ι ρ)
    (c : PropertyChange ι) : SameTimers r (propertyChangedOrError global r c) := by
  rw [propertyChangedOrError_frame]
  exact ⟨rfl, fun k => .inl (by cases k <;> rfl), rfl⟩

theorem timerRun_sameTimers {global : Option Callback} {id : Nat}
    (ran : r.timerRun global id = some r') : SameTimers r r' := by
  unfold Registry.timerRun at ran
  split at ran
  case h_2 => cases ran
  case h_1 c _ =>
    cases ran
    have started : SameTimers r { r with dispatching := some (id, c) } :=
      ⟨rfl, fun k => .inl (by cases k <;> rfl), rfl⟩
    refine started.trans (SameTimers.trans ?_ (propertyChangedOrError_sameTimers global _ c))
    split
    · exact ⟨rfl, fun _ => .inl rfl, rfl⟩
    · exact note_sameTimers _ _

theorem create_sameTimers [PropertyIndex ι] [Inhabited ρ]
    (recorded : Recorded r) (path : String) : SameTimers r (r.create path) where
  sources := rfl
  slots k := by
    have blank := recorded.empty r.next (next_not_live r)
    left
    cases k with
    | refresh => rfl
    | update o i =>
      by_cases new : o = r.next
      · simp [timerSlot, Registry.create, new, Object.blank, (blank i).1]
      · simp [timerSlot, Registry.create, new]
    | error o i =>
      by_cases new : o = r.next
      · simp [timerSlot, Registry.create, new, Object.blank, (blank i).2]
      · simp [timerSlot, Registry.create, new]
  stray := rfl

/-- A failed SetProperty attaches an error timer. -/
theorem Recorded.setPropertyCb [DecidableEq ι] [PropertyIndex ι]
    (recorded : Recorded r) (live : r.Live o) (i : ι) (failed : Bool) :
    Recorded (setPropertyCb r o i failed) := by
  have emptied := recorded.same (emptyCall_sameTimers r o i) fun _ alive => alive
  rw [setPropertyCb_eq]
  split
  · exact emptied
  · split
    · exact (emptied.removeSlot _).attachChange
        (((removeSlot_upkeep _ _).toSameObjects.live o).mpr live) rfl rfl
    · exact emptied

theorem timerDone_eq [DecidableEq ι] (r : Registry ι ρ) : r.timerDone =
    r.dispatching.map fun d =>
      if r.sources.find d.1 = some (.property d.2) then
        { r with dispatching := none }.sourceRemove d.1
      else { r with dispatching := none } := by
  unfold timerDone
  cases r.dispatching with
  | none => rfl
  | some d => rfl

theorem idle_sameTimers (r : Registry ι ρ) : SameTimers r { r with dispatching := none } :=
  ⟨rfl, fun k => .inl (by cases k <;> rfl), rfl⟩

/-! ## Freeing an object -/

/-- The call in a slot is cancelled. -/
def cancelCall (r : Registry ι ρ) (o : ObjId) (i : ι) : Registry ι ρ :=
  if (r.heap o).callModify i ≠ 0 then { r with calls := r.calls.detach ((r.heap o).callModify i) } else r

theorem freeSlot_eq [DecidableEq ι] (o : ObjId) (r : Registry ι ρ) (i : ι) :
    freeSlot o r i = ((r.removeSlot (.update o i)).cancelCall o i).removeSlot (.error o i) := rfl

theorem cancelCall_sameTimers (r : Registry ι ρ) (o : ObjId) (i : ι) :
    SameTimers r (r.cancelCall o i) := by
  unfold cancelCall
  split
  · exact ⟨rfl, fun k => .inl (by cases k <;> rfl), rfl⟩
  · exact ⟨rfl, fun _ => .inl rfl, rfl⟩

theorem cancelCall_place (r : Registry ι ρ) (o : ObjId) (i : ι) : SamePlace r (r.cancelCall o i) := by
  unfold cancelCall
  split
  · exact samePlace_of_calls r _
  · exact ⟨rfl, rfl, rfl, rfl, fun _ => rfl⟩

theorem Recorded.freeSlot [DecidableEq ι] [PropertyIndex ι]
    (recorded : Recorded r) (o : ObjId) (i : ι) : Recorded (freeSlot o r i) := by
  rw [freeSlot_eq]
  refine Recorded.removeSlot ?_ _
  exact (recorded.removeSlot _).same (cancelCall_sameTimers _ o i)
    fun o' alive => ((cancelCall_place _ o i).live o').mpr alive

theorem Recorded.freeSlots [DecidableEq ι] [PropertyIndex ι]
    (recorded : Recorded r) (o : ObjId) : Recorded (r.freeSlots o) := by
  suffices fold : ∀ (is : List ι) (r : Registry ι ρ), Recorded r → Recorded (is.foldl (Registry.freeSlot o) r) by
    unfold Registry.freeSlots
    dsimp only
    split
    · exact fold _ _ (recorded.same ⟨rfl, fun k => .inl (by cases k <;> rfl), rfl⟩ fun _ alive => alive)
    · exact fold _ _ recorded
  intro is
  induction is with
  | nil => exact fun _ recorded => recorded
  | cons i is ih => exact fun r recorded => ih _ (recorded.freeSlot o i)

theorem cancelScan_sameTimers (r : Registry ι ρ) (o : ObjId) : SameTimers r (r.cancelScan o) := by
  unfold cancelScan
  split
  · exact scans_sameTimers r _
  · exact ⟨rfl, fun _ => .inl rfl, rfl⟩

theorem cancelScan_live (r : Registry ι ρ) (o o' : ObjId) : (r.cancelScan o).Live o' ↔ r.Live o' := by
  unfold cancelScan
  split
  · rfl
  · rfl

theorem timerSlot_storageFree [PropertyIndex ι] [Inhabited ρ] (r : Registry ι ρ) (o : ObjId) (k : TimerSlot ι) :
    (r.storageFree o).timerSlot k =
      match k with
      | .update o' i => if o' = o then 0 else r.timerSlot (.update o' i)
      | .error o' i => if o' = o then 0 else r.timerSlot (.error o' i)
      | .refresh => r.timerSlot .refresh := by
  cases k with
  | update o' i => by_cases same : o' = o <;> simp [timerSlot, storageFree, same, Object.blank]
  | error o' i => by_cases same : o' = o <;> simp [timerSlot, storageFree, same, Object.blank]
  | refresh => rfl

theorem Recorded.objectFree [DecidableEq ι] [PropertyIndex ι] [Inhabited ρ]
    (recorded : Recorded r) (o : ObjId) : Recorded (r.objectFree o) := by
  unfold Registry.objectFree
  split
  · exact recorded
  · have released : Recorded (r.releaseHandles o) := (recorded.freeSlots o).same (cancelScan_sameTimers _ o)
      fun o' alive => (cancelScan_live _ o o').mpr alive
    have slots : ∀ k, ((r.releaseHandles o).storageFree o).timerSlot k = (r.releaseHandles o).timerSlot k ∨
        ((r.releaseHandles o).storageFree o).timerSlot k = 0 := by
      intro k
      rw [timerSlot_storageFree]
      cases k with
      | refresh => exact .inl rfl
      | update o' i => by_cases same : o' = o <;> simp [same]
      | error o' i => by_cases same : o' = o <;> simp [same]
    exact {
      numbers := released.numbers
      records := released.records.mono (fun _ mem => mem) (fun _ _ found => found) slots
      formed := released.formed
      empty := fun o' dead i => by
        by_cases same : o' = o
        · have blank : ((r.releaseHandles o).storageFree o).heap o' = Object.blank := by
            simp [storageFree, same]
          rw [blank]
          exact ⟨rfl, rfl⟩
        · have kept : ((r.releaseHandles o).storageFree o).heap o' = (r.releaseHandles o).heap o' :=
            Function.update_of_ne same _ _
          rw [kept]
          refine released.empty o' (fun alive => dead ?_) i
          exact (live_storageFree _ o o').mpr ⟨alive, same⟩ }

theorem Recorded.freeAll [DecidableEq ι] [PropertyIndex ι] [Inhabited ρ]
    (leaving : List (String × ObjId)) (recorded : Recorded r) :
    Recorded (leaving.foldl (fun r entry => r.objectFree entry.2) r) := by
  induction leaving generalizing r with
  | nil => exact recorded
  | cons entry leaving ih => exact ih (recorded.objectFree entry.2)

theorem table_sameTimers (r : Registry ι ρ) (table : List (String × ObjId)) :
    SameTimers r { r with table := table } := ⟨rfl, fun k => .inl (by cases k <;> rfl), rfl⟩

theorem selected_sameTimers (r : Registry ι ρ) (selected : Option ObjId) :
    SameTimers r { r with selected := selected } := ⟨rfl, fun k => .inl (by cases k <;> rfl), rfl⟩

/-! ## Every operation records -/

theorem refreshForgotten_sameTimers (r : Registry ι ρ) : SameTimers r { r with toRefresh := 0 } := by
  refine ⟨rfl, fun k => ?_, rfl⟩
  cases k with
  | refresh => exact .inr ⟨rfl, rfl⟩
  | update o i => exact .inl rfl
  | error o i => exact .inl rfl

/-- An operation that moves no object leaves the timers alone, but for
`property_update`. -/
theorem QuietOp.timers [DecidableEq ι] (op : QuietOp r r') :
    SameTimers r r' ∨ ∃ r₁ o i, SameTimers r r₁ ∧ SamePlace r r₁ ∧ r.Live o ∧ r' = r₁.propertyUpdate o i := by
  cases op with
  | noted n => exact .inl (note_sameTimers r n)
  | data o rest index => exact .inl (setData_sameTimers r o rest index)
  | callbacks o changed error => exact .inl (setCallbacks_sameTimers r o changed error)
  | updated o i live =>
    exact .inr ⟨r, o, i, ⟨rfl, fun _ => .inl rfl, rfl⟩, ⟨rfl, rfl, rfl, rfl, fun _ => rfl⟩, live, rfl⟩
  | signalled o i rest live =>
    have noted := note_sameTimers r (.changed o i)
    have place : SamePlace r ((r.note (.changed o i)).setData o rest (some i)) :=
      (note_upkeep r (.changed o i)).toSameObjects.place.trans (modify_place rfl)
    exact .inr ⟨_, o, i, noted.trans (setData_sameTimers _ o rest (some i)), place, live, rfl⟩
  | sent o i outcome => exact .inl (sendSetProperty_sameTimers r o i outcome)
  | timerRun global id idle ran => exact .inl (timerRun_sameTimers ran)
  | refreshForgotten => exact .inl (refreshForgotten_sameTimers r)
  | scanned o callback outcome => exact .inl (sendScan_sameTimers r o callback outcome)
  | scanReplied call ran => exact .inl (scanCallback_sameTimers ran)

theorem Recorded.quietOp [DecidableEq ι] [PropertyIndex ι]
    (recorded : Recorded r) (op : QuietOp r r') : Recorded r' := by
  rcases op.timers with same | ⟨r₁, o, i, same, place, live, rfl⟩
  · exact recorded.same same fun o alive => (op.place.live o).mpr alive
  · have recorded₁ := recorded.same same fun o alive => (place.live o).mpr alive
    exact recorded₁.propertyUpdate ((place.live o).mpr live) i

theorem Recorded.acts [DecidableEq ι] [PropertyIndex ι]
    {a : Act} (recorded : Recorded r) (owned : Owned r) (acts : Acts r a r') :
    Recorded r' := by
  cases acts with
  | replied call failed ran =>
    unfold Registry.setPropertyReply at ran
    split at ran
    case h_2 => cases ran
    case h_1 o i found =>
      cases ran
      have detached : Recorded { r with calls := r.calls.detach call } :=
        recorded.same ⟨rfl, fun k => .inl (by cases k <;> rfl), rfl⟩ fun _ alive => alive
      exact detached.setPropertyCb (o := o) (owned.call_live found) i failed
  | timerDone ran =>
    rw [timerDone_eq] at ran
    obtain ⟨⟨id, c⟩, _, rfl⟩ := Option.map_eq_some_iff.mp ran
    have idle := recorded.same (idle_sameTimers r) fun _ alive => alive
    split
    · exact idle.sourceRemove id
    · exact idle
  | refreshDone id => exact recorded.refreshDone id

theorem Recorded.op [DecidableEq ι] [PropertyIndex ι] [Inhabited ρ]
    (recorded : Recorded r) (owned : Owned r) (op : Op r r') : Recorded r' := by
  cases op with
  | quiet op => exact recorded.quietOp op
  | created path =>
    exact recorded.same (create_sameTimers recorded path)
      fun o alive => (live_create owned path o).mpr (.inl alive)
  | removed path =>
    unfold Registry.hashRemove
    split
    · exact recorded
    · exact (recorded.same (table_sameTimers r (r.table.filter (·.1 ≠ path)))
        fun _ alive => alive).objectFree _
  | removedAll => exact (recorded.same (table_sameTimers r []) fun _ alive => alive).freeAll r.table
  | deselected =>
    have idle := recorded.same (selected_sameTimers r none) fun _ alive => alive
    unfold Registry.deselect
    split
    · exact recorded
    · dsimp only
      split
      · exact idle.objectFree _
      · exact idle

end Registry

end ConnmanUi
