import ConnmanUi.Registry

/-!
What timers leave alone.

Attaching and removing timers, and the destroy functions and callbacks that
runs, change the timer slots, the main loop and the log, and nothing else:
`Upkeep`.  Freeing an object's slots also releases its watch and its calls, and
`freeSlots_spec` says exactly which.
-/

namespace ConnmanUi.Registry

variable {ι ρ : Type} {r r' r'' : Registry ι ρ}
  {o o' : ObjId} {i : ι}

theorem heap_modify (r : Registry ι ρ) (o : ObjId) (f : Object ι ρ → Object ι ρ) (o' : ObjId) :
    (r.modify o f).heap o' = if o' = o then f (r.heap o) else r.heap o' := by
  by_cases same : o' = o
  · simp [modify, same]
  · simp [modify, same]

theorem modify_congr {f g : Object ι ρ → Object ι ρ} (same : f (r.heap o) = g (r.heap o)) :
    r.modify o f = r.modify o g := by simp only [modify, same]

theorem modify_modify (r : Registry ι ρ) (o : ObjId) (f g : Object ι ρ → Object ι ρ) :
    (r.modify o f).modify o g = r.modify o fun obj => g (f obj) := by simp [modify]

/-- Two versions of an object that differ at most in their timer slots. -/
structure SameObject (a b : Object ι ρ) : Prop where
  path : b.path = a.path
  rest : b.rest = a.rest
  updateIndex : b.updateIndex = a.updateIndex
  propertyChangedWid : b.propertyChangedWid = a.propertyChangedWid
  propertyChangedCb : b.propertyChangedCb = a.propertyChangedCb
  callModify : b.callModify = a.callModify
  propertySetErrorCb : b.propertySetErrorCb = a.propertySetErrorCb
  scanCb : b.scanCb = a.scanCb
  scanCall : b.scanCall = a.scanCall

theorem SameObject.refl (a : Object ι ρ) : SameObject a a :=
  ⟨rfl, rfl, rfl, rfl, rfl, rfl, rfl, rfl, rfl⟩

theorem SameObject.trans {a b c : Object ι ρ} (h : SameObject a b) (h' : SameObject b c) :
    SameObject a c :=
  ⟨h'.path.trans h.path, h'.rest.trans h.rest, h'.updateIndex.trans h.updateIndex,
    h'.propertyChangedWid.trans h.propertyChangedWid, h'.propertyChangedCb.trans h.propertyChangedCb,
    h'.callModify.trans h.callModify, h'.propertySetErrorCb.trans h.propertySetErrorCb,
    h'.scanCb.trans h.scanCb, h'.scanCall.trans h.scanCall⟩

/-- `r'` is `r` up to the objects' timer slots, the calls, the watches, the
main loop and the log. -/
structure SameObjects (r r' : Registry ι ρ) : Prop where
  next : r'.next = r.next
  freed : r'.freed = r.freed
  early : r'.early = r.early
  table : r'.table = r.table
  selected : r'.selected = r.selected
  object : ∀ o, SameObject (r.heap o) (r'.heap o)

/-- `r'` is `r` up to timer slots, the main loop and the log. -/
structure Upkeep (r r' : Registry ι ρ) : Prop extends SameObjects r r' where
  watches : r'.watches = r.watches
  calls : r'.calls = r.calls
  scans : r'.scans = r.scans

theorem SameObjects.refl (r : Registry ι ρ) : SameObjects r r :=
  ⟨rfl, rfl, rfl, rfl, rfl, fun _ => .refl _⟩

theorem SameObjects.trans (h : SameObjects r r') (h' : SameObjects r' r'') : SameObjects r r'' :=
  ⟨h'.next.trans h.next, h'.freed.trans h.freed, h'.early.trans h.early, h'.table.trans h.table,
    h'.selected.trans h.selected, fun o => (h.object o).trans (h'.object o)⟩

theorem Upkeep.refl (r : Registry ι ρ) : Upkeep r r := ⟨.refl r, rfl, rfl, rfl⟩

theorem Upkeep.trans (h : Upkeep r r') (h' : Upkeep r' r'') : Upkeep r r'' :=
  ⟨h.toSameObjects.trans h'.toSameObjects, h'.watches.trans h.watches, h'.calls.trans h.calls,
    h'.scans.trans h.scans⟩

/-- `r'` keeps every object alive, under its path and where it was held. -/
structure SamePlace (r r' : Registry ι ρ) : Prop where
  next : r'.next = r.next
  freed : r'.freed = r.freed
  table : r'.table = r.table
  selected : r'.selected = r.selected
  path : ∀ o, (r'.heap o).path = (r.heap o).path

theorem SamePlace.trans (h : SamePlace r r') (h' : SamePlace r' r'') : SamePlace r r'' :=
  ⟨h'.next.trans h.next, h'.freed.trans h.freed, h'.table.trans h.table,
    h'.selected.trans h.selected, fun o => (h'.path o).trans (h.path o)⟩

theorem SamePlace.get (same : SamePlace r r') (path : String) : r'.get path = r.get path := by
  unfold Registry.get
  rw [same.table, same.selected]
  cases r.table.lookup path with
  | some o => rfl
  | none =>
    cases r.selected with
    | none => rfl
    | some o => simp only [same.path]

theorem SamePlace.live (same : SamePlace r r') (o : ObjId) : r'.Live o ↔ r.Live o := by
  simp only [Live, same.next, same.freed]

theorem SameObjects.place (same : SameObjects r r') : SamePlace r r' :=
  ⟨same.next, same.freed, same.table, same.selected, fun o => (same.object o).path⟩

theorem SameObjects.live (same : SameObjects r r') (o : ObjId) : r'.Live o ↔ r.Live o :=
  same.place.live o

theorem modify_place {f : Object ι ρ → Object ι ρ} (path : (f (r.heap o)).path = (r.heap o).path) :
    SamePlace r (r.modify o f) := by
  refine ⟨rfl, rfl, rfl, rfl, fun o' => ?_⟩
  rw [heap_modify]
  split
  case isTrue here => rw [path, here]
  case isFalse => rfl

theorem modify_upkeep {f : Object ι ρ → Object ι ρ} (same : SameObject (r.heap o) (f (r.heap o))) :
    Upkeep r (r.modify o f) where
  next := rfl
  freed := rfl
  early := rfl
  table := rfl
  selected := rfl
  object o' := by
    rw [heap_modify]
    split
    case isTrue here => exact here ▸ same
    case isFalse => exact .refl _
  watches := rfl
  calls := rfl
  scans := rfl

theorem note_upkeep (r : Registry ι ρ) (n : Note ι) : Upkeep r (r.note n) :=
  ⟨⟨rfl, rfl, rfl, rfl, rfl, fun _ => .refl _⟩, rfl, rfl, rfl⟩

theorem destroyProperty_upkeep [DecidableEq ι] (r : Registry ι ρ) (c : PropertyChange ι) :
    Upkeep r (r.destroyProperty c) := by
  unfold destroyProperty
  split
  · exact .refl r
  · split
    · exact modify_upkeep ⟨rfl, rfl, rfl, rfl, rfl, rfl, rfl, rfl, rfl⟩
    · exact modify_upkeep ⟨rfl, rfl, rfl, rfl, rfl, rfl, rfl, rfl, rfl⟩

theorem sourceRemove_upkeep [DecidableEq ι] (r : Registry ι ρ) (id : Nat) : Upkeep r (r.sourceRemove id) := by
  unfold sourceRemove
  split
  · exact ⟨⟨rfl, rfl, rfl, rfl, rfl, fun _ => .refl _⟩, rfl, rfl, rfl⟩
  · rename_i source _
    have detached : Upkeep r { r with sources := r.sources.detach id } :=
      ⟨⟨rfl, rfl, rfl, rfl, rfl, fun _ => .refl _⟩, rfl, rfl, rfl⟩
    cases source with
    | property c => exact detached.trans (destroyProperty_upkeep _ c)
    | refresh => exact detached

theorem attachChange_upkeep [DecidableEq ι] (r : Registry ι ρ) (c : PropertyChange ι) (slot : ι) :
    Upkeep r (r.attachChange c slot) := by
  have attached : Upkeep r { r with sources := r.sources.attach (.property c) } :=
    ⟨⟨rfl, rfl, rfl, rfl, rfl, fun _ => .refl _⟩, rfl, rfl, rfl⟩
  unfold attachChange
  split
  · exact attached.trans (modify_upkeep ⟨rfl, rfl, rfl, rfl, rfl, rfl, rfl, rfl, rfl⟩)
  · exact attached.trans (modify_upkeep ⟨rfl, rfl, rfl, rfl, rfl, rfl, rfl, rfl, rfl⟩)

theorem sourceRemove_if_upkeep [DecidableEq ι] (r : Registry ι ρ) (id : Nat) :
    Upkeep r (if id ≠ 0 then r.sourceRemove id else r) := by
  split
  · exact sourceRemove_upkeep r id
  · exact .refl r

theorem propertyUpdate_upkeep [DecidableEq ι] (r : Registry ι ρ) (o : ObjId) (i : ι) :
    Upkeep r (r.propertyUpdate o i) := by
  unfold propertyUpdate
  split
  · exact .refl r
  · exact (sourceRemove_if_upkeep r _).trans (attachChange_upkeep _ _ i)

/-- The callback of a timer only tells the client. -/
theorem propertyChangedOrError_frame (global : Option Callback) (r : Registry ι ρ) (c : PropertyChange ι) :
    propertyChangedOrError global r c = { r with log := (propertyChangedOrError global r c).log } := by
  unfold propertyChangedOrError
  dsimp only
  split
  · rfl
  · split
    · split
      · rfl
      · rfl
    · cases global with
      | none => split <;> rfl
      | some cb => split <;> rfl

theorem propertyChangedOrError_upkeep (global : Option Callback) (r : Registry ι ρ)
    (c : PropertyChange ι) : Upkeep r (propertyChangedOrError global r c) := by
  rw [propertyChangedOrError_frame]
  exact ⟨⟨rfl, rfl, rfl, rfl, rfl, fun _ => .refl _⟩, rfl, rfl, rfl⟩

/-! ## Freeing the slots of an object -/

section Free

variable (o : ObjId) (r : Registry ι ρ)

theorem cancelCall_spec (id : Nat) :
    SameObjects r (if id ≠ 0 then { r with calls := r.calls.detach id } else r) ∧
      (if id ≠ 0 then { r with calls := r.calls.detach id } else r).watches = r.watches ∧
      (if id ≠ 0 then { r with calls := r.calls.detach id } else r).scans = r.scans ∧
      (if id ≠ 0 then { r with calls := r.calls.detach id } else r).calls = r.calls.detach id := by
  split
  · exact ⟨⟨rfl, rfl, rfl, rfl, rfl, fun _ => .refl _⟩, rfl, rfl, rfl⟩
  case isFalse empty =>
    rw [not_not.mp empty]
    exact ⟨.refl _, rfl, rfl, (Pool.detach_zero _).symm⟩

theorem freeSlot_spec [DecidableEq ι] (i : ι) :
    SameObjects r (freeSlot o r i) ∧ (freeSlot o r i).watches = r.watches ∧
      (freeSlot o r i).scans = r.scans ∧
      (freeSlot o r i).calls = r.calls.detach ((r.heap o).callModify i) := by
  have first := sourceRemove_if_upkeep r ((r.heap o).toUpdate i)
  unfold freeSlot
  dsimp only
  generalize (if (r.heap o).toUpdate i ≠ 0 then r.sourceRemove ((r.heap o).toUpdate i) else r) = r₁
    at first ⊢
  have called := cancelCall_spec r₁ ((r₁.heap o).callModify i)
  generalize (if (r₁.heap o).callModify i ≠ 0 then
        { r₁ with calls := r₁.calls.detach ((r₁.heap o).callModify i) } else r₁) = r₂ at called ⊢
  have last := sourceRemove_if_upkeep r₂ ((r₂.heap o).toError i)
  refine ⟨first.toSameObjects.trans (called.1.trans last.toSameObjects), ?_, ?_, ?_⟩
  · rw [last.watches, called.2.1, first.watches]
  · rw [last.scans, called.2.2.1, first.scans]
  · rw [last.calls, called.2.2.2, first.calls, (first.object o).callModify]

theorem freeSlots_spec [DecidableEq ι] [PropertyIndex ι] :
    SameObjects r (r.freeSlots o) ∧
      (r.freeSlots o).watches = r.watches.detach (r.heap o).propertyChangedWid ∧
      (r.freeSlots o).scans = r.scans ∧
      (r.freeSlots o).calls =
        r.calls.releaseAll (PropertyIndex.all.map fun i => (r.heap o).callModify i) := by
  have watched : SameObjects r (if (r.heap o).propertyChangedWid ≠ 0 then
        { r with watches := r.watches.detach (r.heap o).propertyChangedWid } else r) ∧
      (if (r.heap o).propertyChangedWid ≠ 0 then
        { r with watches := r.watches.detach (r.heap o).propertyChangedWid } else r).watches =
        r.watches.detach (r.heap o).propertyChangedWid ∧
      (if (r.heap o).propertyChangedWid ≠ 0 then
        { r with watches := r.watches.detach (r.heap o).propertyChangedWid } else r).scans = r.scans ∧
      (if (r.heap o).propertyChangedWid ≠ 0 then
        { r with watches := r.watches.detach (r.heap o).propertyChangedWid } else r).calls = r.calls := by
    split
    · exact ⟨⟨rfl, rfl, rfl, rfl, rfl, fun _ => .refl _⟩, rfl, rfl, rfl⟩
    case isFalse empty =>
      rw [not_not.mp empty]
      exact ⟨.refl _, (Pool.detach_zero _).symm, rfl, rfl⟩
  unfold freeSlots
  dsimp only
  generalize (if (r.heap o).propertyChangedWid ≠ 0 then
        { r with watches := r.watches.detach (r.heap o).propertyChangedWid } else r) = r₁ at watched ⊢
  obtain ⟨same, watches, scans, calls⟩ := watched
  suffices fold : ∀ (is : List ι) (r₂ : Registry ι ρ), SameObjects r r₂ →
      SameObjects r (is.foldl (freeSlot o) r₂) ∧ (is.foldl (freeSlot o) r₂).watches = r₂.watches ∧
        (is.foldl (freeSlot o) r₂).scans = r₂.scans ∧
        (is.foldl (freeSlot o) r₂).calls =
          r₂.calls.releaseAll (is.map fun i => (r.heap o).callModify i) by
    obtain ⟨same', watches', scans', calls'⟩ := fold PropertyIndex.all r₁ same
    exact ⟨same', watches'.trans watches, scans'.trans scans, calls'.trans (by rw [calls])⟩
  intro is
  induction is with
  | nil => exact fun r₂ same₂ => ⟨same₂, rfl, rfl, rfl⟩
  | cons i is ih =>
    intro r₂ same₂
    obtain ⟨same₃, watches₃, scans₃, calls₃⟩ := freeSlot_spec o r₂ i
    obtain ⟨same₄, watches₄, scans₄, calls₄⟩ := ih (freeSlot o r₂ i) (same₂.trans same₃)
    refine ⟨same₄, watches₄.trans watches₃, scans₄.trans scans₃, calls₄.trans ?_⟩
    rw [calls₃, (same₂.object o).callModify]
    rfl

/-- Releasing an object's handles empties nothing in it; it releases its watch,
its calls and its scan. -/
theorem releaseHandles_spec [DecidableEq ι] [PropertyIndex ι] :
    SameObjects r (r.releaseHandles o) ∧
      (r.releaseHandles o).watches = r.watches.detach (r.heap o).propertyChangedWid ∧
      (r.releaseHandles o).scans = r.scans.detach (r.heap o).scanCall ∧
      (r.releaseHandles o).calls =
        r.calls.releaseAll (PropertyIndex.all.map fun i => (r.heap o).callModify i) := by
  obtain ⟨same, watches, scans, calls⟩ := freeSlots_spec o r
  unfold releaseHandles cancelScan
  split
  · refine ⟨same.trans ⟨rfl, rfl, rfl, rfl, rfl, fun _ => .refl _⟩, watches, ?_, calls⟩
    rw [scans, (same.object o).scanCall]
  case isFalse empty =>
    rw [(same.object o).scanCall] at empty
    refine ⟨same, watches, ?_, calls⟩
    rw [scans, not_not.mp empty, Pool.detach_zero]

end Free

end ConnmanUi.Registry
