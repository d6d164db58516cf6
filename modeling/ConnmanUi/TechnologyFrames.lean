import ConnmanUi.RegistryRecords
import ConnmanUi.TechnologyListeners

/-!
What the steps of a technology leave in place.

Signals, replies, timers and set calls change no callback; error timers stay
pending until they run, replaced by another if the same SetProperty fails again;
a set call takes no call out of flight, and only a signal of Powered changes it.
-/

namespace ConnmanUi

open Registry Run

namespace Registry

variable {ι ρ : Type} {r r' r'' : Registry ι ρ}
  {o o' : ObjId} {i i' : ι} {id : Nat} {c : PropertyChange ι}

/-! ## Error timers that stay pending -/

section

theorem PendingError.slot (pending : r.PendingError o i id) :
    ∃ s, r.sources.find id = some s ∧ s.slot = .error o i := by
  obtain ⟨c, found, error, rfl, rfl⟩ := pending
  exact ⟨_, found, by simp [Source.slot, error]⟩

theorem PendingError.sources (pending : r.PendingError o i id) (same : r'.sources = r.sources) :
    r'.PendingError o i id := by
  obtain ⟨c, found, rest⟩ := pending
  exact ⟨c, by rw [same, found], rest⟩

variable [DecidableEq ι]

theorem PendingError.sourceRemove {other : Nat} (pending : r.PendingError o i id) (ne : id ≠ other) :
    (r.sourceRemove other).PendingError o i id := by
  obtain ⟨c, found, rest⟩ := pending
  refine ⟨c, ?_, rest⟩
  rw [sourceRemove_sources, Pool.find_detach, if_neg ne]
  exact found

/-- Another slot holds the id of another timer. -/
theorem PendingError.removeSlot [PropertyIndex ι]
    {k : TimerSlot ι} (pending : r.PendingError o i id) (recorded : Recorded r)
    (other : k ≠ .error o i) : (r.removeSlot k).PendingError o i id := by
  unfold Registry.removeSlot
  split
  · apply pending.sourceRemove
    rintro rfl
    obtain ⟨s, found, slot⟩ := pending.slot
    exact other ((recorded.records.own k s found).symm.trans slot)
  · exact pending

theorem PendingError.attachChange (pending : r.PendingError o i id) (c : PropertyChange ι) (j : ι) :
    (r.attachChange c j).PendingError o i id := by
  obtain ⟨c', found, rest⟩ := pending
  refine ⟨c', ?_, rest⟩
  rw [attachChange_sources, Pool.find_attach, if_neg]
  · exact found
  · rintro rfl
    rw [Pool.find_fresh] at found
    cases found

variable [PropertyIndex ι]

theorem PendingError.propertyUpdate (pending : r.PendingError o i id) (recorded : Recorded r) (o' : ObjId) (i' : ι) :
    (r.propertyUpdate o' i').PendingError o i id := by
  rw [propertyUpdate_eq]
  split
  · exact pending
  · exact (pending.removeSlot (k := .update o' i') recorded nofun).attachChange _ i'

/-- A failed SetProperty of the property replaces its timer, and that of another
leaves it. -/
theorem PendingError.setPropertyCb (pending : r.PendingError o i id) (recorded : Recorded r) (o' : ObjId) (i' : ι)
    (failed : Bool) : ∃ id, (setPropertyCb r o' i' failed).PendingError o i id := by
  have emptied : (r.emptyCall o' i').PendingError o i id := pending.sources rfl
  have recorded' := recorded.same (emptyCall_sameTimers r o' i') fun _ alive => alive
  rw [setPropertyCb_eq]
  split
  · exact ⟨id, emptied⟩
  · split
    · by_cases same : TimerSlot.error o' i' = .error o i
      · cases same
        refine ⟨((r.emptyCall o i).removeSlot (.error o i)).sources.fresh, errorChange o i, ?_, rfl, rfl, rfl⟩
        rw [attachChange_sources, Pool.find_attach, if_pos rfl]
      · exact ⟨id, (emptied.removeSlot recorded' same).attachChange _ i'⟩
    · exact ⟨id, emptied⟩

/-- A failed SetProperty leaves a timer, if the error callback is registered. -/
theorem setPropertyCb_pendingError (registered : (r.heap o).propertySetErrorCb ≠ none) :
    ∃ id, (setPropertyCb r o i true).PendingError o i id := by
  rw [setPropertyCb_eq]
  split
  case h_1 unregistered => exact absurd unregistered registered
  case h_2 =>
    refine ⟨((r.emptyCall o i).removeSlot (.error o i)).sources.fresh, errorChange o i, ?_, rfl, rfl, rfl⟩
    rw [if_pos rfl, attachChange_sources, Pool.find_attach, if_pos rfl]

end

/-! ## Timers that run -/

/-- An error timer invokes the error callback, or nothing. -/
theorem timerRun_log_error {global : Option Callback} (found : r.sources.find id = some (.property c))
    (error : c.error = true) (ran : r.timerRun global id = some r') :
    r'.log = r.log ∨ ∃ cb path, r'.log = .errorCb cb path c.name :: r.log := by
  obtain ⟨c', found', rfl⟩ := timerRun_spec ran
  rw [found] at found'
  cases found'
  rw [if_pos error]
  unfold propertyChangedOrError
  dsimp only
  split
  · exact .inl rfl
  · rw [if_pos error]
    split
    · exact .inl rfl
    · exact .inr ⟨_, _, rfl⟩

theorem timerRun_dispatching {global : Option Callback} (found : r.sources.find id = some (.property c))
    (ran : r.timerRun global id = some r') : r'.dispatching = some (id, c) := by
  obtain ⟨c', found', rfl⟩ := timerRun_spec ran
  rw [found] at found'
  cases found'
  rw [propertyChangedOrError_dispatching]
  split
  · rfl
  · rfl

/-! ## Callbacks that stay registered -/

/-- The objects are where they were, with the callbacks they had. -/
structure SameCallbacks (r r' : Registry ι ρ) : Prop extends SamePlace r r' where
  changed : ∀ o, (r'.heap o).propertyChangedCb = (r.heap o).propertyChangedCb
  error : ∀ o, (r'.heap o).propertySetErrorCb = (r.heap o).propertySetErrorCb

theorem SameObjects.sameCallbacks (same : SameObjects r r') : SameCallbacks r r' :=
  ⟨same.place, fun o => (same.object o).propertyChangedCb, fun o => (same.object o).propertySetErrorCb⟩

theorem SameCallbacks.trans (first : SameCallbacks r r') (rest : SameCallbacks r' r'') : SameCallbacks r r'' :=
  ⟨first.toSamePlace.trans rest.toSamePlace, fun o => (rest.changed o).trans (first.changed o),
    fun o => (rest.error o).trans (first.error o)⟩

theorem modify_sameCallbacks {f : Object ι ρ → Object ι ρ} (path : (f (r.heap o)).path = (r.heap o).path)
    (changed : (f (r.heap o)).propertyChangedCb = (r.heap o).propertyChangedCb)
    (error : (f (r.heap o)).propertySetErrorCb = (r.heap o).propertySetErrorCb) :
    SameCallbacks r (r.modify o f) :=
  ⟨modify_place path, modify_field Object.propertyChangedCb changed, modify_field Object.propertySetErrorCb error⟩

theorem calls_sameCallbacks (r : Registry ι ρ) (calls : Pool (PropertySetting ι)) :
    SameCallbacks r { r with calls := calls } := ⟨samePlace_of_calls r calls, fun _ => rfl, fun _ => rfl⟩

variable [DecidableEq ι]

theorem sendSetProperty_sameCallbacks (outcome : SendOutcome) :
    SameCallbacks r (r.sendSetProperty o i outcome).1 := by
  have refl : SameCallbacks r r := (SameObjects.refl r).sameCallbacks
  have stored : ∀ (calls : Pool (PropertySetting ι)) (id : Nat),
      SameCallbacks r (Registry.modify { r with calls := calls } o fun obj =>
        { obj with callModify := Function.update obj.callModify i id }) := fun calls id =>
    (calls_sameCallbacks r calls).trans (modify_sameCallbacks rfl rfl rfl)
  unfold Registry.sendSetProperty
  split
  · exact refl
  · cases outcome with
    | noMessage => exact refl
    | noSetting => exact refl
    | refused => exact stored r.calls 0
    | noPending => exact stored r.calls 0
    | noNotify => exact stored _ _
    | sent => exact stored _ _

theorem setPropertyCb_sameCallbacks [PropertyIndex ι] (r : Registry ι ρ) (o : ObjId) (i : ι) (failed : Bool) :
    SameCallbacks r (setPropertyCb r o i failed) := by
  have emptied : SameCallbacks r (r.emptyCall o i) := modify_sameCallbacks rfl rfl rfl
  rw [setPropertyCb_eq]
  split
  · exact emptied
  · split
    · exact emptied.trans
        ((removeSlot_upkeep _ _).trans (attachChange_upkeep _ _ _)).toSameObjects.sameCallbacks
    · exact emptied

/-- Sending takes no call out of flight. -/
theorem sendSetProperty_within (outcome : SendOutcome) : CallsWithin (r.sendSetProperty o i outcome).1 r := by
  have attached : ∀ set, CallsWithin { r with calls := r.calls.attach set } r := by
    intro set call set' found
    have old : call ≠ r.calls.fresh := by
      rintro rfl
      rw [Pool.find_fresh] at found
      cases found
    exact (Pool.find_attach _ _ _).trans ((if_neg old).trans found)
  unfold Registry.sendSetProperty
  split
  · exact .of_eq rfl
  · cases outcome with
    | noNotify => exact attached _
    | sent => exact attached _
    | _ => exact .of_eq rfl

/-- What is returned is zero only for a call that was sent, into an empty slot. -/
theorem sendSetProperty_zero {outcome : SendOutcome} (zero : (r.sendSetProperty o i outcome).2 = 0) :
    (r.heap o).callModify i = 0 ∧
      (r.sendSetProperty o i outcome).1.calls.find r.calls.fresh = some ⟨o, i, true⟩ := by
  have invalid : -EINVAL ≠ 0 := by decide
  have memory : -ENOMEM ≠ 0 := by decide
  unfold Registry.sendSetProperty at zero ⊢
  split
  case isTrue used =>
    rw [if_pos used] at zero
    exact absurd zero invalid
  case isFalse empty =>
    rw [if_neg empty] at zero
    refine ⟨not_not.mp empty, ?_⟩
    cases outcome with
    | noMessage => exact absurd zero memory
    | noSetting => exact absurd zero memory
    | refused => exact absurd zero invalid
    | noPending => exact absurd zero invalid
    | noNotify => exact absurd zero invalid
    | sent => exact (Pool.find_attach _ _ _).trans (if_pos rfl)

end Registry

namespace Technology

variable {s s' : State} {e : Event} {o : ObjId}

/-- A set call, the signal of a change, the reply to a set call, or a timer. -/
def Calm : Event → Prop
  | .set .. | .propertyChanged .. | .setPropertyReply .. | .timer _ | .timerDone => True
  | _ => False

/-- None of these touches a callback. -/
theorem callbacks_step (ran : step s e = some s') (calm : Calm e) :
    SameCallbacks s.reg s'.reg ∧ s'.propertyChangedCb = s.propertyChangedCb := by
  cases e with
  | set path setting outcome =>
    cases ran
    have refl : SameCallbacks s.reg s.reg := (SameObjects.refl s.reg).sameCallbacks
    cases known : s.reg.get path with
    | none =>
      rw [connmanTechnologySet_unknown known]
      exact ⟨refl, rfl⟩
    | some o =>
      rcases connmanTechnologySet_asks known setting outcome with asked | ⟨_, same⟩
      · rw [asked]
        exact ⟨sendSetProperty_sameCallbacks outcome, rfl⟩
      · rw [same]
        exact ⟨refl, rfl⟩
  | propertyChanged wid uninit name value =>
    obtain ⟨o, _, rfl⟩ := Option.map_eq_some_iff.mp (handed ran).2
    refine ⟨?_, by rw [propertyChangedSignalCb_frame]⟩
    have noted : SameCallbacks s.reg (noteChanged s.reg o name) := by
      rw [noteChanged_eq]
      split
      · exact (note_upkeep _ _).toSameObjects.sameCallbacks
      · exact (SameObjects.refl s.reg).sameCallbacks
    have stored : ∀ rest index, SameCallbacks s.reg ((noteChanged s.reg o name).setData o rest index) :=
      fun rest index => noted.trans (modify_sameCallbacks rfl rfl rfl)
    rw [propertyChangedSignalCb_reg]
    split
    · exact (stored _ _).trans (propertyUpdate_upkeep _ _ _).toSameObjects.sameCallbacks
    · exact stored _ _
  | setPropertyReply call failed =>
    obtain ⟨reg, replied, rfl⟩ := Option.map_eq_some_iff.mp (handed ran).2
    obtain ⟨o, i, _, rfl⟩ := setPropertyReply_eq replied
    exact ⟨(calls_sameCallbacks _ _).trans (setPropertyCb_sameCallbacks _ o i failed), rfl⟩
  | timer id =>
    obtain ⟨reg, fired, rfl⟩ := Option.map_eq_some_iff.mp (handed ran).2
    exact ⟨(timerRun_upkeep fired).toSameObjects.sameCallbacks, rfl⟩
  | timerDone =>
    obtain ⟨reg, ended, rfl⟩ := Option.map_eq_some_iff.mp ran
    exact ⟨(timerDone_upkeep ended).toSameObjects.sameCallbacks, rfl⟩
  | _ => exact False.elim calm

/-- A set call leaves the timers and the data alone, and takes no call out of
flight. -/
theorem set_step (s : State) (path : String) (setting : Setting) (outcome : SendOutcome) :
    let s' := (connmanTechnologySet s path setting outcome).1
    SameTimers s.reg s'.reg ∧ SameData s.reg s'.reg ∧ s'.reg.dispatching = s.reg.dispatching ∧
      CallsWithin s'.reg s.reg := by
  have refl : SameTimers s.reg s.reg := ⟨rfl, fun _ => .inl rfl, rfl⟩
  dsimp only
  cases known : s.reg.get path with
  | none =>
    rw [connmanTechnologySet_unknown known]
    exact ⟨refl, .refl _, rfl, .of_eq rfl⟩
  | some o =>
    rcases connmanTechnologySet_asks known setting outcome with asked | ⟨_, same⟩
    · rw [asked]
      exact ⟨sendSetProperty_sameTimers _ _ _ _, sendSetProperty_sameData _, (sendSetProperty_hushed _).dispatching,
        sendSetProperty_within _⟩
    · rw [same]
      exact ⟨refl, .refl _, rfl, .of_eq rfl⟩

/-- Only an entry named Powered changes it. -/
theorem storeProperty_powered {uninit : Option String} {name : String} {value : Value}
    (obj : Object Property Record) (other : Property.ofName name ≠ some .powered) :
    (storeProperty uninit obj name value).rest.powered = obj.rest.powered := by
  unfold storeProperty
  split
  case h_3 => exact absurd rfl other
  all_goals rfl

/-- A signal for the object `o`: what it leaves of the timers, the calls and
Powered. -/
theorem propertyChanged_step {wid : Nat} {uninit : Option String} {name : String} {value : Value}
    (tidy : Tidy s) (timed : Timed s.reg) (ran : step s (.propertyChanged wid uninit name value) = some s') :
    ∃ o, s.reg.watches.find wid = some o ∧ s'.reg.calls = s.reg.calls ∧
      Passes s.reg s'.reg o (fun i => (s.reg.heap o).propertyChangedCb ≠ none ∧ Property.ofName name = some i) ∧
      (∀ o' i id, s.reg.PendingError o' i id → s'.reg.PendingError o' i id) ∧
      ∀ o', (o' = o → Property.ofName name ≠ some .powered) →
        (s'.reg.heap o').rest.powered = (s.reg.heap o').rest.powered := by
  obtain ⟨o, watched, rfl⟩ := Option.map_eq_some_iff.mp (handed ran).2
  have live := tidy.owned.watch_live watched
  have passes := (signal_passes uninit name value timed live).1
  unfold Message.handle at passes
  have noted : Upkeep s.reg (noteChanged s.reg o name) ∧ SameTimers s.reg (noteChanged s.reg o name) ∧
      (noteChanged s.reg o name).heap = s.reg.heap := by
    rw [noteChanged_eq]
    split
    · exact ⟨note_upkeep _ _, note_sameTimers _ _, rfl⟩
    · exact ⟨.refl _, ⟨rfl, fun _ => .inl rfl, rfl⟩, rfl⟩
  refine ⟨o, watched, ?_, passes, fun o' i id pending => ?_, fun o' other => ?_⟩
  · rw [propertyChangedSignalCb_reg]
    split
    · exact (propertyUpdate_upkeep _ _ _).calls.trans noted.1.calls
    · exact noted.1.calls
  · rw [propertyChangedSignalCb_reg]
    have stored := fun rest index => noted.2.1.trans (setData_sameTimers (noteChanged s.reg o name) o rest index)
    split
    · refine (pending.sources (stored _ _).sources).propertyUpdate ?_ o _
      exact timed.recorded.same (stored _ _) fun o' alive => (noted.1.toSameObjects.place.trans
        (modify_place rfl)).live o' |>.mpr alive
    · exact pending.sources (stored _ _).sources
  · have kept : (((noteChanged s.reg o name).setData o
        (storeProperty uninit { (noteChanged s.reg o name).heap o with updateIndex := none } name value).rest
          (Property.ofName name)).heap o').rest.powered = (s.reg.heap o').rest.powered := by
      unfold setData
      rw [heap_modify, noted.2.2]
      split
      case isTrue here => exact (storeProperty_powered _ (other here)).trans (by rw [here])
      case isFalse => rfl
    rw [propertyChangedSignalCb_reg]
    split
    case h_1 i named =>
      rw [named] at kept
      exact (congrArg Record.powered ((propertyUpdate_upkeep _ _ _).object o').rest).trans kept
    case h_2 named =>
      rw [named] at kept
      exact kept

end Technology

end ConnmanUi
