import ConnmanUi.SettingCalls
import ConnmanUi.TimerBookkeeping

/-!
The refresh timer and `to_refresh`.

`call_refresh_callback` keeps the id of its timer in `to_refresh`, and replaces
the timer it finds there.  Nothing clears the field when the timer has run, and
`connman_service_finalize` frees it with the timer still pending; every other
step leaves field and timers alone (`Steady`).  So the field is exact in a run
exactly if no refresh timer runs and none is pending at the end
(`refresh_handle_exact_iff`).
-/

namespace ConnmanUi

open Registry Run

namespace Registry

variable {ι ρ : Type} {r r' r'' : Registry ι ρ}
  {o : ObjId} {i : ι} {id : Nat}

/-- Neither `to_refresh` nor a refresh timer is touched. -/
structure Steady (r r' : Registry ι ρ) : Prop where
  handle : r'.toRefresh = r.toRefresh
  timers : ∀ id, r'.sources.find id = some .refresh ↔ r.sources.find id = some .refresh

theorem Steady.of_same (sources : r'.sources = r.sources) (handle : r'.toRefresh = r.toRefresh) :
    Steady r r' := ⟨handle, fun id => by rw [sources]⟩

theorem Steady.refl (r : Registry ι ρ) : Steady r r := .of_same rfl rfl

theorem Steady.trans (first : Steady r r') (rest : Steady r' r'') : Steady r r'' :=
  ⟨rest.handle.trans first.handle, fun id => (rest.timers id).trans (first.timers id)⟩

/-- No slot of a property holds the id of a refresh timer. -/
def Apart (r : Registry ι ρ) : Prop := ∀ k, k ≠ .refresh → r.sources.find (r.timerSlot k) ≠ some .refresh

theorem Recorded.apart [PropertyIndex ι] (recorded : Recorded r) : Apart r := by
  intro k other found
  exact other (recorded.records.own k .refresh found).symm

/-- Slots may be emptied and sources removed. -/
theorem Apart.mono (apart : Apart r) (sources : ∀ id, r'.sources.find id = some .refresh → r.sources.find id = some .refresh)
    (slots : ∀ k, k ≠ .refresh → r'.timerSlot k = r.timerSlot k ∨ r'.timerSlot k = 0) : Apart r' := by
  intro k other found
  have before := sources _ found
  rcases slots k other with same | zero
  · rw [same] at before
    exact apart k other before
  · exact Pool.ne_zero_of_find before zero

/-! ## What an operation does to them -/

theorem destroyProperty_toRefresh [DecidableEq ι] (r : Registry ι ρ) (c : PropertyChange ι) :
    (r.destroyProperty c).toRefresh = r.toRefresh := by
  have kept := timerSlot_destroyProperty r c .refresh
  rw [if_neg] at kept
  · exact kept
  · unfold emptied
    cases r.get (r.heap c.path).path with
    | none => nofun
    | some o => cases c.error <;> simp

theorem sourceRemove_toRefresh [DecidableEq ι]
    (r : Registry ι ρ) (id : Nat) : (r.sourceRemove id).toRefresh = r.toRefresh := by
  cases found : r.sources.find id with
  | none => rw [sourceRemove_none found]
  | some source =>
    cases source with
    | refresh => rw [sourceRemove_refresh found]
    | property c =>
      rw [sourceRemove_property found]
      exact destroyProperty_toRefresh _ c

/-- Any other source may go. -/
theorem sourceRemove_steady [DecidableEq ι]
    (other : r.sources.find id ≠ some .refresh) : Steady r (r.sourceRemove id) where
  handle := sourceRemove_toRefresh r id
  timers id' := by
    rw [sourceRemove_sources, Pool.find_detach]
    by_cases same : id' = id
    · subst same
      simpa using other
    · rw [if_neg same]

theorem removeSlot_steady [DecidableEq ι] {k : TimerSlot ι} (apart : Apart r) (other : k ≠ .refresh) :
    Steady r (r.removeSlot k) := by
  unfold Registry.removeSlot
  split
  · exact sourceRemove_steady (apart k other)
  · exact .refl r

theorem attachChange_steady [DecidableEq ι]
    (r : Registry ι ρ) (c : PropertyChange ι) (i : ι) : Steady r (r.attachChange c i) where
  handle := by
    have kept := congrFun (timerSlot_attachChange r c i) .refresh
    rw [Function.update_of_ne] at kept
    · exact kept
    · unfold attachSlot
      split <;> nofun
  timers id := by
    rw [attachChange_sources, Pool.find_attach]
    split
    case isFalse => rfl
    case isTrue fresh =>
      rw [fresh, Pool.find_fresh]
      simp

theorem propertyUpdate_steady [DecidableEq ι]
    (apart : Apart r) (o : ObjId) (i : ι) : Steady r (r.propertyUpdate o i) := by
  rw [propertyUpdate_eq]
  split
  · exact .refl r
  · exact (removeSlot_steady (k := .update o i) apart nofun).trans (attachChange_steady _ _ i)

theorem sendSetProperty_steady [DecidableEq ι]
    (outcome : SendOutcome) : Steady r (r.sendSetProperty o i outcome).1 := by
  unfold Registry.sendSetProperty
  split
  · exact .refl r
  · cases outcome <;> exact .of_same rfl rfl

theorem setPropertyReply_steady [DecidableEq ι] [PropertyIndex ι] {call : Nat} {failed : Bool} (apart : Apart r)
    (ran : r.setPropertyReply call failed = some r') : Steady r r' := by
  obtain ⟨o, i, _, rfl⟩ := setPropertyReply_eq ran
  have emptied : Steady r (Registry.emptyCall { r with calls := r.calls.detach call } o i) := .of_same rfl rfl
  have apart' : Apart (Registry.emptyCall { r with calls := r.calls.detach call } o i) := by
    refine apart.mono (fun _ found => found) fun k other => ?_
    have detached := calls_sameTimers r (r.calls.detach call)
    rcases (detached.trans (emptyCall_sameTimers _ o i)).slots k with same | ⟨refresh, _⟩
    · exact .inl same
    · exact absurd refresh other
  rw [setPropertyCb_eq]
  split
  · exact emptied
  · split
    · exact emptied.trans ((removeSlot_steady (k := .error o i) apart' nofun).trans (attachChange_steady _ _ i))
    · exact emptied

theorem propertyChangedOrError_steady (global : Option Callback) (r : Registry ι ρ) (c : PropertyChange ι) :
    Steady r (propertyChangedOrError global r c) := by
  rw [propertyChangedOrError_frame]
  exact .of_same rfl rfl

theorem timerRun_steady {global : Option Callback} (ran : r.timerRun global id = some r') : Steady r r' := by
  unfold Registry.timerRun at ran
  split at ran
  case h_2 => cases ran
  case h_1 c _ =>
    cases ran
    refine Steady.trans ?_ (propertyChangedOrError_steady global _ c)
    split <;> exact .of_same rfl rfl

theorem timerDone_steady [DecidableEq ι] (ran : r.timerDone = some r') : Steady r r' := by
  rw [timerDone_eq] at ran
  obtain ⟨⟨id, c⟩, _, rfl⟩ := Option.map_eq_some_iff.mp ran
  have ended : Steady r { r with dispatching := none } := .of_same rfl rfl
  split
  case isFalse => exact ended
  case isTrue own =>
    refine ended.trans (sourceRemove_steady ?_)
    simp [own]

/-- What is kept while objects are freed. -/
structure Freeing (r r' : Registry ι ρ) : Prop where
  apart : Apart r'
  steady : Steady r r'

theorem Freeing.frame (freeing : Freeing r r') (heap : r''.heap = r'.heap) (sources : r''.sources = r'.sources)
    (handle : r''.toRefresh = r'.toRefresh) : Freeing r r'' where
  apart := freeing.apart.mono (fun id found => sources ▸ found) fun k _ => .inl (by
    cases k <;> simp only [timerSlot, heap, handle])
  steady := freeing.steady.trans (.of_same sources handle)

/-- Freeing an object removes timers of properties only. -/
theorem Freeing.objectFree [DecidableEq ι] [PropertyIndex ι] [Inhabited ρ]
    (freeing : Freeing r r') (o : ObjId) : Freeing r (r'.objectFree o) := by
  refine objectFree_invariant (I := Freeing r) freeing ?_ (fun r₁ _ inv => inv.frame rfl rfl rfl)
    (fun r₁ _ inv => inv.frame rfl rfl rfl) (fun r₁ _ inv => inv.frame rfl rfl rfl) ?_ o
  · intro r₁ k other inv
    have removed := removeSlot_steady inv.apart other
    refine ⟨inv.apart.mono (fun id => (removed.timers id).mp) fun l _ => ?_, inv.steady.trans removed⟩
    unfold Registry.removeSlot
    split
    · exact timerSlot_sourceRemove_or r₁ _ l
    · exact .inl rfl
  · intro r₁ o inv
    refine ⟨inv.apart.mono (fun _ found => found) fun k _ => ?_, inv.steady.trans (.of_same rfl rfl)⟩
    rw [timerSlot_storageFree]
    cases k with
    | refresh => exact .inl rfl
    | update o' i => by_cases freed : o' = o <;> simp [freed]
    | error o' i => by_cases freed : o' = o <;> simp [freed]

theorem removals_steady [DecidableEq ι] [PropertyIndex ι] [Inhabited ρ]
    (owned : Owned r) (recorded : Recorded r) (path : String) :
    Steady r (r.hashRemove objectFree path) ∧ Steady r (r.hashRemoveAll objectFree) ∧ Steady r r.deselect := by
  have gone := removal_invariant (I := Freeing r) owned ⟨recorded.apart, .refl r⟩
    (fun r₁ _ inv => inv.frame rfl rfl rfl) (fun r₁ inv => inv.frame rfl rfl rfl)
    (fun r₁ o inv _ => inv.objectFree o) path
  exact ⟨gone.1.steady, gone.2.1.steady, gone.2.2.steady⟩

/-! ## The field and the timers -/

/-- `to_refresh` holds the id of the one refresh timer pending, or zero. -/
def RefreshBooked (r : Registry ι ρ) : Prop :=
  ∀ id, r.sources.find id = some .refresh ↔ id ≠ 0 ∧ r.toRefresh = id

theorem RefreshBooked.steady (booked : RefreshBooked r) (steady : Steady r r') : RefreshBooked r' := by
  intro id
  rw [steady.timers, steady.handle]
  exact booked id

/-- The timer replaced is the one whose id the field holds. -/
theorem RefreshBooked.scheduleRefresh [DecidableEq ι]
    (booked : RefreshBooked r) : RefreshBooked r.scheduleRefresh := by
  have scheduled : r.scheduleRefresh = { r.removeSlot .refresh with
      sources := (r.removeSlot .refresh).sources.attach .refresh
      toRefresh := (r.removeSlot .refresh).sources.fresh } := rfl
  intro id
  rw [scheduled, Pool.find_attach, removeSlot_sources]
  constructor
  · intro pending
    split at pending
    case isTrue fresh => exact ⟨fresh ▸ Pool.fresh_ne_zero _, fresh.symm⟩
    case isFalse =>
      rw [Pool.find_detach] at pending
      obtain ⟨removed, pending⟩ := Option.ite_none_left_eq_some.mp pending
      exact absurd ((booked id).mp pending).2.symm removed
  · rintro ⟨_, rfl⟩
    exact if_pos rfl

end Registry

namespace Service

variable {uninit : Uninit} {s s' : State} {e : Event}

/-! ## What a step does to them -/

theorem updateOrCreateServices_steady (uninit : Uninit) (services : List (String × Dict)) (s : State) :
    Steady s.reg (services.foldl (updateOrCreateService uninit) s).reg := by
  have updates : ∀ (o : ObjId) (dict : Dict) (s : State),
      Steady s.reg (dict.foldl (fun s entry => updateProperty uninit s o entry) s).reg := by
    intro o dict
    induction dict with
    | nil => exact fun s => .refl s.reg
    | cons entry dict ih =>
      intro s
      have first : Steady s.reg (updateProperty uninit s o entry).reg := .of_same rfl rfl
      exact first.trans (ih _)
  induction services generalizing s with
  | nil => exact .refl s.reg
  | cons service services ih =>
    have found : Steady s.reg (getOrCreate s service.1).1.reg := by
      unfold getOrCreate
      split
      · exact .refl s.reg
      · exact .of_same rfl rfl
    refine (found.trans ?_).trans (ih (updateOrCreateService uninit s service))
    exact updates _ service.2 { (getOrCreate s service.1).1 with
      ordered := (getOrCreate s service.1).1.ordered ++ [(getOrCreate s service.1).2] }

theorem removeServices_steady (owned : Owned s.reg) (recorded : Recorded s.reg) (removed : List String) :
    Steady s.reg (removed.foldl removeService s).reg := by
  induction removed generalizing s with
  | nil => exact .refl s.reg
  | cons path removed ih =>
    have first : Steady s.reg (removeService s path).reg := by
      have gone := (removals_steady owned recorded path).1
      unfold removeService
      split
      · exact .refl s.reg
      · split
        · exact gone
        · exact gone.trans (.of_same rfl rfl)
    have after := (removeService_spec s path).1.invariant owned recorded
      fun _ _ owned recorded op => recorded.op owned op
    exact first.trans (ih after.1 after.2)

/-- The field and the timers are left alone, or the timer is replaced. -/
def Replaces (s : State) (r : Registry Property Record) : Prop :=
  Steady s.reg r ∨ s.up = true ∧ ∃ listed, Steady s.reg listed ∧ r = listed.scheduleRefresh

theorem callRefreshCallback_replaces {r : Registry Property Record} (steady : Steady r s.reg) :
    Steady r (callRefreshCallback s).reg ∨
      ∃ listed, Steady r listed ∧ (callRefreshCallback s).reg = listed.scheduleRefresh := by
  unfold callRefreshCallback
  split
  · exact .inl steady
  · exact .inr ⟨s.reg, steady, rfl⟩

theorem serviceChangedSignalCb_replaces (owned : Owned s.reg) (recorded : Recorded s.reg)
    (changed : List (String × Dict)) (removed : List String) :
    Replaces s (serviceChangedSignalCb uninit s changed removed).reg := by
  unfold serviceChangedSignalCb
  split
  case isFalse => exact .inl (.refl _)
  case isTrue up =>
    have listed := updateOrCreateServices_steady uninit changed { s with ordered := [] }
    have lists := (updateOrCreateServices_lists uninit (s := { s with ordered := [] }) changed owned).ops
    have after := lists.invariant owned recorded fun _ _ owned recorded op => recorded.op owned op
    have dropped := listed.trans (removeServices_steady after.1 after.2 removed)
    dsimp only
    split
    · rcases callRefreshCallback_replaces dropped with steady | replaced
      · exact .inl steady
      · exact .inr ⟨up, replaced⟩
    · exact .inl dropped

theorem getServicesCallback_replaces (reply : ServicesReply) :
    Replaces s (getServicesCallback uninit s reply).reg := by
  cases reply with
  | noArguments => exact .inl (.refl _)
  | notArray =>
    unfold getServicesCallback getServicesCb
    dsimp only
    split <;> exact .inl (.refl _)
  | services services =>
    unfold getServicesCallback getServicesCb
    dsimp only
    split
    case isFalse => exact .inl (.refl _)
    case isTrue up =>
      have listed := updateOrCreateServices_steady uninit services
        { s with getServicesCall := none, ordered := [] }
      split
      · rcases callRefreshCallback_replaces listed with steady | replaced
        · exact .inl steady
        · exact .inr ⟨up, replaced⟩
      · exact .inl listed

theorem connmanServiceSet_steady (s : State) (path : String) (setting : Setting) (outcome : SendOutcome) :
    Steady s.reg (connmanServiceSet s path setting outcome).1.reg := by
  cases known : s.reg.get path with
  | none =>
    rw [connmanServiceSet_unknown known]
    exact .refl s.reg
  | some o =>
    rcases connmanServiceSet_spec known setting outcome with asked | ⟨_, same⟩
    · rw [asked]
      exact sendSetProperty_steady outcome
    · rw [same]
      exact .refl s.reg

theorem scanServicesCb_steady (s : State) : Steady s.reg (scanServicesCb s).reg := by
  unfold scanServicesCb
  split
  · exact .refl s.reg
  · exact .of_same rfl rfl

/-- A change that is scheduled leaves the refresh timer alone. -/
theorem propertyChangedSignalCb_steady (recorded : Recorded s.reg) (o : ObjId) (name : String) (value : Value) :
    Steady s.reg (propertyChangedSignalCb uninit { s with reg := noteChanged s.reg o name } o name value).reg := by
  have noted : SameTimers s.reg (noteChanged s.reg o name) ∧ Steady s.reg (noteChanged s.reg o name) := by
    rw [noteChanged_eq]
    split
    · exact ⟨note_sameTimers _ _, .of_same rfl rfl⟩
    · exact ⟨⟨rfl, fun _ => .inl rfl, rfl⟩, .refl _⟩
  obtain ⟨rest, handled⟩ := propertyChangedSignalCb_reg uninit
    { s with reg := noteChanged s.reg o name } o name value
  rw [handled]
  split
  case h_2 => exact noted.2.trans (.of_same rfl rfl)
  case h_1 i _ =>
    have stored := noted.1.trans (setData_sameTimers (noteChanged s.reg o name) o rest (some i))
    have apart : Apart ((noteChanged s.reg o name).setData o rest (some i)) :=
      recorded.apart.mono (fun id found => stored.sources ▸ found) fun k other =>
        (stored.slots k).imp_right fun refresh => absurd refresh.1 other
    have data : Steady (noteChanged s.reg o name) ((noteChanged s.reg o name).setData o rest (some i)) :=
      .of_same rfl rfl
    exact noted.2.trans (data.trans (propertyUpdate_steady apart o i))

/-- The module goes down, or a refresh timer runs. -/
def Drops : Event → Prop
  | .finalize => True
  | .refreshTimer _ => True
  | _ => False

/-- Every other step leaves the field and the timers alone, or replaces the
timer. -/
theorem replaces_step (owned : Owned s.reg) (recorded : Recorded s.reg) (keeps : ¬ Drops e)
    (ran : step s e = some s') : Replaces s s'.reg := by
  cases e with
  | finalize => exact absurd trivial keeps
  | refreshTimer id => exact absurd trivial keeps
  | init =>
    cases ran
    exact .inl (.refl _)
  | refreshServicesList wifi refreshCb scanCb =>
    cases ran
    left
    unfold connmanServiceRefreshServicesList
    split
    · cases wifi with
      | noTechnologies => exact .refl _
      | unpowered =>
        exact scanServicesCb_steady (connmanManagerGetServices
          { s with refreshed := false, refreshServicesCb := refreshCb, scanServicesCb := scanCb })
      | powered => exact .refl _
    · exact .refl _
  | freeServicesList =>
    cases ran
    left
    unfold connmanServiceFreeServicesList
    split
    · exact (removals_steady owned recorded "").2.1
    · exact .refl _
  | select path =>
    cases ran
    left
    unfold connmanServiceSelect
    split
    · exact .refl _
    · exact .of_same rfl rfl
  | deselect =>
    cases ran
    exact .inl (removals_steady owned recorded "").2.2
  | setPropertyChangedCallback path cb =>
    cases ran
    left
    unfold connmanServiceSetPropertyChangedCallback
    split
    · exact .refl _
    · exact .of_same rfl rfl
  | setPropertyErrorCallback path cb =>
    cases ran
    left
    unfold connmanServiceSetPropertyErrorCallback
    split
    · exact .refl _
    · exact .of_same rfl rfl
  | setRemovedCallback cb =>
    cases ran
    left
    unfold connmanServiceSetRemovedCallback
    split
    · exact .refl _
    · exact .refl _
  | set path setting outcome =>
    cases ran
    exact .inl (connmanServiceSet_steady s path setting outcome)
  | timerDone =>
    obtain ⟨reg, ended, rfl⟩ := Option.map_eq_some_iff.mp ran
    exact .inl (timerDone_steady ended)
  | servicesChanged uninit changed removed =>
    obtain ⟨_, ran⟩ := Option.ite_none_right_eq_some.mp (handed ran).2
    cases ran
    exact serviceChangedSignalCb_replaces owned recorded changed removed
  | getServicesReply call uninit reply =>
    obtain ⟨_, ran⟩ := Option.ite_none_right_eq_some.mp (handed ran).2
    cases ran
    exact getServicesCallback_replaces reply
  | propertyChanged wid uninit name value =>
    obtain ⟨o, _, rfl⟩ := Option.map_eq_some_iff.mp (handed ran).2
    exact .inl (propertyChangedSignalCb_steady recorded o name value)
  | setPropertyReply call failed =>
    obtain ⟨reg, replied, rfl⟩ := Option.map_eq_some_iff.mp (handed ran).2
    exact .inl (setPropertyReply_steady recorded.apart replied)
  | scanServices =>
    cases (handed ran).2
    exact .inl (scanServicesCb_steady s)
  | timer id =>
    obtain ⟨reg, fired, rfl⟩ := Option.map_eq_some_iff.mp (handed ran).2
    exact .inl (timerRun_steady fired)

/-! ## Runs -/

/-- `to_refresh` is nonzero exactly while a refresh timer is pending, whose id
it holds; while the module is down none is. -/
structure RefreshExact (s : State) : Prop where
  pending : s.up = true → (s.reg.toRefresh ≠ 0 ↔ ∃ id, s.reg.sources.find id = some .refresh)
  id : s.up = true → ∀ id, s.reg.sources.find id = some .refresh → s.reg.toRefresh = id
  down : s.up = false → ∀ id, s.reg.sources.find id ≠ some .refresh

/-- A step that replaces a refresh timer removes one that has not run yet, and
the step leaves the field exact. -/
def RefreshKept (s : State) (e : Event) : Prop :=
  s.reg.RefreshFine (act s e) ∧ ∀ s' ∈ step s e, RefreshExact s'

/-- No refresh timer runs, and the module goes down only while `to_refresh` is
zero. -/
def RefreshQuiet (s : State) : Event → Prop
  | .refreshTimer _ => False
  | .finalize => s.up = true → s.reg.toRefresh = 0
  | _ => True

instance : Decidable (RefreshQuiet s e) := by
  unfold RefreshQuiet
  split <;> infer_instance

/-- What quiet steps keep. -/
structure RefreshHeld (s : State) : Prop where
  owned : Owned s.reg
  recorded : Recorded s.reg
  booked : RefreshBooked s.reg
  down : s.up = false → s.reg.toRefresh = 0

theorem RefreshHeld.exact (held : RefreshHeld s) : RefreshExact s where
  pending _ := by
    constructor
    · intro used
      exact ⟨_, (held.booked _).mpr ⟨used, rfl⟩⟩
    · rintro ⟨id, pending⟩
      obtain ⟨used, rfl⟩ := (held.booked id).mp pending
      exact used
  id _ id pending := ((held.booked id).mp pending).2
  down down id pending := by
    obtain ⟨used, same⟩ := (held.booked id).mp pending
    exact used (same.symm.trans (held.down down))

theorem start_refreshHeld (start : Start s) : RefreshHeld s := by
  obtain ⟨⟨sources, calls, scans, watches, rfl⟩, numbers⟩ := start
  refine ⟨empty_owned sources calls scans watches, empty_recorded calls scans watches numbers, fun id => ?_,
    fun _ => rfl⟩
  constructor
  · intro pending
    cases pending
  · rintro ⟨used, same⟩
    exact absurd same.symm used

theorem connmanServiceFinalize_held (held : RefreshHeld s) (quiet : RefreshQuiet s .finalize)
    (owned : Owned (connmanServiceFinalize s).reg) (recorded : Recorded (connmanServiceFinalize s).reg) :
    RefreshHeld (connmanServiceFinalize s) := by
  cases up : s.up with
  | false =>
    have same : connmanServiceFinalize s = s := by simp [connmanServiceFinalize, up]
    rw [same]
    exact held
  | true =>
    have first := (removals_steady held.owned held.recorded "").2.2
    have rest := (removals_steady held.owned.deselect (held.recorded.op held.owned .deselected) "").2.1
    have timers : ∀ id, (connmanServiceFinalize s).reg.sources.find id = some .refresh ↔
        s.reg.sources.find id = some .refresh := by
      intro id
      rw [← (first.trans rest).timers id]
      simp [connmanServiceFinalize, up, connmanManagerRegisterServiceSignal]
    have zero : (connmanServiceFinalize s).reg.toRefresh = 0 := by simp [connmanServiceFinalize, up]
    refine ⟨owned, recorded, fun id => ?_, fun _ => zero⟩
    rw [timers, held.booked id, quiet up, zero]

theorem refreshHeld_step (held : RefreshHeld s) (quiet : RefreshQuiet s e) (ran : step s e = some s') :
    RefreshHeld s' := by
  have owned := owned_step held.owned ran
  have recorded := Recorded.step held.recorded held.owned ran
  by_cases drops : Drops e
  · cases e with
    | finalize =>
      cases ran
      exact connmanServiceFinalize_held held quiet owned recorded
    | refreshTimer id => exact quiet.elim
    | _ => exact drops.elim
  · have up : s'.up = false → s.up = false := by
      intro down
      cases up : s.up with
      | false => rfl
      | true =>
        have going : e ≠ .finalize := by
          rintro rfl
          exact drops trivial
        have stays := up_step held.owned up going ran
        rw [stays] at down
        cases down
    rcases replaces_step held.owned held.recorded drops ran with steady | ⟨running, listed, steady, replaced⟩
    · exact ⟨owned, recorded, held.booked.steady steady, fun down => steady.handle.trans (held.down (up down))⟩
    · refine ⟨owned, recorded, ?_, fun down => ?_⟩
      · rw [replaced]
        exact (held.booked.steady steady).scheduleRefresh
      · rw [up down] at running
        cases running

/-- The field stays exact over a quiet step and over no other. -/
theorem refreshKept_iff (held : RefreshHeld s) (ran : step s e = some s') :
    RefreshKept s e ↔ RefreshQuiet s e := by
  constructor
  · rintro ⟨_, kept⟩
    have exact_ := kept s' ran
    cases e with
    | refreshTimer id =>
      -- the timer has run, and the field still holds its id
      obtain ⟨due, ran⟩ := Option.ite_none_right_eq_some.mp (handed ran).2
      cases ran
      obtain ⟨used, same⟩ := (held.booked id).mp due
      have up : s.up = true := by
        cases up : s.up with
        | true => rfl
        | false => exact absurd due (held.exact.down up id)
      have after : (refreshCb s id).up = s.up ∧ (refreshCb s id).reg.toRefresh = s.reg.toRefresh ∧
          (refreshCb s id).reg.sources = s.reg.sources.detach id := by
        unfold refreshCb
        dsimp only
        split <;> exact ⟨rfl, rfl, rfl⟩
      obtain ⟨id', pending⟩ := (exact_.pending (after.1.trans up)).mp (by rw [after.2.1, same]; exact used)
      rw [after.2.2, Pool.find_detach] at pending
      obtain ⟨other, pending⟩ := Option.ite_none_left_eq_some.mp pending
      exact other (((held.booked id').mp pending).2.symm.trans same)
    | finalize =>
      intro up
      cases ran
      by_contra used
      have first := (removals_steady held.owned held.recorded "").2.2
      have rest := (removals_steady held.owned.deselect (held.recorded.op held.owned .deselected) "").2.1
      apply exact_.down (by simp [connmanServiceFinalize, up]) s.reg.toRefresh
      have pending := ((first.trans rest).timers _).mpr ((held.booked _).mpr ⟨used, rfl⟩)
      simpa [connmanServiceFinalize, up, connmanManagerRegisterServiceSignal] using pending
    | _ => trivial
  · intro quiet
    refine ⟨?_, fun after ran' => (refreshHeld_step held quiet ran').exact⟩
    cases act s e with
    | schedule => exact fun used => (held.booked _).mpr ⟨used, rfl⟩
    | _ => trivial

/-- In a run the handle of the refresh timer is exact at every step exactly if
no refresh timer runs and none is pending when the module goes down. -/
theorem refresh_handle_exact_iff (s : State) (start : Start s) (events : List Event) :
    AllSteps step RefreshKept s events ↔ AllSteps step RefreshQuiet s events :=
  AllSteps.iff (I := RefreshHeld) (fun _ _ _ held ran => refreshKept_iff held ran)
    (fun _ _ _ held ran _ quiet => refreshHeld_step held quiet ran) (start_refreshHeld start) events

/-- The list is opened with a callback and filled twice, which schedules the
callback. -/
def refilled : List Event :=
  [.init, .refreshServicesList .powered (some 1) none, .getServicesReply 0 zeroed (.services [("/a", [])]),
    .getServicesReply 1 zeroed (.services [("/a", [])])]

/-- A signal replaces the timer. -/
theorem refresh_handle_exact_replaced :
    AllSteps step RefreshKept started (refilled ++ [.servicesChanged zeroed [("/a", [])] [], .freeServicesList]) := by
  have quiet : (play step RefreshQuiet started
      (refilled ++ [.servicesChanged zeroed [("/a", [])] [], .freeServicesList])).isSome := by decide +kernel
  exact (refresh_handle_exact_iff started ⟨started_boot, HandleSupply.counting_numbers⟩ _).mpr
    (.of_play (Option.some_get quiet).symm)

/-- The timer has run. -/
def refreshedOnce : List Event := refilled ++ [.refreshTimer 1]

def afterRefreshedOnce : State := (refreshedOnce.foldlM step started).get (by decide +kernel)

/-- The next signal removes the timer once more. -/
theorem not_always_refreshKept : ¬ ∀ s, Start s → ∀ events, AllSteps step RefreshKept s events := by
  intro always
  have ends : (step afterRefreshedOnce (.servicesChanged zeroed [("/a", [])] [])).isSome := by decide +kernel
  have kept := AllSteps.last refreshedOnce (.servicesChanged zeroed [("/a", [])] [])
    (always started ⟨started_boot, HandleSupply.counting_numbers⟩ _) (Option.some_get _).symm
    (Option.some_get ends).symm
  exact absurd kept.1 (by decide +kernel)

end Service

end ConnmanUi
