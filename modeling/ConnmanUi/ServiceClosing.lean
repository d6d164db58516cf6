import ConnmanUi.RefreshHandle

/-!
After the menu is closed.

`connman_service_free_services_list` removes the ServicesChanged watch and
empties the list and the table.  It leaves alone a GetServices call in flight,
though `__connman_manager_get_services(NULL)` would cancel it, and the refresh
timer.  Either wakes the module later: nothing happens until the list is opened
again exactly if neither is outstanding (`quiet_iff_settled`).
-/

namespace ConnmanUi

open Registry Run

namespace Registry

variable {ι ρ : Type} {r r' r'' : Registry ι ρ}
  {o : ObjId} {i : ι} {id : Nat} {k : TimerSlot ι}

variable [DecidableEq ι]

/-- No object was entered in the table, no watch registered, no refresh
scheduled and no refresh callback invoked since `r`. -/
structure Resting (r r' : Registry ι ρ) : Prop where
  table : ∀ entry ∈ r'.table, entry ∈ r.table
  issued : r'.watches.issued = r.watches.issued
  refreshes : ∀ id, r'.sources.find id = some .refresh → r.sources.find id = some .refresh
  told : r'.log.count .refreshCb = r.log.count .refreshCb

theorem Resting.of_same (table : r'.table = r.table) (watches : r'.watches = r.watches)
    (sources : r'.sources = r.sources) (log : r'.log = r.log) : Resting r r' where
  table entry mem := table ▸ mem
  issued := by rw [watches]
  refreshes id found := sources ▸ found
  told := by rw [log]

theorem Resting.refl (r : Registry ι ρ) : Resting r r := .of_same rfl rfl rfl rfl

theorem Resting.trans (first : Resting r r') (rest : Resting r' r'') : Resting r r'' where
  table entry mem := first.table entry (rest.table entry mem)
  issued := rest.issued.trans first.issued
  refreshes id found := first.refreshes id (rest.refreshes id found)
  told := rest.told.trans first.told

theorem note_resting {n : Note ι} (other : n ≠ .refreshCb) : Resting r (r.note n) where
  table _ mem := mem
  issued := rfl
  refreshes _ found := found
  told := List.count_cons_of_ne other

theorem removeSlot_resting (r : Registry ι ρ) (k : TimerSlot ι) : Resting r (r.removeSlot k) where
  table entry mem := (removeSlot_upkeep r k).toSameObjects.table ▸ mem
  issued := by rw [(removeSlot_upkeep r k).watches]
  refreshes id found := by
    rw [removeSlot_sources] at found
    exact Pool.find_of_find_detach found
  told := by rw [(removeSlot_hushed r k).log]

theorem sourceRemove_resting (r : Registry ι ρ) (id : Nat) : Resting r (r.sourceRemove id) where
  table entry mem := (sourceRemove_upkeep r id).toSameObjects.table ▸ mem
  issued := by rw [(sourceRemove_upkeep r id).watches]
  refreshes id' found := by
    rw [sourceRemove_sources] at found
    exact Pool.find_of_find_detach found
  told := by rw [(sourceRemove_hushed r id).log]

theorem attachChange_resting (r : Registry ι ρ) (c : PropertyChange ι) (i : ι) :
    Resting r (r.attachChange c i) where
  table entry mem := (attachChange_upkeep r c i).toSameObjects.table ▸ mem
  issued := by rw [(attachChange_upkeep r c i).watches]
  refreshes id found := by
    rw [attachChange_sources, Pool.find_attach] at found
    split at found
    · cases found
    · exact found
  told := by rw [(attachChange_hushed r c i).log]

theorem propertyUpdate_resting (r : Registry ι ρ) (o : ObjId) (i : ι) : Resting r (r.propertyUpdate o i) := by
  rw [propertyUpdate_eq]
  split
  · exact .refl r
  · exact (removeSlot_resting r _).trans (attachChange_resting _ _ i)

theorem sendSetProperty_resting (outcome : SendOutcome) : Resting r (r.sendSetProperty o i outcome).1 := by
  unfold Registry.sendSetProperty
  split
  · exact .refl r
  · cases outcome <;> exact .of_same rfl rfl rfl rfl

theorem setPropertyReply_resting [PropertyIndex ι]
    {call : Nat} {failed : Bool} (ran : r.setPropertyReply call failed = some r') :
    Resting r r' := by
  unfold Registry.setPropertyReply at ran
  split at ran
  case h_2 => cases ran
  case h_1 o i _ =>
    cases ran
    have emptied : Resting r (Registry.emptyCall { r with calls := r.calls.detach call } o i) :=
      .of_same rfl rfl rfl rfl
    rw [setPropertyCb_eq]
    split
    · exact emptied
    · split
      · exact emptied.trans ((removeSlot_resting _ _).trans (attachChange_resting _ _ i))
      · exact emptied

theorem propertyChangedOrError_resting (global : Option Callback) (r : Registry ι ρ) (c : PropertyChange ι) :
    Resting r (propertyChangedOrError global r c) := by
  unfold propertyChangedOrError
  dsimp only
  split
  · exact .refl r
  · split
    · split
      · exact .refl r
      · exact note_resting (by simp)
    · cases global with
      | none =>
        split
        · exact .refl r
        · exact note_resting (by simp)
      | some cb =>
        have told : Resting r (r.note (.changedCb cb (r.heap c.path).path c.name)) := note_resting (by simp)
        split
        · exact told
        · exact told.trans (note_resting (by simp))

theorem timerRun_resting {global : Option Callback} (ran : r.timerRun global id = some r') : Resting r r' := by
  unfold Registry.timerRun at ran
  split at ran
  case h_2 => cases ran
  case h_1 c _ =>
    cases ran
    have started : Resting r { r with dispatching := some (id, c) } := .of_same rfl rfl rfl rfl
    apply Resting.trans _ (propertyChangedOrError_resting global _ c)
    split
    · exact started
    · apply started.trans
      exact note_resting nofun

theorem timerDone_resting (ran : r.timerDone = some r') : Resting r r' := by
  rw [timerDone_eq] at ran
  obtain ⟨⟨id, c⟩, _, rfl⟩ := Option.map_eq_some_iff.mp ran
  have ended : Resting r { r with dispatching := none } := .of_same rfl rfl rfl rfl
  split
  · exact ended.trans (sourceRemove_resting _ id)
  · exact ended

theorem refreshDone_resting (r : Registry ι ρ) (id : Nat) : Resting r (r.refreshDone id) where
  table _ mem := mem
  issued := rfl
  refreshes _ found := Pool.find_of_find_detach found
  told := rfl

variable [PropertyIndex ι] [Inhabited ρ]

theorem objectFree_resting (r : Registry ι ρ) (o : ObjId) : Resting r (r.objectFree o) :=
  objectFree_invariant (.refl r) (fun _ k _ rest => rest.trans (removeSlot_resting _ k))
    (fun _ _ rest => ⟨rest.table, rest.issued, rest.refreshes, rest.told⟩)
    (fun _ _ rest => ⟨rest.table, rest.issued, rest.refreshes, rest.told⟩)
    (fun _ _ rest => ⟨rest.table, rest.issued, rest.refreshes, rest.told⟩)
    (fun _ _ rest => ⟨rest.table, rest.issued, rest.refreshes, rest.told⟩) o

theorem hashRemoveAll_resting (owned : Owned r) : Resting r (r.hashRemoveAll objectFree) := by
  obtain ⟨issued, refreshes, told⟩ := (removal_invariant
    (I := fun r' : Registry ι ρ => r'.watches.issued = r.watches.issued ∧
      (∀ id, r'.sources.find id = some .refresh → r.sources.find id = some .refresh) ∧
      r'.log.count .refreshCb = r.log.count .refreshCb)
    owned ⟨rfl, fun _ found => found, rfl⟩ (fun _ _ kept => kept) (fun _ kept => kept)
    (fun r' o kept _ =>
      have freed := objectFree_resting r' o
      ⟨freed.issued.trans kept.1, fun id found => kept.2.1 id (freed.refreshes id found),
        freed.told.trans kept.2.2⟩) "").2.1
  refine ⟨fun entry mem => ?_, issued, refreshes, told⟩
  rw [hashRemoveAll_table] at mem
  cases mem

theorem deselect_resting (r : Registry ι ρ) : Resting r r.deselect := by
  have unselected : Resting r { r with selected := none } := .of_same rfl rfl rfl rfl
  unfold Registry.deselect
  split
  · exact .refl r
  · dsimp only
    split
    · exact unselected.trans (objectFree_resting _ _)
    · exact unselected

end Registry

namespace Service

variable {uninit : Uninit} {s s' : State} {e : Event} {id : Nat}

/-! ## Steps that wake nothing -/

/-- The list is not opened in this step. -/
def Unopened (_ : State) (e : Event) : Prop :=
  match e with
  | .refreshServicesList .. => False
  | _ => True

instance : Decidable (Unopened s e) := by
  unfold Unopened
  split <;> infer_instance

/-- Nothing that can wake the module is outstanding: no GetServices call, and
no refresh timer with a callback to call. -/
def Settled (s : State) : Prop :=
  s.getServicesCall = none ∧
    (s.refreshServicesCb = none ∨ ∀ id, s.reg.sources.find id ≠ some .refresh)

/-- What a step leaves that lists nothing and calls nobody. -/
structure Dormant (s s' : State) : Prop where
  reg : Resting s.reg s'.reg
  ordered : s'.ordered = s.ordered ∨ s'.ordered = []
  signal : s'.servicesChanged = true → s.servicesChanged = true
  call : s'.getServicesCall = s.getServicesCall
  sent : s'.sent = s.sent
  cb : s'.refreshServicesCb = s.refreshServicesCb ∨ s'.refreshServicesCb = none

theorem Dormant.of_reg (reg : Resting s.reg s'.reg) (rest : s' = { s with reg := s'.reg }) : Dormant s s' := by
  refine ⟨reg, .inl ?_, ?_, ?_, ?_, .inl ?_⟩
  · rw [rest]
  · rw [rest]
    exact id
  · rw [rest]
  · rw [rest]
  · rw [rest]

theorem Dormant.refl (s : State) : Dormant s s := .of_reg (.refl _) rfl

theorem connmanServiceSet_dormant (s : State) (path : String) (setting : Setting) (outcome : SendOutcome) :
    Dormant s (connmanServiceSet s path setting outcome).1 := by
  cases known : s.reg.get path with
  | none =>
    rw [connmanServiceSet_unknown known]
    exact .refl s
  | some o =>
    rcases connmanServiceSet_spec known setting outcome with asked | ⟨_, same⟩
    · rw [asked]
      exact .of_reg (sendSetProperty_resting outcome) rfl
    · rw [same]
      exact .refl s

theorem connmanServiceFinalize_dormant (owned : Owned s.reg) : Dormant s (connmanServiceFinalize s) := by
  unfold connmanServiceFinalize
  split
  case isFalse => exact .refl s
  case isTrue =>
    have removed := (deselect_resting s.reg).trans (hashRemoveAll_resting owned.deselect)
    exact ⟨removed.trans (.of_same rfl rfl rfl rfl), .inr rfl, nofun, rfl, rfl, .inr rfl⟩

theorem connmanServiceFreeServicesList_dormant (owned : Owned s.reg) :
    Dormant s (connmanServiceFreeServicesList s) := by
  unfold connmanServiceFreeServicesList
  split
  case isFalse => exact .refl s
  case isTrue => exact ⟨hashRemoveAll_resting owned, .inr rfl, nofun, rfl, rfl, .inl rfl⟩

theorem propertyChangedSignalCb_dormant (s : State) (uninit : Uninit) (o : ObjId) (name : String) (value : Value) :
    Dormant s (propertyChangedSignalCb uninit { s with reg := noteChanged s.reg o name } o name value) := by
  have noted : Resting s.reg (noteChanged s.reg o name) := by
    rw [noteChanged_eq]
    split
    · exact note_resting nofun
    · exact .refl _
  obtain ⟨rest, handled⟩ := propertyChangedSignalCb_reg uninit
    { s with reg := noteChanged s.reg o name } o name value
  refine .of_reg (noted.trans ?_) ?_
  · rw [handled]
    have stored : ∀ index, Resting (noteChanged s.reg o name)
        ((noteChanged s.reg o name).setData o rest index) := fun _ => .of_same rfl rfl rfl rfl
    split
    case h_1 i _ => exact (stored (some i)).trans (propertyUpdate_resting _ o i)
    case h_2 => exact stored none
  · rw [propertyChangedSignalCb_frame]

theorem refreshCb_dormant (silent : s.refreshServicesCb = none) (id : Nat) : Dormant s (refreshCb s id) := by
  simp only [refreshCb, silent]
  exact ⟨refreshDone_resting s.reg id, .inl rfl, fun on => on, rfl, rfl, .inr rfl⟩

/-- The events that may list services or open the list. -/
def Wakes : Event → Prop
  | .refreshServicesList .. => True
  | .servicesChanged .. => True
  | .getServicesReply .. => True
  | _ => False

/-- Every other step leaves the module dormant, a due refresh timer with a
callback apart. -/
theorem dormant_step (owned : Owned s.reg) (ran : step s e = some s') (asleep : ¬ Wakes e)
    (unrefreshed : s.refreshServicesCb = none ∨ ∀ id, s.reg.sources.find id ≠ some .refresh) :
    Dormant s s' := by
  cases e with
  | init =>
    cases ran
    exact ⟨.refl _, .inl rfl, fun on => on, rfl, rfl, .inl rfl⟩
  | finalize =>
    cases ran
    exact connmanServiceFinalize_dormant owned
  | freeServicesList =>
    cases ran
    exact connmanServiceFreeServicesList_dormant owned
  | select path =>
    cases ran
    unfold connmanServiceSelect
    split
    · exact .refl s
    · exact .of_reg (.of_same rfl rfl rfl rfl) rfl
  | deselect =>
    cases ran
    exact .of_reg (deselect_resting s.reg) rfl
  | setPropertyChangedCallback path cb =>
    cases ran
    unfold connmanServiceSetPropertyChangedCallback
    split
    · exact .refl s
    · exact .of_reg (.of_same rfl rfl rfl rfl) rfl
  | setPropertyErrorCallback path cb =>
    cases ran
    unfold connmanServiceSetPropertyErrorCallback
    split
    · exact .refl s
    · exact .of_reg (.of_same rfl rfl rfl rfl) rfl
  | setRemovedCallback cb =>
    cases ran
    unfold connmanServiceSetRemovedCallback
    split
    · exact ⟨.refl _, .inl rfl, fun on => on, rfl, rfl, .inl rfl⟩
    · exact .refl s
  | set path setting outcome =>
    cases ran
    exact connmanServiceSet_dormant s path setting outcome
  | timerDone =>
    obtain ⟨reg, ended, rfl⟩ := Option.map_eq_some_iff.mp ran
    exact .of_reg (timerDone_resting ended) rfl
  | propertyChanged wid uninit name value =>
    obtain ⟨o, _, rfl⟩ := Option.map_eq_some_iff.mp (handed ran).2
    exact propertyChangedSignalCb_dormant s uninit o name value
  | setPropertyReply call failed =>
    obtain ⟨reg, replied, rfl⟩ := Option.map_eq_some_iff.mp (handed ran).2
    exact .of_reg (setPropertyReply_resting replied) rfl
  | scanServices =>
    cases (handed ran).2
    unfold scanServicesCb
    split
    · exact .refl s
    · exact .of_reg (note_resting nofun) rfl
  | timer id =>
    obtain ⟨reg, fired, rfl⟩ := Option.map_eq_some_iff.mp (handed ran).2
    exact .of_reg (timerRun_resting fired) rfl
  | refreshTimer id =>
    obtain ⟨due, ran⟩ := Option.ite_none_right_eq_some.mp (handed ran).2
    cases ran
    exact refreshCb_dormant (unrefreshed.resolve_right fun never => never id due) id
  | _ => exact absurd trivial asleep

/-! ## While the module is down -/

/-- While the module is down no watch, callback or list of its own is left. -/
def DownQuiet (s : State) : Prop :=
  s.up = false → s.servicesChanged = false ∧ s.refreshServicesCb = none ∧ s.ordered = []

theorem downQuiet_step (owned : Owned s.reg) (quiet : DownQuiet s) (ran : step s e = some s') :
    DownQuiet s' := by
  intro down'
  cases up : s.up with
  | true =>
    by_cases final : e = .finalize
    · subst final
      cases ran
      simp [connmanServiceFinalize, connmanManagerRegisterServiceSignal, up]
    · rw [up_step owned up final ran] at down'
      cases down'
  | false =>
    obtain ⟨unwatched, uncalled, unlisted⟩ := quiet up
    by_cases wakes : Wakes e
    · cases e with
      | refreshServicesList wifi refreshCb scanCb =>
        cases ran
        simp [connmanServiceRefreshServicesList, up, unwatched, uncalled, unlisted]
      | servicesChanged uninit changed removed =>
        obtain ⟨watched, _⟩ := Option.ite_none_right_eq_some.mp (handed ran).2
        rw [unwatched] at watched
        cases watched
      | getServicesReply call uninit reply =>
        obtain ⟨_, ran⟩ := Option.ite_none_right_eq_some.mp (handed ran).2
        cases ran
        cases reply <;> simp [getServicesCallback, getServicesCb, up, unwatched, uncalled, unlisted]
      | _ => exact wakes.elim
    · have dormant := dormant_step owned ran wakes (.inl uncalled)
      refine ⟨?_, ?_, ?_⟩
      · cases watched : s'.servicesChanged with
        | false => rfl
        | true =>
          rw [dormant.signal watched] at unwatched
          cases unwatched
      · rcases dormant.cb with same | none_
        · rw [same, uncalled]
        · exact none_
      · rcases dormant.ordered with same | empty
        · rw [same, unlisted]
        · exact empty

theorem reaches_downQuiet {guard : State → Event → Prop} (reached : Reaches step guard Boot s) :
    DownQuiet s := by
  refine (reached.invariant (I := fun s => Owned s.reg ∧ DownQuiet s) (fun s boot => ⟨boot_owned boot, ?_⟩)
    fun s e s' inv _ ran => ⟨owned_step inv.1 ran, downQuiet_step inv.1 inv.2 ran⟩).2
  obtain ⟨sources, calls, scans, watches, rfl⟩ := boot
  exact fun _ => ⟨rfl, rfl, rfl⟩

/-! ## After closing -/

/-- Since `s` no service was entered in the table or the list, no watch
registered, no GetServices sent and no refresh callback invoked. -/
structure Undisturbed (s s' : State) : Prop where
  table : ∀ entry ∈ s'.reg.table, entry ∈ s.reg.table
  ordered : ∀ o ∈ s'.ordered, o ∈ s.ordered
  watches : s'.reg.watches.issued = s.reg.watches.issued
  sent : s'.sent = s.sent
  refreshed : s'.reg.log.count .refreshCb = s.reg.log.count .refreshCb

/-- Until the list is opened again nothing is disturbed. -/
def QuietFrom (s : State) : Prop := ∀ s', Reaches step Unopened (· = s) s' → Undisturbed s s'

/-- What closing leaves of a settled state, and every step after it keeps. -/
structure Asleep (c s : State) : Prop where
  owned : Owned s.reg
  settled : Settled s
  unwatched : s.servicesChanged = false
  undisturbed : Undisturbed c s

theorem Asleep.dormant {c : State} (asleep : Asleep c s) (owned : Owned s'.reg) (dormant : Dormant s s') :
    Asleep c s' where
  owned := owned
  settled := by
    refine ⟨dormant.call.trans asleep.settled.1, ?_⟩
    rcases asleep.settled.2 with none_ | never
    · rcases dormant.cb with same | empty
      · exact .inl (same.trans none_)
      · exact .inl empty
    · exact .inr fun id found => never id (dormant.reg.refreshes id found)
  unwatched := by
    cases watched : s'.servicesChanged with
    | false => rfl
    | true =>
      have before := dormant.signal watched
      rw [asleep.unwatched] at before
      cases before
  undisturbed := {
    table := fun entry mem => asleep.undisturbed.table entry (dormant.reg.table entry mem)
    ordered := by
      rcases dormant.ordered with same | empty
      · rw [same]
        exact asleep.undisturbed.ordered
      · rw [empty]
        nofun
    watches := dormant.reg.issued.trans asleep.undisturbed.watches
    sent := dormant.sent.trans asleep.undisturbed.sent
    refreshed := dormant.reg.told.trans asleep.undisturbed.refreshed }

theorem asleep_step {c : State} (asleep : Asleep c s) (unopened : Unopened s e) (ran : step s e = some s') :
    Asleep c s' := by
  by_cases wakes : Wakes e
  · cases e with
    | refreshServicesList => exact unopened.elim
    | servicesChanged uninit changed removed =>
      obtain ⟨watched, _⟩ := Option.ite_none_right_eq_some.mp (handed ran).2
      rw [asleep.unwatched] at watched
      cases watched
    | getServicesReply call uninit reply =>
      obtain ⟨flying, _⟩ := Option.ite_none_right_eq_some.mp (handed ran).2
      rw [asleep.settled.1] at flying
      cases flying
    | _ => exact wakes.elim
  · exact asleep.dormant (owned_step asleep.owned ran) (dormant_step asleep.owned ran wakes asleep.settled.2)

/-- With nothing outstanding closing is the end of it. -/
theorem quiet_of_settled (owned : Owned s.reg) (quiet : DownQuiet s) (settled : Settled s) :
    QuietFrom (connmanServiceFreeServicesList s) := by
  have dormant := connmanServiceFreeServicesList_dormant owned
  have closed : Owned (connmanServiceFreeServicesList s).reg :=
    owned.ops (connmanServiceFreeServicesList_ops s)
  have unwatched : (connmanServiceFreeServicesList s).servicesChanged = false := by
    cases up : s.up with
    | true => simp [connmanServiceFreeServicesList, connmanManagerRegisterServiceSignal, up]
    | false => simpa [connmanServiceFreeServicesList, up] using (quiet up).1
  have start : Asleep (connmanServiceFreeServicesList s) (connmanServiceFreeServicesList s) := {
    owned := closed
    settled := by
      refine ⟨dormant.call.trans settled.1, ?_⟩
      rcases settled.2 with none_ | never
      · rcases dormant.cb with same | empty
        · exact .inl (same.trans none_)
        · exact .inl empty
      · exact .inr fun id found => never id (dormant.reg.refreshes id found)
    unwatched := unwatched
    undisturbed := ⟨fun _ mem => mem, fun _ mem => mem, rfl, rfl, rfl⟩ }
  intro s' reached
  exact (reached.invariant (I := Asleep (connmanServiceFreeServicesList s))
    (by rintro _ rfl; exact start) fun _ _ _ asleep unopened ran => asleep_step asleep unopened ran).undisturbed

/-- Whatever timer is running ends, and leaves the refresh timers pending. -/
theorem idle_reached (s : State) : ∃ s', Reaches step Unopened (· = s) s' ∧ s'.reg.dispatching = none ∧
    s' = { s with reg := s'.reg } ∧
    ∀ id, s.reg.sources.find id = some .refresh → s'.reg.sources.find id = some .refresh := by
  cases running : s.reg.dispatching with
  | none => exact ⟨s, .here rfl, running, rfl, fun _ found => found⟩
  | some d =>
    have ended : s.reg.timerDone = some (if s.reg.sources.find d.1 = some (.property d.2) then
        { s.reg with dispatching := none }.sourceRemove d.1 else { s.reg with dispatching := none }) := by
      rw [timerDone_eq, running]
      rfl
    refine ⟨_, .next (.here rfl) (e := .timerDone) trivial (Option.map_eq_some_iff.mpr ⟨_, ended, rfl⟩),
      ?_, rfl, fun id found => ?_⟩
    · dsimp only
      split
      · exact (sourceRemove_hushed _ _).dispatching
      · rfl
    · dsimp only
      split
      case isFalse => exact found
      case isTrue own =>
        rw [sourceRemove_sources, Pool.find_detach, if_neg]
        · exact found
        · rintro rfl
          rw [own] at found
          cases found

/-- A GetServices call in flight lists services after the menu is closed. -/
theorem listed_late {c : State} (owned : Owned c.reg) (unlisted : c.ordered = []) (quiet : QuietFrom c) :
    c.getServicesCall = none := by
  by_contra flying
  obtain ⟨n, call⟩ := Option.ne_none_iff_exists'.mp flying
  obtain ⟨s, reached, idle, rest, _⟩ := idle_reached c
  have owned₁ : Owned s.reg := reached.invariant (I := fun s => Owned s.reg) (by rintro _ rfl; exact owned)
    fun _ _ _ owned _ ran => owned_step owned ran
  have answered : step (connmanServiceInit s) (.getServicesReply n zeroed (.services [("/", [])])) =
      some (getServicesCallback zeroed (connmanServiceInit s) (.services [("/", [])])) := by
    have pending : s.getServicesCall = some n := by
      rw [rest]
      exact call
    simp [step, dispatch, connmanServiceInit, idle, pending]
  have later : Reaches step Unopened (· = c) _ :=
    .next (.next reached (e := .init) trivial rfl) (e := .getServicesReply n zeroed (.services [("/", [])]))
      trivial answered
  obtain ⟨listed, lists, _, frame⟩ := getServicesCb_spec zeroed
    (s := { connmanServiceInit s with getServicesCall := none }) owned₁ rfl [("/", [])]
  obtain ⟨added, order, _, named⟩ := lists.added
  have there : (getServicesCallback zeroed (connmanServiceInit s) (.services [("/", [])])).ordered = added := by
    simp only [getServicesCallback]
    rw [frame]
    split
    · exact order
    · exact order
  have undisturbed := (quiet _ later).ordered
  rw [there, unlisted] at undisturbed
  cases added with
  | nil => cases named
  | cons o _ => exact absurd (undisturbed o List.mem_cons_self) List.not_mem_nil

/-- A refresh timer with a callback to call calls it after the menu is closed. -/
theorem refreshed_late {c : State} (pending : c.reg.sources.find id = some .refresh) (quiet : QuietFrom c) :
    c.refreshServicesCb = none := by
  by_contra registered
  obtain ⟨s, reached, idle, rest, survives⟩ := idle_reached c
  have due : step s (.refreshTimer id) = some (refreshCb s id) := by
    simp [step, dispatch, idle, survives id pending]
  have later := quiet _ (.next reached (e := .refreshTimer id) trivial due)
  have before := (quiet s reached).refreshed
  obtain ⟨cb, registered⟩ := Option.ne_none_iff_exists'.mp registered
  have called : s.refreshServicesCb = some cb := by
    rw [rest]
    exact registered
  have told := later.refreshed
  simp only [refreshCb, called] at told
  have counted : (refreshCb s id).reg.log.count .refreshCb = s.reg.log.count .refreshCb + 1 := by
    simp [refreshCb, called, Registry.note, Registry.refreshDone]
  simp only [refreshCb, called] at counted
  omega

/-- The menu stays quiet after it is closed if and only if no GetServices call
and no refresh timer is outstanding when it is; the first holds of every main
loop, the second of one that numbers its sources. -/
theorem quiet_iff_settled (s : State) (reached : Reaches step Always Boot s) :
    (Settled s → QuietFrom (connmanServiceFreeServicesList s)) ∧
      (Reaches step Always Start s → QuietFrom (connmanServiceFreeServicesList s) → Settled s) := by
  have owned := reaches_owned reached
  have down := reaches_downQuiet reached
  refine ⟨quiet_of_settled owned down, fun started quiet => ?_⟩
  have dormant := connmanServiceFreeServicesList_dormant owned
  have closed : Owned (connmanServiceFreeServicesList s).reg :=
    owned.ops (connmanServiceFreeServicesList_ops s)
  have unlisted : (connmanServiceFreeServicesList s).ordered = [] := by
    cases up : s.up with
    | true => simp [connmanServiceFreeServicesList, up]
    | false => simpa [connmanServiceFreeServicesList, up] using (down up).2.2
  refine ⟨dormant.call.symm.trans (listed_late closed unlisted quiet), ?_⟩
  by_contra unsettled
  obtain ⟨registered, pending⟩ := not_or.mp unsettled
  obtain ⟨id, pending⟩ := not_forall.mp pending
  have survives : (connmanServiceFreeServicesList s).reg.sources.find id = some .refresh := by
    unfold connmanServiceFreeServicesList
    split
    · exact ((removals_steady owned (reaches_recorded started) "").2.1.timers id).mpr (not_not.mp pending)
    · exact not_not.mp pending
  have silent := refreshed_late survives quiet
  cases up : s.up with
  | true => exact registered (by simpa [connmanServiceFreeServicesList, connmanManagerRegisterServiceSignal, up] using silent)
  | false => exact registered (down up).2.1

/-- The list is opened with a callback, and closed before ConnMan answers. -/
def opened : List Event := [.init, .refreshServicesList .powered (some 1) none]

def afterOpened : State := (play step Always started opened).get (by decide)

/-- The answer comes when the menu is closed. -/
def answeredLate : State :=
  (play step Unopened (connmanServiceFreeServicesList afterOpened)
    [.getServicesReply 0 zeroed (.services [("/a", [])])]).get (by decide +kernel)

theorem not_always_quiet :
    ¬ ∀ s, Reaches step Always Boot s → QuietFrom (connmanServiceFreeServicesList s) := by
  intro always
  have quiet := always afterOpened ((Reaches.here started_boot).play opened (Option.some_get _).symm)
  have closed : Reaches step Unopened (· = connmanServiceFreeServicesList afterOpened)
      (connmanServiceFreeServicesList afterOpened) := .here rfl
  have late := quiet answeredLate (closed.play _ (Option.some_get _).symm)
  exact absurd late.watches (by decide +kernel)

/-- ConnMan answers both calls, and the refresh callback is called. -/
def served : List Event :=
  opened ++ [.getServicesReply 0 zeroed (.services [("/a", [])]),
    .getServicesReply 1 zeroed (.services [("/a", [])]), .refreshTimer 1]

def afterServed : State := (play step Always started served).get (by decide +kernel)

theorem quiet_iff_settled_served :
    QuietFrom (connmanServiceFreeServicesList afterServed) ∧
      ¬ QuietFrom (connmanServiceFreeServicesList afterOpened) := by
  have start : Start started := ⟨started_boot, HandleSupply.counting_numbers⟩
  have ran : play step Always started served = some afterServed := (Option.some_get _).symm
  have ran' : play step Always started opened = some afterOpened := (Option.some_get _).symm
  have idle : afterServed.reg.sources.live = [] := by decide +kernel
  refine ⟨(quiet_iff_settled _ ((Reaches.here started_boot).play served ran)).1 ⟨by decide +kernel, .inr ?_⟩, ?_⟩
  · intro id found
    rw [Pool.find, idle] at found
    cases found
  · intro quiet
    have settled := (quiet_iff_settled _ ((Reaches.here started_boot).play opened ran')).2
      ((Reaches.here start).play opened ran') quiet
    exact absurd settled.1 (by decide)

end Service

end ConnmanUi
