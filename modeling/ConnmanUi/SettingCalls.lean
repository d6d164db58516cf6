import ConnmanUi.RegistryFreeing
import ConnmanUi.ServiceOwnership
import ConnmanUi.TechnologySteps

/-!
SetProperty calls in flight.

While libdbus sends every call and registers its notify function, a slot of
`call_modify` is full exactly while one SetProperty for that object and
property is in flight, of an object that has not been freed; a second one is
refused, and the reply makes room for the next (`one_set_property`).
-/

namespace ConnmanUi

open Registry Run

namespace Registry

variable {ι ρ : Type} {r r' r'' : Registry ι ρ}
  {o : ObjId} {i : ι} {call : Nat}

/-- A SetProperty for a property of an object is in flight. -/
def InFlight (r : Registry ι ρ) (o : ObjId) (i : ι) (call : Nat) : Prop :=
  ∃ notify, r.calls.find call = some ⟨o, i, notify⟩

/-- Every call in flight has its notify function. -/
def Notified (r : Registry ι ρ) : Prop :=
  ∀ call set, r.calls.find call = some set → set.notify = true

/-- A full slot stands for the one call in flight; while it is, a set call is
refused and sends nothing; its reply is handled, for an object that has not
been freed, and the next set call is accepted. -/
structure OneInFlight [DecidableEq ι] [PropertyIndex ι] (r : Registry ι ρ) : Prop where
  slot : ∀ o i, (r.heap o).callModify i ≠ 0 ↔ ∃! call, r.InFlight o i call
  single : ∀ o i call call', r.InFlight o i call → r.InFlight o i call' → call = call'
  refused : ∀ o i call outcome, r.InFlight o i call → r.sendSetProperty o i outcome = (r, -EINVAL)
  answered : ∀ o i call failed, r.InFlight o i call → ∃ r', r.setPropertyReply call failed = some r' ∧
    (r'.heap o).callModify i = 0 ∧ ∀ call', ¬ r'.InFlight o i call'
  accepted : ∀ o i, (∀ call, ¬ r.InFlight o i call) → (r.sendSetProperty o i .sent).2 = 0 ∧
    ∃ call, (r.sendSetProperty o i .sent).1.InFlight o i call
  handled : ∀ call failed r', r.setPropertyReply call failed = some r' →
    ∃ o i, r.InFlight o i call ∧ r.Live o

theorem Owned.slot_eq (owned : Owned r) (flying : r.InFlight o i call) :
    (r.heap o).callModify i = call := by
  obtain ⟨notify, found⟩ := flying
  exact owned.called.stored call _ (o, i) found rfl

theorem Owned.inFlight_of_slot (owned : Owned r) (used : (r.heap o).callModify i ≠ 0) :
    r.InFlight o i ((r.heap o).callModify i) := by
  obtain ⟨⟨o', i', notify⟩, found, own⟩ := owned.called.holds (o, i) used
  cases own
  exact ⟨notify, found⟩

/-- The reply to a call empties its slot, whatever else it does. -/
theorem setPropertyReply_slot [DecidableEq ι] [PropertyIndex ι] {failed : Bool}
    (found : r.calls.find call = some ⟨o, i, true⟩) :
    ∃ r', r.setPropertyReply call failed = some r' ∧ (r'.heap o).callModify i = 0 := by
  unfold Registry.setPropertyReply
  rw [found]
  refine ⟨_, rfl, ?_⟩
  have emptied : ((Registry.modify { r with calls := r.calls.detach call } o fun obj =>
      { obj with callModify := Function.update obj.callModify i 0 }).heap o).callModify i = 0 := by
    rw [heap_modify, if_pos rfl]
    exact Function.update_self ..
  unfold setPropertyCb
  dsimp only
  split
  · exact emptied
  · split
    · apply Eq.trans _ emptied
      exact congrFun (((sourceRemove_if_upkeep _ _).trans (attachChange_upkeep _ _ _)).object o).callModify i
    · exact emptied

theorem Owned.oneInFlight [DecidableEq ι] [PropertyIndex ι]
    (owned : Owned r) (notified : Notified r) : OneInFlight r where
  slot o i := by
    constructor
    · intro used
      exact ⟨_, owned.inFlight_of_slot used, fun call flying => (owned.slot_eq flying).symm⟩
    · rintro ⟨call, ⟨notify, found⟩, _⟩
      rw [owned.slot_eq ⟨notify, found⟩]
      exact Pool.ne_zero_of_find found
  single o i call call' flying flying' := (owned.slot_eq flying).symm.trans (owned.slot_eq flying')
  refused o i call outcome flying := by
    obtain ⟨notify, found⟩ := flying
    have used : (r.heap o).callModify i ≠ 0 := by
      rw [owned.slot_eq ⟨notify, found⟩]
      exact Pool.ne_zero_of_find found
    unfold Registry.sendSetProperty
    rw [if_pos used]
  answered o i call failed flying := by
    obtain ⟨notify, found⟩ := flying
    have notice : notify = true := notified call _ found
    subst notice
    obtain ⟨r', ran, emptied⟩ := setPropertyReply_slot found
    refine ⟨r', ran, emptied, fun call' flying => ?_⟩
    have stored := (owned.setPropertyReply ran).slot_eq flying
    obtain ⟨notify, found'⟩ := flying
    rw [emptied] at stored
    exact Pool.ne_zero_of_find found' stored.symm
  accepted o i none_ := by
    have free : (r.heap o).callModify i = 0 := by
      by_contra used
      exact none_ _ (owned.inFlight_of_slot used)
    unfold Registry.sendSetProperty
    rw [if_neg (not_not.mpr free)]
    refine ⟨rfl, r.calls.fresh, true, ?_⟩
    exact (Pool.find_attach _ _ _).trans (if_pos rfl)
  handled call failed r' ran := by
    unfold Registry.setPropertyReply at ran
    split at ran
    case h_2 => cases ran
    case h_1 o i found => exact ⟨o, i, ⟨true, found⟩, owned.call_live found⟩

/-! ## Which calls a step leaves in flight -/

/-- No call is in flight that was not. -/
def CallsWithin (r r' : Registry ι ρ) : Prop :=
  ∀ call set, r'.calls.find call = some set → r.calls.find call = some set

theorem CallsWithin.trans (first : CallsWithin r r') (rest : CallsWithin r' r'') :
    CallsWithin r r'' := fun call set found => first call set (rest call set found)

theorem CallsWithin.of_eq (same : r'.calls = r.calls) : CallsWithin r r' := fun _ _ found => same ▸ found

theorem CallsWithin.detach (r : Registry ι ρ) (id : Nat) :
    CallsWithin r { r with calls := r.calls.detach id } := by
  intro call set found
  have kept : (r.calls.detach id).find call = some set := found
  rw [Pool.find_detach] at kept
  exact (Option.ite_none_left_eq_some.mp kept).2

theorem objectFree_calls [DecidableEq ι] [PropertyIndex ι] [Inhabited ρ]
    (r : Registry ι ρ) (o : ObjId) : CallsWithin r (r.objectFree o) :=
  objectFree_invariant (.of_eq rfl)
    (fun _ k _ within => within.trans (.of_eq (removeSlot_upkeep _ k).calls))
    (fun _ _ within => within) (fun _ id within => within.trans (.detach _ id))
    (fun _ _ within => within) (fun _ _ within => within) o

/-- Removing objects sends nothing. -/
theorem removal_calls [DecidableEq ι] [PropertyIndex ι] [Inhabited ρ] (owned : Owned r) (path : String) :
    CallsWithin r (r.hashRemove objectFree path) ∧ CallsWithin r (r.hashRemoveAll objectFree) ∧
      CallsWithin r r.deselect :=
  removal_invariant (I := CallsWithin r) owned (.of_eq rfl) (fun _ _ within => within)
    (fun _ within => within) (fun r o within _ => within.trans (objectFree_calls r o)) path

/-- The reply takes its call, and nothing else, out of flight. -/
theorem setPropertyReply_detach [DecidableEq ι] [PropertyIndex ι]
    {failed : Bool} (ran : r.setPropertyReply call failed = some r') :
    r'.calls = r.calls.detach call := by
  unfold Registry.setPropertyReply at ran
  split at ran
  case h_2 => cases ran
  case h_1 o i _ =>
    cases ran
    unfold setPropertyCb
    dsimp only
    split
    · rfl
    · split
      · exact ((sourceRemove_if_upkeep _ _).trans (attachChange_upkeep _ _ _)).calls
      · rfl

theorem setPropertyReply_calls [DecidableEq ι] [PropertyIndex ι]
    {failed : Bool} (ran : r.setPropertyReply call failed = some r') :
    CallsWithin r r' :=
  (CallsWithin.detach r call).trans (.of_eq (setPropertyReply_detach ran))

/-- What `set_property` leaves in flight was, or has just been sent. -/
theorem sendSetProperty_calls [DecidableEq ι] {outcome : SendOutcome} (delivered : outcome ≠ .noNotify)
    (notified : Notified r) : Notified (r.sendSetProperty o i outcome).1 := by
  unfold Registry.sendSetProperty
  split
  · exact notified
  · cases outcome with
    | noNotify => exact absurd rfl delivered
    | sent =>
      intro call set found
      have attached : (r.calls.attach ⟨o, i, true⟩).find call = some set := found
      rw [Pool.find_attach] at attached
      split at attached
      · cases attached
        rfl
      · exact notified call set attached
    | _ => exact notified

/-- A scan's reply leaves the set calls alone. -/
theorem scanCallback_calls (ran : r.scanCallback call = some r') : r'.calls = r.calls := by
  unfold Registry.scanCallback at ran
  split at ran
  case h_2 => cases ran
  case h_1 o _ =>
    dsimp only at ran
    split at ran
    · cases ran
      rfl
    · cases ran
      rfl

theorem Notified.within (notified : Notified r) (within : CallsWithin r r') : Notified r' :=
  fun call set found => notified call set (within call set found)

theorem empty_notified [PropertyIndex ι] [Inhabited ρ] (sources calls scans watches : HandleSupply) :
    Notified (Registry.empty sources calls scans watches : Registry ι ρ) :=
  fun _ _ found => by cases found

end Registry

/-- libdbus sends the calls it is given and registers their notify functions. -/
def SendOutcome.Delivers (outcome : SendOutcome) : Prop :=
  outcome = .sent ∨ outcome = .noMessage ∨ outcome = .noSetting

instance (outcome : SendOutcome) : Decidable outcome.Delivers := inferInstanceAs (Decidable (_ ∨ _ ∨ _))

theorem SendOutcome.Delivers.notifies {outcome : SendOutcome} (delivers : outcome.Delivers) :
    outcome ≠ .noNotify := by
  rintro rfl
  rcases delivers with sent | failed | failed
  · cases sent
  · cases failed
  · cases failed

/-! ## Services -/

namespace Service

variable {uninit : Uninit} {s s' : State} {e : Event}

/-- The SetProperty calls of this step are delivered. -/
def Delivered (_ : State) (e : Event) : Prop :=
  match e with
  | .set _ _ outcome => outcome.Delivers
  | _ => True

instance : Decidable (Delivered s e) := by
  unfold Delivered
  split <;> infer_instance

theorem updateProperties_calls (o : ObjId) (dict : Dict) (s : State) :
    (dict.foldl (fun s entry => updateProperty uninit s o entry) s).reg.calls = s.reg.calls := by
  induction dict generalizing s with
  | nil => rfl
  | cons entry dict ih => exact ih _

theorem updateOrCreateServices_calls (uninit : Uninit) (services : List (String × Dict)) (s : State) :
    (services.foldl (updateOrCreateService uninit) s).reg.calls = s.reg.calls := by
  induction services generalizing s with
  | nil => rfl
  | cons service services ih =>
    apply (ih _).trans
    have known : (getOrCreate s service.1).1.reg.calls = s.reg.calls := by
      unfold getOrCreate
      split
      · rfl
      · rfl
    exact (updateProperties_calls _ _ _).trans known

theorem removeServices_calls (removed : List String) (owned : Owned s.reg) :
    CallsWithin s.reg (removed.foldl removeService s).reg := by
  induction removed generalizing s with
  | nil => exact .of_eq rfl
  | cons path removed ih =>
    apply CallsWithin.trans _ (ih (owned.ops (removeService_spec s path).1))
    unfold removeService
    split
    · exact .of_eq rfl
    · dsimp only
      split
      · exact (removal_calls owned path).1
      · exact (removal_calls owned path).1

theorem callRefreshCallback_calls (s : State) : (callRefreshCallback s).reg.calls = s.reg.calls := by
  unfold callRefreshCallback
  split
  · rfl
  · exact (scheduleRefresh_sameObjects s.reg).2.2

theorem getServicesCb_calls (reply : ServicesReply) (s : State) :
    (getServicesCb uninit s reply).reg.calls = s.reg.calls := by
  unfold getServicesCb
  split
  case isFalse => rfl
  case isTrue =>
    cases reply with
    | services services =>
      have listed := updateOrCreateServices_calls uninit services { s with ordered := [] }
      dsimp only
      split
      · exact (callRefreshCallback_calls _).trans listed
      · exact listed
    | _ => rfl

theorem propertyChangedSignalCb_calls (o : ObjId) (name : String) (value : Value) :
    (propertyChangedSignalCb uninit s o name value).reg.calls = s.reg.calls := by
  obtain ⟨rest, handled⟩ := propertyChangedSignalCb_reg uninit s o name value
  rw [handled]
  split
  · exact (propertyUpdate_upkeep _ _ _).calls
  · rfl

theorem scanServicesCb_calls (s : State) : (scanServicesCb s).reg.calls = s.reg.calls := by
  unfold scanServicesCb
  split
  · rfl
  · rfl

theorem connmanServiceFinalize_calls (owned : Owned s.reg) : CallsWithin s.reg (connmanServiceFinalize s).reg := by
  unfold connmanServiceFinalize
  split
  · exact (removal_calls owned "").2.2.trans (removal_calls owned.deselect "").2.1
  · exact .of_eq rfl

theorem connmanServiceFreeServicesList_calls (owned : Owned s.reg) :
    CallsWithin s.reg (connmanServiceFreeServicesList s).reg := by
  unfold connmanServiceFreeServicesList
  split
  · exact (removal_calls owned "").2.1
  · exact .of_eq rfl

theorem connmanServiceRefreshServicesList_calls (s : State) (wifi : Wifi) (refreshCb scanCb : Option Callback) :
    (connmanServiceRefreshServicesList s wifi refreshCb scanCb).reg.calls = s.reg.calls := by
  unfold connmanServiceRefreshServicesList
  split
  case isFalse => rfl
  case isTrue =>
    cases wifi with
    | unpowered => exact scanServicesCb_calls _
    | _ => rfl

theorem serviceChangedSignalCb_calls (owned : Owned s.reg) (changed : List (String × Dict)) (removed : List String) :
    CallsWithin s.reg (serviceChangedSignalCb uninit s changed removed).reg := by
  unfold serviceChangedSignalCb
  split
  case isFalse => exact .of_eq rfl
  case isTrue =>
    have listed := updateOrCreateServices_calls uninit changed { s with ordered := [] }
    have lists := updateOrCreateServices_lists uninit (s := { s with ordered := [] }) changed owned
    refine (CallsWithin.of_eq listed).trans ((removeServices_calls removed (owned.ops lists.ops)).trans ?_)
    dsimp only
    split
    · exact .of_eq (callRefreshCallback_calls _)
    · exact .of_eq rfl

/-- Nothing that reaches the module from the main loop sends. -/
theorem dispatch_calls (owned : Owned s.reg) (ran : dispatch s e = some s') : CallsWithin s.reg s'.reg := by
  cases e with
  | servicesChanged uninit changed removed =>
    obtain ⟨_, ran⟩ := Option.ite_none_right_eq_some.mp ran
    cases ran
    exact serviceChangedSignalCb_calls owned changed removed
  | getServicesReply call uninit reply =>
    obtain ⟨_, ran⟩ := Option.ite_none_right_eq_some.mp ran
    cases ran
    unfold getServicesCallback
    cases reply with
    | noArguments => exact .of_eq rfl
    | _ => exact .of_eq (getServicesCb_calls _ { s with getServicesCall := none })
  | propertyChanged wid uninit name value =>
    obtain ⟨o, watched, rfl⟩ := Option.map_eq_some_iff.mp ran
    refine .of_eq ((propertyChangedSignalCb_calls o name value).trans ?_)
    dsimp only
    rw [noteChanged_eq]
    split
    · rfl
    · rfl
  | setPropertyReply call failed =>
    obtain ⟨reg, replied, rfl⟩ := Option.map_eq_some_iff.mp ran
    exact setPropertyReply_calls replied
  | scanServices =>
    cases ran
    exact .of_eq (scanServicesCb_calls s)
  | timer id =>
    obtain ⟨reg, fired, rfl⟩ := Option.map_eq_some_iff.mp ran
    exact .of_eq (timerRun_upkeep fired).calls
  | refreshTimer id =>
    obtain ⟨_, ran⟩ := Option.ite_none_right_eq_some.mp ran
    cases ran
    unfold refreshCb
    dsimp only
    split
    · exact .of_eq rfl
    · exact .of_eq rfl
  | _ => cases ran

/-- Only a set call sends. -/
theorem step_calls (owned : Owned s.reg) (ran : step s e = some s')
    (other : ∀ path setting outcome, e ≠ .set path setting outcome) :
    CallsWithin s.reg s'.reg := by
  cases e with
  | init => cases ran; exact .of_eq rfl
  | finalize => cases ran; exact connmanServiceFinalize_calls owned
  | refreshServicesList wifi refreshCb scanCb =>
    cases ran
    exact .of_eq (connmanServiceRefreshServicesList_calls s wifi refreshCb scanCb)
  | freeServicesList => cases ran; exact connmanServiceFreeServicesList_calls owned
  | select path =>
    cases ran
    unfold connmanServiceSelect
    split
    · exact .of_eq rfl
    · exact .of_eq rfl
  | deselect =>
    cases ran
    exact (removal_calls owned "").2.2
  | setPropertyChangedCallback path cb =>
    cases ran
    unfold connmanServiceSetPropertyChangedCallback
    split
    · exact .of_eq rfl
    · exact .of_eq rfl
  | setPropertyErrorCallback path cb =>
    cases ran
    unfold connmanServiceSetPropertyErrorCallback
    split
    · exact .of_eq rfl
    · exact .of_eq rfl
  | setRemovedCallback cb =>
    cases ran
    unfold connmanServiceSetRemovedCallback
    split
    · exact .of_eq rfl
    · exact .of_eq rfl
  | set path setting outcome => exact absurd rfl (other path setting outcome)
  | timerDone =>
    obtain ⟨reg, ended, rfl⟩ := Option.map_eq_some_iff.mp ran
    exact .of_eq (timerDone_upkeep ended).calls
  | _ => exact dispatch_calls owned (handed ran).2

/-- The property a setting is for. -/
def Setting.index : Setting → Property
  | .autoconnectable _ => .autoconnect
  | .ipv4Config _ => .ipv4Configuration
  | .ipv6Config _ => .ipv6Configuration
  | .proxyConfig _ => .proxyConfiguration
  | .nameserversConfig _ => .nameserversConfiguration
  | .domainsConfig _ => .domainsConfiguration
  | .timeserversConfig _ => .timeserversConfiguration

/-- The setting has a value, and not the one the record shows. -/
def Setting.Asks (rest : Record) : Setting → Prop
  | .autoconnectable _ => True
  | .ipv4Config c => c ≠ none ∧ rest (.updatable .ipv4Configuration) ≠ c
  | .ipv6Config c => c ≠ none ∧ rest (.updatable .ipv6Configuration) ≠ c
  | .proxyConfig c => c ≠ none ∧ rest (.updatable .proxyConfiguration) ≠ c
  | .nameserversConfig c => c ≠ none ∧ rest (.updatable .nameserversConfiguration) ≠ c
  | .domainsConfig c => c ≠ none ∧ rest (.updatable .domainsConfiguration) ≠ c
  | .timeserversConfig c => c ≠ none ∧ rest (.updatable .timeserversConfiguration) ≠ c

/-- A function that sets a property calls `set_service_property` where it asks
for something new, and does nothing otherwise. -/
theorem connmanServiceSet_spec {path : String} {o : ObjId} (known : s.reg.get path = some o)
    (setting : Setting) (outcome : SendOutcome) :
    connmanServiceSet s path setting outcome = setServiceProperty s o setting.index outcome ∨
      ¬ setting.Asks (s.reg.heap o).rest ∧ (connmanServiceSet s path setting outcome).1 = s := by
  have config : ∀ {γ : Type} [DecidableEq γ] (c : Option γ) (current : Record → Option γ) (i : Property),
      setConfig s path c current i outcome = setServiceProperty s o i outcome ∨
        ¬ (c ≠ none ∧ current (s.reg.heap o).rest ≠ c) ∧ (setConfig s path c current i outcome).1 = s := by
    intro γ _ c current i
    unfold setConfig
    cases c with
    | none => exact .inr ⟨fun asks => asks.1 rfl, rfl⟩
    | some c =>
      simp only [known]
      split
      case isTrue same => exact .inr ⟨fun asks => asks.2 same, rfl⟩
      case isFalse => exact .inl rfl
  have list : ∀ (c : Option String) (current : Record → Option String) (i : Property),
      setListConfig s path c current i outcome = setServiceProperty s o i outcome ∨
        ¬ (c ≠ none ∧ current (s.reg.heap o).rest ≠ c) ∧ (setListConfig s path c current i outcome).1 = s := by
    intro c current i
    unfold setListConfig
    simp only [known]
    split
    case isTrue same => exact .inr ⟨fun asks => asks.2 same, rfl⟩
    case isFalse =>
      cases c with
      | none => exact .inr ⟨fun asks => asks.1 rfl, rfl⟩
      | some c => exact .inl rfl
  cases setting with
  | autoconnectable enable =>
    left
    unfold connmanServiceSet connmanServiceSetAutoconnectable
    simp only [known]
    rfl
  | ipv4Config c => exact config c (· (.updatable .ipv4Configuration)) .ipv4Configuration
  | ipv6Config c => exact config c (· (.updatable .ipv6Configuration)) .ipv6Configuration
  | proxyConfig c => exact config c (· (.updatable .proxyConfiguration)) .proxyConfiguration
  | nameserversConfig c => exact list c (· (.updatable .nameserversConfiguration)) .nameserversConfiguration
  | domainsConfig c => exact list c (· (.updatable .domainsConfiguration)) .domainsConfiguration
  | timeserversConfig c => exact list c (· (.updatable .timeserversConfiguration)) .timeserversConfiguration

theorem connmanServiceSet_unknown {path : String} (unknown : s.reg.get path = none) (setting : Setting)
    (outcome : SendOutcome) : (connmanServiceSet s path setting outcome).1 = s := by
  cases setting with
  | autoconnectable enable => simp [connmanServiceSet, connmanServiceSetAutoconnectable, unknown]
  | ipv4Config c => cases c <;> simp [connmanServiceSet, setConfig, unknown]
  | ipv6Config c => cases c <;> simp [connmanServiceSet, setConfig, unknown]
  | proxyConfig c => cases c <;> simp [connmanServiceSet, setConfig, unknown]
  | nameserversConfig c => simp [connmanServiceSet, setListConfig, unknown]
  | domainsConfig c => simp [connmanServiceSet, setListConfig, unknown]
  | timeserversConfig c => simp [connmanServiceSet, setListConfig, unknown]

theorem notified_step (owned : Owned s.reg) (notified : Notified s.reg) (delivered : Delivered s e)
    (ran : step s e = some s') : Notified s'.reg := by
  by_cases setting : ∃ path setting outcome, e = .set path setting outcome
  · obtain ⟨path, setting, outcome, rfl⟩ := setting
    cases ran
    cases known : s.reg.get path with
    | none =>
      rw [connmanServiceSet_unknown known]
      exact notified
    | some o =>
      rcases connmanServiceSet_spec known setting outcome with asked | ⟨_, same⟩
      · rw [asked]
        exact sendSetProperty_calls (SendOutcome.Delivers.notifies delivered) notified
      · rw [same]
        exact notified
  · exact notified.within (step_calls owned ran fun path st outcome eq => setting ⟨path, st, outcome, eq⟩)

theorem reaches_notified (reached : Reaches step Delivered Boot s) : Notified s.reg := by
  refine (reached.invariant (I := fun s => Owned s.reg ∧ Notified s.reg) (fun s boot => ⟨boot_owned boot, ?_⟩)
    fun s e s' inv delivered ran => ⟨owned_step inv.1 ran, notified_step inv.1 inv.2 delivered ran⟩).2
  obtain ⟨sources, calls, scans, watches, rfl⟩ := boot
  exact empty_notified sources calls scans watches

/-- While a SetProperty is in flight the functions that set its property send
nothing, and say so where they are asked for something new. -/
def Guarded (s : State) : Prop :=
  ∀ path o setting call outcome, s.reg.get path = some o → s.reg.InFlight o setting.index call →
    (connmanServiceSet s path setting outcome).1 = s ∧
      (setting.Asks (s.reg.heap o).rest → (connmanServiceSet s path setting outcome).2 = -EINVAL)

theorem guarded (one : OneInFlight s.reg) : Guarded s := by
  intro path o setting call outcome known flying
  have refused : setServiceProperty s o setting.index outcome = (s, -EINVAL) := by
    unfold setServiceProperty
    rw [one.refused o setting.index call outcome flying]
  rcases connmanServiceSet_spec known setting outcome with asked | ⟨idle, same⟩
  · rw [asked, refused]
    exact ⟨rfl, fun _ => rfl⟩
  · exact ⟨same, fun asks => absurd asks idle⟩

end Service

/-! ## Technologies -/

namespace Technology

variable {uninit : Option String} {s s' : State} {e : Event}

/-- The SetProperty calls of this step are delivered. -/
def Delivered (_ : State) (e : Event) : Prop :=
  match e with
  | .set _ _ outcome => outcome.Delivers
  | _ => True

instance : Decidable (Delivered s e) := by
  unfold Delivered
  split <;> infer_instance

theorem updateTechnologyProperty_calls (o : ObjId) (entry : String × Value) (s : State) :
    (updateTechnologyProperty uninit s o entry).reg.calls = s.reg.calls := by
  obtain ⟨rest, handled⟩ := updateTechnologyProperty_reg uninit s o entry
  rw [handled]
  split
  · exact (propertyUpdate_upkeep _ _ _).calls
  · rfl

theorem updateOrCreateTechnology_calls (technology : String × Dict) (s : State) :
    (updateOrCreateTechnology uninit s technology).reg.calls = s.reg.calls := by
  have updated : ∀ (o : ObjId) (dict : Dict) (s : State),
      (dict.foldl (fun s entry => updateTechnologyProperty uninit s o entry) s).reg.calls = s.reg.calls := by
    intro o dict
    induction dict with
    | nil => exact fun _ => rfl
    | cons entry dict ih => exact fun s => (ih _).trans (updateTechnologyProperty_calls o entry s)
  have known : (getOrCreate s technology.1).1.reg.calls = s.reg.calls := by
    unfold getOrCreate
    split
    · rfl
    · rfl
  unfold updateOrCreateTechnology
  split
  · exact (updated _ _ _).trans known
  · rfl

theorem technologyAddedCb_calls (technology : String × Dict) (s : State) :
    (technologyAddedCb uninit s technology).reg.calls = s.reg.calls := by
  have added : (callAddedCb (updateOrCreateTechnology uninit s technology) technology.1).reg.calls =
      s.reg.calls := by
    unfold callAddedCb
    split
    · exact updateOrCreateTechnology_calls technology s
    · exact updateOrCreateTechnology_calls technology s
  unfold technologyAddedCb
  dsimp only
  split
  · exact added
  · exact added

theorem getTechnologiesCb_calls (reply : TechnologiesReply) (s : State) :
    (getTechnologiesCb uninit s reply).reg.calls = s.reg.calls := by
  have listed : ∀ (technologies : List (String × Dict)) (s : State),
      (technologies.foldl (updateOrCreateTechnology uninit) s).reg.calls = s.reg.calls := by
    intro technologies
    induction technologies with
    | nil => exact fun _ => rfl
    | cons technology technologies ih =>
      exact fun s => (ih _).trans (updateOrCreateTechnology_calls technology s)
  unfold getTechnologiesCb
  split
  case isFalse => rfl
  case isTrue =>
    cases reply with
    | technologies technologies =>
      dsimp only
      split
      · exact listed technologies s
      · exact listed technologies s
    | _ => rfl

theorem connmanTechnologyScan_calls (s : State) (path : String) (callback : Option Callback) (outcome : SendOutcome) :
    (connmanTechnologyScan s path callback outcome).1.reg.calls = s.reg.calls := by
  unfold connmanTechnologyScan Registry.sendScan
  split
  · rfl
  · cases outcome <;> rfl

theorem technologyRemovedCb_calls (owned : Owned s.reg) (path : String) :
    CallsWithin s.reg (technologyRemovedCb s path).reg := by
  have told : (callRemovedCb s path).reg.calls = s.reg.calls := by
    unfold callRemovedCb
    split
    · rfl
    · rfl
  exact (CallsWithin.of_eq told).trans (removal_calls (owned.ops (callRemovedCb_spec s path).1.ops) path).1

/-- Nothing that reaches the module from the main loop sends. -/
theorem dispatch_calls (owned : Owned s.reg) (ran : dispatch s e = some s') : CallsWithin s.reg s'.reg := by
  cases e with
  | technologyAdded uninit technology =>
    obtain ⟨_, ran⟩ := Option.ite_none_right_eq_some.mp ran
    cases ran
    exact .of_eq (technologyAddedCb_calls technology s)
  | technologyRemoved path =>
    obtain ⟨_, ran⟩ := Option.ite_none_right_eq_some.mp ran
    cases ran
    exact technologyRemovedCb_calls owned path
  | getTechnologiesReply call uninit reply =>
    obtain ⟨_, ran⟩ := Option.ite_none_right_eq_some.mp ran
    cases ran
    unfold getTechnologiesCallback
    cases reply with
    | noArguments => exact .of_eq rfl
    | _ => exact .of_eq (getTechnologiesCb_calls _ { s with getTechnologiesCall := none })
  | propertyChanged wid uninit name value =>
    obtain ⟨o, watched, rfl⟩ := Option.map_eq_some_iff.mp ran
    refine .of_eq ((updateTechnologyProperty_calls o (name, value) _).trans ?_)
    dsimp only
    rw [noteChanged_eq]
    split
    · rfl
    · rfl
  | setPropertyReply call failed =>
    obtain ⟨reg, replied, rfl⟩ := Option.map_eq_some_iff.mp ran
    exact setPropertyReply_calls replied
  | scanReply call =>
    obtain ⟨reg, replied, rfl⟩ := Option.map_eq_some_iff.mp ran
    exact .of_eq (scanCallback_calls replied)
  | timer id =>
    obtain ⟨reg, fired, rfl⟩ := Option.map_eq_some_iff.mp ran
    exact .of_eq (timerRun_upkeep fired).calls
  | _ => cases ran

/-- Only a set call sends. -/
theorem step_calls (owned : Owned s.reg) (ran : step s e = some s')
    (other : ∀ path setting outcome, e ≠ .set path setting outcome) :
    CallsWithin s.reg s'.reg := by
  cases e with
  | init =>
    cases ran
    unfold connmanTechnologyInit
    split
    · exact .of_eq rfl
    · exact .of_eq rfl
  | finalize =>
    cases ran
    unfold connmanTechnologyFinalize
    split
    · exact (removal_calls owned "").2.1
    · exact .of_eq rfl
  | setGlobalPropertyCallback cb =>
    cases ran
    unfold connmanTechnologySetGlobalPropertyCallback
    split
    · exact .of_eq rfl
    · exact .of_eq rfl
  | setPropertyChangedCallback path cb =>
    cases ran
    unfold connmanTechnologySetPropertyChangedCallback
    split
    · exact .of_eq rfl
    · exact .of_eq rfl
  | setPropertyErrorCallback path cb =>
    cases ran
    unfold connmanTechnologySetPropertyErrorCallback
    split
    · exact .of_eq rfl
    · exact .of_eq rfl
  | setRemovedCallback cb =>
    cases ran
    unfold connmanTechnologySetRemovedCallback
    split
    · exact .of_eq rfl
    · exact .of_eq rfl
  | setAddedCallback cb =>
    cases ran
    unfold connmanTechnologySetAddedCallback
    split
    · exact .of_eq rfl
    · exact .of_eq rfl
  | scan path callback outcome =>
    cases ran
    exact .of_eq (connmanTechnologyScan_calls s path callback outcome)
  | set path setting outcome => exact absurd rfl (other path setting outcome)
  | timerDone =>
    obtain ⟨reg, ended, rfl⟩ := Option.map_eq_some_iff.mp ran
    exact .of_eq (timerDone_upkeep ended).calls
  | _ => exact dispatch_calls owned (handed ran).2

/-- The property a setting is for. -/
def Setting.index : Setting → Property
  | .enable _ => .powered
  | .tether _ => .tethering
  | .tetheringIdentifier _ => .tetheringIdentifier
  | .tetheringPassphrase _ => .tetheringPassphrase

/-- The setting is not the one the record shows. -/
def Setting.Asks (rest : Record) : Setting → Prop
  | .enable on => rest.powered ≠ on
  | .tether on => rest.tethering ≠ on
  | _ => True

/-- A function that sets a property calls `set_technology_property` where it
asks for something new, and does nothing otherwise. -/
theorem connmanTechnologySet_asks {path : String} {o : ObjId} (known : s.reg.get path = some o)
    (setting : Setting) (outcome : SendOutcome) :
    connmanTechnologySet s path setting outcome = setTechnologyProperty s o setting.index outcome ∨
      ¬ setting.Asks (s.reg.heap o).rest ∧ (connmanTechnologySet s path setting outcome).1 = s := by
  cases setting with
  | enable enable =>
    simp only [connmanTechnologySet, connmanTechnologyEnable, known]
    split
    case isTrue same => exact .inr ⟨fun asks => asks same, rfl⟩
    case isFalse => exact .inl rfl
  | tether tethering =>
    simp only [connmanTechnologySet, connmanTechnologyTether, known]
    split
    case isTrue same => exact .inr ⟨fun asks => asks same, rfl⟩
    case isFalse => exact .inl rfl
  | tetheringIdentifier identifier =>
    left
    simp only [connmanTechnologySet, connmanTechnologySetTetheringIdentifier, known]
    rfl
  | tetheringPassphrase passphrase =>
    left
    simp only [connmanTechnologySet, connmanTechnologySetTetheringPassphrase, known]
    rfl

theorem connmanTechnologySet_unknown {path : String} (unknown : s.reg.get path = none) (setting : Setting)
    (outcome : SendOutcome) : (connmanTechnologySet s path setting outcome).1 = s := by
  cases setting with
  | enable enable => simp [connmanTechnologySet, connmanTechnologyEnable, unknown]
  | tether tethering => simp [connmanTechnologySet, connmanTechnologyTether, unknown]
  | tetheringIdentifier identifier =>
    simp [connmanTechnologySet, connmanTechnologySetTetheringIdentifier, unknown]
  | tetheringPassphrase passphrase =>
    simp [connmanTechnologySet, connmanTechnologySetTetheringPassphrase, unknown]

theorem notified_step (owned : Owned s.reg) (notified : Notified s.reg) (delivered : Delivered s e)
    (ran : step s e = some s') : Notified s'.reg := by
  by_cases setting : ∃ path setting outcome, e = .set path setting outcome
  · obtain ⟨path, setting, outcome, rfl⟩ := setting
    cases ran
    cases known : s.reg.get path with
    | none =>
      rw [connmanTechnologySet_unknown known]
      exact notified
    | some o =>
      rcases connmanTechnologySet_asks known setting outcome with asked | ⟨_, same⟩
      · rw [asked]
        exact sendSetProperty_calls (SendOutcome.Delivers.notifies delivered) notified
      · rw [same]
        exact notified
  · exact notified.within (step_calls owned ran fun path st outcome eq => setting ⟨path, st, outcome, eq⟩)

theorem reaches_notified (reached : Reaches step Delivered Boot s) : Notified s.reg := by
  refine (reached.invariant (I := fun s => Tidy s ∧ Notified s.reg) (fun s boot => ⟨boot_tidy boot, ?_⟩)
    fun s e s' inv delivered ran => ⟨tidy_step inv.1 ran, notified_step inv.1.owned inv.2 delivered ran⟩).2
  obtain ⟨sources, calls, scans, watches, rfl⟩ := boot
  exact empty_notified sources calls scans watches

/-- While a SetProperty is in flight the functions that set its property send
nothing, and say so where they are asked for something new. -/
def Guarded (s : State) : Prop :=
  ∀ path o setting call outcome, s.reg.get path = some o → s.reg.InFlight o setting.index call →
    (connmanTechnologySet s path setting outcome).1 = s ∧
      (setting.Asks (s.reg.heap o).rest → (connmanTechnologySet s path setting outcome).2 = -EINVAL)

theorem guarded (one : OneInFlight s.reg) : Guarded s := by
  intro path o setting call outcome known flying
  have refused : setTechnologyProperty s o setting.index outcome = (s, -EINVAL) := by
    unfold setTechnologyProperty
    rw [one.refused o setting.index call outcome flying]
  rcases connmanTechnologySet_asks known setting outcome with asked | ⟨idle, same⟩
  · rw [asked, refused]
    exact ⟨rfl, fun _ => rfl⟩
  · exact ⟨same, fun asks => absurd asks idle⟩

end Technology

/-! ## Both -/

/-- In every run of either module whose SetProperty calls are delivered. -/
theorem one_set_property (s : Service.State) (t : Technology.State)
    (services : Reaches Service.step Service.Delivered Service.Boot s)
    (technologies : Reaches Technology.step Technology.Delivered Technology.Boot t) :
    OneInFlight s.reg ∧ Service.Guarded s ∧ OneInFlight t.reg ∧ Technology.Guarded t := by
  have one := (Service.reaches_owned services).oneInFlight (Service.reaches_notified services)
  have one' := (Technology.reaches_tidy technologies).owned.oneInFlight
    (Technology.reaches_notified technologies)
  exact ⟨one, Service.guarded one, one', Technology.guarded one'⟩

/-- A service is selected and set, leaves the table, and is set again. -/
def Service.setTwice : List Service.Event :=
  Service.withdrawn ++ [.set "/a" (.autoconnectable false) .sent]

def Service.afterSetTwice : Service.State :=
  (play Service.step Service.Delivered Service.started Service.setTwice).get (by decide +kernel)

/-- Powered is set, fails, and is set again. -/
def Technology.setAgain : List Technology.Event :=
  Technology.listing ++
    [.set "/t" (.enable true) .sent, .setPropertyReply 1 true, .set "/t" (.enable true) .sent]

def Technology.afterSetAgain : Technology.State :=
  (play Technology.step Technology.Delivered Technology.started Technology.setAgain).get (by decide +kernel)

theorem one_set_property_again :
    OneInFlight Service.afterSetTwice.reg ∧ Service.Guarded Service.afterSetTwice ∧
      OneInFlight Technology.afterSetAgain.reg ∧ Technology.Guarded Technology.afterSetAgain :=
  one_set_property _ _
    ((Reaches.here Service.started_boot).play Service.setTwice (Option.some_get _).symm)
    ((Reaches.here Technology.started_boot).play Technology.setAgain (Option.some_get _).symm)

end ConnmanUi
