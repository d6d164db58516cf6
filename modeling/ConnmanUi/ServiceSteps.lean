import ConnmanUi.RegistryOps
import ConnmanUi.Service

/-!
The steps of the service module as operations on its objects.

Every step but a selection is a change of the registry (`step_change`), so
what those keep every run of the module keeps.  The listing of
services also says where the records of a list end up
(`updateOrCreateServices_spec`).
-/

namespace ConnmanUi.Service

open Registry

variable {uninit : Uninit} {s s' : State} {e : Event} {o : ObjId}

/-! ## Properties -/

/-- A decoded property changes an object's data and nothing else. -/
theorem updateServiceProperty_data (obj : Object Property Record) (name : String) (arg : Value) :
    updateServiceProperty uninit obj name arg =
      { obj with rest := (updateServiceProperty uninit obj name arg).rest
                 updateIndex := (updateServiceProperty uninit obj name arg).updateIndex } := by
  unfold updateServiceProperty
  split
  · rfl
  · rfl

theorem updateProperty_reg (s : State) (o : ObjId) (entry : String × Value) :
    (updateProperty uninit s o entry).reg =
      s.reg.setData o (updateServiceProperty uninit (s.reg.heap o) entry.1 entry.2).rest
        (updateServiceProperty uninit (s.reg.heap o) entry.1 entry.2).updateIndex := by
  unfold updateProperty setData
  dsimp only
  apply modify_congr (r := s.reg)
  exact updateServiceProperty_data _ _ _

theorem updateProperties_spec (uninit : Uninit) (dict : Dict) (s : State) :
    let s' := dict.foldl (fun s entry => updateProperty uninit s o entry) s
    QuietOps s.reg s'.reg ∧ s' = { s with reg := s'.reg } := by
  induction dict generalizing s with
  | nil => exact ⟨.refl _, rfl⟩
  | cons entry dict ih =>
    obtain ⟨ops, rest⟩ := ih (updateProperty uninit s o entry)
    have first : QuietOp s.reg (updateProperty uninit s o entry).reg := by
      rw [updateProperty_reg]
      exact .data _ _ _
    refine ⟨(QuietOps.one first).trans ops, ?_⟩
    rw [List.foldl_cons, rest]
    rfl

/-- The updatable property a name stands for. -/
def updatable (name : String) : Option Property :=
  match Key.ofName name with
  | some (.updatable i) => some i
  | _ => none

theorem noteChanged_eq (r : Registry Property Record) (o : ObjId) (name : String) :
    noteChanged r o name =
      match updatable name, (r.heap o).propertyChangedCb with
      | some i, some _ => r.note (.changed o i)
      | _, _ => r := by
  unfold noteChanged updatable
  cases Key.ofName name with
  | none => rfl
  | some k => cases k <;> cases (r.heap o).propertyChangedCb <;> rfl

/-- What a PropertyChanged signal leaves in the object before the timer. -/
theorem propertyChanged_data (uninit : Uninit) (r : Registry Property Record) (name : String) (value : Value) :
    ∃ rest, (r.modify o fun obj => { obj with updateIndex := none }).modify o
        (fun obj => updateServiceProperty uninit obj name value) =
      r.setData o rest (updatable name) := by
  rw [modify_modify]
  refine ⟨(updateServiceProperty uninit { r.heap o with updateIndex := none } name value).rest, ?_⟩
  apply modify_congr
  unfold updateServiceProperty updatable
  cases key : Key.ofName name with
  | none => rfl
  | some k => cases k <;> rfl

/-- The handler of PropertyChanged: the object takes in the property, and an
updatable one is passed on by a timer. -/
theorem propertyChangedSignalCb_reg (uninit : Uninit) (s : State) (o : ObjId) (name : String) (value : Value) :
    ∃ rest, (propertyChangedSignalCb uninit s o name value).reg =
      match updatable name with
      | some i => (s.reg.setData o rest (some i)).propertyUpdate o i
      | none => s.reg.setData o rest none := by
  obtain ⟨rest, taken⟩ := propertyChanged_data uninit (o := o) s.reg name value
  refine ⟨rest, ?_⟩
  unfold propertyChangedSignalCb updateProperty
  dsimp only
  rw [taken]
  cases listed : updatable name with
  | none => simp [setData, heap_modify]
  | some i => simp [setData, heap_modify]

theorem propertyChangedSignalCb_frame (uninit : Uninit) (s : State) (o : ObjId) (name : String) (value : Value) :
    propertyChangedSignalCb uninit s o name value =
      { s with reg := (propertyChangedSignalCb uninit s o name value).reg } := by
  unfold propertyChangedSignalCb
  dsimp only
  split
  · rfl
  · rfl

theorem propertyChangedSignalCb_ops (name : String) (value : Value) (live : s.reg.Live o)
    (idle : s.reg.dispatching = none) :
    QuietOps s.reg
      (propertyChangedSignalCb uninit { s with reg := noteChanged s.reg o name } o name value).reg := by
  obtain ⟨rest, handled⟩ := propertyChangedSignalCb_reg uninit
    { s with reg := noteChanged s.reg o name } o name value
  have data : ∀ index, QuietOps s.reg (s.reg.setData o rest index) :=
    fun index => .one (.data o rest index)
  rw [handled, noteChanged_eq]
  cases listed : updatable name with
  | none => exact data none
  | some i =>
    cases registered : (s.reg.heap o).propertyChangedCb with
    | none => exact (data (some i)).then (.updated o i live)
    | some cb => exact .one (.signalled o i rest live idle (by simp [registered]))

/-! ## Listing services -/

/-- Objects stay found, and keep their path. -/
def Keeps (r r' : Registry Property Record) : Prop :=
  ∀ o, r.Found o → r'.Found o ∧ (r'.heap o).path = (r.heap o).path

theorem Keeps.trans {r r' r'' : Registry Property Record} (first : Keeps r r') (rest : Keeps r' r'') :
    Keeps r r'' := fun o found =>
  ⟨(rest o (first o found).1).1, (rest o (first o found).1).2.trans (first o found).2⟩

theorem keeps_of_place {r r' : Registry Property Record} (same : SamePlace r r') : Keeps r r' :=
  fun o found => ⟨found.place same, same.path o⟩

/-- `s'` is `s` after services with these paths were listed: each has a record,
appended to the list, and nothing was lost. -/
structure Lists (s s' : State) (paths : List String) : Prop where
  ops : Ops s.reg s'.reg
  rest : s' = { s with reg := s'.reg, ordered := s'.ordered }
  selected : s'.reg.selected = s.reg.selected
  keeps : Keeps s.reg s'.reg
  added : ∃ added, s'.ordered = s.ordered ++ added ∧ (∀ o ∈ added, s'.reg.Found o) ∧
    added.map (fun o => (s'.reg.heap o).path) = paths

theorem Lists.refl (s : State) : Lists s s [] where
  ops := .refl _
  rest := rfl
  selected := rfl
  keeps o found := ⟨found, rfl⟩
  added := ⟨[], by simp⟩

theorem Lists.trans {s'' : State} {paths paths' : List String} (first : Lists s s' paths)
    (then_ : Lists s' s'' paths') : Lists s s'' (paths ++ paths') where
  ops := first.ops.trans then_.ops
  rest := by rw [then_.rest, first.rest]
  selected := then_.selected.trans first.selected
  keeps := first.keeps.trans then_.keeps
  added := by
    obtain ⟨early, listed, found, named⟩ := first.added
    obtain ⟨late, listed', found', named'⟩ := then_.added
    refine ⟨early ++ late, by rw [listed', listed, List.append_assoc], ?_, ?_⟩
    · intro o mem
      rcases List.mem_append.mp mem with old | new
      · exact (then_.keeps o (found o old)).1
      · exact found' o new
    · rw [List.map_append, named', ← named]
      congr 1
      exact List.map_congr_left fun o mem => (then_.keeps o (found o mem)).2

theorem getOrCreate_spec (owned : Owned s.reg) (path : String) :
    Ops s.reg (getOrCreate s path).1.reg ∧
      (getOrCreate s path).1 = { s with reg := (getOrCreate s path).1.reg } ∧
      (getOrCreate s path).1.reg.selected = s.reg.selected ∧
      Keeps s.reg (getOrCreate s path).1.reg ∧
      (getOrCreate s path).1.reg.Found (getOrCreate s path).2 ∧
      ((getOrCreate s path).1.reg.heap (getOrCreate s path).2).path = path := by
  unfold getOrCreate
  split
  case h_1 o known =>
    obtain ⟨live, named, _⟩ := owned.get_spec known
    exact ⟨.refl _, rfl, rfl, fun o found => ⟨found, rfl⟩, ⟨live, by rw [named]; exact known⟩, named⟩
  case h_2 unknown =>
    refine ⟨Ops.one (.created path unknown), rfl, rfl, fun o found => ?_, found_created owned path,
      path_created s.reg path⟩
    exact ⟨found.create owned unknown, by rw [heap_create_of_live path found.1]⟩

theorem updateOrCreateService_lists (uninit : Uninit) (owned : Owned s.reg) (service : String × Dict) :
    Lists s (updateOrCreateService uninit s service) [service.1] := by
  obtain ⟨ops, rest, selected, keeps, found, named⟩ := getOrCreate_spec owned service.1
  unfold updateOrCreateService
  dsimp only
  obtain ⟨quiet, rest'⟩ := updateProperties_spec uninit (o := (getOrCreate s service.1).2)
    service.2 { (getOrCreate s service.1).1 with
      ordered := (getOrCreate s service.1).1.ordered ++ [(getOrCreate s service.1).2] }
  dsimp only at quiet rest'
  generalize List.foldl _ _ _ = s₂ at quiet rest' ⊢
  have place := quiet.place
  have ordered : s₂.ordered = s.ordered ++ [(getOrCreate s service.1).2] := by rw [rest', rest]
  exact {
    ops := ops.trans quiet.ops
    rest := by rw [rest', rest]
    selected := place.selected.trans selected
    keeps := keeps.trans (keeps_of_place place)
    added := ⟨[(getOrCreate s service.1).2], ordered,
      fun o mem => List.mem_singleton.mp mem ▸ found.place place, by simp [place.path, named]⟩ }

theorem updateOrCreateServices_lists (uninit : Uninit) (services : List (String × Dict)) (owned : Owned s.reg) :
    Lists s (services.foldl (updateOrCreateService uninit) s) (services.map Prod.fst) := by
  induction services generalizing s with
  | nil => exact .refl s
  | cons service services ih =>
    have first := updateOrCreateService_lists uninit owned service
    exact first.trans (ih (owned.ops first.ops))

/-! ## Handlers and API functions -/

/-- A new list of services is followed by the refresh callback. -/
def Refreshing (s : State) : Prop :=
  s.up = true ∧ s.refreshed = true ∧ s.refreshServicesCb ≠ none

instance (s : State) : Decidable (Refreshing s) := inferInstanceAs (Decidable (_ ∧ _ ∧ _))

/-- What may be left to do once services were listed: schedule the callback. -/
def Refreshes (s : State) (r r' : Registry Property Record) : Prop :=
  r' = r ∨ Refreshing s ∧ r' = r.scheduleRefresh

theorem Refreshes.place {r r' : Registry Property Record} (refreshes : Refreshes s r r') :
    SamePlace r r' := by
  rcases refreshes with rfl | ⟨_, rfl⟩
  · exact ⟨rfl, rfl, rfl, rfl, fun _ => rfl⟩
  · exact (scheduleRefresh_sameObjects r).1.place

theorem Refreshes.change {r₀ r r' : Registry Property Record} (refreshes : Refreshes s r r')
    (ops : Ops r₀ r) : Change r₀ (if Refreshing s then .schedule else .move) r' := by
  rcases refreshes with rfl | ⟨due, rfl⟩
  · exact .ops ops
  · exact .scheduled ops (if_pos due)

theorem callRefreshCallback_spec (up : s.up = true) (refreshed : s.refreshed = true) :
    Refreshes s s.reg (callRefreshCallback s).reg ∧
      callRefreshCallback s = { s with reg := (callRefreshCallback s).reg } := by
  unfold callRefreshCallback
  split
  · exact ⟨.inl rfl, rfl⟩
  case h_2 registered => exact ⟨.inr ⟨⟨up, refreshed, by simp [registered]⟩, rfl⟩, rfl⟩

theorem removeService_spec (s : State) (path : String) :
    Ops s.reg (removeService s path).reg ∧
      removeService s path = { s with reg := (removeService s path).reg } := by
  unfold removeService
  split
  · exact ⟨.refl _, rfl⟩
  · split
    · exact ⟨.one (.removed path), rfl⟩
    · exact ⟨(Ops.one (.removed path)).then (.quiet (.noted _ nofun)), rfl⟩

theorem removeServices_spec (removed : List String) (s : State) :
    Ops s.reg (removed.foldl removeService s).reg ∧
      removed.foldl removeService s = { s with reg := (removed.foldl removeService s).reg } := by
  induction removed generalizing s with
  | nil => exact ⟨.refl _, rfl⟩
  | cons path removed ih =>
    obtain ⟨ops, rest⟩ := ih (removeService s path)
    obtain ⟨first, frame⟩ := removeService_spec s path
    refine ⟨first.trans ops, ?_⟩
    rw [List.foldl_cons, rest, frame]

theorem Refreshes.of_rest {r r' : Registry Property Record} (refreshes : Refreshes s' r r')
    (rest : s' = { s with reg := s'.reg, ordered := s'.ordered }) : Refreshes s r r' := by
  rw [rest] at refreshes
  exact refreshes

/-- A ServicesChanged signal lists, removes, and may schedule a refresh. -/
theorem serviceChangedSignalCb_spec (uninit : Uninit) (owned : Owned s.reg) (up : s.up = true)
    (changed : List (String × Dict)) (removed : List String) :
    ∃ listed dropped, Lists { s with ordered := [] } listed (changed.map Prod.fst) ∧
      removed.foldl removeService listed = dropped ∧
      Refreshes s dropped.reg (serviceChangedSignalCb uninit s changed removed).reg ∧
      serviceChangedSignalCb uninit s changed removed =
        { dropped with reg := (serviceChangedSignalCb uninit s changed removed).reg } := by
  have lists := updateOrCreateServices_lists uninit (s := { s with ordered := [] }) changed owned
  refine ⟨_, _, lists, rfl, ?_⟩
  have frame := (removeServices_spec removed
    (changed.foldl (updateOrCreateService uninit) { s with ordered := [] })).2
  unfold serviceChangedSignalCb
  rw [if_pos up]
  dsimp only
  generalize changed.foldl (updateOrCreateService uninit) { s with ordered := [] } = listed
    at lists frame ⊢
  generalize removed.foldl removeService listed = dropped at frame ⊢
  have rest : dropped = { s with reg := dropped.reg, ordered := dropped.ordered } := by
    rw [frame, lists.rest]
  split
  case isTrue refreshed =>
    have up' : dropped.up = true := by
      rw [rest]
      exact up
    obtain ⟨refreshes, same⟩ := callRefreshCallback_spec up' refreshed
    exact ⟨refreshes.of_rest rest, same⟩
  case isFalse => exact ⟨.inl rfl, rfl⟩

theorem serviceChangedSignalCb_change (owned : Owned s.reg) (changed : List (String × Dict))
    (removed : List String) :
    Change s.reg (if Refreshing s then .schedule else .move)
      (serviceChangedSignalCb uninit s changed removed).reg := by
  cases up : s.up with
  | false => simpa [serviceChangedSignalCb, up] using Change.ops (Ops.refl s.reg)
  | true =>
    obtain ⟨listed, dropped, lists, rfl, refreshes, _⟩ :=
      serviceChangedSignalCb_spec uninit owned up changed removed
    exact refreshes.change (lists.ops.trans (removeServices_spec removed listed).1)

/-- A GetServices reply lists, and is followed by a second call or a refresh. -/
theorem getServicesCb_spec (uninit : Uninit) (owned : Owned s.reg) (up : s.up = true) (services : List (String × Dict)) :
    ∃ listed, Lists { s with ordered := [] } listed (services.map Prod.fst) ∧
      Refreshes s listed.reg (getServicesCb uninit s (.services services)).reg ∧
      getServicesCb uninit s (.services services) =
        if s.refreshed then
          { listed with reg := (getServicesCb uninit s (.services services)).reg }
        else connmanManagerGetServices { listed with refreshed := true } := by
  have lists := updateOrCreateServices_lists uninit (s := { s with ordered := [] })
    services owned
  refine ⟨_, lists, ?_⟩
  unfold getServicesCb
  rw [if_pos up]
  dsimp only
  generalize services.foldl (updateOrCreateService uninit) { s with ordered := [] } = listed
    at lists ⊢
  have refreshed : listed.refreshed = s.refreshed := by rw [lists.rest]
  have up' : listed.up = true := by
    rw [lists.rest]
    exact up
  rw [← refreshed]
  split
  case isTrue refreshed =>
    obtain ⟨refreshes, same⟩ := callRefreshCallback_spec up' refreshed
    exact ⟨refreshes.of_rest lists.rest, same⟩
  case isFalse => exact ⟨.inl rfl, rfl⟩

theorem getServicesCb_change (owned : Owned s.reg) (reply : ServicesReply) :
    Change s.reg (if Refreshing s then .schedule else .move) (getServicesCb uninit s reply).reg := by
  cases up : s.up with
  | false => simpa [getServicesCb, up] using Change.ops (Ops.refl s.reg)
  | true =>
    cases reply with
    | notArray => simpa [getServicesCb, up] using Change.ops (Ops.refl s.reg)
    | noArguments => simpa [getServicesCb, up] using Change.ops (Ops.refl s.reg)
    | services services =>
      obtain ⟨listed, lists, refreshes, _⟩ := getServicesCb_spec uninit owned up services
      exact refreshes.change lists.ops

theorem getServicesCallback_change (owned : Owned s.reg) (reply : ServicesReply) :
    Change s.reg (if Refreshing s then .schedule else .move)
      (getServicesCallback uninit s reply).reg := by
  unfold getServicesCallback
  cases reply with
  | noArguments => exact .ops (.refl _)
  | notArray => exact getServicesCb_change (s := { s with getServicesCall := none }) owned _
  | services services =>
    exact getServicesCb_change (s := { s with getServicesCall := none }) owned _

theorem connmanServiceFinalize_ops (s : State) : Ops s.reg (connmanServiceFinalize s).reg := by
  unfold connmanServiceFinalize
  split
  · exact ((Ops.one .deselected).then .removedAll).then (.quiet .refreshForgotten)
  · exact .refl _

theorem connmanServiceFreeServicesList_ops (s : State) :
    Ops s.reg (connmanServiceFreeServicesList s).reg := by
  unfold connmanServiceFreeServicesList
  split
  · exact Ops.one .removedAll
  · exact .refl _

/-- What a step does to the registry besides moving objects. -/
def act (s : State) : Event → Act
  | .servicesChanged .. => if Refreshing s then .schedule else .move
  | .getServicesReply .. => if Refreshing s then .schedule else .move
  | .setPropertyReply call failed => .reply call failed
  | .timerDone => .timerDone
  | .refreshTimer id => .refresh id
  | _ => .move

/-- `s'` is `s` but for quiet operations, what a step does besides, and the
fields that say nothing about where the objects are. -/
structure Quiet (a : Act) (s s' : State) : Prop where
  change : Change s.reg a s'.reg
  place : SamePlace s.reg s'.reg
  ordered : s'.ordered = s.ordered
  up : s.up = true → s'.up = true

theorem Quiet.refl {a : Act} (s : State) : Quiet a s s :=
  ⟨.ops (.refl _), ⟨rfl, rfl, rfl, rfl, fun _ => rfl⟩, rfl, id⟩

theorem Quiet.of_ops {a : Act} (ops : QuietOps s.reg s'.reg) (ordered : s'.ordered = s.ordered)
    (up : s.up = true → s'.up = true) : Quiet a s s' := ⟨.ops ops.ops, ops.place, ordered, up⟩

theorem scanServicesCb_quiet {a : Act} (s : State) : Quiet a s (scanServicesCb s) := by
  unfold scanServicesCb
  split
  · exact .of_ops (.refl _) rfl id
  · exact .of_ops (.one (.noted _ nofun)) rfl id

theorem connmanServiceSet_quiet {a : Act} (owned : Owned s.reg) (path : String) (setting : Setting)
    (outcome : SendOutcome) : Quiet a s (connmanServiceSet s path setting outcome).1 := by
  have send : ∀ o i, s.reg.get path = some o → Quiet a s (setServiceProperty s o i outcome).1 :=
    fun o i known => .of_ops (.one (.sent o i outcome (owned.get_spec known).1)) rfl id
  have config : ∀ {γ : Type} [DecidableEq γ] (config : Option γ) (current : Record → Option γ) (i : Property),
      Quiet a s (setConfig s path config current i outcome).1 := by
    intro γ _ config current i
    unfold setConfig
    split
    · exact .of_ops (.refl _) rfl id
    · split
      · exact .of_ops (.refl _) rfl id
      case h_2 known =>
        split
        · exact .of_ops (.refl _) rfl id
        · exact send _ i known
  have listConfig : ∀ (config : Option String) (current : Record → Option String) (i : Property),
      Quiet a s (setListConfig s path config current i outcome).1 := by
    intro config current i
    unfold setListConfig
    split
    · exact .of_ops (.refl _) rfl id
    case h_2 known =>
      split
      · exact .of_ops (.refl _) rfl id
      · split
        · exact .of_ops (.refl _) rfl id
        · exact send _ i known
  cases setting with
  | autoconnectable enable =>
    unfold connmanServiceSet connmanServiceSetAutoconnectable
    dsimp only
    split
    · exact .of_ops (.refl _) rfl id
    case h_2 known => exact send _ .autoconnect known
  | ipv4Config c => exact config c _ _
  | ipv6Config c => exact config c _ _
  | proxyConfig c => exact config c _ _
  | nameserversConfig c => exact listConfig c _ _
  | domainsConfig c => exact listConfig c _ _
  | timeserversConfig c => exact listConfig c _ _

theorem connmanServiceRefreshServicesList_quiet {a : Act} (s : State) (wifi : Wifi)
    (refreshCb scanCb : Option Callback) :
    Quiet a s (connmanServiceRefreshServicesList s wifi refreshCb scanCb) := by
  unfold connmanServiceRefreshServicesList
  split
  · cases wifi with
    | noTechnologies => exact .of_ops (.refl _) rfl id
    | unpowered =>
      have scanned := scanServicesCb_quiet (a := a) (connmanManagerGetServices
        { s with refreshed := false, refreshServicesCb := refreshCb, scanServicesCb := scanCb })
      exact ⟨scanned.change, scanned.place, scanned.ordered, scanned.up⟩
    | powered => exact .of_ops (.refl _) rfl id
  · exact .of_ops (.refl _) rfl id

theorem refreshCb_quiet {id : Nat} (due : s.reg.sources.find id = some .refresh) :
    Quiet (.refresh id) s (refreshCb s id) := by
  unfold refreshCb
  dsimp only
  have done : Acts s.reg (.refresh id) (s.reg.refreshDone id) := .refreshDone id due
  split
  · exact ⟨.acted done (.refl _), done.place, rfl, fun up => up⟩
  · exact ⟨.acted done (.one (.quiet (.noted _ nofun))),
      done.place.trans (QuietOp.noted _ nofun).place, rfl, fun up => up⟩

theorem setCallback_quiet {a : Act} (path : String) (f : Option Callback → Object Property Record → Option Callback)
    (g : Option Callback → Object Property Record → Option Callback) (cb : Option Callback) :
    Quiet a s (match s.reg.get path with
      | none => s
      | some o => { s with reg := s.reg.setCallbacks o (f cb (s.reg.heap o)) (g cb (s.reg.heap o)) }) := by
  split
  · exact .of_ops (.refl _) rfl id
  · exact .of_ops (.one (.callbacks _ _ _)) rfl id

/-- The events that list services, drop them or select one. -/
def Moving : Event → Prop
  | .servicesChanged .. => True
  | .getServicesReply .. => True
  | .freeServicesList => True
  | .finalize => True
  | .select _ => True
  | .deselect => True
  | _ => False

/-- What the main loop hands over reaches the module while no timer's callback
is running. -/
theorem handed (ran : (if s.reg.dispatching = none then dispatch s e else none) = some s') :
    s.reg.dispatching = none ∧ dispatch s e = some s' := Option.ite_none_right_eq_some.mp ran

/-- Every other step leaves the objects and the list where they are. -/
theorem quiet_step (owned : Owned s.reg) (ran : step s e = some s') (still : ¬ Moving e) :
    Quiet (act s e) s s' := by
  cases e with
  | init =>
    cases ran
    exact .of_ops (.refl _) rfl fun _ => rfl
  | refreshServicesList wifi refreshCb scanCb =>
    cases ran
    exact connmanServiceRefreshServicesList_quiet s wifi refreshCb scanCb
  | setPropertyChangedCallback path cb =>
    cases ran
    exact setCallback_quiet path (fun cb _ => cb) (fun _ obj => obj.propertySetErrorCb) cb
  | setPropertyErrorCallback path cb =>
    cases ran
    exact setCallback_quiet path (fun _ obj => obj.propertyChangedCb) (fun cb _ => cb) cb
  | setRemovedCallback cb =>
    cases ran
    unfold connmanServiceSetRemovedCallback
    split
    · exact .of_ops (.refl _) rfl id
    · exact .refl s
  | set path setting outcome =>
    cases ran
    exact connmanServiceSet_quiet owned path setting outcome
  | timerDone =>
    obtain ⟨reg, ended, rfl⟩ := Option.map_eq_some_iff.mp ran
    exact ⟨.acted (.timerDone ended) (.refl _), (Acts.timerDone ended).place, rfl, id⟩
  | propertyChanged wid uninit name value =>
    obtain ⟨idle, ran⟩ := handed ran
    obtain ⟨o, watched, rfl⟩ := Option.map_eq_some_iff.mp ran
    have frame := propertyChangedSignalCb_frame uninit
      { s with reg := noteChanged s.reg o name } o name value
    refine .of_ops (propertyChangedSignalCb_ops name value (owned.watch_live watched) idle) ?_ ?_
    · rw [frame]
    · rw [frame]
      exact id
  | setPropertyReply call failed =>
    obtain ⟨reg, replied, rfl⟩ := Option.map_eq_some_iff.mp (handed ran).2
    exact ⟨.acted (.replied call failed replied) (.refl _), (Acts.replied call failed replied).place,
      rfl, id⟩
  | scanServices =>
    cases (handed ran).2
    exact scanServicesCb_quiet s
  | timer id =>
    obtain ⟨idle, ran⟩ := handed ran
    obtain ⟨reg, fired, rfl⟩ := Option.map_eq_some_iff.mp ran
    exact .of_ops (.one (.timerRun none id idle fired)) rfl fun up => up
  | refreshTimer id =>
    obtain ⟨due, ran⟩ := Option.ite_none_right_eq_some.mp (handed ran).2
    cases ran
    exact refreshCb_quiet due
  | _ => exact absurd trivial still

/-- Only `connman_service_finalize` takes the module down. -/
theorem up_step (owned : Owned s.reg) (up : s.up = true) (going : e ≠ .finalize)
    (ran : step s e = some s') : s'.up = true := by
  by_cases moving : Moving e
  · cases e with
    | servicesChanged uninit changed removed =>
      obtain ⟨_, ran⟩ := Option.ite_none_right_eq_some.mp (handed ran).2
      cases ran
      obtain ⟨listed, dropped, lists, rfl, _, frame⟩ :=
        serviceChangedSignalCb_spec uninit owned up changed removed
      rw [frame, (removeServices_spec removed listed).2, lists.rest]
      exact up
    | getServicesReply call uninit reply =>
      obtain ⟨_, ran⟩ := Option.ite_none_right_eq_some.mp (handed ran).2
      cases ran
      cases reply with
      | noArguments => exact up
      | notArray => simp [getServicesCallback, getServicesCb, up]
      | services services =>
        obtain ⟨listed, lists, _, frame⟩ := getServicesCb_spec uninit
          (s := { s with getServicesCall := none }) owned up services
        have stays : listed.up = true := by rw [lists.rest]; exact up
        simp only [getServicesCallback]
        rw [frame]
        split
        · exact stays
        · exact stays
    | freeServicesList =>
      cases ran
      simp [connmanServiceFreeServicesList, connmanManagerRegisterServiceSignal, up]
    | deselect =>
      cases ran
      exact up
    | select path =>
      cases ran
      unfold connmanServiceSelect
      split
      · exact up
      · exact up
    | finalize => exact absurd rfl going
    | _ => exact moving.elim
  · exact (quiet_step owned ran moving).up up

/-- Every step but a selection is a change of the registry. -/
theorem step_change (owned : Owned s.reg) (ran : step s e = some s')
    (unselecting : ∀ path, e ≠ .select path) : Change s.reg (act s e) s'.reg := by
  by_cases moving : Moving e
  · cases e with
    | servicesChanged uninit changed removed =>
      obtain ⟨_, ran⟩ := Option.ite_none_right_eq_some.mp (handed ran).2
      cases ran
      exact serviceChangedSignalCb_change owned changed removed
    | getServicesReply call uninit reply =>
      obtain ⟨_, ran⟩ := Option.ite_none_right_eq_some.mp (handed ran).2
      cases ran
      exact getServicesCallback_change owned reply
    | freeServicesList =>
      cases ran
      exact .ops (connmanServiceFreeServicesList_ops s)
    | finalize =>
      cases ran
      exact .ops (connmanServiceFinalize_ops s)
    | deselect =>
      cases ran
      exact .ops (Ops.one .deselected)
    | select path => exact absurd rfl (unselecting path)
    | _ => exact moving.elim
  · exact (quiet_step owned ran moving).change

end ConnmanUi.Service
