import ConnmanUi.PropertyAgreement
import ConnmanUi.ServiceSteps
import ConnmanUi.TechnologySteps

/-!
The handlers of the lists, on message bodies (`lib/service.c`,
`lib/technology.c`, `lib/manager.c`).

`Service.step` and `Technology.step` take lists that are out of their message
already.  These handlers take the message: they stop where `obj_path` or an
iterator would be used before anything was written to it.  On lists as ConnMan
sends them the two agree (`getServicesCb_agrees` and those after it).
-/

namespace ConnmanUi.Reading

open DBus

/-! ## Loops -/

section Loops
variable {σ : Type}

/-- The loop over a list of objects with their properties; `objPath` is the
local, which an element of another type leaves alone. -/
def listObjects (update : σ → String → Body → Reads σ) : List Body → Option String → σ → Reads (σ × Option String)
  | [], objPath, s => .ok (s, objPath)
  | iter :: rest, objPath, s => do
    let strt ← recurse iter
    let objPath := (cuiDbusGetBasic strt .objectPath).or objPath
    let path ← readLocal objPath
    let s ← update s path strt.next
    listObjects update rest objPath s

/-- The loop over a list of paths. -/
def removeObjects (remove : σ → String → σ) : List Body → Option String → σ → Reads σ
  | [], _, s => .ok s
  | iter :: rest, objPath, s => do
    let objPath := (cuiDbusGetBasic iter .objectPath).or objPath
    let path ← readLocal objPath
    removeObjects remove rest objPath (remove s path)

end Loops

/-! ## Services -/

section Services
variable (s : Service.State)

/-- `update_or_create_service`; its callers have looked at `service_if`. -/
def updateOrCreateService (s : Service.State) (objPath : String) (dict : Body) : Reads Service.State := do
  let found := Service.getOrCreate s objPath
  let s := { found.1 with ordered := found.1.ordered ++ [found.2] }
  let obj ← (Delivery.dictionary dict).deliver updateServiceProperty (s.reg.heap found.2)
  .ok { s with reg := s.reg.modify found.2 fun _ => obj }

/-- `service_changed_signal_cb`. -/
def serviceChangedSignalCb (iter : Body) : Reads Service.State :=
  if s.up then do
    let s := { s with ordered := [] }
    let array ← recurse iter
    let (s, objPath) ← listObjects updateOrCreateService array.positions none s
    let array ← recurse iter.next
    let s ← removeObjects Service.removeService array.positions objPath s
    .ok (if s.refreshed then Service.callRefreshCallback s else s)
  else .ok s

/-- `get_services_cb`. -/
def getServicesCb (iter : Body) : Reads Service.State :=
  if s.up then
    let s := { s with ordered := [] }
    match iter with
    | .array _ items _ => do
      let (s, _) ← listObjects updateOrCreateService items.positions none s
      .ok (if s.refreshed then Service.callRefreshCallback s
        else Service.connmanManagerGetServices { s with refreshed := true })
    | _ => .ok s
  else .ok s

/-- `services_changed_signal_cb` of the manager; without arguments there is
nothing to read. -/
def servicesChangedSignalCb (message : Body) : Reads Service.State :=
  match message with
  | .nil => .ok s
  | arg => serviceChangedSignalCb s arg

/-- `get_services_callback` of the manager, which does not ask whether the reply
is an error. -/
def getServicesCallback (reply : Body) : Reads Service.State :=
  let s := { s with getServicesCall := none }
  match reply with
  | .nil => .ok s
  | arg => getServicesCb s arg

end Services

/-! ## Technologies -/

section Technologies
variable (s : Technology.State)

/-- `update_technology_property` on a technology of the module. -/
def updateProperty (o : ObjId) (arg : Body) (s : Technology.State) : Reads Technology.State := do
  let obj ← updateTechnologyProperty arg (s.reg.heap o)
  let s := { s with reg := s.reg.modify o fun _ => obj }
  match obj.updateIndex with
  | some i => .ok { s with reg := s.reg.propertyUpdate o i }
  | none => .ok s

/-- `update_or_create_technology`. -/
def updateOrCreateTechnology (s : Technology.State) (objPath : String) (dict : Body) : Reads Technology.State :=
  if s.up then
    let found := Technology.getOrCreate s objPath
    (Delivery.dictionary dict).deliver (updateProperty found.2) found.1
  else .ok s

/-- `technology_added_cb`. -/
def technologyAddedCb (iter : Body) : Reads Technology.State := do
  let path ← readLocal (cuiDbusGetBasic iter .objectPath)
  let s ← updateOrCreateTechnology s path iter.next
  let s := Technology.callAddedCb s path
  .ok (if s.set then Technology.connmanManagerGetTechnologies s else s)

/-- `technology_removed_cb`. -/
def technologyRemovedCb (iter : Body) : Reads Technology.State := do
  let path ← readLocal (cuiDbusGetBasic iter .objectPath)
  let s := Technology.callRemovedCb s path
  .ok { s with reg := s.reg.hashRemove Registry.objectFree path }

/-- `get_technologies_cb`. -/
def getTechnologiesCb (iter : Body) : Reads Technology.State :=
  if s.up then
    match iter with
    | .array _ items _ => do
      let (s, _) ← listObjects updateOrCreateTechnology items.positions none s
      if s.set then .ok s
      else
        let s := Technology.connmanManagerRegisterTechnologySignals s true
        .ok (Technology.connmanManagerGetTechnologies { s with set := true })
    | _ => .ok s
  else .ok s

/-- `technology_added_signal_cb` of the manager. -/
def technologyAddedSignalCb (message : Body) : Reads Technology.State :=
  match message with
  | .nil => .ok s
  | arg => technologyAddedCb s arg

/-- `technology_removed_signal_cb` of the manager. -/
def technologyRemovedSignalCb (message : Body) : Reads Technology.State :=
  match message with
  | .nil => .ok s
  | arg => technologyRemovedCb s arg

/-- `get_technologies_callback` of the manager. -/
def getTechnologiesCallback (reply : Body) : Reads Technology.State :=
  let s := { s with getTechnologiesCall := none }
  match reply with
  | .nil => .ok s
  | arg => getTechnologiesCb s arg

end Technologies

/-! ## Lists as ConnMan sends them -/

/-- A property and its value, as an entry of a dictionary. -/
def propertyBody (entry : String × Value) : Body := .basic .string entry.1 (valueBody entry.2)

/-- `a{sv}`. -/
def dictBody (dict : Dict) : Body := .dictionary (dict.map fun entry => (entry.1, innerBody entry.2))

/-- `a(oa{sv})`. -/
def objectsBody : List (String × Dict) → Body
  | [] => .nil
  | object :: rest => .struct (.basic .objectPath object.1 (dictBody object.2)) (objectsBody rest)

def objectsSig : Sig := .struct (.basic .objectPath .dictionary) .nil

theorem dictBody_calls (dict : Dict) : (Delivery.dictionary (dictBody dict)).calls = dict.map propertyBody := by
  have contents : ∀ dict : Dict,
      (Body.ofEntries (dict.map fun entry => (entry.1, innerBody entry.2))).contents = dict.map propertyBody := by
    intro dict
    induction dict with
    | nil => rfl
    | cons entry dict ih => exact congrArg (propertyBody entry :: ·) ih
  exact contents dict

section Agreement
variable {uninit : Service.Uninit} {held : Option String}

/-- Where the reading of a dictionary does not stop, it is the coarser model's. -/
theorem updateServiceProperties_agree (uninit : Service.Uninit) (dict : Dict) {obj obj' : Object Service.Property Service.Record}
    (ok : (dict.map propertyBody).foldlM (fun obj arg => updateServiceProperty arg obj) obj = .ok obj') :
    dict.foldl (fun obj entry => Service.updateServiceProperty uninit obj entry.1 entry.2) obj = obj' := by
  induction dict generalizing obj with
  | nil => exact Except.ok.inj ok
  | cons entry dict ih =>
    obtain ⟨middle, first, rest⟩ := bind_ok ok
    rw [List.foldl_cons, updateServiceProperty_agrees first]
    exact ih rest

/-- Taking in properties one by one is taking them in together. -/
theorem updateProperties_modify (uninit : Service.Uninit) (o : ObjId) (dict : Dict) (s : Service.State) :
    dict.foldl (fun s entry => Service.updateProperty uninit s o entry) s =
      { s with reg := s.reg.modify o fun obj =>
          dict.foldl (fun obj entry => Service.updateServiceProperty uninit obj entry.1 entry.2) obj } := by
  induction dict generalizing s with
  | nil => simp [Registry.modify]
  | cons entry dict ih =>
    rw [List.foldl_cons, ih, Service.updateProperty]
    simp only [Registry.modify_modify, List.foldl_cons]

theorem updateOrCreateService_agrees {s s' : Service.State} {path : String} {dict : Dict}
    (ok : updateOrCreateService s path (dictBody dict) = .ok s') :
    Service.updateOrCreateService uninit s (path, dict) = s' := by
  obtain ⟨obj, read, stored⟩ := bind_ok ok
  rw [Delivery.deliver_calls, dictBody_calls] at read
  have same := updateServiceProperties_agree uninit dict read
  cases stored
  rw [Service.updateOrCreateService, updateProperties_modify]
  dsimp only at same ⊢
  simp only [Registry.modify, same]

theorem listObjects_object {σ : Type} (update : σ → String → Body → Reads σ) (object : String × Dict)
    (objects : List (String × Dict)) (objPath : Option String) (s : σ) :
    listObjects update (objectsBody (object :: objects)).positions objPath s =
      (update s object.1 (dictBody object.2)).bind fun s =>
        listObjects update (objectsBody objects).positions (some object.1) s := by
  simp only [objectsBody, Body.positions, listObjects, recurse, readLocal, Body.inside, bind, Except.bind,
    cuiDbusGetBasic, Body.getBasic_basic, Option.some_or, Body.next]

/-- What each element of a list does, the list does. -/
theorem listObjects_agrees {σ : Type} (update : σ → String → Body → Reads σ) (coarse : σ → String × Dict → σ)
    (agrees : ∀ s s' path dict, update s path (dictBody dict) = .ok s' → coarse s (path, dict) = s')
    (objects : List (String × Dict)) (objPath : Option String) {s s' : σ} {last : Option String}
    (ok : listObjects update (objectsBody objects).positions objPath s = .ok (s', last)) :
    objects.foldl coarse s = s' := by
  induction objects generalizing s objPath with
  | nil => exact congrArg Prod.fst (Except.ok.inj ok)
  | cons object objects ih =>
    rw [listObjects_object] at ok
    obtain ⟨middle, first, rest⟩ := bind_ok ok
    rw [List.foldl_cons, agrees _ _ _ _ first]
    exact ih _ rest

theorem getServicesCb_agrees {s s' : Service.State} {services : List (String × Dict)}
    (ok : getServicesCb s (.array objectsSig (objectsBody services) .nil) = .ok s') :
    Service.getServicesCb uninit s (.services services) = s' := by
  unfold getServicesCb at ok
  unfold Service.getServicesCb
  by_cases up : s.up = true
  · rw [if_pos up] at ok ⊢
    obtain ⟨⟨listed, last⟩, walked, done⟩ := bind_ok ok
    have same := listObjects_agrees _ (Service.updateOrCreateService uninit)
      (fun _ _ _ _ => updateOrCreateService_agrees) _ _ walked
    dsimp only
    rw [same]
    exact Except.ok.inj done
  · rw [if_neg up] at ok ⊢
    exact Except.ok.inj ok

theorem removeObjects_paths {σ : Type} (remove : σ → String → σ) (paths : List String) (objPath : Option String)
    (s : σ) : removeObjects remove (Body.ofList .objectPath paths).positions objPath s = .ok (paths.foldl remove s) := by
  induction paths generalizing s objPath with
  | nil => rfl
  | cons path paths ih =>
    simp only [Body.ofList, Body.positions, removeObjects, cuiDbusGetBasic, Body.getBasic_basic, Option.some_or,
      readLocal, bind, Except.bind, ih, List.foldl_cons]

theorem serviceChangedSignalCb_agrees {s s' : Service.State} {changed : List (String × Dict)}
    {removed : List String}
    (ok : serviceChangedSignalCb s (.array objectsSig (objectsBody changed)
      (.array (.basic .objectPath .nil) (Body.ofList .objectPath removed) .nil)) = .ok s') :
    Service.serviceChangedSignalCb uninit s changed removed = s' := by
  unfold serviceChangedSignalCb at ok
  unfold Service.serviceChangedSignalCb
  by_cases up : s.up = true
  · rw [if_pos up] at ok ⊢
    obtain ⟨array, entered, ok⟩ := bind_ok ok
    cases entered
    obtain ⟨⟨listed, last⟩, walked, ok⟩ := bind_ok ok
    obtain ⟨array, entered, ok⟩ := bind_ok ok
    cases entered
    obtain ⟨dropped, left, done⟩ := bind_ok ok
    rw [removeObjects_paths] at left
    have same := listObjects_agrees _ (Service.updateOrCreateService uninit)
      (fun _ _ _ _ => updateOrCreateService_agrees) _ _ walked
    dsimp only at left ⊢
    rw [same, Except.ok.inj left]
    exact Except.ok.inj done
  · rw [if_neg up] at ok ⊢
    exact Except.ok.inj ok

theorem updateProperty_agrees {s s' : Technology.State} {o : ObjId} {entry : String × Value}
    (ok : updateProperty o (propertyBody entry) s = .ok s') :
    Technology.updateTechnologyProperty held s o entry = s' := by
  obtain ⟨obj, read, stored⟩ := bind_ok ok
  have same : Technology.storeProperty held (s.reg.heap o) entry.1 entry.2 = obj :=
    updateTechnologyProperty_agrees read
  have modified : s.reg.modify o (fun obj => Technology.storeProperty held obj entry.1 entry.2) =
      s.reg.modify o fun _ => obj := by simp only [Registry.modify, same]
  unfold Technology.updateTechnologyProperty
  dsimp only at stored ⊢
  rw [modified, Registry.heap_modify, if_pos rfl]
  cases index : obj.updateIndex with
  | none =>
    rw [index] at stored
    exact Except.ok.inj stored
  | some i =>
    rw [index] at stored
    exact Except.ok.inj stored

theorem updateOrCreateTechnology_agrees {s s' : Technology.State} {path : String} {dict : Dict}
    (ok : updateOrCreateTechnology s path (dictBody dict) = .ok s') :
    Technology.updateOrCreateTechnology held s (path, dict) = s' := by
  unfold updateOrCreateTechnology at ok
  unfold Technology.updateOrCreateTechnology
  by_cases up : s.up = true
  · rw [if_pos up] at ok ⊢
    rw [Delivery.deliver_calls, dictBody_calls] at ok
    dsimp only at ok ⊢
    generalize Technology.getOrCreate s path = found at ok ⊢
    obtain ⟨s, o⟩ := found
    dsimp only at ok ⊢
    clear up
    induction dict generalizing s with
    | nil => exact Except.ok.inj ok
    | cons entry dict ih =>
      obtain ⟨middle, first, rest⟩ := bind_ok ok
      rw [List.foldl_cons, updateProperty_agrees first]
      exact ih _ rest
  · rw [if_neg up] at ok ⊢
    exact Except.ok.inj ok

theorem getTechnologiesCb_agrees {s s' : Technology.State} {technologies : List (String × Dict)}
    (ok : getTechnologiesCb s (.array objectsSig (objectsBody technologies) .nil) = .ok s') :
    Technology.getTechnologiesCb held s (.technologies technologies) = s' := by
  unfold getTechnologiesCb at ok
  unfold Technology.getTechnologiesCb
  by_cases up : s.up = true
  · rw [if_pos up] at ok ⊢
    obtain ⟨⟨listed, last⟩, walked, done⟩ := bind_ok ok
    have same := listObjects_agrees _ (Technology.updateOrCreateTechnology held)
      (fun _ _ _ _ => updateOrCreateTechnology_agrees) _ _ walked
    dsimp only at done ⊢
    rw [same]
    split at done
    case isTrue set =>
      rw [if_pos set]
      exact Except.ok.inj done
    case isFalse unset =>
      rw [if_neg unset]
      exact Except.ok.inj done
  · rw [if_neg up] at ok ⊢
    exact Except.ok.inj ok

theorem technologyAddedCb_agrees {s s' : Technology.State} {path : String} {dict : Dict}
    (ok : technologyAddedCb s (.basic .objectPath path (dictBody dict)) = .ok s') :
    Technology.technologyAddedCb held s (path, dict) = s' := by
  obtain ⟨objPath, decoded, ok⟩ := bind_ok ok
  cases decoded
  obtain ⟨added, updated, done⟩ := bind_ok ok
  have same : Technology.updateOrCreateTechnology held s (path, dict) = added :=
    updateOrCreateTechnology_agrees updated
  unfold Technology.technologyAddedCb
  dsimp only
  rw [same]
  exact Except.ok.inj done

theorem technologyRemovedCb_agrees (s : Technology.State) (path : String) :
    technologyRemovedCb s (.basic .objectPath path .nil) = .ok (Technology.technologyRemovedCb s path) := rfl

end Agreement

end ConnmanUi.Reading
