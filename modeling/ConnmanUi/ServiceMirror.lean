import ConnmanUi.ServiceDecoding
import ConnmanUi.ServiceOrder

/-!
The records of the services against ConnMan's properties.

A record is refreshed by both GetServices replies and by its own
PropertyChanged signals, which the bus delivers once the record's watch is
there.  A property that changes before, with no reply to come, is lost: so it
is with a service that ServicesChanged has announced and the client has not
taken in yet (`not_always_mirrored`).  `records_converge` says the records are
right in all other runs, if their values are whole.
-/

namespace ConnmanUi.Service

open Registry Run Subscription

variable {uninit : Uninit} {s s' : State} {e : Event} {b b' : Bus} {o : ObjId} {path name : String}
  {value : Value} {m : Message Signal Services} {services : Services}

/-! ## The records as a copy -/

/-- The records, and whether ServicesChanged is heard. -/
structure Mirror where
  watching : Bool
  records : String → Option Record

/-- A service's record takes in the meaning of its dictionary. -/
def showService (records : String → Option Record) (service : String × Dict) : String → Option Record :=
  Function.update records service.1 (some (service.2.foldl showEntry ((records service.1).getD Key.zero)))

/-- A service's record goes. -/
def forget (records : String → Option Record) (path : String) : String → Option Record :=
  Function.update records path none

/-- How the records take signals and replies in. -/
def recordProtocol : Protocol Mirror Signal Services where
  apply m signal :=
    match signal with
    | .servicesChanged changed removed =>
      if m.watching then { m with records := removed.foldl forget (changed.foldl showService m.records) } else m
    | .propertyChanged path name value =>
      match m.records path with
      | some rest => { m with records := Function.update m.records path (some (showEntry rest (name, value))) }
      | none => m
  absorb m services := { m with records := services.foldl showService m.records }
  renews := never

/-- The client's records. -/
def recordView (s : State) : Subscriber Mirror where
  data := { watching := s.servicesChanged, records := s.reg.record }
  calls := calls s

/-- What a message would have the client take in is whole. -/
def TakenWhole (s : State) : Message Signal Services → Prop
  | .event (.servicesChanged changed _) =>
    s.servicesChanged = true → ∀ service ∈ changed, Fits ((s.reg.record service.1).getD Key.zero) service.2
  | .event (.propertyChanged path name value) => ∀ rest ∈ s.reg.record path, Fits rest [(name, value)]
  | .reply call services =>
    s.getServicesCall = some call → ∀ service ∈ services, Fits ((s.reg.record service.1).getD Key.zero) service.2

instance (s : State) (m : Message Signal Services) : Decidable (TakenWhole s m) :=
  match m with
  | .event (.servicesChanged ..) => inferInstanceAs (Decidable (_ → ∀ _ ∈ _, _))
  | .event (.propertyChanged ..) => inferInstanceAs (Decidable (∀ _ ∈ _, _))
  | .reply .. => inferInstanceAs (Decidable (_ → ∀ _ ∈ _, _))

/-! ## What a message does to the records -/

theorem record_of_found (found : s.reg.Found o) :
    s.reg.record (s.reg.heap o).path = some (s.reg.heap o).rest := by
  unfold Registry.record
  rw [found.2]
  rfl

theorem record_updateProperty (uninit : Uninit) (owned : Owned s.reg) (found : s.reg.Found o)
    (entry : String × Value) :
    (updateProperty uninit s o entry).reg.record =
      Function.update s.reg.record (s.reg.heap o).path (some (storeEntry uninit (s.reg.heap o).rest entry)) := by
  rw [updateProperty_reg, record_setData owned found, updateServiceProperty_rest]

theorem rest_updateProperty (entry : String × Value) :
    ((updateProperty uninit s o entry).reg.heap o).rest = storeEntry uninit (s.reg.heap o).rest entry := by
  rw [updateProperty_reg, ← updateServiceProperty_rest]
  simp [setData, heap_modify]

theorem record_updateProperties (dict : Dict) (owned : Owned s.reg) (found : s.reg.Found o) :
    (dict.foldl (fun s entry => updateProperty uninit s o entry) s).reg.record =
      Function.update s.reg.record (s.reg.heap o).path
        (some (dict.foldl (storeEntry uninit) (s.reg.heap o).rest)) := by
  induction dict generalizing s with
  | nil =>
    rw [List.foldl_nil, List.foldl_nil, ← record_of_found found, Function.update_eq_self]
  | cons entry dict ih =>
    have place : SamePlace s.reg (updateProperty uninit s o entry).reg := by
      rw [updateProperty_reg]
      exact modify_place rfl
    have owned' : Owned (updateProperty uninit s o entry).reg := by
      rw [updateProperty_reg]
      exact owned.modify rfl rfl rfl
    rw [List.foldl_cons, List.foldl_cons, ih owned' (found.place place), place.path, rest_updateProperty,
      record_updateProperty uninit owned found, Function.update_idem]

/-- A service is listed: its record takes in the dictionary. -/
theorem record_updateOrCreate (owned : Owned s.reg) (unselected : s.reg.selected = none) (service : String × Dict) :
    (updateOrCreateService uninit s service).reg.record =
      Function.update s.reg.record service.1
        (some (service.2.foldl (storeEntry uninit) ((s.reg.record service.1).getD Key.zero))) := by
  unfold updateOrCreateService getOrCreate
  cases known : s.reg.get service.1 with
  | some o =>
    obtain ⟨live, named, _⟩ := owned.get_spec known
    have found : s.reg.Found o := ⟨live, by rw [named]; exact known⟩
    dsimp only
    rw [record_updateProperties (s := { s with ordered := s.ordered ++ [o] }) service.2 owned found]
    dsimp only
    rw [← named, record_of_found found]
    rfl
  | none =>
    have found := found_created owned service.1
    have rest : ((s.reg.create service.1).heap s.reg.next).rest = Key.zero := by simp [Registry.create]; rfl
    have absent : s.reg.record service.1 = none := by
      unfold Registry.record
      rw [known]
      rfl
    dsimp only
    rw [record_updateProperties
      (s := { s with reg := s.reg.create service.1, ordered := s.ordered ++ [s.reg.next] }) service.2
      (owned.create known) found]
    dsimp only
    rw [path_created, rest, record_create owned unselected, Function.update_idem, absent]
    rfl

theorem showService_of_fits (uninit : Uninit) (owned : Owned s.reg) (unselected : s.reg.selected = none)
    (service : String × Dict) (distinct : (service.2.map Prod.fst).Nodup)
    (fits : Fits ((s.reg.record service.1).getD Key.zero) service.2) :
    (updateOrCreateService uninit s service).reg.record = showService s.reg.record service := by
  rw [record_updateOrCreate owned unselected, storeEntries_whole _ _ distinct fits]
  rfl

theorem showService_other (records : String → Option Record) (service : String × Dict) (other : path ≠ service.1) :
    showService records service path = records path := Function.update_of_ne other _ _

/-- Services are listed, none of them twice. -/
theorem record_updateOrCreates (uninit : Uninit) (services : Services) (owned : Owned s.reg)
    (unselected : s.reg.selected = none) (distinct : Distinct services)
    (fits : ∀ service ∈ services, Fits ((s.reg.record service.1).getD Key.zero) service.2) :
    (services.foldl (updateOrCreateService uninit) s).reg.record = services.foldl showService s.reg.record := by
  induction services generalizing s with
  | nil => rfl
  | cons service services ih =>
    obtain ⟨new, paths⟩ := List.nodup_cons.mp distinct.1
    have first := showService_of_fits uninit owned unselected service
      (distinct.2 service List.mem_cons_self) (fits service List.mem_cons_self)
    have lists := updateOrCreateService_lists uninit owned service
    rw [List.foldl_cons, List.foldl_cons, ← first]
    refine ih (owned.ops lists.ops) (lists.selected.trans unselected)
      ⟨paths, fun later mem => distinct.2 later (List.mem_cons_of_mem _ mem)⟩ fun later mem => ?_
    rw [first, showService_other _ _ fun same => new (same ▸ List.mem_map_of_mem mem)]
    exact fits later (List.mem_cons_of_mem _ mem)

theorem record_removeService (owned : Owned s.reg) (unselected : s.reg.selected = none) (path : String) :
    (removeService s path).reg.record = forget s.reg.record path := by
  unfold removeService
  cases known : s.reg.get path with
  | none =>
    have absent : s.reg.record path = none := by
      unfold Registry.record
      rw [known]
      rfl
    exact (Function.update_eq_self_iff.mpr absent.symm).symm
  | some o =>
    dsimp only
    split
    · exact record_hashRemove owned unselected path
    · exact (note_upkeep _ _).toSameObjects.sameData.record.trans (record_hashRemove owned unselected path)

theorem record_removeServices (removed : List String) (owned : Owned s.reg) (unselected : s.reg.selected = none) :
    (removed.foldl removeService s).reg.record = removed.foldl forget s.reg.record := by
  induction removed generalizing s with
  | nil => rfl
  | cons path removed ih =>
    have ops := (removeService_spec s path).1
    have unselected' := (Change.ops (a := .move) ops).unselected owned unselected
    rw [List.foldl_cons, List.foldl_cons, ih (owned.ops ops) unselected', record_removeService owned unselected]

theorem record_callRefresh (s : State) : (callRefreshCallback s).reg.record = s.reg.record := by
  unfold callRefreshCallback
  split
  · rfl
  · exact (scheduleRefresh_sameObjects s.reg).1.sameData.record

theorem record_serviceChanged (grounded : Grounded s) (changed : Services) (removed : List String)
    (distinct : Distinct changed)
    (fits : ∀ service ∈ changed, Fits ((s.reg.record service.1).getD Key.zero) service.2) :
    (serviceChangedSignalCb uninit s changed removed).reg.record =
      removed.foldl forget (changed.foldl showService s.reg.record) := by
  have owned := grounded.pointing.owned
  have listed := record_updateOrCreates uninit (s := { s with ordered := [] }) changed owned
    grounded.unselected distinct fits
  have lists := updateOrCreateServices_lists uninit (s := { s with ordered := [] }) changed owned
  have dropped := record_removeServices removed (owned.ops lists.ops) (lists.selected.trans grounded.unselected)
  unfold serviceChangedSignalCb
  rw [if_pos grounded.up]
  dsimp only at listed ⊢
  rw [← listed, ← dropped]
  split
  · exact record_callRefresh _
  · rfl

theorem record_getServices (grounded : Grounded s) (services : Services) (distinct : Distinct services)
    (fits : ∀ service ∈ services, Fits ((s.reg.record service.1).getD Key.zero) service.2) :
    (getServicesCallback uninit s (.services services)).reg.record = services.foldl showService s.reg.record := by
  have listed := record_updateOrCreates uninit
    (s := { s with getServicesCall := none, ordered := [] }) services grounded.pointing.owned
    grounded.unselected distinct fits
  unfold getServicesCallback getServicesCb
  dsimp only at listed ⊢
  rw [if_pos grounded.up, ← listed]
  split
  · exact record_callRefresh _
  · rfl

theorem noteChanged_sameData (r : Registry Property Record) (o : ObjId) (name : String) :
    SameData r (noteChanged r o name) := by
  rw [noteChanged_eq]
  split
  · exact (note_upkeep _ _).toSameObjects.sameData
  · exact .refl r

/-- A PropertyChanged signal reaches its object. -/
theorem record_propertyChanged (owned : Owned s.reg) (found : s.reg.Found o) (name : String) (value : Value) :
    (propertyChangedSignalCb uninit { s with reg := noteChanged s.reg o name } o name value).reg.record =
      Function.update s.reg.record (s.reg.heap o).path
        (some (storeEntry uninit (s.reg.heap o).rest (name, value))) := by
  have noted := noteChanged_sameData s.reg o name
  have cleared : SameData (noteChanged s.reg o name) ((noteChanged s.reg o name).modify o fun obj =>
      { obj with updateIndex := none }) := modify_sameData rfl rfl rfl
  have same := noted.trans cleared
  have owned' : Owned ((noteChanged s.reg o name).modify o fun obj => { obj with updateIndex := none }) := by
    refine Owned.modify ?_ rfl rfl rfl
    rw [noteChanged_eq]
    split
    · exact owned.upkeep (note_upkeep _ _)
    · exact owned
  have stored := record_updateProperty uninit
    (s := { s with reg := (noteChanged s.reg o name).modify o fun obj => { obj with updateIndex := none } })
    owned' (found.place same.toSamePlace) (name, value)
  dsimp only at stored
  rw [same.record, same.path, same.rest] at stored
  rw [← stored]
  unfold propertyChangedSignalCb
  dsimp only
  split
  · exact (propertyUpdate_upkeep _ _ _).toSameObjects.sameData.record
  · rfl

/-- A message whose values are whole does to the records what the protocol
says. -/
theorem record_receive (grounded : Grounded s) (formed : Formed m) (whole : TakenWhole s m)
    (ran : receive uninit s m = some s') : recordView s' = recordProtocol.take (recordView s) m := by
  have owned := grounded.pointing.owned
  obtain ⟨same, watches⟩ := calls_receive owned grounded.up m ran
  have data : (recordView s').data = { watching := s.servicesChanged, records := s'.reg.record } := by
    rw [← watches]
    rfl
  refine Subscriber.ext ?_ same
  rw [data]
  cases m with
  | event signal =>
    cases signal with
    | servicesChanged changed removed =>
      simp only [receive] at ran
      split at ran
      case isTrue heard =>
        cases (Option.ite_none_right_eq_some.mp (handed ran).2).2
        rw [record_serviceChanged grounded changed removed formed.1 (whole heard)]
        simp [Protocol.take, recordProtocol, recordView, heard]
      case isFalse off =>
        cases ran
        simp [Protocol.take, recordProtocol, recordView, off]
    | propertyChanged path name value =>
      simp only [receive] at ran
      split at ran
      case h_1 wid watching =>
        obtain ⟨o, found, known⟩ := watching_some owned grounded.held watching
        obtain ⟨live, named, _⟩ := owned.get_spec known
        obtain ⟨o', there, rfl⟩ := Option.map_eq_some_iff.mp (handed ran).2
        cases found.symm.trans there
        have found : s.reg.Found o := ⟨live, by rw [named]; exact known⟩
        have record := record_of_found found
        have fits : ∀ k ∈ Key.ofName name, Whole value k ((s.reg.heap o).rest k) := fun k stored =>
          whole (s.reg.heap o).rest (named ▸ record) (name, value) List.mem_cons_self k stored
        rw [record_propertyChanged owned found, storeEntry_whole _ _ fits]
        rw [named] at record ⊢
        simp [Protocol.take, recordProtocol, recordView, record]
      case h_2 unwatched =>
        cases ran
        have absent : s.reg.record path = none := by
          unfold Registry.record
          cases known : s.reg.get path with
          | none => rfl
          | some o =>
            obtain ⟨wid, watching⟩ := watching_of_get owned grounded.watched known
            exact absurd (watching.symm.trans unwatched) (Option.some_ne_none _)
        simp [Protocol.take, recordProtocol, recordView, absent]
  | reply call services =>
    simp only [receive] at ran
    split at ran
    case isTrue awaited =>
      cases (Option.ite_none_right_eq_some.mp (handed ran).2).2
      rw [record_getServices grounded services formed (whole awaited)]
      simp [Protocol.take, recordProtocol, recordView, calls, awaited]
    case isFalse other =>
      cases ran
      simp [Protocol.take, recordProtocol, recordView, calls, other]

/-! ## What ConnMan's changes do to the copy -/

/-- Every service has a record that shows its properties. -/
def SameRecords (services : Services) (m : Mirror) : Prop :=
  ∀ service ∈ services, ∃ rest, m.records service.1 = some rest ∧ Shows rest service.2

theorem showServices_other (records : String → Option Record) (services : Services)
    (other : path ∉ services.map Prod.fst) : services.foldl showService records path = records path := by
  induction services generalizing records with
  | nil => rfl
  | cons service services ih =>
    obtain ⟨ne, others⟩ := not_or.mp (List.mem_cons.not.mp other)
    rw [List.foldl_cons, ih _ others, showService_other records service ne]

/-- Of services that are all different each gets its own dictionary. -/
theorem showServices_at (records : String → Option Record) (paths : (services.map Prod.fst).Nodup)
    {service : String × Dict} (mem : service ∈ services) :
    services.foldl showService records service.1 =
      some (service.2.foldl showEntry ((records service.1).getD Key.zero)) := by
  induction services generalizing records with
  | nil => cases mem
  | cons first services ih =>
    obtain ⟨new, paths⟩ := List.nodup_cons.mp paths
    rw [List.foldl_cons]
    rcases List.mem_cons.mp mem with rfl | later
    · rw [showServices_other _ services new]
      exact Function.update_self ..
    · rw [ih _ paths later, showService_other records first fun same => new (same ▸ List.mem_map_of_mem later)]

theorem forget_other (records : String → Option Record) (removed : List String) (kept : path ∉ removed) :
    removed.foldl forget records path = records path := by
  induction removed generalizing records with
  | nil => rfl
  | cons gone removed ih =>
    obtain ⟨ne, others⟩ := not_or.mp (List.mem_cons.not.mp kept)
    rw [List.foldl_cons, ih _ others]
    exact Function.update_of_ne ne _ _

/-- A whole listing leaves every record showing ConnMan's properties. -/
theorem sameRecords_absorb (distinct : Distinct services) (m : Mirror) :
    SameRecords services (recordProtocol.absorb m services) := fun service mem =>
  ⟨_, showServices_at m.records distinct.1 mem, showEntries_shows _ _ (distinct.2 service mem)⟩

/-- So does ServicesChanged, if they did before: who stays keeps its record, who
is new comes with all its properties. -/
theorem sameRecords_change {next : Services} (distinct : Distinct next) (retains : Retains services next)
    (full : String → Bool) {m : Mirror} (hears : m.watching = true) (same : SameRecords services m) :
    SameRecords next (recordProtocol.apply m
      (.servicesChanged (changedServices services next full) (removedServices services next))) := by
  intro service mem
  have kept : service.1 ∉ removedServices services next := by
    intro gone
    have absent : service.1 ∉ next.map Prod.fst := of_decide_eq_true (List.mem_filter.mp gone).2
    exact absent (List.mem_map_of_mem mem)
  have paths : ((changedServices services next full).map Prod.fst).Nodup := by
    rw [changedServices_keys]
    exact distinct.1
  simp only [recordProtocol, hears, if_true]
  rw [forget_other _ _ kept]
  have sent : (if service.1 ∈ services.map Prod.fst && !full service.1 then (service.1, []) else service) ∈
      changedServices services next full :=
    List.mem_map.mpr ⟨service, mem, rfl⟩
  split at sent
  case isTrue stays =>
    simp only [Bool.and_eq_true, decide_eq_true_eq] at stays
    obtain ⟨rest, record, shows_⟩ := same service (retains service mem stays.1)
    refine ⟨rest, ?_, shows_⟩
    rw [showServices_at m.records paths sent]
    simp [record]
  case isFalse =>
    exact ⟨_, showServices_at m.records paths sent, showEntries_shows _ _ (distinct.2 service mem)⟩

theorem mem_setEntry {dict : Dict} {entry : String × Value} (mem : entry ∈ setEntry dict name value) :
    entry = (name, value) ∨ entry ∈ dict ∧ entry.1 ≠ name := by
  unfold setEntry at mem
  split at mem
  · obtain ⟨old, there, rfl⟩ := List.mem_map.mp mem
    split
    · exact .inl rfl
    case isFalse other => exact .inr ⟨there, other⟩
  case isFalse absent =>
    rcases List.mem_append.mp mem with old | new
    · exact .inr ⟨old, fun same => absent (same ▸ List.mem_map_of_mem old)⟩
    · exact .inl (List.mem_singleton.mp new)

/-- A record that takes the value in shows the changed dictionary. -/
theorem shows_setEntry {rest : Record} {dict : Dict} (shows_ : Shows rest dict) (name : String) (value : Value) :
    Shows (showEntry rest (name, value)) (setEntry dict name value) := by
  intro entry mem k stored
  rcases mem_setEntry mem with rfl | ⟨old, other⟩
  · have named : Key.ofName name = some k := stored
    unfold showEntry
    dsimp only
    rw [named]
    exact Function.update_self ..
  · rw [showEntry_other rest (name, value) stored other]
    exact shows_ entry old k stored

/-- A property the client does not store changes unnoticed. -/
theorem shows_unstored {rest : Record} {dict : Dict} (shows_ : Shows rest dict) (unstored : Key.ofName name = none) :
    Shows rest (setEntry dict name value) := by
  intro entry mem k stored
  rcases mem_setEntry mem with rfl | ⟨old, _⟩
  · exact absurd (unstored.symm.trans stored) nofun
  · exact shows_ entry old k stored

theorem sameRecords_setProperty {m : Mirror} (there : path ∈ services.map Prod.fst) (same : SameRecords services m) :
    SameRecords (setServiceEntry services path name value)
      (recordProtocol.apply m (.propertyChanged path name value)) := by
  obtain ⟨known, mem, rfl⟩ := List.mem_map.mp there
  obtain ⟨rest, record, _⟩ := same known mem
  simp only [recordProtocol, record]
  intro service changed
  obtain ⟨old, there, rfl⟩ := List.mem_map.mp changed
  obtain ⟨rest', record', shows_⟩ := same old there
  split
  case isTrue own =>
    rw [own, record] at record'
    cases record'
    exact ⟨_, Function.update_self .., shows_setEntry shows_ name value⟩
  case isFalse other => exact ⟨rest', (Function.update_of_ne other _ _).trans record', shows_⟩

theorem sameRecords_unstored {m : Mirror} (unstored : Key.ofName name = none) (same : SameRecords services m) :
    SameRecords (setServiceEntry services path name value) m := by
  intro service changed
  obtain ⟨old, there, rfl⟩ := List.mem_map.mp changed
  obtain ⟨rest, record, shows_⟩ := same old there
  split
  case isTrue own => exact ⟨rest, own ▸ record, shows_unstored shows_ unstored⟩
  case isFalse => exact ⟨rest, record, shows_⟩

/-! ## The invariant -/

/-- While the menu is open, a property the client stores changes only where the
client watches, or while a GetServices reply is still to be given: the first
has not been handled, or a call is unanswered.  What the client takes in is
whole. -/
def Followed (b : Bus) : BusEvent → Prop
  | .setProperty path name _ =>
    b.menuOpen = true → Key.ofName name ≠ none →
      (b.client.reg.watching path).isSome = true ∨ b.client.refreshed = false ∨
        (calls b.client).Awaiting b.answered
  | .deliver _ => ∀ m ∈ b.queue.head?, TakenWhole b.client m
  | _ => True

instance (b : Bus) (event : BusEvent) : Decidable (Followed b event) :=
  match event with
  | .setProperty .. => inferInstanceAs (Decidable (_ → _ → _ ∨ _ ∨ _))
  | .deliver _ => inferInstanceAs (Decidable (∀ _ ∈ _, _))
  | .change .. => isTrue trivial
  | .answer => isTrue trivial
  | .openMenu .. => isTrue trivial
  | .closeMenu => isTrue trivial
  | .own _ => isTrue trivial

/-- While the menu is open the records will show ConnMan's properties, or there
is an answer still to be given. -/
structure Mirrored (b : Bus) : Prop where
  sane : Sane b
  asked : b.menuOpen = true → b.client.refreshed = false → b.client.getServicesCall ≠ none
  current : b.menuOpen = true → Current SameRecords b.services b.answered (b.settled recordProtocol recordView)

theorem start_mirrored (start : BusStart b) : Mirrored b :=
  ⟨start_sane start, fun open_ => absurd (start.2.2.2.1.symm.trans open_) nofun,
    fun open_ => absurd (start.2.2.2.1.symm.trans open_) nofun⟩

theorem asked_step {event : BusEvent} (mirrored : Mirrored b) (ran : busStep b event = some b')
    (open_ : b'.menuOpen = true) (first : b'.client.refreshed = false) : b'.client.getServicesCall ≠ none := by
  have sane := mirrored.sane
  have grounded := sane.grounded
  have announced : ∀ watches (services : Services) signal,
      (Bus.announce { b with services := services } watches signal).menuOpen = b.menuOpen ∧
        (Bus.announce { b with services := services } watches signal).client = b.client := by
    intro watches services signal
    cases watches
    · exact ⟨rfl, rfl⟩
    · exact ⟨rfl, rfl⟩
  cases event with
  | change next full =>
    obtain ⟨_, ran⟩ := Option.ite_none_right_eq_some.mp ran
    cases ran
    rw [(announced _ _ _).1] at open_
    rw [(announced _ _ _).2] at first ⊢
    exact mirrored.asked open_ first
  | setProperty path name value =>
    obtain ⟨_, ran⟩ := Option.ite_none_right_eq_some.mp ran
    cases ran
    rw [(announced _ _ _).1] at open_
    rw [(announced _ _ _).2] at first ⊢
    exact mirrored.asked open_ first
  | answer =>
    obtain ⟨_, ran⟩ := Option.ite_none_right_eq_some.mp ran
    cases ran
    exact mirrored.asked open_ first
  | deliver uninit =>
    simp only [busStep] at ran
    split at ran
    case h_1 => cases ran
    case h_2 m queue _ =>
      obtain ⟨client, received, rfl⟩ := Option.map_eq_some_iff.mp ran
      have same := (calls_receive grounded.pointing.owned grounded.up m received).1
      have kept : calls client = calls b.client := by
        rw [same]
        exact Calls.take_first never m (same ▸ first)
      have call : client.getServicesCall = b.client.getServicesCall := congrArg Calls.call kept
      have refreshed : client.refreshed = b.client.refreshed := congrArg Calls.again kept
      dsimp only at first ⊢
      rw [call]
      exact mirrored.asked open_ (refreshed.symm.trans first)
  | openMenu refreshCb scanCb =>
    cases ran
    obtain ⟨_, _, _, same⟩ := open_spec (s := b.client) grounded.up refreshCb scanCb
    have call := congrArg Calls.call same
    exact fun none_ => absurd (call.symm.trans none_) (Option.some_ne_none _)
  | closeMenu =>
    cases ran
    cases open_
  | own e =>
    obtain ⟨own, ran⟩ := Option.ite_none_right_eq_some.mp ran
    obtain ⟨client, stepped, rfl⟩ := Option.map_eq_some_iff.mp ran
    have still := own_still grounded.up own stepped
    dsimp only at first ⊢
    rw [still.call]
    exact mirrored.asked open_ (still.refreshed.symm.trans first)

/-- While the first reply has not been handled, or the call is unanswered, an
answer is still to be given. -/
theorem Mirrored.awaiting (mirrored : Mirrored b) (open_ : b.menuOpen = true)
    (coming : b.client.refreshed = false ∨ (calls b.client).Awaiting b.answered) :
    (b.settled recordProtocol recordView).calls.Awaiting b.answered := by
  unfold Bus.settled
  rw [settled_calls]
  rcases coming with first | awaiting
  · exact mirrored.sane.orderly.awaiting_first first (mirrored.asked open_ first)
  · exact mirrored.sane.orderly.awaiting_settled awaiting

/-- An open menu hears ServicesChanged, and will. -/
theorem Sane.recordsHear (sane : Sane b) (open_ : b.menuOpen = true) :
    (b.settled recordProtocol recordView).data.watching = true := by
  refine recordProtocol.settled_data (I := fun m => m.watching = true) (sane.watches.trans open_) ?_
    fun _ _ watching => watching
  intro m signal watching
  cases signal with
  | servicesChanged changed removed => simp [recordProtocol, watching]
  | propertyChanged path name value =>
    simp only [recordProtocol]
    split
    · exact watching
    · exact watching

/-- The records are a copy of ConnMan's properties. -/
theorem record_copy : Copy recordProtocol recordView where
  renews := rfl
  asks _ := rfl
  own still := by
    unfold recordView calls
    rw [still.watches, still.same.record, still.refreshed, still.call, still.sent]

/-- A property that changes unheard is one the client does not store, or an
answer is still to be given. -/
theorem records_follow {event : BusEvent} (mirrored : Mirrored b) (followed : Followed b event)
    (open_ : b.menuOpen = true) : Follows recordProtocol recordView SameRecords b event := by
  have sane := mirrored.sane
  cases event with
  | change next full =>
    exact fun distinct retains => sameRecords_change distinct retains full (sane.recordsHear open_)
  | setProperty path name value =>
    refine fun there => ⟨fun _ => sameRecords_setProperty there, fun off current => ?_⟩
    by_cases unstored : Key.ofName name = none
    · exact current.imp_right (sameRecords_unstored unstored)
    · have coming := (followed open_ unstored).resolve_left (by simp [off])
      exact .inl (mirrored.awaiting open_ coming)
  | answer => exact sameRecords_absorb sane.distinct _
  | deliver uninit =>
    intro m client first received
    exact record_receive sane.grounded (sane.formed m (List.mem_of_mem_head? first)) (followed m first) received
  | _ => trivial

theorem mirrored_step {event : BusEvent} (mirrored : Mirrored b) (followed : Followed b event)
    (ran : busStep b event = some b') : Mirrored b' where
  sane := sane_step mirrored.sane ran
  asked := asked_step mirrored ran
  current := record_copy.current_step mirrored.sane mirrored.current
    (fun open_ => records_follow mirrored followed open_) ran

theorem reaches_mirrored (reached : Reaches busStep Followed BusStart b) : Mirrored b :=
  reached.invariant (fun _ => start_mirrored) fun _ _ _ mirrored followed ran => mirrored_step mirrored followed ran

/-! ## Runs -/

/-- Every record on the list shows the properties ConnMan has for its service. -/
def Mirrors (b : Bus) : Prop :=
  ∀ o ∈ b.client.ordered, ∃ dict, ((b.client.reg.heap o).path, dict) ∈ b.services ∧
    Shows (b.client.reg.heap o).rest dict

/-- A service comes and changes before the client has taken it in. -/
def unfollowed : List BusEvent :=
  [.openMenu none none, .answer, .deliver zeroed, .answer, .deliver zeroed,
    .change [("/n", [("State", .variant (.string "idle"))])] fun _ => false,
    .setProperty "/n" "State" (.variant (.string "online")), .deliver zeroed]

def afterUnfollowed : Bus := (play busStep Always ready unfollowed).get (by decide +kernel)

/-- The same service, whose property changes once the client watches it. -/
def followed : List BusEvent :=
  [.openMenu none none, .answer, .setProperty "/a" "Strength" (.variant (.byte 40)), .deliver zeroed, .answer,
    .deliver zeroed, .change [("/n", [("State", .variant (.string "idle"))]),
      ("/a", [("Strength", .variant (.byte 40))])] fun _ => false,
    .deliver zeroed, .setProperty "/n" "State" (.variant (.string "online")), .deliver zeroed]

def afterFollowed : Bus := (play busStep Followed ready followed).get (by decide +kernel)

end ConnmanUi.Service
