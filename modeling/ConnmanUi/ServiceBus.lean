import ConnmanUi.RegistryRecords
import ConnmanUi.ServiceListing
import ConnmanUi.Subscription

/-!
ConnMan, the bus and the service module.

ConnMan has an ordered list of services with their properties.  It announces
every change: ServicesChanged carries the new list, with a full dictionary for
a service that is new, and the paths removed; PropertyChanged carries one
property.  The bus delivers a signal if the client was watching when it was
sent, and keeps signals and GetServices replies in order.  The client opens and
closes the menu.
-/

namespace ConnmanUi.Service

open Registry Run Subscription

/-- Services with their properties, in ConnMan's order. -/
abbrev Services := List (String × Dict)

inductive Signal where
  | servicesChanged (changed : Services) (removed : List String)
  | propertyChanged (path name : String) (value : Value)

/-- ConnMan, the bus and the client. -/
structure Bus where
  services : Services
  /-- What is in flight to the client, oldest first. -/
  queue : List (Message Signal Services) := []
  /-- How many GetServices calls ConnMan has answered. -/
  answered : Nat := 0
  menuOpen : Bool := false
  client : State

inductive BusEvent where
  /-- Services appear, disappear or change places; `full` says which of those
  that stay are sent with their properties all the same. -/
  | change (next : Services) (full : String → Bool)
  /-- A property changes. -/
  | setProperty (path name : String) (value : Value)
  /-- ConnMan answers the next call. -/
  | answer
  /-- The oldest message reaches the client. -/
  | deliver (uninit : Uninit)
  /-- The menu is opened, with a powered wifi technology known. -/
  | openMenu (refreshCb scanCb : Option Callback)
  | closeMenu
  /-- The client does something on its own. -/
  | own (e : Event)

/-! ## ConnMan -/

/-- No path twice, and no property of a service twice. -/
def Distinct (services : Services) : Prop :=
  (services.map Prod.fst).Nodup ∧ ∀ service ∈ services, (service.2.map Prod.fst).Nodup

instance (services : Services) : Decidable (Distinct services) := inferInstanceAs (Decidable (_ ∧ _))

/-- Services that stay keep their properties. -/
def Retains (services next : Services) : Prop :=
  ∀ service ∈ next, service.1 ∈ services.map Prod.fst → service ∈ services

instance (services next : Services) : Decidable (Retains services next) :=
  inferInstanceAs (Decidable (∀ _ ∈ next, _ → _))

/-- The services ServicesChanged lists. -/
def changedServices (services next : Services) (full : String → Bool) : Services :=
  next.map fun service =>
    if service.1 ∈ services.map Prod.fst && !full service.1 then (service.1, []) else service

/-- The paths ServicesChanged removes. -/
def removedServices (services next : Services) : List String :=
  (services.map Prod.fst).filter (· ∉ next.map Prod.fst)

/-- A property takes a value. -/
def setEntry (dict : Dict) (name : String) (value : Value) : Dict :=
  if name ∈ dict.map Prod.fst then dict.map fun entry => if entry.1 = name then (name, value) else entry
  else dict ++ [(name, value)]

/-- A property of a service takes a value. -/
def setServiceEntry (services : Services) (path name : String) (value : Value) : Services :=
  services.map fun service => if service.1 = path then (path, setEntry service.2 name value) else service

/-! ## The client -/

/-- The steps of the client besides those a message makes and those on the menu;
none of them selects a service or ends the module. -/
def Own : Event → Bool
  | .init => true
  | .setPropertyChangedCallback .. => true
  | .setPropertyErrorCallback .. => true
  | .setRemovedCallback _ => true
  | .set .. => true
  | .timerDone => true
  | .setPropertyReply .. => true
  | .scanServices => true
  | .timer _ => true
  | .refreshTimer _ => true
  | _ => false

/-- What the client does with a message: one without a watch, or an answer to a
call that was cancelled, is dropped. -/
def receive (uninit : Uninit) (s : State) : Message Signal Services → Option State
  | .event (.servicesChanged changed removed) =>
    if s.servicesChanged then step s (.servicesChanged uninit changed removed) else some s
  | .event (.propertyChanged path name value) =>
    match s.reg.watching path with
    | some wid => step s (.propertyChanged wid uninit name value)
    | none => some s
  | .reply call services =>
    if s.getServicesCall = some call then step s (.getServicesReply call uninit (.services services))
    else some s

/-- A signal is sent to a client that watches for it. -/
def Bus.announce (b : Bus) (watches : Bool) (signal : Signal) : Bus :=
  if watches then { b with queue := b.queue ++ [.event signal] } else b

/-- One step of the system. -/
def busStep (b : Bus) : BusEvent → Option Bus
  | .change next full =>
    if Distinct next ∧ Retains b.services next then
      some (Bus.announce { b with services := next } b.client.servicesChanged
        (.servicesChanged (changedServices b.services next full) (removedServices b.services next)))
    else none
  | .setProperty path name value =>
    if path ∈ b.services.map Prod.fst then
      some (Bus.announce { b with services := setServiceEntry b.services path name value }
        (b.client.reg.watching path).isSome (.propertyChanged path name value))
    else none
  | .answer =>
    if b.answered < b.client.sent then
      some { b with queue := b.queue ++ [.reply b.answered b.services], answered := b.answered + 1 }
    else none
  | .deliver uninit =>
    match b.queue with
    | [] => none
    | m :: queue => (receive uninit b.client m).map fun client => { b with queue := queue, client := client }
  | .openMenu refreshCb scanCb =>
    some { b with
      menuOpen := true
      client := connmanServiceRefreshServicesList b.client .powered refreshCb scanCb }
  | .closeMenu => some { b with menuOpen := false, client := connmanServiceFreeServicesList b.client }
  | .own e => if Own e then (step b.client e).map fun client => { b with client := client } else none

/-- Any services, and a client whose module has been started. -/
def BusStart (b : Bus) : Prop :=
  Distinct b.services ∧ b.queue = [] ∧ b.answered = 0 ∧ b.menuOpen = false ∧
    ∃ booted, Boot booted ∧ b.client = connmanServiceInit booted

/-- Nothing is in flight, and every call has been answered. -/
def Idle (b : Bus) : Prop := b.queue = [] ∧ b.answered = b.client.sent

variable {uninit : Uninit} {s s' : State} {e : Event} {b b' : Bus} {path : String} {m : Message Signal Services}

theorem announce_true (b : Bus) (signal : Signal) :
    b.announce true signal = { b with queue := b.queue ++ [.event signal] } := rfl

theorem announce_false (b : Bus) (signal : Signal) : b.announce false signal = b := rfl

/-! ## What the client does on its own -/

/-- `s'` has the services of `s`, lists them alike and has asked for the same. -/
structure Still (s s' : State) : Prop where
  same : SameData s.reg s'.reg
  ordered : s'.ordered = s.ordered
  up : s'.up = s.up
  refreshed : s'.refreshed = s.refreshed
  call : s'.getServicesCall = s.getServicesCall
  sent : s'.sent = s.sent
  watches : s'.servicesChanged = s.servicesChanged

theorem Still.of_reg (same : SameData s.reg s'.reg) (rest : s' = { s with reg := s'.reg }) : Still s s' := by
  refine ⟨same, ?_, ?_, ?_, ?_, ?_, ?_⟩ <;> rw [rest]

theorem Still.refl (s : State) : Still s s := .of_reg (.refl _) rfl

theorem note_still (n : Note Property) : Still s { s with reg := s.reg.note n } :=
  .of_reg (note_upkeep s.reg n).toSameObjects.sameData rfl

theorem setProperty_still (s : State) (o : ObjId) (i : Property) (outcome : SendOutcome) :
    Still s (setServiceProperty s o i outcome).1 := .of_reg (sendSetProperty_sameData outcome) rfl

theorem setConfig_still {γ : Type} [DecidableEq γ] (s : State) (path : String) (config : Option γ)
    (current : Record → Option γ) (i : Property) (outcome : SendOutcome) :
    Still s (setConfig s path config current i outcome).1 := by
  unfold setConfig
  split
  · exact .refl s
  · split
    · exact .refl s
    · split
      · exact .refl s
      · exact setProperty_still s _ i outcome

theorem setListConfig_still (s : State) (path : String) (config : Option String)
    (current : Record → Option String) (i : Property) (outcome : SendOutcome) :
    Still s (setListConfig s path config current i outcome).1 := by
  unfold setListConfig
  split
  · exact .refl s
  · split
    · exact .refl s
    · split
      · exact .refl s
      · exact setProperty_still s _ i outcome

theorem connmanServiceSet_still (s : State) (path : String) (setting : Setting) (outcome : SendOutcome) :
    Still s (connmanServiceSet s path setting outcome).1 := by
  cases setting with
  | autoconnectable enable =>
    unfold connmanServiceSet connmanServiceSetAutoconnectable
    dsimp only
    split
    · exact .refl s
    · exact setProperty_still s _ .autoconnect outcome
  | ipv4Config c => exact setConfig_still s path c _ _ outcome
  | ipv6Config c => exact setConfig_still s path c _ _ outcome
  | proxyConfig c => exact setConfig_still s path c _ _ outcome
  | nameserversConfig c => exact setListConfig_still s path c _ _ outcome
  | domainsConfig c => exact setListConfig_still s path c _ _ outcome
  | timeserversConfig c => exact setListConfig_still s path c _ _ outcome

theorem own_still (up : s.up = true) (own : Own e = true) (ran : step s e = some s') : Still s s' := by
  have callbacks : ∀ o changed error, Still s { s with reg := s.reg.setCallbacks o changed error } :=
    fun o changed error => .of_reg (setCallbacks_sameData _ o changed error) rfl
  cases e with
  | init =>
    cases ran
    exact ⟨.refl _, rfl, up.symm, rfl, rfl, rfl, rfl⟩
  | setPropertyChangedCallback path cb =>
    cases ran
    unfold connmanServiceSetPropertyChangedCallback
    split
    · exact .refl s
    case h_2 o _ => exact callbacks o cb (s.reg.heap o).propertySetErrorCb
  | setPropertyErrorCallback path cb =>
    cases ran
    unfold connmanServiceSetPropertyErrorCallback
    split
    · exact .refl s
    case h_2 o _ => exact callbacks o (s.reg.heap o).propertyChangedCb cb
  | setRemovedCallback cb =>
    cases ran
    unfold connmanServiceSetRemovedCallback
    rw [if_pos up]
    exact ⟨.refl _, rfl, rfl, rfl, rfl, rfl, rfl⟩
  | set path setting outcome =>
    cases ran
    exact connmanServiceSet_still s path setting outcome
  | timerDone =>
    obtain ⟨reg, ended, rfl⟩ := Option.map_eq_some_iff.mp ran
    exact .of_reg (timerDone_upkeep ended).toSameObjects.sameData rfl
  | setPropertyReply call failed =>
    obtain ⟨reg, replied, rfl⟩ := Option.map_eq_some_iff.mp (handed ran).2
    exact .of_reg (setPropertyReply_sameData replied) rfl
  | scanServices =>
    cases (handed ran).2
    unfold scanServicesCb
    split
    · exact .refl s
    · exact note_still _
  | timer id =>
    obtain ⟨reg, fired, rfl⟩ := Option.map_eq_some_iff.mp (handed ran).2
    exact .of_reg (timerRun_upkeep fired).toSameObjects.sameData rfl
  | refreshTimer id =>
    obtain ⟨_, ran⟩ := Option.ite_none_right_eq_some.mp (handed ran).2
    cases ran
    have done : SameData s.reg (s.reg.refreshDone id) := ⟨⟨rfl, rfl, rfl, rfl, fun _ => rfl⟩, fun _ => rfl, fun _ => rfl⟩
    unfold refreshCb
    dsimp only
    split
    · exact .of_reg done rfl
    · exact .of_reg (done.trans (note_upkeep _ _).toSameObjects.sameData) rfl
  | _ => cases own


/-! ## What a message does -/

/-- The client's calls. -/
def calls (s : State) : Calls := { again := s.refreshed, call := s.getServicesCall, sent := s.sent }

/-- No signal makes the client ask anew. -/
def never (_ : Signal) : Bool := false

/-- Everything but the services and the calls: a message changes none of it. -/
theorem serviceChangedSignalCb_frame (uninit : Uninit) (owned : Owned s.reg) (up : s.up = true)
    (changed : Services) (removed : List String) :
    serviceChangedSignalCb uninit s changed removed =
      { s with reg := (serviceChangedSignalCb uninit s changed removed).reg
               ordered := (serviceChangedSignalCb uninit s changed removed).ordered } := by
  obtain ⟨listed, dropped, lists, rfl, _, frame⟩ := serviceChangedSignalCb_spec uninit owned up changed removed
  rw [frame, (removeServices_spec removed listed).2, lists.rest]

theorem getServicesCallback_frame (uninit : Uninit) (owned : Owned s.reg) (up : s.up = true) (services : Services) :
    getServicesCallback uninit s (.services services) =
      { s with
        reg := (getServicesCallback uninit s (.services services)).reg
        ordered := (getServicesCallback uninit s (.services services)).ordered
        refreshed := true
        getServicesCall := if s.refreshed then none else some s.sent
        sent := if s.refreshed then s.sent else s.sent + 1 } := by
  obtain ⟨listed, lists, _, frame⟩ := getServicesCb_spec uninit
    (s := { s with getServicesCall := none }) owned up services
  have handled : getServicesCallback uninit s (.services services) =
      getServicesCb uninit { s with getServicesCall := none } (.services services) := rfl
  rw [handled, frame]
  cases refreshed : s.refreshed with
  | true =>
    simp only [if_true]
    rw [lists.rest]
    simp [refreshed]
  | false =>
    simp only [Bool.false_eq_true, if_false]
    unfold connmanManagerGetServices
    rw [lists.rest]

theorem calls_receive (grounded : Owned s.reg) (up : s.up = true) (m : Message Signal Services)
    (ran : receive uninit s m = some s') :
    calls s' = (calls s).take never m ∧ s'.servicesChanged = s.servicesChanged := by
  cases m with
  | event signal =>
    have same : (calls s).take never (.event signal : Message Signal Services) = calls s := rfl
    rw [same]
    cases signal with
    | servicesChanged changed removed =>
      simp only [receive] at ran
      split at ran
      · cases (Option.ite_none_right_eq_some.mp (handed ran).2).2
        unfold calls
        rw [serviceChangedSignalCb_frame uninit grounded up]
        exact ⟨rfl, rfl⟩
      · cases ran
        exact ⟨rfl, rfl⟩
    | propertyChanged path name value =>
      simp only [receive] at ran
      split at ran
      · obtain ⟨o, _, rfl⟩ := Option.map_eq_some_iff.mp (handed ran).2
        unfold calls
        rw [propertyChangedSignalCb_frame]
        exact ⟨rfl, rfl⟩
      · cases ran
        exact ⟨rfl, rfl⟩
  | reply call services =>
    simp only [receive] at ran
    split at ran
    case isTrue awaited =>
      cases (Option.ite_none_right_eq_some.mp (handed ran).2).2
      unfold calls
      rw [getServicesCallback_frame uninit grounded up]
      refine ⟨?_, rfl⟩
      cases refreshed : s.refreshed with
      | true => simp [Calls.take, awaited]
      | false => simp [Calls.take, Calls.ask, awaited]
    case isFalse other =>
      cases ran
      exact ⟨(Calls.take_other never services other).symm, rfl⟩

/-! ## What every run keeps -/

/-- A client whose module is up and that has selected nothing: its list names
objects that are found, and these have watches. -/
structure Grounded (s : State) : Prop where
  pointing : Pointing s
  held : Held s.reg
  watched : Watched s.reg
  unselected : s.reg.selected = none
  up : s.up = true

theorem grounded_step (grounded : Grounded s) (disjoint : Disjoint e) (unselecting : ∀ path, e ≠ .select path)
    (going : e ≠ .finalize) (ran : step s e = some s') : Grounded s' := by
  have owned := grounded.pointing.owned
  have change := step_change owned ran unselecting
  exact {
    pointing := pointing_step grounded.pointing disjoint
      (fun o sel => absurd (grounded.unselected.symm.trans sel) nofun) ran
    held := grounded.held.change owned change
    watched := grounded.watched.change owned change
    unselected := change.unselected owned grounded.unselected
    up := up_step owned grounded.up going ran }

theorem own_harmless (own : Own e = true) : Disjoint e ∧ (∀ path, e ≠ .select path) ∧ e ≠ .finalize := by
  cases e with
  | servicesChanged => cases own
  | select => cases own
  | finalize => cases own
  | _ => exact ⟨nofun, nofun, nofun⟩

/-- What ConnMan sends is well formed: it lists no service twice and removes
none it lists. -/
def Formed : Message Signal Services → Prop
  | .event (.servicesChanged changed removed) => Distinct changed ∧ ∀ path ∈ removed, path ∉ changed.map Prod.fst
  | .event (.propertyChanged ..) => True
  | .reply _ services => Distinct services

theorem grounded_receive (grounded : Grounded s) (formed : Formed m) (ran : receive uninit s m = some s') :
    Grounded s' := by
  cases m with
  | event signal =>
    cases signal with
    | servicesChanged changed removed =>
      simp only [receive] at ran
      split at ran
      · exact grounded_step (e := .servicesChanged uninit changed removed) grounded formed.2 nofun nofun ran
      · cases ran
        exact grounded
    | propertyChanged path name value =>
      simp only [receive] at ran
      split at ran
      case h_1 wid _ =>
        exact grounded_step (e := .propertyChanged wid uninit name value) grounded nofun nofun nofun ran
      case h_2 =>
        cases ran
        exact grounded
  | reply call services =>
    simp only [receive] at ran
    split at ran
    · exact grounded_step (e := .getServicesReply call uninit (.services services)) grounded nofun nofun nofun ran
    · cases ran
      exact grounded

theorem changedServices_keys (services next : Services) (full : String → Bool) :
    (changedServices services next full).map Prod.fst = next.map Prod.fst := by
  unfold changedServices
  rw [List.map_map]
  refine List.map_congr_left fun service _ => ?_
  dsimp only [Function.comp]
  split
  · rfl
  · rfl

theorem distinct_changedServices {next : Services} (distinct : Distinct next) (services : Services)
    (full : String → Bool) : Distinct (changedServices services next full) := by
  refine ⟨by rw [changedServices_keys]; exact distinct.1, fun service mem => ?_⟩
  obtain ⟨from_, there, rfl⟩ := List.mem_map.mp mem
  split
  · exact List.nodup_nil
  · exact distinct.2 from_ there

theorem formed_change {services next : Services} (distinct : Distinct next) (full : String → Bool) :
    Formed (.event (.servicesChanged (changedServices services next full) (removedServices services next))) := by
  refine ⟨distinct_changedServices distinct services full, fun path mem => ?_⟩
  rw [changedServices_keys]
  simpa using (List.mem_filter.mp mem).2

theorem setEntry_keys (dict : Dict) (name : String) (value : Value) (there : name ∈ dict.map Prod.fst) :
    (setEntry dict name value).map Prod.fst = dict.map Prod.fst := by
  unfold setEntry
  rw [if_pos there, List.map_map]
  refine List.map_congr_left fun entry _ => ?_
  dsimp only [Function.comp]
  split
  case isTrue same => exact same.symm
  case isFalse => rfl

theorem setEntry_nodup {dict : Dict} (nodup : (dict.map Prod.fst).Nodup) (name : String) (value : Value) :
    ((setEntry dict name value).map Prod.fst).Nodup := by
  by_cases there : name ∈ dict.map Prod.fst
  · rw [setEntry_keys dict name value there]
    exact nodup
  · unfold setEntry
    rw [if_neg there, List.map_append]
    refine List.nodup_append.mpr ⟨nodup, List.pairwise_singleton _ name, fun old mem new single => ?_⟩
    rw [List.mem_singleton.mp single]
    rintro rfl
    exact there mem

theorem setServiceEntry_keys (services : Services) (path name : String) (value : Value) :
    (setServiceEntry services path name value).map Prod.fst = services.map Prod.fst := by
  unfold setServiceEntry
  rw [List.map_map]
  refine List.map_congr_left fun service _ => ?_
  dsimp only [Function.comp]
  split
  case isTrue same => exact same.symm
  case isFalse => rfl

theorem distinct_setServiceEntry {services : Services} (distinct : Distinct services) (path name : String)
    (value : Value) : Distinct (setServiceEntry services path name value) := by
  refine ⟨by rw [setServiceEntry_keys]; exact distinct.1, fun service mem => ?_⟩
  obtain ⟨from_, there, rfl⟩ := List.mem_map.mp mem
  split
  · exact setEntry_nodup (distinct.2 from_ there) name value
  · exact distinct.2 from_ there

/-- What holds of every run of the system. -/
structure Sane (b : Bus) : Prop where
  grounded : Grounded b.client
  distinct : Distinct b.services
  formed : ∀ m ∈ b.queue, Formed m
  watches : b.client.servicesChanged = b.menuOpen
  orderly : Orderly never b.queue b.answered (calls b.client)


theorem start_sane (start : BusStart b) : Sane b := by
  obtain ⟨distinct, empty, none_, closed, booted, boot, started⟩ := start
  have owned := boot_owned boot
  obtain ⟨sources, calls_, scans, watches, rfl⟩ := boot
  obtain ⟨services, queue, answered, menuOpen, client⟩ := b
  cases empty
  cases none_
  cases closed
  cases started
  exact {
    grounded := {
      pointing := ⟨owned, nofun⟩
      held := empty_held sources calls_ scans watches
      watched := fun o live => absurd live.1 (Nat.not_lt_zero o)
      unselected := rfl
      up := rfl }
    distinct := distinct
    formed := nofun
    watches := rfl
    orderly := orderly_start never }

/-- ConnMan's services change, and the change is announced or not. -/
theorem Sane.announce (sane : Sane b) {services : Services} (distinct : Distinct services) (signal : Signal)
    (formed : Formed (.event signal)) (watches : Bool) :
    Sane (Bus.announce { b with services := services } watches signal) := by
  unfold Bus.announce
  split
  · exact {
      grounded := sane.grounded
      distinct := distinct
      formed := fun m mem => by
        rcases List.mem_append.mp mem with old | new
        · exact sane.formed m old
        · exact List.mem_singleton.mp new ▸ formed
      watches := sane.watches
      orderly := sane.orderly.event signal }
  · exact ⟨sane.grounded, distinct, sane.formed, sane.watches, sane.orderly⟩

/-- The client opens the menu: it starts over. -/
theorem open_spec (up : s.up = true) (refreshCb scanCb : Option Callback) :
    let s' := connmanServiceRefreshServicesList s .powered refreshCb scanCb
    s'.reg = s.reg ∧ s'.ordered = s.ordered ∧ s'.servicesChanged = true ∧
      calls s' = { calls s with again := false }.ask := by
  unfold connmanServiceRefreshServicesList
  rw [if_pos up]
  exact ⟨rfl, rfl, rfl, rfl⟩

/-- The client closes the menu: it drops the services, not the call. -/
theorem close_spec (up : s.up = true) :
    let s' := connmanServiceFreeServicesList s
    s'.reg = s.reg.hashRemoveAll objectFree ∧ s'.ordered = [] ∧ s'.servicesChanged = false ∧
      calls s' = calls s := by
  unfold connmanServiceFreeServicesList
  rw [if_pos up]
  exact ⟨rfl, rfl, rfl, rfl⟩

theorem sane_step {event : BusEvent} (sane : Sane b) (ran : busStep b event = some b') : Sane b' := by
  have grounded := sane.grounded
  cases event with
  | change next full =>
    obtain ⟨⟨distinct, _⟩, ran⟩ := Option.ite_none_right_eq_some.mp ran
    cases ran
    exact sane.announce distinct _ (formed_change distinct full) _
  | setProperty path name value =>
    obtain ⟨_, ran⟩ := Option.ite_none_right_eq_some.mp ran
    cases ran
    exact sane.announce (distinct_setServiceEntry sane.distinct path name value)
      (.propertyChanged path name value) trivial _
  | answer =>
    obtain ⟨asked, ran⟩ := Option.ite_none_right_eq_some.mp ran
    cases ran
    exact {
      grounded := grounded
      distinct := sane.distinct
      formed := fun m mem => by
        rcases List.mem_append.mp mem with old | new
        · exact sane.formed m old
        · exact List.mem_singleton.mp new ▸ sane.distinct
      watches := sane.watches
      orderly := sane.orderly.answer asked b.services }
  | deliver uninit =>
    simp only [busStep] at ran
    split at ran
    case h_1 => cases ran
    case h_2 m queue first =>
      obtain ⟨client, received, rfl⟩ := Option.map_eq_some_iff.mp ran
      obtain ⟨same, watches⟩ := calls_receive grounded.pointing.owned grounded.up m received
      have formed := sane.formed
      have orderly := sane.orderly
      rw [first] at formed orderly
      exact {
        grounded := grounded_receive grounded (formed m List.mem_cons_self) received
        distinct := sane.distinct
        formed := fun later mem => formed later (List.mem_cons_of_mem _ mem)
        watches := watches.trans sane.watches
        orderly := same ▸ orderly.arrive }
  | openMenu refreshCb scanCb =>
    cases ran
    have grounded' := grounded_step (e := .refreshServicesList .powered refreshCb scanCb) grounded nofun nofun
      nofun rfl
    obtain ⟨_, _, watches, same⟩ := open_spec grounded.up refreshCb scanCb
    exact ⟨grounded', sane.distinct, sane.formed, watches, same ▸ sane.orderly.restart⟩
  | closeMenu =>
    cases ran
    have grounded' := grounded_step (e := .freeServicesList) grounded nofun nofun nofun rfl
    obtain ⟨_, _, watches, same⟩ := close_spec (s := b.client) grounded.up
    exact ⟨grounded', sane.distinct, sane.formed, watches, same ▸ sane.orderly⟩
  | own e =>
    obtain ⟨own, ran⟩ := Option.ite_none_right_eq_some.mp ran
    obtain ⟨client, stepped, rfl⟩ := Option.map_eq_some_iff.mp ran
    obtain ⟨disjoint, unselecting, going⟩ := own_harmless own
    have still := own_still grounded.up own stepped
    have same : calls client = calls b.client := by
      unfold calls
      rw [still.refreshed, still.call, still.sent]
    exact ⟨grounded_step grounded disjoint unselecting going stepped, sane.distinct, sane.formed,
      still.watches.trans sane.watches, same ▸ sane.orderly⟩

/-! ## Copies of the services -/

section Copies

variable {δ : Type} {p : Protocol δ Signal Services} {view : State → Subscriber δ} {Good : Services → δ → Prop}

/-- A part of the client that messages change, and nothing the client does on
its own. -/
structure Copy (p : Protocol δ Signal Services) (view : State → Subscriber δ) : Prop where
  renews : p.renews = never
  asks : ∀ s, (view s).calls = calls s
  own : ∀ {s s'}, Still s s' → view s' = view s

/-- The part of the client once everything in flight has arrived. -/
def Bus.settled (b : Bus) (p : Protocol δ Signal Services) (view : State → Subscriber δ) : Subscriber δ :=
  p.settled b.queue (view b.client)

/-- What keeps a copy right in a step: it follows what is announced, and what is
not announced does not matter to it or an answer is still to be given. -/
def Follows (p : Protocol δ Signal Services) (view : State → Subscriber δ) (Good : Services → δ → Prop) (b : Bus) :
    BusEvent → Prop
  | .change next full =>
    Distinct next → Retains b.services next → Good b.services (b.settled p view).data →
      Good next (p.apply (b.settled p view).data
        (.servicesChanged (changedServices b.services next full) (removedServices b.services next)))
  | .setProperty path name value =>
    path ∈ b.services.map Prod.fst →
      ((b.client.reg.watching path).isSome = true → Good b.services (b.settled p view).data →
        Good (setServiceEntry b.services path name value)
          (p.apply (b.settled p view).data (.propertyChanged path name value))) ∧
      ((b.client.reg.watching path).isSome = false → Current Good b.services b.answered (b.settled p view) →
        Current Good (setServiceEntry b.services path name value) b.answered (b.settled p view))
  | .answer => Good b.services (p.absorb (b.settled p view).data b.services)
  | .deliver uninit =>
    ∀ m client, b.queue.head? = some m → receive uninit b.client m = some client →
      view client = p.take (view b.client) m
  | _ => True

theorem Copy.orderly (copy : Copy p view) (sane : Sane b) :
    Orderly p.renews b.queue b.answered (view b.client).calls := by
  rw [copy.renews, copy.asks]
  exact sane.orderly

/-- While the menu is open, a step keeps a copy current. -/
theorem Copy.current_step (copy : Copy p view) {event : BusEvent} (sane : Sane b)
    (current : b.menuOpen = true → Current Good b.services b.answered (b.settled p view))
    (follows : b.menuOpen = true → Follows p view Good b event) (ran : busStep b event = some b')
    (open_ : b'.menuOpen = true) :
    Current Good b'.services b'.answered (b'.settled p view) := by
  have orderly := copy.orderly sane
  have bound := orderly.bound_settled
  cases event with
  | change next full =>
    obtain ⟨⟨distinct, retains⟩, ran⟩ := Option.ite_none_right_eq_some.mp ran
    cases watches : b.client.servicesChanged with
    | true =>
      rw [watches, announce_true] at ran
      cases ran
      unfold Bus.settled
      rw [settled_concat]
      exact (current open_).event bound (follows open_ distinct retains)
    | false =>
      -- an open menu watches
      rw [watches, announce_false] at ran
      cases ran
      exact absurd (watches.symm.trans (sane.watches.trans open_)) nofun
  | setProperty path name value =>
    obtain ⟨there, ran⟩ := Option.ite_none_right_eq_some.mp ran
    have heard := fun open_ => (follows open_ there).1
    have unheard := fun open_ => (follows open_ there).2
    cases watches : (b.client.reg.watching path).isSome with
    | true =>
      rw [watches, announce_true] at ran
      cases ran
      unfold Bus.settled
      rw [settled_concat]
      exact (current open_).event bound (heard open_ watches)
    | false =>
      rw [watches, announce_false] at ran
      cases ran
      exact unheard open_ watches (current open_)
  | answer =>
    obtain ⟨_, ran⟩ := Option.ite_none_right_eq_some.mp ran
    cases ran
    unfold Bus.settled
    rw [settled_concat]
    exact (current open_).answer (follows open_)
  | deliver uninit =>
    simp only [busStep] at ran
    split at ran
    case h_1 => cases ran
    case h_2 m queue first =>
      obtain ⟨client, received, rfl⟩ := Option.map_eq_some_iff.mp ran
      have taken : view client = p.take (view b.client) m := 
        follows open_ m client (by rw [first]; rfl) received
      have current := current open_
      unfold Bus.settled at current ⊢
      rw [first, settled_cons, ← taken] at current
      exact current
  | openMenu refreshCb scanCb =>
    cases ran
    obtain ⟨_, _, _, same⟩ := open_spec (s := b.client) sane.grounded.up refreshCb scanCb
    rw [← copy.asks, ← copy.asks] at same
    exact .restart orderly same
  | closeMenu =>
    cases ran
    cases open_
  | own e =>
    obtain ⟨own, ran⟩ := Option.ite_none_right_eq_some.mp ran
    obtain ⟨client, stepped, rfl⟩ := Option.map_eq_some_iff.mp ran
    have same := copy.own (own_still sane.grounded.up own stepped)
    have current := current open_
    unfold Bus.settled at current ⊢
    rw [← same] at current
    exact current

/-- With nothing in flight a current copy is right. -/
theorem Copy.good (copy : Copy p view) (sane : Sane b)
    (current : Current Good b.services b.answered (b.settled p view)) (idle : Idle b) :
    Good b.services (view b.client).data := by
  obtain ⟨empty, answered⟩ := idle
  unfold Bus.settled at current
  rw [empty] at current
  refine current.good fun n waits => ?_
  have call : (calls b.client).call = some n := (congrArg Calls.call (copy.asks _)).symm.trans waits
  exact answered ▸ sane.orderly.asked n call

end Copies

end ConnmanUi.Service
