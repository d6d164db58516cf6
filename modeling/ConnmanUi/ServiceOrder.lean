import ConnmanUi.ServiceBus

/-!
The order of the services.

The ordered list is written by ServicesChanged and by both GetServices replies.
However openings, closings, replies and signals overlap, the last of them to
arrive is the freshest: once the menu is open and nothing is in flight, the
list is ConnMan's (`order_converges`).
-/

namespace ConnmanUi.Service

open Registry Run Subscription

variable {uninit : Uninit} {s s' : State} {e : Event} {b b' : Bus} {o : ObjId} {m : Message Signal Services}

/-! ## The list as a copy -/

/-- The list, and whether ServicesChanged is heard. -/
structure Listing where
  watching : Bool
  order : List String

/-- How the list takes signals and replies in. -/
def orderProtocol : Protocol Listing Signal Services where
  apply l signal :=
    match signal with
    | .servicesChanged changed _ => if l.watching then { l with order := changed.map Prod.fst } else l
    | .propertyChanged .. => l
  absorb l services := { l with order := services.map Prod.fst }
  renews := never

/-- The client's list. -/
def orderView (s : State) : Subscriber Listing where
  data := { watching := s.servicesChanged, order := connmanServiceGetServices s }
  calls := calls s

/-- The list after ServicesChanged is the one sent: what is removed is not on
it. -/
theorem order_serviceChanged (owned : Owned s.reg) (up : s.up = true) (changed : Services) (removed : List String)
    (disjoint : ∀ path ∈ removed, path ∉ changed.map Prod.fst) :
    connmanServiceGetServices (serviceChangedSignalCb uninit s changed removed) = changed.map Prod.fst := by
  obtain ⟨listed, dropped, lists, rfl, refreshes, frame⟩ :=
    serviceChangedSignalCb_spec uninit owned up changed removed
  obtain ⟨added, ordered, found, named⟩ := lists.added
  have same : (serviceChangedSignalCb uninit s changed removed).ordered = added := by
    rw [frame, (removeServices_spec removed listed).2, ordered]
    rfl
  unfold connmanServiceGetServices
  rw [same, ← named]
  refine List.map_congr_left fun o mem => ?_
  rw [refreshes.place.path]
  refine (found_removeServices removed (owned.ops lists.ops) (found o mem) fun out => ?_).2
  exact disjoint _ out (named ▸ List.mem_map_of_mem (f := fun o => (listed.reg.heap o).path) mem)

theorem order_getServices (owned : Owned s.reg) (up : s.up = true) (services : Services) :
    connmanServiceGetServices (getServicesCallback uninit s (.services services)) = services.map Prod.fst := by
  obtain ⟨listed, lists, refreshes, frame⟩ := getServicesCb_spec uninit
    (s := { s with getServicesCall := none }) owned up services
  obtain ⟨added, ordered, _, named⟩ := lists.added
  have handled : getServicesCallback uninit s (.services services) =
      getServicesCb uninit { s with getServicesCall := none } (.services services) := rfl
  have same : (getServicesCallback uninit s (.services services)).ordered = added := by
    rw [handled, frame]
    split
    · exact ordered
    · exact ordered
  unfold connmanServiceGetServices
  rw [same, ← named]
  exact List.map_congr_left fun o _ => refreshes.place.path o

/-- A message does to the list what the protocol says. -/
theorem order_receive (grounded : Grounded s) (formed : Formed m) (ran : receive uninit s m = some s') :
    orderView s' = orderProtocol.take (orderView s) m := by
  have owned := grounded.pointing.owned
  obtain ⟨same, watches⟩ := calls_receive owned grounded.up m ran
  have data : (orderView s').data =
      { watching := s.servicesChanged, order := connmanServiceGetServices s' } := by
    rw [← watches]
    rfl
  refine Subscriber.ext ?_ same
  rw [data]
  cases m with
  | event signal =>
    cases signal with
    | servicesChanged changed removed =>
      simp only [receive] at ran
      split at ran
      case isTrue heard =>
        cases (Option.ite_none_right_eq_some.mp (handed ran).2).2
        rw [order_serviceChanged owned grounded.up changed removed formed.2]
        simp [Protocol.take, orderProtocol, orderView, heard]
      case isFalse off =>
        cases ran
        simp [Protocol.take, orderProtocol, orderView, off]
    | propertyChanged path name value =>
      simp only [receive] at ran
      split at ran
      case h_1 wid _ =>
        have quiet := quiet_step (e := .propertyChanged wid uninit name value) owned ran id
        have kept : connmanServiceGetServices s' = connmanServiceGetServices s := by
          unfold connmanServiceGetServices
          rw [quiet.ordered]
          exact List.map_congr_left fun o _ => quiet.place.path o
        rw [kept]
        rfl
      case h_2 =>
        cases ran
        rfl
  | reply call services =>
    simp only [receive] at ran
    split at ran
    case isTrue awaited =>
      cases (Option.ite_none_right_eq_some.mp (handed ran).2).2
      rw [order_getServices owned grounded.up services]
      simp [Protocol.take, orderProtocol, orderView, calls, awaited]
    case isFalse other =>
      cases ran
      simp [Protocol.take, orderProtocol, orderView, calls, other]

/-! ## The invariant -/

/-- The list is ConnMan's. -/
def SameOrder (services : Services) (l : Listing) : Prop := l.order = services.map Prod.fst

/-- While the menu is open the list will be ConnMan's, or there is an answer
still to be given. -/
structure Ordered (b : Bus) : Prop where
  sane : Sane b
  current : b.menuOpen = true → Current SameOrder b.services b.answered (b.settled orderProtocol orderView)

theorem start_ordered (start : BusStart b) : Ordered b :=
  ⟨start_sane start, fun open_ => absurd (start.2.2.2.1.symm.trans open_) nofun⟩

/-- An open menu hears ServicesChanged, and will. -/
theorem Sane.hears (sane : Sane b) (open_ : b.menuOpen = true) :
    (b.settled orderProtocol orderView).data.watching = true := by
  refine orderProtocol.settled_data (I := fun l => l.watching = true) (sane.watches.trans open_) ?_
    fun _ _ watching => watching
  intro l signal watching
  cases signal with
  | servicesChanged changed removed => simp [orderProtocol, watching]
  | propertyChanged path name value => exact watching

/-- The list is a copy of ConnMan's paths. -/
theorem order_copy : Copy orderProtocol orderView where
  renews := rfl
  asks _ := rfl
  own still := by
    unfold orderView calls connmanServiceGetServices
    rw [still.watches, still.ordered, still.refreshed, still.call, still.sent]
    simp only [still.same.path]

/-- Every change of the order is announced; a property changes nothing about
it. -/
theorem order_follows (sane : Sane b) (open_ : b.menuOpen = true) (event : BusEvent) :
    Follows orderProtocol orderView SameOrder b event := by
  cases event with
  | change next full =>
    intro _ _ _
    have hears := sane.hears open_
    generalize (b.settled orderProtocol orderView).data = l at hears ⊢
    simp only [SameOrder, orderProtocol, hears, if_true]
    exact changedServices_keys b.services next full
  | setProperty path name value =>
    have same : ∀ {l}, SameOrder b.services l → SameOrder (setServiceEntry b.services path name value) l :=
      fun order => order.trans (setServiceEntry_keys _ _ _ _).symm
    exact fun _ => ⟨fun _ => same, fun _ current => current.imp_right same⟩
  | answer => rfl
  | deliver uninit =>
    intro m client first received
    exact order_receive sane.grounded (sane.formed m (List.mem_of_mem_head? first)) received
  | _ => trivial

theorem ordered_step {event : BusEvent} (ordered : Ordered b) (ran : busStep b event = some b') : Ordered b' where
  sane := sane_step ordered.sane ran
  current := order_copy.current_step ordered.sane ordered.current
    (fun open_ => order_follows ordered.sane open_ event) ran

theorem reaches_ordered {guard : Bus → BusEvent → Prop} (reached : Reaches busStep guard BusStart b) : Ordered b :=
  reached.invariant (fun _ => start_ordered) fun _ _ _ ordered _ ran => ordered_step ordered ran

/-- Once the menu is open and nothing is in flight, the list is ConnMan's, in
its order and without duplicates, and each service on it is found. -/
theorem order_converges (b : Bus) (reached : Reaches busStep Always BusStart b) (open_ : b.menuOpen = true)
    (idle : Idle b) :
    connmanServiceGetServices b.client = b.services.map Prod.fst ∧
      (connmanServiceGetServices b.client).Nodup ∧
      ∀ path ∈ connmanServiceGetServices b.client, ∃ o, b.client.reg.get path = some o := by
  have ordered := reaches_ordered reached
  have same : connmanServiceGetServices b.client = b.services.map Prod.fst :=
    order_copy.good ordered.sane (ordered.current open_) idle
  refine ⟨same, same ▸ ordered.sane.distinct.1, fun path mem => ?_⟩
  obtain ⟨o, listed, rfl⟩ := List.mem_map.mp mem
  exact ⟨o, (ordered.sane.grounded.pointing.found o listed).2⟩

/-- Two services, and a client whose module has been started. -/
def ready : Bus := { services := [("/a", []), ("/b", [])], client := connmanServiceInit started }

theorem ready_start : BusStart ready :=
  ⟨by decide, rfl, rfl, rfl, started, started_boot, rfl⟩

/-- The menu is opened, closed and opened again before the first reply; a
service goes and another comes meanwhile. -/
def reopened : List BusEvent :=
  [.openMenu none none, .answer, .change [("/c", []), ("/a", [])] fun _ => false, .closeMenu, .deliver zeroed,
    .openMenu none none, .answer, .deliver zeroed, .change [("/a", []), ("/c", [])] fun _ => false,
    .deliver zeroed, .answer, .deliver zeroed, .deliver zeroed, .answer, .deliver zeroed]

def afterReopened : Bus := (play busStep Always ready reopened).get (by decide +kernel)

theorem order_converges_reopened :
    connmanServiceGetServices afterReopened.client = ["/a", "/c"] := by
  have ran : play busStep Always ready reopened = some afterReopened := (Option.some_get _).symm
  have open_ : afterReopened.menuOpen = true := by decide +kernel
  have idle : Idle afterReopened := ⟨by decide +kernel, by decide +kernel⟩
  have services : afterReopened.services.map Prod.fst = ["/a", "/c"] := by decide +kernel
  have converged := order_converges _ ((Reaches.here ready_start).play reopened ran) open_ idle
  exact converged.1.trans services

end ConnmanUi.Service
