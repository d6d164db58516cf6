import ConnmanUi.ServiceOwnership

/-!
What the ordered list names.

An element of `ordered_services` points into a service object.  It stays good
while the object is found under its path: through every listing and removal,
since a signal does not remove what it lists, but not when the last holder of a
listed object is a selection that is given up (`listed_iff_lasting`).
-/

namespace ConnmanUi.Service

open Registry Run

variable {uninit : Uninit} {s s' : State} {e : Event} {o : ObjId}

/-- Every element of the list is the path of an object that is found under it,
so its service can be connected. -/
structure Listed (s : State) : Prop where
  found : ∀ o ∈ s.ordered, s.reg.Live o ∧ s.reg.get (s.reg.heap o).path = some o
  connects : ∀ path ∈ connmanServiceGetServices s, connmanServiceConnect s path .sent = 0

/-- The paths a signal lists, and those it removes. -/
def lists : Event → List String
  | .servicesChanged _ changed _ => changed.map Prod.fst
  | _ => []

def removes : Event → List String
  | .servicesChanged _ _ removed => removed
  | _ => []

/-- No signal removes a service it lists. -/
def Disjoint (e : Event) : Prop := ∀ path ∈ removes e, path ∉ lists e

/-- The event takes the selection away from `o`. -/
def givesUp (s : State) (o : ObjId) : Event → Bool
  | .deselect => true
  | e => overwrites s o e

/-- A selection that is all that holds a listed service is not given up. -/
def Lasting (s : State) (e : Event) : Prop :=
  ∀ o, s.reg.selected = some o → o ∈ s.ordered → givesUp s o e →
    ((s.reg.heap o).path, o) ∈ s.reg.table

/-- The runs considered: the signals are those ConnMan sends, and no selection
is given up too soon. -/
def Careful (s : State) (e : Event) : Prop := Disjoint e ∧ Lasting s e

instance : Decidable (Careful s e) :=
  inferInstanceAs (Decidable ((∀ path ∈ removes e, path ∉ lists e) ∧
    ∀ o ∈ s.reg.selected, o ∈ s.ordered → givesUp s o e → ((s.reg.heap o).path, o) ∈ s.reg.table))

/-- The list names objects that are found. -/
structure Pointing (s : State) : Prop where
  owned : Owned s.reg
  found : ∀ o ∈ s.ordered, s.reg.Found o

theorem Pointing.listed (pointing : Pointing s) : Listed s where
  found := pointing.found
  connects path mem := by
    obtain ⟨o, listed, rfl⟩ := List.mem_map.mp mem
    simp [connmanServiceConnect, callEmptyMethod, (pointing.found o listed).2]

theorem boot_pointing (boot : Boot s) : Pointing s where
  owned := boot_owned boot
  found := by
    obtain ⟨sources, calls, scans, watches, rfl⟩ := boot
    exact nofun

/-! ## Steps -/

/-- A removal leaves the services of other paths where they are. -/
theorem found_removeService {path : String} (owned : Owned s.reg) (found : s.reg.Found o)
    (other : (s.reg.heap o).path ≠ path) :
    (removeService s path).reg.Found o ∧
      ((removeService s path).reg.heap o).path = (s.reg.heap o).path := by
  have removed := And.intro (found.hashRemove owned other) (path_hashRemove owned other)
  unfold removeService
  split
  · exact ⟨found, rfl⟩
  · split
    · exact removed
    · exact ⟨removed.1.place (note_upkeep _ _).toSameObjects.place, removed.2⟩

theorem found_removeServices (removed : List String) (owned : Owned s.reg) (found : s.reg.Found o)
    (other : (s.reg.heap o).path ∉ removed) :
    (removed.foldl removeService s).reg.Found o ∧
      ((removed.foldl removeService s).reg.heap o).path = (s.reg.heap o).path := by
  induction removed generalizing s with
  | nil => exact ⟨found, rfl⟩
  | cons path removed ih =>
    obtain ⟨ne, notIn⟩ := not_or.mp (List.mem_cons.not.mp other)
    obtain ⟨kept, same⟩ := found_removeService owned found ne
    obtain ⟨kept', same'⟩ := ih (owned.ops (removeService_spec s path).1) kept (by rw [same]; exact notIn)
    exact ⟨kept', same'.trans same⟩

theorem pointing_serviceChanged (owned : Owned s.reg) (up : s.up = true)
    (changed : List (String × Dict)) (removed : List String)
    (disjoint : ∀ path ∈ removed, path ∉ changed.map Prod.fst) :
    ∀ o ∈ (serviceChangedSignalCb uninit s changed removed).ordered,
      (serviceChangedSignalCb uninit s changed removed).reg.Found o := by
  obtain ⟨listed, dropped, lists, rfl, quiet, frame⟩ :=
    serviceChangedSignalCb_spec uninit owned up changed removed
  obtain ⟨added, ordered, found, named⟩ := lists.added
  intro o mem
  rw [frame, (removeServices_spec removed listed).2, ordered] at mem
  have mem : o ∈ added := by simpa using mem
  have path : (listed.reg.heap o).path ∉ removed := fun out =>
    disjoint _ out (named ▸ List.mem_map_of_mem (f := fun o => (listed.reg.heap o).path) mem)
  exact (found_removeServices removed (owned.ops lists.ops) (found o mem) path).1.place quiet.place

theorem pointing_getServices (owned : Owned s.reg) (up : s.up = true) (services : List (String × Dict)) :
    ∀ o ∈ (getServicesCb uninit s (.services services)).ordered,
      (getServicesCb uninit s (.services services)).reg.Found o := by
  obtain ⟨listed, lists, quiet, frame⟩ := getServicesCb_spec uninit owned up services
  obtain ⟨added, ordered, found, _⟩ := lists.added
  intro o mem
  have same : (getServicesCb uninit s (.services services)).ordered = listed.ordered := by
    rw [frame]
    split
    · rfl
    · rfl
  rw [same, ordered] at mem
  exact (found o (by simpa using mem)).place quiet.place

theorem pointing_step (pointing : Pointing s) (disjoint : Disjoint e) (lasting : Lasting s e)
    (ran : step s e = some s') : Pointing s' := by
  refine ⟨owned_step pointing.owned ran, ?_⟩
  by_cases moving : Moving e
  · cases e with
    | servicesChanged uninit changed removed =>
      obtain ⟨_, ran⟩ := Option.ite_none_right_eq_some.mp (handed ran).2
      cases ran
      cases up : s.up with
      | false => simpa [serviceChangedSignalCb, up] using pointing.found
      | true => exact pointing_serviceChanged pointing.owned up changed removed disjoint
    | getServicesReply call uninit reply =>
      obtain ⟨_, ran⟩ := Option.ite_none_right_eq_some.mp (handed ran).2
      cases ran
      cases up : s.up with
      | false => cases reply <;> simpa [getServicesCallback, getServicesCb, up] using pointing.found
      | true =>
        cases reply with
        | noArguments => exact pointing.found
        | notArray => simp [getServicesCallback, getServicesCb, up]
        | services services =>
          exact pointing_getServices (s := { s with getServicesCall := none }) pointing.owned up services
    | freeServicesList =>
      cases ran
      unfold connmanServiceFreeServicesList
      split
      · exact fun o mem => absurd mem List.not_mem_nil
      · exact pointing.found
    | finalize =>
      cases ran
      unfold connmanServiceFinalize
      split
      · exact fun o mem => absurd mem List.not_mem_nil
      · exact pointing.found
    | select path =>
      cases ran
      unfold connmanServiceSelect
      split
      · exact pointing.found
      case h_2 o' known =>
        intro o mem
        refine (pointing.found o mem).select pointing.owned fun sel => ?_
        by_cases same : o = o'
        · exact .inl same
        · exact .inr (lasting o sel mem (by simp [givesUp, overwrites, known, Ne.symm same]))
    | deselect =>
      cases ran
      intro o mem
      -- the table holds every listed object, or the selection that goes was its last holder
      obtain ⟨_, _, inTable | sel⟩ := pointing.owned.get_spec (pointing.found o mem).2
      · exact Found.deselect pointing.owned inTable
      · exact Found.deselect pointing.owned (lasting o sel mem rfl)
    | _ => exact moving.elim
  · have quiet := quiet_step pointing.owned ran moving
    intro o mem
    rw [quiet.ordered] at mem
    exact (pointing.found o mem).place quiet.place

/-! ## What giving up a selection breaks -/

/-- Off the table, a selected object is found through the selection only. -/
theorem lookup_selected_none (owned : Owned s.reg) (sel : s.reg.selected = some o)
    (out : ((s.reg.heap o).path, o) ∉ s.reg.table) :
    s.reg.table.lookup (s.reg.heap o).path = none := by
  cases entry : s.reg.table.lookup (s.reg.heap o).path with
  | none => rfl
  | some o' =>
    have same := owned.selectedEntry o o' sel (lookup_mem entry)
    subst same
    exact absurd (lookup_mem entry) out

theorem not_lasting (pointing : Pointing s) (ran : step s e = some s') (given : ¬ Lasting s e) :
    ¬ Listed s' := by
  intro listed
  simp only [Lasting, not_forall] at given
  obtain ⟨o, sel, mem, gives, out⟩ := given
  have entry := lookup_selected_none pointing.owned sel out
  cases e with
  | select path =>
    obtain ⟨o', known, other⟩ := overwrites_select gives
    cases ran
    simp only [connmanServiceSelect, known] at listed
    have found := (listed.found o mem).2
    simp only [Registry.get, Registry.select, entry] at found
    obtain ⟨_, same⟩ := Option.ite_none_right_eq_some.mp found
    exact other (Option.some.inj same)
  | deselect =>
    cases ran
    have live : s.reg.deselect.Live o := (listed.found o mem).1
    simp only [Registry.deselect, sel, Registry.get, entry] at live
    exact absurd ((objectFree_live _ o o).mp live).2 (by simp)
  | _ => cases gives

/-- Runs that give up no selection a listed service depends on keep the list
good; and the next step, if its signal is one ConnMan sends, keeps it so if and
only if it does neither. -/
theorem listed_iff_lasting (s : State) (reached : Reaches step Careful Boot s) :
    Listed s ∧ ∀ e s', Disjoint e → step s e = some s' → (Listed s' ↔ Lasting s e) := by
  have pointing : Pointing s := reached.invariant (fun _ => boot_pointing)
    fun _ _ _ pointing careful ran => pointing_step pointing careful.1 careful.2 ran
  refine ⟨pointing.listed, fun e s' disjoint ran => ⟨fun listed => ?_, fun lasting => ?_⟩⟩
  · by_contra given
    exact not_lasting pointing ran given listed
  · exact (pointing_step pointing disjoint lasting ran).listed

/-- The runs the list should survive. -/
def Signalled (_ : State) (e : Event) : Prop := Disjoint e

instance : Decidable (Signalled s e) :=
  inferInstanceAs (Decidable (∀ path ∈ removes e, path ∉ lists e))

/-- A service leaves while its settings are open, and comes back. -/
def relisted : List Event :=
  opening [("/a", [])] ++ [.select "/a", .servicesChanged zeroed [] ["/a"],
    .servicesChanged zeroed [("/a", [])] []]

/-- The settings are closed: the list still names the object that frees. -/
def closed : List Event := relisted ++ [.deselect]

def afterClosed : State := (play step Signalled started closed).get (by decide)

theorem not_always_listed : ¬ ∀ s, Reaches step Signalled Boot s → Listed s := by
  intro always
  have ran : play step Signalled started closed = some afterClosed := (Option.some_get _).symm
  have listed := always afterClosed ((Reaches.here started_boot).play closed ran)
  exact absurd (listed.found 0 (by decide +kernel)).1 (by decide +kernel)

def carefulRelisted : State := (play step Careful started relisted).get (by decide)

/-- The list is good until the settings are closed. -/
theorem listed_iff_lasting_relisted :
    Listed carefulRelisted ∧ ∀ s', step carefulRelisted .deselect = some s' → ¬ Listed s' := by
  have ran : play step Careful started relisted = some carefulRelisted := (Option.some_get _).symm
  have exact_ := listed_iff_lasting _ ((Reaches.here started_boot).play relisted ran)
  refine ⟨exact_.1, fun s' ran listed => ?_⟩
  have lasting := (exact_.2 .deselect s' nofun ran).mp listed
  exact absurd (lasting 0 (by decide +kernel) (by decide +kernel) rfl) (by decide +kernel)

end ConnmanUi.Service
