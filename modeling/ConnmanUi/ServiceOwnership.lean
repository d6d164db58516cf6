import ConnmanUi.ServiceSteps

/-!
Who owns a service.

A service object belongs to the table or to the selection.  That no operation
frees it early or twice holds of every run (`single_owner`).  That nothing is
orphaned, and that the ordered list names only services that are found, holds
exactly as long as a selection that is the last to hold a service is not given
up in the wrong way: `held_iff_handover`, `listed_iff_lasting`.
-/

namespace ConnmanUi.Service

open Registry Run

variable {s s' : State} {e : Event} {o : ObjId} {guard : State → Event → Prop}

/-! ## Freeing once -/

/-- No object is freed twice, or while the table or the selection holds it; an
entry under the selected service's path is that service; and watches and
SetProperty calls in flight are those of objects that have not been freed. -/
structure SingleOwner (r : Registry Property Record) : Prop where
  once : r.freed.Nodup
  early : r.early = []
  unheld : ∀ o ∈ r.freed, o ∉ r.table.map Prod.snd ∧ r.selected ≠ some o
  selectedEntry : ∀ o o', r.selected = some o → r.table.lookup (r.heap o).path = some o' → o' = o
  watches : ∀ wid o, r.watches.find wid = some o → r.Live o
  calls : ∀ call set, r.calls.find call = some set → r.Live set.data

theorem owned_singleOwner {r : Registry Property Record} (owned : Owned r) : SingleOwner r where
  once := owned.once
  early := owned.early
  unheld o freed := by
    constructor
    · intro mem
      obtain ⟨entry, member, rfl⟩ := List.mem_map.mp mem
      exact (owned.entries entry.1 entry.2 member).1.2 freed
    · intro sel
      exact (owned.selectedLive o sel).2 freed
  selectedEntry o o' sel entry := owned.selectedEntry o o' sel (lookup_mem entry)
  watches _ _ found := owned.watch_live found
  calls _ _ found := owned.call_live found

theorem boot_owned (boot : Boot s) : Owned s.reg := by
  obtain ⟨sources, calls, scans, watches, rfl⟩ := boot
  exact empty_owned sources calls scans watches

theorem owned_step (owned : Owned s.reg) (ran : step s e = some s') : Owned s'.reg := by
  by_cases selecting : ∃ path, e = .select path
  · obtain ⟨path, rfl⟩ := selecting
    cases ran
    unfold connmanServiceSelect
    split
    · exact owned
    case h_2 o known => exact owned.select known
  · exact owned.change (step_change owned ran fun path eq => selecting ⟨path, eq⟩)

theorem reaches_owned (reached : Reaches step guard Boot s) : Owned s.reg :=
  reached.invariant (fun _ => boot_owned) fun _ _ _ owned _ ran => owned_step owned ran

/-- In every run a service object has one owner and is freed once, after it. -/
theorem single_owner (s : State) (reached : Reaches step Always Boot s) : SingleOwner s.reg :=
  owned_singleOwner (reaches_owned reached)

/-- A program that has just been started. -/
def started : State := { reg := Registry.empty .counting .counting .counting .counting }

theorem started_boot : Boot started := ⟨.counting, .counting, .counting, .counting, rfl⟩

/-- Locals that happen to be zero. -/
def zeroed : Uninit := ⟨none, false, 0, 0⟩

/-- The list is opened and filled. -/
def opening (services : List (String × Dict)) : List Event :=
  [.init, .refreshServicesList .powered none none, .getServicesReply 0 zeroed (.services services)]

/-- A service is selected and set, and leaves the table. -/
def withdrawn : List Event :=
  opening [("/a", []), ("/b", [])] ++
    [.select "/a", .set "/a" (.autoconnectable true) .sent, .servicesChanged zeroed [("/b", [])] ["/a"]]

def afterWithdrawn : State := (play step Always started withdrawn).get (by decide)

theorem single_owner_withdrawn : SingleOwner afterWithdrawn.reg :=
  single_owner _ ((Reaches.here started_boot).play withdrawn (Option.some_get _).symm)

/-! ## Nothing orphaned -/

/-- The event selects a known service other than `o`. -/
def overwrites (s : State) (o : ObjId) : Event → Bool
  | .select path => (s.reg.get path).any (· ≠ o)
  | _ => false

/-- A selection is not overwritten while it is all that holds a service. -/
def Handover (s : State) (e : Event) : Prop :=
  ∀ o, s.reg.selected = some o → overwrites s o e → ((s.reg.heap o).path, o) ∈ s.reg.table

instance : Decidable (Handover s e) :=
  inferInstanceAs (Decidable (∀ o ∈ s.reg.selected, overwrites s o e →
    ((s.reg.heap o).path, o) ∈ s.reg.table))

/-- Every object is the table's under its own path or selected; no two share a
path; and while the module is down there is none. -/
structure NoOrphan (s : State) : Prop where
  held : ∀ o, s.reg.Live o → s.reg.table.lookup (s.reg.heap o).path = some o ∨ s.reg.selected = some o
  unique : ∀ o o', s.reg.Live o → s.reg.Live o' → (s.reg.heap o).path = (s.reg.heap o').path → o = o'
  finalized : s.up = false → ∀ o, ¬ s.reg.Live o

/-- What the runs without an overwritten selection keep. -/
structure Kept (s : State) : Prop where
  owned : Owned s.reg
  held : Held s.reg
  down : s.up = false → ∀ o, ¬ s.reg.Live o

theorem Kept.noOrphan (kept : Kept s) : NoOrphan s where
  held o live := by
    obtain ⟨_, _, inTable | sel⟩ := kept.owned.get_spec (kept.held o live).2
    · exact .inl (kept.owned.lookup_iff.mpr inTable)
    · exact .inr sel
  unique o o' live live' same := by
    have found := (kept.held o live).2
    rw [same, (kept.held o' live').2] at found
    exact (Option.some.inj found).symm
  finalized := kept.down

theorem boot_kept (boot : Boot s) : Kept s where
  owned := boot_owned boot
  held := by
    obtain ⟨sources, calls, scans, watches, rfl⟩ := boot
    exact empty_held sources calls scans watches
  down _ := by
    obtain ⟨sources, calls, scans, watches, rfl⟩ := boot
    exact fun o live => absurd live.1 (Nat.not_lt_zero o)

theorem held_step (owned : Owned s.reg) (held : Held s.reg) (handover : Handover s e)
    (ran : step s e = some s') : Held s'.reg := by
  by_cases selecting : ∃ path, e = .select path
  · obtain ⟨path, rfl⟩ := selecting
    cases ran
    unfold connmanServiceSelect
    split
    · exact held
    case h_2 o known =>
      refine held.select owned fun o' sel => ?_
      by_cases same : o' = o
      · exact .inl same
      · exact .inr (handover o' sel (by simp [overwrites, known, Ne.symm same]))
  · exact held.change owned (step_change owned ran fun path eq => selecting ⟨path, eq⟩)

theorem get_none_of_empty {r : Registry Property Record} (owned : Owned r) (none_ : ∀ o, ¬ r.Live o)
    (path : String) : r.get path = none := by
  cases found : r.get path with
  | none => rfl
  | some o => exact absurd (owned.get_spec found).1 (none_ o)

/-- What `connman_service_finalize` leaves. -/
theorem finalize_empty (owned : Owned s.reg) (held : Held s.reg) (up : s.up = true) :
    ∀ o, ¬ (connmanServiceFinalize s).reg.Live o := by
  intro o live
  have ops := connmanServiceFinalize_ops s
  obtain ⟨_, _, inTable | sel⟩ := (owned.ops ops).get_spec (held.ops owned ops o live).2
  · have empty : (connmanServiceFinalize s).reg.table = [] := by
      simp only [connmanServiceFinalize, up, ↓reduceIte]
      exact hashRemoveAll_table _
    rw [empty] at inTable
    cases inTable
  · have unselected : (connmanServiceFinalize s).reg.selected = none := by
      simp only [connmanServiceFinalize, up, ↓reduceIte]
      exact (hashRemoveAll_selected _).trans (deselect_selected _)
    rw [unselected] at sel
    cases sel

/-- While the module is down nothing is created. -/
theorem down_step (kept : Kept s) (down : s.up = false) (ran : step s e = some s') :
    ∀ o, ¬ s'.reg.Live o := by
  have empty := kept.down down
  by_cases moving : Moving e
  · have same : s'.reg = s.reg := by
      cases e with
      | servicesChanged uninit changed removed =>
        obtain ⟨_, ran⟩ := Option.ite_none_right_eq_some.mp (Option.ite_none_right_eq_some.mp ran).2
        cases ran
        simp [serviceChangedSignalCb, down]
      | getServicesReply call uninit reply =>
        obtain ⟨_, ran⟩ := Option.ite_none_right_eq_some.mp (Option.ite_none_right_eq_some.mp ran).2
        cases ran
        cases reply <;> simp [getServicesCallback, getServicesCb, down]
      | freeServicesList =>
        cases ran
        simp [connmanServiceFreeServicesList, down]
      | finalize =>
        cases ran
        simp [connmanServiceFinalize, down]
      | select path =>
        cases ran
        simp [connmanServiceSelect, get_none_of_empty kept.owned empty path]
      | deselect =>
        cases ran
        have unselected : s.reg.selected = none := by
          cases sel : s.reg.selected with
          | none => rfl
          | some o => exact absurd (kept.owned.selectedLive o sel) (empty o)
        simp [connmanServiceDeselect, Registry.deselect, unselected]
      | _ => exact moving.elim
    rw [same]
    exact empty
  · intro o live
    exact empty o (((quiet_step kept.owned ran moving).place.live o).mp live)

theorem kept_step (kept : Kept s) (handover : Handover s e) (ran : step s e = some s') : Kept s' where
  owned := owned_step kept.owned ran
  held := held_step kept.owned kept.held handover ran
  down down' := by
    cases up : s.up with
    | false => exact down_step kept up ran
    | true =>
      by_cases final : e = .finalize
      · subst final
        cases ran
        exact finalize_empty kept.owned kept.held up
      · rw [up_step kept.owned up final ran] at down'
        cases down'

theorem overwrites_select {path : String} (chosen : overwrites s o (.select path)) :
    ∃ o', s.reg.get path = some o' ∧ o' ≠ o := by
  unfold overwrites at chosen
  cases known : s.reg.get path with
  | none => simp [known] at chosen
  | some o' => exact ⟨o', rfl, by simpa [known] using chosen⟩

/-- The old selection is orphaned where it is overwritten. -/
theorem not_handover (kept : Kept s) (ran : step s e = some s') (overwritten : ¬ Handover s e) :
    ¬ NoOrphan s' := by
  intro whole
  simp only [Handover, not_forall] at overwritten
  obtain ⟨o, sel, chosen, lost⟩ := overwritten
  cases e with
  | select path =>
    obtain ⟨o', known, other⟩ := overwrites_select chosen
    cases ran
    simp only [connmanServiceSelect, known] at whole
    rcases whole.held o (kept.owned.selectedLive o sel) with entry | same
    · exact lost (lookup_mem entry)
    · exact other (Option.some.inj same)
  | _ => cases chosen

/-- Runs without an overwritten selection orphan nothing; and the next step
orphans nothing if and only if it overwrites none. -/
theorem held_iff_handover (s : State) (reached : Reaches step Handover Boot s) :
    NoOrphan s ∧ ∀ e s', step s e = some s' → (NoOrphan s' ↔ Handover s e) :=
  reached.exact (fun _ => boot_kept) (fun _ => Kept.noOrphan) (fun _ _ _ => kept_step)
    fun _ _ _ => not_handover

/-- A settings dialog is open on a service that has left; another is opened. -/
def overwritten : List Event := withdrawn ++ [.select "/b"]

def afterOverwritten : State := (play step Always started overwritten).get (by decide)

theorem not_always_held : ¬ ∀ s, Reaches step Always Boot s → NoOrphan s := by
  intro always
  have whole := always afterOverwritten
    ((Reaches.here started_boot).play overwritten (Option.some_get _).symm)
  exact absurd (whole.held 0 (by decide)) (by decide)

def keptWithdrawn : State := (play step Handover started withdrawn).get (by decide)

/-- The withdrawn service is held by the selection until that is overwritten. -/
theorem held_iff_handover_withdrawn :
    NoOrphan keptWithdrawn ∧
      ∀ s', step keptWithdrawn (.select "/b") = some s' → ¬ NoOrphan s' := by
  have ran : play step Handover started withdrawn = some keptWithdrawn := (Option.some_get _).symm
  have exact_ := held_iff_handover _ ((Reaches.here started_boot).play withdrawn ran)
  refine ⟨exact_.1, fun s' ran whole => ?_⟩
  exact absurd ((exact_.2 _ s' ran).mp whole) (by decide +kernel)

end ConnmanUi.Service
