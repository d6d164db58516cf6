import ConnmanUi.RegistryUpkeep

/-!
Who owns an object.

An object is live from its allocation to its one `g_free`.  `Owned` is what
every operation keeps, whatever the order: the table and the selection hold
live objects only, an entry under the selected object's path is the selected
object, and every watch and every SetProperty in flight is recorded in a slot
of a live object, so freeing the object releases it.  `Held` is the stronger
fact that every live object is found under its path; it survives as long as a
selection is not overwritten while it is all that holds an object.
-/

namespace ConnmanUi.Registry

variable {ι ρ : Type} {r r' : Registry ι ρ}
  {o o' : ObjId} {i : ι} {path : String}

structure Owned (r : Registry ι ρ) : Prop where
  once : r.freed.Nodup
  early : r.early = []
  allocated : ∀ o ∈ r.freed, o < r.next
  entries : ∀ path o, (path, o) ∈ r.table → r.Live o ∧ (r.heap o).path = path
  keys : (r.table.map Prod.fst).Nodup
  selectedLive : ∀ o, r.selected = some o → r.Live o
  selectedEntry : ∀ o o', r.selected = some o → ((r.heap o).path, o') ∈ r.table → o' = o
  emptyOutside : ∀ o, ¬ r.Live o →
    (r.heap o).propertyChangedWid = 0 ∧ ∀ i, (r.heap o).callModify i = 0
  watched : r.watches.Tracks some fun o => (r.heap o).propertyChangedWid
  called : r.calls.Tracks PropertySetting.slot fun k => (r.heap k.1).callModify k.2

/-- A live object that is found under its own path. -/
def Found (r : Registry ι ρ) (o : ObjId) : Prop := r.Live o ∧ r.get (r.heap o).path = some o

/-- Every live object is found under its own path. -/
def Held (r : Registry ι ρ) : Prop := ∀ o, r.Live o → r.Found o

theorem empty_owned [PropertyIndex ι] [Inhabited ρ] (sources calls scans watches : HandleSupply) :
    Owned (Registry.empty sources calls scans watches : Registry ι ρ) where
  once := List.nodup_nil
  early := rfl
  allocated := nofun
  entries := nofun
  keys := List.nodup_nil
  selectedLive := nofun
  selectedEntry := nofun
  emptyOutside _ _ := ⟨rfl, fun _ => rfl⟩
  watched := ⟨fun _ used => absurd rfl used, fun _ _ _ found => by cases found⟩
  called := ⟨fun _ used => absurd rfl used, fun _ _ _ found => by cases found⟩

theorem empty_held [PropertyIndex ι] [Inhabited ρ] (sources calls scans watches : HandleSupply) :
    Held (Registry.empty sources calls scans watches : Registry ι ρ) :=
  fun o live => absurd live.1 (Nat.not_lt_zero o)

/-! ## What the table holds -/

theorem lookup_mem {table : List (String × ObjId)} (found : table.lookup path = some o) :
    (path, o) ∈ table := by
  obtain ⟨before, after, rfl, _⟩ := List.lookup_eq_some_iff.mp found
  simp

theorem lookup_of_mem {table : List (String × ObjId)} (keys : (table.map Prod.fst).Nodup)
    (mem : (path, o) ∈ table) : table.lookup path = some o := by
  induction table with
  | nil => cases mem
  | cons entry rest ih =>
    rw [List.map_cons, List.nodup_cons] at keys
    rw [List.lookup_cons]
    rcases List.mem_cons.mp mem with rfl | later
    · simp
    · have other : path ≠ entry.1 := fun same =>
        keys.1 (same ▸ List.mem_map_of_mem (f := Prod.fst) later)
      rw [beq_eq_false_iff_ne.mpr other]
      exact ih keys.2 later

theorem Owned.lookup_iff (owned : Owned r) : r.table.lookup path = some o ↔ (path, o) ∈ r.table :=
  ⟨lookup_mem, lookup_of_mem owned.keys⟩

/-- What `get` finds is live, under the path asked for, and in the table or
selected. -/
theorem Owned.get_spec (owned : Owned r) (found : r.get path = some o) :
    r.Live o ∧ (r.heap o).path = path ∧ ((path, o) ∈ r.table ∨ r.selected = some o) := by
  unfold get at found
  split at found
  case h_1 _ o₁ entry =>
    cases found
    obtain ⟨live, named⟩ := owned.entries path o (lookup_mem entry)
    exact ⟨live, named, .inl (lookup_mem entry)⟩
  case h_2 =>
    split at found
    case h_2 => cases found
    case h_1 _ o₁ sel =>
      split at found
      case isFalse => cases found
      case isTrue named =>
        cases found
        exact ⟨owned.selectedLive o sel, named, .inr sel⟩

/-- Objects in the table or selected are found under their path. -/
theorem Owned.get_of_entry (owned : Owned r) (mem : (path, o) ∈ r.table) : r.get path = some o := by
  unfold get
  rw [owned.lookup_iff.mpr mem]

theorem Owned.get_of_selected (owned : Owned r) (sel : r.selected = some o) :
    r.get (r.heap o).path = some o := by
  unfold get
  cases entry : r.table.lookup (r.heap o).path with
  | some o' => rw [owned.selectedEntry o o' sel (lookup_mem entry)]
  | none => simp [sel]

theorem get_none_not_mem (absent : r.get path = none) : path ∉ r.table.map Prod.fst := by
  intro mem
  obtain ⟨entry, member, rfl⟩ := List.mem_map.mp mem
  unfold get at absent
  split at absent
  · cases absent
  case h_2 missing =>
    rw [List.lookup_eq_none_iff] at missing
    exact absurd (missing entry member) (by simp)

/-- Watches and calls are those of live objects. -/
theorem Owned.watch_live (owned : Owned r) {wid : Nat} (found : r.watches.find wid = some o) :
    r.Live o := by
  by_contra dead
  have stored : (r.heap o).propertyChangedWid = wid := owned.watched.stored wid o o found rfl
  have empty := (owned.emptyOutside o dead).1
  rw [stored] at empty
  exact Pool.ne_zero_of_find found empty

theorem Owned.call_live (owned : Owned r) {call : Nat} {set : PropertySetting ι}
    (found : r.calls.find call = some set) : r.Live set.data := by
  by_contra dead
  have stored : (r.heap set.data).callModify set.index = call :=
    owned.called.stored call set (set.data, set.index) found rfl
  have empty := (owned.emptyOutside set.data dead).2 set.index
  rw [stored] at empty
  exact Pool.ne_zero_of_find found empty

/-! ## Upkeep -/

theorem Owned.sameObjects (owned : Owned r) (same : SameObjects r r')
    (watched : r'.watches.Tracks some fun o => (r.heap o).propertyChangedWid)
    (called : r'.calls.Tracks PropertySetting.slot fun k => (r.heap k.1).callModify k.2) : Owned r' where
  once := same.freed ▸ owned.once
  early := same.early.trans owned.early
  allocated := by rw [same.freed, same.next]; exact owned.allocated
  entries path o mem := by
    rw [same.live, (same.object o).path]
    exact owned.entries path o (same.table ▸ mem)
  keys := same.table ▸ owned.keys
  selectedLive o sel := (same.live o).mpr (owned.selectedLive o (same.selected ▸ sel))
  selectedEntry o o' sel mem := by
    rw [(same.object o).path, same.table] at mem
    exact owned.selectedEntry o o' (same.selected ▸ sel) mem
  emptyOutside o dead := by
    rw [(same.object o).propertyChangedWid, (same.object o).callModify]
    exact owned.emptyOutside o fun live => dead ((same.live o).mpr live)
  watched := watched.congr fun o => (same.object o).propertyChangedWid
  called := called.congr fun k => congrFun (same.object k.1).callModify k.2

theorem Owned.frame (owned : Owned r) (same : SameObjects r r') (watches : r'.watches = r.watches)
    (calls : r'.calls = r.calls) : Owned r' :=
  owned.sameObjects same (by rw [watches]; exact owned.watched) (by rw [calls]; exact owned.called)

theorem Owned.upkeep (owned : Owned r) (up : Upkeep r r') : Owned r' :=
  owned.frame up.toSameObjects up.watches up.calls

theorem Found.place (found : r.Found o) (same : SamePlace r r') : r'.Found o := by
  refine ⟨(same.live o).mpr found.1, ?_⟩
  rw [same.get, same.path]
  exact found.2

theorem Held.place (held : Held r) (same : SamePlace r r') : Held r' :=
  fun o live => (held o ((same.live o).mp live)).place same

/-! ## Changing an object -/

/-- An object's own data can change freely, its path, watch and calls apart. -/
theorem Owned.modify (owned : Owned r) {f : Object ι ρ → Object ι ρ}
    (path : (f (r.heap o)).path = (r.heap o).path)
    (wid : (f (r.heap o)).propertyChangedWid = (r.heap o).propertyChangedWid)
    (call : (f (r.heap o)).callModify = (r.heap o).callModify) : Owned (r.modify o f) := by
  have samePath : ∀ o', ((r.modify o f).heap o').path = (r.heap o').path := (modify_place path).path
  have sameWid : ∀ o', ((r.modify o f).heap o').propertyChangedWid =
      (r.heap o').propertyChangedWid := by
    intro o'
    rw [heap_modify]
    split
    case isTrue here => rw [wid, here]
    case isFalse => rfl
  have sameCall : ∀ o', ((r.modify o f).heap o').callModify = (r.heap o').callModify := by
    intro o'
    rw [heap_modify]
    split
    case isTrue here => rw [call, here]
    case isFalse => rfl
  exact {
    once := owned.once
    early := owned.early
    allocated := owned.allocated
    entries := fun path o mem => by rw [samePath]; exact owned.entries path o mem
    keys := owned.keys
    selectedLive := owned.selectedLive
    selectedEntry := fun o o' sel mem => by rw [samePath] at mem; exact owned.selectedEntry o o' sel mem
    emptyOutside := fun o dead => by rw [sameWid, sameCall]; exact owned.emptyOutside o dead
    watched := owned.watched.congr sameWid
    called := owned.called.congr fun k => congrFun (sameCall k.1) k.2 }

/-! ## A new object -/

section

theorem next_not_live (r : Registry ι ρ) : ¬ r.Live r.next :=
  fun live => Nat.lt_irrefl _ live.1

variable [PropertyIndex ι] [Inhabited ρ]

theorem live_create (owned : Owned r) (path : String) (o : ObjId) :
    (r.create path).Live o ↔ r.Live o ∨ o = r.next := by
  constructor
  · intro live
    by_cases new : o = r.next
    · exact .inr new
    · exact .inl ⟨Nat.lt_of_le_of_ne (Nat.lt_succ_iff.mp live.1) new, live.2⟩
  · rintro (live | rfl)
    · exact ⟨Nat.lt_succ_of_lt live.1, live.2⟩
    · exact ⟨Nat.lt_succ_self _, fun mem => Nat.lt_irrefl _ (owned.allocated _ mem)⟩

theorem heap_create_of_live (path : String) (live : r.Live o) :
    (r.create path).heap o = r.heap o := by
  have other : o ≠ r.next := fun same => next_not_live r (same ▸ live)
  exact Function.update_of_ne other _ _

theorem Owned.create (owned : Owned r) (absent : r.get path = none) : Owned (r.create path) where
  once := owned.once
  early := owned.early
  allocated o mem := Nat.lt_succ_of_lt (owned.allocated o mem)
  entries path' o mem := by
    rw [live_create owned]
    rcases List.mem_cons.mp mem with new | old
    · cases new
      exact ⟨.inr rfl, by simp [Registry.create]⟩
    · obtain ⟨live, named⟩ := owned.entries path' o old
      exact ⟨.inl live, by rw [heap_create_of_live path live, named]⟩
  keys := by
    simpa [Registry.create] using And.intro (get_none_not_mem absent) owned.keys
  selectedLive o sel := (live_create owned path o).mpr (.inl (owned.selectedLive o sel))
  selectedEntry o o' sel mem := by
    rw [heap_create_of_live path (owned.selectedLive o sel)] at mem
    rcases List.mem_cons.mp mem with new | old
    · cases new
      rw [owned.get_of_selected sel] at absent
      cases absent
    · exact owned.selectedEntry o o' sel old
  emptyOutside o dead := by
    have old : ¬ r.Live o := fun live => dead ((live_create owned path o).mpr (.inl live))
    have other : o ≠ r.next := fun same => dead ((live_create owned path o).mpr (.inr same))
    have same : (r.create path).heap o = r.heap o := Function.update_of_ne other _ _
    rw [same]
    exact owned.emptyOutside o old
  watched := by
    have blank := (owned.emptyOutside r.next (next_not_live r)).1
    refine (owned.watched.attach (a := r.next) rfl blank).congr fun o => ?_
    by_cases new : o = r.next
    · simp [Registry.create, new]
    · simp [Registry.create, new]
  called := by
    have blank := (owned.emptyOutside r.next (next_not_live r)).2
    refine owned.called.congr fun k => ?_
    by_cases new : k.1 = r.next
    · simp [Registry.create, new, Object.blank, blank]
    · simp [Registry.create, new]

theorem Found.create (found : r.Found o) (owned : Owned r) (absent : r.get path = none) :
    (r.create path).Found o := by
  obtain ⟨live, named⟩ := found
  have other : (r.heap o).path ≠ path := by
    rintro same
    rw [same, absent] at named
    cases named
  refine ⟨(live_create owned path o).mpr (.inl live), ?_⟩
  rw [heap_create_of_live path live]
  have selPath : ∀ o', r.selected = some o' → ((r.create path).heap o').path = (r.heap o').path :=
    fun o' sel => by rw [heap_create_of_live path (owned.selectedLive o' sel)]
  unfold get at named ⊢
  have lookup : (r.create path).table.lookup (r.heap o).path = r.table.lookup (r.heap o).path := by
    simp [Registry.create, List.lookup_cons, beq_eq_false_iff_ne.mpr other]
  rw [lookup]
  cases entry : r.table.lookup (r.heap o).path with
  | some o' => simpa [entry] using named
  | none =>
    have sel : (r.create path).selected = r.selected := rfl
    rw [sel]
    cases chosen : r.selected with
    | none => simp [entry, chosen] at named
    | some o' => simpa [entry, chosen, selPath o' chosen] using named

theorem found_created (owned : Owned r) (path : String) : (r.create path).Found r.next := by
  refine ⟨(live_create owned path r.next).mpr (.inr rfl), ?_⟩
  unfold get
  simp [Registry.create]

theorem path_created (r : Registry ι ρ) (path : String) :
    ((r.create path).heap r.next).path = path := by simp [Registry.create]

theorem Held.create (held : Held r) (owned : Owned r) (absent : r.get path = none) :
    Held (r.create path) := by
  intro o live
  rcases (live_create owned path o).mp live with old | rfl
  · exact (held o old).create owned absent
  · exact found_created owned path

end

/-! ## Freeing an object -/

theorem live_storageFree [PropertyIndex ι] [Inhabited ρ] (r : Registry ι ρ) (o o' : ObjId) :
    (r.storageFree o).Live o' ↔ r.Live o' ∧ o' ≠ o := by
  simp only [Live, storageFree, List.mem_cons, not_or]
  tauto

/-- An object that has left the table is freed for good, with its watch and its
calls, unless it is selected. -/
theorem Owned.objectFree [DecidableEq ι] [PropertyIndex ι] [Inhabited ρ]
    (owned : Owned r) (live : r.Live o) (out : ∀ path, (path, o) ∉ r.table) :
    Owned (r.objectFree o) := by
  unfold Registry.objectFree
  split
  case isTrue => exact owned
  case isFalse unselected =>
    obtain ⟨same, watches, _, calls⟩ := releaseHandles_spec o r
    have released : Owned { r.releaseHandles o with
        heap := r.heap, watches := r.watches, calls := r.calls, scans := r.scans } :=
      owned.upkeep
        ⟨⟨same.next, same.freed, same.early, same.table, same.selected, fun _ => .refl _⟩, rfl, rfl, rfl⟩
    have other : ∀ o', o' ≠ o → ((r.releaseHandles o).storageFree o).heap o' = (r.releaseHandles o).heap o' :=
      fun o' ne => Function.update_of_ne ne _ _
    have here : ((r.releaseHandles o).storageFree o).heap o = Object.blank := Function.update_self ..
    have liveAfter : ∀ o', ((r.releaseHandles o).storageFree o).Live o' ↔ r.Live o' ∧ o' ≠ o :=
      fun o' => by rw [live_storageFree, same.live]
    exact {
      once := List.nodup_cons.mpr ⟨same.freed ▸ live.2, released.once⟩
      early := by
        have outside : o ∉ (r.releaseHandles o).table.map Prod.snd := by
          rw [same.table]
          intro mem
          obtain ⟨entry, member, rfl⟩ := List.mem_map.mp mem
          exact out entry.1 member
        have free : ¬ ((r.releaseHandles o).selected = some o ∨ o ∈ (r.releaseHandles o).table.map Prod.snd) :=
          not_or.mpr ⟨by rw [same.selected]; exact unselected, outside⟩
        simp only [storageFree, if_neg free]
        exact released.early
      allocated := fun o' mem => by
        rcases List.mem_cons.mp mem with rfl | old
        · exact same.next ▸ live.1
        · exact released.allocated o' old
      entries := fun path o' mem => by
        have mem : (path, o') ∈ r.table := same.table ▸ mem
        have ne : o' ≠ o := fun eq => out path (eq ▸ mem)
        obtain ⟨live', named⟩ := owned.entries path o' mem
        exact ⟨(liveAfter o').mpr ⟨live', ne⟩, by rw [other o' ne, (same.object o').path, named]⟩
      keys := released.keys
      selectedLive := fun o' sel => by
        have sel : r.selected = some o' := same.selected ▸ sel
        exact (liveAfter o').mpr ⟨owned.selectedLive o' sel, fun eq => unselected (eq ▸ sel)⟩
      selectedEntry := fun o' o'' sel mem => by
        have sel : r.selected = some o' := same.selected ▸ sel
        rw [other o' fun eq => unselected (eq ▸ sel), (same.object o').path] at mem
        exact owned.selectedEntry o' o'' sel (same.table ▸ mem)
      emptyOutside := fun o' dead => by
        by_cases eq : o' = o
        · rw [eq, here]
          exact ⟨rfl, fun _ => rfl⟩
        · rw [other o' eq, (same.object o').propertyChangedWid, (same.object o').callModify]
          exact owned.emptyOutside o' fun live' => dead ((liveAfter o').mpr ⟨live', eq⟩)
      watched := by
        have tracked := owned.watched.detach o
        rw [← watches] at tracked
        refine tracked.congr fun o' => ?_
        by_cases eq : o' = o
        · rw [eq, here, Function.update_self]
          rfl
        · rw [other o' eq, (same.object o').propertyChangedWid, Function.update_of_ne eq]
      called := by
        have tracked := owned.called.releaseAll (PropertyIndex.all.map fun i => (o, i))
        rw [List.map_map] at tracked
        have calls' : (r.releaseHandles o).calls = r.calls.releaseAll (List.map
            ((fun k : ObjId × ι => (r.heap k.1).callModify k.2) ∘ fun i => (o, i)) PropertyIndex.all) :=
          calls
        rw [← calls'] at tracked
        refine tracked.congr fun k => ?_
        by_cases eq : k.1 = o
        · have mem : k ∈ PropertyIndex.all.map fun i => (o, i) :=
            List.mem_map.mpr ⟨k.2, PropertyIndex.mem_all _, by rw [← eq]⟩
          rw [if_pos mem, eq, here]
          rfl
        · have mem : k ∉ PropertyIndex.all.map fun i => (o, i) := by
            intro mem
            obtain ⟨i, _, rfl⟩ := List.mem_map.mp mem
            exact eq rfl
          rw [if_neg mem, other k.1 eq, (same.object k.1).callModify] }

theorem objectFree_table [DecidableEq ι] [PropertyIndex ι] [Inhabited ρ]
    (r : Registry ι ρ) (o : ObjId) : (r.objectFree o).table = r.table := by
  unfold objectFree
  split
  · rfl
  · exact (releaseHandles_spec o r).1.table

theorem objectFree_selected [DecidableEq ι] [PropertyIndex ι] [Inhabited ρ] (r : Registry ι ρ) (o : ObjId) :
    (r.objectFree o).selected = r.selected := by
  unfold objectFree
  split
  · rfl
  · exact (releaseHandles_spec o r).1.selected

theorem objectFree_live [DecidableEq ι] [PropertyIndex ι] [Inhabited ρ] (r : Registry ι ρ) (o o' : ObjId) :
    (r.objectFree o).Live o' ↔ r.Live o' ∧ (o' = o → r.selected = some o) := by
  unfold objectFree
  split
  case isTrue sel => simp [sel]
  case isFalse unselected =>
    rw [live_storageFree, (releaseHandles_spec o r).1.live]
    simp [unselected]

theorem path_objectFree [DecidableEq ι] [PropertyIndex ι] [Inhabited ρ] (other : o' = o → r.selected = some o) :
    ((r.objectFree o).heap o').path = (r.heap o').path := by
  unfold Registry.objectFree
  split
  case isTrue => rfl
  case isFalse unselected =>
    have kept : ((r.releaseHandles o).storageFree o).heap o' = (r.releaseHandles o).heap o' :=
      Function.update_of_ne (fun eq => unselected (other eq)) _ _
    rw [kept, ((releaseHandles_spec o r).1.object o').path]

/-- Freeing an object leaves the others where they are, and the selected one. -/
theorem Found.objectFree [DecidableEq ι] [PropertyIndex ι] [Inhabited ρ]
    (found : r.Found o') (other : o' = o → r.selected = some o) :
    (r.objectFree o).Found o' := by
  refine ⟨(objectFree_live r o o').mpr ⟨found.1, other⟩, ?_⟩
  unfold Registry.objectFree
  split
  case isTrue => exact found.2
  case isFalse unselected =>
    obtain ⟨same, _, _, _⟩ := releaseHandles_spec o r
    have kept : ∀ x, x ≠ o → ((r.releaseHandles o).storageFree o).heap x = (r.releaseHandles o).heap x :=
      fun x ne => Function.update_of_ne ne _ _
    have named := (found.place same.place).2
    rw [kept o' fun eq => unselected (other eq)]
    unfold get at named ⊢
    have table : ((r.releaseHandles o).storageFree o).table = (r.releaseHandles o).table := rfl
    have selected : ((r.releaseHandles o).storageFree o).selected = (r.releaseHandles o).selected := rfl
    rw [table, selected]
    cases entry : (r.releaseHandles o).table.lookup ((r.releaseHandles o).heap o').path with
    | some o₁ => simpa [entry] using named
    | none =>
      cases sel : (r.releaseHandles o).selected with
      | none => simp [entry, sel] at named
      | some o₁ =>
        have ne : o₁ ≠ o := fun eq => unselected (eq ▸ same.selected ▸ sel)
        simpa [entry, sel, kept o₁ ne] using named

/-- Every live object outside `leaving` is found under its path. -/
def HeldBut (r : Registry ι ρ) (leaving : List ObjId) : Prop :=
  ∀ o, r.Live o → o ∉ leaving → r.Found o

theorem HeldBut.held (held : HeldBut r []) : Held r := fun o live => held o live (by simp)

theorem HeldBut.objectFree [DecidableEq ι] [PropertyIndex ι] [Inhabited ρ]
    {leaving : List ObjId} (held : HeldBut r (o :: leaving)) (owned : Owned r) :
    HeldBut (r.objectFree o) leaving := by
  intro o' live stays
  obtain ⟨live, selected⟩ := (objectFree_live r o o').mp live
  by_cases eq : o' = o
  · have found : r.Found o' := ⟨live, owned.get_of_selected (eq ▸ selected eq)⟩
    exact found.objectFree selected
  · exact (held o' live (by simp [eq, stays])).objectFree selected

/-! ## Leaving the table -/

section

/-- The table after `g_hash_table_remove` has dropped an entry. -/
theorem Owned.dropEntry (owned : Owned r) (path : String) :
    Owned { r with table := r.table.filter (·.1 ≠ path) } :=
  { owned with
    entries := fun p o mem => owned.entries p o (List.mem_of_mem_filter mem)
    keys := owned.keys.sublist (List.filter_sublist.map _)
    selectedEntry := fun o o' sel mem => owned.selectedEntry o o' sel (List.mem_of_mem_filter mem) }

theorem Owned.hashRemove [DecidableEq ι] [PropertyIndex ι] [Inhabited ρ] (owned : Owned r) (path : String) :
    Owned (r.hashRemove Registry.objectFree path) := by
  unfold Registry.hashRemove
  cases entry : r.table.lookup path with
  | none => exact owned
  | some o =>
    obtain ⟨live, named⟩ := owned.entries path o (lookup_mem entry)
    refine (owned.dropEntry path).objectFree live fun path' mem => ?_
    obtain ⟨mem, ne⟩ := List.mem_filter.mp mem
    have named' := (owned.entries path' o mem).2
    exact (by simpa using ne : path' ≠ path) (named'.symm.trans named)

/-- An object is still found when the entry of another path is dropped. -/
theorem hashRemove_table [DecidableEq ι] [PropertyIndex ι] [Inhabited ρ] (r : Registry ι ρ) (path : String) :
    (r.hashRemove Registry.objectFree path).table = r.table.filter (·.1 ≠ path) := by
  unfold Registry.hashRemove
  cases entry : r.table.lookup path with
  | none =>
    refine (List.filter_eq_self.mpr fun pair mem => ?_).symm
    have other := List.lookup_eq_none_iff.mp entry pair mem
    simpa using fun same : pair.1 = path => absurd other (by simp [same])
  | some o => exact objectFree_table _ o

theorem Found.dropEntry (found : r.Found o) (other : (r.heap o).path ≠ path) :
    ({ r with table := r.table.filter (·.1 ≠ path) } : Registry ι ρ).Found o := by
  refine ⟨found.1, ?_⟩
  have named := found.2
  unfold get at named ⊢
  simp only [lookup_filter_ne, if_neg other]
  exact named

theorem Found.hashRemove [DecidableEq ι] [PropertyIndex ι] [Inhabited ρ]
    (found : r.Found o) (owned : Owned r) (other : (r.heap o).path ≠ path) :
    (r.hashRemove Registry.objectFree path).Found o := by
  unfold Registry.hashRemove
  cases entry : r.table.lookup path with
  | none => exact found
  | some o' =>
    refine (found.dropEntry other).objectFree fun eq => ?_
    exact absurd (owned.entries path o' (lookup_mem entry)).2 (eq ▸ other)

theorem path_hashRemove [DecidableEq ι] [PropertyIndex ι] [Inhabited ρ]
    (owned : Owned r) (other : (r.heap o).path ≠ path) :
    ((r.hashRemove Registry.objectFree path).heap o).path = (r.heap o).path := by
  unfold Registry.hashRemove
  cases entry : r.table.lookup path with
  | none => rfl
  | some o' =>
    refine path_objectFree (r := { r with table := r.table.filter (·.1 ≠ path) }) fun eq => ?_
    exact absurd (owned.entries path o' (lookup_mem entry)).2 (eq ▸ other)

theorem Held.hashRemove [DecidableEq ι] [PropertyIndex ι] [Inhabited ρ]
    (held : Held r) (owned : Owned r) (path : String) :
    Held (r.hashRemove Registry.objectFree path) := by
  unfold Registry.hashRemove
  cases entry : r.table.lookup path with
  | none => exact held
  | some o =>
    refine HeldBut.held (HeldBut.objectFree (fun o' live stays => ?_) (owned.dropEntry path))
    have found := held o' live
    refine found.dropEntry fun same => ?_
    have named := found.2
    rw [same, owned.get_of_entry (lookup_mem entry)] at named
    cases named
    exact stays (by simp)

theorem Owned.clearTable (owned : Owned r) : Owned { r with table := [] } :=
  { owned with
    entries := fun _ _ mem => by cases mem
    keys := List.nodup_nil
    selectedEntry := fun _ _ _ mem => by cases mem }

/-- Destroying a list of distinct objects that are in no table. -/
theorem freeAll_spec [DecidableEq ι] [PropertyIndex ι] [Inhabited ρ]
    (leaving : List (String × ObjId)) (owned : Owned r) (empty : r.table = [])
    (live : ∀ entry ∈ leaving, r.Live entry.2) (distinct : (leaving.map Prod.snd).Nodup) :
    Owned (leaving.foldl (fun r entry => r.objectFree entry.2) r) ∧
      (HeldBut r (leaving.map Prod.snd) →
        Held (leaving.foldl (fun r entry => r.objectFree entry.2) r)) := by
  induction leaving generalizing r with
  | nil => exact ⟨owned, HeldBut.held⟩
  | cons entry leaving ih =>
    rw [List.map_cons, List.nodup_cons] at distinct
    have owned' : Owned (r.objectFree entry.2) :=
      owned.objectFree (live entry (by simp)) fun path mem => by rw [empty] at mem; cases mem
    have live' : ∀ later ∈ leaving, (r.objectFree entry.2).Live later.2 := by
      intro later mem
      refine (objectFree_live r entry.2 later.2).mpr ⟨live later (by simp [mem]), fun same => ?_⟩
      exact absurd (List.mem_map.mpr ⟨later, mem, same⟩) distinct.1
    obtain ⟨after, heldAfter⟩ := ih owned' (by rw [objectFree_table, empty]) live' distinct.2
    exact ⟨after, fun held => heldAfter (held.objectFree owned)⟩

theorem Owned.values_nodup (owned : Owned r) : (r.table.map Prod.snd).Nodup := by
  have keys := owned.keys
  have entries := owned.entries
  revert keys entries
  induction r.table with
  | nil => simp
  | cons entry rest ih =>
    intro keys entries
    rw [List.map_cons, List.nodup_cons] at keys ⊢
    refine ⟨fun mem => ?_, ih keys.2 fun path o mem => entries path o (by simp [mem])⟩
    obtain ⟨other, member, same⟩ := List.mem_map.mp mem
    have first := (entries entry.1 entry.2 (by simp)).2
    have second := (entries other.1 other.2 (by simp [member])).2
    rw [same, first] at second
    exact keys.1 (second ▸ List.mem_map_of_mem member)

variable [DecidableEq ι] [PropertyIndex ι] [Inhabited ρ]

theorem Owned.hashRemoveAll (owned : Owned r) : Owned (r.hashRemoveAll Registry.objectFree) :=
  (freeAll_spec r.table owned.clearTable rfl (fun _ mem => (owned.entries _ _ mem).1)
    owned.values_nodup).1

theorem hashRemoveAll_table (r : Registry ι ρ) : (r.hashRemoveAll Registry.objectFree).table = [] := by
  unfold Registry.hashRemoveAll
  suffices fold : ∀ (leaving : List (String × ObjId)) (r : Registry ι ρ), r.table = [] →
      (leaving.foldl (fun r entry => r.objectFree entry.2) r).table = [] from fold _ _ rfl
  intro leaving
  induction leaving with
  | nil => exact fun _ empty => empty
  | cons entry leaving ih =>
    intro r empty
    exact ih _ (by rw [objectFree_table, empty])

theorem hashRemoveAll_selected (r : Registry ι ρ) :
    (r.hashRemoveAll Registry.objectFree).selected = r.selected := by
  unfold Registry.hashRemoveAll
  suffices fold : ∀ (leaving : List (String × ObjId)) (r : Registry ι ρ),
      (leaving.foldl (fun r entry => r.objectFree entry.2) r).selected = r.selected from fold _ _
  intro leaving
  induction leaving with
  | nil => exact fun _ => rfl
  | cons entry leaving ih =>
    intro r
    rw [List.foldl_cons, ih, objectFree_selected]

theorem Held.hashRemoveAll (held : Held r) (owned : Owned r) :
    Held (r.hashRemoveAll Registry.objectFree) := by
  refine (freeAll_spec r.table owned.clearTable rfl (fun _ mem => (owned.entries _ _ mem).1)
    owned.values_nodup).2 fun o live stays => ⟨live, ?_⟩
  have found := owned.get_spec (held o live).2
  rcases found.2.2 with mem | sel
  · exact absurd (List.mem_map.mpr ⟨_, mem, rfl⟩) stays
  · unfold get
    simp [show r.selected = some o from sel]

end

/-! ## Selecting and deselecting -/

section

theorem Owned.select (owned : Owned r) (found : r.get path = some o) : Owned (r.select o) := by
  obtain ⟨live, named, _⟩ := owned.get_spec found
  refine { owned with
    selectedLive := fun o' sel => by cases sel; exact live
    selectedEntry := fun o' o'' sel mem => ?_ }
  cases sel
  have mem : ((r.heap o).path, o'') ∈ r.table := mem
  rw [named] at mem
  rw [owned.get_of_entry mem] at found
  cases found
  rfl

/-- An object stays found when another is selected, unless only the selection
held it. -/
theorem Found.select (found : r.Found o') (owned : Owned r)
    (kept : r.selected = some o' → o' = o ∨ ((r.heap o').path, o') ∈ r.table) :
    (r.select o).Found o' := by
  refine ⟨found.1, ?_⟩
  obtain ⟨_, _, inTable | sel⟩ := owned.get_spec found.2
  · unfold get
    have entry : (r.select o).table.lookup ((r.select o).heap o').path = some o' :=
      owned.lookup_iff.mpr inTable
    rw [entry]
  · rcases kept sel with rfl | inTable
    · unfold get
      have named := found.2
      unfold get at named
      have selected : (r.select o').selected = some o' := rfl
      have table : (r.select o').table = r.table := rfl
      have heap : (r.select o').heap = r.heap := rfl
      rw [selected, table, heap]
      cases entry : r.table.lookup (r.heap o').path with
      | some o₁ => simpa [entry] using named
      | none => simp
    · unfold get
      have entry : (r.select o).table.lookup ((r.select o).heap o').path = some o' :=
        owned.lookup_iff.mpr inTable
      rw [entry]

/-- Selecting does not orphan what was selected: nothing was, or the same
object, or one the table still holds. -/
def Hands (r : Registry ι ρ) (o : ObjId) : Prop :=
  ∀ o', r.selected = some o' → o' = o ∨ ((r.heap o').path, o') ∈ r.table

instance : Decidable (r.Hands o) :=
  inferInstanceAs (Decidable (∀ o' ∈ r.selected, o' = o ∨ ((r.heap o').path, o') ∈ r.table))

theorem Held.select (held : Held r) (owned : Owned r) (hands : r.Hands o) : Held (r.select o) :=
  fun o' live => (held o' live).select owned (hands o')

theorem Owned.unselect (owned : Owned r) : Owned { r with selected := none } :=
  { owned with
    selectedLive := fun _ sel => by cases sel
    selectedEntry := fun _ _ sel => by cases sel }

variable [DecidableEq ι] [PropertyIndex ι] [Inhabited ρ]

theorem Owned.deselect (owned : Owned r) : Owned r.deselect := by
  unfold Registry.deselect
  cases sel : r.selected with
  | none => exact owned
  | some o =>
    dsimp only
    split
    case h_2 => exact owned.unselect
    case h_1 absent =>
      refine owned.unselect.objectFree (owned.selectedLive o sel) fun path mem => ?_
      obtain ⟨_, named⟩ := owned.entries path o mem
      have found := owned.unselect.get_of_entry mem
      have named : (({ r with selected := none } : Registry ι ρ).heap o).path = path := named
      rw [named, found] at absent
      cases absent

theorem deselect_selected (r : Registry ι ρ) : r.deselect.selected = none := by
  unfold Registry.deselect
  cases sel : r.selected with
  | none => exact sel
  | some o =>
    dsimp only
    split
    · exact objectFree_selected _ o
    · rfl

/-- What the table holds survives a deselection. -/
theorem Found.deselect (owned : Owned r) (inTable : ((r.heap o').path, o') ∈ r.table) :
    r.deselect.Found o' := by
  have live := (owned.entries _ _ inTable).1
  unfold Registry.deselect
  cases sel : r.selected with
  | none => exact ⟨live, owned.get_of_entry inTable⟩
  | some o =>
    have found : ({ r with selected := none } : Registry ι ρ).Found o' :=
      ⟨live, owned.unselect.get_of_entry inTable⟩
    dsimp only
    split
    case h_2 => exact found
    case h_1 absent =>
      refine found.objectFree fun eq => ?_
      subst eq
      exact absurd (found.2.symm.trans absent) (by simp)

theorem Held.deselect (held : Held r) (owned : Owned r) : Held r.deselect := by
  intro o' live
  by_cases inTable : ((r.heap o').path, o') ∈ r.table
  · exact Found.deselect owned inTable
  · cases sel : r.selected with
    | none =>
      unfold Registry.deselect at live ⊢
      rw [sel] at live ⊢
      exact held o' live
    | some o =>
      unfold Registry.deselect at live ⊢
      rw [sel] at live ⊢
      dsimp only at live ⊢
      split at live
      case h_1 absent =>
        obtain ⟨before, other⟩ := (objectFree_live _ o o').mp live
        obtain ⟨_, _, mem | same⟩ := owned.get_spec (held o' before).2
        · exact absurd mem inTable
        · rw [sel] at same
          cases same
          cases other rfl
      case h_2 o₁ found =>
        obtain ⟨_, _, mem | same⟩ := owned.get_spec (held o' live).2
        · exact absurd mem inTable
        · rw [sel] at same
          cases same
          obtain ⟨_, _, mem | none⟩ := owned.unselect.get_spec found
          · rw [owned.selectedEntry o' o₁ sel mem] at mem
            exact absurd mem inTable
          · cases none

end

/-! ## Calls -/

theorem Owned.storeCall [DecidableEq ι] (owned : Owned r) {calls : Pool (PropertySetting ι)} {id : Nat}
    (called : calls.Tracks PropertySetting.slot
      (Function.update (fun k => (r.heap k.1).callModify k.2) (o, i) id)) (live : r.Live o) :
    Owned (Registry.modify { r with calls := calls } o fun obj =>
      { obj with callModify := Function.update obj.callModify i id }) := by
  have samePath : ∀ o', ((Registry.modify { r with calls := calls } o fun obj =>
      { obj with callModify := Function.update obj.callModify i id }).heap o').path =
      (r.heap o').path := by
    intro o'
    rw [heap_modify]
    split
    case isTrue here => rw [here]
    case isFalse => rfl
  have sameWid : ∀ o', ((Registry.modify { r with calls := calls } o fun obj =>
      { obj with callModify := Function.update obj.callModify i id }).heap o').propertyChangedWid =
      (r.heap o').propertyChangedWid := by
    intro o'
    rw [heap_modify]
    split
    case isTrue here => rw [here]
    case isFalse => rfl
  exact {
    once := owned.once
    early := owned.early
    allocated := owned.allocated
    entries := fun path o mem => by rw [samePath]; exact owned.entries path o mem
    keys := owned.keys
    selectedLive := owned.selectedLive
    selectedEntry := fun o o' sel mem => by rw [samePath] at mem; exact owned.selectedEntry o o' sel mem
    emptyOutside := fun o' dead => by
      have other : o' ≠ o := fun same => dead (same ▸ live)
      rw [sameWid, heap_modify, if_neg other]
      exact owned.emptyOutside o' dead
    watched := owned.watched.congr sameWid
    called := called.congr fun k => by
      rw [heap_modify]
      by_cases here : k.1 = o
      · by_cases index : k.2 = i
        · have : k = (o, i) := Prod.ext here index
          simp [this]
        · have : k ≠ (o, i) := fun eq => index (congrArg Prod.snd eq)
          simp [here, index, this]
      · have : k ≠ (o, i) := fun eq => here (congrArg Prod.fst eq)
        simp [here, this] }

theorem Owned.sendSetProperty [DecidableEq ι] (owned : Owned r) (live : r.Live o) (i : ι) (outcome : SendOutcome) :
    Owned (r.sendSetProperty o i outcome).1 := by
  unfold Registry.sendSetProperty
  split
  case isTrue => exact owned
  case isFalse idle =>
    have idle : (r.heap o).callModify i = 0 := not_not.mp idle
    have cleared : r.calls.Tracks PropertySetting.slot
        (Function.update (fun k => (r.heap k.1).callModify k.2) (o, i) 0) :=
      owned.called.congr fun k => by
        by_cases eq : k = (o, i)
        · simp [eq, idle]
        · simp [eq]
    cases outcome with
    | noMessage => exact owned
    | noSetting => exact owned
    | refused => exact owned.storeCall cleared live
    | noPending => exact owned.storeCall cleared live
    | noNotify => exact owned.storeCall (owned.called.attach (a := ⟨o, i, false⟩) rfl idle) live
    | sent => exact owned.storeCall (owned.called.attach (a := ⟨o, i, true⟩) rfl idle) live

theorem Owned.setPropertyReply [DecidableEq ι] [PropertyIndex ι] {call : Nat} {failed : Bool} (owned : Owned r)
    (ran : r.setPropertyReply call failed = some r') : Owned r' := by
  unfold Registry.setPropertyReply at ran
  split at ran
  case h_2 => cases ran
  case h_1 o i found =>
    cases ran
    have stored : (r.heap o).callModify i = call := owned.called.stored call _ (o, i) found rfl
    have live : r.Live o := owned.call_live found
    have emptied := owned.called.detach (o, i)
    simp only [stored] at emptied
    have before := owned.storeCall emptied live
    unfold setPropertyCb
    dsimp only
    split
    · exact before
    · split
      · exact before.upkeep ((sourceRemove_if_upkeep _ _).trans (attachChange_upkeep _ _ _))
      · exact before

end ConnmanUi.Registry
