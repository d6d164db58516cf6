import ConnmanUi.WatchOps

/-!
The functions of `gdbus/watch.c`, as operations on the listeners.

Adding and removing watches is such a sequence of operations, of which a removal
takes out the watch that is asked for and, with a listener that is emptied, the
watch of its name, which has no functions (`Orderly.removeWatch_ops`).
-/

namespace ConnmanUi.Watch

open Keyed Run

variable {s s' s'' : State} {d d' : FilterData} {cb : FilterCallback} {c : Scope} {answers : Answers}

/-! ## The functions, as operations -/

theorem Table.set_op (table : Table s) (mem : d ∈ s.listeners) (changed : Changed c.turns d d')
    (name : d'.nameWatch = d.nameWatch) : Op c s (s.setListener d') := by
  obtain ⟨front, back, split, replaced⟩ := table.ordered.replace mem changed.key
  unfold State.setListener
  rw [replaced]
  refine .change _ ?_ fun quiet a there => ?_
  · rw [split]
    have same : ∀ l : List FilterData, List.Forall₂ (Changed c.turns) l l := fun l =>
      List.forall₂_same.mpr fun d _ => .refl d
    exact List.rel_append (same front) (.cons changed (same back))
  · rcases List.mem_append.mp there with before | rest
    · exact quiet a (by simp [split, before])
    · rcases List.mem_cons.mp rest with rfl | after
      · exact name ▸ quiet d mem
      · exact quiet a (by simp [split, after])

theorem Table.mem_set (table : Table s) (mem : d ∈ s.listeners) (key : d'.key = d.key) :
    d' ∈ (s.setListener d').listeners := by
  obtain ⟨front, back, _, replaced⟩ := table.ordered.replace mem key
  unfold State.setListener
  rw [replaced]
  exact List.mem_append_right _ List.mem_cons_self

theorem mem_setListener (mem : d' ∈ (s.setListener d).listeners) : d' = d ∨ d' ∈ s.listeners ∧ d'.key ≠ d.key := by
  obtain ⟨old, there, same⟩ := List.mem_map.mp mem
  split at same
  · exact .inl same.symm
  case isFalse other =>
    subst same
    exact .inr ⟨there, other⟩

/-- All listeners change at once. -/
theorem map_op {g : FilterData → FilterData} (changed : ∀ d, Changed c.turns d (g d))
    (named : Quiet s → ∀ d ∈ s.listeners, Named s (g d).nameWatch) : Op c s { s with listeners := s.listeners.map g } := by
  refine .change _ (List.forall₂_map_right_iff.mpr (List.forall₂_same.mpr fun d _ => changed d)) fun quiet a there => ?_
  obtain ⟨d, mem, rfl⟩ := List.mem_map.mp there
  exact named quiet d mem

theorem updateNameCache_op (name owner : String) : Op c s (updateNameCache s name owner) := by
  refine map_op (fun d => ?_) fun quiet d mem => ?_
  · split
    case isTrue named =>
      exact ⟨rfl, rfl, rfl, fun none => absurd (named.symm.trans none) (Option.some_ne_none _), .refl _, id,
        fun _ => ⟨rfl, rfl, rfl⟩⟩
    case isFalse => exact .refl d
  · split <;> exact quiet d mem

theorem modifyCallback_op (id : Nat) {g : FilterCallback → FilterCallback} (kept : ∀ cb, (g cb).bare = cb.bare) :
    Op c s (s.modifyCallback id g) := by
  have same : ∀ l : List FilterCallback,
      (l.map fun cb => if cb.id = id then g cb else cb).map FilterCallback.bare = l.map FilterCallback.bare := by
    intro l
    rw [List.map_map]
    refine List.map_congr_left fun cb _ => ?_
    dsimp only [Function.comp]
    split
    · exact kept cb
    · rfl
  refine map_op (fun d => ⟨rfl, rfl, rfl, fun _ => rfl, ?_, fun unlocked free => ?_, fun _ => ⟨rfl, same _, same _⟩⟩)
    fun quiet d mem => quiet d mem
  · unfold FilterData.watches
    rw [List.map_append, List.map_append, same, same]
  · rw [unlocked free]
    rfl

theorem serviceDataFree_op (id : Nat) : Op c s (serviceDataFree s id) := modifyCallback_op id fun _ => rfl

theorem checkService_ops (name : String) (id : Nat) (lookup : Lookup) :
    Ops c s (checkService s name id lookup) := by
  have stored : ∀ data, Ops c s (s.modifyCallback id fun cb => { cb with data := data }) := fun data =>
    (modifyCallback_op id (g := fun cb => { cb with data := data }) fun _ => rfl).ops
  unfold checkService
  split
  · exact .refl
  · dsimp only
    split
    · exact stored .idle
    · split
      · exact stored .call
      · exact stored .freed

theorem shaped_sentBy (connection : Nat) (sender path interface member : Option String) :
    Shaped .signalFilter (sentBy connection sender path interface member none) := by
  unfold sentBy
  split
  · exact fun argument => absurd rfl argument
  · split
    · exact fun argument => absurd rfl argument
    · exact fun argument => absurd rfl argument

theorem shaped_properties (connection : Nat) (sender path member argument : Option String) :
    Shaped .signalFilter (sentBy connection sender path (some "org.freedesktop.DBus.Properties") member argument) := by
  unfold sentBy
  split
  · exact fun _ => rfl
  · split
    · exact fun _ => rfl
    · exact fun _ => rfl

/-- The filter is on the connection. -/
def install (s : State) (connection : Nat) : State :=
  { s with filters := if filterDataFind s connection then s.filters else connection :: s.filters }

/-- What comes of getting a listener: the filter is refused, it is there, it is
new, or its rule is refused. -/
inductive Gets (s : State) (handle : HandleFunc) (m : Match) (answers : Answers) : State × Option Nat → Prop where
  | noFilter (refused : answers.filterAdded = false) : Gets s handle m answers (s, none)
  | found (d : FilterData) (mem : d ∈ s.listeners) (what : d.toMatch = m) :
      Gets s handle m answers (install s m.connection, some d.key)
  | new (added : answers.matchAdded (formatRule m) = true) :
      Gets s handle m answers ({ install s m.connection with
        rules := (m.connection, formatRule m) :: s.rules
        listeners := s.listeners ++ [{ m with key := s.next, handleFunc := handle }]
        next := s.next + 1 }, some s.next)
  | noRule (refused : answers.matchAdded (formatRule m) = false) :
      Gets s handle m answers (install s m.connection, none)

theorem filterDataGet_gets (s : State) (handle : HandleFunc) (m : Match) (answers : Answers) :
    Gets s handle m answers (filterDataGet s handle m answers) := by
  have installed : (if filterDataFind s m.connection = true then s
      else { s with filters := m.connection :: s.filters }) = install s m.connection := by
    unfold install
    split
    · rfl
    · rfl
  unfold filterDataGet
  split
  case isTrue refused => exact .noFilter (by simpa using (Bool.and_eq_true_iff.mp refused).2)
  case isFalse =>
    dsimp only
    rw [installed]
    split
    case h_1 data found =>
      exact .found data (List.mem_of_find?_eq_some found) (by simpa using List.find?_some found)
    case h_2 =>
      unfold addMatch
      split
      case isTrue added => exact .new added
      case isFalse refused => exact .noRule (Bool.eq_false_of_not_eq_true refused)

/-- The listener got is there and is what was asked for. -/
theorem filterDataGet_ops {handle : HandleFunc} {m : Match} (shaped : Shaped handle m) (answers : Answers) :
    Ops c s (filterDataGet s handle m answers).1 ∧
      (filterDataGet s handle m answers).1.listenerId = s.listenerId ∧
      ∀ key ∈ (filterDataGet s handle m answers).2, ∃ d ∈ (filterDataGet s handle m answers).1.listeners,
        d.key = key ∧ d.toMatch = m := by
  have first : Ops c s (install s m.connection) := (Op.bus _ s.rules).ops
  have gets := filterDataGet_gets s handle m answers
  generalize filterDataGet s handle m answers = got at gets ⊢
  cases gets with
  | noFilter => exact ⟨.refl, rfl, nofun⟩
  | found d mem what => exact ⟨first, rfl, fun key got => ⟨d, mem, Option.some.inj got, what⟩⟩
  | new =>
    have ruled : Ops c s { install s m.connection with rules := (m.connection, formatRule m) :: s.rules } :=
      first.tail (.bus _ _)
    refine ⟨ruled.tail (.listen handle m shaped), rfl, fun key got => ?_⟩
    exact ⟨_, List.mem_append_right _ (List.mem_singleton_self _), Option.some.inj got, rfl⟩
  | noRule => exact ⟨first, rfl, nofun⟩

/-- There are ids left for a watch and the watch of its name. -/
def Room (s : State) : Prop := s.listenerId + 2 < 2 ^ 32

theorem nextId_eq (room : s.listenerId + 1 < 2 ^ 32) : nextId s = s.listenerId + 1 := Nat.mod_eq_of_lt room

theorem Table.addCallback_op (table : Table s) (mem : d ∈ s.listeners) (room : s.listenerId + 1 < 2 ^ 32)
    (cb : FilterCallback) : Op c s (filterDataAddCallback s d.key cb) ∧
      (filterDataAddCallback s d.key cb).listenerId = s.listenerId + 1 ∧
      (filterDataAddCallback s d.key cb).watches.Perm
        (({ cb with id := s.listenerId + 1 } : FilterCallback).bare :: s.watches) := by
  have added : filterDataAddCallback s d.key cb =
      State.setListener { s with listenerId := nextId s } (d.add { cb with id := nextId s }) := by
    unfold filterDataAddCallback
    dsimp only
    rw [table.listener mem]
  have key := d.add_key { cb with id := nextId s }
  obtain ⟨front, back, split, replaced⟩ := table.ordered.replace mem key
  rw [added]
  unfold State.setListener
  dsimp only
  rw [replaced, nextId_eq room]
  refine ⟨.add front d back { cb with id := s.listenerId + 1 } split rfl, rfl, ?_⟩
  have before := watches_split split
  exact (watches_split rfl).trans (((d.add_watches _).append_right _).trans (.cons _ before.symm))

theorem findCallback_spec {id : Nat} (found : s.findCallback id = some (d, cb)) :
    d ∈ s.listeners ∧ cb ∈ d.callbacks ++ d.processed ∧ cb.id = id := by
  obtain ⟨_, data, _, split, there, _⟩ := List.findSome?_eq_some_iff.mp found
  obtain ⟨cb', mem, same⟩ := Option.map_eq_some_iff.mp there
  obtain ⟨rfl, rfl⟩ := Prod.mk.inj same
  exact ⟨by rw [split]; simp, List.mem_of_find?_eq_some mem, by simpa using List.find?_some mem⟩

theorem findCallback_none {id : Nat} (none : s.findCallback id = none) : ∀ w ∈ s.watches, w.id ≠ id := by
  intro w there same
  obtain ⟨d, mem, own⟩ := List.mem_flatMap.mp there
  obtain ⟨cb, inside, bare⟩ := List.mem_map.mp own
  have missing := List.findSome?_eq_none_iff.mp none d mem
  rw [Option.map_eq_none_iff] at missing
  have other : cb.id ≠ id := by simpa using List.find?_eq_none.mp missing cb inside
  exact other (by rw [← same, ← bare]; rfl)

theorem Table.dropCallback_op (table : Table s) (mem : d ∈ s.listeners) (own : cb ∈ d.callbacks ++ d.processed)
    (gone : c.gone cb.bare) : Op c s (dropCallback s d cb) ∧ d.remove cb.id ∈ (dropCallback s d cb).listeners := by
  obtain ⟨front, back, split, replaced⟩ := table.ordered.replace mem (show (d.remove cb.id).key = d.key from rfl)
  have op := Op.remove (c := c) front d back cb split own gone
  unfold dropCallback State.note State.setListener
  dsimp only
  rw [replaced]
  have there : d.remove cb.id ∈ front ++ d.remove cb.id :: back := List.mem_append_right _ List.mem_cons_self
  split
  case isTrue destroys =>
    rw [if_pos destroys] at op
    exact ⟨op, there⟩
  case isFalse keeps =>
    rw [if_neg keeps] at op
    exact ⟨op, there⟩

theorem dropCallback_same (d : FilterData) (cb : FilterCallback) :
    (dropCallback s d cb).listeners = (s.setListener (d.remove cb.id)).listeners ∧
      (dropCallback s d cb).listenerId = s.listenerId := by
  unfold dropCallback
  dsimp only
  split <;> exact ⟨rfl, rfl⟩

theorem removeMatch_op (m : Match) (answers : Answers) : Op c s (removeMatch s m answers).1 ∧
    (removeMatch s m answers).1.listeners = s.listeners := by
  unfold removeMatch
  split
  · exact ⟨.bus s.filters _, rfl⟩
  · exact ⟨.bus s.filters s.rules, rfl⟩

theorem removeFilter_op {connection : Nat} (ran : removeFilter s connection = .ok s') : Op c s s' := by
  unfold removeFilter at ran
  split at ran
  · cases ran
    exact .bus _ s.rules
  · cases ran

theorem removeListener_ops (mem : d' ∈ s.listeners) (key : d'.key = d.key) (empty : d'.watches = []) (free : d'.lock = false)
    (ran : removeListener (removeMatch s d.toMatch answers).1 d = .ok s') : Ops c s s' := by
  obtain ⟨unmatched, same⟩ := removeMatch_op (c := c) (s := s) d.toMatch answers
  rw [← same] at mem
  have gone := unmatched.ops.tail (.unlisten d' mem empty free)
  rw [key] at gone
  unfold removeListener at ran
  dsimp only at ran
  split at ran
  · cases ran
    exact gone
  · exact gone.tail (removeFilter_op ran)

theorem removeListener_listeners (ran : removeListener s d = .ok s') :
    s'.listeners = s.listeners.filter (·.key ≠ d.key) := by
  unfold removeListener removeFilter at ran
  dsimp only at ran
  split at ran
  · cases ran
    rfl
  · split at ran
    · cases ran
      rfl
    · cases ran

theorem Table.empty (table : Table s) (mem : d ∈ s.listeners) (none : d.callbacks = []) (free : d.lock = false) :
    d.watches = [] := by
  unfold FilterData.watches
  rw [none, table.unlocked d mem free]
  rfl

/-- It is the watch that an emptied listener has of its name, and goes with it. -/
structure Orphaned (s s' : State) (cb : FilterCallback) : Prop where
  silent : Silent cb
  emptied : ∃ d ∈ s.listeners, d.nameWatch = cb.id ∧ ∀ a ∈ s'.listeners, a.key ≠ d.key

/-- The callback leaves its listener, and the listener the list if it is the
last, with the watch of its name. -/
theorem Orderly.removeCallback_ops {freeing : State → Nat → Except Fault State} (orderly : Orderly s)
    (mem : d ∈ s.listeners) (own : cb ∈ d.callbacks ++ d.processed) (gone : c.gone cb.bare)
    (frees : ∀ t, Orderly t → Named t d.nameWatch → (∀ a ∈ t.listeners, a ∈ s.listeners ∧ a.key ≠ d.key) →
      d.key < t.next → freeing t d.nameWatch = .ok s' → Ops c t s')
    (ran : filterDataRemoveCallback s freeing answers d cb = .ok s') : Ops c s s' := by
  obtain ⟨dropped, there⟩ := orderly.table.dropCallback_op (c := c) mem own gone
  have orderly' := dropped.orderly orderly
  unfold filterDataRemoveCallback at ran
  split at ran
  · cases ran
  split at ran
  · cases ran
    exact dropped.ops
  case isFalse last =>
    obtain ⟨none, free⟩ := not_or.mp last
    have unlocked : d.lock = false := by simpa using free
    have empty := orderly'.table.empty there (not_not.mp none) unlocked
    dsimp only at ran
    split at ran
    case isFalse =>
      cases ran
      exact dropped.ops.tail (removeMatch_op d.toMatch answers).1
    case isTrue =>
      obtain ⟨t, removed, freed⟩ := bind_ok ran
      have left : Ops c s t := dropped.ops.trans (removeListener_ops there rfl empty unlocked removed)
      have rest : ∀ a ∈ t.listeners, a ∈ s.listeners ∧ a.key ≠ d.key := by
        intro a inside
        rw [removeListener_listeners removed, (removeMatch_op (c := .free) d.toMatch answers).2,
          (dropCallback_same d cb).1] at inside
        obtain ⟨inside, other⟩ := List.mem_filter.mp inside
        have other : a.key ≠ d.key := of_decide_eq_true other
        rcases mem_setListener inside with rfl | ⟨old, _⟩
        · exact absurd rfl other
        · exact ⟨old, other⟩
      exact left.trans (frees t (Ops.orderly left orderly) (Ops.named left (orderly.quiet d mem)) rest
        ((orderly.table.below d mem).trans_le (Ops.counters left).2) freed)

/-- What is removed is the watch that is asked for, and those of the names of
emptied listeners. -/
theorem Orderly.removeWatch_ops (rounds : Nat) (orderly : Orderly s) {id : Nat}
    (orphaned : ∀ cb, Orphaned s s' cb → c.gone cb) (asked : ∀ cb ∈ s.watches, cb.id = id → c.gone cb)
    (ran : removeWatch answers rounds s id = .ok s') : Ops c s s' := by
  induction rounds generalizing s id c with
  | zero =>
    cases ran
    exact .refl
  | succ rounds ih =>
    unfold removeWatch at ran
    split at ran
    · cases ran
      exact .refl
    split at ran
    case h_1 => cases ran; exact .refl
    case h_2 data cb found =>
      obtain ⟨mem, own, same⟩ := findCallback_spec found
      refine orderly.removeCallback_ops mem own (asked _ (mem_watches mem own) same)
        (fun t orderly' named rest below ran' => ?_) ran
      have emptied : ∀ a ∈ s'.listeners, a.key ≠ data.key :=
        Ops.absent (ih (c := .free) orderly' (fun _ _ => trivial) (fun _ _ _ => trivial) ran') below
          fun a there => (rest a there).2
      refine ih orderly' (fun w orphan => orphaned w ⟨orphan.silent, ?_⟩) (fun w mem' same' => orphaned w ?_) ran'
      · obtain ⟨a, there, watch, left⟩ := orphan.emptied
        exact ⟨a, (rest a there).1, watch, left⟩
      · exact ⟨named.silent w mem' same', data, mem, same'.symm, emptied⟩

/-- The id a watch gets is that of the new callback. -/
theorem Orderly.addServiceWatch_ops (orderly : Orderly s) (room : s.listenerId + 1 < 2 ^ 32) (connection : Nat)
    (name : String) (connect disconnect destroy : Bool) (answers : Answers) (lookup : Lookup) :
    Ops c s (gDbusAddServiceWatch s connection name connect disconnect destroy answers lookup).1 := by
  have shaped : Shaped .serviceFilter (sentBy connection none none (some "org.freedesktop.DBus")
      (some "NameOwnerChanged") (some name)) := ⟨connection, name, rfl⟩
  obtain ⟨got, same, there⟩ := filterDataGet_ops (c := c) (s := s) shaped answers
  unfold gDbusAddServiceWatch
  dsimp only
  split
  case h_1 => exact got
  case h_2 key found =>
    obtain ⟨d, mem, rfl, _⟩ := there key found
    have added := ((Ops.orderly got orderly).table.addCallback_op (c := c) mem (same ▸ room)
      { id := 0, connFunc := connect, discFunc := disconnect, destroyFunc := destroy }).1
    split
    · exact (got.tail added).trans (checkService_ops name _ lookup)
    · exact got.tail added

/-- A watch of a name without functions is silent. -/
theorem Orderly.addServiceWatch_named (orderly : Orderly s) (room : s.listenerId + 1 < 2 ^ 32) (connection : Nat)
    (name : String) (answers : Answers) (lookup : Lookup) :
    Named (gDbusAddServiceWatch s connection name false false false answers lookup).1
      (gDbusAddServiceWatch s connection name false false false answers lookup).2 := by
  have shaped : Shaped .serviceFilter (sentBy connection none none (some "org.freedesktop.DBus")
      (some "NameOwnerChanged") (some name)) := ⟨connection, name, rfl⟩
  obtain ⟨got, same, there⟩ := filterDataGet_ops (c := .free) (s := s) shaped answers
  have orderly' := Ops.orderly got orderly
  unfold gDbusAddServiceWatch
  dsimp only
  split
  case h_1 => exact orderly'.numbered.zero
  case h_2 key found =>
    obtain ⟨d, mem, rfl, _⟩ := there key found
    obtain ⟨_, next, all⟩ := orderly'.table.addCallback_op (c := .free) mem (same ▸ room) { id := 0 }
    rw [if_neg Bool.false_ne_true]
    dsimp only
    rw [nextId_eq (same ▸ room)]
    refine ⟨next ▸ Nat.le_refl _, fun cb there' own => ?_⟩
    rcases List.mem_cons.mp (all.subset there') with rfl | old
    · exact ⟨rfl, rfl, rfl, rfl⟩
    · exact absurd (own ▸ (orderly'.numbered.given cb old).2) (Nat.not_succ_le_self _)

theorem Orderly.addSignalWatch_ops (orderly : Orderly s) (room : Room s) {m : Match} (shaped : Shaped .signalFilter m)
    (function destroy : Bool) (answers : Answers) :
    Ops c s (addSignalWatch s m function destroy answers).1 := by
  obtain ⟨got, same, there⟩ := filterDataGet_ops (c := c) (s := s) shaped answers
  unfold addSignalWatch
  dsimp only
  split
  case h_1 => exact got
  case h_2 key found =>
    obtain ⟨d, mem, rfl, _⟩ := there key found
    have below : s.listenerId + 1 < 2 ^ 32 := Nat.lt_of_succ_lt room
    obtain ⟨op, next, _⟩ := (Ops.orderly got orderly).table.addCallback_op (c := c) mem (same ▸ below)
      { id := 0, signalFunc := function, destroyFunc := destroy }
    have added : Ops c s _ := got.tail op
    have orderly' := Ops.orderly added orderly
    rw [same] at next
    split
    case h_1 => exact added
    case h_2 data _ =>
      split
      case h_1 => exact added
      case h_2 name _ =>
        split
        · exact added
        · have watched := orderly'.addServiceWatch_ops (c := c) (by rw [next]; exact room) data.connection name false false
            false answers .sent
          have named := orderly'.addServiceWatch_named (by rw [next]; exact room) data.connection name answers .sent
          refine (added.trans watched).tail (map_op (fun old => ?_) fun quiet old mem' => ?_)
          · split
            · exact ⟨rfl, rfl, rfl, fun _ => rfl, .refl _, id, fun _ => ⟨rfl, rfl, rfl⟩⟩
            · exact .refl old
          · split
            · exact named
            · exact quiet old mem'

end ConnmanUi.Watch
