import ConnmanUi.WatchCareful

/-!
The records of the callbacks.

The operations on listeners leave open what a callback remembers of its lookup.
Here its whole record is followed: no step makes a new one but those that add a
watch, and only its own lookup changes it (`Turn.records`).
-/

namespace ConnmanUi.Watch

open Keyed Run

variable {s s' t : State} {d d' : FilterData} {cb : FilterCallback} {answers : Answers} {f : Filtering} {stage : Stage}
  {e : Event} {m : Match}

def FilterData.own (d : FilterData) : List FilterCallback := d.callbacks ++ d.processed

/-- All the callbacks there are. -/
def State.callbacks (s : State) : List FilterCallback := s.listeners.flatMap FilterData.own

theorem mem_callbacks (mem : d ∈ s.listeners) (own : cb ∈ d.own) : cb ∈ s.callbacks := List.mem_flatMap.mpr ⟨d, mem, own⟩

theorem Numbered.callbacks (numbered : Numbered s) (mem : cb ∈ s.callbacks) : 0 < cb.id ∧ cb.id ≤ s.listenerId := by
  obtain ⟨d, there, own⟩ := List.mem_flatMap.mp mem
  exact numbered.given cb.bare (mem_watches there own)

/-- There is one record for an id. -/
theorem Numbered.record {w : FilterCallback} (numbered : Numbered s) (table : Table s) (mem : d ∈ s.listeners) (own : cb ∈ d.own)
    (mem' : d' ∈ s.listeners) (own' : w ∈ d'.own) (same : w.id = cb.id) : d' = d ∧ w = cb := by
  have this : d' = d := by
    by_contra other
    have apart : d'.key ≠ d.key := fun key => other (table.ordered.eq mem' mem key)
    exact numbered.apart mem mem' apart own own' same
  subst this
  exact ⟨rfl, List.inj_on_of_nodup_map (numbered.ids mem) own' own same⟩

/-! ## Adding -/

/-- A listener that is got has no callbacks but those it had. -/
theorem filterDataGet_records {handle : HandleFunc} (mem : d ∈ (filterDataGet s handle m answers).1.listeners)
    (own : cb ∈ d.own) : d ∈ s.listeners := by
  have gets := filterDataGet_gets s handle m answers
  generalize filterDataGet s handle m answers = got at gets mem
  cases gets with
  | noFilter => exact mem
  | found => exact mem
  | noRule => exact mem
  | new =>
    refine (List.mem_append.mp mem).resolve_right fun new => ?_
    rw [List.mem_singleton.mp new] at own
    exact absurd own List.not_mem_nil

/-- What is added is added to the listener that was got. -/
theorem addCallback_records {key : Nat} {new : FilterCallback} (mem : d' ∈ (filterDataAddCallback s key new).listeners)
    (own : cb ∈ d'.own) : (∃ d ∈ s.listeners, d.toMatch = d'.toMatch ∧ cb ∈ d.own) ∨
      cb = { new with id := nextId s } ∧ ∃ d ∈ s.listeners, d.key = key ∧ d'.toMatch = d.toMatch := by
  unfold filterDataAddCallback at mem
  dsimp only at mem
  split at mem
  · exact .inl ⟨d', mem, rfl, own⟩
  case h_2 data found =>
    obtain ⟨there, key'⟩ := listener_spec found
    have what := (data.add_same { new with id := nextId s }).1
    rcases mem_setListener mem with rfl | ⟨old, _⟩
    · rcases List.mem_cons.mp ((data.add_append _).subset own) with same | before
      · exact .inr ⟨same, data, there, key', what⟩
      · exact .inl ⟨data, there, what.symm, before⟩
    · exact .inl ⟨d', old, rfl, own⟩

theorem modifyCallback_records {id : Nat} {g : FilterCallback → FilterCallback} (mem : d' ∈ (s.modifyCallback id g).listeners)
    (own : cb ∈ d'.own) : ∃ d ∈ s.listeners, d.toMatch = d'.toMatch ∧ ∃ w ∈ d.own, cb = if w.id = id then g w else w := by
  obtain ⟨d, there, rfl⟩ := List.mem_map.mp mem
  unfold FilterData.own at own
  dsimp only at own
  rw [← List.map_append] at own
  obtain ⟨w, inside, rfl⟩ := List.mem_map.mp own
  exact ⟨d, there, rfl, w, inside, rfl⟩

/-- The watch of a name that was added, and whether it waits for the owner. -/
structure Added (connection : Nat) (name : String) (connect disconnect waits : Bool) (id : Nat) (m : Match)
    (cb : FilterCallback) : Prop where
  id : cb.id = id
  what : m = serviceMatch connection name
  connFunc : cb.connFunc = connect
  discFunc : cb.discFunc = disconnect
  data : waits = true → cb.data = .call

/-- The record of a watch of a name goes to the listener of the name. -/
theorem addNameWatch_records (orderly : Orderly s) (room : s.listenerId + 1 < 2 ^ 32) {connection key : Nat} {name : String}
    {new : FilterCallback} (got : (filterDataGet s .serviceFilter (serviceMatch connection name) answers).2 = some key)
    (mem : d' ∈ (filterDataAddCallback (filterDataGet s .serviceFilter (serviceMatch connection name) answers).1 key
      new).listeners) (own : cb ∈ d'.own) :
    (∃ d ∈ s.listeners, d.toMatch = d'.toMatch ∧ cb ∈ d.own) ∨
      d'.toMatch = serviceMatch connection name ∧ cb = { new with id := s.listenerId + 1 } := by
  have shaped : Shaped .serviceFilter (serviceMatch connection name) := ⟨connection, name, rfl⟩
  obtain ⟨ops, same, there⟩ := filterDataGet_ops (c := .free) (s := s) shaped answers
  obtain ⟨listener, inside, rfl, what⟩ := there key got
  rcases addCallback_records mem own with ⟨d, there, what', own'⟩ | ⟨rfl, d, inside', key', what'⟩
  · exact .inl ⟨d, filterDataGet_records there own', what', own'⟩
  · refine .inr ⟨?_, by rw [nextId_eq (same ▸ room), same]⟩
    rw [what', (Ops.orderly ops orderly).table.ordered.eq inside' inside key', what]

/-- A lookup changes nothing but the data of the watch it is for, which waits
when the lookup is sent. -/
theorem checkService_records {name : String} {id : Nat} {lookup : Lookup}
    (mem : d' ∈ (checkService s name id lookup).listeners) (own : cb ∈ d'.own) :
    ∃ d ∈ s.listeners, d.toMatch = d'.toMatch ∧ ∃ w ∈ d.own, ∃ x,
      cb = (if w.id = id then { w with data := x } else w) ∧
        (lookup = .sent → checkNameCache s name = none → x = .call) := by
  unfold checkService at mem
  split at mem
  case h_1 => exact ⟨d', mem, rfl, cb, own, cb.data, (ite_self cb).symm, nofun⟩
  case h_2 =>
    dsimp only at mem
    split at mem
    case isTrue known =>
      obtain ⟨d, there, what, w, own', rfl⟩ := modifyCallback_records mem own
      refine ⟨d, there, what, w, own', .idle, rfl, fun _ unknown => ?_⟩
      rw [unknown] at known
      cases known
    case isFalse =>
      split at mem
      case isTrue =>
        obtain ⟨d, there, what, w, own', rfl⟩ := modifyCallback_records mem own
        exact ⟨d, there, what, w, own', .call, rfl, fun _ _ => rfl⟩
      case isFalse unsent =>
        obtain ⟨d, there, what, w, own', rfl⟩ := modifyCallback_records mem own
        exact ⟨d, there, what, w, own', .freed, rfl, fun sent => absurd sent unsent⟩

theorem addServiceWatch_records (waits : Bool) (orderly : Orderly s) (room : s.listenerId + 1 < 2 ^ 32) {connection : Nat}
    {name : String} {connect disconnect destroy : Bool} {lookup : Lookup}
    (looked : waits = true → connect = true ∧ lookup = .sent ∧ checkNameCache s name = none)
    (mem : d' ∈ (gDbusAddServiceWatch s connection name connect disconnect destroy answers lookup).1.listeners)
    (own : cb ∈ d'.own) : (∃ d ∈ s.listeners, d.toMatch = d'.toMatch ∧ cb ∈ d.own) ∨
      Added connection name connect disconnect waits (s.listenerId + 1) d'.toMatch cb ∧
        (gDbusAddServiceWatch s connection name connect disconnect destroy answers lookup).2 = s.listenerId + 1 := by
  have shaped : Shaped .serviceFilter (serviceMatch connection name) := ⟨connection, name, rfl⟩
  obtain ⟨ops, same, _⟩ := filterDataGet_ops (c := .free) (s := s) shaped answers
  have table := (Ops.orderly ops orderly).table
  have next : nextId (filterDataGet s .serviceFilter (serviceMatch connection name) answers).1 = s.listenerId + 1 := by
    rw [nextId_eq (same ▸ room), same]
  have what : sentBy connection none none (some "org.freedesktop.DBus") (some "NameOwnerChanged") (some name) =
    serviceMatch connection name := rfl
  unfold gDbusAddServiceWatch at mem ⊢
  rw [what] at mem ⊢
  dsimp only at mem ⊢
  cases got : (filterDataGet s .serviceFilter (serviceMatch connection name) answers).2 with
  | none =>
    rw [got] at mem
    exact .inl ⟨d', filterDataGet_records mem own, rfl, own⟩
  | some key =>
    rw [got] at mem
    dsimp only at mem ⊢
    split at mem
    case isFalse plain =>
      refine (addNameWatch_records orderly room got mem own).imp id fun ⟨what, new⟩ =>
        ⟨⟨by rw [new], what, by rw [new], by rw [new], fun is => ?_⟩, next⟩
      exact absurd (looked is).1 plain
    case isTrue =>
      obtain ⟨d, there, what, w, own', x, rfl, data⟩ := checkService_records mem own
      rcases addNameWatch_records orderly room got there own' with ⟨d₀, old, what', own₀⟩ | ⟨what', rfl⟩
      · have given := (orderly.numbered.callbacks (mem_callbacks old own₀)).2
        rw [next, if_neg (by omega)]
        exact .inl ⟨d₀, old, what'.trans what, own₀⟩
      · rw [if_pos next.symm]
        refine .inr ⟨⟨rfl, what.symm.trans what', rfl, rfl, fun is => ?_⟩, next⟩
        obtain ⟨_, sent, unknown⟩ := looked is
        exact data sent (checkNameCache_added .serviceFilter answers rfl table key _ unknown)

/-- The id of a watch that was added is a new one. -/
theorem addServiceWatch_id (answers : Answers) (room : s.listenerId + 1 < 2 ^ 32) (connection : Nat) (name : String)
    (connect disconnect destroy : Bool) (lookup : Lookup) :
    (gDbusAddServiceWatch s connection name connect disconnect destroy answers lookup).2 = 0 ∨
      (gDbusAddServiceWatch s connection name connect disconnect destroy answers lookup).2 = s.listenerId + 1 ∧
      (gDbusAddServiceWatch s connection name connect disconnect destroy answers lookup).1.listenerId = s.listenerId + 1 := by
  have shaped : Shaped .serviceFilter (sentBy connection none none (some "org.freedesktop.DBus")
      (some "NameOwnerChanged") (some name)) := ⟨connection, name, rfl⟩
  obtain ⟨_, same, _⟩ := filterDataGet_ops (c := .free) (s := s) shaped answers
  unfold gDbusAddServiceWatch
  generalize filterDataGet s .serviceFilter
    (sentBy connection none none (some "org.freedesktop.DBus") (some "NameOwnerChanged") (some name)) answers = got at same ⊢
  obtain ⟨u, key⟩ := got
  dsimp only at same ⊢
  cases key with
  | none => exact .inl rfl
  | some key =>
    have next : nextId u = s.listenerId + 1 := by rw [nextId_eq (same ▸ room), same]
    have added : ∀ cb, (filterDataAddCallback u key cb).listenerId = s.listenerId + 1 := by
      intro cb
      unfold filterDataAddCallback
      dsimp only
      split <;> exact next
    refine .inr ⟨next, ?_⟩
    dsimp only
    split
    · unfold checkService
      dsimp only
      split
      · exact added _
      · split
        · exact added _
        · split <;> exact added _
    · exact added _

/-- A watch for signals has no connect function, nor has the watch of its name. -/
theorem addSignalWatch_records (orderly : Orderly s) (room : Room s) (shaped : Shaped .signalFilter m) {function destroy : Bool}
    (mem : d' ∈ (addSignalWatch s m function destroy answers).1.listeners) (own : cb ∈ d'.own) :
    (∃ d ∈ s.listeners, d.toMatch = d'.toMatch ∧ cb ∈ d.own) ∨ cb.connFunc = false := by
  obtain ⟨ops, same, there⟩ := filterDataGet_ops (c := .free) (s := s) shaped answers
  have before : ∀ {a : FilterData} {w : FilterCallback}, a ∈ (filterDataGet s .signalFilter m answers).1.listeners →
      w ∈ a.own → a ∈ s.listeners := filterDataGet_records
  unfold addSignalWatch at mem
  generalize filterDataGet s .signalFilter m answers = got at ops same there before mem
  obtain ⟨u, key⟩ := got
  dsimp only at ops same there before mem
  cases key with
  | none => exact .inl ⟨d', before mem own, rfl, own⟩
  | some key =>
    obtain ⟨listener, inside, rfl, _⟩ := there key rfl
    have orderly' := Ops.orderly ops orderly
    have below : u.listenerId + 1 < 2 ^ 32 := same ▸ Nat.lt_of_succ_lt room
    obtain ⟨op, next, _⟩ := orderly'.table.addCallback_op (c := .free) inside below
      { id := 0, signalFunc := function, destroyFunc := destroy }
    have orderly'' := op.orderly orderly'
    dsimp only at mem
    have added : ∀ {a : FilterData} {w : FilterCallback}, a ∈ (filterDataAddCallback u listener.key
        { id := 0, signalFunc := function, destroyFunc := destroy }).listeners → w ∈ a.own →
        (∃ d ∈ s.listeners, d.toMatch = a.toMatch ∧ w ∈ d.own) ∨ w.connFunc = false := by
      intro a w mem' own'
      rcases addCallback_records mem' own' with ⟨d, old, what', own''⟩ | ⟨rfl, _⟩
      · exact .inl ⟨d, before old own'', what', own''⟩
      · exact .inr rfl
    generalize filterDataAddCallback u listener.key { id := 0, signalFunc := function, destroyFunc := destroy } = v
      at mem added orderly'' next
    split at mem
    case h_1 => exact added mem own
    case h_2 data _ =>
      split at mem
      case h_1 => exact added mem own
      case h_2 name _ =>
        split at mem
        case isTrue => exact added mem own
        case isFalse =>
          obtain ⟨a, inside', rfl⟩ := List.mem_map.mp mem
          have own' : cb ∈ a.own := by
            split at own
            · exact own
            · exact own
          have what : (if a.key = listener.key then { a with nameWatch := (gDbusAddServiceWatch v data.connection name
              false false false answers .sent).2 } else a).toMatch = a.toMatch := by
            split <;> rfl
          rw [what]
          have room' : v.listenerId + 1 < 2 ^ 32 := by
            rw [next, same]
            exact room
          rcases addServiceWatch_records false orderly'' room' (fun no => by cases no) inside' own' with
            ⟨d, old, what', own''⟩ | ⟨new, _⟩
          · exact (added old own'').imp_left fun ⟨d₀, old', what'', own₀⟩ => ⟨d₀, old', what''.trans what', own₀⟩
          · exact .inr new.connFunc

/-! ## What is kept -/

/-- The watches of names are where they were and have the records they had, but
for one. -/
def Kept (but : Option Nat) (s s' : State) : Prop :=
  ∀ connection name, ∀ d' ∈ s'.listeners, d'.toMatch = serviceMatch connection name → ∀ cb ∈ d'.own, but ≠ some cb.id →
    ∃ d ∈ s.listeners, d.toMatch = serviceMatch connection name ∧ cb ∈ d.own

variable {but : Option Nat}

theorem Kept.refl : Kept but s s := fun _ _ d mem what _ own _ => ⟨d, mem, what, own⟩

theorem Kept.trans (first : Kept but s t) (second : Kept but t s') : Kept but s s' := by
  intro connection name d' mem what cb own other
  obtain ⟨d, there, what', own'⟩ := second connection name d' mem what cb own other
  exact first connection name d there what' cb own' other

theorem Kept.of_listeners (same : s'.listeners = s.listeners) : Kept but s s' := by
  intro connection name d' mem what cb own _
  exact ⟨d', same ▸ mem, what, own⟩

theorem kept_set (mem : d ∈ s.listeners) (what : d'.toMatch = d.toMatch) (own : d'.own ⊆ d.own) :
    Kept but s (s.setListener d') := by
  intro connection name a inside what' cb own' _
  rcases mem_setListener inside with rfl | ⟨old, _⟩
  · exact ⟨d, mem, what.symm.trans what', own own'⟩
  · exact ⟨a, old, what', own'⟩

theorem kept_filter (p : FilterData → Bool) : Kept but s { s with listeners := s.listeners.filter p } := by
  intro connection name d' mem what cb own _
  exact ⟨d', List.mem_of_mem_filter mem, what, own⟩

/-- Only the listeners with a name have an owner. -/
theorem kept_updateNameCache (name owner : String) : Kept but s (updateNameCache s name owner) := by
  intro connection name' d' mem what cb own _
  obtain ⟨d, there, rfl⟩ := List.mem_map.mp mem
  split at what
  case isTrue named =>
    have none := congrArg Match.name what
    exact absurd (named.symm.trans none) (Option.some_ne_none _)
  case isFalse other =>
    rw [if_neg other] at own
    exact ⟨d, there, what, own⟩

theorem kept_serviceDataFree (id : Nat) : Kept (some id) s (serviceDataFree s id) := by
  intro connection name d' mem what cb own other
  obtain ⟨d, there, what', w, own', rfl⟩ := modifyCallback_records mem own
  refine ⟨d, there, what'.trans what, ?_⟩
  split
  case isTrue same =>
    rw [if_pos same] at other
    exact absurd (congrArg some same.symm) other
  case isFalse => exact own'

theorem kept_dropCallback (mem : d ∈ s.listeners) : Kept but s (dropCallback s d cb) := by
  have removed : Kept but s (s.setListener (d.remove cb.id)) := kept_set mem rfl fun w own => (FilterData.mem_remove own).1
  exact removed.trans (.of_listeners (dropCallback_same d cb).1)

theorem kept_removeCallback {freeing : State → Nat → Except Fault State} (mem : d ∈ s.listeners)
    (frees : ∀ t t', freeing t d.nameWatch = .ok t' → Kept but t t')
    (ran : filterDataRemoveCallback s freeing answers d cb = .ok s') : Kept but s s' := by
  unfold filterDataRemoveCallback at ran
  split at ran
  · cases ran
  split at ran
  · cases ran
    exact kept_dropCallback mem
  have unmatched : Kept but s (removeMatch (dropCallback s d cb) d.toMatch answers).1 :=
    (kept_dropCallback mem).trans (.of_listeners (removeMatch_op (c := .free) _ _).2)
  dsimp only at ran
  split at ran
  · obtain ⟨t, left, freed⟩ := bind_ok ran
    refine (unmatched.trans ?_).trans (frees t s' freed)
    unfold removeListener at left
    dsimp only at left
    split at left
    · cases left
      exact kept_filter _
    · unfold removeFilter at left
      split at left
      · cases left
        exact kept_filter _
      · cases left
  · cases ran
    exact unmatched

theorem kept_removeWatch (rounds : Nat) {id : Nat} (ran : removeWatch answers rounds s id = .ok s') : Kept but s s' := by
  induction rounds generalizing s s' id with
  | zero =>
    cases ran
    exact .refl
  | succ rounds ih =>
    unfold removeWatch at ran
    split at ran
    · cases ran
      exact .refl
    split at ran
    · cases ran
      exact .refl
    case h_2 data cb found =>
      obtain ⟨mem, _, _⟩ := findCallback_spec found
      exact kept_removeCallback mem (fun _ _ => ih) ran

/-- A turn moves callbacks within their listener. -/
theorem Turn.kept (turn : Turn s e f d stage s') (mem : d ∈ s.listeners) : Kept but s s' := by
  have unlocked : d.unlock.own ⊆ d.own := fun w own => by
    rw [FilterData.own, FilterData.unlock, List.append_nil] at own
    exact List.mem_append_right _ own
  have locked : Kept but s (s.setListener { d with lock := true }) := kept_set mem rfl fun _ => id
  cases turn with
  | pass other => exact .of_listeners rfl
  | @lock t here accepted cached =>
    rcases cached with rfl | ⟨_, name, _, new, _, _, rfl⟩
    · exact locked.trans (.of_listeners rfl)
    · exact (locked.trans (kept_updateNameCache name new)).trans (.of_listeners rfl)
  | lost here accepted service improper =>
    intro connection name a inside what cb own other
    rcases mem_setListener inside with rfl | ⟨old, _⟩
    · exact ⟨d, mem, what, unlocked own⟩
    · exact locked connection name a old what cb own other
  | leave none =>
    have left : Kept but s (s.setListener d.unlock) := kept_set mem rfl unlocked
    exact left.trans (.of_listeners rfl)
  | call cb rest first calls => exact .of_listeners rfl
  | @settled t _ cb own after done =>
    rcases done with rfl | ⟨rfl, _⟩
    · have waits : Kept but s (s.setListener (d.wait cb)) := kept_set mem rfl fun w there => by
        rcases List.mem_append.mp there with front | waiting
        · exact List.mem_append_left _ (List.mem_of_mem_filter front)
        · rcases List.mem_append.mp waiting with old | last
          · exact List.mem_append_right _ old
          · rw [List.mem_singleton.mp last]
            exact List.mem_append_left _ own
      exact waits.trans (.of_listeners rfl)
    · exact (kept_dropCallback mem).trans (.of_listeners rfl)
  | back id absent => exact .of_listeners rfl

end ConnmanUi.Watch
