import Mathlib.Data.List.Perm.Lattice
import ConnmanUi.WatchEnds
import ConnmanUi.WatchFrames

/-!
What the bus knows of the listeners.

While the bus takes every rule and drops every rule it has, it has the rules of
the listeners and no others, the filter is installed once on each connection with
a listener and on no other, and no listener is there for nobody (`Tidy`).
-/

namespace ConnmanUi.Watch

open Keyed Run

variable {s s' t : State} {d d' : FilterData} {cb : FilterCallback} {answers : Answers} {spare spare' : Option Nat}
  {m : Match}

/-! ## In order with the bus -/

/-- The rule that the bus has for a listener. -/
def Match.rule (m : Match) : Nat × String := (m.connection, formatRule m)

/-- The bus does what it is asked to. -/
structure Answers.Good (answers : Answers) : Prop where
  filterAdded : answers.filterAdded = true
  matchAdded : ∀ rule, answers.matchAdded rule = true
  matchRemoved : ∀ rule, answers.matchRemoved rule = true

/-- The listener waits for a name that is not the unique name of a connection. -/
def WellKnown (d : FilterData) : Prop := d.handleFunc = .serviceFilter → ∀ a ∈ d.argument, a.startsWith ":" = false

/-- No lookup of the callback was lost, or is answered from the cache. -/
def FilterCallback.Clear (cb : FilterCallback) : Prop := cb.data = .null ∨ cb.data = .call

/-- All is in order, but that `spare` may be without a callback. -/
structure Tidy (spare : Option Nat) (s : State) : Prop where
  filters : ∀ connection, s.filters.count connection = if filterDataFind s connection then 1 else 0
  rules : s.rules.Perm (s.listeners.map (·.rule))
  kept : ∀ d ∈ s.listeners, spare ≠ some d.key → d.callbacks ++ d.processed ≠ []
  clear : ∀ d ∈ s.listeners, ∀ cb ∈ d.callbacks ++ d.processed, cb.Clear
  known : ∀ d ∈ s.listeners, WellKnown d

theorem filterDataFind_iff (s : State) (connection : Nat) :
    filterDataFind s connection = true ↔ ∃ d ∈ s.listeners, d.connection = connection := by
  unfold filterDataFind
  simp only [List.any_eq_true, decide_eq_true_eq]

theorem Tidy.congr (tidy : Tidy spare s) (listeners : t.listeners = s.listeners) (filters : t.filters = s.filters)
    (rules : t.rules = s.rules) : Tidy spare t := by
  obtain ⟨counts, perm, kept, clear, known⟩ := tidy
  refine ⟨?_, ?_, ?_, ?_, ?_⟩
  · unfold filterDataFind
    rw [listeners, filters]
    exact counts
  · rw [listeners, rules]
    exact perm
  · rw [listeners]
    exact kept
  · rw [listeners]
    exact clear
  · rw [listeners]
    exact known

/-- Listeners change in place. -/
theorem Tidy.map {g : FilterData → FilterData} (tidy : Tidy spare s) (rule : ∀ d ∈ s.listeners, (g d).rule = d.rule)
    (known : ∀ d ∈ s.listeners, WellKnown (g d))
    (kept : ∀ d ∈ s.listeners, spare' ≠ some (g d).key → (g d).callbacks ++ (g d).processed ≠ [])
    (clear : ∀ d ∈ s.listeners, ∀ cb ∈ (g d).callbacks ++ (g d).processed, cb.Clear) :
    Tidy spare' { s with listeners := s.listeners.map g } where
  filters connection := by
    have same : filterDataFind { s with listeners := s.listeners.map g } connection = filterDataFind s connection := by
      refine Bool.eq_iff_iff.mpr ((filterDataFind_iff _ _).trans (.trans ?_ (filterDataFind_iff _ _).symm))
      constructor
      · rintro ⟨d', mem, same⟩
        obtain ⟨d, there, rfl⟩ := List.mem_map.mp mem
        exact ⟨d, there, (congrArg Prod.fst (rule d there)).symm.trans same⟩
      · rintro ⟨d, there, same⟩
        exact ⟨g d, List.mem_map_of_mem there, (congrArg Prod.fst (rule d there)).trans same⟩
    rw [same]
    exact tidy.filters connection
  rules := by
    refine tidy.rules.trans (.of_eq ?_)
    rw [List.map_map]
    exact List.map_congr_left fun d mem => (rule d mem).symm
  kept d' mem := by
    obtain ⟨d, there, rfl⟩ := List.mem_map.mp mem
    exact kept d there
  clear d' mem := by
    obtain ⟨d, there, rfl⟩ := List.mem_map.mp mem
    exact clear d there
  known d' mem := by
    obtain ⟨d, there, rfl⟩ := List.mem_map.mp mem
    exact known d there

/-- One listener is set. -/
theorem Tidy.set (tidy : Tidy spare s) (key : d'.key = d.key) (rule : d'.rule = d.rule) (known : WellKnown d')
    (free : spare = none ∨ spare = some d.key) (kept : spare' ≠ some d.key → d'.callbacks ++ d'.processed ≠ [])
    (mem : d ∈ s.listeners) (table : Table s)
    (clear : ∀ cb ∈ d'.callbacks ++ d'.processed, cb.Clear) : Tidy spare' (s.setListener d') := by
  have only : ∀ old ∈ s.listeners, old.key = d'.key → old = d := fun old there same =>
    table.ordered.eq there mem (same.trans key)
  have elsewhere : ∀ o : Option Nat, o = none ∨ o = some d.key → ∀ old : FilterData, old.key ≠ d'.key → o ≠ some old.key := by
    rintro o (rfl | rfl) old other same
    · cases same
    · exact other ((Option.some.inj same).symm.trans key.symm)
  refine tidy.map (fun old there => ?_) (fun old there => ?_) (fun old there => ?_) fun old there => ?_
  · split
    case isTrue same => rw [only old there same, rule]
    case isFalse => rfl
  · split
    · exact known
    · exact tidy.known old there
  · split
    · rw [key]
      exact kept
    case isFalse other => exact fun _ => tidy.kept old there (elsewhere spare free old other)
  · split
    · exact clear
    · exact tidy.clear old there

theorem rule_owner {d : Match} (name : d.name ≠ none) (owner : Option String) : { d with owner := owner }.rule = d.rule := by
  obtain ⟨connection, name', owner', path, interface, member, argument⟩ := d
  cases name' with
  | none => exact absurd rfl name
  | some name => rfl

theorem Tidy.updateNameCache (tidy : Tidy spare s) (name owner : String) : Tidy spare (updateNameCache s name owner) := by
  refine tidy.map (fun d _ => ?_) (fun d there => ?_) (fun d there => ?_) fun d there => ?_
  · split
    case isTrue named => exact rule_owner (by rw [named]; exact Option.some_ne_none _) _
    case isFalse => rfl
  · split <;> exact tidy.known d there
  · split <;> exact tidy.kept d there
  · split <;> exact tidy.clear d there

theorem Tidy.modifyCallback (tidy : Tidy spare s) (id : Nat) {data : ServiceData} (clear : data = .null ∨ data = .call) :
    Tidy spare (s.modifyCallback id fun cb => { cb with data := data }) := by
  have all : ∀ l : List FilterCallback, (∀ cb ∈ l, cb.Clear) →
      ∀ cb ∈ l.map (fun cb => if cb.id = id then { cb with data := data } else cb), cb.Clear := by
    intro l before cb mem
    obtain ⟨old, there, rfl⟩ := List.mem_map.mp mem
    split
    · exact clear
    · exact before old there
  refine tidy.map (fun d _ => rfl) (fun d there => tidy.known d there) (fun d there open' => ?_) fun d there cb mem => ?_
  · have before := tidy.kept d there open'
    rw [← List.map_append]
    exact fun none => before (List.map_eq_nil_iff.mp none)
  · rw [← List.map_append] at mem
    exact all _ (tidy.clear d there) cb mem

/-! ## Adding -/

/-- The filter is on the connections that have a listener, and on this one. -/
theorem Tidy.count_install (tidy : Tidy none s) (here connection : Nat) : (install s here).filters.count connection =
    if filterDataFind s connection = true ∨ connection = here then 1 else 0 := by
  have counts := tidy.filters connection
  unfold install
  dsimp only
  split
  case isTrue found =>
    rw [counts]
    by_cases same : connection = here
    · simp [same, found]
    · simp [same]
  case isFalse missing =>
    rw [List.count_cons, counts]
    by_cases same : connection = here
    · simp [same, missing]
    · simp [same, Ne.symm same]

/-- A listener that is got is there, and only it may be without a callback. -/
theorem Tidy.filterDataGet (tidy : Tidy none s) (handle : HandleFunc) (good : answers.Good)
    (known : handle = .serviceFilter → ∀ a ∈ m.argument, a.startsWith ":" = false) :
    ∃ key, (filterDataGet s handle m answers).2 = some key ∧ Tidy (some key) (filterDataGet s handle m answers).1 := by
  have gets := filterDataGet_gets s handle m answers
  generalize Watch.filterDataGet s handle m answers = got at gets ⊢
  cases gets with
  | noFilter refused => cases refused.symm.trans good.filterAdded
  | noRule refused => cases refused.symm.trans (good.matchAdded _)
  | found data there what =>
    have connected : filterDataFind s m.connection = true := (filterDataFind_iff _ _).mpr ⟨data, there, by rw [← what]⟩
    refine ⟨data.key, rfl, ⟨fun connection => ?_, tidy.rules, fun d mem _ => ?_, tidy.clear, tidy.known⟩⟩
    · refine (tidy.count_install m.connection connection).trans ?_
      rw [show filterDataFind (install s m.connection) connection = filterDataFind s connection from rfl]
      by_cases here : connection = m.connection
      · simp [here, connected]
      · simp [here]
    · exact tidy.kept d mem (Option.some_ne_none d.key).symm
  | new =>
    have inside : ∀ {P : FilterData → Prop}, (∀ d ∈ s.listeners, P d) →
        P { m with key := s.next, handleFunc := handle } →
        ∀ d ∈ s.listeners ++ [{ m with key := s.next, handleFunc := handle }], P d := by
      intro P old new d mem
      rcases List.mem_append.mp mem with there | last
      · exact old d there
      · rw [List.mem_singleton.mp last]
        exact new
    refine ⟨_, rfl, ⟨fun connection => ?_, ?_, ?_, ?_, ?_⟩⟩
    · refine (tidy.count_install m.connection connection).trans (if_congr ?_ rfl rfl)
      rw [filterDataFind_iff, filterDataFind_iff]
      simp only [List.mem_append, List.mem_singleton, or_and_right, exists_or, exists_eq_left]
      exact or_congr_right eq_comm
    · dsimp only
      rw [List.map_append]
      exact (tidy.rules.cons _).trans (List.perm_append_singleton _ _).symm
    · exact inside (fun d mem _ => tidy.kept d mem (Option.some_ne_none d.key).symm) fun other => absurd rfl other
    · exact inside tidy.clear fun cb none => absurd none List.not_mem_nil
    · exact inside tidy.known known

theorem FilterData.add_append (d : FilterData) (cb : FilterCallback) :
    ((d.add cb).callbacks ++ (d.add cb).processed).Perm (cb :: (d.callbacks ++ d.processed)) := by
  unfold FilterData.add
  split
  · rw [← List.append_assoc]
    exact List.perm_append_singleton _ _
  · rw [List.append_assoc]
    exact List.perm_middle

theorem FilterData.add_same (d : FilterData) (cb : FilterCallback) :
    (d.add cb).toMatch = d.toMatch ∧ (d.add cb).handleFunc = d.handleFunc ∧ (d.add cb).lock = d.lock := by
  unfold FilterData.add
  split <;> exact ⟨rfl, rfl, rfl⟩

theorem Tidy.addCallback (tidy : Tidy (some d.key) s) (table : Table s) (mem : d ∈ s.listeners) (cb : FilterCallback)
    (clear : cb.data = .null) : Tidy none (filterDataAddCallback s d.key cb) := by
  have added : filterDataAddCallback s d.key cb =
      State.setListener { s with listenerId := nextId s } (d.add { cb with id := nextId s }) := by
    unfold filterDataAddCallback
    dsimp only
    rw [table.listener mem]
  obtain ⟨what, handle, _⟩ := d.add_same { cb with id := nextId s }
  have all := d.add_append { cb with id := nextId s }
  rw [added]
  refine Tidy.set (s := { s with listenerId := nextId s }) (d := d) (tidy.congr rfl rfl rfl) (d.add_key _) (by rw [what]) ?_
    (.inr rfl) (fun _ none => ?_) mem ⟨table.ordered, table.below, table.shaped, table.unlocked⟩ fun own there => ?_
  · unfold WellKnown
    rw [what, handle]
    exact tidy.known d mem
  · rw [none] at all
    exact List.cons_ne_nil _ _ (List.nil_perm.mp all)
  · rcases List.mem_cons.mp (all.subset there) with rfl | old
    · exact .inl clear
    · exact tidy.clear d mem own old

theorem sentBy_name (connection : Nat) (sender path interface member argument : Option String) :
    ∀ name ∈ (sentBy connection sender path interface member argument).name, name.startsWith ":" = false := by
  unfold sentBy
  intro name mem
  split at mem
  · cases mem
  · split at mem
    · cases mem
    case isFalse plain =>
      cases mem
      simpa using plain

/-- What `check_name_cache` looks at. -/
def State.owners (s : State) : List (Option String × Option String) := s.listeners.map fun d => (d.name, d.owner)

theorem checkNameCache_eq (s : State) (name : String) :
    checkNameCache s name = (s.owners.find? (·.1 = some name)).bind (·.2) := by
  unfold checkNameCache State.owners
  rw [List.find?_map, Option.bind_map]
  rfl

theorem filterDataGet_owners (s : State) (handle : HandleFunc) (answers : Answers) (name : m.name = none) :
    (filterDataGet s handle m answers).1.owners = s.owners ∨
      (filterDataGet s handle m answers).1.owners = s.owners ++ [(none, m.owner)] := by
  have gets := filterDataGet_gets s handle m answers
  generalize Watch.filterDataGet s handle m answers = got at gets ⊢
  cases gets with
  | noFilter => exact .inl rfl
  | found => exact .inl rfl
  | noRule => exact .inl rfl
  | new =>
    refine .inr ?_
    unfold State.owners
    rw [List.map_append, ← name]
    rfl

theorem Table.addCallback_owners (table : Table s) (key : Nat) (cb : FilterCallback) :
    (filterDataAddCallback s key cb).owners = s.owners := by
  unfold filterDataAddCallback
  dsimp only
  split
  · rfl
  case h_2 data found =>
    obtain ⟨there, _⟩ := listener_spec found
    unfold State.owners State.setListener
    rw [List.map_map]
    refine List.map_congr_left fun old mem => ?_
    dsimp only [Function.comp]
    split
    case isTrue same =>
      rw [data.add_key] at same
      rw [(data.add_same _).1, table.ordered.eq mem there same]
    case isFalse => rfl

/-- No owner becomes known while a listener is got and a callback is added. -/
theorem checkNameCache_added (handle : HandleFunc) (answers : Answers) (plain : m.name = none)
    (table : Table (filterDataGet s handle m answers).1) (key : Nat) (cb : FilterCallback) {name : String}
    (unknown : checkNameCache s name = none) :
    checkNameCache (filterDataAddCallback (filterDataGet s handle m answers).1 key cb) name = none := by
  rw [checkNameCache_eq] at unknown ⊢
  rw [table.addCallback_owners]
  rcases filterDataGet_owners s handle answers plain with same | more
  · rw [same]
    exact unknown
  · rw [more, List.find?_append]
    simpa using unknown

/-- The lookup of the owner is sent, or none is made; the owner is not known
yet. -/
def Looked (s : State) (name : String) (connect : Bool) (lookup : Lookup) : Prop :=
  connect = true → lookup = .noData ∨ lookup = .sent ∧ checkNameCache s name = none

theorem Tidy.checkService (tidy : Tidy spare s) {name : String} {lookup : Lookup}
    (looked : lookup = .noData ∨ lookup = .sent ∧ checkNameCache s name = none) (id : Nat) :
    Tidy spare (checkService s name id lookup) := by
  unfold Watch.checkService
  split
  · exact tidy
  case h_2 lookup data =>
    obtain ⟨rfl, unknown⟩ := looked.resolve_left data
    dsimp only
    rw [unknown]
    exact tidy.modifyCallback id (.inr rfl)

theorem Table.addCallback_what (table : Table s) (mem : d ∈ s.listeners)
    (found : (filterDataAddCallback s d.key cb).listener d.key = some d') : d'.toMatch = d.toMatch := by
  obtain ⟨there, key⟩ := listener_spec found
  unfold filterDataAddCallback at there
  dsimp only at there
  rw [table.listener mem] at there
  rcases mem_setListener there with rfl | ⟨_, other⟩
  · exact (d.add_same _).1
  · exact absurd (key.trans (d.add_key _).symm) other

theorem Tidy.addServiceWatch (tidy : Tidy none s) (orderly : Orderly s) (good : answers.Good) (connection : Nat)
    {name : String} (known : name.startsWith ":" = false) {connect : Bool} (disconnect destroy : Bool)
    {lookup : Lookup} (looked : Looked s name connect lookup) :
    Tidy none (gDbusAddServiceWatch s connection name connect disconnect destroy answers lookup).1 := by
  have shaped : Shaped .serviceFilter (sentBy connection none none (some "org.freedesktop.DBus")
      (some "NameOwnerChanged") (some name)) := ⟨connection, name, rfl⟩
  obtain ⟨got, _, there⟩ := filterDataGet_ops (c := .free) (s := s) shaped answers
  obtain ⟨key, found, tidy'⟩ := tidy.filterDataGet (m := sentBy connection none none (some "org.freedesktop.DBus")
    (some "NameOwnerChanged") (some name)) .serviceFilter good fun _ a named => Option.some.inj named ▸ known
  obtain ⟨d, mem, rfl, _⟩ := there key found
  have orderly' := Ops.orderly got orderly
  unfold gDbusAddServiceWatch
  dsimp only
  rw [found]
  dsimp only
  have added := tidy'.addCallback orderly'.table mem
    { id := 0, connFunc := connect, discFunc := disconnect, destroyFunc := destroy } rfl
  split
  case isFalse => exact added
  case isTrue connects =>
    refine added.checkService ((looked connects).imp id (And.imp id fun unknown => ?_)) _
    exact checkNameCache_added .serviceFilter answers rfl orderly'.table d.key _ unknown

theorem Tidy.addSignalWatch (tidy : Tidy none s) (orderly : Orderly s) (room : Room s) (good : answers.Good)
    (shaped : Shaped .signalFilter m) (named : ∀ name ∈ m.name, name.startsWith ":" = false) (function destroy : Bool) :
    Tidy none (addSignalWatch s m function destroy answers).1 := by
  obtain ⟨got, same, there⟩ := filterDataGet_ops (c := .free) (s := s) shaped answers
  obtain ⟨key, found, tidy'⟩ := tidy.filterDataGet (m := m) .signalFilter good fun other => by cases other
  obtain ⟨d, mem, rfl, what⟩ := there key found
  have orderly' := Ops.orderly got orderly
  have below : s.listenerId + 1 < 2 ^ 32 := Nat.lt_of_succ_lt room
  unfold Watch.addSignalWatch
  dsimp only
  rw [found]
  dsimp only
  have added := tidy'.addCallback orderly'.table mem { id := 0, signalFunc := function, destroyFunc := destroy } rfl
  have op := (orderly'.table.addCallback_op (c := .free) mem (same ▸ below)
    { id := 0, signalFunc := function, destroyFunc := destroy }).1
  have orderly'' := op.orderly orderly'
  split
  case h_1 => exact added
  case h_2 data there' =>
    split
    case h_1 => exact added
    case h_2 name _ =>
      split
      case isTrue => exact added
      case isFalse =>
        have plain : name.startsWith ":" = false := by
          refine named name ?_
          rw [← what, ← orderly'.table.addCallback_what mem there']
          assumption
        have watched := added.addServiceWatch orderly'' good data.connection plain false
          false (show Looked _ name false .sent from fun no => by cases no)
        refine watched.map (fun old _ => ?_) (fun old mem' => ?_) (fun old mem' => ?_) fun old mem' => ?_
        · split <;> rfl
        · split <;> exact watched.known old mem'
        · split <;> exact watched.kept old mem'
        · split <;> exact watched.clear old mem'

/-! ## Removing -/

/-- Every listener that is locked has the callback that runs. -/
def Manned (r : Nat) (s : State) : Prop :=
  ∀ d ∈ s.listeners, d.lock = true → ∃ w ∈ d.callbacks ++ d.processed, w.id = r ∧ ¬Silent w

theorem FilterData.mem_remove {id : Nat} (mem : cb ∈ (d.remove id).callbacks ++ (d.remove id).processed) :
    cb ∈ d.callbacks ++ d.processed ∧ cb.id ≠ id := by
  unfold FilterData.remove at mem
  rw [← List.filter_append] at mem
  exact (List.mem_filter.mp mem).imp_right of_decide_eq_true

theorem FilterData.remove_mem {id : Nat} (mem : cb ∈ d.callbacks ++ d.processed) (other : cb.id ≠ id) :
    cb ∈ (d.remove id).callbacks ++ (d.remove id).processed := by
  unfold FilterData.remove
  rw [← List.filter_append]
  exact List.mem_filter.mpr ⟨mem, decide_eq_true other⟩

theorem dropCallback_bus (d : FilterData) (cb : FilterCallback) :
    (dropCallback s d cb).filters = s.filters ∧ (dropCallback s d cb).rules = s.rules := by
  unfold dropCallback
  dsimp only
  split <;> exact ⟨rfl, rfl⟩

theorem Tidy.drop (tidy : Tidy none s) (table : Table s) (mem : d ∈ s.listeners)
    (kept : spare ≠ some d.key → (d.remove cb.id).callbacks ++ (d.remove cb.id).processed ≠ []) :
    Tidy spare (dropCallback s d cb) := by
  have set : Tidy spare (s.setListener (d.remove cb.id)) := Tidy.set (d := d) tidy rfl rfl (tidy.known d mem) (.inl rfl) kept
    mem table fun own there => tidy.clear d mem own (FilterData.mem_remove there).1
  exact set.congr (dropCallback_same d cb).1 (dropCallback_bus d cb).1 (dropCallback_bus d cb).2

theorem Manned.drop {r : Nat} (manned : Manned r s) (mem : d ∈ s.listeners)
    (own : d.lock = true → ∀ w ∈ d.callbacks ++ d.processed, w.id = r → ¬Silent w → w.id ≠ cb.id) :
    Manned r (dropCallback s d cb) := by
  intro a there locked
  rw [(dropCallback_same d cb).1] at there
  rcases mem_setListener there with rfl | ⟨old, _⟩
  · obtain ⟨w, inside, running, loud⟩ := manned d mem locked
    exact ⟨w, FilterData.remove_mem inside (own locked w inside running loud), running, loud⟩
  · exact manned a old locked

/-- The listener that is empty goes, with its rule, and with the filter if it is
the last. -/
theorem Tidy.unlisten (tidy : Tidy (some d.key) s) (table : Table s) (good : answers.Good) (mem : d' ∈ s.listeners)
    (key : d'.key = d.key) (what : d'.toMatch = d.toMatch) :
    (removeMatch s d.toMatch answers).2 = true ∧
      ∃ t, removeListener (removeMatch s d.toMatch answers).1 d = .ok t ∧ Tidy none t ∧
        t.listeners = s.listeners.filter (·.key ≠ d.key) := by
  obtain ⟨front, back, split, rest⟩ := table.ordered.remove mem
  rw [key] at rest
  have there : d.rule ∈ s.rules := by
    refine tidy.rules.symm.subset ?_
    rw [← what]
    exact List.mem_map_of_mem mem
  have removed : removeMatch s d.toMatch answers = ({ s with rules := s.rules.erase d.rule }, true) := by
    unfold removeMatch
    exact if_pos ⟨good.matchRemoved _, there⟩
  have rules : (s.rules.erase d.rule).Perm ((front ++ back).map (·.rule)) := by
    have all := tidy.rules.erase d.rule
    rw [split, List.map_append, List.map_cons, what] at all
    refine all.trans ((List.perm_middle.erase _).trans (.of_eq ?_))
    rw [List.erase_cons_head, List.map_append]
  have counts : ∀ connection, s.filters.count connection =
      if (∃ a ∈ front ++ back, a.connection = connection) ∨ connection = d.connection then 1 else 0 := by
    intro connection
    rw [tidy.filters]
    refine if_congr ?_ rfl rfl
    rw [filterDataFind_iff, split, ← what]
    simp only [List.mem_append, List.mem_cons]
    constructor
    · rintro ⟨a, before | rfl | after, same⟩
      · exact .inl ⟨a, .inl before, same⟩
      · exact .inr same.symm
      · exact .inl ⟨a, .inr after, same⟩
    · rintro (⟨a, before | after, same⟩ | same)
      · exact ⟨a, .inl before, same⟩
      · exact ⟨a, .inr (.inr after), same⟩
      · exact ⟨d', .inr (.inl rfl), same.symm⟩
  have inside : ∀ {P : FilterData → Prop}, (∀ a ∈ s.listeners, P a) → ∀ a ∈ front ++ back, P a := fun all a there =>
    all a (List.mem_of_mem_filter (rest ▸ there))
  have kept : ∀ a ∈ front ++ back, a.callbacks ++ a.processed ≠ [] := by
    intro a there
    rw [← rest] at there
    obtain ⟨old, other⟩ := List.mem_filter.mp there
    exact tidy.kept a old fun same => of_decide_eq_true other (Option.some.inj same).symm
  rw [removed]
  refine ⟨rfl, ?_⟩
  unfold removeListener
  dsimp only
  rw [rest]
  split
  case isTrue more =>
    obtain ⟨a, there, same⟩ := (filterDataFind_iff _ _).mp more
    refine ⟨_, rfl, ⟨fun connection => ?_, rules, fun b mem _ => kept b mem, inside tidy.clear, inside tidy.known⟩, rfl⟩
    dsimp only
    rw [counts]
    refine if_congr (.trans ?_ (filterDataFind_iff _ _).symm) rfl rfl
    exact or_iff_left_of_imp fun here => ⟨a, there, same.trans here.symm⟩
  case isFalse last =>
    have none : ¬∃ a ∈ front ++ back, a.connection = d.connection := fun more => last ((filterDataFind_iff _ _).mpr more)
    have installed : d.connection ∈ s.filters := by
      rw [← List.count_pos_iff, counts, if_pos (.inr rfl)]
      exact Nat.one_pos
    unfold removeFilter
    rw [if_pos installed]
    refine ⟨_, rfl, ⟨fun connection => ?_, rules, fun b mem _ => kept b mem, inside tidy.clear, inside tidy.known⟩, rfl⟩
    dsimp only
    rw [List.count_erase, counts]
    by_cases same : connection = d.connection
    · subst same
      rw [if_pos (.inr rfl), if_neg (mt (filterDataFind_iff _ _).mp none)]
      simp
    · have apart : (d.connection == connection) = false := beq_eq_false_iff_ne.mpr (Ne.symm same)
      rw [apart, if_neg Bool.false_ne_true, Nat.sub_zero]
      refine if_congr (.trans ?_ (filterDataFind_iff _ _).symm) rfl rfl
      exact or_iff_left same

theorem Tidy.removeCallback {freeing : State → Nat → Except Fault State} {r : Nat} (tidy : Tidy none s) (orderly : Orderly s)
    (manned : Manned r s) (good : answers.Good) (mem : d ∈ s.listeners) (own : cb ∈ d.callbacks ++ d.processed)
    (other : cb.id = r → Silent cb.bare)
    (frees : ∀ t, Tidy none t → Orderly t → Manned r t → Named t d.nameWatch →
      ∃ t', freeing t d.nameWatch = .ok t' ∧ Tidy none t' ∧ Manned r t') :
    ∃ s', filterDataRemoveCallback s freeing answers d cb = .ok s' ∧ Tidy none s' ∧ Manned r s' := by
  have clear : cb.data ≠ .freed := by
    rcases tidy.clear d mem cb own with null | call
    · rw [null]
      exact ServiceData.noConfusion
    · rw [call]
      exact ServiceData.noConfusion
  have differs : ∀ w ∈ d.callbacks ++ d.processed, w.id = r → ¬Silent w → w.id ≠ cb.id := by
    intro w inside running loud same
    have this : w = cb := List.inj_on_of_nodup_map (orderly.numbered.ids mem) inside own same
    subst this
    exact loud (other running)
  have manned' : Manned r (dropCallback s d cb) := manned.drop mem fun _ => differs
  unfold filterDataRemoveCallback
  rw [if_neg clear]
  split
  case isTrue more =>
    refine ⟨_, rfl, tidy.drop orderly.table mem fun _ => ?_, manned'⟩
    rcases more with some | locked
    · exact List.append_ne_nil_of_left_ne_nil some _
    · obtain ⟨w, inside, running, loud⟩ := manned d mem locked
      exact List.ne_nil_of_mem (FilterData.remove_mem inside (differs w inside running loud))
  case isFalse last =>
    obtain ⟨dropped, there⟩ := orderly.table.dropCallback_op (c := .free) mem own trivial
    have orderly' := dropped.orderly orderly
    have spare : Tidy (some d.key) (dropCallback s d cb) := tidy.drop orderly.table mem fun other => absurd rfl other
    obtain ⟨removed, t, left, tidy', rest⟩ := spare.unlisten orderly'.table good there rfl rfl
    obtain ⟨none, free⟩ := not_or.mp last
    have unlocked : d.lock = false := by simpa using free
    have empty := orderly'.table.empty there (not_not.mp none) unlocked
    have ops : Ops .free s t := dropped.ops.trans (removeListener_ops there rfl empty unlocked left)
    dsimp only
    rw [if_pos removed, left]
    refine frees t tidy' (Ops.orderly ops orderly) (fun a stays => ?_) (Ops.named ops (orderly.quiet d mem))
    rw [rest] at stays
    exact manned' a (List.mem_of_mem_filter stays)

/-- A watch is removed without a fault, unless it is the one that is called. -/
theorem Tidy.removeWatch {r : Nat} (rounds : Nat) (tidy : Tidy none s) (orderly : Orderly s) (manned : Manned r s)
    (good : answers.Good) (id : Nat) (other : ∀ cb ∈ s.watches, cb.id = id → id = r → Silent cb) :
    ∃ s', removeWatch answers rounds s id = .ok s' ∧ Tidy none s' ∧ Manned r s' := by
  induction rounds generalizing s id with
  | zero => exact ⟨s, rfl, tidy, manned⟩
  | succ rounds ih =>
    unfold Watch.removeWatch
    split
    · exact ⟨s, rfl, tidy, manned⟩
    split
    case h_1 => exact ⟨s, rfl, tidy, manned⟩
    case h_2 data cb found =>
      obtain ⟨mem, own, rfl⟩ := findCallback_spec found
      refine tidy.removeCallback orderly manned good mem own (other _ (mem_watches mem own) rfl) fun t tidy' orderly' manned' named => ?_
      exact ih tidy' orderly' manned' data.nameWatch fun w there same _ => named.silent w there same

end ConnmanUi.Watch
