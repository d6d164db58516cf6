import ConnmanUi.ListHandlers
import ConnmanUi.RegistryFreeing
import ConnmanUi.ServiceOwnership

/-!
List messages that are not lists.

An error reply is handed to the handler of the list like any other, and the
handlers look at their arguments one at a time, if at all.  `kept_iff` says for
every body which of the five handlers leave the tables, the order and the
phases alone and look up no path that was not read.
-/

namespace ConnmanUi

open DBus

namespace Reading

open Service (Key ConnmanIpv4 ConnmanIpv6 ConnmanProxy ConnmanProvider ConnmanEthernet)

/-! ## What can be read -/

/-- Nothing goes wrong. -/
def Succeeds {α : Type} (x : Reads α) : Prop := ∃ a, x = .ok a

theorem succeeds_bind {α β : Type} {x : Reads α} {f : α → Reads β} :
    Succeeds (x >>= f) ↔ ∃ a, x = .ok a ∧ Succeeds (f a) := by
  constructor
  · rintro ⟨b, ok⟩
    obtain ⟨a, read, rest⟩ := bind_ok ok
    exact ⟨a, read, b, rest⟩
  · rintro ⟨a, rfl, rest⟩
    exact rest

theorem succeeds_ok {α : Type} (a : α) : Succeeds (.ok a) := ⟨a, rfl⟩

theorem succeeds_ite {α : Type} {p : Prop} [Decidable p] (a b : α) :
    Succeeds (if p then .ok a else .ok b : Reads α) := by
  split
  · exact ⟨a, rfl⟩
  · exact ⟨b, rfl⟩

theorem succeeds_map {α β : Type} {x : Reads α} {f : α → β} : Succeeds (x.map f) ↔ Succeeds x := by
  cases x with
  | error fault => exact ⟨(fun ok => nomatch ok), (fun ok => nomatch ok)⟩
  | ok a => exact ⟨fun _ => ⟨a, rfl⟩, fun _ => ⟨f a, rfl⟩⟩

/-- Where each step goes through or not whatever the state, so does the fold. -/
theorem succeeds_foldlM {α σ : Type} {step : σ → α → Reads σ} {fine : α → Prop} (inv : σ → Prop)
    (each : ∀ s a, inv s → (Succeeds (step s a) ↔ fine a))
    (kept : ∀ s a s', inv s → step s a = .ok s' → inv s') (l : List α) (s : σ) (holds : inv s) :
    Succeeds (l.foldlM step s) ↔ ∀ a ∈ l, fine a := by
  induction l generalizing s with
  | nil => exact ⟨fun _ => nofun, fun _ => ⟨s, rfl⟩⟩
  | cons a l ih =>
    rw [List.foldlM_cons, succeeds_bind, List.forall_mem_cons]
    constructor
    · rintro ⟨middle, first, rest⟩
      exact ⟨(each s a holds).mp ⟨middle, first⟩, (ih middle (kept s a middle holds first)).mp rest⟩
    · rintro ⟨first, rest⟩
      obtain ⟨middle, first⟩ := (each s a holds).mpr first
      exact ⟨middle, first, (ih middle (kept s a middle holds first)).mpr rest⟩

/-- Whether a value can be read does not depend on what the member holds. -/
theorem decode_old (arg : Body) (k : Key) (old old' : k.Field) :
    Succeeds (decode arg k old) ↔ Succeeds (decode arg k old') := by
  have ipv4 : ∀ old old', Succeeds (parseIpv4 arg old) ↔ Succeeds (parseIpv4 arg old') := fun old old' => by
    simp only [parseIpv4, succeeds_bind, succeeds_ite]
  have ipv6 : ∀ old old', Succeeds (parseIpv6 arg old) ↔ Succeeds (parseIpv6 arg old') := fun old old' => by
    simp only [parseIpv6, succeeds_bind, succeeds_ite]
  have proxy : ∀ old old', Succeeds (parseProxy arg old) ↔ Succeeds (parseProxy arg old') := fun old old' => by
    simp only [parseProxy, succeeds_bind, succeeds_ite]
  have provider : ∀ old old', Succeeds (parseProvider arg old) ↔ Succeeds (parseProvider arg old') :=
    fun old old' => by simp only [parseProvider, succeeds_bind, succeeds_ite]
  have ethernet : ∀ old old', Succeeds (parseEthernet arg old) ↔ Succeeds (parseEthernet arg old') :=
    fun old old' => by simp only [parseEthernet, succeeds_bind, succeeds_ok]
  cases k with
  | updatable p =>
    cases p with
    | ipv4 | ipv4Configuration => exact ipv4 old old'
    | ipv6 | ipv6Configuration => exact ipv6 old old'
    | proxy | proxyConfiguration => exact proxy old old'
    | provider => exact provider old old'
    | ethernet => exact ethernet old old'
    | _ => exact Iff.rfl
  | _ => exact Iff.rfl

/-- An entry of a service's dictionary that can be read. -/
def LegibleService (arg : Body) : Prop :=
  ∀ k, serviceProperty arg = some k → Succeeds (decode arg.next k k.zero)

/-- An entry of a technology's. -/
def LegibleTechnology (arg : Body) : Prop :=
  ∀ k, technologyProperty arg = some k → Succeeds (decodeTechnology arg.next {} k)

theorem updateServiceProperty_succeeds (obj : Object Service.Property Service.Record) (arg : Body) :
    Succeeds (updateServiceProperty arg obj) ↔ LegibleService arg := by
  unfold updateServiceProperty LegibleService
  cases serviceProperty arg with
  | none => exact ⟨fun _ => nofun, fun _ => succeeds_ok obj⟩
  | some k => simp [succeeds_map, decode_old arg.next k (obj.rest k) k.zero]

theorem updateTechnologyProperty_succeeds (obj : Object Technology.Property Technology.Record) (arg : Body) :
    Succeeds (updateTechnologyProperty arg obj) ↔ LegibleTechnology arg := by
  have record : ∀ k, Succeeds (decodeTechnology arg.next obj.rest k) ↔ Succeeds (decodeTechnology arg.next {} k) := by
    intro k
    cases k with
    | updatable p =>
      cases p with
      | powered => simp only [decodeTechnology, succeeds_ok]
      | connected => simp only [decodeTechnology, succeeds_ok]
      | tethering => simp only [decodeTechnology, succeeds_ok]
      | tetheringIdentifier => simp only [decodeTechnology, succeeds_map]
      | tetheringPassphrase => simp only [decodeTechnology, succeeds_map]
    | name => simp only [decodeTechnology, succeeds_map]
    | type => simp only [decodeTechnology, succeeds_map]
  unfold updateTechnologyProperty LegibleTechnology
  cases technologyProperty arg with
  | none => exact ⟨fun _ => by simp, fun _ => succeeds_ok obj⟩
  | some k => simp [succeeds_map, record k]

theorem readLocal_ok_iff {α : Type} {known : Option α} {a : α} : readLocal known = .ok a ↔ known = some a := by
  cases known with
  | none => exact ⟨(fun ok => nomatch ok), (fun ok => nomatch ok)⟩
  | some b => exact ⟨fun ok => congrArg some (Except.ok.inj ok), fun same => congrArg Except.ok (Option.some.inj same)⟩

theorem map_ok_iff {α β : Type} {x : Reads α} {f : α → β} {b : β} :
    x.map f = .ok b ↔ ∃ a, x = .ok a ∧ f a = b := by
  cases x with
  | error fault => exact ⟨(fun ok => nomatch ok), (fun ⟨_, ok, _⟩ => nomatch ok)⟩
  | ok a =>
    constructor
    · intro ok
      exact ⟨a, rfl, Except.ok.inj ok⟩
    · rintro ⟨a', same, mapped⟩
      cases same
      exact congrArg Except.ok mapped

/-- What a handler reads of a list before it looks anything up: each object's
path with the iterator at its properties, and the path read last. -/
def listed : List Body → Option String → Reads (List (String × Body) × Option String)
  | [], objPath => .ok ([], objPath)
  | iter :: rest, objPath => do
    let strt ← recurse iter
    let objPath := (cuiDbusGetBasic strt .objectPath).or objPath
    let path ← readLocal objPath
    let later ← listed rest objPath
    .ok ((path, strt.next) :: later.1, later.2)

/-- What it reads of a list of paths. -/
def listedPaths : List Body → Option String → Reads (List String)
  | [], _ => .ok []
  | iter :: rest, objPath => do
    let objPath := (cuiDbusGetBasic iter .objectPath).or objPath
    let path ← readLocal objPath
    let later ← listedPaths rest objPath
    .ok (path :: later)

theorem listObjects_ok_iff {σ : Type} {update : σ → String → Body → Reads σ} (items : List Body)
    (objPath : Option String) (s s' : σ) (last : Option String) :
    listObjects update items objPath s = .ok (s', last) ↔
      ∃ l, listed items objPath = .ok (l, last) ∧ l.foldlM (fun s object => update s object.1 object.2) s = .ok s' := by
  induction items generalizing objPath s with
  | nil =>
    constructor
    · intro ok
      cases ok
      exact ⟨[], rfl, rfl⟩
    · rintro ⟨l, walked, ran⟩
      cases walked
      cases ran
      rfl
  | cons iter items ih =>
    constructor
    · intro ok
      obtain ⟨strt, entered, ok⟩ := bind_ok ok
      obtain ⟨path, decoded, ok⟩ := bind_ok ok
      obtain ⟨middle, updated, ok⟩ := bind_ok ok
      obtain ⟨l, walked, ran⟩ := (ih _ _).mp ok
      refine ⟨(path, strt.next) :: l, ?_, ?_⟩
      · simp only [listed, entered, decoded, walked, bind, Except.bind]
      · simp only [List.foldlM_cons, updated, bind, Except.bind, ran]
    · rintro ⟨l, walked, ran⟩
      obtain ⟨strt, entered, walked⟩ := bind_ok walked
      obtain ⟨path, decoded, walked⟩ := bind_ok walked
      obtain ⟨later, rest, walked⟩ := bind_ok walked
      cases walked
      obtain ⟨middle, updated, ran⟩ := bind_ok ran
      simp only [listObjects, entered, decoded, updated, bind, Except.bind]
      exact (ih _ _).mpr ⟨later.1, rest, ran⟩

theorem removeObjects_eq {σ : Type} (remove : σ → String → σ) (items : List Body) (objPath : Option String) (s : σ) :
    removeObjects remove items objPath s = (listedPaths items objPath).map fun l => l.foldl remove s := by
  induction items generalizing objPath s with
  | nil => rfl
  | cons iter items ih =>
    simp only [removeObjects, listedPaths, ih]
    cases readLocal ((cuiDbusGetBasic iter .objectPath).or objPath) with
    | error fault => rfl
    | ok path => cases listedPaths items ((cuiDbusGetBasic iter .objectPath).or objPath) <;> rfl

/-! ## Listing services -/

section Services

open Service (State)
open Registry

variable {s s' : State}

/-- An entry that is read leaves the object where it is. -/
theorem updateServiceProperty_path {arg : Body} {obj obj' : Object Service.Property Service.Record}
    (ok : updateServiceProperty arg obj = .ok obj') : obj'.path = obj.path := by
  unfold updateServiceProperty at ok
  split at ok
  · cases ok
    rfl
  case h_2 k _ =>
    cases decoded : decode arg.next k (obj.rest k) with
    | error fault =>
      rw [decoded] at ok
      cases ok
    | ok value =>
      rw [decoded] at ok
      cases ok
      rfl

theorem updateServiceProperties_path {args : List Body} {obj obj' : Object Service.Property Service.Record}
    (ok : args.foldlM (fun obj arg => updateServiceProperty arg obj) obj = .ok obj') : obj'.path = obj.path := by
  induction args generalizing obj with
  | nil =>
    cases ok
    rfl
  | cons arg args ih =>
    obtain ⟨middle, first, rest⟩ := bind_ok ok
    exact (ih rest).trans (updateServiceProperty_path first)

/-- A dictionary of a service that can be read. -/
def LegibleServices (dict : Body) : Prop := ∀ arg ∈ (Delivery.dictionary dict).calls, LegibleService arg

def LegibleTechnologies (dict : Body) : Prop := ∀ arg ∈ (Delivery.dictionary dict).calls, LegibleTechnology arg

theorem updateOrCreateService_succeeds (s : State) (path : String) (dict : Body) :
    Succeeds (updateOrCreateService s path dict) ↔ LegibleServices dict := by
  have read := succeeds_foldlM (fun _ => True) (fun obj arg _ => updateServiceProperty_succeeds obj arg)
    (fun _ _ _ _ _ => trivial) (Delivery.dictionary dict).calls
    ((Service.getOrCreate s path).1.reg.heap (Service.getOrCreate s path).2) trivial
  rw [← Delivery.deliver_calls] at read
  apply Iff.trans _ read
  constructor
  · rintro ⟨after, ok⟩
    obtain ⟨obj, read, _⟩ := bind_ok ok
    exact ⟨obj, read⟩
  · rintro ⟨obj, read⟩
    exact succeeds_bind.mpr ⟨obj, read, succeeds_ok _⟩

/-- A service is found or created, and appended to the list. -/
theorem updateOrCreateService_spec {path : String} {dict : Body} (ok : updateOrCreateService s path dict = .ok s') :
    s'.ordered = s.ordered ++ [(Service.getOrCreate s path).2] ∧
      SamePlace (Service.getOrCreate s path).1.reg s'.reg ∧ s'.refreshed = s.refreshed := by
  obtain ⟨obj, read, stored⟩ := bind_ok ok
  rw [Delivery.deliver_calls] at read
  have named := updateServiceProperties_path read
  have rest : (Service.getOrCreate s path).1.ordered = s.ordered ∧
      (Service.getOrCreate s path).1.refreshed = s.refreshed := by
    unfold Service.getOrCreate
    split
    · exact ⟨rfl, rfl⟩
    · exact ⟨rfl, rfl⟩
  cases stored
  refine ⟨congrArg (· ++ _) rest.1, ?_, rest.2⟩
  have place := modify_place (r := (Service.getOrCreate s path).1.reg) (f := fun _ => obj) named
  exact place

theorem listServices_appends {l : List (String × Body)}
    (ok : l.foldlM (fun s object => updateOrCreateService s object.1 object.2) s = .ok s') :
    ∃ added, s'.ordered = s.ordered ++ added := by
  induction l generalizing s with
  | nil =>
    cases ok
    exact ⟨[], (List.append_nil _).symm⟩
  | cons object l ih =>
    obtain ⟨middle, first, rest⟩ := bind_ok ok
    obtain ⟨added, appended⟩ := ih rest
    rw [(updateOrCreateService_spec first).1, List.append_assoc] at appended
    exact ⟨_, appended⟩

/-- Services that are known all stay where they are. -/
theorem listServices_known {l : List (String × Body)} {os : List ObjId}
    (ok : l.foldlM (fun s object => updateOrCreateService s object.1 object.2) s = .ok s')
    (known : l.map (fun object => s.reg.get object.1) = os.map some) :
    s'.ordered = s.ordered ++ os ∧ SamePlace s.reg s'.reg ∧ s'.refreshed = s.refreshed := by
  induction l generalizing s os with
  | nil =>
    cases ok
    cases os with
    | nil => exact ⟨(List.append_nil _).symm, ⟨rfl, rfl, rfl, rfl, fun _ => rfl⟩, rfl⟩
    | cons o os => cases known
  | cons object l ih =>
    cases os with
    | nil => cases known
    | cons o os =>
      obtain ⟨here, later⟩ := List.cons.inj known
      obtain ⟨middle, first, rest⟩ := bind_ok ok
      obtain ⟨ordered, place, refreshed⟩ := updateOrCreateService_spec first
      have found : Service.getOrCreate s object.1 = (s, o) := by
        have named : s.reg.get object.1 = some o := here
        unfold Service.getOrCreate
        rw [named]
      rw [found] at ordered place
      have known' : l.map (fun object => middle.reg.get object.1) = os.map some := by
        simpa only [place.get] using later
      obtain ⟨ordered', place', refreshed'⟩ := ih rest known'
      refine ⟨?_, place.trans place', refreshed'.trans refreshed⟩
      rw [ordered', ordered, List.append_assoc]
      rfl

/-- Listing services adds `os` to the list exactly if it names these objects. -/
theorem listServices_iff (l : List (String × Body)) (os : List ObjId) (below : ∀ o ∈ os, o < s.reg.next) :
    (∃ s', l.foldlM (fun s object => updateOrCreateService s object.1 object.2) s = .ok s' ∧
      s'.ordered = s.ordered ++ os) ↔
    (∀ object ∈ l, LegibleServices object.2) ∧ l.map (fun object => s.reg.get object.1) = os.map some := by
  have legible := succeeds_foldlM (fun _ => True) (fun s (object : String × Body) _ =>
    updateOrCreateService_succeeds s object.1 object.2) (fun _ _ _ _ _ => trivial) l s trivial
  constructor
  · rintro ⟨s', ok, ordered⟩
    refine ⟨legible.mp ⟨s', ok⟩, ?_⟩
    clear legible
    induction l generalizing s os with
    | nil =>
      cases ok
      have empty : os = [] := List.self_eq_append_right.mp ordered
      rw [empty]
      rfl
    | cons object l ih =>
      obtain ⟨middle, first, rest⟩ := bind_ok ok
      obtain ⟨appended, place, _⟩ := updateOrCreateService_spec first
      obtain ⟨added, later⟩ := listServices_appends rest
      rw [later, appended, List.append_assoc, List.append_right_inj] at ordered
      subst ordered
      have old := below (Service.getOrCreate s object.1).2 (List.mem_cons_self)
      -- an object that was not there would be a new one
      have found : s.reg.get object.1 = some (Service.getOrCreate s object.1).2 ∧
          (Service.getOrCreate s object.1).1 = s := by
        unfold Service.getOrCreate at old ⊢
        cases known : s.reg.get object.1 with
        | some o => exact ⟨rfl, rfl⟩
        | none =>
          rw [known] at old
          exact absurd old (Nat.lt_irrefl _)
      rw [found.2] at place
      have tail := ih added (fun o there => place.next ▸ below o (List.mem_cons_of_mem _ there)) rest later
      rw [List.map_cons, List.singleton_append, List.map_cons, found.1]
      simpa only [place.get] using congrArg (some (Service.getOrCreate s object.1).2 :: ·) tail
  · rintro ⟨fine, known⟩
    obtain ⟨s', ok⟩ := legible.mpr fine
    exact ⟨s', ok, (listServices_known ok known).1⟩

/-! ## Removing services -/

theorem removeService_table (s : State) (path : String) :
    (Service.removeService s path).reg.table = s.reg.table.filter (·.1 ≠ path) := by
  unfold Service.removeService
  split
  case h_1 unknown =>
    have absent : s.reg.table.lookup path = none := by
      unfold Registry.get at unknown
      split at unknown
      · cases unknown
      · assumption
    rw [← hashRemove_table, Registry.hashRemove, absent]
  case h_2 =>
    dsimp only
    split
    · exact hashRemove_table s.reg path
    · exact hashRemove_table s.reg path

theorem removeServices_table (paths : List String) (s : State) :
    (paths.foldl Service.removeService s).reg.table = s.reg.table.filter (·.1 ∉ paths) := by
  induction paths generalizing s with
  | nil => simp
  | cons path paths ih =>
    rw [List.foldl_cons, ih, removeService_table, List.filter_filter]
    refine List.filter_congr fun entry _ => ?_
    simp [Bool.and_comm]

/-- Nothing is dropped exactly if none of the keys is there. -/
theorem filter_keys_iff {β : Type} (table : List (String × β)) (paths : List String) :
    table.filter (·.1 ∉ paths) = table ↔ ∀ path ∈ paths, table.lookup path = none := by
  rw [List.filter_eq_self]
  constructor
  · intro kept path gone
    refine List.lookup_eq_none_iff.mpr fun entry there => ?_
    have stays := of_decide_eq_true (kept entry there)
    exact bne_iff_ne.mpr fun same => stays (same ▸ gone)
  · intro absent entry there
    refine decide_eq_true fun gone => ?_
    have other := List.lookup_eq_none_iff.mp (absent entry.1 gone) entry there
    exact bne_iff_ne.mp other rfl

theorem removeServices_table_iff (paths : List String) (s : State) :
    (paths.foldl Service.removeService s).reg.table = s.reg.table ↔
      ∀ path ∈ paths, s.reg.table.lookup path = none := by
  rw [removeServices_table, filter_keys_iff]

/-! ## The handlers of the services -/

/-- The table, the order and the phase are as before. -/
structure SameServices (s s' : State) : Prop where
  table : s'.reg.table = s.reg.table
  ordered : s'.ordered = s.ordered
  refreshed : s'.refreshed = s.refreshed

/-- The handler comes to its end, and they are. -/
def ServicesKept (s : State) (handled : Reads State) : Prop := ∃ s', handled = .ok s' ∧ SameServices s s'

/-- An array names the services of the list in its order: each element has a
path, and a dictionary that can be read. -/
def NamesOrdered (s : State) (items : Body) : Prop :=
  ∃ l last, listed items.positions none = .ok (l, last) ∧ (∀ object ∈ l, LegibleServices object.2) ∧
    l.map (fun object => s.reg.get object.1) = s.ordered.map some

/-- The GetServices replies that change nothing. -/
def GetServicesKeeps (s : State) (reply : Body) : Prop :=
  s.up = false ∨
    match reply with
    | .nil => True
    | .array _ items _ => s.refreshed = true ∧ NamesOrdered s items
    | _ => s.ordered = []

/-- The ServicesChanged signals that do. -/
def ServicesChangedKeeps (s : State) (message : Body) : Prop :=
  message = .nil ∨ s.up = false ∨
    ∃ changed removed l last paths, message.inside = some changed ∧ message.next.inside = some removed ∧
      listed changed.positions none = .ok (l, last) ∧ (∀ object ∈ l, LegibleServices object.2) ∧
      l.map (fun object => s.reg.get object.1) = s.ordered.map some ∧
      listedPaths removed.positions last = .ok paths ∧ ∀ path ∈ paths, s.reg.table.lookup path = none

theorem callRefreshCallback_same (s : State) : SameServices s (Service.callRefreshCallback s) := by
  unfold Service.callRefreshCallback
  split
  · exact ⟨rfl, rfl, rfl⟩
  · exact ⟨(scheduleRefresh_sameObjects s.reg).1.table, rfl, rfl⟩

theorem refreshing_same (s : State) : SameServices s (if s.refreshed then Service.callRefreshCallback s else s) := by
  split
  · exact callRefreshCallback_same s
  · exact ⟨rfl, rfl, rfl⟩

theorem SameServices.trans {s'' : State} (first : SameServices s s') (rest : SameServices s' s'') :
    SameServices s s'' :=
  ⟨rest.table.trans first.table, rest.ordered.trans first.ordered, rest.refreshed.trans first.refreshed⟩

theorem getServicesCb_kept_iff (up : s.up = true) (elem : Sig) (items rest : Body)
    (below : ∀ o ∈ s.ordered, o < s.reg.next) :
    ServicesKept s (getServicesCb s (.array elem items rest)) ↔ s.refreshed = true ∧ NamesOrdered s items := by
  have names := fun l => listServices_iff (s := { s with ordered := [] }) l s.ordered below
  unfold getServicesCb
  rw [if_pos up]
  constructor
  · rintro ⟨s', ok, same⟩
    obtain ⟨⟨after, last⟩, walked, done⟩ := bind_ok ok
    obtain ⟨l, read, ran⟩ := (listObjects_ok_iff _ _ _ _ _).mp walked
    dsimp only at done
    split at done
    case isTrue refreshed =>
      cases done
      have ordered : after.ordered = s.ordered := (callRefreshCallback_same after).ordered.symm.trans same.ordered
      obtain ⟨legible, known⟩ := (names l).mp ⟨after, ran, ordered⟩
      have kept := (listServices_known ran known).2.2
      exact ⟨kept.symm.trans refreshed, l, last, read, legible, known⟩
    case isFalse unrefreshed =>
      cases done
      obtain ⟨legible, known⟩ := (names l).mp ⟨after, ran, same.ordered⟩
      have kept : after.refreshed = s.refreshed := (listServices_known ran known).2.2
      have set : s.refreshed = true := same.refreshed.symm
      exact absurd (kept.trans set) unrefreshed
  · rintro ⟨refreshed, l, last, read, legible, known⟩
    obtain ⟨after, ran, ordered⟩ := (names l).mpr ⟨legible, known⟩
    obtain ⟨_, place, kept⟩ := listServices_known ran known
    have walked := (listObjects_ok_iff _ _ _ _ _).mpr ⟨l, read, ran⟩
    refine ⟨Service.callRefreshCallback after, ?_, ?_⟩
    · simp only [walked, bind, Except.bind]
      rw [if_pos (kept.trans refreshed)]
    · exact SameServices.trans ⟨place.table, ordered, kept⟩ (callRefreshCallback_same after)

theorem getServicesCallback_kept_iff (below : ∀ o ∈ s.ordered, o < s.reg.next) (reply : Body) :
    ServicesKept s (getServicesCallback s reply) ↔ GetServicesKeeps s reply := by
  have cleared : ∀ handled, ServicesKept { s with getServicesCall := none } handled ↔ ServicesKept s handled :=
    fun handled => ⟨fun ⟨s', ok, same⟩ => ⟨s', ok, same.table, same.ordered, same.refreshed⟩,
      fun ⟨s', ok, same⟩ => ⟨s', ok, same.table, same.ordered, same.refreshed⟩⟩
  unfold GetServicesKeeps
  cases up : s.up with
  | false =>
    refine iff_of_true ?_ (.inl rfl)
    cases reply with
    | nil => exact ⟨_, rfl, rfl, rfl, rfl⟩
    | _ => exact ⟨_, if_neg (by simp [up]), rfl, rfl, rfl⟩
  | true =>
    have other : ∀ reply : Body, getServicesCallback s reply = .ok { s with getServicesCall := none, ordered := [] } →
        (ServicesKept s (getServicesCallback s reply) ↔ true = false ∨ s.ordered = []) := by
      intro reply handled
      rw [handled]
      constructor
      · rintro ⟨s', ok, same⟩
        cases ok
        exact .inr same.ordered.symm
      · rintro (down | empty)
        · cases down
        · exact ⟨_, rfl, rfl, empty.symm, rfl⟩
    cases reply with
    | nil => exact iff_of_true ⟨_, rfl, rfl, rfl, rfl⟩ (.inr trivial)
    | array elem items rest =>
      have kept := getServicesCb_kept_iff (s := { s with getServicesCall := none }) up elem items rest below
      refine ((cleared _).symm.trans kept).trans ⟨fun names => .inr names, ?_⟩
      rintro (down | names)
      · cases down
      · exact names
    | _ => exact other _ (if_pos up)

theorem servicesChangedSignalCb_kept_iff (below : ∀ o ∈ s.ordered, o < s.reg.next) (message : Body) :
    ServicesKept s (servicesChangedSignalCb s message) ↔ ServicesChangedKeeps s message := by
  have names := fun l => listServices_iff (s := { s with ordered := [] }) l s.ordered below
  unfold ServicesChangedKeeps
  by_cases empty : message = .nil
  · subst empty
    exact iff_of_true ⟨s, rfl, rfl, rfl, rfl⟩ (.inl rfl)
  have handled : servicesChangedSignalCb s message = serviceChangedSignalCb s message := by
    cases message with
    | nil => exact absurd rfl empty
    | _ => rfl
  rw [handled]
  unfold serviceChangedSignalCb
  by_cases up : s.up = true
  case neg => exact iff_of_true ⟨s, if_neg up, rfl, rfl, rfl⟩ (.inr (.inl (Bool.not_eq_true _ ▸ up)))
  case pos =>
    rw [if_pos up]
    constructor
    · rintro ⟨s', ok, same⟩
      obtain ⟨changed, entered, ok⟩ := bind_ok ok
      obtain ⟨⟨after, last⟩, walked, ok⟩ := bind_ok ok
      obtain ⟨removed, entered', ok⟩ := bind_ok ok
      obtain ⟨dropped, left, done⟩ := bind_ok ok
      obtain ⟨l, read, ran⟩ := (listObjects_ok_iff _ _ _ _ _).mp walked
      rw [removeObjects_eq] at left
      obtain ⟨paths, readPaths, rfl⟩ := map_ok_iff.mp left
      have frame := (Service.removeServices_spec paths after).2
      have refreshing : SameServices (paths.foldl Service.removeService after) s' :=
        Except.ok.inj done ▸ refreshing_same _
      have ordered : after.ordered = s.ordered := by
        rw [← same.ordered, refreshing.ordered, frame]
      obtain ⟨legible, known⟩ := (names l).mp ⟨after, ran, ordered⟩
      have table : after.reg.table = s.reg.table := (listServices_known ran known).2.1.table
      refine .inr (.inr ⟨changed, removed, l, last, paths, readLocal_ok_iff.mp entered,
        readLocal_ok_iff.mp entered', read, legible, known, readPaths, ?_⟩)
      rw [← table]
      exact (removeServices_table_iff paths after).mp
        (refreshing.table.symm.trans (same.table.trans table.symm))
    · rintro (none | down | ⟨changed, removed, l, last, paths, entered, entered', read, legible, known,
        readPaths, absent⟩)
      · exact absurd none empty
      · exact absurd (up.symm.trans down) nofun
      · obtain ⟨after, ran, ordered⟩ := (names l).mpr ⟨legible, known⟩
        obtain ⟨_, place, refreshed⟩ := listServices_known ran known
        have walked := (listObjects_ok_iff _ _ _ _ _).mpr ⟨l, read, ran⟩
        have left := removeObjects_eq Service.removeService removed.positions last after
        rw [readPaths] at left
        have table : (paths.foldl Service.removeService after).reg.table = s.reg.table := by
          refine ((removeServices_table_iff paths after).mpr ?_).trans place.table
          rw [place.table]
          exact absent
        have dropped : SameServices s (paths.foldl Service.removeService after) := by
          refine ⟨table, ?_, ?_⟩
          · rw [(Service.removeServices_spec paths after).2]
            exact ordered
          · rw [(Service.removeServices_spec paths after).2]
            exact refreshed
        refine ⟨_, ?_, dropped.trans (refreshing_same _)⟩
        simp only [recurse, readLocal_ok_iff.mpr entered, walked, readLocal_ok_iff.mpr entered', left, Except.map,
          bind, Except.bind]

end Services

/-! ## Listing technologies -/

section Technologies

open Technology (State)
open Registry

variable {s s' : State}

theorem updateTechnologyProperty_path {arg : Body} {obj obj' : Object Technology.Property Technology.Record}
    (ok : updateTechnologyProperty arg obj = .ok obj') : obj'.path = obj.path := by
  unfold updateTechnologyProperty at ok
  split at ok
  · cases ok
    rfl
  · obtain ⟨record, _, rfl⟩ := map_ok_iff.mp ok
    rfl

/-- `s'` is `s` with every technology where it was. -/
structure SameTable (s s' : State) : Prop where
  place : SamePlace s.reg s'.reg
  up : s'.up = s.up
  set : s'.set = s.set

theorem SameTable.trans {s'' : State} (first : SameTable s s') (rest : SameTable s' s'') : SameTable s s'' :=
  ⟨first.place.trans rest.place, rest.up.trans first.up, rest.set.trans first.set⟩

theorem updateProperty_spec {o : ObjId} {arg : Body} (ok : updateProperty o arg s = .ok s') : SameTable s s' := by
  obtain ⟨obj, read, stored⟩ := bind_ok ok
  have place := modify_place (r := s.reg) (f := fun _ => obj) (updateTechnologyProperty_path read)
  dsimp only at stored
  split at stored
  · cases stored
    exact ⟨place.trans (propertyUpdate_upkeep _ o _).toSameObjects.place, rfl, rfl⟩
  · cases stored
    exact ⟨place, rfl, rfl⟩

theorem updateProperty_succeeds (o : ObjId) (s : State) (arg : Body) :
    Succeeds (updateProperty o arg s) ↔ LegibleTechnology arg := by
  rw [← updateTechnologyProperty_succeeds (s.reg.heap o)]
  constructor
  · rintro ⟨after, ok⟩
    obtain ⟨obj, read, _⟩ := bind_ok ok
    exact ⟨obj, read⟩
  · rintro ⟨obj, read⟩
    refine succeeds_bind.mpr ⟨obj, read, ?_⟩
    dsimp only
    split
    · exact succeeds_ok _
    · exact succeeds_ok _

theorem updateProperties_spec {o : ObjId} {args : List Body}
    (ok : args.foldlM (fun s arg => updateProperty o arg s) s = .ok s') : SameTable s s' := by
  induction args generalizing s with
  | nil =>
    cases ok
    exact ⟨⟨rfl, rfl, rfl, rfl, fun _ => rfl⟩, rfl, rfl⟩
  | cons arg args ih =>
    obtain ⟨middle, first, rest⟩ := bind_ok ok
    exact (updateProperty_spec first).trans (ih rest)

theorem updateOrCreateTechnology_succeeds (up : s.up = true) (path : String) (dict : Body) :
    Succeeds (updateOrCreateTechnology s path dict) ↔ LegibleTechnologies dict := by
  unfold updateOrCreateTechnology
  rw [if_pos up]
  dsimp only
  rw [Delivery.deliver_calls]
  exact succeeds_foldlM (fun _ => True) (fun s arg _ => updateProperty_succeeds _ s arg)
    (fun _ _ _ _ _ => trivial) _ _ trivial

/-- A technology that is not known is entered, and nothing else is. -/
theorem updateOrCreateTechnology_spec {path : String} {dict : Body} (up : s.up = true)
    (ok : updateOrCreateTechnology s path dict = .ok s') : SameTable (Technology.getOrCreate s path).1 s' := by
  unfold updateOrCreateTechnology at ok
  rw [if_pos up] at ok
  dsimp only at ok
  rw [Delivery.deliver_calls] at ok
  exact updateProperties_spec ok

theorem getOrCreate_rest (s : State) (path : String) :
    (Technology.getOrCreate s path).1.up = s.up ∧ (Technology.getOrCreate s path).1.set = s.set := by
  unfold Technology.getOrCreate
  split
  · exact ⟨rfl, rfl⟩
  · exact ⟨rfl, rfl⟩

theorem updateOrCreateTechnology_rest {path : String} {dict : Body} (up : s.up = true)
    (ok : updateOrCreateTechnology s path dict = .ok s') : s'.up = true ∧ s'.set = s.set := by
  have same := updateOrCreateTechnology_spec up ok
  have rest := getOrCreate_rest s path
  exact ⟨same.up.trans (rest.1.trans up), same.set.trans rest.2⟩

theorem listTechnologies_succeeds (up : s.up = true) (l : List (String × Body)) :
    Succeeds (l.foldlM (fun s object => updateOrCreateTechnology s object.1 object.2) s) ↔
      ∀ object ∈ l, LegibleTechnologies object.2 :=
  succeeds_foldlM (fun s => s.up = true)
    (fun _ (object : String × Body) up => updateOrCreateTechnology_succeeds up object.1 object.2)
    (fun _ _ _ up ok => (updateOrCreateTechnology_rest up ok).1) l s up

/-- Listing technologies enters those that are not known. -/
theorem listTechnologies_spec {l : List (String × Body)} (up : s.up = true)
    (ok : l.foldlM (fun s object => updateOrCreateTechnology s object.1 object.2) s = .ok s') :
    s'.set = s.set ∧ ∃ added, s'.reg.table = added ++ s.reg.table ∧
      (added = [] ↔ ∀ object ∈ l, s.reg.get object.1 ≠ none) := by
  induction l generalizing s with
  | nil =>
    cases ok
    exact ⟨rfl, [], rfl, fun _ => nofun, fun _ => rfl⟩
  | cons object l ih =>
    obtain ⟨middle, first, rest⟩ := bind_ok ok
    obtain ⟨up', set⟩ := updateOrCreateTechnology_rest up first
    have same := (updateOrCreateTechnology_spec up first).place
    obtain ⟨set', added, table, none_⟩ := ih up' rest
    refine ⟨set'.trans set, ?_⟩
    rw [List.forall_mem_cons]
    unfold Technology.getOrCreate at same
    cases known : s.reg.get object.1 with
    | some o =>
      rw [known] at same
      refine ⟨added, table.trans (congrArg (added ++ ·) same.table), none_.trans ?_⟩
      have later : ∀ path, middle.reg.get path = s.reg.get path := same.get
      simp [later]
    | none =>
      rw [known] at same
      have entered : middle.reg.table = (object.1, s.reg.next) :: s.reg.table := same.table
      refine ⟨added ++ [(object.1, s.reg.next)], ?_, by simp⟩
      rw [table, entered, List.append_assoc]
      rfl

/-! ## The handlers of the technologies -/

/-- The table and the phase are as before. -/
structure SameTechnologies (s s' : State) : Prop where
  table : s'.reg.table = s.reg.table
  set : s'.set = s.set

def TechnologiesKept (s : State) (handled : Reads State) : Prop := ∃ s', handled = .ok s' ∧ SameTechnologies s s'

/-- The GetTechnologies replies that change nothing. -/
def GetTechnologiesKeeps (s : State) (reply : Body) : Prop :=
  s.up = false ∨
    match reply with
    | .array _ items _ => s.set = true ∧ ∃ l last, listed items.positions none = .ok (l, last) ∧
        ∀ object ∈ l, LegibleTechnologies object.2 ∧ s.reg.get object.1 ≠ none
    | _ => True

/-- The TechnologyAdded signals that do. -/
def TechnologyAddedKeeps (s : State) (message : Body) : Prop :=
  message = .nil ∨ ∃ path, cuiDbusGetBasic message .objectPath = some path ∧
    LegibleTechnologies message.next ∧ s.reg.get path ≠ none

/-- The TechnologyRemoved signals that do. -/
def TechnologyRemovedKeeps (s : State) (message : Body) : Prop :=
  message = .nil ∨ ∃ path, cuiDbusGetBasic message .objectPath = some path ∧ s.reg.table.lookup path = none

theorem getTechnologiesCallback_kept_iff (s : State) (reply : Body) :
    TechnologiesKept s (getTechnologiesCallback s reply) ↔ GetTechnologiesKeeps s reply := by
  unfold GetTechnologiesKeeps
  by_cases up : s.up = true
  case neg =>
    refine iff_of_true ?_ (.inl (Bool.not_eq_true _ ▸ up))
    cases reply with
    | nil => exact ⟨_, rfl, rfl, rfl⟩
    | _ => exact ⟨_, if_neg up, rfl, rfl⟩
  case pos =>
    have other : ∀ reply : Body, getTechnologiesCallback s reply = .ok { s with getTechnologiesCall := none } →
        TechnologiesKept s (getTechnologiesCallback s reply) := fun reply handled => ⟨_, handled, rfl, rfl⟩
    cases reply with
    | array elem items rest =>
      have handled : getTechnologiesCallback s (.array elem items rest) =
          getTechnologiesCb { s with getTechnologiesCall := none } (.array elem items rest) := rfl
      have succeeds := listTechnologies_succeeds (s := { s with getTechnologiesCall := none }) up
      rw [handled]
      unfold getTechnologiesCb
      rw [if_pos up]
      constructor
      · rintro ⟨s', ok, same⟩
        obtain ⟨⟨after, last⟩, walked, done⟩ := bind_ok ok
        obtain ⟨l, read, ran⟩ := (listObjects_ok_iff _ _ _ _ _).mp walked
        obtain ⟨set, added, table, entered⟩ :=
          listTechnologies_spec (s := { s with getTechnologiesCall := none }) up ran
        have legible := (succeeds l).mp ⟨after, ran⟩
        dsimp only at done
        split at done
        case isTrue on =>
          cases done
          have none_ : added = [] := List.self_eq_append_left.mp (same.table.symm.trans table)
          exact .inr ⟨set.symm.trans on, l, last, read, fun object there =>
            ⟨legible object there, entered.mp none_ object there⟩⟩
        case isFalse off =>
          cases done
          exact absurd (set.trans same.set.symm) off
      · rintro (down | ⟨on, l, last, read, fine⟩)
        · exact absurd (up.symm.trans down) nofun
        · obtain ⟨after, ran⟩ := (succeeds l).mpr fun object there => (fine object there).1
          obtain ⟨set, added, table, entered⟩ :=
            listTechnologies_spec (s := { s with getTechnologiesCall := none }) up ran
          have walked := (listObjects_ok_iff _ _ _ _ _).mpr ⟨l, read, ran⟩
          have set' : after.set = true := set.trans on
          rw [entered.mpr fun object there => (fine object there).2] at table
          refine ⟨after, ?_, table, set⟩
          simp only [walked, bind, Except.bind]
          exact if_pos set'
    | nil => exact iff_of_true (other _ rfl) (.inr trivial)
    | _ => exact iff_of_true (other _ (if_pos up)) (.inr trivial)

theorem callAddedCb_same (s : State) (path : String) : SameTechnologies s (Technology.callAddedCb s path) := by
  unfold Technology.callAddedCb
  split
  · exact ⟨rfl, rfl⟩
  · exact ⟨rfl, rfl⟩

theorem callRemovedCb_same (s : State) (path : String) : SameTechnologies s (Technology.callRemovedCb s path) := by
  unfold Technology.callRemovedCb
  split
  · exact ⟨rfl, rfl⟩
  · exact ⟨rfl, rfl⟩

theorem technologyAddedSignalCb_kept_iff (up : s.up = true) (message : Body) :
    TechnologiesKept s (technologyAddedSignalCb s message) ↔ TechnologyAddedKeeps s message := by
  unfold TechnologyAddedKeeps
  by_cases empty : message = .nil
  · subst empty
    exact iff_of_true ⟨s, rfl, rfl, rfl⟩ (.inl rfl)
  have handled : technologyAddedSignalCb s message = technologyAddedCb s message := by
    cases message with
    | nil => exact absurd rfl empty
    | _ => rfl
  -- what follows the update touches neither table nor phase
  have after : ∀ middle path, SameTechnologies middle (if (Technology.callAddedCb middle path).set then
      Technology.connmanManagerGetTechnologies (Technology.callAddedCb middle path)
      else Technology.callAddedCb middle path) := by
    intro middle path
    have same := callAddedCb_same middle path
    split
    · exact ⟨same.table, same.set⟩
    · exact same
  have one : ∀ path, [(path, message.next)].foldlM
      (fun s object => updateOrCreateTechnology s object.1 object.2) s = updateOrCreateTechnology s path message.next := by
    intro path
    exact bind_pure _
  rw [handled]
  constructor
  · rintro ⟨s', ok, same⟩
    obtain ⟨path, decoded, ok⟩ := bind_ok ok
    obtain ⟨middle, updated, done⟩ := bind_ok ok
    have rest := after middle path
    rw [Except.ok.inj done] at rest
    obtain ⟨set, added, table, entered⟩ := listTechnologies_spec up ((one path).trans updated)
    have none_ : added = [] := by
      have kept : s.reg.table = added ++ s.reg.table := by rw [← table, ← rest.table, same.table]
      exact List.self_eq_append_left.mp kept
    exact .inr ⟨path, readLocal_ok_iff.mp decoded,
      (updateOrCreateTechnology_succeeds up path message.next).mp ⟨middle, updated⟩,
      entered.mp none_ (path, message.next) List.mem_cons_self⟩
  · rintro (none_ | ⟨path, decoded, legible, known⟩)
    · exact absurd none_ empty
    · obtain ⟨middle, updated⟩ := (updateOrCreateTechnology_succeeds up path message.next).mpr legible
      obtain ⟨set, added, table, entered⟩ := listTechnologies_spec up ((one path).trans updated)
      have none_ : added = [] := entered.mpr fun object there => List.mem_singleton.mp there ▸ known
      rw [none_] at table
      have rest := after middle path
      refine ⟨_, ?_, rest.table.trans table, rest.set.trans set⟩
      simp only [technologyAddedCb, readLocal_ok_iff.mpr decoded, updated, bind, Except.bind]

theorem technologyRemovedSignalCb_kept_iff (s : State) (message : Body) :
    TechnologiesKept s (technologyRemovedSignalCb s message) ↔ TechnologyRemovedKeeps s message := by
  unfold TechnologyRemovedKeeps
  by_cases empty : message = .nil
  · subst empty
    exact iff_of_true ⟨s, rfl, rfl, rfl⟩ (.inl rfl)
  have handled : technologyRemovedSignalCb s message = technologyRemovedCb s message := by
    cases message with
    | nil => exact absurd rfl empty
    | _ => rfl
  have removed : ∀ path, ((Technology.callRemovedCb s path).reg.hashRemove objectFree path).table = s.reg.table ↔
      s.reg.table.lookup path = none := by
    intro path
    rw [hashRemove_table, (callRemovedCb_same s path).table]
    simpa using filter_keys_iff s.reg.table [path]
  rw [handled]
  constructor
  · rintro ⟨s', ok, same⟩
    obtain ⟨path, decoded, done⟩ := bind_ok ok
    cases done
    exact .inr ⟨path, readLocal_ok_iff.mp decoded, (removed path).mp same.table⟩
  · rintro (none_ | ⟨path, decoded, absent⟩)
    · exact absurd none_ empty
    · refine ⟨{ Technology.callRemovedCb s path with
        reg := (Technology.callRemovedCb s path).reg.hashRemove objectFree path }, ?_, (removed path).mpr absent,
        (callRemovedCb_same s path).set⟩
      simp only [technologyRemovedCb, readLocal_ok_iff.mpr decoded, bind, Except.bind]

end Technologies

end Reading

/-! ## Reachable states -/

namespace Service

open Registry Run

/-- The list names objects that have been allocated. -/
def Allocated (s : State) : Prop := ∀ o ∈ s.ordered, o < s.reg.next

/-- What has just been listed has been allocated. -/
theorem Lists.allocated {s listed : State} {paths : List String} (lists : Lists { s with ordered := [] } listed paths) :
    Allocated listed := by
  obtain ⟨added, ordered, found, _⟩ := lists.added
  intro o there
  rw [ordered] at there
  exact (found o there).1.1

/-- The list is emptied and filled again. -/
theorem serviceChangedSignalCb_allocated {s : State} (owned : Owned s.reg) (allocated : Allocated s) (uninit : Uninit)
    (changed : List (String × Dict)) (removed : List String) :
    Allocated (serviceChangedSignalCb uninit s changed removed) := by
  cases up : s.up with
  | false => simpa [serviceChangedSignalCb, up] using allocated
  | true =>
    obtain ⟨listed, dropped, lists, rfl, refreshes, frame⟩ :=
      serviceChangedSignalCb_spec uninit owned up changed removed
    obtain ⟨ops, rest⟩ := removeServices_spec removed listed
    have next : (serviceChangedSignalCb uninit s changed removed).reg.next = (removed.foldl removeService listed).reg.next :=
      refreshes.place.next
    intro o there
    rw [frame, rest] at there
    rw [next]
    exact Nat.lt_of_lt_of_le (lists.allocated o there) (ops.next_le (owned.ops lists.ops))

theorem getServicesCallback_allocated {s : State} (owned : Owned s.reg) (allocated : Allocated s) (uninit : Uninit)
    (reply : ServicesReply) : Allocated (getServicesCallback uninit s reply) := by
  unfold getServicesCallback
  cases reply with
  | noArguments => exact allocated
  | notArray =>
    dsimp only
    unfold getServicesCb
    split
    · exact fun o there => by cases there
    · exact allocated
  | services services =>
    by_cases up : s.up = true
    case neg =>
      dsimp only
      unfold getServicesCb
      rw [if_neg up]
      exact allocated
    case pos =>
      obtain ⟨listed, lists, refreshes, frame⟩ :=
        getServicesCb_spec uninit (s := { s with getServicesCall := none }) owned up services
      have next : (getServicesCb uninit { s with getServicesCall := none } (.services services)).reg.next =
          listed.reg.next := refreshes.place.next
      intro o there
      dsimp only at there ⊢
      rw [next]
      rw [frame] at there
      split at there
      · exact lists.allocated o there
      · exact lists.allocated o there

theorem allocated_step {s s' : State} {e : Event} (owned : Owned s.reg) (allocated : Allocated s)
    (ran : step s e = some s') : Allocated s' := by
  by_cases moving : Moving e
  case neg =>
    have quiet := quiet_step owned ran moving
    intro o there
    rw [quiet.ordered] at there
    rw [quiet.place.next]
    exact allocated o there
  case pos =>
    cases e with
    | servicesChanged uninit changed removed =>
      obtain ⟨_, ran⟩ := Option.ite_none_right_eq_some.mp (handed ran).2
      cases ran
      exact serviceChangedSignalCb_allocated owned allocated uninit changed removed
    | getServicesReply call uninit reply =>
      obtain ⟨_, ran⟩ := Option.ite_none_right_eq_some.mp (handed ran).2
      cases ran
      exact getServicesCallback_allocated owned allocated uninit reply
    | freeServicesList =>
      cases ran
      unfold connmanServiceFreeServicesList
      split
      · exact fun o there => by cases there
      · exact allocated
    | finalize =>
      cases ran
      unfold connmanServiceFinalize
      split
      · exact fun o there => by cases there
      · exact allocated
    | deselect =>
      cases ran
      exact fun o there => Nat.lt_of_lt_of_le (allocated o there) (Op.deselected.next_le owned)
    | select path =>
      cases ran
      unfold connmanServiceSelect
      split
      · exact allocated
      · exact allocated
    | _ => exact moving.elim

theorem reaches_allocated {s : State} {guard : State → Event → Prop} (reached : Reaches step guard Boot s) :
    Allocated s := by
  have inv : Owned s.reg ∧ Allocated s := by
    apply reached.invariant (I := fun s => Owned s.reg ∧ Allocated s)
    · rintro s ⟨sources, calls, scans, watches, rfl⟩
      exact ⟨empty_owned sources calls scans watches, nofun⟩
    · exact fun s e s' inv _ ran => ⟨owned_step inv.1 ran, allocated_step inv.1 inv.2 ran⟩
  exact inv.2

end Service

open Reading Run

/-- Which list messages change nothing.  A message without arguments does not
reach a handler, and one that is not of a list leaves it alone only if it comes
to its end: every path read, nothing new named, and for the services the order
and the phase of before. -/
theorem kept_iff (s : Service.State) (t : Technology.State)
    (services : Reaches Service.step Always Service.Boot s)
    (technologies : Reaches Technology.step Always Technology.Boot t) (message : Body) :
    (ServicesKept s (getServicesCallback s message) ↔ GetServicesKeeps s message) ∧
    (ServicesKept s (servicesChangedSignalCb s message) ↔ ServicesChangedKeeps s message) ∧
    (TechnologiesKept t (getTechnologiesCallback t message) ↔ GetTechnologiesKeeps t message) ∧
    (t.technologySignals = true →
      (TechnologiesKept t (technologyAddedSignalCb t message) ↔ TechnologyAddedKeeps t message)) ∧
    (TechnologiesKept t (technologyRemovedSignalCb t message) ↔ TechnologyRemovedKeeps t message) := by
  have allocated := Service.reaches_allocated services
  have tidy := Technology.reaches_tidy technologies
  exact ⟨getServicesCallback_kept_iff allocated message, servicesChangedSignalCb_kept_iff allocated message,
    getTechnologiesCallback_kept_iff t message,
    fun signals => technologyAddedSignalCb_kept_iff (tidy.signals signals) message,
    technologyRemovedSignalCb_kept_iff t message⟩

/-- One service is listed. -/
def listedService : Service.State :=
  (play Service.step Always Service.started (Service.opening [("/s", [])])).get (by decide +kernel)

theorem listedService_reached : Reaches Service.step Always Service.Boot listedService :=
  (Reaches.here Service.started_boot).play _ (Option.some_get _).symm

/-- One technology is, and the manager's signals are watched. -/
def listedTechnology : Technology.State :=
  (play Technology.step Always Technology.started Technology.listing).get (by decide +kernel)

theorem listedTechnology_reached : Reaches Technology.step Always Technology.Boot listedTechnology :=
  (Reaches.here Technology.started_boot).play _ (Option.some_get _).symm

/-- The arguments of an error. -/
def errorReply : Body := .basic .string "Failed" .nil

/-- An error for GetServices loses the order; one for GetTechnologies, and a
TechnologyRemoved that names no technology, change nothing. -/
theorem kept_iff_failed :
    ¬ ServicesKept listedService (getServicesCallback listedService errorReply) ∧
      TechnologiesKept listedTechnology (getTechnologiesCallback listedTechnology errorReply) ∧
      TechnologiesKept listedTechnology
        (technologyRemovedSignalCb listedTechnology (.basic .objectPath "/u" .nil)) := by
  obtain ⟨services, _, technologies, _, _⟩ := kept_iff _ _ listedService_reached listedTechnology_reached errorReply
  obtain ⟨_, _, _, _, removed⟩ :=
    kept_iff _ _ listedService_reached listedTechnology_reached (.basic .objectPath "/u" .nil)
  refine ⟨fun kept => ?_, technologies.mpr (.inr trivial), removed.mpr (.inr ⟨"/u", rfl, by decide +kernel⟩)⟩
  rcases services.mp kept with down | empty
  · exact absurd down (by decide +kernel)
  · have unordered : listedService.ordered = [] := empty
    exact absurd unordered (by decide +kernel)

theorem not_always_kept :
    ¬ ∀ s, Reaches Service.step Always Service.Boot s → ∀ message : Body, message.Message →
      message.sig ≠ .array objectsSig .nil →
        ServicesKept s (getServicesCallback s message) := by
  intro always
  obtain ⟨s', ok, same⟩ := always _ listedService_reached errorReply ⟨trivial, rfl⟩ (by decide)
  cases ok
  exact absurd same.ordered (by decide +kernel)

end ConnmanUi
