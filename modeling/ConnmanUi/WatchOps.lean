import Mathlib.Data.List.Flatten
import Mathlib.Data.List.Forall2
import Mathlib.Data.List.Perm.Basic
import Mathlib.Logic.Relation
import Mathlib.Order.Nat
import ConnmanUi.KeyedList
import ConnmanUi.Watch

/-!
What the steps of `gdbus/watch.c` do to its listeners.

Every step is a sequence of a few operations on the list of listeners: one is
added or taken out, one gains or loses a callback, or they change in place
(`Op`).  What these keep, every run keeps.
-/

namespace ConnmanUi.Watch

open Keyed Run

/-- What a sequence of operations may do. -/
structure Scope where
  /-- No watch is lost. -/
  clean : Prop
  /-- Whose turn it may be. -/
  turns : Nat → Prop
  /-- What may be removed. -/
  gone : FilterCallback → Prop

/-- Anything may happen. -/
def Scope.free : Scope := ⟨False, fun _ => True, fun _ => True⟩

/-- Nobody has a turn. -/
def Scope.calling (gone : FilterCallback → Prop) : Scope := ⟨True, fun _ => False, gone⟩

variable {s s' s'' : State} {d d' : FilterData} {cb : FilterCallback} {c c' : Scope} {turns : Nat → Prop}
  {answers : Answers} {f : Filtering} {e : Event}

/-! ## The table of listeners -/

/-- What of a callback never changes. -/
def FilterCallback.bare (cb : FilterCallback) : FilterCallback := { cb with data := .null }

def FilterData.watches (d : FilterData) : List FilterCallback := (d.callbacks ++ d.processed).map FilterCallback.bare

/-- All that was added and not removed. -/
def State.watches (s : State) : List FilterCallback := s.listeners.flatMap FilterData.watches

/-- What a watch of a name listens for. -/
def serviceMatch (connection : Nat) (name : String) : Match :=
  { connection := connection, interface := some "org.freedesktop.DBus", member := some "NameOwnerChanged",
    argument := some name }

/-- Only what watches a name has it as its argument. -/
def Shaped : HandleFunc → Match → Prop
  | .serviceFilter, m => ∃ connection name, m = serviceMatch connection name
  | .signalFilter, m => m.argument ≠ none → m.interface = some "org.freedesktop.DBus.Properties"

/-- A watch that nobody is told of. -/
def Silent (cb : FilterCallback) : Prop :=
  cb.connFunc = false ∧ cb.discFunc = false ∧ cb.signalFunc = false ∧ cb.destroyFunc = false

/-- The watch of a name, if it is there. -/
structure Named (s : State) (id : Nat) : Prop where
  given : id ≤ s.listenerId
  silent : ∀ cb ∈ s.watches, cb.id = id → Silent cb

/-- The watches that listeners have of their names are silent. -/
def Quiet (s : State) : Prop := ∀ d ∈ s.listeners, Named s d.nameWatch

structure Table (s : State) : Prop where
  ordered : Ordered FilterData.key s.listeners
  below : ∀ d ∈ s.listeners, d.key < s.next
  shaped : ∀ d ∈ s.listeners, Shaped d.handleFunc d.toMatch
  unlocked : ∀ d ∈ s.listeners, d.lock = false → d.processed = []

theorem listener_spec {key : Nat} (found : s.listener key = some d) : d ∈ s.listeners ∧ d.key = key :=
  find_spec found

theorem Table.listener (table : Table s) (mem : d ∈ s.listeners) : s.listener d.key = some d := table.ordered.find mem

/-- Peeling one computation off another that succeeds. -/
theorem bind_ok {α β ε : Type} {x : Except ε α} {next : α → Except ε β} {b : β} (ran : (x >>= next) = .ok b) :
    ∃ a, x = .ok a ∧ next a = .ok b := by
  cases x with
  | error why => cases ran
  | ok a => exact ⟨a, rfl, ran⟩

theorem map_ok {α β ε : Type} {x : Except ε α} {g : α → β} {b : β} (ran : x.map g = .ok b) : ∃ a, x = .ok a ∧ g a = b := by
  cases x with
  | error why => cases ran
  | ok a => exact ⟨a, rfl, Except.ok.inj ran⟩

/-! ## Operations -/

/-- A listener changes in place; with `turns` it may have its turn. -/
structure Changed (turns : Nat → Prop) (d d' : FilterData) : Prop where
  key : d'.key = d.key
  handleFunc : d'.handleFunc = d.handleFunc
  what : d'.toMatch = { d.toMatch with owner := d'.owner }
  owner : d.name = none → d'.owner = d.owner
  watches : d'.watches.Perm d.watches
  unlocked : (d.lock = false → d.processed = []) → d'.lock = false → d'.processed = []
  still : ¬turns d.key → d'.lock = d.lock ∧ d'.callbacks.map FilterCallback.bare = d.callbacks.map FilterCallback.bare ∧
    d'.processed.map FilterCallback.bare = d.processed.map FilterCallback.bare

theorem Changed.refl (d : FilterData) : Changed turns d d :=
  ⟨rfl, rfl, rfl, fun _ => rfl, .refl _, id, fun _ => ⟨rfl, rfl, rfl⟩⟩

/-- One operation. -/
inductive Op (c : Scope) : State → State → Prop where
  | bus {s : State} (filters : List Nat) (rules : List (Nat × String)) :
      Op c s { s with filters := filters, rules := rules }
  | listen {s : State} (handle : HandleFunc) (m : Match) (shaped : Shaped handle m) :
      Op c s { s with
        listeners := s.listeners ++ [{ m with key := s.next, handleFunc := handle }], next := s.next + 1 }
  | unlisten {s : State} (d : FilterData) (mem : d ∈ s.listeners) (empty : d.watches = []) (free : d.lock = false) :
      Op c s { s with listeners := s.listeners.filter (·.key ≠ d.key) }
  | add {s : State} (front : List FilterData) (d : FilterData) (back : List FilterData) (cb : FilterCallback)
      (split : s.listeners = front ++ d :: back) (own : cb.id = s.listenerId + 1) :
      Op c s { s with listeners := front ++ d.add cb :: back, listenerId := s.listenerId + 1 }
  | remove {s : State} (front : List FilterData) (d : FilterData) (back : List FilterData) (cb : FilterCallback)
      (split : s.listeners = front ++ d :: back) (mem : cb ∈ d.callbacks ++ d.processed)
      (gone : c.gone cb.bare) : Op c s { s with
        listeners := front ++ d.remove cb.id :: back
        log := if cb.destroyFunc then .destroyed cb.id :: s.log else s.log }
  | change {s : State} (listeners : List FilterData) (all : List.Forall₂ (Changed c.turns) s.listeners listeners)
      (named : Quiet s → ∀ d ∈ listeners, Named s d.nameWatch) : Op c s { s with listeners := listeners }
  | lose {s : State} (front : List FilterData) (d : FilterData) (back : List FilterData)
      (split : s.listeners = front ++ d :: back) (dirty : ¬c.clean) (turn : c.turns d.key) :
      Op c s { s with
        listeners := front ++ d.unlock :: back }

abbrev Ops (c : Scope) : State → State → Prop := Relation.ReflTransGen (Op c)

theorem Op.ops (op : Op c s s') : Ops c s s' := .single op

/-- What is allowed the one is allowed the other. -/
structure Scope.Within (c c' : Scope) : Prop where
  clean : c'.clean → c.clean
  turns : ∀ k, c.turns k → c'.turns k
  gone : ∀ cb, c.gone cb → c'.gone cb

theorem Changed.mono {turns turns' : Nat → Prop} (changed : Changed turns d d') (more : ∀ k, turns k → turns' k) :
    Changed turns' d d' :=
  { changed with still := fun other => changed.still (mt (more d.key) other) }

theorem Op.mono (op : Op c s s') (within : c.Within c') : Op c' s s' := by
  cases op with
  | bus filters rules => exact .bus filters rules
  | listen handle m shaped => exact .listen handle m shaped
  | unlisten d mem empty free => exact .unlisten d mem empty free
  | add front d back cb split own => exact .add front d back cb split own
  | remove front d back cb split mem gone => exact .remove front d back cb split mem (within.gone _ gone)
  | change listeners all named =>
    exact .change listeners (all.imp fun _ _ changed => changed.mono within.turns) named
  | lose front d back split dirty turn =>
    exact .lose front d back split (mt within.clean dirty) (within.turns _ turn)

theorem Ops.mono (ops : Ops c s s') (within : c.Within c') : Ops c' s s' := by
  induction ops with
  | refl => exact .refl
  | tail _ op ih => exact ih.tail (op.mono within)

theorem FilterData.add_key (d : FilterData) (cb : FilterCallback) : (d.add cb).key = d.key := by
  unfold FilterData.add
  split <;> rfl

/-- One record of an ordered list is replaced by another with its key. -/
theorem ordered_replace {front back : List FilterData} (ordered : Ordered FilterData.key (front ++ d :: back))
    (same : d'.key = d.key) : Ordered FilterData.key (front ++ d' :: back) := by
  have keys : (front ++ d' :: back).map FilterData.key = (front ++ d :: back).map FilterData.key := by
    rw [List.map_append, List.map_append, List.map_cons, List.map_cons, same]
  refine List.pairwise_map.mp ?_
  rw [keys]
  exact List.pairwise_map.mpr ordered

theorem Table.replace {front back : List FilterData} (table : Table s) (split : s.listeners = front ++ d :: back)
    (listeners : s'.listeners = front ++ d' :: back) (next : s'.next = s.next) (key : d'.key = d.key)
    (shaped : Shaped d'.handleFunc d'.toMatch) (unlocked : d'.lock = false → d'.processed = []) : Table s' := by
  have inside : ∀ c ∈ front ++ d' :: back, c = d' ∨ c ∈ s.listeners := by
    intro c mem
    rw [split]
    rcases List.mem_append.mp mem with before | rest
    · exact .inr (List.mem_append_left _ before)
    · rcases List.mem_cons.mp rest with rfl | after
      · exact .inl rfl
      · exact .inr (List.mem_append_right _ (List.mem_cons_of_mem _ after))
  have there : d ∈ s.listeners := by simp [split]
  constructor
  · rw [listeners]
    exact ordered_replace (split ▸ table.ordered) key
  · rw [listeners, next]
    intro c mem
    rcases inside c mem with rfl | old
    · exact key ▸ table.below d there
    · exact table.below c old
  · rw [listeners]
    intro c mem
    rcases inside c mem with rfl | old
    · exact shaped
    · exact table.shaped c old
  · rw [listeners]
    intro c mem
    rcases inside c mem with rfl | old
    · exact unlocked
    · exact table.unlocked c old

theorem Shaped.congr {h : HandleFunc} {m : Match} {owner : Option String} (shaped : Shaped h m)
    (kept : m.name = none → owner = m.owner) : Shaped h { m with owner := owner } := by
  cases h with
  | signalFilter => exact shaped
  | serviceFilter =>
    obtain ⟨connection, name, rfl⟩ := shaped
    exact ⟨connection, name, by rw [kept rfl]⟩

theorem Op.table (op : Op c s s') (table : Table s) : Table s' := by
  cases op with
  | bus filters rules => exact ⟨table.ordered, table.below, table.shaped, table.unlocked⟩
  | listen handle m shaped =>
    refine ⟨table.ordered.concat table.below, fun d mem => ?_, fun d mem => ?_, fun d mem => ?_⟩
    · rcases List.mem_append.mp mem with old | new
      · exact Nat.lt_succ_of_lt (table.below d old)
      · rw [List.mem_singleton.mp new]
        exact Nat.lt_succ_self _
    · rcases List.mem_append.mp mem with old | new
      · exact table.shaped d old
      · rw [List.mem_singleton.mp new]
        exact shaped
    · rcases List.mem_append.mp mem with old | new
      · exact table.unlocked d old
      · rw [List.mem_singleton.mp new]
        exact fun _ => rfl
  | unlisten d mem empty free =>
    exact ⟨table.ordered.filter _, fun d mem => table.below d (List.mem_of_mem_filter mem),
      fun d mem => table.shaped d (List.mem_of_mem_filter mem),
      fun d mem => table.unlocked d (List.mem_of_mem_filter mem)⟩
  | add front d back cb split own =>
    have there : d ∈ s.listeners := by simp [split]
    refine table.replace split rfl rfl (d.add_key cb) ?_ ?_
    · unfold FilterData.add
      split <;> exact table.shaped d there
    · unfold FilterData.add
      split
      case isTrue locked => exact fun free => absurd (free.symm.trans locked) Bool.false_ne_true
      case isFalse => exact table.unlocked d there
  | remove front d back cb split mem gone =>
    have there : d ∈ s.listeners := by simp [split]
    refine table.replace split rfl rfl rfl (table.shaped d there) fun free => ?_
    have none := table.unlocked d there free
    simp [FilterData.remove, none]
  | change listeners all named =>
    have origin : ∀ d' ∈ listeners, ∃ d ∈ s.listeners, Changed c.turns d d' := by
      intro d' mem
      obtain ⟨k, within, rfl⟩ := List.getElem_of_mem mem
      have within' : k < s.listeners.length := all.length_eq ▸ within
      exact ⟨s.listeners[k], List.getElem_mem _, all.get within' within⟩
    have keys : listeners.map FilterData.key = s.listeners.map FilterData.key := by
      refine List.forall₂_eq_eq_eq ▸ ?_
      rw [List.forall₂_map_left_iff, List.forall₂_map_right_iff]
      exact all.flip.imp fun _ _ changed => changed.key
    refine ⟨?_, fun d' mem => ?_, fun d' mem => ?_, fun d' mem => ?_⟩
    · refine List.pairwise_map.mp ?_
      rw [keys]
      exact List.pairwise_map.mpr table.ordered
    · obtain ⟨d, old, changed⟩ := origin d' mem
      exact changed.key ▸ table.below d old
    · obtain ⟨d, old, changed⟩ := origin d' mem
      rw [changed.handleFunc, changed.what]
      exact (table.shaped d old).congr changed.owner
    · obtain ⟨d, old, changed⟩ := origin d' mem
      exact changed.unlocked (table.unlocked d old)
  | lose front d back split dirty turn =>
    have there : d ∈ s.listeners := by simp [split]
    exact table.replace split rfl rfl rfl (table.shaped d there) fun _ => rfl

/-! ## Numbers -/

/-- The ids are those of different watches, and none is ahead of the counter. -/
structure Numbered (s : State) : Prop where
  nodup : (s.watches.map FilterCallback.id).Nodup
  given : ∀ cb ∈ s.watches, 0 < cb.id ∧ cb.id ≤ s.listenerId

theorem watches_split {front back : List FilterData} (split : s.listeners = front ++ d :: back) :
    s.watches.Perm (d.watches ++ (front ++ back).flatMap FilterData.watches) := by
  unfold State.watches
  rw [split, List.flatMap_append, List.flatMap_cons, List.flatMap_append, ← List.append_assoc, ← List.append_assoc]
  exact List.perm_append_comm.append_right _

theorem Numbered.sub (numbered : Numbered s) (sub : s'.watches.Subperm s.watches)
    (next : s'.listenerId = s.listenerId) : Numbered s' where
  nodup := by
    obtain ⟨l, perm, sublist⟩ := sub
    exact ((perm.map _).nodup_iff).mp (numbered.nodup.sublist (sublist.map _))
  given cb mem := next ▸ numbered.given cb (sub.subset mem)

theorem FilterData.add_watches (d : FilterData) (cb : FilterCallback) :
    (d.add cb).watches.Perm (cb.bare :: d.watches) := by
  unfold FilterData.add
  split
  · unfold FilterData.watches
    rw [← List.append_assoc, List.map_append]
    exact List.perm_append_comm
  · unfold FilterData.watches
    simp only [List.map_append, List.append_assoc, List.map_cons, List.singleton_append]
    exact List.perm_middle

theorem FilterData.remove_watches (d : FilterData) (id : Nat) :
    (d.remove id).watches = d.watches.filter (·.id ≠ id) := by
  unfold FilterData.watches FilterData.remove
  rw [← List.filter_append, List.filter_map]
  rfl

/-- Nothing comes but what is added. -/
theorem Op.watches (op : Op c s s') : s'.watches.Subperm s.watches ∧ s'.listenerId = s.listenerId ∨
    ∃ cb : FilterCallback, cb.id = s.listenerId + 1 ∧ s'.listenerId = s.listenerId + 1 ∧ s'.watches.Perm (cb.bare :: s.watches) := by
  cases op with
  | bus filters rules => exact .inl ⟨.refl _, rfl⟩
  | listen handle m shaped =>
    refine .inl ⟨List.Perm.subperm ?_, rfl⟩
    unfold State.watches
    rw [List.flatMap_append]
    exact .of_eq (List.append_nil _)
  | unlisten d mem empty free => exact .inl ⟨(List.filter_sublist.flatMap _).subperm, rfl⟩
  | add front d back cb split own =>
    have before := watches_split split
    have after := watches_split (s := { s with listeners := front ++ d.add cb :: back, listenerId := s.listenerId + 1 }) rfl
    exact .inr ⟨cb, own, rfl, after.trans (((d.add_watches cb).append_right _).trans (.cons _ before.symm))⟩
  | remove front d back cb split mem gone =>
    have before := watches_split split
    have after := watches_split (s := { s with
      listeners := front ++ d.remove cb.id :: back
      log := if cb.destroyFunc then .destroyed cb.id :: s.log else s.log }) rfl
    refine .inl ⟨after.subperm.trans (.trans ?_ before.symm.subperm), rfl⟩
    rw [d.remove_watches]
    exact ((List.filter_sublist).append_right _).subperm
  | change listeners all named =>
    refine .inl ⟨List.Perm.subperm ?_, rfl⟩
    unfold State.watches
    dsimp only
    clear named
    generalize s.listeners = before at all ⊢
    induction all with
    | nil => exact .refl _
    | cons changed _ ih => exact changed.watches.append ih
  | lose front d back split dirty turn =>
    have before := watches_split split
    have after := watches_split (s := { s with
      listeners := front ++ d.unlock :: back }) rfl
    refine .inl ⟨after.subperm.trans (.trans ?_ before.symm.subperm), rfl⟩
    unfold FilterData.watches FilterData.unlock
    rw [List.append_nil, List.map_append, List.append_assoc]
    exact (List.sublist_append_right _ _).subperm

theorem Op.numbered (op : Op c s s') (numbered : Numbered s) : Numbered s' := by
  rcases op.watches with ⟨sub, same⟩ | ⟨cb, own, next, all⟩
  · exact numbered.sub sub same
  · have fresh : cb.id ∉ s.watches.map FilterCallback.id := by
      intro old
      obtain ⟨w, mem, same⟩ := List.mem_map.mp old
      have bound := (numbered.given w mem).2
      omega
    constructor
    · exact ((all.map _).nodup_iff).mpr (List.nodup_cons.mpr ⟨fresh, numbered.nodup⟩)
    · intro w mem
      rcases List.mem_cons.mp (all.subset mem) with rfl | old
      · have id : cb.bare.id = s.listenerId + 1 := own
        omega
      · have bound := numbered.given w old
        omega

theorem Numbered.zero (numbered : Numbered s) : Named s 0 :=
  ⟨Nat.zero_le _, fun cb mem none => absurd none (Nat.ne_of_gt (numbered.given cb mem).1)⟩

theorem Op.named (op : Op c s s') {id : Nat} (named : Named s id) : Named s' id := by
  rcases op.watches with ⟨sub, same⟩ | ⟨cb, own, next, all⟩
  · exact ⟨same ▸ named.given, fun w mem => named.silent w (sub.subset mem)⟩
  · refine ⟨next ▸ Nat.le_succ_of_le named.given, fun w mem same => ?_⟩
    rcases List.mem_cons.mp (all.subset mem) with rfl | old
    · have new : id = s.listenerId + 1 := same.symm.trans own
      exact absurd named.given (new ▸ Nat.not_succ_le_self _)
    · exact named.silent w old same

theorem Op.quiet (op : Op c s s') (numbered : Numbered s) (quiet : Quiet s) : Quiet s' := by
  have replace : ∀ {front back : List FilterData} {d d' : FilterData}, s.listeners = front ++ d :: back →
      d'.nameWatch = d.nameWatch → ∀ a ∈ front ++ d' :: back, Named s a.nameWatch := by
    intro front back d d' split same a mem
    rcases List.mem_append.mp mem with before | rest
    · exact quiet a (by simp [split, before])
    · rcases List.mem_cons.mp rest with rfl | after
      · exact same ▸ quiet d (by simp [split])
      · exact quiet a (by simp [split, after])
  suffices before : ∀ d ∈ s'.listeners, Named s d.nameWatch from fun d mem => op.named (before d mem)
  cases op with
  | bus filters rules => exact quiet
  | listen handle m shaped =>
    intro d mem
    rcases List.mem_append.mp mem with old | new
    · exact quiet d old
    · rw [List.mem_singleton.mp new]
      exact numbered.zero
  | unlisten d mem empty free => exact fun a there => quiet a (List.mem_of_mem_filter there)
  | add front d back cb split own =>
    refine replace split ?_
    unfold FilterData.add
    split <;> rfl
  | remove front d back cb split mem gone => exact replace split (show (d.remove cb.id).nameWatch = d.nameWatch from rfl)
  | change listeners all named => exact named quiet
  | lose front d back split dirty turn => exact replace split (show d.unlock.nameWatch = d.nameWatch from rfl)

theorem mem_watches (mem : d ∈ s.listeners) (own : cb ∈ d.callbacks ++ d.processed) : cb.bare ∈ s.watches :=
  List.mem_flatMap.mpr ⟨d, mem, List.mem_map_of_mem own⟩

theorem Ops.named (ops : Ops c s s') {id : Nat} (named : Named s id) : Named s' id := by
  induction ops with
  | refl => exact named
  | tail _ op ih => exact op.named ih

/-- The counters only grow. -/
theorem Op.counters (op : Op c s s') : s.listenerId ≤ s'.listenerId ∧ s.next ≤ s'.next := by
  cases op with
  | listen handle m shaped => exact ⟨Nat.le_refl _, Nat.le_succ _⟩
  | add front d back cb split own => exact ⟨Nat.le_succ _, Nat.le_refl _⟩
  | _ => exact ⟨Nat.le_refl _, Nat.le_refl _⟩

theorem Ops.counters (ops : Ops c s s') : s.listenerId ≤ s'.listenerId ∧ s.next ≤ s'.next := by
  induction ops with
  | refl => exact ⟨Nat.le_refl _, Nat.le_refl _⟩
  | tail _ op ih => exact ⟨ih.1.trans op.counters.1, ih.2.trans op.counters.2⟩

/-- A listener that is there was there, or is new. -/
theorem Op.keys (op : Op c s s') : ∀ a ∈ s'.listeners, (∃ b ∈ s.listeners, b.key = a.key) ∨ a.key = s.next := by
  have replace : ∀ {front back : List FilterData} {d d' : FilterData}, s.listeners = front ++ d :: back →
      d'.key = d.key → ∀ a ∈ front ++ d' :: back, (∃ b ∈ s.listeners, b.key = a.key) ∨ a.key = s.next := by
    intro front back d d' split key a mem
    rw [split]
    rcases List.mem_append.mp mem with before | rest
    · exact .inl ⟨a, List.mem_append_left _ before, rfl⟩
    · rcases List.mem_cons.mp rest with rfl | after
      · exact .inl ⟨d, by simp, key.symm⟩
      · exact .inl ⟨a, by simp [after], rfl⟩
  cases op with
  | bus filters rules => exact fun a mem => .inl ⟨a, mem, rfl⟩
  | listen handle m shaped =>
    intro a mem
    rcases List.mem_append.mp mem with old | new
    · exact .inl ⟨a, old, rfl⟩
    · rw [List.mem_singleton.mp new]
      exact .inr rfl
  | unlisten d mem empty free => exact fun a there => .inl ⟨a, List.mem_of_mem_filter there, rfl⟩
  | add front d back cb split own => exact replace split (d.add_key cb)
  | remove front d back cb split mem gone => exact replace split (show (d.remove cb.id).key = d.key from rfl)
  | change listeners all named =>
    intro a mem
    obtain ⟨i, within, rfl⟩ := List.getElem_of_mem mem
    have within' : i < s.listeners.length := all.length_eq ▸ within
    exact .inl ⟨_, List.getElem_mem _, (all.get within' within).key.symm⟩
  | lose front d back split dirty turn => exact replace split (show d.unlock.key = d.key from rfl)

/-- A listener that is gone does not come back. -/
theorem Ops.absent (ops : Ops c s s') {k : Nat} (below : k < s.next) (absent : ∀ a ∈ s.listeners, a.key ≠ k) :
    ∀ a ∈ s'.listeners, a.key ≠ k := by
  induction ops with
  | refl => exact absent
  | tail before op ih =>
    intro a mem same
    rcases op.keys a mem with ⟨b, there, old⟩ | new
    · exact ih b there (old.trans same)
    · exact absurd (below.trans_le (Ops.counters before).2) (by omega)

/-! ## All three -/

structure Orderly (s : State) : Prop where
  table : Table s
  numbered : Numbered s
  quiet : Quiet s

theorem Op.orderly (op : Op c s s') (orderly : Orderly s) : Orderly s' :=
  ⟨op.table orderly.table, op.numbered orderly.numbered, op.quiet orderly.numbered orderly.quiet⟩

theorem Ops.orderly (ops : Ops c s s') (orderly : Orderly s) : Orderly s' := by
  induction ops with
  | refl => exact orderly
  | tail _ op ih => exact op.orderly ih

end ConnmanUi.Watch
