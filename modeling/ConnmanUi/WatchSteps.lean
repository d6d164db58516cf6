import Mathlib.Data.List.Nodup
import ConnmanUi.WatchCalls

/-!
The steps of `message_filter`.

`Turn` says once what can happen while a listener has its turn: it is passed or
locked, its callbacks are called one by one and wait, and it is left.  A listener
is locked from its lock to its leave, and meanwhile nobody takes it out of the
list (`sane_step`).
-/

namespace ConnmanUi.Watch

open Keyed Run

variable {s s' s'' t : State} {d d' : FilterData} {cb : FilterCallback} {c : Scope} {turns : Nat → Prop}
  {answers : Answers} {f : Filtering} {stage : Stage} {e : Event} {k : Option Nat}

/-! ## Turns -/

/-- The listener whose turn it is. -/
def Stage.current : Stage → Option Nat
  | .scan current => current
  | .handle current => some current
  | .call current _ => some current

/-- The listener that is locked. -/
def Stage.handling : Stage → Option Nat
  | .scan _ => none
  | .handle current => some current
  | .call current _ => some current

def Phase.current : Phase → Option Nat
  | .filtering _ stage => stage.current
  | _ => none

def Phase.handling : Phase → Option Nat
  | .filtering _ stage => stage.handling
  | _ => none

/-- A NameOwnerChanged of the bus has three strings. -/
def Message.Proper (m : Message) : Prop :=
  m.interface = "org.freedesktop.DBus" → m.member = "NameOwnerChanged" → 3 ≤ m.args.length

/-- The listener is through with its first callback: that has no function for the
message, or its function returns. -/
def Through (e : Event) (f : Filtering) (d : FilterData) (stage : Stage) (cb : FilterCallback) : Prop :=
  stage = .handle d.key ∧ d.callbacks.head? = some cb ∧ d.calls cb f.message = false ∨
    stage = .call d.key cb.id ∧ ∃ keep answers, e = .returned keep answers

/-- The callback is not kept when the listener is through with it: it has one of
the two functions of a bus name, or its function says so. -/
def Dismissed (e : Event) (f : Filtering) (d : FilterData) (stage : Stage) (cb : FilterCallback) : Prop :=
  Through e f d stage cb ∧ d.once cb = true ∨
    d.handleFunc = .signalFilter ∧ stage = .call d.key cb.id ∧ ∃ answers, e = .returned false answers

/-- What can happen while a listener has its turn. -/
inductive Turn (s : State) (e : Event) (f : Filtering) (d : FilterData) : Stage → State → Prop where
  | pass (other : d.connection ≠ f.connection ∨ d.accepts f.message = some false) :
      Turn s e f d (.scan (some d.key)) { s with phase := .filtering f (.scan (successor s d.key)) }
  | lock {t : State} (here : d.connection = f.connection) (accepted : d.accepts f.message = some true)
      (cached : t = s.setListener { d with lock := true } ∨ d.handleFunc = .serviceFilter ∧
        ∃ name old new rest, f.message.args = name :: old :: new :: rest ∧
          t = updateNameCache (s.setListener { d with lock := true }) name new) :
      Turn s e f d (.scan (some d.key)) { t with phase := .filtering f (.handle d.key) }
  | lost (here : d.connection = f.connection) (accepted : d.accepts f.message = some true)
      (service : d.handleFunc = .serviceFilter) (improper : ¬f.message.Proper) :
      Turn s e f d (.scan (some d.key)) (leave (s.setListener { d with lock := true }) f { d with lock := true })
  | leave (none : d.callbacks = []) : Turn s e f d (.handle d.key) (leave s f d)
  | call (cb : FilterCallback) (rest : List FilterCallback) (first : d.callbacks = cb :: rest)
      (calls : d.calls cb f.message = true) :
      Turn s e f d (.handle d.key) { s.note (.called cb.id) with phase := .filtering f (.call d.key cb.id) }
  | settled {t : State} {stage : Stage} (cb : FilterCallback) (mem : cb ∈ d.callbacks)
      (after : stage = .handle d.key ∧ d.calls cb f.message = false ∨ stage = .call d.key cb.id)
      (done : t = s.setListener (d.wait cb) ∨ t = dropCallback s d cb ∧ Dismissed e f d stage cb) :
      Turn s e f d stage { t with phase := .filtering f (.handle d.key) }
  | back (id : Nat) (absent : ∀ cb ∈ d.callbacks, cb.id ≠ id) :
      Turn s e f d (.call d.key id) { s with phase := .filtering f (.handle d.key) }

theorem removeCallback_locked {freeing : State → Nat → Except Fault State} (locked : d.lock = true)
    (ran : filterDataRemoveCallback s freeing answers d cb = .ok s') : s' = dropCallback s d cb := by
  unfold filterDataRemoveCallback at ran
  split at ran
  · cases ran
  · rw [if_pos (.inr locked)] at ran
    exact (Except.ok.inj ran).symm

theorem differs_eq_false {field : Option String} {value : String} (same : differs field value = false) :
    ∀ x ∈ field, x = value := by
  intro x mem
  rw [Option.mem_def.mp mem] at same
  simpa [differs] using same

/-- What a listener accepts agrees with all its fields. -/
theorem accepts_true {m : Match} {message : Message} (accepted : m.accepts message = some true) :
    (∀ x ∈ m.owner, x = message.sender) ∧ (∀ x ∈ m.path, x = message.path) ∧
      (∀ x ∈ m.interface, x = message.interface) ∧ (∀ x ∈ m.member, x = message.member) ∧
      ∀ x ∈ m.argument, message.args.head? = some x := by
  unfold Match.accepts at accepted
  split at accepted
  · cases accepted
  case isFalse same =>
    simp only [Bool.or_eq_true, not_or, Bool.not_eq_true] at same
    obtain ⟨⟨⟨owner, path⟩, interface⟩, member⟩ := same
    refine ⟨differs_eq_false owner, differs_eq_false path, differs_eq_false interface, differs_eq_false member,
      fun x named => ?_⟩
    rw [Option.mem_def.mp named] at accepted
    obtain ⟨arg, first, same⟩ := Option.map_eq_some_iff.mp accepted
    rw [first, of_decide_eq_true same]

/-- A listener of `service_filter` accepts NameOwnerChanged only. -/
theorem Table.accepts_service (table : Table s) (mem : d ∈ s.listeners) (service : d.handleFunc = .serviceFilter)
    {message : Message} (accepted : d.accepts message = some true) :
    message.interface = "org.freedesktop.DBus" ∧ message.member = "NameOwnerChanged" ∧
      ∃ name, d.argument = some name ∧ message.args.head? = some name := by
  have shaped := table.shaped d mem
  rw [service] at shaped
  obtain ⟨connection, name, what⟩ := shaped
  obtain ⟨_, _, interface, member, argument⟩ := accepts_true accepted
  rw [what] at interface member argument
  exact ⟨(interface _ rfl).symm, (member _ rfl).symm, name, by rw [what]; rfl, argument _ rfl⟩

theorem Table.enter_turn (table : Table s) (mem : d ∈ s.listeners) (ran : enter s f d = .ok s') :
    Turn s e f d (.scan (some d.key)) s' := by
  unfold enter at ran
  dsimp only at ran
  split at ran
  case isTrue other =>
    cases ran
    exact .pass (.inl other)
  case isFalse here =>
    split at ran
    · cases ran
    case h_2 refused =>
      cases ran
      exact .pass (.inr refused)
    case h_3 accepted =>
      split at ran
      · cases ran
        exact .lock (not_not.mp here) accepted (.inl rfl)
      case h_2 name old new rest service args =>
        cases ran
        exact .lock (not_not.mp here) accepted (.inr ⟨service, name, old, new, rest, args, rfl⟩)
      case h_3 service short =>
        cases ran
        refine .lost (not_not.mp here) accepted service fun proper => ?_
        obtain ⟨interface, member, _⟩ := table.accepts_service mem service accepted
        have three := proper interface member
        match args : f.message.args with
        | [] | [_] | [_, _] => simp [args] at three
        | name :: old :: new :: rest => exact short name old new rest args

theorem settle_turn (locked : d.lock = true) (mem : cb ∈ d.callbacks) (through : Through e f d stage cb)
    (ran : settle s f d cb = .ok s') : Turn s e f d stage s' := by
  have after : stage = .handle d.key ∧ d.calls cb f.message = false ∨ stage = .call d.key cb.id :=
    through.imp (fun first => ⟨first.1, first.2.2⟩) And.left
  unfold settle at ran
  dsimp only at ran
  split at ran
  case isTrue once =>
    obtain ⟨t, removed, rfl⟩ := map_ok ran
    exact .settled cb mem after (.inr ⟨removeCallback_locked locked removed, .inl ⟨through, once⟩⟩)
  case isFalse =>
    cases ran
    exact .settled cb mem after (.inl rfl)

theorem round_turn (locked : d.lock = true) (ran : round s f d = .ok s') : Turn s e f d (.handle d.key) s' := by
  unfold round at ran
  split at ran
  case h_1 none =>
    cases ran
    exact .leave none
  case h_2 cb rest first =>
    split at ran
    case isTrue calls =>
      cases ran
      exact .call cb rest first calls
    case isFalse silent =>
      have mem : cb ∈ d.callbacks := by rw [first]; exact List.mem_cons_self
      exact settle_turn locked mem (.inl ⟨rfl, by rw [first]; rfl, by simpa using silent⟩) ran

/-- While message_filter is at a listener, that has its turn. -/
theorem Table.proceed_turn (table : Table s) (locked : ∀ d ∈ s.listeners, stage.handling = some d.key → d.lock = true)
    (there : stage ≠ .scan none) (ran : proceed s f answers stage = some (.ok s')) :
    ∃ d ∈ s.listeners, stage.current = some d.key ∧ Turn s e f d stage s' := by
  cases stage with
  | scan current =>
    cases current with
    | none => exact absurd rfl there
    | some current =>
      obtain ⟨d, found, went⟩ := Option.map_eq_some_iff.mp ran
      obtain ⟨mem, rfl⟩ := listener_spec found
      exact ⟨d, mem, rfl, table.enter_turn mem went⟩
  | handle current =>
    obtain ⟨d, found, went⟩ := Option.map_eq_some_iff.mp ran
    obtain ⟨mem, rfl⟩ := listener_spec found
    exact ⟨d, mem, rfl, round_turn (locked d mem rfl) went⟩
  | call current id => cases ran

theorem returned_turn {current id : Nat} {keep : Bool} (locked : ∀ d ∈ s.listeners, d.key = current → d.lock = true)
    (ran : returned s f current id keep answers = some (.ok s')) :
    ∃ d ∈ s.listeners, d.key = current ∧ Turn s (.returned keep answers) f d (.call current id) s' := by
  obtain ⟨d, found, went⟩ := Option.map_eq_some_iff.mp ran
  obtain ⟨mem, rfl⟩ := listener_spec found
  refine ⟨d, mem, rfl, ?_⟩
  dsimp only at went
  split at went
  case h_1 absent =>
    split at went
    · cases went
    · cases went
      exact .back id fun cb own => by simpa using List.find?_eq_none.mp absent cb own
  case h_2 cb found =>
    have own := List.mem_of_find?_eq_some found
    have same : cb.id = id := by simpa using List.find?_some found
    subst same
    split at went
    case isTrue refused =>
      obtain ⟨t, removed, rfl⟩ := map_ok went
      refine .settled cb own (.inr rfl) (.inr ⟨removeCallback_locked (locked d mem rfl) removed, .inr ⟨refused.1, rfl, answers, ?_⟩⟩)
      rw [refused.2]
    case isFalse => exact settle_turn (locked d mem rfl) own (.inr ⟨rfl, keep, answers, rfl⟩) went

/-! ## What a turn does to the table -/

/-- The listeners and the counters are the same. -/
structure Alike (s t : State) : Prop where
  listeners : s.listeners = t.listeners
  next : s.next = t.next
  listenerId : s.listenerId = t.listenerId

theorem Table.alike (table : Table t) (alike : Alike s t) : Table s where
  ordered := alike.listeners ▸ table.ordered
  below := by
    rw [alike.listeners, alike.next]
    exact table.below
  shaped := alike.listeners ▸ table.shaped
  unlocked := alike.listeners ▸ table.unlocked

theorem Alike.watches (alike : Alike s t) : s.watches = t.watches := by
  unfold State.watches
  rw [alike.listeners]

theorem Numbered.alike (numbered : Numbered t) (alike : Alike s t) : Numbered s where
  nodup := alike.watches ▸ numbered.nodup
  given := by
    rw [alike.watches, alike.listenerId]
    exact numbered.given

theorem Orderly.alike (orderly : Orderly t) (alike : Alike s t) : Orderly s where
  table := orderly.table.alike alike
  numbered := orderly.numbered.alike alike
  quiet := by
    intro d mem
    rw [alike.listeners] at mem
    obtain ⟨given, silent⟩ := orderly.quiet d mem
    exact ⟨alike.listenerId ▸ given, fun cb there => silent cb (alike.watches ▸ there)⟩

/-- The ids of one listener's callbacks. -/
theorem Numbered.ids (numbered : Numbered s) (mem : d ∈ s.listeners) :
    ((d.callbacks ++ d.processed).map FilterCallback.id).Nodup := by
  have all := numbered.nodup
  unfold State.watches at all
  rw [List.map_flatMap] at all
  have own := (List.nodup_flatMap.mp all).1 d mem
  unfold FilterData.watches at own
  rw [List.map_map] at own
  exact own

theorem filter_perm {l : List FilterCallback} (nodup : (l.map FilterCallback.id).Nodup) (mem : cb ∈ l) :
    (cb :: l.filter (·.id ≠ cb.id)).Perm l := by
  obtain ⟨front, back, rfl⟩ := List.append_of_mem mem
  rw [List.map_append, List.map_cons, List.nodup_middle, List.nodup_cons] at nodup
  have apart : ∀ c ∈ front ++ back, c.id ≠ cb.id := fun c inside same =>
    nodup.1 (by rw [← List.map_append, ← same]; exact List.mem_map_of_mem inside)
  have fronts : front.filter (·.id ≠ cb.id) = front :=
    List.filter_eq_self.mpr fun c inside => decide_eq_true (apart c (List.mem_append_left _ inside))
  have backs : back.filter (·.id ≠ cb.id) = back :=
    List.filter_eq_self.mpr fun c inside => decide_eq_true (apart c (List.mem_append_right _ inside))
  rw [List.filter_append, List.filter_cons_of_neg (by simp), fronts, backs]
  exact List.perm_middle.symm

theorem wait_changed (nodup : ((d.callbacks ++ d.processed).map FilterCallback.id).Nodup) (mem : cb ∈ d.callbacks)
    (locked : d.lock = true) (turn : turns d.key) : Changed turns d (d.wait cb) := by
  refine ⟨rfl, rfl, rfl, fun _ => rfl, ?_, fun _ free => absurd (free.symm.trans locked) Bool.false_ne_true,
    fun other => absurd turn other⟩
  rw [List.map_append] at nodup
  have perm := (filter_perm (List.nodup_append.mp nodup).1 mem).append_right d.processed
  unfold FilterData.watches FilterData.wait
  refine List.Perm.map _ (.trans ?_ perm)
  rw [← List.append_assoc]
  exact List.perm_append_singleton _ _

theorem unlock_changed (none : d.callbacks = []) (turn : turns d.key) : Changed turns d d.unlock := by
  refine ⟨rfl, rfl, rfl, fun _ => rfl, ?_, fun _ _ => rfl, fun other => absurd turn other⟩
  unfold FilterData.watches FilterData.unlock
  rw [none, List.append_nil, List.nil_append]

theorem lock_changed (turn : turns d.key) : Changed turns d { d with lock := true } :=
  ⟨rfl, rfl, rfl, fun _ => rfl, .refl _, fun _ locked => absurd locked (by simp), fun other => absurd turn other⟩

/-- At most one callback was called since. -/
def Noted (t : State) (log : List Note) : Prop := log = t.log ∨ ∃ cb ∈ t.watches, log = .called cb.id :: t.log

/-- What a turn does, apart from the phase. -/
theorem Turn.ops (turn : Turn s e f d stage s') (table : Table s) (numbered : Numbered s) (mem : d ∈ s.listeners)
    (mine : c.turns d.key) (proper : c.clean → f.message.Proper) (gone : ∀ cb ∈ d.callbacks, Dismissed e f d stage cb → c.gone cb.bare)
    (locked : stage.handling = some d.key → d.lock = true) : ∃ t, Ops c s t ∧ Alike s' t ∧ Noted t s'.log := by
  have alike : ∀ (t : State) (p : Phase), Alike { t with phase := p } t := fun t p => ⟨rfl, rfl, rfl⟩
  have locks : Op c s (s.setListener { d with lock := true }) := table.set_op mem (lock_changed mine) rfl
  cases turn with
  | pass other => exact ⟨s, .refl, alike _ _, .inl rfl⟩
  | @lock t here accepted cached =>
    refine ⟨t, ?_, alike _ _, .inl rfl⟩
    rcases cached with rfl | ⟨_, name, _, new, _, _, rfl⟩
    · exact locks.ops
    · exact locks.ops.tail (updateNameCache_op name new)
  | lost here accepted service improper =>
    have table' := locks.table table
    obtain ⟨front, back, split, replaced⟩ := table'.ordered.replace
      (table.mem_set mem (show ({ d with lock := true } : FilterData).key = d.key from rfl))
      (show ({ d with lock := true } : FilterData).unlock.key = d.key from rfl)
    refine ⟨_, locks.ops.tail (.lose front _ back split (fun isClean => improper (proper isClean)) mine), ?_⟩
    unfold Watch.leave State.setListener
    exact ⟨⟨replaced, rfl, rfl⟩, .inl rfl⟩
  | leave none => exact ⟨_, (table.set_op mem (unlock_changed none mine) rfl).ops, alike _ _, .inl rfl⟩
  | call cb rest first calls =>
    have own : cb ∈ d.callbacks := by
      rw [first]
      exact List.mem_cons_self
    exact ⟨s, .refl, ⟨rfl, rfl, rfl⟩, .inr ⟨cb.bare, mem_watches mem (List.mem_append_left _ own), rfl⟩⟩
  | @settled t stage cb own after done =>
    have held : d.lock = true := by
      refine locked ?_
      rcases after with ⟨rfl, _⟩ | rfl
      · rfl
      · rfl
    refine ⟨t, ?_, alike _ _, .inl rfl⟩
    rcases done with rfl | ⟨rfl, dismissed⟩
    · exact (table.set_op mem (wait_changed (numbered.ids mem) own held mine) rfl).ops
    · exact (table.dropCallback_op mem (List.mem_append_left _ own) (gone cb own dismissed)).1.ops
  | back id absent => exact ⟨s, .refl, alike _ _, .inl rfl⟩

end ConnmanUi.Watch
