import ConnmanUi.WatchSteps

/-!
Runs of `gdbus/watch.c`.

`Move` says what a step is: the program asks for something, the filter goes on, a
name gets an owner, or the step is faulty.  In every state of a run the listener
whose callbacks run is locked and is in the list, and no other one is locked
(`sane_step`).
-/

namespace ConnmanUi.Watch

open Keyed Run

variable {s s' s'' t : State} {d d' : FilterData} {cb : FilterCallback} {c : Scope}
  {answers : Answers} {f : Filtering} {stage : Stage} {e : Event} {k : Option Nat}

/-! ## Moves -/

/-- Operations in which no listener has its turn and no watch is lost. -/
abbrev Calls (gone : FilterCallback → Prop) : State → State → Prop := Ops (.calling gone)

/-- The program asks for the removal, or it is the watch of an emptied listener's
name. -/
def Asked (s : State) (e : Event) (s' : State) (cb : FilterCallback) : Prop :=
  (∃ answers, e = .removeWatch cb.id answers) ∨ Orphaned s s' cb

theorem Op.phase_eq (op : Op c s s') : s'.phase = s.phase := by
  cases op <;> rfl

theorem Ops.phase_eq (ops : Ops c s s') : s'.phase = s.phase := by
  induction ops with
  | refl => rfl
  | tail _ op ih => exact op.phase_eq.trans ih

/-- The program calls a function of `watch.c`. -/
def Event.request : Event → Bool
  | .addSignalWatch .. | .addPropertiesWatch .. | .addServiceWatch .. | .removeWatch .. => true
  | _ => false

/-- What a step is. -/
inductive Move (s : State) : Event → State → Prop where
  /-- The program adds or removes a watch. -/
  | asks {e : Event} {s' : State} (request : e.request = true) (calls : s.phase.calls = true) (ops : Calls (Asked s e s') s s') : Move s e s'
  | message (connection : Nat) (m : Message) (idle : s.phase = .idle) :
      Move s (.message connection m) { s with
        phase := .filtering { connection := connection, message := m } (.scan (s.listeners.head?.map (·.key))) }
  | turn {e : Event} {s' : State} (f : Filtering) (stage : Stage) (d : FilterData) (phase : s.phase = .filtering f stage)
      (mem : d ∈ s.listeners) (current : stage.current = some d.key) (turn : Turn s e f d stage s') : Move s e s'
  | finish {t : State} (f : Filtering) (answers : Answers) (phase : s.phase = .filtering f (.scan none))
      (ops : Calls (Orphaned s t) s t) : Move s (.proceed answers) { t with phase := .idle }
  /-- The owner of a name comes, or its lookup is over. -/
  | owner {e : Event} {t : State} (p : Phase) (log : List Note) (free : s.phase = .idle ∨ ∃ id, s.phase = .updating id)
      (ops : Calls (fun _ => False) s t)
      (noted : p = .idle ∧ log = t.log ∨ ∃ cb ∈ s.watches, p = .updating cb.id ∧ log = .called cb.id :: t.log) :
      Move s e { t with phase := p, log := log }
  | fault {e : Event} (why : Fault) : Move s e { s with phase := .fault why }

theorem moves {outcome : Except Fault State} (ran : settled s outcome = s')
    (ok : ∀ t, outcome = .ok t → Move s e t) : Move s e s' := by
  subst ran
  cases outcome with
  | error why => exact .fault why
  | ok t => exact ok t rfl

/-- A listener without callbacks is deleted, and the watch of its name with it. -/
theorem Orderly.deleteListener_calls (orderly : Orderly s) (unlocked : ∀ d ∈ s.listeners, d.lock = false) {key : Nat}
    (ran : deleteListener s answers key = .ok s') : Calls (Orphaned s s') s s' := by
  unfold deleteListener at ran
  split at ran
  · cases ran
  case h_2 d found =>
    obtain ⟨mem, rfl⟩ := listener_spec found
    split at ran
    · cases ran
      exact .refl
    case isFalse none =>
      have free := unlocked d mem
      have empty := orderly.table.empty mem (not_not.mp none) free
      have gone {c : Scope} : Ops c s { (removeMatch s d.toMatch answers).1 with
          listeners := (removeMatch s d.toMatch answers).1.listeners.filter (·.key ≠ d.key) } := by
        obtain ⟨unmatched, same⟩ := removeMatch_op (c := c) (s := s) d.toMatch answers
        exact unmatched.ops.tail (.unlisten d (same ▸ mem) empty free)
      have orderly' := Ops.orderly (c := .free) gone orderly
      have named := Ops.named (c := .free) gone (orderly.quiet d mem)
      have left := Ops.absent (orderly'.removeWatch_ops (c := .free) _ (fun _ _ => trivial) (fun _ _ _ => trivial) ran)
        ((orderly.table.below d mem).trans_le (Ops.counters (c := .free) gone).2)
        fun a there => of_decide_eq_true (List.mem_filter.mp there).2
      refine gone.trans (orderly'.removeWatch_ops _ (fun cb orphan => ⟨orphan.silent, ?_⟩)
        (fun cb there same => ⟨named.silent cb there same, d, mem, same.symm, left⟩) ran)
      obtain ⟨a, there, watch, absent⟩ := orphan.emptied
      refine ⟨a, ?_, watch, absent⟩
      rw [← (removeMatch_op (c := .free) (s := s) d.toMatch answers).2]
      exact List.mem_of_mem_filter there

theorem Orderly.finish_calls (orderly : Orderly s) (unlocked : ∀ d ∈ s.listeners, d.lock = false)
    (ran : finish s f answers = .ok s') : ∃ t, Calls (Orphaned s t) s t ∧ s' = { t with phase := .idle } := by
  obtain ⟨s₁, deleted, rest⟩ := bind_ok ran
  have first : Calls (Orphaned s s₁) s s₁ := by
    unfold deleteListeners at deleted
    split at deleted
    · cases deleted
      exact .refl
    · exact orderly.deleteListener_calls unlocked deleted
    · obtain ⟨_, _, deleted⟩ := bind_ok deleted
      obtain ⟨_, _, deleted⟩ := bind_ok deleted
      split at deleted
      · cases deleted
      · cases deleted
  dsimp only at rest
  split at rest
  · exact ⟨s₁, first, (Except.ok.inj rest).symm⟩
  · obtain ⟨s₂, removed, last⟩ := bind_ok rest
    unfold removeFilter at removed
    split at removed
    · cases removed
      have within : Scope.Within (.calling (Orphaned s s₁))
          (.calling (Orphaned s { s₁ with filters := s₁.filters.erase f.connection })) :=
        ⟨fun _ => trivial, fun _ turn => turn, fun _ orphan => ⟨orphan.silent, orphan.emptied⟩⟩
      exact ⟨_, (Ops.mono first within).tail (.bus _ s₁.rules), (Except.ok.inj last).symm⟩
    · cases removed

theorem updateService_move (idle : s.phase = .idle) (mem : d ∈ s.listeners)
    (own : cb ∈ d.callbacks ++ d.processed) (name owner : String) : Move s e (updateService s name owner cb) := by
  have cached : Calls (fun _ => False) s (updateNameCache s name owner) := (updateNameCache_op name owner).ops
  unfold updateService
  dsimp only
  split
  · exact .owner (t := updateNameCache s name owner) (.updating cb.id) (.called cb.id :: s.log) (.inl idle) cached
      (.inr ⟨cb.bare, mem_watches mem own, rfl, rfl⟩)
  · have ops := cached.tail (serviceDataFree_op cb.id)
    have phase : (serviceDataFree (updateNameCache s name owner) cb.id).phase = .idle :=
      (Ops.phase_eq ops).trans idle
    have same : serviceDataFree (updateNameCache s name owner) cb.id =
        { serviceDataFree (updateNameCache s name owner) cb.id with
          phase := .idle, log := (serviceDataFree (updateNameCache s name owner) cb.id).log } := by
      rw [← phase]
    rw [same]
    exact .owner .idle _ (.inl idle) ops (.inl ⟨rfl, rfl⟩)

/-- The listener whose turn it is, and the one that is locked. -/
structure Held (locked current : Option Nat) (s : State) : Prop where
  locked : ∀ d ∈ s.listeners, (d.lock = true ↔ locked = some d.key)
  present : ∀ k ∈ current, ∃ d ∈ s.listeners, d.key = k

/-- What holds in every state of a run. -/
structure Sane (s : State) : Prop extends Orderly s where
  held : (∃ why, s.phase = .fault why) ∨ Held s.phase.handling s.phase.current s

theorem Sane.sound (sane : Sane s) (sound : ∀ why, s.phase ≠ .fault why) : Held s.phase.handling s.phase.current s :=
  sane.held.resolve_left fun ⟨why, faulty⟩ => sound why faulty

theorem proceed_moves (sane : Sane s) (ran : step s (.proceed answers) = some s') : Move s (.proceed answers) s' := by
  dsimp only [step] at ran
  split at ran
  case h_1 f stage phase =>
    obtain ⟨outcome, went, result⟩ := Option.map_eq_some_iff.mp ran
    refine moves result fun t ok => ?_
    subst ok
    have held := sane.sound fun why => by simp [phase]
    rw [phase] at held
    by_cases last : stage = .scan none
    · subst last
      have unlocked : ∀ d ∈ s.listeners, d.lock = false := fun d mem => by
        have free := mt (held.locked d mem).mp (Option.some_ne_none d.key).symm
        simpa using free
      obtain ⟨u, ops, rfl⟩ := sane.toOrderly.finish_calls unlocked (Option.some.inj went)
      exact .finish f answers phase ops
    · obtain ⟨d, mem, current, turn⟩ := sane.table.proceed_turn
        (fun d mem handling => (held.locked d mem).mpr handling) last went
      exact .turn f stage d phase mem current turn
  case h_2 => cases ran

theorem returned_moves (sane : Sane s) {keep : Bool} (ran : step s (.returned keep answers) = some s') :
    Move s (.returned keep answers) s' := by
  dsimp only [step] at ran
  split at ran
  case h_1 f current id phase =>
    obtain ⟨outcome, went, result⟩ := Option.map_eq_some_iff.mp ran
    refine moves result fun t ok => ?_
    subst ok
    have held := sane.sound fun why => by simp [phase]
    rw [phase] at held
    obtain ⟨d, mem, rfl, turn⟩ := returned_turn
      (fun d mem handling => (held.locked d mem).mpr (congrArg some handling.symm)) went
    exact .turn f _ d phase mem rfl turn
  case h_2 id phase =>
    refine moves (Option.some.inj ran) fun t ok => ?_
    unfold updated at ok
    split at ok
    · cases ok
    · cases ok
      exact .owner (t := serviceDataFree s id) .idle s.log (.inr ⟨id, phase⟩) (serviceDataFree_op id).ops
        (.inl ⟨rfl, rfl⟩)
  case h_3 => cases ran

theorem serviceReply_moves {id : Nat} {owner : Option String} (ran : step s (.serviceReply id owner) = some s') :
    Move s (.serviceReply id owner) s' := by
  obtain ⟨idle, ran⟩ := Option.ite_none_right_eq_some.mp ran
  obtain ⟨⟨d, cb⟩, found, ran⟩ := Option.bind_eq_some_iff.mp ran
  obtain ⟨name, _, ran⟩ := Option.bind_eq_some_iff.mp ran
  obtain ⟨mem, own, rfl⟩ := findCallback_spec found
  obtain ⟨_, ran⟩ := Option.ite_none_right_eq_some.mp ran
  split at ran
  · cases ran
    rw [show serviceDataFree s cb.id = { serviceDataFree s cb.id with phase := .idle, log := s.log } by
      rw [← idle]; rfl]
    exact .owner .idle s.log (.inl idle) (serviceDataFree_op cb.id).ops (.inl ⟨rfl, rfl⟩)
  · cases ran
    exact updateService_move idle mem own name _

theorem updateService_moves {id : Nat} {owner : String} (ran : step s (.updateService id owner) = some s') :
    Move s (.updateService id owner) s' := by
  obtain ⟨idle, ran⟩ := Option.ite_none_right_eq_some.mp ran
  obtain ⟨outcome, went, result⟩ := Option.map_eq_some_iff.mp ran
  refine moves result fun t ok => ?_
  subst ok
  obtain ⟨⟨d, cb⟩, found, named⟩ := Option.bind_eq_some_iff.mp went
  obtain ⟨name, _, told⟩ := Option.bind_eq_some_iff.mp named
  obtain ⟨mem, own, rfl⟩ := findCallback_spec found
  obtain ⟨_, checked⟩ := Option.ite_none_right_eq_some.mp told
  split at checked
  · cases checked
  · cases checked
    exact updateService_move idle mem own name owner

theorem step_moves (sane : Sane s) (room : Room s) (ran : step s e = some s') : Move s e s' := by
  have below : s.listenerId + 1 < 2 ^ 32 := Nat.lt_of_succ_lt room
  cases e with
  | addSignalWatch connection sender path interface member function destroy answers =>
    obtain ⟨calls, ran⟩ := Option.ite_none_right_eq_some.mp ran
    cases ran
    exact .asks rfl calls (sane.toOrderly.addSignalWatch_ops room (shaped_sentBy _ _ _ _ _) function destroy answers)
  | addPropertiesWatch connection sender path interface function destroy answers =>
    obtain ⟨calls, ran⟩ := Option.ite_none_right_eq_some.mp ran
    cases ran
    exact .asks rfl calls (sane.toOrderly.addSignalWatch_ops room (shaped_properties _ _ _ _ _) function destroy answers)
  | addServiceWatch connection name connect disconnect destroy answers lookup =>
    obtain ⟨calls, ran⟩ := Option.ite_none_right_eq_some.mp ran
    cases ran
    exact .asks rfl calls (sane.toOrderly.addServiceWatch_ops below connection name connect disconnect destroy answers lookup)
  | removeWatch id answers =>
    obtain ⟨calls, ran⟩ := Option.ite_none_right_eq_some.mp ran
    exact moves (Option.some.inj ran) fun t removed => .asks rfl calls (sane.toOrderly.removeWatch_ops _ (fun _ => .inr)
      (fun cb _ same => .inl ⟨answers, by rw [same]⟩) removed)
  | message connection m =>
    obtain ⟨⟨idle, _⟩, ran⟩ := Option.ite_none_right_eq_some.mp ran
    cases ran
    exact .message connection m idle
  | proceed answers => exact proceed_moves sane ran
  | returned keep answers => exact returned_moves sane ran
  | serviceReply id owner => exact serviceReply_moves ran
  | updateService id owner => exact updateService_moves ran

/-! ## Every state of a run -/

theorem Held.phase {l c : Option Nat} (held : Held l c t) (alike : Alike s t) : Held l c s where
  locked := by
    rw [alike.listeners]
    exact held.locked
  present := by
    rw [alike.listeners]
    exact held.present

/-- No turn, no change of locks; and what is locked stays. -/
theorem Op.held {gone : FilterCallback → Prop} (op : Op (.calling gone) s s') (table : Table s) (held : Held k k s) : Held k k s' := by
  have replace : ∀ {front back : List FilterData} {d d' : FilterData}, s.listeners = front ++ d :: back →
      d'.key = d.key → d'.lock = d.lock → s'.listeners = front ++ d' :: back → Held k k s' := by
    intro front back d d' split key lock listeners
    have inside : ∀ c ∈ s'.listeners, ∃ old ∈ s.listeners, c.key = old.key ∧ c.lock = old.lock := by
      intro c mem
      rw [listeners] at mem
      rw [split]
      rcases List.mem_append.mp mem with before | rest
      · exact ⟨c, List.mem_append_left _ before, rfl, rfl⟩
      · rcases List.mem_cons.mp rest with rfl | after
        · exact ⟨d, by simp, key, lock⟩
        · exact ⟨c, by simp [after], rfl, rfl⟩
    constructor
    · intro c mem
      obtain ⟨old, there, sameKey, sameLock⟩ := inside c mem
      rw [sameKey, sameLock]
      exact held.locked old there
    · intro key' mem
      obtain ⟨old, there, rfl⟩ := held.present key' mem
      rw [listeners]
      rw [split] at there
      rcases List.mem_append.mp there with before | rest
      · exact ⟨old, List.mem_append_left _ before, rfl⟩
      · rcases List.mem_cons.mp rest with rfl | after
        · exact ⟨d', by simp, key⟩
        · exact ⟨old, by simp [after], rfl⟩
  cases op with
  | bus filters rules => exact ⟨held.locked, held.present⟩
  | listen handle m shaped =>
    constructor
    · intro c mem
      rcases List.mem_append.mp mem with old | new
      · exact held.locked c old
      · rw [List.mem_singleton.mp new]
        refine iff_of_false Bool.false_ne_true fun same => ?_
        obtain ⟨d, there, key⟩ := held.present _ same
        exact (table.below d there).ne key
    · intro key mem
      obtain ⟨d, there, same⟩ := held.present key mem
      exact ⟨d, List.mem_append_left _ there, same⟩
  | unlisten d mem empty free =>
    constructor
    · exact fun c there => held.locked c (List.mem_of_mem_filter there)
    · intro key there
      obtain ⟨c, mem', rfl⟩ := held.present key there
      refine ⟨c, List.mem_filter.mpr ⟨mem', decide_eq_true fun same => ?_⟩, rfl⟩
      have locked := (held.locked c mem').mpr there
      rw [table.ordered.eq mem' mem same] at locked
      exact Bool.false_ne_true (free.symm.trans locked)
  | add front d back cb split own =>
    refine replace split (d.add_key cb) ?_ rfl
    unfold FilterData.add
    split <;> rfl
  | remove front d back cb split mem gone => exact replace split (show (d.remove cb.id).key = d.key from rfl) rfl rfl
  | change listeners all named =>
    have pairs : ∀ c ∈ listeners, ∃ old ∈ s.listeners, Changed (Scope.calling gone).turns old c := by
      intro c mem
      obtain ⟨i, within, rfl⟩ := List.getElem_of_mem mem
      have within' : i < s.listeners.length := all.length_eq ▸ within
      exact ⟨_, List.getElem_mem _, all.get within' within⟩
    constructor
    · intro c mem
      obtain ⟨old, there, changed⟩ := pairs c mem
      rw [changed.key, (changed.still id).1]
      exact held.locked old there
    · intro key mem
      obtain ⟨old, there, rfl⟩ := held.present key mem
      obtain ⟨i, within, rfl⟩ := List.getElem_of_mem there
      have within' : i < listeners.length := all.length_eq ▸ within
      exact ⟨_, List.getElem_mem _, (all.get within within').key⟩
  | lose front d back split dirty turn => exact turn.elim

theorem Calls.held {gone : FilterCallback → Prop} (ops : Calls gone s s') (orderly : Orderly s) (held : Held k k s) :
    Held k k s' := by
  induction ops with
  | refl => exact held
  | tail before op ih => exact op.held (Ops.orderly before orderly).table ih

/-- The next listener is the one with the least of the greater keys. -/
theorem Table.successor_spec (table : Table s) (mem : d ∈ s.listeners) :
    match successor s d.key with
    | none => ∀ c ∈ s.listeners, c.key ≤ d.key
    | some next => (∃ c ∈ s.listeners, c.key = next) ∧ d.key < next ∧
        ∀ c ∈ s.listeners, d.key < c.key → next ≤ c.key := by
  have spec := table.ordered.successor mem
  unfold successor
  split at spec
  case h_1 last =>
    rw [last]
    exact spec
  case h_2 c first =>
    rw [first]
    exact ⟨⟨c, spec.1, rfl⟩, spec.2⟩

theorem Table.successor_present (table : Table s) (mem : d ∈ s.listeners) :
    ∀ k ∈ successor s d.key, ∃ c ∈ s.listeners, c.key = k := by
  intro k next
  have spec := table.successor_spec mem
  rw [Option.mem_def.mp next] at spec
  exact spec.1

/-- The listener whose turn it is is set. -/
theorem set_locked {l l' c : Option Nat} (held : Held l c s)
    (key : d'.key = d.key) (before : l = none ∨ l = some d.key) (after : l' = none ∨ l' = some d.key)
    (own : d'.lock = true ↔ l' = some d.key) : ∀ a ∈ (s.setListener d').listeners, (a.lock = true ↔ l' = some a.key) := by
  intro a there
  obtain ⟨old, inside, rfl⟩ := List.mem_map.mp there
  split
  case isTrue same =>
    rw [key]
    exact own
  case isFalse other =>
    rw [key] at other
    have elsewhere : ∀ o : Option Nat, o = none ∨ o = some d.key → o ≠ some old.key := by
      rintro o (rfl | rfl) same
      · cases same
      · exact other (Option.some.inj same).symm
    exact ((held.locked old inside).trans (iff_of_false (elsewhere l before) (elsewhere l' after)))

theorem Table.unlock (table : Table s) (mem : d ∈ s.listeners) : Table (s.setListener d.unlock) := by
  obtain ⟨front, back, split, replaced⟩ := table.ordered.replace mem (show d.unlock.key = d.key from rfl)
  exact table.replace split replaced rfl rfl (table.shaped d mem) fun _ => rfl

theorem leave_held {l c : Option Nat} (table : Table s) (mem : d ∈ s.listeners) (held : Held l c s)
    (before : l = none ∨ l = some d.key) : Held none (leave s f d).phase.current (leave s f d) := by
  have table' := table.unlock mem
  have unlocked : d.unlock ∈ (s.setListener d.unlock).listeners := table.mem_set mem rfl
  exact ⟨set_locked held rfl before (.inl rfl) (iff_of_false Bool.false_ne_true (Option.some_ne_none _).symm),
    Table.successor_present (d := d.unlock) table' unlocked⟩

theorem Turn.held (turn : Turn s e f d stage s') (table : Table s) (mem : d ∈ s.listeners)
    (current : stage.current = some d.key) (held : Held stage.handling stage.current s) :
    Held s'.phase.handling s'.phase.current s' := by
  have before : stage.handling = none ∨ stage.handling = some d.key := by
    cases stage with
    | scan key => exact .inl rfl
    | handle key => exact .inr current
    | call key id => exact .inr current
  have here : ∀ {u : State} {d' : FilterData}, d' ∈ u.listeners → d'.key = d.key →
      ∀ k ∈ some d.key, ∃ a ∈ u.listeners, a.key = k := by
    intro u d' inside key k same
    cases same
    exact ⟨d', inside, key⟩
  cases turn with
  | pass other => exact ⟨held.locked, table.successor_present mem⟩
  | @lock t here' accepted cached =>
    have first : Held (some d.key) (some d.key) (s.setListener { d with lock := true }) :=
      ⟨set_locked held rfl before (.inr rfl) (iff_of_true rfl rfl), here (table.mem_set mem rfl) rfl⟩
    have second : Held (some d.key) (some d.key) t := by
      rcases cached with rfl | ⟨_, name, _, new, _, _, rfl⟩
      · exact first
      · refine (updateNameCache_op (c := .calling fun _ => False) name new).held ?_ first
        exact (table.set_op (c := .free) mem (lock_changed trivial) rfl).table table
    exact second.phase ⟨rfl, rfl, rfl⟩
  | lost here' accepted service improper =>
    have locked := table.mem_set mem (show ({ d with lock := true } : FilterData).key = d.key from rfl)
    have table' := (table.set_op (c := .free) mem (lock_changed trivial) rfl).table table
    have first : Held (some d.key) (some d.key) (s.setListener { d with lock := true }) :=
      ⟨set_locked held rfl before (.inr rfl) (iff_of_true rfl rfl), here locked rfl⟩
    exact leave_held table' locked first (.inr rfl)
  | leave none => exact leave_held table mem held before
  | call cb rest first calls => exact held.phase ⟨rfl, rfl, rfl⟩
  | @settled t stage cb own after done =>
    have handling : stage.handling = some d.key := by
      rcases after with ⟨rfl, _⟩ | rfl
      · rfl
      · rfl
    have locked : d.lock = true := (held.locked d mem).mpr handling
    have both : Held (some d.key) (some d.key) t := by
      rcases done with rfl | ⟨rfl, _⟩
      · exact ⟨set_locked held rfl before (.inr rfl) (iff_of_true locked rfl), here (table.mem_set mem rfl) rfl⟩
      · refine ⟨?_, here (table.dropCallback_op (c := .free) mem
          (List.mem_append_left _ own) trivial).2 rfl⟩
        have set := set_locked held (show (d.remove cb.id).key = d.key from rfl) before (.inr rfl)
          (iff_of_true locked rfl)
        unfold dropCallback
        dsimp only
        split
        · exact set
        · exact set
    exact both.phase ⟨rfl, rfl, rfl⟩
  | back id absent => exact held.phase ⟨rfl, rfl, rfl⟩

theorem sane_start (start : Start s) : Sane s := by
  subst start
  refine ⟨⟨⟨.nil, fun _ mem => ?_, fun _ mem => ?_, fun _ mem => ?_⟩, ⟨.nil, fun _ mem => ?_⟩, fun _ mem => ?_⟩,
    .inr ⟨fun _ mem => ?_, ?_⟩⟩
  all_goals first | cases mem | skip
  exact fun _ none => absurd none.symm (Option.some_ne_none _)

/-- While the program is called, nobody is between two listeners. -/
theorem Phase.calls_still {p : Phase} (calls : p.calls = true) :
    p.handling = p.current ∧ ∀ why, p ≠ .fault why := by
  unfold Phase.calls at calls
  split at calls
  · exact ⟨rfl, fun _ => Phase.noConfusion⟩
  · exact ⟨rfl, fun _ => Phase.noConfusion⟩
  · exact ⟨rfl, fun _ => Phase.noConfusion⟩
  · exact absurd calls Bool.false_ne_true

theorem Move.sane (move : Move s e s') (sane : Sane s) : Sane s' := by
  cases move with
  | asks request calls ops =>
    obtain ⟨still, sound⟩ := Phase.calls_still calls
    refine ⟨Ops.orderly ops sane.toOrderly, .inr ?_⟩
    rw [Ops.phase_eq ops, still]
    exact ops.held sane.toOrderly (still ▸ sane.sound sound)
  | message connection m idle =>
    have held := sane.sound fun why => by simp [idle]
    refine ⟨sane.toOrderly.alike ⟨rfl, rfl, rfl⟩, .inr ⟨?_, fun k first => ?_⟩⟩
    · rw [idle] at held
      exact held.locked
    · obtain ⟨d, head, key⟩ := Option.map_eq_some_iff.mp (Option.mem_def.mp first)
      exact ⟨d, List.mem_of_head? head, key⟩
  | turn f stage d phase mem current turn =>
    have held := sane.sound fun why => by simp [phase]
    rw [phase] at held
    obtain ⟨t, ops, alike, _⟩ := turn.ops (c := .free) sane.table sane.numbered mem trivial False.elim (fun _ _ _ => trivial)
      fun handling => (held.locked d mem).mpr handling
    exact ⟨(Ops.orderly ops sane.toOrderly).alike alike, .inr (turn.held sane.table mem current held)⟩
  | finish f answers phase ops =>
    have held := sane.sound fun why => by simp [phase]
    rw [phase] at held
    exact ⟨(Ops.orderly ops sane.toOrderly).alike ⟨rfl, rfl, rfl⟩,
      .inr ((ops.held sane.toOrderly held).phase ⟨rfl, rfl, rfl⟩)⟩
  | owner p log free ops noted =>
    have held : Held none none s := by
      rcases free with idle | ⟨id, updating⟩
      · have held := sane.sound fun why => by simp [idle]
        rw [idle] at held
        exact held
      · have held := sane.sound fun why => by simp [updating]
        rw [updating] at held
        exact held
    refine ⟨(Ops.orderly ops sane.toOrderly).alike ⟨rfl, rfl, rfl⟩, .inr ?_⟩
    rcases noted with ⟨rfl, _⟩ | ⟨_, _, rfl, _⟩
    · exact (ops.held sane.toOrderly held).phase ⟨rfl, rfl, rfl⟩
    · exact (ops.held sane.toOrderly held).phase ⟨rfl, rfl, rfl⟩
  | fault why =>
    exact ⟨sane.toOrderly.alike ⟨rfl, rfl, rfl⟩, .inl ⟨why, rfl⟩⟩

/-- The steps for which ids are left. -/
def Counted : State → Event → Prop := fun s _ => Room s

instance (s : State) : Decidable (Room s) := inferInstanceAs (Decidable (_ < _))

instance (s : State) (e : Event) : Decidable (Counted s e) := inferInstanceAs (Decidable (Room s))

theorem sane_reached (reached : Reaches step Counted Start s) : Sane s :=
  reached.invariant (fun _ start => sane_start start) fun _ _ _ sane room ran => (step_moves sane room ran).sane sane

end ConnmanUi.Watch
