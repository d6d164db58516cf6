import ConnmanUi.WatchRuns

/-!
How watches end.

While ids are left (`Room`) and the bus sends NameOwnerChanged with its three
strings (`Proper`), a watch stays until the program removes it, its function
refuses to be kept, its listener is through with it and it has one of the two
functions of a bus name, whether or not that was called, or it is the watch of
the name of a listener that is emptied (`watch_stays`).  When it goes its destroy
function is called, once, and none of its functions is called any more
(`ended_once`).  Without the three strings `service_filter` returns at once, and
`message_filter` drops the callbacks with no destroy function called.
-/

namespace ConnmanUi.Watch

open Keyed Run

variable {s s' t : State} {d d' : FilterData} {cb : FilterCallback} {c c' : Scope} {f : Filtering} {stage : Stage}
  {e : Event} {id : Nat}

/-! ## What a step is allowed -/

/-- Why a watch may go in a step. -/
inductive Leaves (s : State) (e : Event) (s' : State) (cb : FilterCallback) : Prop where
  | removed (answers : Answers) (asked : e = .removeWatch cb.id answers)
  /-- Its listener has its turn, and is through with it. -/
  | dismissed (f : Filtering) (stage : Stage) (d : FilterData) (own : FilterCallback) (phase : s.phase = .filtering f stage)
      (mem : d ∈ s.listeners) (mine : own ∈ d.callbacks) (same : own.bare = cb) (through : Dismissed e f d stage own)
  | orphaned (orphan : Orphaned s s' cb)

def Phase.message : Phase → Option Message
  | .filtering f _ => some f.message
  | _ => none

/-- The signal that is dispatched is as the bus sends it. -/
def Proper (s : State) : Prop := ∀ m ∈ s.phase.message, m.Proper

instance (m : Message) : Decidable m.Proper :=
  inferInstanceAs (Decidable (m.interface = "org.freedesktop.DBus" → m.member = "NameOwnerChanged" → 3 ≤ m.args.length))

instance (s : State) : Decidable (Proper s) := inferInstanceAs (Decidable (∀ m ∈ s.phase.message, m.Proper))

/-- What the operations of a step are allowed. -/
def stepScope (s : State) (e : Event) (s' : State) : Scope :=
  ⟨Proper s, fun k => s.phase.current = some k, Leaves s e s'⟩

/-! ## What leaves -/

/-- What an operation takes out it may take out, and its destroy function is
called. -/
theorem Op.leaves (op : Op c s s') (orderly : Orderly s) (clean : c.clean) (mem : cb ∈ s.watches) :
    cb ∈ s'.watches ∨ c.gone cb ∧ (cb.destroyFunc = true → .destroyed cb.id ∈ s'.log) := by
  cases op with
  | bus filters rules => exact .inl mem
  | listen handle m shaped =>
    refine .inl ?_
    unfold State.watches
    rw [List.flatMap_append]
    exact List.mem_append_left _ mem
  | unlisten d there empty free =>
    obtain ⟨a, old, own⟩ := List.mem_flatMap.mp mem
    refine .inl (List.mem_flatMap.mpr ⟨a, List.mem_filter.mpr ⟨old, decide_eq_true fun same => ?_⟩, own⟩)
    rw [orderly.table.ordered.eq old there same, empty] at own
    cases own
  | add front d back new split own =>
    have after := watches_split (s := { s with listeners := front ++ d.add new :: back, listenerId := s.listenerId + 1 }) rfl
    refine .inl (after.symm.subset (((d.add_watches new).append_right _).symm.subset ?_))
    exact List.mem_cons_of_mem _ ((watches_split split).subset mem)
  | remove front d back old split there gone =>
    have after := watches_split (s := { s with
      listeners := front ++ d.remove old.id :: back
      log := if old.destroyFunc then .destroyed old.id :: s.log else s.log }) rfl
    by_cases same : cb.id = old.id
    · have this : old.bare = cb := List.inj_on_of_nodup_map orderly.numbered.nodup
        (mem_watches (by simp [split]) there) mem same.symm
      subst this
      refine .inr ⟨gone, fun destroys => ?_⟩
      rw [show old.destroyFunc = true from destroys, if_pos rfl]
      exact List.mem_cons_self
    · refine .inl (after.symm.subset ?_)
      rw [d.remove_watches]
      rcases List.mem_append.mp ((watches_split split).subset mem) with own | other
      · exact List.mem_append_left _ (List.mem_filter.mpr ⟨own, decide_eq_true same⟩)
      · exact List.mem_append_right _ other
  | change listeners all named =>
    refine .inl ?_
    clear named
    unfold State.watches at mem ⊢
    dsimp only
    generalize s.listeners = before at all mem
    induction all with
    | nil => exact mem
    | cons changed _ ih =>
      rw [List.flatMap_cons] at mem ⊢
      rcases List.mem_append.mp mem with own | other
      · exact List.mem_append_left _ (changed.watches.symm.subset own)
      · exact List.mem_append_right _ (ih other)
  | lose front d back split dirty turn => exact absurd clean dirty

/-- Only a watch that goes is noted as destroyed. -/
theorem Op.log (op : Op c s s') (numbered : Numbered s) : s'.log = s.log ∨
    ∃ cb ∈ s.watches, s'.log = .destroyed cb.id :: s.log ∧ ∀ w ∈ s'.watches, w.id ≠ cb.id := by
  cases op with
  | remove front d back old split there gone =>
    have mem := mem_watches (show d ∈ s.listeners by simp [split]) there
    have after := watches_split (s := { s with
      listeners := front ++ d.remove old.id :: back
      log := if old.destroyFunc then .destroyed old.id :: s.log else s.log }) rfl
    dsimp only
    split
    case isFalse => exact .inl rfl
    case isTrue =>
      refine .inr ⟨old.bare, mem, rfl, fun w stays same => ?_⟩
      have before := (((watches_split split).map FilterCallback.id).nodup_iff).mp numbered.nodup
      rw [List.map_append] at before
      rcases List.mem_append.mp (after.subset stays) with own | other
      · rw [d.remove_watches] at own
        exact absurd same (of_decide_eq_true (List.mem_filter.mp own).2)
      · refine (List.nodup_append.mp before).2.2 old.bare.id (List.mem_map_of_mem (List.mem_map_of_mem there)) w.id
          (List.mem_map_of_mem other) same.symm
  | _ => exact .inl rfl

theorem Ops.log_suffix (ops : Ops c s s') (orderly : Orderly s) : s.log <:+ s'.log := by
  induction ops with
  | refl => exact List.suffix_rfl
  | tail before op ih =>
    refine ih.trans ?_
    rcases op.log (Ops.orderly before orderly).numbered with same | ⟨cb, _, noted, _⟩
    · exact same.symm ▸ List.suffix_rfl
    · exact noted.symm ▸ List.suffix_cons _ _

theorem Ops.leaves (ops : Ops c s s') (orderly : Orderly s) (clean : c.clean) (mem : cb ∈ s.watches) :
    cb ∈ s'.watches ∨ c.gone cb ∧ (cb.destroyFunc = true → .destroyed cb.id ∈ s'.log) := by
  induction ops with
  | refl => exact .inl mem
  | tail before op ih =>
    have orderly' := Ops.orderly before orderly
    rcases ih with stays | ⟨gone, destroyed⟩
    · exact op.leaves orderly' clean stays
    · refine .inr ⟨gone, fun destroys => ?_⟩
      exact (Ops.log_suffix (.single op) orderly').subset (destroyed destroys)

/-- What a step does, apart from the phase. -/
theorem Move.ops (move : Move s e s') (sane : Sane s) :
    ∃ t, Ops (stepScope s e s') s t ∧ Alike s' t ∧ Noted t s'.log := by
  have calling {gone : FilterCallback → Prop} {u v : State} (ops : Calls gone s u) (only : ∀ cb, gone cb → Leaves s e v cb) :
      Ops (stepScope s e v) s u := Ops.mono ops ⟨fun _ => trivial, fun _ turn => turn.elim, only⟩
  cases move with
  | asks request calls ops =>
    refine ⟨s', calling ops fun cb asked => ?_, ⟨rfl, rfl, rfl⟩, .inl rfl⟩
    rcases asked with ⟨answers, removed⟩ | orphan
    · exact .removed answers removed
    · exact .orphaned orphan
  | message connection m idle => exact ⟨s, .refl, ⟨rfl, rfl, rfl⟩, .inl rfl⟩
  | turn f stage d phase mem current turn =>
    have held := sane.sound fun why => by simp [phase]
    rw [phase] at held
    refine turn.ops sane.table sane.numbered mem ?_ (fun proper => proper f.message (by rw [phase]; rfl)) (fun own there dismissed => ?_)
      fun handling => (held.locked d mem).mpr handling
    · change s.phase.current = some d.key
      rw [phase]
      exact current
    · exact .dismissed f stage d own phase mem there rfl dismissed
  | @finish t f answers phase ops =>
    exact ⟨t, calling ops fun _ orphan => .orphaned ⟨orphan.silent, orphan.emptied⟩, ⟨rfl, rfl, rfl⟩, .inl rfl⟩
  | @owner _ t p log free ops noted =>
    refine ⟨t, calling ops fun _ none => none.elim, ⟨rfl, rfl, rfl⟩, ?_⟩
    rcases noted with ⟨_, same⟩ | ⟨cb, mem, _, called⟩
    · exact .inl same
    · exact .inr ⟨cb, (Ops.leaves ops sane.toOrderly trivial mem).resolve_right And.left, called⟩
  | fault why => exact ⟨s, .refl, ⟨rfl, rfl, rfl⟩, .inl rfl⟩


/-- A watch goes only because it is asked for, because its listener is through
with it and does not keep it, or as the silent watch of the name of a listener
that is emptied. -/
theorem watch_stays (reached : Reaches step Counted Start s) (room : Room s) (proper : Proper s) (ran : step s e = some s')
    (mem : cb ∈ s.watches) : cb ∈ s'.watches ∨ Leaves s e s' cb := by
  have sane := sane_reached reached
  obtain ⟨t, ops, alike, _⟩ := (step_moves sane room ran).ops sane
  rw [alike.watches]
  exact (Ops.leaves ops sane.toOrderly proper mem).imp id And.left

/-- Two watches of one signal, and the first is called. -/
def called : List Event :=
  let signal : Message := { sender := ":1.4", path := "/a", interface := "a.A", member := "Changed", args := [] }
  [.addSignalWatch 1 none (some "/a") none none true true {}, .addSignalWatch 1 none (some "/a") none none true true {},
    .message 1 signal, .proceed {}, .proceed {}]

theorem called_plays : (play step Counted {} called).isSome := by decide +kernel

def calledState : State := (play step Counted {} called).get called_plays

theorem calledState_reached : Reaches step Counted Start calledState :=
  Reaches.play (.here rfl) called (Option.some_get called_plays).symm

theorem watch_stays_refused : ∃ s', step calledState (.returned false {}) = some s' ∧
    ∀ cb ∈ calledState.watches, cb ∈ s'.watches ∨ Leaves calledState (.returned false {}) s' cb := by
  obtain ⟨s', ran⟩ : ∃ s', step calledState (.returned false {}) = some s' :=
    Option.isSome_iff_exists.mp (by decide +kernel)
  exact ⟨s', ran, fun cb mem => watch_stays calledState_reached (by decide +kernel) (by decide +kernel) ran mem⟩

/-! ## What is noted of a watch -/

/-- What was destroyed is not there, is not destroyed again, and not called. -/
structure Closed (s : State) : Prop where
  past : ∀ id, .destroyed id ∈ s.log → id ≤ s.listenerId ∧ ∀ w ∈ s.watches, w.id ≠ id
  order : s.log.Pairwise fun newer older => ∀ id, older = .destroyed id → newer ≠ .destroyed id ∧ newer ≠ .called id

theorem Op.closed (op : Op c s s') (orderly : Orderly s) (closed : Closed s) : Closed s' := by
  have kept : ∀ id, .destroyed id ∈ s.log → id ≤ s'.listenerId ∧ ∀ w ∈ s'.watches, w.id ≠ id := by
    intro id noted
    obtain ⟨given, gone⟩ := closed.past id noted
    rcases op.watches with ⟨sub, same⟩ | ⟨new, own, next, all⟩
    · exact ⟨same ▸ given, fun w mem => gone w (sub.subset mem)⟩
    · refine ⟨next ▸ Nat.le_succ_of_le given, fun w mem same => ?_⟩
      rcases List.mem_cons.mp (all.subset mem) with rfl | old
      · have this : id = s.listenerId + 1 := same.symm.trans own
        exact absurd given (this ▸ Nat.not_succ_le_self _)
      · exact gone w old same
  rcases op.log orderly.numbered with same | ⟨cb, mem, noted, gone⟩
  · exact ⟨same ▸ kept, same ▸ closed.order⟩
  · have silent : ∀ id, .destroyed id ∈ s.log → id ≠ cb.id := fun id was same => (closed.past id was).2 cb mem same.symm
    refine ⟨fun id there => ?_, ?_⟩
    · rw [noted] at there
      rcases List.mem_cons.mp there with same | old
      · cases same
        refine ⟨?_, gone⟩
        rcases op.watches with ⟨_, same⟩ | ⟨_, _, next, _⟩
        · exact same ▸ (orderly.numbered.given cb mem).2
        · exact next ▸ Nat.le_succ_of_le (orderly.numbered.given cb mem).2
      · exact kept id old
    · rw [noted]
      refine List.pairwise_cons.mpr ⟨fun older was id same => ?_, closed.order⟩
      subst same
      exact ⟨fun again => silent id was (Note.destroyed.inj again).symm, Note.noConfusion⟩

theorem Ops.closed (ops : Ops c s s') (orderly : Orderly s) (closed : Closed s) : Closed s' := by
  induction ops with
  | refl => exact closed
  | tail before op ih => exact op.closed (Ops.orderly before orderly) ih

theorem Closed.noted (closed : Closed t) (alike : Alike s t) (noted : Noted t s.log) : Closed s := by
  rcases noted with same | ⟨cb, mem, called⟩
  · refine ⟨?_, same ▸ closed.order⟩
    rw [same, alike.watches, alike.listenerId]
    exact closed.past
  · refine ⟨fun id there => ?_, ?_⟩
    · rw [called] at there
      rw [alike.watches, alike.listenerId]
      exact closed.past id ((List.mem_cons.mp there).resolve_left Note.noConfusion)
    · rw [called]
      refine List.pairwise_cons.mpr ⟨fun older was id same => ?_, closed.order⟩
      subst same
      refine ⟨Note.noConfusion, fun again => ?_⟩
      exact (closed.past id was).2 cb mem (Note.called.inj again)

/-- An observer collects the watches there were. -/
def noteAdded (_ : State) (_ : Event) (s' : State) (added : List FilterCallback) : List FilterCallback := s'.watches ++ added

/-- The steps for which ids are left and the bus sends what it promises. -/
abbrev Sound : Watched State (List FilterCallback) → Event → Prop := fun w _ => Room w.state ∧ Proper w.state

abbrev Unwatched : Watched State (List FilterCallback) → Prop := fun w => Start w.state ∧ w.ghost = []

/-- Every watch that was added is there, or was destroyed. -/
structure Accounted (w : Watched State (List FilterCallback)) : Prop where
  sane : Sane w.state
  closed : Closed w.state
  added : ∀ cb ∈ w.ghost, cb ∈ w.state.watches ∨ (cb.destroyFunc = true → .destroyed cb.id ∈ w.state.log)

theorem accounted_start {w : Watched State (List FilterCallback)} (start : Unwatched w) : Accounted w := by
  obtain ⟨state, ghost⟩ := start
  have empty : w.state = {} := state
  refine ⟨sane_start state, ?_, fun cb mem => ?_⟩
  · rw [empty]
    exact ⟨fun id none => absurd none List.not_mem_nil, .nil⟩
  · rw [ghost] at mem
    cases mem

theorem Accounted.step {w w' : Watched State (List FilterCallback)} {e : Event} (accounted : Accounted w)
    (sound : Sound w e) (ran : observe step noteAdded w e = some w') : Accounted w' := by
  obtain ⟨s', stepped, rfl⟩ := observe_eq_some ran
  obtain ⟨sane, closed, added⟩ := accounted
  have move := step_moves sane sound.1 stepped
  obtain ⟨t, ops, alike, noted⟩ := move.ops sane
  refine ⟨move.sane sane, (Ops.closed ops sane.toOrderly closed).noted alike noted, fun cb mem => ?_⟩
  have later : ∀ note ∈ t.log, note ∈ s'.log := by
    intro note there
    rcases noted with same | ⟨_, _, called⟩
    · exact same ▸ there
    · exact called ▸ List.mem_cons_of_mem _ there
  rcases List.mem_append.mp mem with there | old
  · exact .inl there
  · dsimp only
    rw [alike.watches]
    rcases added cb old with there | ended
    · exact (Ops.leaves ops sane.toOrderly sound.2 there).imp id fun left destroys => later _ (left.2 destroys)
    · exact .inr fun destroys => later _ ((Ops.log_suffix ops sane.toOrderly).subset (ended destroys))

/-- What was destroyed was destroyed once, and not called since. -/
theorem Closed.once {id : Nat} (closed : Closed s) (destroyed : .destroyed id ∈ s.log) :
    ∃ later earlier, s.log = later ++ .destroyed id :: earlier ∧
      .destroyed id ∉ later ∧ .destroyed id ∉ earlier ∧ .called id ∉ later := by
  obtain ⟨later, earlier, split⟩ := List.append_of_mem destroyed
  have order := closed.order
  rw [split] at order
  obtain ⟨_, after, before⟩ := List.pairwise_append.mp order
  refine ⟨later, earlier, split, fun again => ?_, fun again => ?_, fun called => ?_⟩
  · exact (before _ again _ List.mem_cons_self id rfl).1 rfl
  · exact ((List.pairwise_cons.mp after).1 _ again id rfl).1 rfl
  · exact (before _ called _ List.mem_cons_self id rfl).2 rfl

/-- A watch with a destroy function is there, or that was called once, and none of
its functions since. -/
theorem ended_once {w : Watched State (List FilterCallback)} (reached : Reaches (observe step noteAdded) Sound Unwatched w)
    (added : cb ∈ w.ghost) (destroys : cb.destroyFunc = true) :
    cb ∈ w.state.watches ∧ .destroyed cb.id ∉ w.state.log ∨
      cb ∉ w.state.watches ∧ ∃ later earlier, w.state.log = later ++ .destroyed cb.id :: earlier ∧
        .destroyed cb.id ∉ later ∧ .destroyed cb.id ∉ earlier ∧ .called cb.id ∉ later := by
  have accounted : Accounted w := reached.invariant (fun _ start => accounted_start start)
    fun _ _ _ accounted sound ran => accounted.step sound ran
  by_cases there : cb ∈ w.state.watches
  · exact .inl ⟨there, fun noted => (accounted.closed.past _ noted).2 cb there rfl⟩
  · exact .inr ⟨there, accounted.closed.once ((accounted.added cb added).resolve_left there destroys)⟩

def removed : List Event := [.addSignalWatch 1 none (some "/a") none none true true {}, .removeWatch 1 {}]

theorem removed_plays : (play (observe step noteAdded) Sound ⟨{}, []⟩ removed).isSome := by decide +kernel

def removedState : Watched State (List FilterCallback) :=
  (play (observe step noteAdded) Sound ⟨{}, []⟩ removed).get removed_plays

theorem ended_once_removed : ∃ later earlier, removedState.state.log = later ++ .destroyed 1 :: earlier ∧
    .destroyed 1 ∉ later ∧ .destroyed 1 ∉ earlier ∧ .called 1 ∉ later := by
  have start : Unwatched ⟨{}, []⟩ := ⟨rfl, rfl⟩
  have reached : Reaches (observe step noteAdded) Sound Unwatched removedState :=
    Reaches.play (.here start) removed (Option.some_get removed_plays).symm
  have added : ({ id := 1, signalFunc := true, destroyFunc := true } : FilterCallback) ∈ removedState.ghost := by
    decide +kernel
  rcases ended_once reached added rfl with ⟨there, _⟩ | ⟨_, ended⟩
  · exact absurd there (by decide +kernel)
  · exact ended

end ConnmanUi.Watch
