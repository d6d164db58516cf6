import ConnmanUi.WatchTidy

/-!
Who uses the watches with care.

A program whose callbacks do not remove themselves while they run and ask to be
kept, that waits for names it does not yet know the owner of, and a bus that does
what it is asked: in all runs of those nothing goes wrong, and the bus has at any
time the rules of the listeners and no others (`careful_tidy`).
-/

namespace ConnmanUi.Watch

open Keyed Run

variable {s s' t : State} {d d' : FilterData} {cb : FilterCallback} {answers : Answers} {f : Filtering} {stage : Stage}
  {e : Event} {gone : FilterCallback → Prop}

/-! ## Care -/

/-- The signals that have a string first have it. -/
def Message.Typed (m : Message) : Prop :=
  m.Proper ∧ (m.interface = "org.freedesktop.DBus.Properties" → m.args ≠ [])

/-- The callback that runs. -/
def Phase.running : Phase → Option Nat
  | .filtering _ (.call _ id) => some id
  | .updating id => some id
  | _ => none

def Careful (s : State) : Event → Prop
  | .addSignalWatch _ _ _ _ _ _ _ answers => Room s ∧ answers.Good
  | .addPropertiesWatch _ _ _ _ _ _ answers => Room s ∧ answers.Good
  | .addServiceWatch _ name connect _ _ answers lookup =>
    Room s ∧ answers.Good ∧ name.startsWith ":" = false ∧ Looked s name connect lookup
  | .removeWatch id answers => Room s ∧ answers.Good ∧ s.phase.running ≠ some id
  | .message _ m => Room s ∧ m.Typed
  | .proceed answers => Room s ∧ answers.Good
  | .returned keep _ => Room s ∧ keep = true
  | .serviceReply _ _ => Room s
  | .updateService _ _ => Room s

theorem Careful.room (careful : Careful s e) : Room s := by
  cases e with
  | serviceReply id owner => exact careful
  | updateService id owner => exact careful
  | _ => exact careful.1

/-- Whoever runs is there, and was called for its function. -/
def Attended (s : State) : Phase → Prop
  | .idle => True
  | .filtering f stage => f.message.Typed ∧ f.deleteListener = [] ∧ filterDataFind s f.connection = true ∧
      ∀ d ∈ s.listeners, stage.handling = some d.key → d.connection = f.connection ∧
        ∀ id, stage = .call d.key id → ∃ w ∈ d.callbacks, w.id = id ∧ d.calls w f.message = true
  | .updating id => ∃ w ∈ s.watches, w.id = id ∧ w.connFunc = true
  | .fault _ => False

structure Upright (s : State) : Prop extends Sane s where
  tidy : Tidy none s
  attended : Attended s s.phase

theorem loud_of_calls {m : Message} (calls : d.calls cb m = true) : ¬Silent cb := by
  rintro ⟨conn, disc, signal, _⟩
  unfold FilterData.calls at calls
  split at calls
  · exact Bool.false_ne_true (signal.symm.trans calls)
  · split at calls
    · exact Bool.false_ne_true (disc.symm.trans calls)
    · exact Bool.false_ne_true (conn.symm.trans calls)
  · exact Bool.false_ne_true calls

theorem Attended.sound (attended : Attended s s.phase) : ∀ why, s.phase ≠ .fault why := by
  intro why faulty
  rw [faulty] at attended
  exact attended

theorem Upright.holds (upright : Upright s) : Held s.phase.handling s.phase.current s :=
  upright.toSane.sound upright.attended.sound

theorem Upright.unlocked (upright : Upright s) (free : s.phase.handling = none) : ∀ d ∈ s.listeners, d.lock = false := by
  intro d mem
  have other : s.phase.handling ≠ some d.key := free ▸ (Option.some_ne_none d.key).symm
  simpa using mt (upright.holds.locked d mem).mp other

/-- The callback that runs is in the listener that is locked; the others may be
removed. -/
theorem Upright.manned (upright : Upright s) (calls : s.phase.calls = true) :
    ∃ r, Manned r s ∧ ∀ id, s.phase.running ≠ some id → ∀ cb ∈ s.watches, cb.id = id → id ≠ r := by
  have nobody (free : s.phase.handling = none) :
      ∃ r, Manned r s ∧ ∀ id, s.phase.running ≠ some id → ∀ cb ∈ s.watches, cb.id = id → id ≠ r := by
    refine ⟨0, fun d mem locked => ?_, fun id _ cb mem same none => ?_⟩
    · exact absurd (upright.unlocked free d mem ▸ locked) Bool.false_ne_true
    · exact absurd (same.trans none) (Nat.ne_of_gt (upright.numbered.given cb mem).1)
  have holds := upright.holds
  have attended := upright.attended
  cases phase : s.phase with
  | idle =>
    rw [phase] at nobody
    exact nobody rfl
  | updating id =>
    rw [phase] at nobody
    exact nobody rfl
  | fault why =>
    rw [phase] at attended
    exact attended.elim
  | filtering f stage =>
    rw [phase] at calls attended holds
    cases stage with
    | scan current => cases calls
    | handle current => cases calls
    | call current id =>
      refine ⟨id, fun d mem locked => ?_, fun other differs cb _ _ same => differs (by rw [same]; rfl)⟩
      have handling := (holds.locked d mem).mp locked
      have key : current = d.key := Option.some.inj handling
      obtain ⟨w, own, same, told⟩ := (attended.2.2.2 d mem handling).2 id (by rw [key])
      exact ⟨w, List.mem_append_left _ own, same, loud_of_calls told⟩

/-! ## What the program asks for -/

/-- The callback that runs stays. -/
theorem Upright.asks (upright : Upright s) (calls : s.phase.calls = true) (ops : Calls (Asked s e s') s s') (sane : Sane s')
    (others : ∀ id, s.phase.running = some id → ∀ answers, e ≠ .removeWatch id answers) : Attended s' s'.phase := by
  have stays : ∀ w ∈ s.watches, s.phase.running = some w.id → ¬Silent w → w ∈ s'.watches := by
    intro w mem running loud
    refine (Ops.leaves ops upright.toOrderly trivial mem).resolve_right fun ⟨asked, _⟩ => ?_
    rcases asked with ⟨answers, removed⟩ | orphaned
    · exact others w.id running answers removed
    · exact loud orphaned.silent
  have holds := upright.holds
  have attended := upright.attended
  rw [Ops.phase_eq ops]
  cases phase : s.phase with
  | idle => trivial
  | updating id =>
    rw [phase] at attended stays
    obtain ⟨w, mem, same, connects⟩ := attended
    refine ⟨w, stays w mem (congrArg some same.symm) fun silent => ?_, same, connects⟩
    exact Bool.false_ne_true (silent.1.symm.trans connects)
  | fault why =>
    rw [phase] at attended
    exact attended.elim
  | filtering f stage =>
    rw [phase] at calls attended holds stays
    cases stage with
    | scan current => cases calls
    | handle current => cases calls
    | call current id =>
      obtain ⟨typed, none, _, here⟩ := attended
      obtain ⟨d, mem, rfl⟩ := holds.present current rfl
      obtain ⟨connection, runs⟩ := here d mem rfl
      obtain ⟨w, own, same, told⟩ := runs id rfl
      have there := stays w.bare (mem_watches mem (List.mem_append_left _ own)) (congrArg some same.symm) (loud_of_calls told)
      obtain ⟨d', mem', key, handle, connected, w', own', bare⟩ := ops.keeps upright.toOrderly mem own there
      refine ⟨typed, none, (filterDataFind_iff _ _).mpr ⟨d', mem', connected.trans connection⟩, fun a inside handling => ?_⟩
      have this : a = d' := sane.table.ordered.eq inside mem' ((Option.some.inj handling).symm.trans key.symm)
      subst this
      refine ⟨connected.trans connection, fun other stage => ⟨w', own', ?_, ?_⟩⟩
      · injection stage with _ id'
        exact (bare_id bare).trans (same.trans id')
      · exact (calls_congr handle bare.symm).trans told

/-! ## What the filter does -/

/-- The first argument is compared only if it is there. -/
theorem Table.accepts_typed (table : Table s) (mem : d ∈ s.listeners) {m : Message} (typed : m.Typed) : d.accepts m ≠ none := by
  unfold Match.accepts
  split
  · exact Option.some_ne_none _
  case isFalse same =>
    split
    · exact Option.some_ne_none _
    case h_2 argument named =>
      simp only [Bool.or_eq_true, not_or, Bool.not_eq_true] at same
      obtain ⟨⟨⟨_, _⟩, interface⟩, member⟩ := same
      have shaped := table.shaped d mem
      have some : m.args ≠ [] := by
        cases handle : d.handleFunc with
        | signalFilter =>
          rw [handle] at shaped
          have properties := shaped (by rw [named]; exact Option.some_ne_none _)
          exact typed.2 (differs_eq_false interface _ properties).symm
        | serviceFilter =>
          rw [handle] at shaped
          obtain ⟨connection, name, what⟩ := shaped
          rw [what] at interface member
          have three := typed.1 (differs_eq_false interface _ rfl).symm (differs_eq_false member _ rfl).symm
          intro none
          rw [none] at three
          exact absurd three (by decide)
      intro none
      rw [Option.map_eq_none_iff, List.head?_eq_none_iff] at none
      exact some none

theorem once_known (known : WellKnown d) (cb : FilterCallback) : d.once cb = false := by
  unfold FilterData.once
  cases handle : d.handleFunc with
  | signalFilter => simp
  | serviceFilter =>
    cases named : d.argument with
    | none => simp
    | some a =>
      have plain := known handle a (Option.mem_def.mpr named)
      simp [plain]

/-- The listener of a turn changes, and keeps a callback. -/
theorem Upright.set (upright : Upright s) (mem : d ∈ s.listeners) (key : d'.key = d.key) (what : d'.toMatch = d.toMatch)
    (handle : d'.handleFunc = d.handleFunc) (kept : d'.callbacks ++ d'.processed ≠ [])
    (subset : d'.callbacks ++ d'.processed ⊆ d.callbacks ++ d.processed) : Tidy none (s.setListener d') := by
  refine upright.tidy.set (d := d) key (by rw [what]) ?_ (.inl rfl) (fun _ => kept) mem upright.table
    fun cb own => upright.tidy.clear d mem cb (subset own)
  unfold WellKnown
  rw [handle, what]
  exact upright.tidy.known d mem

/-- The listener of a turn stays on its connection. -/
theorem Table.connected (table : Table s) (mem : d ∈ s.listeners) (key : d'.key = d.key)
    (connection : d'.connection = f.connection) : (∃ a ∈ (s.setListener d').listeners, a.connection = f.connection) ∧
      ∀ a ∈ (s.setListener d').listeners, a.key = d.key → a.connection = f.connection := by
  refine ⟨⟨d', table.mem_set mem key, connection⟩, fun a there same => ?_⟩
  rcases mem_setListener there with rfl | ⟨_, other⟩
  · exact connection
  · exact absurd (same.trans key.symm) other

theorem attended_handle {key : Nat} (typed : f.message.Typed) (empty : f.deleteListener = [])
    (find : ∃ a ∈ s.listeners, a.connection = f.connection)
    (all : ∀ a ∈ s.listeners, a.key = key → a.connection = f.connection) : Attended s (.filtering f (.handle key)) :=
  ⟨typed, empty, (filterDataFind_iff _ _).mpr find, fun a there same =>
    ⟨all a there (Option.some.inj same).symm, fun id now => by cases now⟩⟩

/-- A listener is locked, and the owner of a name may be noted. -/
theorem Upright.lock (upright : Upright s) (mem : d ∈ s.listeners) (typed : f.message.Typed) (empty : f.deleteListener = [])
    (connection : d.connection = f.connection) (cached : t = s.setListener { d with lock := true } ∨
      ∃ name new, t = updateNameCache (s.setListener { d with lock := true }) name new) :
    Tidy none { t with phase := .filtering f (.handle d.key) } ∧
      Attended { t with phase := .filtering f (.handle d.key) } (.filtering f (.handle d.key)) := by
  have locked : Tidy none (s.setListener { d with lock := true }) :=
    upright.set mem rfl rfl rfl (upright.tidy.kept d mem (Option.some_ne_none d.key).symm) fun _ => id
  obtain ⟨find, all⟩ := upright.table.connected mem (show ({ d with lock := true } : FilterData).key = d.key from rfl) connection
  rcases cached with rfl | ⟨name, new, rfl⟩
  · exact ⟨locked.congr rfl rfl rfl, attended_handle typed empty find all⟩
  · refine ⟨(locked.updateNameCache name new).congr rfl rfl rfl, attended_handle typed empty ?_ fun a there same => ?_⟩
    · obtain ⟨a, there, same⟩ := find
      refine ⟨_, List.mem_map_of_mem there, ?_⟩
      split <;> exact same
    · obtain ⟨old, there', rfl⟩ := List.mem_map.mp there
      split at same
      · rw [if_pos ‹_›]
        exact all old there' same
      · rw [if_neg ‹_›]
        exact all old there' same

/-- A listener that keeps a callback is left. -/
theorem Upright.leave (upright : Upright s) (mem : d ∈ s.listeners) (typed : f.message.Typed) (empty : f.deleteListener = [])
    (connection : d.connection = f.connection) (finished : d.callbacks = []) :
    Tidy none (leave s f d) ∧ Attended (leave s f d) (leave s f d).phase := by
  have waiting : d.processed ≠ [] := by
    have nonempty := upright.tidy.kept d mem (Option.some_ne_none d.key).symm
    rw [finished] at nonempty
    exact nonempty
  have left : f.left d = f := if_neg waiting
  have unlocked : Tidy none (s.setListener d.unlock) := by
    refine upright.set mem rfl rfl rfl ?_ fun cb own => ?_
    · rw [FilterData.unlock, List.append_nil]
      exact waiting
    · rw [FilterData.unlock, List.append_nil] at own
      exact List.mem_append_right _ own
  refine ⟨unlocked.congr rfl rfl rfl, ?_⟩
  unfold Watch.leave
  dsimp only
  rw [left]
  exact ⟨typed, empty,
    (filterDataFind_iff _ _).mpr (upright.table.connected mem (show d.unlock.key = d.key from rfl) connection).1,
    fun a _ handling => by cases handling⟩

/-- A callback that ran waits. -/
theorem Upright.wait (upright : Upright s) (mem : d ∈ s.listeners) (typed : f.message.Typed) (empty : f.deleteListener = [])
    (connection : d.connection = f.connection) (own : cb ∈ d.callbacks) :
    Tidy none { s.setListener (d.wait cb) with phase := .filtering f (.handle d.key) } ∧
      Attended { s.setListener (d.wait cb) with phase := .filtering f (.handle d.key) } (.filtering f (.handle d.key)) := by
  have waits : Tidy none (s.setListener (d.wait cb)) := by
    refine upright.set mem rfl rfl rfl ?_ fun w there => ?_
    · exact List.ne_nil_of_mem (List.mem_append_right _ (List.mem_append_right _ List.mem_cons_self))
    · rcases List.mem_append.mp there with front | waiting
      · exact List.mem_append_left _ (List.mem_of_mem_filter front)
      · rcases List.mem_append.mp waiting with old | last
        · exact List.mem_append_right _ old
        · rw [List.mem_singleton.mp last]
          exact List.mem_append_left _ own
  obtain ⟨find, all⟩ := upright.table.connected mem (show (d.wait cb).key = d.key from rfl) connection
  exact ⟨waits.congr rfl rfl rfl, attended_handle typed empty find all⟩

/-- What a turn leaves is in order. -/
theorem Turn.upright (turn : Turn s e f d stage s') (upright : Upright s) (phase : s.phase = .filtering f stage)
    (mem : d ∈ s.listeners) (kept : ∀ answers, e ≠ .returned false answers) : Tidy none s' ∧ Attended s' s'.phase := by
  have attended := upright.attended
  rw [phase] at attended
  obtain ⟨typed, empty, found, here⟩ := attended
  have tidy := upright.tidy
  cases turn with
  | pass other => exact ⟨tidy.congr rfl rfl rfl, typed, empty, found, fun a _ handling => by cases handling⟩
  | lock connection accepted cached =>
    exact upright.lock mem typed empty connection (cached.imp id fun ⟨_, name, _, new, _, _, noted⟩ => ⟨name, new, noted⟩)
  | lost connection accepted service improper => exact absurd typed.1 improper
  | leave finished => exact upright.leave mem typed empty (here d mem rfl).1 finished
  | call cb rest first calls =>
    have own : cb ∈ d.callbacks := by
      rw [first]
      exact List.mem_cons_self
    refine ⟨tidy.congr rfl rfl rfl, typed, empty, found, fun a there same => ?_⟩
    have this : a = d := upright.table.ordered.eq there mem (Option.some.inj same).symm
    subst this
    refine ⟨(here a mem rfl).1, fun id now => ⟨cb, own, ?_, calls⟩⟩
    injection now
  | settled cb own after done =>
    rcases done with rfl | ⟨_, dismissed⟩
    · have handles : stage.handling = some d.key := by
        rcases after with ⟨rfl, _⟩ | rfl
        · rfl
        · rfl
      exact upright.wait mem typed empty (here d mem handles).1 own
    · rcases dismissed with ⟨_, once⟩ | ⟨_, _, answers, refused⟩
      · exact absurd (once.symm.trans (once_known (tidy.known d mem) cb)) Bool.noConfusion
      · exact absurd refused (kept answers)
  | back id absent =>
    obtain ⟨w, own, same, _⟩ := (here d mem rfl).2 id rfl
    exact absurd same (absent w own)

/-- Where the filter is, it goes on without a fault. -/
theorem Upright.proceed (upright : Upright s) (phase : s.phase = .filtering f stage) (there : stage ≠ .scan none)
    {outcome : Except Fault State} (went : proceed s f answers stage = some outcome) : ∃ t, outcome = .ok t := by
  have attended := upright.attended
  rw [phase] at attended
  cases stage with
  | scan current =>
    cases current with
    | none => exact absurd rfl there
    | some current =>
      obtain ⟨d, found, rfl⟩ := Option.map_eq_some_iff.mp went
      obtain ⟨mem, _⟩ := listener_spec found
      unfold enter
      dsimp only
      split
      · exact ⟨_, rfl⟩
      · split
        case h_1 unknown => exact absurd unknown (upright.table.accepts_typed mem attended.1)
        · exact ⟨_, rfl⟩
        · split <;> exact ⟨_, rfl⟩
  | handle current =>
    obtain ⟨d, found, rfl⟩ := Option.map_eq_some_iff.mp went
    obtain ⟨mem, _⟩ := listener_spec found
    unfold round
    split
    · exact ⟨_, rfl⟩
    case h_2 cb rest first =>
      split
      · exact ⟨_, rfl⟩
      · unfold settle
        rw [once_known (upright.tidy.known d mem) cb]
        exact ⟨_, rfl⟩
  | call current id => cases went

/-- The callback that runs is kept. -/
theorem Upright.returned {current id : Nat} (upright : Upright s) {outcome : Except Fault State} (went : returned s f current id true answers = some outcome) :
    ∃ t, outcome = .ok t := by
  obtain ⟨d, found, rfl⟩ := Option.map_eq_some_iff.mp went
  obtain ⟨mem, _⟩ := listener_spec found
  dsimp only
  split
  · rw [if_neg (by simp)]
    exact ⟨_, rfl⟩
  · rw [if_neg (by simp)]
    unfold settle
    rw [once_known (upright.tidy.known d mem)]
    exact ⟨_, rfl⟩

/-- The turn `message_filter` takes. -/
theorem Upright.proceed_turn (upright : Upright s) (phase : s.phase = .filtering f stage) (there : stage ≠ .scan none)
    (went : Watch.proceed s f answers stage = some (.ok s')) : ∃ d ∈ s.listeners, Turn s (.proceed answers) f d stage s' := by
  have holds := upright.holds
  rw [phase] at holds
  obtain ⟨d, mem, _, turn⟩ := upright.table.proceed_turn (e := .proceed answers)
    (fun d mem handling => (holds.locked d mem).mpr handling) there went
  exact ⟨d, mem, turn⟩

/-- The turn it takes when a function has returned. -/
theorem Upright.returned_turn {current id : Nat} {keep : Bool} (upright : Upright s)
    (phase : s.phase = .filtering f (.call current id)) (went : Watch.returned s f current id keep answers = some (.ok s')) :
    ∃ d ∈ s.listeners, Turn s (.returned keep answers) f d (.call current id) s' := by
  have holds := upright.holds
  rw [phase] at holds
  obtain ⟨d, mem, rfl, turn⟩ := Watch.returned_turn
    (fun d mem handling => (holds.locked d mem).mpr (congrArg some handling.symm)) went
  exact ⟨d, mem, turn⟩

/-- The end of message_filter, with nothing to delete. -/
theorem Upright.finish (upright : Upright s) (phase : s.phase = .filtering f (.scan none)) :
    finish s f answers = .ok { s with phase := .idle } := by
  have attended := upright.attended
  rw [phase] at attended
  obtain ⟨_, empty, found, _⟩ := attended
  unfold Watch.finish
  rw [empty]
  dsimp only [deleteListeners, bind, Except.bind]
  rw [if_pos found]

theorem updateService_tidy (tidy : Tidy none s) (sane : Sane s) (idle : s.phase = .idle) (mem : d ∈ s.listeners)
    (own : cb ∈ d.callbacks ++ d.processed) (name owner : String) :
    Tidy none (updateService s name owner cb) ∧ Attended (updateService s name owner cb) (updateService s name owner cb).phase := by
  have cached : Tidy none (updateNameCache s name owner) := tidy.updateNameCache name owner
  unfold updateService
  dsimp only
  split
  case isTrue connects =>
    refine ⟨cached.congr rfl rfl rfl, cb.bare, ?_, rfl, connects⟩
    exact (Op.leaves (c := .calling fun _ => False) (updateNameCache_op name owner) sane.toOrderly trivial
      (mem_watches mem own)).resolve_right And.left
  case isFalse =>
    refine ⟨cached.modifyCallback cb.id (.inl rfl), ?_⟩
    rw [show (serviceDataFree (updateNameCache s name owner) cb.id).phase = s.phase from rfl, idle]
    trivial

/-- A watch that does not run is removed. -/
theorem Upright.removeWatch_step (upright : Upright s) (good : answers.Good) {id : Nat} (other : s.phase.running ≠ some id)
    (sane : Sane s') (ran : step s (.removeWatch id answers) = some s') : Tidy none s' ∧ Attended s' s'.phase := by
  obtain ⟨calls, ran⟩ := Option.ite_none_right_eq_some.mp ran
  obtain ⟨r, manned, apart⟩ := upright.manned calls
  obtain ⟨t, removed, tidy, _⟩ := upright.tidy.removeWatch s.listeners.length upright.toOrderly manned good id
    fun cb mem same is => absurd is (apart id other cb mem same)
  have done : gDbusRemoveWatch s id answers = .ok t := removed
  rw [done] at ran
  cases ran
  refine ⟨tidy, upright.asks (e := .removeWatch id answers) calls (upright.toOrderly.removeWatch_ops _ (fun _ => .inr)
    (fun cb _ same => .inl ⟨answers, by rw [same]⟩) removed) sane fun running is answers' same => ?_⟩
  cases same
  exact other is

/-- The filter begins with its first listener. -/
theorem Upright.message_step (upright : Upright s) {connection : Nat} {m : Message} (typed : m.Typed)
    (ran : step s (.message connection m) = some s') : Tidy none s' ∧ Attended s' s'.phase := by
  obtain ⟨⟨_, installed⟩, ran⟩ := Option.ite_none_right_eq_some.mp ran
  cases ran
  have found : filterDataFind s connection = true := by
    have count := upright.tidy.filters connection
    rw [installed] at count
    by_contra missing
    rw [if_neg missing] at count
    cases count
  exact ⟨upright.tidy.congr rfl rfl rfl, typed, rfl, found, fun d _ handling => by cases handling⟩

theorem Upright.proceed_step (upright : Upright s) (ran : step s (.proceed answers) = some s') :
    Tidy none s' ∧ Attended s' s'.phase := by
  dsimp only [Watch.step] at ran
  split at ran
  case h_1 f stage phase =>
    obtain ⟨outcome, went, result⟩ := Option.map_eq_some_iff.mp ran
    by_cases last : stage = .scan none
    · subst last
      have ended : outcome = .ok { s with phase := .idle } :=
        (Option.some.inj went).symm.trans (upright.finish phase)
      subst ended
      cases result
      exact ⟨upright.tidy.congr rfl rfl rfl, trivial⟩
    · obtain ⟨t, rfl⟩ := upright.proceed phase last went
      cases result
      obtain ⟨d, mem, turn⟩ := upright.proceed_turn phase last went
      exact turn.upright upright phase mem fun _ => Event.noConfusion
  case h_2 => cases ran

/-- The function of a watch returns, and the watch is kept. -/
theorem Upright.returned_step (upright : Upright s) (ran : step s (.returned true answers) = some s') :
    Tidy none s' ∧ Attended s' s'.phase := by
  dsimp only [Watch.step] at ran
  split at ran
  case h_1 f current id phase =>
    obtain ⟨outcome, went, result⟩ := Option.map_eq_some_iff.mp ran
    obtain ⟨t, rfl⟩ := upright.returned went
    cases result
    obtain ⟨d, mem, turn⟩ := upright.returned_turn phase went
    refine turn.upright upright phase mem fun _ same => ?_
    injection same with keeps _
    exact Bool.noConfusion keeps
  case h_2 id phase =>
    have attended := upright.attended
    rw [phase] at attended
    obtain ⟨w, there, same, _⟩ := attended
    cases found : s.findCallback id with
    | none => exact absurd same (findCallback_none found w there)
    | some pair =>
      have done : updated s id = .ok { serviceDataFree s id with phase := .idle } := by
        unfold updated
        rw [found]
      rw [done] at ran
      cases ran
      exact ⟨(upright.tidy.modifyCallback id (.inl rfl)).congr rfl rfl rfl, trivial⟩
  case h_3 => cases ran

theorem Upright.serviceReply_step (upright : Upright s) {id : Nat} {owner : Option String}
    (ran : step s (.serviceReply id owner) = some s') : Tidy none s' ∧ Attended s' s'.phase := by
  obtain ⟨idle, ran⟩ := Option.ite_none_right_eq_some.mp ran
  obtain ⟨⟨d, cb⟩, found, ran⟩ := Option.bind_eq_some_iff.mp ran
  obtain ⟨name, _, ran⟩ := Option.bind_eq_some_iff.mp ran
  obtain ⟨mem, own, rfl⟩ := findCallback_spec found
  obtain ⟨_, ran⟩ := Option.ite_none_right_eq_some.mp ran
  split at ran
  · cases ran
    refine ⟨upright.tidy.modifyCallback cb.id (.inl rfl), ?_⟩
    rw [show (serviceDataFree s cb.id).phase = s.phase from rfl, idle]
    trivial
  · cases ran
    exact updateService_tidy upright.tidy upright.toSane idle mem own name _

/-- No lookup was answered from the cache. -/
theorem Upright.updateService_step (upright : Upright s) (id : Nat) (owner : String) :
    step s (.updateService id owner) ≠ some s' := by
  intro ran
  obtain ⟨idle, ran⟩ := Option.ite_none_right_eq_some.mp ran
  obtain ⟨outcome, went, result⟩ := Option.map_eq_some_iff.mp ran
  obtain ⟨⟨d, cb⟩, found, named⟩ := Option.bind_eq_some_iff.mp went
  obtain ⟨name, _, told⟩ := Option.bind_eq_some_iff.mp named
  obtain ⟨mem, own, rfl⟩ := findCallback_spec found
  obtain ⟨waits, _⟩ := Option.ite_none_right_eq_some.mp told
  rcases upright.tidy.clear d mem cb own with null | call
  · cases waits.symm.trans null
  · cases waits.symm.trans call

theorem Upright.step (upright : Upright s) (careful : Careful s e) (ran : step s e = some s') : Upright s' := by
  have move := step_moves upright.toSane careful.room ran
  have sane := move.sane upright.toSane
  suffices both : Tidy none s' ∧ Attended s' s'.phase from ⟨sane, both.1, both.2⟩
  cases e with
  | addSignalWatch connection sender path interface member function destroy answers =>
    obtain ⟨room, good⟩ := careful
    obtain ⟨calls, ran⟩ := Option.ite_none_right_eq_some.mp ran
    cases ran
    refine ⟨upright.tidy.addSignalWatch upright.toOrderly room good (shaped_sentBy _ _ _ _ _) (sentBy_name _ _ _ _ _ _) _ _, ?_⟩
    exact upright.asks (e := .addSignalWatch connection sender path interface member function destroy answers) calls
      (upright.toOrderly.addSignalWatch_ops room (shaped_sentBy _ _ _ _ _) function destroy answers) sane
      fun _ _ _ same => by cases same
  | addPropertiesWatch connection sender path interface function destroy answers =>
    obtain ⟨room, good⟩ := careful
    obtain ⟨calls, ran⟩ := Option.ite_none_right_eq_some.mp ran
    cases ran
    refine ⟨upright.tidy.addSignalWatch upright.toOrderly room good (shaped_properties _ _ _ _ _) (sentBy_name _ _ _ _ _ _) _ _, ?_⟩
    exact upright.asks (e := .addPropertiesWatch connection sender path interface function destroy answers) calls
      (upright.toOrderly.addSignalWatch_ops room (shaped_properties _ _ _ _ _) function destroy answers) sane
      fun _ _ _ same => by cases same
  | addServiceWatch connection name connect disconnect destroy answers lookup =>
    obtain ⟨room, good, known, looked⟩ := careful
    obtain ⟨calls, ran⟩ := Option.ite_none_right_eq_some.mp ran
    cases ran
    refine ⟨upright.tidy.addServiceWatch upright.toOrderly good connection known disconnect destroy looked, ?_⟩
    exact upright.asks (e := .addServiceWatch connection name connect disconnect destroy answers lookup) calls
      (upright.toOrderly.addServiceWatch_ops (Nat.lt_of_succ_lt room) connection name connect disconnect destroy answers lookup)
      sane fun _ _ _ same => by cases same
  | removeWatch id answers => exact upright.removeWatch_step careful.2.1 careful.2.2 sane ran
  | message connection m => exact upright.message_step careful.2 ran
  | proceed answers => exact upright.proceed_step ran
  | returned keep answers =>
    obtain ⟨_, rfl⟩ := careful
    exact upright.returned_step ran
  | serviceReply id owner => exact upright.serviceReply_step ran
  | updateService id owner => exact absurd ran (upright.updateService_step id owner)

/-! ## Every run -/

theorem upright_start (start : Start s) : Upright s := by
  have sane := sane_start start
  subst start
  refine ⟨sane, ⟨fun _ => rfl, .refl _, fun _ mem => ?_, fun _ mem => ?_, fun _ mem => ?_⟩, trivial⟩
  all_goals cases mem

/-- Nothing goes wrong, the bus has the rules of the listeners, the filter is on
the connections that have one, and each listener has a watch. -/
theorem careful_tidy (reached : Reaches step Careful Start s) : (∀ why, s.phase ≠ .fault why) ∧
    s.rules.Perm (s.listeners.map (·.rule)) ∧
    (∀ connection, s.filters.count connection = if ∃ d ∈ s.listeners, d.connection = connection then 1 else 0) ∧
    ∀ d ∈ s.listeners, d.watches ≠ [] := by
  have upright : Upright s :=
    reached.invariant (fun _ => upright_start) fun s e s' upright careful ran => upright.step careful ran
  refine ⟨upright.attended.sound, upright.tidy.rules, fun connection => ?_, fun d mem none => ?_⟩
  · rw [upright.tidy.filters]
    exact if_congr (filterDataFind_iff s connection) rfl rfl
  · exact upright.tidy.kept d mem (Option.some_ne_none d.key).symm (List.map_eq_nil_iff.mp none)

/-- A name is waited for, and one of its signals. -/
def named : State :=
  (gDbusAddSignalWatch (gDbusAddServiceWatch {} 1 "net.connman" true true false {} .sent).1 1 (some "net.connman") (some "/a")
    none none true false {}).1

theorem named_reached : Reaches step Careful Start named := by
  have good : ({} : Answers).Good := ⟨rfl, fun _ => rfl, fun _ => rfl⟩
  have first : Reaches step Careful Start (gDbusAddServiceWatch {} 1 "net.connman" true true false {} .sent).1 :=
    .next (e := .addServiceWatch 1 "net.connman" true true false {} .sent) (.here rfl)
      ⟨by decide, good, by decide +kernel, fun _ => .inr ⟨rfl, rfl⟩⟩ rfl
  refine .next (e := .addSignalWatch 1 (some "net.connman") (some "/a") none none true false {}) first
    ⟨by decide +kernel, good⟩ ?_
  dsimp only [step]
  rw [if_pos (by decide +kernel)]
  rfl

theorem careful_tidy_named : named.watches.map (·.id) = [1, 3, 2] ∧ named.filters.count 1 = 1 ∧ named.filters.count 2 = 0 := by
  obtain ⟨_, _, counts, _⟩ := careful_tidy named_reached
  refine ⟨by decide +kernel, ?_, ?_⟩
  · rw [counts, if_pos]
    decide +kernel
  · rw [counts, if_neg]
    decide +kernel

end ConnmanUi.Watch
