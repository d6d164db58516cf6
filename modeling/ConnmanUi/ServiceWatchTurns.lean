import ConnmanUi.ServiceWatch

/-!
How a NameOwnerChanged gets to the watches of its name.

While the filter goes through the listeners, a watch of the name is ahead of it
until its function is called, and nothing the program does in between lets it miss
the signal or hear it twice (`turn_heard`, `asks_heard`).
-/

namespace ConnmanUi.ServiceWatch

open Keyed Watch Run

variable {connection : Nat} {name : String} {s s' t : State} {d d' d₀ : FilterData} {cb : FilterCallback} {f : Filtering}
  {stage stage' : Stage} {e : Watch.Event} {m : Message} {id k : Nat}

/-! ## The watches of the name -/

theorem ours_handle (table : Table s) (mem : d ∈ s.listeners) (what : d.toMatch = serviceMatch connection name) :
    d.handleFunc = .serviceFilter := by
  have shaped := table.shaped d mem
  cases handle : d.handleFunc with
  | serviceFilter => rfl
  | signalFilter =>
    rw [handle, what] at shaped
    exact absurd (shaped (Option.some_ne_none name)) (by simp [serviceMatch])

theorem accepts_owns (what : d.toMatch = serviceMatch connection name) (owns : Owns name m) : d.accepts m = some true := by
  obtain ⟨interface, member, first⟩ := owns
  rw [what]
  simp [Match.accepts, serviceMatch, differs, interface, member, first]

theorem owns_accepts (what : d.toMatch = serviceMatch connection name) (accepted : d.accepts m = some true) : Owns name m := by
  obtain ⟨_, _, interface, member, argument⟩ := accepts_true accepted
  rw [what] at interface member argument
  exact ⟨(interface _ rfl).symm, (member _ rfl).symm, argument _ rfl⟩

/-- A watch with both functions is called for any change of the owner. -/
theorem ours_calls (handle : d.handleFunc = .serviceFilter) (owns : Owns name m) (typed : m.Typed)
    (connects : cb.connFunc = true) (disconnects : cb.discFunc = true) : d.calls cb m = true := by
  have three := typed.1 owns.1 owns.2.1
  unfold FilterData.calls
  rw [handle]
  match args : m.args with
  | [] | [_] | [_, _] => simp [args] at three
  | _ :: _ :: new :: _ =>
    dsimp only
    split
    · exact disconnects
    · exact connects

theorem mem_updateNameCache {n owner : String} (mem : d ∈ (updateNameCache s n owner).listeners)
    (what : d.toMatch = serviceMatch connection name) : d ∈ s.listeners := by
  obtain ⟨old, there, rfl⟩ := List.mem_map.mp mem
  split at what
  case isTrue named =>
    have none : old.name = none := congrArg Match.name what
    exact absurd (named.symm.trans none) (Option.some_ne_none _)
  case isFalse other =>
    rw [if_neg other]
    exact there

/-! ## What is ahead -/

/-- The filter is still to come to the callback. -/
def ahead (stage : Stage) (d : FilterData) (id : Nat) : Prop :=
  match stage with
  | .scan none => False
  | .scan (some k) => k ≤ d.key
  | .handle k => k < d.key ∨ k = d.key ∧ ∃ cb ∈ d.callbacks, cb.id = id
  | .call k i => k < d.key ∨ k = d.key ∧ i ≠ id ∧ ∃ cb ∈ d.callbacks, cb.id = id

instance : ∀ stage, Decidable (ahead stage d id)
  | .scan none => isFalse fun no => no
  | .scan (some k) => inferInstanceAs (Decidable (k ≤ d.key))
  | .handle k => inferInstanceAs (Decidable (k < d.key ∨ _))
  | .call k _ => inferInstanceAs (Decidable (k < d.key ∨ _))

/-- What the signal that is dispatched is still to tell a callback. -/
def due (connection : Nat) (name : String) (s : State) (d : FilterData) (id : Nat) : Option Bool :=
  match s.phase with
  | .filtering f stage =>
    if f.connection = connection ∧ Owns name f.message ∧ ahead stage d id then some (gained f.message) else none
  | _ => none

/-- What a callback knows after a step. -/
def heard (o : Option (Nat × Bool)) (id : Nat) (b : Bool) : Bool :=
  match o with
  | some (i, v) => if i = id then v else b
  | none => b

theorem ahead_other (stage : Stage) (current : stage.current = some k) (other : d.key ≠ k) : ahead stage d id ↔ k < d.key := by
  cases stage with
  | scan k' =>
    cases current
    exact ⟨fun le => Nat.lt_of_le_of_ne le other.symm, Nat.le_of_lt⟩
  | handle k' =>
    cases current
    exact or_iff_left fun ⟨same, _⟩ => other same.symm
  | call k' i =>
    cases current
    exact or_iff_left fun ⟨same, _⟩ => other same.symm

/-- After a listener come those behind it. -/
theorem ahead_successor (id : Nat) (table : Table t) (mem : d₀ ∈ t.listeners) (mem' : d ∈ t.listeners) :
    ahead (.scan (successor t d₀.key)) d id ↔ d₀.key < d.key := by
  have spec := table.successor_spec mem
  cases next : successor t d₀.key with
  | none =>
    rw [next] at spec
    exact iff_of_false False.elim (Nat.not_lt_of_le (spec d mem'))
  | some k =>
    rw [next] at spec
    obtain ⟨_, more, least⟩ := spec
    exact ⟨fun le => Nat.lt_of_lt_of_le more le, least d mem'⟩

theorem due_congr {f' : Filtering} (phase : s.phase = .filtering f stage) (phase' : s'.phase = .filtering f' stage')
    (connected : f'.connection = f.connection) (message : f'.message = f.message)
    (same : f.connection = connection → Owns name f.message → (ahead stage' d' id ↔ ahead stage d id)) :
    due connection name s' d' id = due connection name s d id := by
  unfold due
  rw [phase, phase']
  dsimp only
  rw [connected, message]
  refine if_congr ?_ rfl rfl
  exact and_congr_right fun here => and_congr_right fun owns => same here owns

/-- What a listener whose callbacks run is told is a NameOwnerChanged of its
name. -/
def Fits (connection : Nat) (name : String) (s : State) : Prop :=
  ∀ f stage, s.phase = .filtering f stage → ∀ d ∈ s.listeners, stage.handling = some d.key →
    d.toMatch = serviceMatch connection name → Owns name f.message

/-- The watch is one it was, and what it has heard and is to hear comes to the
same. -/
def Heard (connection : Nat) (name : String) (s s' : State) (d' : FilterData) (cb : FilterCallback) : Prop :=
  ∃ d ∈ s.listeners, d.toMatch = serviceMatch connection name ∧ (∃ w ∈ d.own, w.bare = cb.bare) ∧
    ∀ b, (due connection name s' d' cb.id).getD (heard (told s s') cb.id b) = (due connection name s d cb.id).getD b

theorem ahead_elsewhere (current : stage.current = some k) (current' : stage'.current = some k) (other : d.key ≠ k) :
    ahead stage' d id ↔ ahead stage d id :=
  (ahead_other stage' current' other).trans (ahead_other stage current other).symm

/-- Nobody is told, and the listener's turn is over exactly if it was. -/
theorem heard_silent {f' : Filtering} (phase : s.phase = .filtering f stage) (mem : d ∈ s.listeners)
    (what : d.toMatch = serviceMatch connection name) (own : cb ∈ d.own) (phase' : s'.phase = .filtering f' stage')
    (connected : f'.connection = f.connection) (message : f'.message = f.message) (silent : told s s' = none)
    (same : f.connection = connection → Owns name f.message → (ahead stage' d' cb.id ↔ ahead stage d cb.id)) :
    Heard connection name s s' d' cb := by
  refine ⟨d, mem, what, ⟨cb, own, rfl⟩, fun b => ?_⟩
  rw [silent, due_congr phase phase' connected message same]
  rfl

/-- The listener is left. -/
theorem heard_leave (upright : Upright s) (phase : s.phase = .filtering f (.handle d₀.key)) (mem₀ : d₀ ∈ s.listeners)
    (none : d₀.callbacks = []) (mem : d' ∈ (leave s f d₀).listeners) (what : d'.toMatch = serviceMatch connection name)
    (own : cb ∈ d'.own) : Heard connection name s (leave s f d₀) d' cb := by
  have table := upright.table
  have table' : Table (s.setListener d₀.unlock) :=
    Op.table (c := .free) (table.set_op mem₀ (unlock_changed none trivial) rfl) table
  have there : d₀.unlock ∈ (s.setListener d₀.unlock).listeners := table.mem_set mem₀ rfl
  have after := ahead_successor cb.id table' there mem
  rcases mem_setListener mem with rfl | ⟨old, other⟩
  · have own' : cb ∈ d₀.own := by
      rw [FilterData.own, FilterData.unlock, List.append_nil] at own
      exact List.mem_append_right _ own
    refine heard_silent phase mem₀ what own' rfl (f.left_connection d₀) (f.left_message d₀) rfl fun _ _ =>
      after.trans (iff_of_false (Nat.lt_irrefl _) ?_)
    rintro (less | ⟨_, w, own', _⟩)
    · exact Nat.lt_irrefl _ less
    · rw [none] at own'
      cases own'
  · exact heard_silent phase old what own rfl (f.left_connection d₀) (f.left_message d₀) rfl fun _ _ =>
      after.trans (ahead_other (.handle d₀.key) rfl other).symm

/-- A callback is called: its own listener's turn is over for it. -/
theorem heard_call {cb₀ : FilterCallback} {rest : List FilterCallback} (upright : Upright s) (fits : Fits connection name s)
    (phase : s.phase = .filtering f (.handle d₀.key)) (mem₀ : d₀ ∈ s.listeners) (first : d₀.callbacks = cb₀ :: rest)
    (mem : d' ∈ s.listeners) (what : d'.toMatch = serviceMatch connection name) (own : cb ∈ d'.own) :
    Heard connection name s { s.note (.called cb₀.id) with phase := .filtering f (.call d₀.key cb₀.id) } d' cb := by
  have table := upright.table
  have attended := upright.attended
  rw [phase] at attended
  obtain ⟨_, _, _, here⟩ := attended
  have front : cb₀ ∈ d₀.callbacks := by
    rw [first]
    exact List.mem_cons_self
  have calling : told s { s.note (.called cb₀.id) with phase := .filtering f (.call d₀.key cb₀.id) } =
      some (cb₀.id, gained f.message) := if_pos rfl
  refine ⟨d', mem, what, ⟨cb, own, rfl⟩, fun b => ?_⟩
  rw [calling]
  by_cases same : cb₀.id = cb.id
  · obtain ⟨this, _⟩ := upright.numbered.record table mem own mem₀ (List.mem_append_left _ front) same
    subst this
    have connected : f.connection = connection := by
      have there := (here d₀ mem₀ rfl).1
      rw [what] at there
      exact there.symm
    have owns : Owns name f.message := fits f _ phase d₀ mem₀ rfl what
    have before : due connection name s d₀ cb.id = some (gained f.message) := by
      unfold due
      rw [phase]
      exact if_pos ⟨connected, owns, .inr ⟨rfl, cb₀, front, same⟩⟩
    have after : due connection name { s.note (.called cb₀.id) with phase := .filtering f (.call d₀.key cb₀.id) } d₀ cb.id = none := by
      refine if_neg fun holds => ?_
      rcases holds.2.2 with less | ⟨_, other, _⟩
      · exact Nat.lt_irrefl _ less
      · exact other same
    rw [before, after]
    exact if_pos same
  · have silent : heard (some (cb₀.id, gained f.message)) cb.id b = b := if_neg same
    rw [silent, due_congr (d := d') phase rfl rfl rfl fun _ _ => ?_]
    by_cases here : d'.key = d₀.key
    · exact or_congr_right (and_congr_right fun _ => and_iff_right same)
    · exact ahead_elsewhere rfl rfl here

/-- A callback is done with: it waits for the end, and had no call to get. -/
theorem heard_wait {cb₀ : FilterCallback} (upright : Upright s) (phase : s.phase = .filtering f stage)
    (mem₀ : d₀ ∈ s.listeners) (front : cb₀ ∈ d₀.callbacks)
    (after : stage = .handle d₀.key ∧ d₀.calls cb₀ f.message = false ∨ stage = .call d₀.key cb₀.id)
    (mem : d' ∈ (s.setListener (d₀.wait cb₀)).listeners) (what : d'.toMatch = serviceMatch connection name) (own : cb ∈ d'.own)
    (connects : cb.connFunc = true) (disconnects : cb.discFunc = true) :
    Heard connection name s { s.setListener (d₀.wait cb₀) with phase := .filtering f (.handle d₀.key) } d' cb := by
  have table := upright.table
  have attended := upright.attended
  rw [phase] at attended
  obtain ⟨typed, _⟩ := attended
  have current : stage.current = some d₀.key := by
    rcases after with ⟨rfl, _⟩ | rfl
    · rfl
    · rfl
  rcases mem_setListener mem with rfl | ⟨old, other⟩
  · have own' : cb ∈ d₀.own := by
      rcases List.mem_append.mp own with there | waiting
      · exact List.mem_append_left _ (List.mem_of_mem_filter there)
      · rcases List.mem_append.mp waiting with old | last
        · exact List.mem_append_right _ old
        · rw [List.mem_singleton.mp last]
          exact List.mem_append_left _ front
    have left : (∃ w ∈ (d₀.wait cb₀).callbacks, w.id = cb.id) ↔ cb₀.id ≠ cb.id ∧ ∃ w ∈ d₀.callbacks, w.id = cb.id := by
      constructor
      · rintro ⟨w, there, same⟩
        obtain ⟨inside, other⟩ := List.mem_filter.mp there
        exact ⟨fun is => of_decide_eq_true other (same.trans is.symm), w, inside, same⟩
      · rintro ⟨other, w, there, same⟩
        exact ⟨w, List.mem_filter.mpr ⟨there, decide_eq_true fun is => other (is.symm.trans same)⟩, same⟩
    refine heard_silent phase mem₀ what own' rfl rfl rfl rfl fun _ owns => ?_
    rcases after with ⟨rfl, silent⟩ | rfl
    · refine or_congr_right (and_congr_right fun _ => left.trans (and_iff_right fun same => ?_))
      obtain ⟨_, this⟩ := upright.numbered.record table mem₀ own' mem₀ (List.mem_append_left _ front) same
      subst this
      have calls := ours_calls (ours_handle table mem₀ what) owns typed connects disconnects
      exact Bool.noConfusion (silent.symm.trans calls)
    · exact or_congr_right (and_congr_right fun _ => left)
  · exact heard_silent phase old what own rfl rfl rfl rfl fun _ _ => ahead_elsewhere current rfl other

theorem turn_heard (turn : Turn s e f d₀ stage s') (upright : Upright s) (fits : Fits connection name s)
    (phase : s.phase = .filtering f stage) (mem₀ : d₀ ∈ s.listeners) (kept : ∀ answers, e ≠ .returned false answers)
    (mem : d' ∈ s'.listeners) (what : d'.toMatch = serviceMatch connection name) (own : cb ∈ d'.own)
    (connects : cb.connFunc = true) (disconnects : cb.discFunc = true) : Heard connection name s s' d' cb := by
  have table := upright.table
  have attended := upright.attended
  rw [phase] at attended
  obtain ⟨typed, _⟩ := attended
  cases turn with
  | pass other =>
    refine heard_silent phase mem what own rfl rfl rfl rfl fun connected owns => ?_
    by_cases same : d'.key = d₀.key
    · have this := table.ordered.eq mem mem₀ same
      subst this
      rcases other with apart | refused
      · rw [what] at apart
        exact absurd connected.symm apart
      · cases refused.symm.trans (accepts_owns what owns)
    · exact (ahead_successor cb.id table mem₀ mem).trans (ahead_other (.scan (some d₀.key)) rfl same).symm
  | @lock t connected accepted cached =>
    have inside : d' ∈ (s.setListener { d₀ with lock := true }).listeners := by
      rcases cached with rfl | ⟨_, _, _, _, _, _, rfl⟩
      · exact mem
      · exact mem_updateNameCache mem what
    rcases mem_setListener inside with rfl | ⟨old, other⟩
    · have free : d₀.lock = false := upright.unlocked (by rw [phase]; rfl) d₀ mem₀
      have front : cb ∈ d₀.callbacks := by
        rcases List.mem_append.mp own with front | waiting
        · exact front
        · rw [show d₀.processed = [] from table.unlocked d₀ mem₀ free] at waiting
          cases waiting
      exact heard_silent phase mem₀ what own rfl rfl rfl rfl fun _ _ => iff_of_true (.inr ⟨rfl, cb, front, rfl⟩) (Nat.le_refl _)
    · exact heard_silent phase old what own rfl rfl rfl rfl fun _ _ => ahead_elsewhere rfl rfl other
  | lost connected accepted service improper => exact absurd typed.1 improper
  | leave none => exact heard_leave upright phase mem₀ none mem what own
  | call cb₀ rest first calls => exact heard_call upright fits phase mem₀ first mem what own
  | @settled t stage cb₀ front after done =>
    rcases done with rfl | ⟨_, dismissed⟩
    · exact heard_wait upright phase mem₀ front after mem what own connects disconnects
    · rcases dismissed with ⟨_, once⟩ | ⟨_, _, answers, refused⟩
      · exact absurd (once.symm.trans (once_known (upright.tidy.known d₀ mem₀) cb₀)) Bool.noConfusion
      · exact absurd refused (kept answers)
  | back i absent =>
    refine heard_silent phase mem what own rfl rfl rfl rfl fun _ _ => ?_
    by_cases same : d'.key = d₀.key
    · have this := table.ordered.eq mem mem₀ same
      subst this
      refine or_congr_right (and_congr_right fun _ => ⟨fun there => ⟨fun now => ?_, there⟩, And.right⟩)
      obtain ⟨w, there, is⟩ := there
      exact absent w there (is.trans now.symm)
    · exact ahead_elsewhere rfl rfl same

theorem turn_fits (turn : Turn s e f d₀ stage s') (upright : Upright s) (fits : Fits connection name s)
    (phase : s.phase = .filtering f stage) (mem₀ : d₀ ∈ s.listeners) (kept : ∀ answers, e ≠ .returned false answers) :
    Fits connection name s' := by
  have table := upright.table
  have handled {t : State} {f' : Filtering} (sane : Ordered FilterData.key t.listeners)
      (message : f'.message = f.message) (there : ∃ x ∈ t.listeners, x.key = d₀.key ∧ x.toMatch = d₀.toMatch)
      (owns : d₀.toMatch = serviceMatch connection name → Owns name f.message) {d : FilterData} (mem : d ∈ t.listeners)
      (same : some d₀.key = some d.key) (what : d.toMatch = serviceMatch connection name) : Owns name f'.message := by
    obtain ⟨x, inside, key, what'⟩ := there
    have this : d = x := sane.eq mem inside ((Option.some.inj same).symm.trans key.symm)
    subst this
    rw [message]
    exact owns (what'.symm.trans what)
  have set {x : FilterData} (key : x.key = d₀.key) : Ordered FilterData.key (s.setListener x).listeners := by
    obtain ⟨front, back, split, replaced⟩ := table.ordered.replace mem₀ key
    rw [show (s.setListener x).listeners = front ++ x :: back from replaced]
    exact ordered_replace (split ▸ table.ordered) key
  have before (handling : stage.handling = some d₀.key) (what : d₀.toMatch = serviceMatch connection name) :
      Owns name f.message := fits f stage phase d₀ mem₀ handling what
  intro f' stage' phase' d mem handling what
  cases turn with
  | pass other =>
    cases phase'
    cases handling
  | @lock t here accepted cached =>
    cases phase'
    have inside : d ∈ (s.setListener { d₀ with lock := true }).listeners := by
      rcases cached with rfl | ⟨_, _, _, _, _, _, rfl⟩
      · exact mem
      · exact mem_updateNameCache mem what
    have there := table.mem_set mem₀ (show ({ d₀ with lock := true } : FilterData).key = d₀.key from rfl)
    exact handled (t := s.setListener { d₀ with lock := true }) (set rfl) rfl ⟨_, there, rfl, rfl⟩
      (fun what' => owns_accepts what' accepted) inside handling what
  | lost here accepted service improper =>
    cases phase'
    cases handling
  | leave none =>
    cases phase'
    cases handling
  | call cb rest first calls =>
    cases phase'
    exact handled (t := s) table.ordered rfl ⟨d₀, mem₀, rfl, rfl⟩ (before rfl) mem handling what
  | @settled t stage cb own after done =>
    have handles : stage.handling = some d₀.key := by
      rcases after with ⟨rfl, _⟩ | rfl
      · rfl
      · rfl
    cases phase'
    rcases done with rfl | ⟨_, dismissed⟩
    · exact handled (t := s.setListener (d₀.wait cb)) (set rfl) rfl ⟨_, table.mem_set mem₀ rfl, rfl, rfl⟩ (before handles) mem handling what
    · rcases dismissed with ⟨_, once⟩ | ⟨_, _, answers, refused⟩
      · exact absurd (once.symm.trans (once_known (upright.tidy.known d₀ mem₀) cb)) Bool.noConfusion
      · exact absurd refused (kept answers)
  | back i absent =>
    cases phase'
    exact handled (t := s) table.ordered rfl ⟨d₀, mem₀, rfl, rfl⟩ (before rfl) mem handling what

/-! ## What the program does meanwhile -/

variable {gone : FilterCallback → Prop}

theorem calls_log (ops : Calls gone s s') (orderly : Orderly s) : ∃ ids : List Nat, s'.log = ids.map Note.destroyed ++ s.log := by
  induction ops with
  | refl => exact ⟨[], rfl⟩
  | tail before op ih =>
    obtain ⟨ids, all⟩ := ih
    rcases op.log (Ops.orderly before orderly).numbered with same | ⟨cb, _, noted, _⟩
    · exact ⟨ids, same.trans all⟩
    · exact ⟨cb.id :: ids, noted.trans (congrArg _ all)⟩

/-- Nobody is called. -/
theorem calls_log_ne (ops : Calls gone s s') (orderly : Orderly s) (id : Nat) : s'.log ≠ .called id :: s.log := by
  obtain ⟨ids, all⟩ := calls_log ops orderly
  intro called
  rw [all] at called
  cases ids with
  | nil => exact List.ne_cons_self called
  | cons i ids =>
    rw [List.map_cons, List.cons_append] at called
    injection called with first _
    cases first

theorem calls_told (ops : Calls gone s s') (orderly : Orderly s) : told s s' = none := by
  unfold told
  split
  · exact if_neg (calls_log_ne ops orderly _)
  · exact if_neg (calls_log_ne ops orderly _)
  · rfl

theorem follows_ours {n : Nat} (table : Table s) (mem : d ∈ s.listeners) (follows : Follows n d d')
    (handle : d'.handleFunc = .serviceFilter) (what : d'.toMatch = serviceMatch connection name) :
    d.toMatch = serviceMatch connection name := by
  have shaped := table.shaped d mem
  rw [← follows.handleFunc, handle] at shaped
  obtain ⟨c, n, is⟩ := shaped
  have connected : d'.connection = c := follows.connection.trans (congrArg Match.connection is)
  have argument : d'.argument = some n := follows.argument.trans (congrArg Match.argument is)
  rw [what] at connected argument
  rw [is, ← show connection = c from connected, ← show name = n from Option.some.inj argument]

/-- A watch of the name that is not new is where it was. -/
theorem calls_ours (ops : Calls gone s s') (orderly : Orderly s) (mem : d' ∈ s'.listeners)
    (what : d'.toMatch = serviceMatch connection name) (own : cb ∈ d'.own) (old : cb.id ≤ s.listenerId) :
    ∃ d ∈ s.listeners, d.toMatch = serviceMatch connection name ∧ (∃ w ∈ d.own, w.bare = cb.bare) ∧ d.key = d'.key ∧
      ((∃ w ∈ d'.callbacks, w.id = cb.id) ↔ ∃ w ∈ d.callbacks, w.id = cb.id) := by
  have handle := ours_handle (Ops.orderly ops orderly).table mem what
  rcases ops.origin d' mem with ⟨d, there, follows⟩ | ⟨_, fresh⟩
  · have what' := follows_ours orderly.table there follows handle what
    have front : ∀ w ∈ d'.callbacks, w.id = cb.id → ∃ v ∈ d.callbacks, v.bare = w.bare := fun w inside same =>
      (follows.callbacks w inside).resolve_right fun ⟨_, new⟩ => Nat.not_lt_of_le (same ▸ old) new
    have waiting : ∀ w ∈ d'.processed, w.id = cb.id → ∃ v ∈ d.processed, v.bare = w.bare := fun w inside same =>
      (follows.processed w inside).resolve_right fun ⟨_, new⟩ => Nat.not_lt_of_le (same ▸ old) new
    have apart : ∀ v ∈ d.callbacks, ∀ w ∈ d.processed, v.id = w.id → False := by
      intro v inside w inside' same
      have ids := orderly.numbered.ids there
      rw [List.map_append] at ids
      exact (List.nodup_append.mp ids).2.2 _ (List.mem_map_of_mem inside) _ (List.mem_map_of_mem inside') same
    refine ⟨d, there, what', ?_, follows.key.symm, fun ⟨w, inside, same⟩ => ?_, fun ⟨w, inside, same⟩ => ?_⟩
    · rcases List.mem_append.mp own with own | own
      · obtain ⟨v, inside, bare⟩ := front cb own rfl
        exact ⟨v, List.mem_append_left _ inside, bare⟩
      · obtain ⟨v, inside, bare⟩ := waiting cb own rfl
        exact ⟨v, List.mem_append_right _ inside, bare⟩
    · obtain ⟨v, inside', bare⟩ := front w inside same
      exact ⟨v, inside', (bare_id bare).trans same⟩
    · rcases List.mem_append.mp own with own | own
      · exact ⟨cb, own, rfl⟩
      · obtain ⟨v, inside', bare⟩ := waiting cb own rfl
        exact (apart w inside v inside' (same.trans (bare_id bare).symm)).elim
  · exact absurd (fresh cb own) (Nat.not_lt_of_le old)

theorem asks_heard (ops : Calls gone s s') (orderly : Orderly s) (mem : d' ∈ s'.listeners)
    (what : d'.toMatch = serviceMatch connection name) (own : cb ∈ d'.own) (old : cb.id ≤ s.listenerId) :
    Heard connection name s s' d' cb := by
  obtain ⟨d, there, what', same, key, front⟩ := calls_ours ops orderly mem what own old
  refine ⟨d, there, what', same, fun b => ?_⟩
  have still : due connection name s' d' cb.id = due connection name s d cb.id := by
    unfold due
    rw [Ops.phase_eq ops]
    split
    case h_1 f stage _ =>
      refine if_congr (and_congr_right fun _ => and_congr_right fun _ => ?_) rfl rfl
      unfold ahead
      rw [key]
      split
      · rfl
      · rfl
      · exact or_congr_right (and_congr_right fun _ => front)
      · exact or_congr_right (and_congr_right fun _ => and_congr_right fun _ => front)
    case h_2 => rfl
  rw [calls_told ops orderly, still]
  rfl

theorem asks_fits (ops : Calls gone s s') (sane : Sane s) (fits : Fits connection name s) : Fits connection name s' := by
  intro f stage phase d' mem handling what
  rw [Ops.phase_eq ops] at phase
  have handle := ours_handle (Ops.orderly ops sane.toOrderly).table mem what
  have holds := sane.sound fun why => by simp [phase]
  rw [phase] at holds
  obtain ⟨d, there, key⟩ := holds.present d'.key (by
    cases stage with
    | scan k => cases handling
    | handle k => exact handling
    | call k i => exact handling)
  rcases ops.origin d' mem with ⟨a, before, follows⟩ | ⟨new, _⟩
  · have this : a = d := sane.table.ordered.eq before there (follows.key.symm.trans key.symm)
    subst this
    exact fits f stage phase a there (key ▸ handling) (follows_ours sane.table there follows handle what)
  · exact absurd (sane.table.below d there) (Nat.not_lt_of_le (key ▸ new))

end ConnmanUi.ServiceWatch
