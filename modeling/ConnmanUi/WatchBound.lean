import Mathlib.Algebra.Order.BigOperators.Group.List
import Mathlib.Algebra.GroupWithZero.Nat
import Mathlib.Algebra.Order.Group.Nat
import ConnmanUi.WatchDelivery

/-!
How long `message_filter` takes.

Its first loop and those of the two handlers have a listener and a callback less
to go with every round, and only what a callback adds can put that off: a signal
takes at most two rounds for each listener and each callback there is or comes
while it is dispatched (`bounded`).  The second loop is no part of that.  For one
listener it is over after a round; for two it ends in a fault, or never if the
second one has got callbacks again, which is the fault `endless`.
-/

namespace ConnmanUi.Watch

open Keyed Run

variable {s s' t : State} {d d' : FilterData} {cb : FilterCallback} {f : Filtering} {stage : Stage} {e : Event}
  {gone : FilterCallback → Prop} {answers : Answers}

/-! ## What is left to do -/

/-- A listener and its callbacks. -/
def FilterData.load (d : FilterData) : Nat := 2 + 2 * d.callbacks.length

def load (l : List FilterData) : Nat := (l.map FilterData.load).sum

/-- What is left to do for a listener. -/
def Stage.cost (stage : Stage) (d : FilterData) : Nat :=
  match stage with
  | .scan none => 0
  | .scan (some k) => if k ≤ d.key then d.load else 0
  | .handle k => if k < d.key then d.load else if k = d.key then 2 * d.callbacks.length else 0
  | .call k id => if k < d.key then d.load else if k = d.key then 2 * (d.callbacks.filter (·.id ≠ id)).length else 0

def Stage.base : Stage → Nat
  | .scan _ => 1
  | .handle _ => 2
  | .call _ _ => 3

def State.cost (s : State) (stage : Stage) : Nat := (s.listeners.map stage.cost).sum

def State.work (s : State) : Nat :=
  match s.phase with
  | .filtering _ stage => s.cost stage + stage.base
  | _ => 0

theorem cost_split (stage : Stage) {front back : List FilterData} (ordered : Ordered FilterData.key (front ++ d :: back))
    (listeners : s.listeners = front ++ d :: back) (current : stage.current = some d.key) :
    s.cost stage = stage.cost d + load back := by
  obtain ⟨_, rest, apart⟩ := List.pairwise_append.mp ordered
  obtain ⟨behind, _⟩ := List.pairwise_cons.mp rest
  have fronts : front.map stage.cost = front.map fun _ => 0 := by
    refine List.map_congr_left fun a mem => ?_
    have less := apart a mem d List.mem_cons_self
    cases stage with
    | scan k =>
      cases current
      exact if_neg (Nat.not_le_of_lt less)
    | handle k =>
      cases current
      exact (if_neg (Nat.lt_asymm less)).trans (if_neg (Nat.ne_of_gt less))
    | call k id =>
      cases current
      exact (if_neg (Nat.lt_asymm less)).trans (if_neg (Nat.ne_of_gt less))
  have backs : back.map stage.cost = back.map FilterData.load := by
    refine List.map_congr_left fun a mem => ?_
    have more := behind a mem
    cases stage with
    | scan k =>
      cases current
      exact if_pos (Nat.le_of_lt more)
    | handle k =>
      cases current
      exact if_pos more
    | call k id =>
      cases current
      exact if_pos more
  unfold State.cost load
  rw [listeners, List.map_append, List.map_cons, List.sum_append, List.sum_cons, fronts, backs]
  simp

/-- After a listener those behind it are left. -/
theorem cost_successor {front back : List FilterData} (ordered : Ordered FilterData.key (front ++ d :: back))
    (listeners : s.listeners = front ++ d :: back) : s.cost (.scan (successor s d.key)) = load back := by
  have found : successor s d.key = back.head?.map FilterData.key := by
    unfold successor
    rw [listeners, ordered.dropWhile]
    rfl
  rw [found]
  cases back with
  | nil =>
    have none : ∀ l : List FilterData, (l.map (Stage.scan none).cost).sum = 0 := fun l => by
      induction l with
      | nil => rfl
      | cons a l ih =>
        rw [List.map_cons, List.sum_cons, ih]
        rfl
    exact none s.listeners
  | cons b back =>
    rw [List.append_cons] at ordered listeners
    have split := cost_split (.scan (some b.key)) ordered listeners rfl
    refine split.trans (congrArg (· + load back) ?_)
    exact if_pos (Nat.le_refl _)

/-! ## What a round does -/

/-- The cost of a listener is that of its key and its callbacks. -/
theorem cost_congr (key : d'.key = d.key) (same : d'.callbacks.map FilterCallback.bare = d.callbacks.map FilterCallback.bare) :
    stage.cost d' = stage.cost d := by
  have length : d'.callbacks.length = d.callbacks.length := by simpa using congrArg List.length same
  have others : ∀ id, (d'.callbacks.filter (·.id ≠ id)).length = (d.callbacks.filter (·.id ≠ id)).length := by
    intro id
    have count : ∀ l : List FilterCallback,
        (l.filter (·.id ≠ id)).length = ((l.map FilterCallback.bare).filter (·.id ≠ id)).length := fun l => by
      rw [List.filter_map, List.length_map]
      rfl
    exact (count _).trans ((congrArg _ (by rw [same])).trans (count _).symm)
  unfold Stage.cost FilterData.load
  split
  · rfl
  · rw [key, length]
  · rw [key, length]
  · rw [key, length, others]

theorem cost_scan {k : Nat} (key : d.key = k) : (Stage.scan (some k)).cost d = d.load := if_pos (Nat.le_of_eq key.symm)

theorem cost_handle {k : Nat} (key : d.key = k) : (Stage.handle k).cost d = 2 * d.callbacks.length :=
  (if_neg (key ▸ Nat.lt_irrefl _)).trans (if_pos key.symm)

theorem cost_call {k id : Nat} (key : d.key = k) :
    (Stage.call k id).cost d = 2 * (d.callbacks.filter (·.id ≠ id)).length :=
  (if_neg (key ▸ Nat.lt_irrefl _)).trans (if_pos key.symm)

theorem work_eq (phase : s.phase = .filtering f stage) : s.work = s.cost stage + stage.base := by
  unfold State.work
  rw [phase]

theorem filter_length {id : Nat} {l : List FilterCallback} (mem : cb ∈ l) (same : cb.id = id) :
    (l.filter (·.id ≠ id)).length + 1 ≤ l.length := by
  refine List.length_filter_lt_length_iff_exists.mpr ⟨cb, mem, ?_⟩
  simp [same]

theorem set_set (key : d'.key = d.key) : (s.setListener d).setListener d' = s.setListener d' := by
  unfold State.setListener
  dsimp only
  rw [List.map_map]
  congr 1
  refine List.map_congr_left fun old _ => ?_
  dsimp only [Function.comp]
  rw [key]
  split
  · rw [if_pos rfl]
  · rfl

/-- What is left when the listener of a turn is changed. -/
theorem Sane.changed (sane : Sane s) (mem : d ∈ s.listeners) (phase : s.phase = .filtering f stage)
    (current : stage.current = some d.key) (key : d'.key = d.key) :
    ∃ back, s.work = stage.cost d + load back + stage.base ∧ ∀ t : State, t.listeners = (s.setListener d').listeners →
      t.cost (.scan (successor t d.key)) = load back ∧
        ∀ stage' : Stage, stage'.current = some d.key → t.cost stage' = stage'.cost d' + load back := by
  have ordered := sane.table.ordered
  obtain ⟨front, back, split, listeners⟩ : ∃ front back, s.listeners = front ++ d :: back ∧
      (s.setListener d').listeners = front ++ d' :: back := ordered.replace mem key
  have kept : Ordered FilterData.key (front ++ d' :: back) := ordered_replace (split ▸ ordered) key
  refine ⟨back, ?_, fun t same => ⟨key ▸ cost_successor kept (same.trans listeners), fun stage' here => ?_⟩⟩
  · rw [work_eq phase, cost_split stage (split ▸ ordered) split current]
  · exact cost_split stage' kept (same.trans listeners) (key ▸ here)

theorem Sane.unchanged (sane : Sane s) (mem : d ∈ s.listeners) : s.listeners = (s.setListener d).listeners := by
  obtain ⟨front, back, split, listeners⟩ : ∃ front back, s.listeners = front ++ d :: back ∧
      (s.setListener d).listeners = front ++ d :: back := sane.table.ordered.replace mem rfl
  exact split.trans listeners.symm

theorem cost_updateNameCache (stage : Stage) (name new : String) : (updateNameCache s name new).cost stage = s.cost stage := by
  unfold State.cost updateNameCache
  rw [List.map_map]
  refine congrArg List.sum (List.map_congr_left fun a _ => ?_)
  dsimp only [Function.comp]
  split
  · rfl
  · rfl

/-- A callback that ran is through, and waits or goes. -/
theorem Sane.settled_work (sane : Sane s) (mem : d ∈ s.listeners) (phase : s.phase = .filtering f stage)
    (current : stage.current = some d.key) (own : cb ∈ d.callbacks)
    (after : stage = .handle d.key ∧ d.calls cb f.message = false ∨ stage = .call d.key cb.id) (key : d'.key = d.key)
    (callbacks : d'.callbacks = d.callbacks.filter (·.id ≠ cb.id)) (listeners : t.listeners = (s.setListener d').listeners) :
    ({ t with phase := .filtering f (.handle d.key) } : State).work + 1 ≤ s.work := by
  obtain ⟨back, before, changed⟩ := sane.changed mem phase current key
  rw [before, work_eq rfl]
  change t.cost (.handle d.key) + 2 + 1 ≤ _
  rw [(changed t listeners).2 _ rfl, cost_handle key, callbacks]
  rcases after with ⟨rfl, _⟩ | rfl
  · have less := filter_length own rfl
    rw [cost_handle rfl]
    dsimp only [Stage.base]
    omega
  · rw [cost_call rfl]
    dsimp only [Stage.base]
    omega

/-- A round of a turn leaves less to do. -/
theorem Turn.work (turn : Turn s e f d stage s') (sane : Sane s) (mem : d ∈ s.listeners)
    (phase : s.phase = .filtering f stage) (current : stage.current = some d.key) : s'.work + 1 ≤ s.work := by
  obtain ⟨back, before, here⟩ := sane.changed mem phase current (show d.key = d.key from rfl)
  obtain ⟨passed, stays⟩ := here s (sane.unchanged mem)
  cases turn with
  | pass other =>
    rw [before, work_eq rfl, cost_scan rfl]
    change s.cost _ + 1 + 1 ≤ _
    rw [passed]
    dsimp only [Stage.base, FilterData.load]
    omega
  | @lock t connection accepted cached =>
    have key : ({ d with lock := true } : FilterData).key = d.key := rfl
    obtain ⟨back, before, changed⟩ := sane.changed mem phase current key
    have locked := (changed _ rfl).2 (.handle d.key) rfl
    have same : t.cost (.handle d.key) = (s.setListener { d with lock := true }).cost (.handle d.key) := by
      rcases cached with rfl | ⟨_, name, _, new, _, _, rfl⟩
      · rfl
      · exact cost_updateNameCache _ name new
    rw [before, work_eq rfl, cost_scan rfl]
    change t.cost (.handle d.key) + 2 + 1 ≤ _
    rw [same, locked, cost_handle key]
    dsimp only [Stage.base, FilterData.load]
    omega
  | lost connection accepted service improper =>
    have key : ({ d with lock := true } : FilterData).unlock.key = d.key := rfl
    obtain ⟨back, before, changed⟩ := sane.changed mem phase current key
    have left := (changed _ rfl).1
    rw [← set_set (s := s) (d := { d with lock := true }) key] at left
    rw [before, work_eq rfl, cost_scan rfl]
    change State.cost _ _ + 1 + 1 ≤ _
    rw [show (Watch.leave (s.setListener { d with lock := true }) f { d with lock := true }).cost
      (.scan (successor ((s.setListener { d with lock := true }).setListener ({ d with lock := true } : FilterData).unlock) d.key))
        = _ from left]
    dsimp only [Stage.base, FilterData.load]
    omega
  | leave none =>
    obtain ⟨back, before, changed⟩ := sane.changed mem phase current (show d.unlock.key = d.key from rfl)
    rw [before, work_eq rfl, cost_handle rfl, none]
    change (s.setListener d.unlock).cost _ + 1 + 1 ≤ _
    rw [(changed _ rfl).1]
    dsimp only [Stage.base]
    omega
  | call cb rest first calls =>
    have own : cb ∈ d.callbacks := by
      rw [first]
      exact List.mem_cons_self
    rw [before, work_eq rfl, cost_handle rfl]
    change s.cost (.call d.key cb.id) + 3 + 1 ≤ _
    rw [stays _ rfl, cost_call rfl]
    have less := filter_length own rfl
    dsimp only [Stage.base]
    omega
  | settled cb own after done =>
    rcases done with rfl | ⟨rfl, _⟩
    · exact sane.settled_work mem phase current own after (show (d.wait cb).key = d.key from rfl) rfl rfl
    · exact sane.settled_work mem phase current own after (show (d.remove cb.id).key = d.key from rfl) rfl
        (dropCallback_same d cb).1
  | back id absent =>
    rw [before, work_eq rfl, cost_call rfl, List.filter_eq_self.mpr fun cb own => decide_eq_true (absent cb own)]
    change s.cost (.handle d.key) + 2 + 1 ≤ _
    rw [stays _ rfl, cost_handle rfl]
    dsimp only [Stage.base]
    omega

/-! ## What a callback adds -/

theorem cost_add (stage : Stage) (d : FilterData) (cb : FilterCallback) : stage.cost (d.add cb) ≤ stage.cost d + 2 := by
  have key := d.add_key cb
  have more : (d.add cb).callbacks.length ≤ d.callbacks.length + 1 ∧
      ∀ id, ((d.add cb).callbacks.filter (·.id ≠ id)).length ≤ (d.callbacks.filter (·.id ≠ id)).length + 1 := by
    unfold FilterData.add
    split
    · exact ⟨Nat.le_succ _, fun _ => Nat.le_succ _⟩
    · refine ⟨by simp, fun id => ?_⟩
      rw [List.filter_append, List.length_append]
      exact Nat.add_le_add_left (List.length_filter_le _ _) _
  unfold Stage.cost FilterData.load
  rw [key]
  split
  · omega
  · split <;> omega
  · split
    · omega
    · split <;> omega
  case h_4 k id =>
    have others := more.2 id
    split
    · omega
    · split <;> omega

theorem cost_remove (stage : Stage) (d : FilterData) (id : Nat) : stage.cost (d.remove id) ≤ stage.cost d := by
  have fewer : (d.remove id).callbacks.length ≤ d.callbacks.length ∧
      ∀ i, ((d.remove id).callbacks.filter (·.id ≠ i)).length ≤ (d.callbacks.filter (·.id ≠ i)).length := by
    refine ⟨List.length_filter_le _ _, fun i => ?_⟩
    exact (List.filter_sublist.filter _).length_le
  have key : (d.remove id).key = d.key := rfl
  unfold Stage.cost FilterData.load
  rw [key]
  split
  · omega
  · split <;> omega
  · split
    · omega
    · split <;> omega
  case h_4 k i =>
    have others := fewer.2 i
    split
    · omega
    · split <;> omega

theorem Op.cost (op : Op (.calling gone) s s') (stage : Stage) :
    s'.cost stage + 2 * s.listenerId + 2 * s.next ≤ s.cost stage + 2 * s'.listenerId + 2 * s'.next := by
  have replace : ∀ {front back : List FilterData} {d : FilterData} (d' : FilterData), s.listeners = front ++ d :: back →
      s.cost stage = (front.map stage.cost).sum + stage.cost d + (back.map stage.cost).sum ∧
      ((front ++ d' :: back).map stage.cost).sum = (front.map stage.cost).sum + stage.cost d' + (back.map stage.cost).sum := by
    intro front back d d' split
    unfold State.cost
    rw [split]
    simp only [List.map_append, List.map_cons, List.sum_append, List.sum_cons, Nat.add_assoc, true_and]
  cases op with
  | bus filters rules => exact Nat.le_refl _
  | listen handle m shaped =>
    have new : stage.cost { m with key := s.next, handleFunc := handle } ≤ 2 := by
      unfold Stage.cost FilterData.load
      dsimp only [List.length_nil, List.filter_nil]
      split
      · omega
      · split <;> omega
      · split
        · omega
        · split <;> omega
      · split
        · omega
        · split <;> omega
    unfold State.cost
    dsimp only
    rw [List.map_append, List.sum_append, List.map_singleton, List.sum_singleton]
    omega
  | unlisten d mem empty free =>
    have fewer : ((s.listeners.filter (·.key ≠ d.key)).map stage.cost).sum ≤ s.cost stage :=
      (List.filter_sublist.map _).sum_le_sum fun _ _ => Nat.zero_le _
    unfold State.cost at fewer ⊢
    dsimp only
    omega
  | add front d back cb split own =>
    obtain ⟨before, after⟩ := replace (d.add cb) split
    have more := cost_add stage d cb
    rw [before]
    change ((front ++ d.add cb :: back).map stage.cost).sum + _ + _ ≤ _ + 2 * (s.listenerId + 1) + _
    rw [after]
    dsimp only
    omega
  | remove front d back cb split mem asked =>
    obtain ⟨before, after⟩ := replace (d.remove cb.id) split
    have fewer := cost_remove stage d cb.id
    rw [before]
    change ((front ++ d.remove cb.id :: back).map stage.cost).sum + _ + _ ≤ _
    rw [after]
    dsimp only
    omega
  | change listeners all named =>
    have same : (listeners.map stage.cost).sum = s.cost stage := by
      unfold State.cost
      clear named
      generalize s.listeners = before at all
      induction all with
      | nil => rfl
      | cons changed _ ih =>
        rw [List.map_cons, List.map_cons, List.sum_cons, List.sum_cons, ih, cost_congr changed.key (changed.still id).2.1]
    change (listeners.map stage.cost).sum + _ + _ ≤ _
    rw [same]
  | lose front d back split dirty turn => exact turn.elim

theorem Calls.cost (ops : Calls gone s s') (stage : Stage) :
    s'.cost stage + 2 * s.listenerId + 2 * s.next ≤ s.cost stage + 2 * s'.listenerId + 2 * s'.next := by
  induction ops with
  | refl => exact Nat.le_refl _
  | tail before op ih =>
    have last := Op.cost op stage
    omega

/-! ## Every run -/

/-- What an observer notes of the last signal: the rounds it took, what there was
to do when it came, and the last id and key of that time. -/
structure Effort where
  rounds : Nat := 0
  due : Nat := 0
  ids : Nat := 0
  keys : Nat := 0

def noteEffort (s : State) (e : Event) (_ : State) (g : Effort) : Effort :=
  match s.phase, e with
  | .idle, .message _ _ => { due := 1 + load s.listeners, ids := s.listenerId, keys := s.next }
  | .filtering _ _, .proceed _ => { g with rounds := g.rounds + 1 }
  | .filtering _ _, .returned _ _ => { g with rounds := g.rounds + 1 }
  | _, _ => g

/-- The rounds that were made and the work that is left. -/
def Within (s : State) (g : Effort) : Prop :=
  g.ids ≤ s.listenerId ∧ g.keys ≤ s.next ∧
    g.rounds + s.work + 2 * g.ids + 2 * g.keys ≤ g.due + 2 * s.listenerId + 2 * s.next

theorem Table.cost_start (table : Table s) : s.cost (.scan (s.listeners.head?.map (·.key))) = load s.listeners := by
  have ordered := table.ordered
  cases all : s.listeners with
  | nil =>
    unfold State.cost load
    rw [all]
    rfl
  | cons first rest =>
    rw [all] at ordered
    have split := cost_split (.scan (some first.key)) (show Ordered FilterData.key ([] ++ first :: rest) from ordered) all rfl
    rw [cost_scan rfl] at split
    exact split

theorem Calls.work (ops : Calls gone s s') :
    s'.work + 2 * s.listenerId + 2 * s.next ≤ s.work + 2 * s'.listenerId + 2 * s'.next := by
  have phase := Ops.phase_eq ops
  obtain ⟨ids, keys⟩ := Ops.counters ops
  unfold State.work
  rw [phase]
  split
  case h_1 f stage _ =>
    have cost := ops.cost stage
    omega
  · omega

theorem work_pos (phase : s.phase = .filtering f stage) : 1 ≤ s.work := by
  rw [work_eq phase]
  cases stage <;> exact Nat.le_add_left_of_le (Nat.le_add_left 1 _)

/-- A signal comes, nothing is noted, or a round of `message_filter` is. -/
theorem noteEffort_cases (s : State) (e : Event) (s' : State) (g : Effort) :
    s.phase = .idle ∧ noteEffort s e s' g = { due := 1 + load s.listeners, ids := s.listenerId, keys := s.next } ∨
      noteEffort s e s' g = g ∨
      (∃ f stage, s.phase = .filtering f stage) ∧ noteEffort s e s' g = { g with rounds := g.rounds + 1 } := by
  unfold noteEffort
  split
  case h_1 idle => exact .inl ⟨idle, rfl⟩
  case h_2 f stage _ busy => exact .inr (.inr ⟨⟨f, stage, busy⟩, rfl⟩)
  case h_3 f stage _ _ busy => exact .inr (.inr ⟨⟨f, stage, busy⟩, rfl⟩)
  case h_4 => exact .inr (.inl rfl)

/-- No round is noted that did not take work away. -/
theorem Within.noted {g : Effort} (within : Within s g) (ids : s.listenerId ≤ s'.listenerId) (keys : s.next ≤ s'.next)
    (rest : s'.work ≤ s.work) (less : ∀ f stage, s.phase = .filtering f stage → s'.work + 1 ≤ s.work) :
    Within s' (noteEffort s e s' g) := by
  obtain ⟨earlierIds, earlierKeys, bound⟩ := within
  rcases noteEffort_cases s e s' g with ⟨idle, note⟩ | note | ⟨⟨f, stage, phase⟩, note⟩
  · have nothing : s.work = 0 := by
      unfold State.work
      rw [idle]
    rw [note]
    exact ⟨ids, keys, by dsimp only; omega⟩
  · rw [note]
    exact ⟨earlierIds.trans ids, earlierKeys.trans keys, by omega⟩
  · have round := less f stage phase
    rw [note]
    exact ⟨earlierIds.trans ids, earlierKeys.trans keys, by dsimp only; omega⟩

theorem Move.within {g : Effort} (move : Move s e s') (sane : Sane s) (within : Within s g) :
    Within s' (noteEffort s e s' g) := by
  cases move with
  | asks request calls ops =>
    have note : noteEffort s e s' g = g := by
      unfold noteEffort
      split
      · exact absurd request Bool.false_ne_true
      · exact absurd request Bool.false_ne_true
      · exact absurd request Bool.false_ne_true
      · rfl
    obtain ⟨ids, keys, bound⟩ := within
    obtain ⟨ids', keys'⟩ := Ops.counters ops
    have work := ops.work
    rw [note]
    exact ⟨ids.trans ids', keys.trans keys', by omega⟩
  | message connection m idle =>
    have note : ∀ t, noteEffort s (.message connection m) t g =
        { due := 1 + load s.listeners, ids := s.listenerId, keys := s.next } := by
      intro t
      unfold noteEffort
      rw [idle]
    rw [note]
    refine ⟨Nat.le_refl _, Nat.le_refl _, ?_⟩
    rw [work_eq rfl]
    change 0 + (s.cost (.scan (s.listeners.head?.map (·.key))) + 1) + _ + _ ≤ _
    rw [sane.table.cost_start]
    dsimp only
    omega
  | turn f stage d phase mem current turn =>
    have held := sane.sound fun why => by simp [phase]
    rw [phase] at held
    obtain ⟨t, ops, alike, _⟩ := turn.ops (c := .free) sane.table sane.numbered mem trivial False.elim (fun _ _ _ => trivial)
      fun handling => (held.locked d mem).mpr handling
    obtain ⟨ids, keys⟩ := Ops.counters ops
    rw [← alike.listenerId] at ids
    rw [← alike.next] at keys
    have less := turn.work sane mem phase current
    exact within.noted ids keys (Nat.le_of_succ_le less) fun _ _ _ => less
  | finish f answers phase ops =>
    obtain ⟨ids, keys⟩ := Ops.counters ops
    exact within.noted ids keys (Nat.zero_le _) fun _ _ _ => work_pos phase
  | @owner _ t p log free ops noted =>
    obtain ⟨ids, keys⟩ := Ops.counters ops
    have rest : State.work { t with phase := p, log := log } = 0 := by
      rcases noted with ⟨rfl, _⟩ | ⟨_, _, rfl, _⟩
      · rfl
      · rfl
    refine within.noted ids keys (rest.trans_le (Nat.zero_le _)) fun f stage phase => ?_
    rcases free with idle | ⟨id, updating⟩
    · exact absurd (idle.symm.trans phase) Phase.noConfusion
    · exact absurd (updating.symm.trans phase) Phase.noConfusion
  | fault why => exact within.noted (Nat.le_refl _) (Nat.le_refl _) (Nat.zero_le _) fun _ _ phase => work_pos phase

/-! ## The second loop -/

theorem bind_error {α β ε : Type} {x : Except ε α} {next : α → Except ε β} {why : ε} (failed : (x >>= next) = .error why) :
    x = .error why ∨ ∃ a, x = .ok a ∧ next a = .error why := by
  cases x with
  | error why' => exact .inl (by cases failed; rfl)
  | ok a => exact .inr ⟨a, rfl, failed⟩

theorem removeFilter_ends (connection : Nat) : removeFilter s connection ≠ .error .endless := by
  unfold removeFilter
  intro stuck
  split at stuck
  · cases stuck
  · cases stuck

theorem removeCallback_ends {freeing : State → Nat → Except Fault State} (ends : ∀ s id, freeing s id ≠ .error .endless) :
    filterDataRemoveCallback s freeing answers d cb ≠ .error .endless := by
  unfold filterDataRemoveCallback
  intro stuck
  split at stuck
  · cases stuck
  split at stuck
  · cases stuck
  dsimp only at stuck
  split at stuck
  · rcases bind_error stuck with left | ⟨t, _, freed⟩
    · unfold removeListener at left
      dsimp only at left
      split at left
      · cases left
      · exact removeFilter_ends _ left
    · exact ends t d.nameWatch freed
  · cases stuck

theorem removeWatch_ends (rounds : Nat) (s : State) (id : Nat) : removeWatch answers rounds s id ≠ .error .endless := by
  induction rounds generalizing s id with
  | zero =>
    intro stuck
    cases stuck
  | succ rounds ih =>
    unfold removeWatch
    intro stuck
    split at stuck
    · cases stuck
    split at stuck
    · cases stuck
    · exact removeCallback_ends ih stuck

/-- One listener at most is deleted in one round. -/
theorem finish_ends (few : f.deleteListener.length ≤ 1) : finish s f answers ≠ .error .endless := by
  have loop : deleteListeners s answers f.deleteListener ≠ .error .endless := by
    intro stuck
    cases listed : f.deleteListener with
    | nil =>
      rw [listed] at stuck
      cases stuck
    | cons key rest =>
      rw [listed] at few stuck
      obtain rfl := List.length_eq_zero_iff.mp (Nat.le_zero.mp (Nat.le_of_succ_le_succ few))
      change deleteListener s answers key = .error .endless at stuck
      unfold deleteListener at stuck
      split at stuck
      · cases stuck
      split at stuck
      · cases stuck
      · exact removeWatch_ends _ _ _ stuck
  intro stuck
  rcases bind_error stuck with deleted | ⟨t, _, stuck⟩
  · exact loop deleted
  · dsimp only at stuck
    split at stuck
    · cases stuck
    · rcases bind_error stuck with removed | ⟨_, _, last⟩
      · exact removeFilter_ends _ removed
      · cases last

/-! ## Every run -/

/-- A signal takes one round, two for each listener and callback there were when it
came, and two for each that came meanwhile; what is left to do is part of that.
Then its listeners are deleted, and that ends if one was emptied at most. -/
theorem bounded {w : Watched State Effort} (reached : Reaches (observe step noteEffort) (fun w _ => Room w.state)
      (fun w => Start w.state ∧ w.ghost = {}) w) :
    w.ghost.rounds + w.state.work ≤
        w.ghost.due + 2 * (w.state.listenerId - w.ghost.ids) + 2 * (w.state.next - w.ghost.keys) ∧
      ∀ f answers, w.state.phase = .filtering f (.scan none) → f.deleteListener.length ≤ 1 →
        finish w.state f answers ≠ .error .endless := by
  have all : Sane w.state ∧ Within w.state w.ghost := by
    refine reached.invariant (I := fun w => Sane w.state ∧ Within w.state w.ghost) (fun w start => ?_) fun w e w' inv room ran => ?_
    · obtain ⟨start, empty⟩ := start
      refine ⟨sane_start start, ?_⟩
      rw [empty, show w.state = {} from start]
      exact ⟨Nat.zero_le _, Nat.zero_le _, Nat.le_refl _⟩
    · obtain ⟨s', stepped, rfl⟩ := observe_eq_some ran
      have move := step_moves inv.1 room stepped
      exact ⟨move.sane inv.1, move.within inv.1 inv.2⟩
  obtain ⟨ids, keys, bound⟩ := all.2
  exact ⟨by omega, fun f answers _ few => finish_ends few⟩

theorem reentrant_noted :
    (play (observe step noteEffort) (fun w _ => Room w.state) ⟨{}, {}⟩ reentrant).isSome := by decide +kernel

def laboured : Watched State Effort :=
  (play (observe step noteEffort) (fun w _ => Room w.state) ⟨{}, {}⟩ reentrant).get reentrant_noted

theorem laboured_reached : Reaches (observe step noteEffort) (fun w _ => Room w.state)
    (fun w => Start w.state ∧ w.ghost = {}) laboured := by
  exact Reaches.play (.here (show Start (⟨{}, {}⟩ : Watched State Effort).state ∧ _ from ⟨rfl, rfl⟩)) reentrant
    (Option.some_get reentrant_noted).symm

theorem bounded_reentrant : laboured.ghost.rounds = 10 ∧ laboured.ghost.due = 9 ∧ laboured.ghost.rounds + laboured.state.work ≤
    laboured.ghost.due + 2 * (laboured.state.listenerId - laboured.ghost.ids) + 2 * (laboured.state.next - laboured.ghost.keys) :=
  ⟨by decide +kernel, by decide +kernel, (bounded laboured_reached).1⟩

/-- Two listeners lose their only callback, and the third one's adds one to each. -/
example :
    let signal : Message := { sender := ":1.4", path := "/a", interface := "a.A", member := "Changed", args := [] }
    let first : Event := .addSignalWatch 1 none (some "/a") none none true false {}
    let second : Event := .addSignalWatch 1 none none (some "a.A") none true false {}
    let called : List Event := [.proceed {}, .proceed {}]
    (play step Counted {} ([first, second, .addSignalWatch 1 none none none (some "Changed") true false {}, .message 1 signal] ++
      called ++ [.returned false {}, .proceed {}] ++ called ++ [.returned false {}, .proceed {}] ++
      called ++ [first, second, .returned true {}, .proceed {}, .proceed {}])).map (·.phase) = some (.fault .endless) := by
  decide +kernel

end ConnmanUi.Watch
