import ConnmanUi.WatchFrames

/-!
To whom `message_filter` delivers a signal.

The callbacks it calls may add watches and remove any, so the listeners and their
callbacks change under it.  Still the signal comes to each listener in the list
once, and to each of its callbacks that was there when its turn began exactly once
(`delivered`).  What is added later to a listener waits for the next signal; what
is added to a listener that is yet to come does not.
-/

namespace ConnmanUi.Watch

open Keyed Run

variable {s s' s'' t : State} {d d' : FilterData} {cb cb' : FilterCallback} {gone : FilterCallback → Prop}
  {f : Filtering} {stage : Stage} {e : Event} {k n next : Nat}

/-! ## Under observation -/

/-- What an observer notes of a signal: which listeners have had their turn, with
which id the newest watch had when a listener that takes it began, and which
watches were called. -/
structure Delivery where
  tested : List Nat := []
  began : List (Nat × Nat) := []
  told : List Nat := []

/-- The listener takes the signal. -/
def FilterData.takes (d : FilterData) (f : Filtering) : Bool :=
  d.connection = f.connection && d.accepts f.message = some true

def noteDelivery (s : State) (_ : Event) (s' : State) (g : Delivery) : Delivery :=
  match s.phase, s'.phase with
  | .idle, _ => {}
  | .filtering f (.scan (some k)), _ =>
    if (s.listener k).any (·.takes f) then { g with tested := k :: g.tested, began := (k, s.listenerId) :: g.began }
    else { g with tested := k :: g.tested }
  | .filtering _ (.handle _), .filtering _ (.call _ id) => { g with told := id :: g.told }
  | _, _ => g

abbrev Seen := Watched State Delivery

/-- The watch was there when the turn of its listener began, and has a function
for the signal. -/
def Due (g : Delivery) (f : Filtering) (d : FilterData) (cb : FilterCallback) : Prop :=
  ∃ n, g.began.lookup d.key = some n ∧ cb.id ≤ n ∧ d.calls cb f.message = true

/-- The callbacks of the list were called if and only if they were due. -/
def Served (g : Delivery) (f : Filtering) (d : FilterData) (l : List FilterCallback) : Prop :=
  ∀ cb ∈ l, cb.id ∈ g.told ↔ Due g f d cb

/-- None of the list was called. -/
def Untold (g : Delivery) (l : List FilterCallback) : Prop := ∀ cb ∈ l, cb.id ∉ g.told

/-- The turn of the listener is over. -/
def Stage.behind (stage : Stage) (key : Nat) : Prop := ∀ k ∈ stage.current, key < k

/-- The turn of the listener is yet to come. -/
def Stage.ahead (stage : Stage) (key : Nat) : Prop := ∃ k ∈ stage.current, k < key ∨ k = key ∧ stage.handling = none

/-- The listener has its turn. -/
structure Serving (stage : Stage) (g : Delivery) (f : Filtering) (d : FilterData) : Prop where
  tested : d.key ∈ g.tested
  served : Served g f d d.processed
  due : ∃ n, g.began.lookup d.key = some n ∧ ∀ cb ∈ d.callbacks, cb.id ≤ n
  waiting : ∀ cb ∈ d.callbacks, (cb.id ∈ g.told ↔ stage = .call d.key cb.id)
  calls : ∀ cb ∈ d.callbacks, stage = .call d.key cb.id → d.calls cb f.message = true

/-- How far the delivery of a signal is. -/
structure Progress (f : Filtering) (stage : Stage) (s : State) (g : Delivery) : Prop where
  once : g.told.Nodup
  given : ∀ id ∈ g.told, id ≤ s.listenerId
  began : ∀ entry ∈ g.began, entry.1 ∈ g.tested ∧ entry.2 ≤ s.listenerId
  tested : g.tested.Nodup
  past : ∀ key ∈ g.tested, ∀ k ∈ stage.current, key < k ∨ key = k ∧ stage.handling = some k
  behind : ∀ d ∈ s.listeners, stage.behind d.key → d.key ∈ g.tested ∧ Served g f d (d.callbacks ++ d.processed)
  ahead : ∀ d ∈ s.listeners, stage.ahead d.key → Untold g (d.callbacks ++ d.processed)
  here : ∀ d ∈ s.listeners, stage.handling = some d.key → Serving stage g f d

theorem Progress.alike {g : Delivery} (progress : Progress f stage t g) (alike : Alike s t) : Progress f stage s g := by
  obtain ⟨once, given, began, tested, past, behind, ahead, here⟩ := progress
  refine ⟨once, ?_, ?_, tested, past, ?_, ?_, ?_⟩
  · exact alike.listenerId ▸ given
  · exact alike.listenerId ▸ began
  · exact alike.listeners ▸ behind
  · exact alike.listeners ▸ ahead
  · exact alike.listeners ▸ here

/-- What was added since is not due, and was not called. -/
theorem Served.grown {free : Prop} {g : Delivery} {l l' : List FilterCallback} (served : Served g f d l)
    (grown : Grown n free l l') (key : d'.key = d.key) (handle : d'.handleFunc = d.handleFunc)
    (given : ∀ id ∈ g.told, id ≤ n) (began : ∀ m, g.began.lookup d.key = some m → m ≤ n) : Served g f d' l' := by
  intro cb' mem
  rcases grown cb' mem with ⟨cb, there, same⟩ | ⟨_, new⟩
  · rw [← bare_id same, served cb there]
    unfold Due
    rw [key, bare_id same, calls_congr handle same]
  · refine iff_of_false (fun told => ?_) fun ⟨m, lookup, old, _⟩ => ?_
    · exact absurd (given _ told) (Nat.not_le_of_lt new)
    · rw [key] at lookup
      exact absurd (old.trans (began m lookup)) (Nat.not_le_of_lt new)

theorem Untold.grown {free : Prop} {g : Delivery} {l l' : List FilterCallback} (untold : Untold g l)
    (grown : Grown n free l l') (given : ∀ id ∈ g.told, id ≤ n) : Untold g l' := by
  intro cb' mem
  rcases grown cb' mem with ⟨cb, there, same⟩ | ⟨_, new⟩
  · exact bare_id same ▸ untold cb there
  · exact fun told => absurd (given _ told) (Nat.not_le_of_lt new)

theorem lookup_mem {k m : Nat} {l : List (Nat × Nat)} (found : l.lookup k = some m) : (k, m) ∈ l := by
  obtain ⟨front, back, rfl, _⟩ := List.lookup_eq_some_iff.mp found
  simp

theorem Progress.lookup_le {g : Delivery} (progress : Progress f stage s g) :
    ∀ k m, g.began.lookup k = some m → m ≤ s.listenerId :=
  fun _ _ found => (progress.began _ (lookup_mem found)).2

theorem Serving.follows {g : Delivery} (serving : Serving stage g f d) (locked : d.lock = true)
    (follows : Follows n d d') (given : ∀ id ∈ g.told, id ≤ n) (began : ∀ k m, g.began.lookup k = some m → m ≤ n) :
    Serving stage g f d' := by
  obtain ⟨tested, served, ⟨m, began', due⟩, waiting, calls⟩ := serving
  have old : ∀ cb' ∈ d'.callbacks, ∃ cb ∈ d.callbacks, cb.bare = cb'.bare := by
    intro cb' mem
    rcases follows.callbacks cb' mem with old | ⟨free, _⟩
    · exact old
    · exact absurd (free.symm.trans locked) Bool.false_ne_true
  refine ⟨follows.key ▸ tested, served.grown follows.processed follows.key follows.handleFunc given (began _),
    ⟨m, follows.key ▸ began', fun cb' mem => ?_⟩, fun cb' mem => ?_, fun cb' mem now => ?_⟩
  · obtain ⟨cb, there, same⟩ := old cb' mem
    exact bare_id same ▸ due cb there
  · obtain ⟨cb, there, same⟩ := old cb' mem
    rw [← bare_id same, follows.key]
    exact waiting cb there
  · obtain ⟨cb, there, same⟩ := old cb' mem
    rw [← bare_id same, follows.key] at now
    rw [calls_congr follows.handleFunc same]
    exact calls cb there now

/-- What the program does while it is called, or a name gets an owner. -/
theorem Progress.calls {g : Delivery} (progress : Progress f stage s g) (locked : ∀ d ∈ s.listeners,
    stage.handling = some d.key → d.lock = true) (current : stage.current = some k) (bound : k < s.next)
    (ops : Calls gone s s') : Progress f stage s' g := by
  have ids := (Ops.counters ops).1
  have origin := ops.origin
  refine ⟨progress.once, fun id told => (progress.given id told).trans ids,
    fun entry mem => ⟨(progress.began entry mem).1, (progress.began entry mem).2.trans ids⟩, progress.tested, progress.past,
    fun d' mem behind => ?_, fun d' mem ahead => ?_, fun d' mem here => ?_⟩
  · rcases origin d' mem with ⟨d, there, follows⟩ | ⟨new, _⟩
    · rw [follows.key] at behind ⊢
      obtain ⟨tested, served⟩ := progress.behind d there behind
      exact ⟨tested, served.grown (follows.callbacks.append follows.processed) follows.key follows.handleFunc progress.given
        (progress.lookup_le _)⟩
    · exact absurd ((behind k current).trans bound) (Nat.not_lt_of_le new)
  · rcases origin d' mem with ⟨d, there, follows⟩ | ⟨_, fresh⟩
    · rw [follows.key] at ahead
      exact (progress.ahead d there ahead).grown (follows.callbacks.append follows.processed) progress.given
    · exact fun cb own told => absurd (progress.given _ told) (Nat.not_le_of_lt (fresh cb own))
  · rcases origin d' mem with ⟨d, there, follows⟩ | ⟨new, _⟩
    · rw [follows.key] at here
      exact (progress.here d there here).follows (locked d there here) follows progress.given progress.lookup_le
    · have same : some d'.key = some k := by
        rw [← here, ← current]
        cases stage with
        | scan key => cases here
        | handle key => rfl
        | call key id => rfl
      exact absurd (Option.some.inj same ▸ bound) (Nat.not_lt_of_le new)

/-! ## Turns -/

/-- Going on from a listener. -/
theorem Table.advance (table : Table t) (mem : d ∈ t.listeners) :
    (∀ k ∈ successor t d.key, d.key < k) ∧ ∀ c ∈ t.listeners,
      ((Stage.scan (successor t d.key)).behind c.key → c.key ≤ d.key) ∧
      ((Stage.scan (successor t d.key)).ahead c.key → d.key < c.key) := by
  have spec := table.successor_spec mem
  cases found : successor t d.key with
  | none =>
    rw [found] at spec
    refine ⟨fun k none => (Option.some_ne_none k none.symm).elim, fun c there => ⟨fun _ => spec c there, ?_⟩⟩
    rintro ⟨k, none, _⟩
    exact (Option.some_ne_none k none.symm).elim
  | some next =>
    rw [found] at spec
    obtain ⟨_, above, least⟩ := spec
    refine ⟨fun k same => Option.some.inj same ▸ above, fun c there => ⟨fun behind => ?_, ?_⟩⟩
    · by_contra later
      exact absurd (behind next rfl) (Nat.not_lt_of_le (least c there (Nat.lt_of_not_le later)))
    · rintro ⟨k, same, before | ⟨rfl, _⟩⟩
      · exact above.trans (Option.some.inj same ▸ before)
      · exact Option.some.inj same ▸ above

section Turns

variable {g : Delivery}

theorem note_scan (table : Table s) (mem : d ∈ s.listeners) (phase : s.phase = .filtering f (.scan (some d.key))) :
    noteDelivery s e s' g = if d.takes f then { g with tested := d.key :: g.tested, began := (d.key, s.listenerId) :: g.began }
      else { g with tested := d.key :: g.tested } := by
  unfold noteDelivery
  rw [phase]
  dsimp only
  rw [table.listener mem]
  rfl

theorem takes_accepted (here : d.connection = f.connection) (accepted : d.accepts f.message = some true) :
    d.takes f = true := by
  unfold FilterData.takes
  simp [here, accepted]

theorem takes_refused (other : d.connection ≠ f.connection ∨ d.accepts f.message = some false) : d.takes f = false := by
  unfold FilterData.takes
  rcases other with other | refused
  · simp [other]
  · simp [refused]

theorem Progress.untested (progress : Progress f (.scan (some d.key)) s g) : d.key ∉ g.tested := by
  intro tested
  rcases progress.past d.key tested d.key rfl with before | ⟨_, handling⟩
  · exact Nat.lt_irrefl _ before
  · cases handling

theorem Progress.unbegun (progress : Progress f (.scan (some d.key)) s g) : g.began.lookup d.key = none := by
  cases found : g.began.lookup d.key with
  | none => rfl
  | some n => exact absurd (progress.began _ (lookup_mem found)).1 progress.untested

/-- The listener that was left is `d'` now; it was served, and so were those
before it. -/
theorem Progress.leave {g' : Delivery} (table : Table t) (mem : d' ∈ t.listeners) (key : d'.key = d.key)
    (others : ∀ c ∈ t.listeners, c = d' ∨ c ∈ s.listeners ∧ c.key ≠ d.key) (ids : t.listenerId = s.listenerId)
    (progress : Progress f stage s g) (current : stage.current = some d.key)
    (told : g'.told = g.told) (nodup : g'.tested.Nodup) (tested : ∀ k, k ∈ g'.tested ↔ k = d.key ∨ k ∈ g.tested)
    (began : ∀ entry ∈ g'.began, entry ∈ g.began ∨ entry = (d.key, s.listenerId))
    (kept : ∀ k, k ≠ d.key → g'.began.lookup k = g.began.lookup k) (served : Served g' f d' (d'.callbacks ++ d'.processed)) :
    Progress f (.scan (successor t d.key)) t g' := by
  obtain ⟨above, sides⟩ := key ▸ table.advance mem
  have before : ∀ c ∈ t.listeners, c.key < d.key → stage.behind c.key := by
    intro c _ less k here
    rw [current] at here
    exact Option.some.inj here ▸ less
  refine ⟨told ▸ progress.once, fun id mem => ids ▸ progress.given id (told ▸ mem), fun entry mem => ?_, nodup,
    fun k mem next here => .inl ?_, fun c there behind => ?_, fun c there ahead => ?_, fun c _ handling => by cases handling⟩
  · rw [tested, ids]
    rcases began entry mem with old | rfl
    · exact (progress.began entry old).imp .inr id
    · exact ⟨.inl rfl, Nat.le_refl _⟩
  · rcases (tested k).mp mem with rfl | old
    · exact above next here
    · rcases progress.past k old d.key current with less | ⟨rfl, _⟩
      · exact less.trans (above next here)
      · exact above next here
  · rcases others c there with rfl | ⟨old, other⟩
    · exact ⟨(tested _).mpr (.inl key), served⟩
    · have less := Nat.lt_of_le_of_ne ((sides c there).1 behind) other
      obtain ⟨had, was⟩ := progress.behind c old (before c there less)
      refine ⟨(tested _).mpr (.inr had), fun cb own => ?_⟩
      rw [told, was cb own]
      unfold Due
      rw [kept _ other]
  · have less := (sides c there).2 ahead
    rcases others c there with rfl | ⟨old, _⟩
    · exact absurd key (Nat.ne_of_gt less)
    · intro cb own mem
      exact progress.ahead c old ⟨d.key, current, .inl less⟩ cb own (told ▸ mem)

/-- The other listeners are as they were, and the same were called. -/
theorem Progress.stay {stage' : Stage} {g' : Delivery} (progress : Progress f stage s g)
    (others : ∀ c ∈ t.listeners, c = d' ∨ c ∈ s.listeners ∧ c.key ≠ d.key) (key : d'.key = d.key)
    (ids : t.listenerId = s.listenerId) (current : stage.current = some d.key) (handling : stage'.handling = some d.key)
    (once : g'.told.Nodup) (given : ∀ id ∈ g'.told, id ≤ s.listenerId)
    (apart : ∀ c ∈ s.listeners, c.key ≠ d.key → ∀ cb ∈ c.callbacks ++ c.processed, (cb.id ∈ g'.told ↔ cb.id ∈ g.told))
    (tested : g'.tested.Nodup) (past : ∀ k ∈ g'.tested, k = d.key ∨ k ∈ g.tested) (kept : ∀ k ∈ g.tested, k ∈ g'.tested)
    (began : ∀ entry ∈ g'.began, entry ∈ g.began ∨ entry = (d.key, s.listenerId) ∧ d.key ∈ g'.tested)
    (same : ∀ k, k ≠ d.key → g'.began.lookup k = g.began.lookup k) (serving : Serving stage' g' f d') :
    Progress f stage' t g' := by
  have now : stage'.current = some d.key := by
    cases stage' with
    | scan key => cases handling
    | handle key => exact handling
    | call key id => exact handling
  have aside : ∀ c ∈ t.listeners, c.key ≠ d.key → c ∈ s.listeners := by
    intro c there other
    rcases others c there with rfl | ⟨old, _⟩
    · exact absurd key other
    · exact old
  refine ⟨once, fun id mem => ids ▸ given id mem, fun entry mem => ?_, tested, fun k mem here same' => ?_,
    fun c there behind => ?_, fun c there ahead => ?_, fun c there here => ?_⟩
  · rw [ids]
    rcases began entry mem with old | ⟨rfl, there⟩
    · exact (progress.began entry old).imp (kept _) id
    · exact ⟨there, Nat.le_refl _⟩
  · have same'' : d.key = here := Option.some.inj (now.symm.trans same')
    subst same''
    rcases past k mem with rfl | old
    · exact .inr ⟨rfl, handling⟩
    · rcases progress.past k old d.key current with less | ⟨rfl, _⟩
      · exact .inl less
      · exact .inr ⟨rfl, handling⟩
  · have less : c.key < d.key := behind d.key now
    have old := aside c there (Nat.ne_of_lt less)
    obtain ⟨had, was⟩ := progress.behind c old fun k here => Option.some.inj (current.symm.trans here) ▸ less
    refine ⟨kept _ had, fun cb own => ?_⟩
    rw [apart c old (Nat.ne_of_lt less) cb own, was cb own]
    unfold Due
    rw [same _ (Nat.ne_of_lt less)]
  · obtain ⟨k, here, later⟩ := ahead
    rw [now] at here
    cases here
    rcases later with less | ⟨_, free⟩
    · have old := aside c there (Nat.ne_of_gt less)
      intro cb own told
      exact progress.ahead c old ⟨d.key, current, .inl less⟩ cb own ((apart c old (Nat.ne_of_gt less) cb own).mp told)
    · rw [handling] at free
      cases free
  · rw [handling] at here
    rcases others c there with rfl | ⟨_, other⟩
    · exact serving
    · exact absurd (Option.some.inj here).symm other

theorem Progress.pass (progress : Progress f (.scan (some d.key)) s g) (table : Table s) (mem : d ∈ s.listeners) :
    Progress f (.scan (successor s d.key)) s { g with tested := d.key :: g.tested } := by
  refine progress.leave table mem rfl (table.others mem) rfl rfl rfl
    (List.nodup_cons.mpr ⟨progress.untested, progress.tested⟩) (fun k => List.mem_cons) (fun entry old => .inl old)
    (fun k _ => rfl) fun cb own => ?_
  refine iff_of_false (progress.ahead d mem ⟨d.key, rfl, .inr ⟨rfl, rfl⟩⟩ cb own) fun ⟨n, found, _⟩ => ?_
  rw [progress.unbegun] at found
  cases found

theorem Progress.lock (progress : Progress f (.scan (some d.key)) s g) (sane : Sane s) (mem : d ∈ s.listeners)
    (free : d.lock = false) : Progress f (.handle d.key) (s.setListener { d with lock := true })
      { g with tested := d.key :: g.tested, began := (d.key, s.listenerId) :: g.began } := by
  have fresh := progress.ahead d mem ⟨d.key, rfl, .inr ⟨rfl, rfl⟩⟩
  have others : ∀ c ∈ (s.setListener { d with lock := true }).listeners,
      c = { d with lock := true } ∨ c ∈ s.listeners ∧ c.key ≠ d.key := fun c there => mem_setListener there
  refine progress.stay others rfl rfl rfl rfl progress.once progress.given (fun _ _ _ _ _ => .rfl)
    (List.nodup_cons.mpr ⟨progress.untested, progress.tested⟩) (fun k there => List.mem_cons.mp there)
    (fun k there => List.mem_cons_of_mem _ there) (fun entry there => ?_) (fun k other => ?_) ?_
  · exact (List.mem_cons.mp there).symm.imp id fun same => ⟨same, List.mem_cons_self⟩
  · rw [List.lookup_cons, beq_eq_false_iff_ne.mpr other]
  · refine ⟨List.mem_cons_self, fun cb own => ?_, ⟨s.listenerId, ?_, fun cb own => ?_⟩, fun cb own => ?_, fun cb own => ?_⟩
    · rw [sane.table.unlocked d mem free] at own
      cases own
    · rw [List.lookup_cons, beq_self_eq_true]
    · exact (sane.numbered.given _ (mem_watches mem (List.mem_append_left _ own))).2
    · exact iff_of_false (fresh cb (List.mem_append_left _ own)) fun same => by cases same
    · exact fun same => by cases same

/-- A listener whose callbacks cannot be handled loses them. -/
theorem Progress.lost (progress : Progress f (.scan (some d.key)) s g) (table : Table s) (mem : d ∈ s.listeners)
    (free : d.lock = false) : Progress f (.scan (successor ((s.setListener { d with lock := true }).setListener
        ({ d with lock := true } : FilterData).unlock) d.key))
      ((s.setListener { d with lock := true }).setListener ({ d with lock := true } : FilterData).unlock)
      { g with tested := d.key :: g.tested, began := (d.key, s.listenerId) :: g.began } := by
  have locked := table.mem_set mem (show ({ d with lock := true } : FilterData).key = d.key from rfl)
  have table' := (table.set_op (c := .free) mem (lock_changed trivial) rfl).table table
  refine Progress.leave (s := s) (d := d) (table'.unlock locked) (table'.mem_set locked rfl) rfl (fun c there => ?_) rfl
    progress rfl rfl (List.nodup_cons.mpr ⟨progress.untested, progress.tested⟩) (fun k => List.mem_cons)
    (fun entry there => (List.mem_cons.mp there).symm) (fun k other => ?_) fun cb own => ?_
  · rcases mem_setListener there with rfl | ⟨old, other⟩
    · exact .inl rfl
    · exact .inr ((mem_setListener old).resolve_left fun same => other (by rw [same]; rfl))
  · rw [List.lookup_cons, beq_eq_false_iff_ne.mpr other]
  · unfold FilterData.unlock at own
    dsimp only at own
    rw [table.unlocked d mem free] at own
    cases own

theorem Progress.left (progress : Progress f (.handle d.key) s g) (table : Table s) (mem : d ∈ s.listeners) :
    Progress f (.scan (successor (s.setListener d.unlock) d.key)) (s.setListener d.unlock) g := by
  have serving := progress.here d mem rfl
  refine progress.leave (table.unlock mem) (table.mem_set mem rfl) rfl (fun c there => mem_setListener there) rfl rfl rfl
    progress.tested (fun k => (or_iff_right_of_imp fun same => same ▸ serving.tested).symm) (fun entry old => .inl old)
    (fun _ _ => rfl) fun cb own => ?_
  unfold FilterData.unlock at own
  rw [List.append_nil] at own
  exact serving.served cb own

theorem Progress.call (progress : Progress f (.handle d.key) s g) (sane : Sane s) (mem : d ∈ s.listeners)
    (own : cb ∈ d.callbacks) (calls : d.calls cb f.message = true) :
    Progress f (.call d.key cb.id) s { g with told := cb.id :: g.told } := by
  have serving := progress.here d mem rfl
  have silent : cb.id ∉ g.told := fun told => by cases (serving.waiting cb own).mp told
  have ids := sane.numbered.ids mem
  rw [List.map_append] at ids
  obtain ⟨alone, _, disjoint⟩ := List.nodup_append.mp ids
  refine progress.stay (d := d) (sane.table.others mem) rfl rfl rfl rfl (List.nodup_cons.mpr ⟨silent, progress.once⟩)
    (fun id told => ?_) (fun c there other cb' own' => ?_) progress.tested (fun k => .inr) (fun k => id) (fun entry => .inl)
    (fun _ _ => rfl) ⟨serving.tested, fun cb' own' => ?_, serving.due, fun cb' own' => ?_, fun cb' own' now => ?_⟩
  · rcases List.mem_cons.mp told with rfl | old
    · exact (sane.numbered.given _ (mem_watches mem (List.mem_append_left _ own))).2
    · exact progress.given id old
  · have differ := sane.numbered.apart mem there other (List.mem_append_left _ own) own'
    exact ⟨fun told => (List.mem_cons.mp told).resolve_left differ, fun told => List.mem_cons_of_mem _ told⟩
  · have differ : cb'.id ≠ cb.id := fun same =>
      disjoint cb.id (List.mem_map_of_mem own) cb'.id (List.mem_map_of_mem own') same.symm
    rw [List.mem_cons, or_iff_right differ]
    exact serving.served cb' own'
  · rw [List.mem_cons]
    constructor
    · rintro (same | old)
      · rw [same]
      · cases (serving.waiting cb' own').mp old
    · intro now
      injection now with _ same
      exact .inl same.symm
  · injection now with _ same
    rw [List.inj_on_of_nodup_map alone own' own same.symm]
    exact calls

/-- A callback that was called was due, and one that was passed was not. -/
theorem Serving.settled (serving : Serving stage g f d) (own : cb ∈ d.callbacks)
    (after : stage = .handle d.key ∧ d.calls cb f.message = false ∨ stage = .call d.key cb.id) :
    (cb.id ∈ g.told ↔ Due g f d cb) ∧ ∀ cb' ∈ d.callbacks, cb'.id ≠ cb.id → cb'.id ∉ g.told := by
  constructor
  · obtain ⟨n, began, old⟩ := serving.due
    rw [serving.waiting cb own]
    rcases after with ⟨rfl, silent⟩ | rfl
    · refine iff_of_false (fun now => by cases now) fun ⟨_, _, _, calls⟩ => ?_
      exact Bool.false_ne_true (silent.symm.trans calls)
    · exact iff_of_true rfl ⟨n, began, old cb own, serving.calls cb own rfl⟩
  · intro cb' own' other told
    have now := (serving.waiting cb' own').mp told
    rcases after with ⟨rfl, _⟩ | rfl
    · cases now
    · injection now with _ same
      exact other same.symm

theorem Serving.wait (serving : Serving stage g f d) (own : cb ∈ d.callbacks)
    (after : stage = .handle d.key ∧ d.calls cb f.message = false ∨ stage = .call d.key cb.id) :
    Serving (.handle d.key) g f (d.wait cb) := by
  obtain ⟨settled, unserved⟩ := serving.settled own after
  refine ⟨serving.tested, fun cb' own' => ?_, ?_, fun cb' own' => ?_, fun cb' _ now => by cases now⟩
  · rcases List.mem_append.mp own' with old | last
    · exact serving.served cb' old
    · rw [List.mem_singleton.mp last]
      exact settled
  · exact serving.due.imp fun n began => began.imp id fun old cb' own' => old cb' (List.mem_of_mem_filter own')
  · obtain ⟨own', other⟩ := List.mem_filter.mp own'
    exact iff_of_false (unserved cb' own' (of_decide_eq_true other)) fun now => by cases now

theorem Serving.remove (serving : Serving stage g f d) (own : cb ∈ d.callbacks)
    (after : stage = .handle d.key ∧ d.calls cb f.message = false ∨ stage = .call d.key cb.id) :
    Serving (.handle d.key) g f (d.remove cb.id) := by
  obtain ⟨_, unserved⟩ := serving.settled own after
  refine ⟨serving.tested, fun cb' own' => ?_, ?_, fun cb' own' => ?_, fun cb' _ now => by cases now⟩
  · exact serving.served cb' (List.mem_of_mem_filter own')
  · exact serving.due.imp fun n began => began.imp id fun old cb' own' => old cb' (List.mem_of_mem_filter own')
  · obtain ⟨own', other⟩ := List.mem_filter.mp own'
    exact iff_of_false (unserved cb' own' (of_decide_eq_true other)) fun now => by cases now

theorem Progress.settled (progress : Progress f stage s g) (mem : d ∈ s.listeners) (own : cb ∈ d.callbacks)
    (after : stage = .handle d.key ∧ d.calls cb f.message = false ∨ stage = .call d.key cb.id)
    (done : t = s.setListener (d.wait cb) ∨ t = dropCallback s d cb ∧ Dismissed e f d stage cb) : Progress f (.handle d.key) t g := by
  have turn : stage.current = some d.key ∧ stage.handling = some d.key := by
    rcases after with ⟨rfl, _⟩ | rfl
    · exact ⟨rfl, rfl⟩
    · exact ⟨rfl, rfl⟩
  have serving := progress.here d mem turn.2
  have stay {d' : FilterData} (set : t.listeners = (s.setListener d').listeners) (ids : t.listenerId = s.listenerId)
      (key : d'.key = d.key) (serving' : Serving (.handle d.key) g f d') : Progress f (.handle d.key) t g := by
    have others : ∀ c ∈ t.listeners, c = d' ∨ c ∈ s.listeners ∧ c.key ≠ d.key := by
      intro c there
      rw [set] at there
      exact key ▸ mem_setListener there
    exact progress.stay others key ids turn.1 rfl progress.once progress.given (fun _ _ _ _ _ => .rfl) progress.tested
      (fun k => .inr) (fun k => id) (fun entry => .inl) (fun _ _ => rfl) serving'
  rcases done with rfl | ⟨rfl, _⟩
  · exact stay rfl rfl rfl (serving.wait own after)
  · exact stay (dropCallback_same d cb).1 (dropCallback_same d cb).2 rfl (serving.remove own after)

/-- The callback removed itself. -/
theorem Progress.back {id : Nat} (progress : Progress f (.call d.key id) s g) (table : Table s) (mem : d ∈ s.listeners)
    (absent : ∀ cb ∈ d.callbacks, cb.id ≠ id) : Progress f (.handle d.key) s g := by
  have serving := progress.here d mem rfl
  refine progress.stay (d := d) (table.others mem) rfl rfl rfl rfl progress.once progress.given (fun _ _ _ _ _ => .rfl)
    progress.tested (fun k => .inr) (fun _ there => there) (fun entry => .inl) (fun _ _ => rfl) ⟨serving.tested,
      serving.served, serving.due, fun cb own => iff_of_false (fun told => ?_) (fun now => by cases now),
      fun cb own now => by cases now⟩
  have now := (serving.waiting cb own).mp told
  injection now with _ same
  exact absent cb own same.symm

theorem Turn.progress (turn : Turn s e f d stage s') (sane : Sane s) (mem : d ∈ s.listeners)
    (phase : s.phase = .filtering f stage) (progress : Progress f stage s g) :
    ∀ f' stage', s'.phase = .filtering f' stage' → f'.message = f.message ∧ Progress f stage' s' (noteDelivery s e s' g) := by
  have held := sane.sound fun why => by simp [phase]
  rw [phase] at held
  have same {t : State} {stage' : Stage} {f' : Filtering} {g' : Delivery} (p : Phase)
      (noted : noteDelivery s e { t with phase := p } g = g') (message : f'.message = f.message)
      (progress' : Progress f stage' t g') :
      f'.message = f.message ∧ Progress f stage' { t with phase := p } (noteDelivery s e { t with phase := p } g) :=
    ⟨message, noted ▸ progress'.alike ⟨rfl, rfl, rfl⟩⟩
  have unlocked : stage.handling = none → d.lock = false := by
    intro scanning
    have other : stage.handling ≠ some d.key := scanning ▸ (Option.some_ne_none d.key).symm
    simpa using mt (held.locked d mem).mp other
  cases turn with
  | pass other =>
    rintro _ _ ⟨⟩
    refine same (t := s) _ ?_ rfl (progress.pass sane.table mem)
    rw [note_scan sane.table mem phase, takes_refused other, if_neg Bool.false_ne_true]
  | @lock t here accepted cached =>
    rintro _ _ ⟨⟩
    refine same (t := t) _ (by rw [note_scan sane.table mem phase, takes_accepted here accepted, if_pos rfl]) rfl ?_
    have locked := progress.lock sane mem (unlocked rfl)
    rcases cached with rfl | ⟨_, name, _, new, _, _, rfl⟩
    · exact locked
    · refine locked.calls (fun c there here => ?_) rfl (sane.table.below d mem)
        (updateNameCache_op (c := .calling fun _ => False) name new).ops
      rcases mem_setListener there with rfl | ⟨_, other⟩
      · rfl
      · exact absurd (Option.some.inj here).symm other
  | lost here accepted service improper =>
    rintro _ _ ⟨⟩
    exact same _ (by rw [note_scan sane.table mem phase, takes_accepted here accepted, if_pos rfl])
      (f.left_message { d with lock := true }) (progress.lost sane.table mem (unlocked rfl))
  | leave none =>
    rintro _ _ ⟨⟩
    refine same _ ?_ (f.left_message d) (progress.left sane.table mem)
    unfold noteDelivery
    rw [phase]
  | call cb rest first calls =>
    rintro _ _ ⟨⟩
    have own : cb ∈ d.callbacks := by
      rw [first]
      exact List.mem_cons_self
    refine ⟨rfl, ?_⟩
    have note : noteDelivery s e { s.note (.called cb.id) with phase := .filtering f (.call d.key cb.id) } g =
        { g with told := cb.id :: g.told } := by
      unfold noteDelivery
      rw [phase]
    rw [note]
    exact (progress.call sane mem own calls).alike ⟨rfl, rfl, rfl⟩
  | @settled t _ cb own after done =>
    rintro _ _ ⟨⟩
    refine same (t := t) _ ?_ rfl (progress.settled mem own after done)
    unfold noteDelivery
    rw [phase]
    rcases after with ⟨rfl, _⟩ | rfl
    · rfl
    · rfl
  | back id absent =>
    rintro _ _ ⟨⟩
    refine same (t := s) _ ?_ rfl (progress.back sane.table mem absent)
    unfold noteDelivery
    rw [phase]

theorem Progress.congr {f' : Filtering} (same : f'.message = f.message) (progress : Progress f stage s g) :
    Progress f' stage s g := by
  have due : ∀ d cb, Due g f' d cb ↔ Due g f d cb := fun d cb => by
    unfold Due
    rw [same]
  obtain ⟨once, given, began, tested, past, behind, ahead, here⟩ := progress
  refine ⟨once, given, began, tested, past, fun d mem is => ?_, ahead, fun d mem is => ?_⟩
  · obtain ⟨had, served⟩ := behind d mem is
    exact ⟨had, fun cb own => (served cb own).trans (due d cb).symm⟩
  · obtain ⟨had, served, old, waiting, calls⟩ := here d mem is
    refine ⟨had, fun cb own => (served cb own).trans (due d cb).symm, old, waiting, ?_⟩
    rw [same]
    exact calls

/-- The signal comes to the first listener. -/
theorem progress_start (table : Table s) (f : Filtering) :
    Progress f (.scan (s.listeners.head?.map (·.key))) s {} := by
  refine ⟨List.nodup_nil, fun _ mem => (List.not_mem_nil mem).elim, fun _ mem => (List.not_mem_nil mem).elim, List.nodup_nil,
    fun _ mem => (List.not_mem_nil mem).elim, fun d mem behind => ?_, fun d _ _ _ _ => List.not_mem_nil,
    fun d _ handling => by cases handling⟩
  have ordered := table.ordered
  cases all : s.listeners with
  | nil =>
    rw [all] at mem
    cases mem
  | cons first rest =>
    rw [all] at mem behind ordered
    have less : d.key < first.key := behind first.key rfl
    rcases List.mem_cons.mp mem with rfl | later
    · exact absurd less (Nat.lt_irrefl _)
    · exact absurd ((List.pairwise_cons.mp ordered).1 d later) (Nat.lt_asymm less)

theorem Move.progress (move : Move s e s') (sane : Sane s)
    (before : ∀ f stage, s.phase = .filtering f stage → Progress f stage s g) :
    ∀ f stage, s'.phase = .filtering f stage → Progress f stage s' (noteDelivery s e s' g) := by
  intro f stage phase'
  cases move with
  | asks request calls ops =>
    have phase := phase'
    rw [Ops.phase_eq ops] at phase
    obtain ⟨still, sound⟩ := Phase.calls_still calls
    have held := sane.sound sound
    have progress := before f stage phase
    rw [phase] at calls held
    cases stage with
    | scan current => cases calls
    | handle current => cases calls
    | call current id =>
      have note : noteDelivery s e s' g = g := by
        unfold noteDelivery
        rw [phase]
      obtain ⟨d, mem, rfl⟩ := held.present current rfl
      rw [note]
      exact progress.calls (fun c there here => (held.locked c there).mpr here) rfl (sane.table.below d mem) ops
  | message connection m idle =>
    cases phase'
    have note : ∀ t, noteDelivery s (.message connection m) t g = {} := by
      intro t
      unfold noteDelivery
      rw [idle]
    rw [note]
    exact (progress_start sane.table _).alike ⟨rfl, rfl, rfl⟩
  | turn f₀ stage₀ d phase mem current turn =>
    obtain ⟨message, progress⟩ := turn.progress (e := e) sane mem phase (before f₀ stage₀ phase) f stage phase'
    exact progress.congr message
  | finish f₀ answers phase ops => cases phase'
  | owner p log free ops noted =>
    rcases noted with ⟨rfl, _⟩ | ⟨_, _, rfl, _⟩
    · cases phase'
    · cases phase'
  | fault why => cases phase'

end Turns

/-! ## Every run -/

/-- Once message_filter has gone through its listeners, each of them had its turn
once, no callback was called twice, and those were called that were there when the
turn of a listener began that takes the signal, and that have a function for it. -/
theorem delivered {w : Seen} (reached : Reaches (observe step noteDelivery) (fun w _ => Room w.state)
      (fun w => Start w.state) w) (last : w.state.phase = .filtering f (.scan none)) :
    w.ghost.told.Nodup ∧ w.ghost.tested.Nodup ∧ ∀ d ∈ w.state.listeners, d.key ∈ w.ghost.tested ∧
      ∀ cb ∈ d.callbacks, (cb.id ∈ w.ghost.told ↔ Due w.ghost f d cb) := by
  have all : Sane w.state ∧ ∀ f stage, w.state.phase = .filtering f stage → Progress f stage w.state w.ghost := by
    refine reached.invariant (I := fun w => Sane w.state ∧ ∀ f stage, w.state.phase = .filtering f stage →
      Progress f stage w.state w.ghost) (fun w start => ⟨sane_start start, ?_⟩) fun w e w' inv room ran => ?_
    · intro f stage phase
      rw [show w.state.phase = .idle by rw [show w.state = {} from start]] at phase
      cases phase
    · obtain ⟨s', stepped, rfl⟩ := observe_eq_some ran
      have move := step_moves inv.1 room stepped
      exact ⟨move.sane inv.1, move.progress inv.1 inv.2⟩
  have progress := all.2 f _ last
  refine ⟨progress.once, progress.tested, fun d mem => ?_⟩
  obtain ⟨tested, served⟩ := progress.behind d mem fun k none => (Option.some_ne_none k none.symm).elim
  exact ⟨tested, fun cb own => served cb (List.mem_append_left _ own)⟩

def announced : Message := { sender := ":1.4", path := "/a", interface := "a.A", member := "Changed", args := [] }

/-- The callback of the first listener adds one to that listener and one to the
next. -/
def reentrant : List Event :=
  [.addSignalWatch 1 none (some "/a") none none true false {}, .addSignalWatch 1 none none none none true false {},
    .message 1 announced, .proceed {}, .proceed {}, .addSignalWatch 1 none (some "/a") none none true false {},
    .addSignalWatch 1 none none none none true false {}, .returned true {}, .proceed {}, .proceed {}, .proceed {},
    .returned true {}, .proceed {}, .returned true {}, .proceed {}]

theorem reentrant_plays :
    (play (observe step noteDelivery) (fun w _ => Room w.state) ⟨{}, {}⟩ reentrant).isSome := by decide +kernel

def reentered : Seen :=
  (play (observe step noteDelivery) (fun w _ => Room w.state) ⟨{}, {}⟩ reentrant).get reentrant_plays

theorem reentered_reached :
    Reaches (observe step noteDelivery) (fun w _ => Room w.state) (fun w => Start w.state) reentered := by
  exact Reaches.play (.here (show Start (⟨{}, {}⟩ : Seen).state from rfl)) reentrant (Option.some_get reentrant_plays).symm

theorem delivered_reentered : reentered.ghost.told = [4, 2, 1] ∧ reentered.state.watches.map (·.id) = [3, 1, 2, 4] ∧
    ∀ d ∈ reentered.state.listeners, d.key ∈ reentered.ghost.tested ∧ ∀ cb ∈ d.callbacks,
      (cb.id ∈ reentered.ghost.told ↔ Due reentered.ghost { connection := 1, message := announced } d cb) :=
  ⟨by decide +kernel, by decide +kernel, (delivered reentered_reached (by decide +kernel)).2.2⟩

end ConnmanUi.Watch
