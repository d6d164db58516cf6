import ConnmanUi.RegistryTimers

/-!
Slots that are exact.

A slot is `Exact` when it holds the id of the one timer pending for it, and
zero when there is none.  `Updates` and `Errors` say so of all update slots and
of all error slots.  Update slots are exact in every run that orphans nothing:
the destroy function of a timer finds its object by path, and empties the slot
the timer was stored in.  The destroy function of an error timer empties the
slot of the zero enumerator instead, so error slots stay exact only where that
is the timer's own (`Errors.sourceRemove`, `Errors.setPropertyCb`).
-/

namespace ConnmanUi

/-- The timers attached for one slot. -/
def Source.inSlot {ι : Type} [DecidableEq ι] (k : TimerSlot ι) (s : Source ι) : Option Unit :=
  if s.slot = k then some () else none

theorem Source.inSlot_of_slot {ι : Type} [DecidableEq ι] {k : TimerSlot ι} {s : Source ι}
    (own : s.slot = k) : s.inSlot k = some () := if_pos own

theorem Source.slot_of_inSlot {ι : Type} [DecidableEq ι] {k : TimerSlot ι} {s : Source ι} {u : Unit}
    (own : s.inSlot k = some u) : s.slot = k := by
  unfold Source.inSlot at own
  split at own
  case isTrue same => exact same
  case isFalse => cases own

namespace Registry

variable {ι ρ : Type} {r r' : Registry ι ρ}
  {o o' : ObjId} {i j : ι} {k : TimerSlot ι} {id : Nat} {c : PropertyChange ι} {s : Source ι}

section

variable [DecidableEq ι]

/-- The slot holds the id of the one timer pending for it, or zero. -/
def Exact (r : Registry ι ρ) (k : TimerSlot ι) : Prop :=
  r.sources.Tracks (Source.inSlot k) fun _ => r.timerSlot k

/-- Every update slot is exact. -/
def Updates (r : Registry ι ρ) : Prop := ∀ o i, Exact r (.update o i)

/-- Every error slot is exact. -/
def Errors (r : Registry ι ρ) : Prop := ∀ o i, Exact r (.error o i)

/-- If the slot holds an id, its timer is pending. -/
def Filled (r : Registry ι ρ) (k : TimerSlot ι) : Prop :=
  r.timerSlot k ≠ 0 → ∃ s, r.sources.find (r.timerSlot k) = some s ∧ s.slot = k

theorem Exact.filled (exact_ : Exact r k) : Filled r k := by
  intro used
  obtain ⟨s, found, own⟩ := exact_.holds () used
  exact ⟨s, found, Source.slot_of_inSlot own⟩

theorem Exact.id_eq (exact_ : Exact r k) (found : r.sources.find id = some s) (own : s.slot = k) :
    r.timerSlot k = id :=
  exact_.stored id s () found (Source.inSlot_of_slot own)

/-- The object of a pending timer is live. -/
theorem Exact.live [PropertyIndex ι] (exact_ : Exact r (.update o i)) (recorded : Recorded r)
    (found : r.sources.find id = some s) (own : s.slot = .update o i) : r.Live o := by
  by_contra dead
  have zero : r.timerSlot (.update o i) = 0 := (recorded.empty o dead i).1
  rw [exact_.id_eq found own] at zero
  exact Pool.ne_zero_of_find found zero

theorem Exact.error_live [PropertyIndex ι] (exact_ : Exact r (.error o i)) (recorded : Recorded r)
    (found : r.sources.find id = some s) (own : s.slot = .error o i) : r.Live o := by
  by_contra dead
  have zero : r.timerSlot (.error o i) = 0 := (recorded.empty o dead i).2
  rw [exact_.id_eq found own] at zero
  exact Pool.ne_zero_of_find found zero

theorem Exact.same (exact_ : Exact r k) (sources : r'.sources = r.sources)
    (slot : r'.timerSlot k = r.timerSlot k) : Exact r' k := by
  unfold Exact
  rw [sources]
  exact exact_.congr fun _ => slot

theorem Updates.same (updates : Updates r) (same : SameTimers r r') : Updates r' := by
  intro o i
  apply (updates o i).same same.sources
  rcases same.slots (.update o i) with kept | ⟨refresh, _⟩
  · exact kept
  · cases refresh

theorem Errors.same (errors : Errors r) (same : SameTimers r r') : Errors r' := by
  intro o i
  apply (errors o i).same same.sources
  rcases same.slots (.error o i) with kept | ⟨refresh, _⟩
  · exact kept
  · cases refresh

end

/-! ## Removing and attaching a timer -/

/-- The slot that is emptied when a source is destroyed. -/
def emptiedBy (r : Registry ι ρ) : Source ι → Option (TimerSlot ι)
  | .property c => r.emptied c
  | .refresh => none

theorem timerSlot_sourceRemove_found [DecidableEq ι] (found : r.sources.find id = some s) (k : TimerSlot ι) :
    (r.sourceRemove id).timerSlot k = if r.emptiedBy s = some k then 0 else r.timerSlot k := by
  cases s with
  | property c => exact timerSlot_sourceRemove found k
  | refresh =>
    rw [sourceRemove_refresh found]
    rfl

/-- A slot stays exact if the timer removed was its own and empties it, or was
another's and leaves it. -/
theorem Exact.sourceRemove [DecidableEq ι] (exact_ : Exact r k)
    (finds : ∀ s, r.sources.find id = some s → s.slot = k → r.emptiedBy s = some k)
    (leaves : ∀ s, r.sources.find id = some s → s.slot ≠ k → r.emptiedBy s = some k →
      r.timerSlot k = 0) : Exact (r.sourceRemove id) k := by
  cases found : r.sources.find id with
  | none =>
    rw [sourceRemove_none found]
    exact exact_.same rfl rfl
  | some s =>
    unfold Exact
    rw [sourceRemove_sources]
    by_cases own : s.slot = k
    · have detached := exact_.detach ()
      rw [exact_.id_eq found own] at detached
      refine detached.congr fun _ => ?_
      rw [timerSlot_sourceRemove_found found, if_pos (finds s found own)]
      simp
    · have other : ∀ a, r.sources.find id = some a → a.inSlot k = none := by
        intro a there
        rw [found] at there
        cases there
        exact if_neg own
      refine (exact_.detach_other other).congr fun _ => ?_
      rw [timerSlot_sourceRemove_found found]
      split
      case isTrue emptied => exact (leaves s found own emptied).symm
      case isFalse => rfl

/-- Other slots stay exact when a timer is attached. -/
theorem Exact.attach_other [DecidableEq ι] (exact_ : Exact r k) (other : (Source.property c).slot ≠ k)
    (elsewhere : attachSlot c i ≠ k) : Exact (r.attachChange c i) k := by
  unfold Exact
  rw [attachChange_sources]
  refine (Pool.Tracks.attach_other exact_ (if_neg other)).congr fun _ => ?_
  rw [timerSlot_attachChange, Function.update_of_ne (Ne.symm elsewhere)]

/-- A slot is exact after its timer was replaced, whatever the destroy function
of the old one emptied. -/
theorem Exact.replace [DecidableEq ι] (exact_ : Exact r k) (own : (Source.property c).slot = k)
    (here : attachSlot c i = k) : Exact ((r.removeSlot k).attachChange c i) k := by
  have detached := exact_.detach ()
  have attached := detached.attach (Source.inSlot_of_slot own) (by simp)
  unfold Exact
  rw [attachChange_sources, removeSlot_sources]
  refine attached.congr fun _ => ?_
  rw [timerSlot_attachChange, here, removeSlot_sources]
  simp

theorem emptied_of_found (found : r.get (r.heap c.path).path = some c.path) :
    r.emptied c = some (if c.error then .error c.path c.index else .update c.path c.index) := by
  simp [emptied, found]

/-- What a destroyed timer's slot and the slot it empties have in common. -/
theorem emptied_update (emptied : r.emptiedBy s = some (.update o i)) :
    ∃ c, s = .property c ∧ c.error = false ∧ c.index = i ∧ r.get (r.heap c.path).path = some o := by
  cases s with
  | refresh => cases emptied
  | property c =>
    obtain ⟨o', found, same⟩ := Option.map_eq_some_iff.mp emptied
    cases error : c.error with
    | true => simp [error] at same
    | false =>
      simp only [error, Bool.false_eq_true, ↓reduceIte, TimerSlot.update.injEq] at same
      exact ⟨c, rfl, error, same.2, same.1 ▸ found⟩

theorem emptied_error (emptied : r.emptiedBy s = some (.error o i)) :
    ∃ c, s = .property c ∧ c.error = true ∧ c.index = i ∧ r.get (r.heap c.path).path = some o := by
  cases s with
  | refresh => cases emptied
  | property c =>
    obtain ⟨o', found, same⟩ := Option.map_eq_some_iff.mp emptied
    cases error : c.error with
    | false => simp [error] at same
    | true =>
      simp only [error, ↓reduceIte, TimerSlot.error.injEq] at same
      exact ⟨c, rfl, error, same.2, same.1 ▸ found⟩

theorem slot_update (own : s.slot = .update o i) :
    ∃ c, s = .property c ∧ c.error = false ∧ c.path = o ∧ c.index = i := by
  cases s with
  | refresh => cases own
  | property c =>
    cases error : c.error with
    | true => simp [Source.slot, error] at own
    | false =>
      simp only [Source.slot, error, Bool.false_eq_true, ↓reduceIte, TimerSlot.update.injEq] at own
      exact ⟨c, rfl, error, own⟩

theorem slot_error (own : s.slot = .error o i) :
    ∃ c, s = .property c ∧ c.error = true ∧ c.path = o ∧ c.name = i := by
  cases s with
  | refresh => cases own
  | property c =>
    cases error : c.error with
    | false => simp [Source.slot, error] at own
    | true =>
      simp only [Source.slot, error, ↓reduceIte, TimerSlot.error.injEq] at own
      exact ⟨c, rfl, error, own⟩

/-! ## Update slots -/

/-- An update timer finds its object and empties its own slot, so update slots
stay exact whatever is removed. -/
theorem Updates.sourceRemove [DecidableEq ι] [PropertyIndex ι]
    (updates : Updates r) (recorded : Recorded r) (held : Held r) (id : Nat) :
    Updates (r.sourceRemove id) := by
  intro o i
  refine (updates o i).sourceRemove (fun s found own => ?_) fun s found other emptied => ?_
  · have live := (updates o i).live recorded found own
    obtain ⟨c, rfl, error, rfl, rfl⟩ := slot_update own
    exact (emptied_of_found (held c.path live).2).trans (by simp [error])
  · obtain ⟨c, rfl, error, rfl, there⟩ := emptied_update emptied
    have own : (Source.property c).slot = .update c.path c.index := by simp [Source.slot, error]
    have live := (updates c.path c.index).live recorded found own
    rw [(held c.path live).2] at there
    cases there
    exact absurd own other

theorem Updates.removeSlot [DecidableEq ι] [PropertyIndex ι]
    (updates : Updates r) (recorded : Recorded r) (held : Held r)
    (k : TimerSlot ι) : Updates (r.removeSlot k) := by
  unfold Registry.removeSlot
  split
  · exact updates.sourceRemove recorded held _
  · exact updates

theorem Updates.propertyUpdate [DecidableEq ι] [PropertyIndex ι]
    (updates : Updates r) (recorded : Recorded r) (held : Held r)
    (o : ObjId) (i : ι) : Updates (r.propertyUpdate o i) := by
  rw [propertyUpdate_eq]
  split
  · exact updates
  · intro o' i'
    by_cases here : TimerSlot.update o i = .update o' i'
    · rw [← here]
      exact (updates o i).replace rfl rfl
    · exact (updates.removeSlot recorded held (.update o i) o' i').attach_other here here

theorem Updates.attach_error [DecidableEq ι] (updates : Updates r) (error : c.error = true) (i : ι) :
    Updates (r.attachChange c i) :=
  fun o' i' => (updates o' i').attach_other (by simp [Source.slot, error]) (by simp [attachSlot, error])

theorem Updates.scheduleRefresh [DecidableEq ι] [PropertyIndex ι]
    (updates : Updates r) (recorded : Recorded r) (held : Held r) :
    Updates r.scheduleRefresh := by
  intro o i
  have removed := updates.removeSlot recorded held .refresh o i
  unfold Exact
  exact Pool.Tracks.attach_other removed (if_neg nofun)

theorem Updates.refreshDone [DecidableEq ι] (updates : Updates r) (due : r.sources.find id = some .refresh) :
    Updates (r.refreshDone id) := by
  intro o i
  refine (updates o i).detach_other fun s found => ?_
  rw [due] at found
  cases found
  exact if_neg nofun

theorem Updates.setPropertyCb [DecidableEq ι] [PropertyIndex ι]
    (updates : Updates r) (recorded : Recorded r) (held : Held r)
    (o : ObjId) (i : ι) (failed : Bool) : Updates (setPropertyCb r o i failed) := by
  have same := emptyCall_sameTimers r o i
  have place : SamePlace r (r.emptyCall o i) := modify_place rfl
  have emptied := updates.same same
  rw [setPropertyCb_eq]
  split
  · exact emptied
  · split
    · have removed := emptied.removeSlot (recorded.same same fun _ alive => alive) (held.place place)
        (.error o i)
      exact removed.attach_error rfl i
    · exact emptied

/-! ## Error slots -/

/-- Error slots stay exact if an error timer that is removed finds its object
and empties its own slot there. -/
theorem Errors.sourceRemove [DecidableEq ι] (errors : Errors r)
    (proper : ∀ c, r.sources.find id = some (.property c) → c.error = true →
      c.name = c.index ∧ r.get (r.heap c.path).path = some c.path) : Errors (r.sourceRemove id) := by
  intro o i
  refine (errors o i).sourceRemove (fun s found own => ?_) fun s found other emptied => ?_
  · obtain ⟨c, rfl, error, rfl, rfl⟩ := slot_error own
    obtain ⟨named, there⟩ := proper c found error
    rw [named]
    exact (emptied_of_found there).trans (by simp [error])
  · obtain ⟨c, rfl, error, rfl, there⟩ := emptied_error emptied
    obtain ⟨named, here⟩ := proper c found error
    rw [here] at there
    cases there
    exact absurd (by simp [Source.slot, error, named]) other

/-- The timer in an update slot or in the refresh slot is no error timer. -/
theorem Errors.removeSlot [DecidableEq ι] [PropertyIndex ι] (errors : Errors r) (recorded : Recorded r)
    (kind : ∀ o i, k ≠ .error o i) : Errors (r.removeSlot k) := by
  unfold Registry.removeSlot
  split
  · intro o i
    refine (errors o i).sourceRemove (fun s found own => ?_) fun s found _ emptied => ?_
    · exact absurd ((recorded.records.own k s found).symm.trans own) (kind o i)
    · obtain ⟨c, rfl, error, _, _⟩ := emptied_error emptied
      have own := recorded.records.own k _ found
      simp only [Source.slot, error, ↓reduceIte] at own
      exact absurd own.symm (kind _ _)
  · exact errors

theorem Errors.propertyUpdate [DecidableEq ι] [PropertyIndex ι]
    (errors : Errors r) (recorded : Recorded r) (o : ObjId) (i : ι) :
    Errors (r.propertyUpdate o i) := by
  rw [propertyUpdate_eq]
  split
  · exact errors
  · intro o' i'
    have removed := errors.removeSlot recorded (k := .update o i) nofun o' i'
    exact removed.attach_other nofun nofun

theorem Errors.scheduleRefresh [DecidableEq ι] [PropertyIndex ι] (errors : Errors r) (recorded : Recorded r) :
    Errors r.scheduleRefresh := by
  intro o i
  have removed := errors.removeSlot recorded (k := .refresh) nofun o i
  unfold Exact
  exact Pool.Tracks.attach_other removed (if_neg nofun)

theorem Errors.refreshDone [DecidableEq ι] (errors : Errors r) (due : r.sources.find id = some .refresh) :
    Errors (r.refreshDone id) := by
  intro o i
  refine (errors o i).detach_other fun s found => ?_
  rw [due] at found
  cases found
  exact if_neg nofun

/-- The old timer of a property that fails again empties the zero enumerator's
slot of the object it finds: that must be its own, or empty already. -/
theorem Errors.setPropertyCb [DecidableEq ι] [PropertyIndex ι]
    (errors : Errors r) (recorded : Recorded r) (o : ObjId) (i : ι)
    (failed : Bool)
    (fine : failed = true → (r.heap o).propertySetErrorCb ≠ none → (r.heap o).toError i ≠ 0 →
      ∀ o', r.get (r.heap o).path = some o' →
        o' = o ∧ i = PropertyIndex.zero ∨ (r.heap o').toError PropertyIndex.zero = 0) :
    Errors (setPropertyCb r o i failed) := by
  have same := emptyCall_sameTimers r o i
  have place : SamePlace r (r.emptyCall o i) := modify_place rfl
  have kept : ∀ o' i', (r.emptyCall o i).timerSlot (.error o' i') = r.timerSlot (.error o' i') :=
    fun o' i' => (same.slots _).resolve_right nofun
  have emptied := errors.same same
  rw [setPropertyCb_eq]
  split
  · exact emptied
  case h_2 cb registered =>
    split
    case isFalse => exact emptied
    case isTrue failed =>
      intro o' i'
      by_cases here : TimerSlot.error o i = .error o' i'
      · rw [← here]
        exact (emptied o i).replace rfl rfl
      · refine Exact.attach_other ?_ here here
        have recorded' := recorded.same same fun _ alive => alive
        unfold Registry.removeSlot
        split
        case isFalse => exact emptied o' i'
        case isTrue used =>
          refine (emptied o' i').sourceRemove (fun s found own => ?_) fun s found _ hit => ?_
          · exact absurd ((recorded'.records.own _ s found).symm.trans own) here
          · -- the destroyed timer names `i` but empties the slot of the zero enumerator
            have own := recorded'.records.own _ s found
            obtain ⟨c, rfl, error, rfl, there⟩ := emptied_error hit
            obtain ⟨_, same', _, rfl, rfl⟩ := slot_error own
            cases same'
            have formed := recorded'.formed _ c found
            unfold PropertyChange.Formed at formed
            rw [if_pos error] at formed
            rw [place.get, place.path] at there
            rw [kept] at used
            rcases fine failed (by simp [registered]) used o' there with ⟨rfl, top⟩ | clear
            · exact absurd (by rw [formed, top]) here
            · rw [formed]
              exact (kept _ _).trans clear

end Registry

end ConnmanUi
