import ConnmanUi.RegistrySteps

/-!
Changed properties are passed on.

The log says when a signal changed a property of an object with a callback,
when a timer fired and when a callback was invoked.  `Announced` holds of every
run that orphans nothing: since the last change either a timer is pending, or
one has fired and the callback registered at that time was invoked.  Most
operations only let the log grow and keep the timers pending (`Grows`); a
signal, a timer that fires and one that is over are looked at one by one.
-/

namespace ConnmanUi.Registry

variable {ι ρ : Type} {r r' r'' : Registry ι ρ}
  {o o' : ObjId} {i i' : ι} {path : String} {k : TimerSlot ι} {id : Nat} {c : PropertyChange ι}
  {s : Source ι} {a : Act}

/-- `later` tells that a timer for the property fired, and that the callback
registered then was invoked. -/
def Told (later : List (Note ι)) (o : ObjId) (path : String) (i : ι) : Prop :=
  ∃ newer older reg, later = newer ++ .fired o i reg :: older ∧
    ∀ cb, reg = some cb → .changedCb cb path i ∈ newer

theorem Told.append {later : List (Note ι)} (told : Told later o path i) (newest : List (Note ι)) :
    Told (newest ++ later) o path i := by
  obtain ⟨newer, older, reg, rfl, invoked⟩ := told
  refine ⟨newest ++ newer, older, reg, by rw [List.append_assoc], fun cb registered => ?_⟩
  exact List.mem_append_right newest (invoked cb registered)

/-- Every change of a property is pending or was passed on. -/
structure Announced (r : Registry ι ρ) : Prop where
  known : ∀ o i, .changed o i ∈ r.log → o < r.next
  told : ∀ o i, r.Live o → ∀ later earlier, r.log = later ++ .changed o i :: earlier →
    (r.heap o).toUpdate i ≠ 0 ∨ Told later o (r.heap o).path i
  /-- The timer whose callback is running has passed its property on. -/
  running : ∀ id c, r.dispatching = some (id, c) → c.error = false → r.Live c.path →
    ∀ later earlier, r.log = later ++ .changed c.path c.index :: earlier →
      Told later c.path (r.heap c.path).path c.index

/-! ## Letting the log grow -/

/-- `r'` has logged no change since `r`, and keeps the timers pending for the
objects there were. -/
structure Grows (r r' : Registry ι ρ) : Prop where
  log : ∃ extra, r'.log = extra ++ r.log ∧ ∀ n ∈ extra, n.Plain
  next : r.next ≤ r'.next
  live : ∀ o, o < r.next → r'.Live o → r.Live o ∧ (r'.heap o).path = (r.heap o).path
  slots : ∀ o i, o < r.next → r'.Live o → (r.heap o).toUpdate i ≠ 0 → (r'.heap o).toUpdate i ≠ 0

theorem Grows.trans (first : Grows r r') (rest : Grows r' r'') : Grows r r'' where
  log := by
    obtain ⟨extra, log, plain⟩ := first.log
    obtain ⟨extra', log', plain'⟩ := rest.log
    refine ⟨extra' ++ extra, by rw [log', log, List.append_assoc], fun n mem => ?_⟩
    exact (List.mem_append.mp mem).elim (plain' n) (plain n)
  next := first.next.trans rest.next
  live o old alive := by
    obtain ⟨alive', path'⟩ := rest.live o (Nat.lt_of_lt_of_le old first.next) alive
    obtain ⟨alive'', path⟩ := first.live o old alive'
    exact ⟨alive'', path'.trans path⟩
  slots o i old alive used := by
    have old' := Nat.lt_of_lt_of_le old first.next
    exact rest.slots o i old' alive (first.slots o i old (rest.live o old' alive).1 used)

/-- What was logged before a change that is not among the newest notes. -/
theorem split_log {extra later earlier log : List (Note ι)} (plain : ∀ n ∈ extra, n.Plain)
    (split : extra ++ log = later ++ .changed o i :: earlier) :
    ∃ later', later = extra ++ later' ∧ log = later' ++ .changed o i :: earlier := by
  rcases List.append_eq_append_iff.mp split with ⟨later', eq, rest⟩ | ⟨tail, eq, rest⟩
  · exact ⟨later', eq, rest⟩
  · cases tail with
    | nil => exact ⟨[], by simpa using eq.symm, by simpa using rest.symm⟩
    | cons n tail =>
      cases rest
      exact absurd rfl (plain (.changed o i) (by simp [eq]) o i)

theorem Grows.known (grows : Grows r r') (announced : Announced r) (mem : .changed o i ∈ r'.log) :
    o < r'.next := by
  obtain ⟨extra, log, plain⟩ := grows.log
  rw [log] at mem
  rcases List.mem_append.mp mem with new | old
  · exact absurd rfl (plain _ new o i)
  · exact Nat.lt_of_lt_of_le (announced.known o i old) grows.next

theorem Grows.told (grows : Grows r r') (announced : Announced r) (live : r'.Live o)
    {later earlier : List (Note ι)} (split : r'.log = later ++ .changed o i :: earlier) :
    (r'.heap o).toUpdate i ≠ 0 ∨ Told later o (r'.heap o).path i := by
  obtain ⟨extra, log, plain⟩ := grows.log
  rw [log] at split
  obtain ⟨later', rfl, before⟩ := split_log plain split
  have old := announced.known o i (by simp [before])
  obtain ⟨alive, path⟩ := grows.live o old live
  rw [path]
  refine (announced.told o i alive later' earlier before).imp (grows.slots o i old live) fun told => ?_
  exact told.append extra

/-- What only lets the log grow keeps every change announced. -/
theorem Announced.grows (announced : Announced r) (grows : Grows r r')
    (dispatching : r'.dispatching = r.dispatching) : Announced r' where
  known _ _ := grows.known announced
  told _ _ live _ _ := grows.told announced live
  running id c running error live later earlier split := by
    obtain ⟨extra, log, plain⟩ := grows.log
    rw [log] at split
    obtain ⟨later', rfl, before⟩ := split_log plain split
    obtain ⟨alive, path⟩ := grows.live c.path (announced.known _ c.index (by simp [before])) live
    rw [path]
    exact (announced.running id c (dispatching ▸ running) error alive later' earlier before).append extra

/-! ## Operations that say nothing -/

/-- `r'` has the log and the running timer of `r`. -/
structure Hushed (r r' : Registry ι ρ) : Prop where
  log : r'.log = r.log
  dispatching : r'.dispatching = r.dispatching

theorem Hushed.refl (r : Registry ι ρ) : Hushed r r := ⟨rfl, rfl⟩

theorem Hushed.trans (first : Hushed r r') (rest : Hushed r' r'') : Hushed r r'' :=
  ⟨rest.log.trans first.log, rest.dispatching.trans first.dispatching⟩

theorem sourceRemove_hushed [DecidableEq ι] (r : Registry ι ρ) (id : Nat) : Hushed r (r.sourceRemove id) := by
  unfold Registry.sourceRemove
  split
  · exact ⟨rfl, rfl⟩
  case h_2 s _ =>
    cases s with
    | refresh => exact ⟨rfl, rfl⟩
    | property c =>
      unfold destroyNotify Registry.destroyProperty
      dsimp only
      split
      · exact ⟨rfl, rfl⟩
      · split
        · exact ⟨rfl, rfl⟩
        · exact ⟨rfl, rfl⟩

theorem removeSlot_hushed [DecidableEq ι] (r : Registry ι ρ) (k : TimerSlot ι) : Hushed r (r.removeSlot k) := by
  unfold Registry.removeSlot
  split
  · exact sourceRemove_hushed r _
  · exact .refl r

theorem attachChange_hushed [DecidableEq ι] (r : Registry ι ρ) (c : PropertyChange ι) (i : ι) :
    Hushed r (r.attachChange c i) := by
  unfold Registry.attachChange
  dsimp only
  split
  · exact ⟨rfl, rfl⟩
  · exact ⟨rfl, rfl⟩

theorem propertyUpdate_hushed [DecidableEq ι] (r : Registry ι ρ) (o : ObjId) (i : ι) :
    Hushed r (r.propertyUpdate o i) := by
  rw [propertyUpdate_eq]
  split
  · exact .refl r
  · exact (removeSlot_hushed r _).trans (attachChange_hushed _ _ i)

theorem setPropertyCb_hushed [DecidableEq ι] [PropertyIndex ι]
    (r : Registry ι ρ) (o : ObjId) (i : ι) (failed : Bool) :
    Hushed r (setPropertyCb r o i failed) := by
  have emptied : Hushed r (r.emptyCall o i) := ⟨rfl, rfl⟩
  rw [setPropertyCb_eq]
  split
  · exact emptied
  · split
    · exact emptied.trans ((removeSlot_hushed _ _).trans (attachChange_hushed _ _ i))
    · exact emptied

theorem sendSetProperty_hushed [DecidableEq ι]
    (outcome : SendOutcome) : Hushed r (r.sendSetProperty o i outcome).1 := by
  unfold Registry.sendSetProperty
  split
  · exact .refl r
  · cases outcome <;> exact ⟨rfl, rfl⟩

theorem sendScan_hushed (callback : Option Callback) (outcome : SendOutcome) :
    Hushed r (r.sendScan o callback outcome).1 := by
  cases outcome <;> exact ⟨rfl, rfl⟩

theorem objectFree_hushed [DecidableEq ι] [PropertyIndex ι] [Inhabited ρ]
    (r : Registry ι ρ) (o : ObjId) : Hushed r (r.objectFree o) :=
  objectFree_invariant (.refl r) (fun _ k _ hushed => hushed.trans (removeSlot_hushed _ k))
    (fun _ _ hushed => ⟨hushed.log, hushed.dispatching⟩) (fun _ _ hushed => ⟨hushed.log, hushed.dispatching⟩)
    (fun _ _ hushed => ⟨hushed.log, hushed.dispatching⟩) (fun _ _ hushed => ⟨hushed.log, hushed.dispatching⟩) o

/-! ## Timers that stay pending -/

/-- Removing a timer empties no update slot but its own. -/
theorem Timed.sourceRemove_slot [DecidableEq ι] [PropertyIndex ι]
    (timed : Timed r) (found : r.sources.find id = some s)
    (other : s.slot ≠ .update o i) :
    (r.sourceRemove id).timerSlot (.update o i) = r.timerSlot (.update o i) := by
  rw [timerSlot_sourceRemove_found found, if_neg]
  intro emptied
  obtain ⟨c, rfl, error, rfl, there⟩ := emptied_update emptied
  have own : (Source.property c).slot = .update c.path c.index := by simp [Source.slot, error]
  have live := (timed.updates c.path c.index).live timed.recorded found own
  rw [(timed.held c.path live).2] at there
  cases there
  exact other own

theorem Timed.removeSlot_slot [DecidableEq ι] [PropertyIndex ι] (timed : Timed r) (other : k ≠ .update o i) :
    (r.removeSlot k).timerSlot (.update o i) = r.timerSlot (.update o i) := by
  unfold Registry.removeSlot
  split
  case isFalse => rfl
  case isTrue =>
    cases found : r.sources.find (r.timerSlot k) with
    | none =>
      rw [sourceRemove_none found]
      rfl
    | some s =>
      have own := timed.recorded.records.own k s found
      exact timed.sourceRemove_slot found (own ▸ other)

/-- A property update leaves a timer pending for the property, if the object
has a callback, and keeps the others. -/
theorem Timed.propertyUpdate_slot [DecidableEq ι] [PropertyIndex ι] (timed : Timed r) (o : ObjId) (i : ι) :
    ((r.heap o).propertyChangedCb ≠ none → (r.propertyUpdate o i).timerSlot (.update o i) ≠ 0) ∧
      ∀ o' i', r.timerSlot (.update o' i') ≠ 0 →
        (r.propertyUpdate o i).timerSlot (.update o' i') ≠ 0 := by
  rw [propertyUpdate_eq]
  split
  case h_1 unregistered => exact ⟨fun registered => absurd unregistered registered, fun _ _ used => used⟩
  case h_2 =>
    rw [timerSlot_attachChange, attachSlot_updateChange]
    refine ⟨fun _ => ?_, fun o' i' used => ?_⟩
    · rw [Function.update_self]
      exact Pool.fresh_ne_zero _
    · by_cases same : TimerSlot.update o' i' = .update o i
      · rw [same, Function.update_self]
        exact Pool.fresh_ne_zero _
      · rw [Function.update_of_ne same, timed.removeSlot_slot (Ne.symm same)]
        exact used

theorem grows_of_place (place : SamePlace r r') (log : ∃ extra, r'.log = extra ++ r.log ∧ ∀ n ∈ extra, n.Plain)
    (slots : ∀ o i, r.timerSlot (.update o i) ≠ 0 → r'.timerSlot (.update o i) ≠ 0) : Grows r r' where
  log := log
  next := place.next.ge
  live o _ alive := ⟨(place.live o).mp alive, place.path o⟩
  slots o i _ _ used := slots o i used

theorem grows_of_sameTimers (place : SamePlace r r') (same : SameTimers r r')
    (log : ∃ extra, r'.log = extra ++ r.log ∧ ∀ n ∈ extra, n.Plain) : Grows r r' := by
  refine grows_of_place place log fun o i used => ?_
  rw [(same.slots (.update o i)).resolve_right nofun]
  exact used

theorem Hushed.extra (hushed : Hushed r r') : ∃ extra, r'.log = extra ++ r.log ∧ ∀ n ∈ extra, n.Plain :=
  ⟨[], hushed.log, by simp⟩

theorem Timed.propertyUpdate_grows [DecidableEq ι] [PropertyIndex ι] (timed : Timed r) (o : ObjId) (i : ι) :
    Grows r (r.propertyUpdate o i) :=
  grows_of_place (propertyUpdate_upkeep r o i).toSameObjects.place (propertyUpdate_hushed r o i).extra
    (timed.propertyUpdate_slot o i).2

/-- A reply to a SetProperty leaves the update timers alone. -/
theorem Timed.setPropertyCb_grows [DecidableEq ι] [PropertyIndex ι]
    (timed : Timed r) (o : ObjId) (i : ι) (failed : Bool) :
    Grows r (setPropertyCb r o i failed) := by
  refine grows_of_place (setPropertyCb_place failed) (setPropertyCb_hushed r o i failed).extra
    fun o' i' used => ?_
  have same := emptyCall_sameTimers r o i
  have kept : (r.emptyCall o i).timerSlot (.update o' i') = r.timerSlot (.update o' i') :=
    (same.slots _).resolve_right nofun
  have timed' := timed.same same (modify_place rfl)
  rw [setPropertyCb_eq]
  split
  · exact kept ▸ used
  · split
    · have other : TimerSlot.error o i ≠ .update o' i' := nofun
      rw [timerSlot_attachChange, attachSlot_errorChange, Function.update_of_ne other.symm,
        timed'.removeSlot_slot other, kept]
      exact used
    · exact kept ▸ used

/-- Freeing an object that is not found leaves the timers of the others. -/
theorem objectFree_grows [DecidableEq ι] [PropertyIndex ι] [Inhabited ρ]
    (recorded : Recorded r) (gone : r.get (r.heap o).path = none) :
    Grows r (r.objectFree o) where
  log := (objectFree_hushed r o).extra
  next := by
    unfold Registry.objectFree
    split
    · exact Nat.le_refl _
    · exact ((releaseHandles_spec o r).1.next).ge
  live o' _ alive := by
    obtain ⟨alive', other⟩ := (objectFree_live r o o').mp alive
    exact ⟨alive', path_objectFree other⟩
  slots o' i _ alive used := by
    obtain ⟨_, other⟩ := (objectFree_live r o o').mp alive
    unfold Registry.objectFree
    split
    case isTrue => exact used
    case isFalse unselected =>
      have ne : o' ≠ o := fun same => unselected (other same)
      have freed := (freeSlots_timers recorded gone).1 (.update o' i)
      have scanned := ((cancelScan_sameTimers (r.freeSlots o) o).slots (.update o' i)).resolve_right nofun
      have blanked := timerSlot_storageFree (r.releaseHandles o) o (.update o' i)
      simp only [if_neg ne] at blanked
      exact ne_of_eq_of_ne (blanked.trans (scanned.trans freed)) used

/-! ## Every operation announces -/

section

/-- A signal attaches a timer for the property it changes. -/
theorem Announced.signalled [DecidableEq ι] [PropertyIndex ι]
    (announced : Announced r) (timed : Timed r) (rest : ρ) (live : r.Live o)
    (idle : r.dispatching = none) (registered : (r.heap o).propertyChangedCb ≠ none) :
    Announced (((r.note (.changed o i)).setData o rest (some i)).propertyUpdate o i) := by
  have same : SameTimers r ((r.note (.changed o i)).setData o rest (some i)) :=
    (note_sameTimers r _).trans (setData_sameTimers _ o rest (some i))
  have place : SamePlace r ((r.note (.changed o i)).setData o rest (some i)) :=
    (note_upkeep r (.changed o i)).toSameObjects.place.trans (modify_place rfl)
  have log : ((r.note (.changed o i)).setData o rest (some i)).log = .changed o i :: r.log := rfl
  have registered' :
      (((r.note (.changed o i)).setData o rest (some i)).heap o).propertyChangedCb ≠ none := by
    simpa [setData, heap_modify, note] using registered
  have idle' : ((r.note (.changed o i)).setData o rest (some i)).dispatching = none := idle
  generalize (r.note (.changed o i)).setData o rest (some i) = r₁ at same place log registered' idle' ⊢
  have timed₁ := timed.same same place
  obtain ⟨attached, kept⟩ := timed₁.propertyUpdate_slot o i
  have hushed := propertyUpdate_hushed r₁ o i
  have place' := place.trans (propertyUpdate_upkeep r₁ o i).toSameObjects.place
  refine ⟨fun o' i' mem => ?_, fun o' i' alive later earlier split => ?_, fun id c running => ?_⟩
  · rw [hushed.log, log] at mem
    rw [place'.next]
    rcases List.mem_cons.mp mem with new | old
    · cases new
      exact live.1
    · exact announced.known o' i' old
  · rw [hushed.log, log] at split
    rcases List.cons_eq_append_iff.mp split with ⟨rfl, eq⟩ | ⟨later', rfl, before⟩
    · cases eq
      exact .inl (attached registered')
    · rw [place'.path]
      have told := announced.told o' i' ((place'.live o').mp alive) later' earlier before
      refine told.imp (fun used => ?_) fun told => told.append [.changed o i]
      exact kept o' i' (((same.slots (.update o' i')).resolve_right nofun).symm ▸ used)
  · rw [hushed.dispatching, idle'] at running
    cases running

/-- What the callback of a timer logs. -/
theorem propertyChangedOrError_log (global : Option Callback) (r : Registry ι ρ) (c : PropertyChange ι) :
    ∃ extra, (propertyChangedOrError global r c).log = extra ++ r.log ∧ (∀ n ∈ extra, n.Plain) ∧
      (c.error = false → ∀ o, r.get (r.heap c.path).path = some o → ∀ cb,
        (r.heap o).propertyChangedCb = some cb → .changedCb cb (r.heap c.path).path c.name ∈ extra) := by
  unfold propertyChangedOrError
  dsimp only
  split
  case h_1 absent =>
    refine ⟨[], rfl, by simp, fun _ o there => ?_⟩
    rw [absent] at there
    cases there
  case h_2 o found =>
    split
    case isTrue error =>
      have failed : ¬ c.error = false := by simp [error]
      split
      · exact ⟨[], rfl, by simp, fun changed => absurd changed failed⟩
      · exact ⟨[.errorCb _ _ _], rfl, by simp [Note.Plain], fun changed => absurd changed failed⟩
    case isFalse =>
      have only : ∀ {o'}, r.get (r.heap c.path).path = some o' → o' = o := fun there =>
        Option.some.inj (there.symm.trans found)
      cases global with
      | none =>
        split
        case h_1 unregistered =>
          refine ⟨[], rfl, by simp, fun _ o' there cb registered => ?_⟩
          rw [only there, unregistered] at registered
          cases registered
        case h_2 cb registered =>
          refine ⟨[.changedCb cb _ c.name], rfl, by simp [Note.Plain], fun _ o' there cb' registered' => ?_⟩
          rw [only there, registered] at registered'
          cases registered'
          exact List.mem_cons_self
      | some all =>
        split
        case h_1 unregistered =>
          refine ⟨[.changedCb all _ c.name], rfl, by simp [Note.Plain], fun _ o' there cb registered => ?_⟩
          rw [only there] at registered
          exact absurd (registered.symm.trans unregistered) nofun
        case h_2 cb registered =>
          refine ⟨[.changedCb cb _ c.name, .changedCb all _ c.name], rfl, by simp [Note.Plain],
            fun _ o' there cb' registered' => ?_⟩
          rw [only there] at registered'
          cases registered'.symm.trans registered
          exact List.mem_cons_self

/-- A timer that is due. -/
theorem timerRun_spec {global : Option Callback} (ran : r.timerRun global id = some r') :
    ∃ c, r.sources.find id = some (.property c) ∧
      r' = propertyChangedOrError global
        (if c.error then { r with dispatching := some (id, c) }
          else { r with dispatching := some (id, c) }.note
            (.fired c.path c.index (r.heap c.path).propertyChangedCb)) c := by
  unfold Registry.timerRun at ran
  split at ran
  case h_2 => cases ran
  case h_1 c found => exact ⟨c, found, (Option.some.inj ran).symm⟩

theorem propertyChangedOrError_dispatching (global : Option Callback) (r : Registry ι ρ)
    (c : PropertyChange ι) : (propertyChangedOrError global r c).dispatching = r.dispatching := by
  rw [propertyChangedOrError_frame]

variable [DecidableEq ι] [PropertyIndex ι]

/-- A timer that fires passes its property on to the callback registered. -/
theorem Announced.timerRun {global : Option Callback} (announced : Announced r) (timed : Timed r)
    (ran : r.timerRun global id = some r') : Announced r' := by
  have place := (timerRun_upkeep ran).toSameObjects.place
  have same := timerRun_sameTimers ran
  obtain ⟨c, found, rfl⟩ := timerRun_spec ran
  cases error : c.error with
  | true =>
    simp only [error, ↓reduceIte] at place same ⊢
    obtain ⟨extra, log, plain, _⟩ := propertyChangedOrError_log global { r with dispatching := some (id, c) } c
    have grows := grows_of_sameTimers place same ⟨extra, log, plain⟩
    refine ⟨fun _ _ => grows.known announced, fun _ _ live _ _ => grows.told announced live, ?_⟩
    intro id' c' running error'
    rw [propertyChangedOrError_dispatching] at running
    cases running
    rw [error] at error'
    cases error'
  | false =>
    simp only [error, Bool.false_eq_true, ↓reduceIte] at place same ⊢
    obtain ⟨extra, log, plain, invoked⟩ := propertyChangedOrError_log global
      ({ r with dispatching := some (id, c) }.note
        (.fired c.path c.index (r.heap c.path).propertyChangedCb)) c
    have log' : (propertyChangedOrError global ({ r with dispatching := some (id, c) }.note
        (.fired c.path c.index (r.heap c.path).propertyChangedCb)) c).log =
        (extra ++ [.fired c.path c.index (r.heap c.path).propertyChangedCb]) ++ r.log := by
      rw [log]
      simp [note]
    have plain' : ∀ n ∈ extra ++ [.fired c.path c.index (r.heap c.path).propertyChangedCb], n.Plain := by
      intro n mem
      rcases List.mem_append.mp mem with cb | fired
      · exact plain n cb
      · rw [List.mem_singleton.mp fired]
        exact nofun
    have grows := grows_of_sameTimers place same ⟨_, log', plain'⟩
    refine ⟨fun _ _ => grows.known announced, fun _ _ live _ _ => grows.told announced live, ?_⟩
    intro id' c' running _ live later earlier split
    rw [propertyChangedOrError_dispatching] at running
    cases running
    rw [log'] at split
    obtain ⟨later', rfl, _⟩ := split_log plain' split
    have alive : r.Live c.path := (place.live c.path).mp live
    have there : r.get (r.heap c.path).path = some c.path := (timed.held c.path alive).2
    have named := timed.recorded.formed id c found
    unfold PropertyChange.Formed at named
    simp only [error, Bool.false_eq_true, ↓reduceIte] at named
    refine ⟨extra, later', (r.heap c.path).propertyChangedCb, by simp, fun cb registered => ?_⟩
    rw [place.path, ← named]
    exact invoked error c.path there cb registered

/-- A timer that is over has passed its property on. -/
theorem Announced.timerDone (announced : Announced r) (timed : Timed r)
    (ran : r.timerDone = some r') : Announced r' := by
  have place := (timerDone_upkeep ran).toSameObjects.place
  rw [timerDone_eq] at ran
  obtain ⟨⟨id, c⟩, running, rfl⟩ := Option.map_eq_some_iff.mp ran
  have idle := idle_sameTimers r
  have idlePlace : SamePlace r { r with dispatching := none } := ⟨rfl, rfl, rfl, rfl, fun _ => rfl⟩
  have timed' := timed.same idle idlePlace
  have idled : Announced { r with dispatching := none } :=
    ⟨announced.known, announced.told, nofun⟩
  dsimp only at place ⊢
  split
  case isFalse => exact idled
  case isTrue pending =>
    rw [if_pos pending] at place
    have hushed := sourceRemove_hushed { r with dispatching := none } id
    refine ⟨fun o i mem => ?_, fun o i alive later earlier split => ?_, fun id' c' running' => ?_⟩
    · rw [hushed.log] at mem
      rw [place.next]
      exact announced.known o i mem
    · rw [hushed.log] at split
      rw [place.path]
      have alive : r.Live o := (place.live o).mp alive
      by_cases own : (Source.property c).slot = .update o i
      · obtain ⟨_, same, error, rfl, rfl⟩ := slot_update own
        cases same
        exact .inr (announced.running id c running error alive later earlier split)
      · refine (announced.told o i alive later earlier split).imp_left fun used => ?_
        have kept := timed'.sourceRemove_slot pending own
        exact ne_of_eq_of_ne kept used
    · rw [hushed.dispatching] at running'
      cases running'

theorem QuietOp.announced (op : QuietOp r r') (timed : Timed r) (announced : Announced r) : Announced r' := by
  have quiet : ∀ {r' : Registry ι ρ}, QuietOp r r' → SameTimers r r' → Hushed r r' → Announced r' :=
    fun op same hushed => announced.grows (grows_of_sameTimers op.place same hushed.extra) hushed.dispatching
  cases op with
  | noted n plain =>
    refine announced.grows (grows_of_sameTimers (QuietOp.noted n plain).place (note_sameTimers r n) ?_) rfl
    exact ⟨[n], rfl, by simpa using plain⟩
  | data o rest index => exact quiet (.data o rest index) (setData_sameTimers r o rest index) ⟨rfl, rfl⟩
  | callbacks o changed error =>
    exact quiet (.callbacks o changed error) (setCallbacks_sameTimers r o changed error) ⟨rfl, rfl⟩
  | updated o i =>
    exact announced.grows (timed.propertyUpdate_grows o i) (propertyUpdate_hushed r o i).dispatching
  | signalled o i rest live idle registered => exact announced.signalled timed rest live idle registered
  | sent o i outcome live =>
    exact quiet (.sent o i outcome live) (sendSetProperty_sameTimers r o i outcome) (sendSetProperty_hushed outcome)
  | timerRun global id idle ran => exact announced.timerRun timed ran
  | refreshForgotten => exact quiet .refreshForgotten (refreshForgotten_sameTimers r) ⟨rfl, rfl⟩
  | scanned o callback outcome live =>
    exact quiet (.scanned o callback outcome live) (sendScan_sameTimers r o callback outcome)
      (sendScan_hushed callback outcome)
  | scanReplied call ran =>
    have place := (QuietOp.scanReplied call ran).place
    have same := scanCallback_sameTimers ran
    unfold Registry.scanCallback at ran
    split at ran
    case h_2 => cases ran
    case h_1 =>
      dsimp only at ran
      split at ran
      · cases ran
        exact announced.grows (grows_of_sameTimers place same ⟨[], rfl, by simp⟩) rfl
      · cases ran
        exact announced.grows (grows_of_sameTimers place same ⟨[.scanCb _], rfl, by simp [Note.Plain]⟩) rfl

/-- Removing objects leaves the timers of the others pending. -/
theorem Timed.removal_grows [Inhabited ρ] (timed : Timed r) (owned : Owned r) (path : String) :
    (Grows r (r.hashRemove objectFree path) ∧ (r.hashRemove objectFree path).dispatching = r.dispatching) ∧
      (Grows r (r.hashRemoveAll objectFree) ∧ (r.hashRemoveAll objectFree).dispatching = r.dispatching) ∧
      (Grows r r.deselect ∧ r.deselect.dispatching = r.dispatching) := by
  have gone := removal_invariant
    (I := fun r₁ => Recorded r₁ ∧ Grows r r₁ ∧ r₁.dispatching = r.dispatching) owned
    ⟨timed.recorded, ⟨⟨[], rfl, by simp⟩, Nat.le_refl _, fun _ _ alive => ⟨alive, rfl⟩,
      fun _ _ _ _ used => used⟩, rfl⟩
    (fun r table inv => ⟨inv.1.same (table_sameTimers r table) fun _ alive => alive,
      ⟨inv.2.1.log, inv.2.1.next, inv.2.1.live, inv.2.1.slots⟩, inv.2.2⟩)
    (fun r inv => ⟨inv.1.same (selected_sameTimers r none) fun _ alive => alive,
      ⟨inv.2.1.log, inv.2.1.next, inv.2.1.live, inv.2.1.slots⟩, inv.2.2⟩)
    (fun r o inv gone => ⟨inv.1.objectFree o, inv.2.1.trans (objectFree_grows inv.1 gone),
      (objectFree_hushed r o).dispatching.trans inv.2.2⟩) path
  exact ⟨gone.1.2, gone.2.1.2, gone.2.2.2⟩

theorem Timed.create_grows [Inhabited ρ]
    (timed : Timed r) (owned : Owned r) (path : String) : Grows r (r.create path) := by
  have same := create_sameTimers timed.recorded path
  refine ⟨⟨[], rfl, by simp⟩, Nat.le_succ _, ?_, ?_⟩
  · intro o old alive
    have live : r.Live o := ((live_create owned path o).mp alive).resolve_right (Nat.ne_of_lt old)
    exact ⟨live, by rw [heap_create_of_live path live]⟩
  · intro o i old alive used
    have kept := (same.slots (.update o i)).resolve_right nofun
    exact ne_of_eq_of_ne kept used

theorem Announced.op [Inhabited ρ] (announced : Announced r) (timed : Timed r) (owned : Owned r) (op : Op r r') :
    Announced r' := by
  cases op with
  | quiet op => exact op.announced timed announced
  | created path => exact announced.grows (timed.create_grows owned path) rfl
  | removed path =>
    obtain ⟨grows, dispatching⟩ := (timed.removal_grows owned path).1
    exact announced.grows grows dispatching
  | removedAll =>
    obtain ⟨grows, dispatching⟩ := (timed.removal_grows owned "").2.1
    exact announced.grows grows dispatching
  | deselected =>
    obtain ⟨grows, dispatching⟩ := (timed.removal_grows owned "").2.2
    exact announced.grows grows dispatching

theorem Timed.setPropertyReply_grows {call : Nat} {failed : Bool} (timed : Timed r)
    (ran : r.setPropertyReply call failed = some r') : Grows r r' := by
  obtain ⟨o, i, _, rfl⟩ := setPropertyReply_eq ran
  have same := calls_sameTimers r (r.calls.detach call)
  have place := samePlace_of_calls r (r.calls.detach call)
  have detached := grows_of_sameTimers place same ⟨[], rfl, by simp⟩
  exact detached.trans ((timed.same same place).setPropertyCb_grows o i failed)

theorem Announced.acts (announced : Announced r) (timed : Timed r) (acts : Acts r a r') :
    Announced r' := by
  cases acts with
  | replied call failed ran =>
    have grows := timed.setPropertyReply_grows ran
    obtain ⟨o, i, _, rfl⟩ := setPropertyReply_eq ran
    exact announced.grows grows (setPropertyCb_hushed _ o i failed).dispatching
  | timerDone ran => exact announced.timerDone timed ran
  | refreshDone id =>
    have grows : Grows r (r.refreshDone id) :=
      ⟨⟨[], rfl, by simp⟩, Nat.le_refl _, fun _ _ alive => ⟨alive, rfl⟩, fun _ _ _ _ used => used⟩
    exact announced.grows grows rfl

theorem Timed.scheduleRefresh_grows (timed : Timed r) : Grows r r.scheduleRefresh :=
  grows_of_place (scheduleRefresh_sameObjects r).1.place ⟨[], (removeSlot_hushed r .refresh).log, by simp⟩
    fun o i used => ne_of_eq_of_ne (timed.removeSlot_slot (k := .refresh) nofun) used

theorem Announced.scheduleRefresh (announced : Announced r) (timed : Timed r) :
    Announced r.scheduleRefresh :=
  announced.grows timed.scheduleRefresh_grows (removeSlot_hushed r .refresh).dispatching

/-- What a step keeps of update timers and notifications. -/
theorem Announced.change [Inhabited ρ] (announced : Announced r) (timed : Timed r) (owned : Owned r)
    (change : Change r a r') : Announced r' :=
  (change.invariant (I := fun r => Timed r ∧ Announced r) owned ⟨timed, announced⟩
    (fun _ _ owned inv op => ⟨inv.1.op owned op, inv.2.op inv.1 owned op⟩)
    (fun _ owned inv acts => ⟨inv.1.acts owned acts, inv.2.acts inv.1 acts⟩)
    fun _ _ inv _ => ⟨inv.1.scheduleRefresh, inv.2.scheduleRefresh inv.1⟩).2.2

end

/-! ## Bookkeeping -/

/-- The update timers pending for a property of an object. -/
def PendingUpdate (r : Registry ι ρ) (o : ObjId) (i : ι) (id : Nat) : Prop :=
  ∃ c, r.sources.find id = some (.property c) ∧ c.error = false ∧ c.path = o ∧ c.index = i

/-- An update slot is nonzero exactly while one update timer for its object and
property is pending, whose id it holds; no such timer outlives the object; and
a changed property is pending or was passed on since. -/
structure UpdatesBooked (r : Registry ι ρ) : Prop where
  slot : ∀ o i, (r.heap o).toUpdate i ≠ 0 ↔ ∃! id, r.PendingUpdate o i id
  id : ∀ o i id, r.PendingUpdate o i id → (r.heap o).toUpdate i = id
  live : ∀ o i id, r.PendingUpdate o i id → r.Live o
  notified : ∀ o i, r.Live o → ∀ later earlier, r.log = later ++ .changed o i :: earlier →
    (∃ id, r.PendingUpdate o i id) ∨ Told later o (r.heap o).path i

theorem Announced.booked [DecidableEq ι] [PropertyIndex ι]
    (announced : Announced r) (timed : Timed r) : UpdatesBooked r := by
  have own : ∀ {c : PropertyChange ι}, c.error = false →
      (Source.property c).slot = .update c.path c.index := fun error => by simp [Source.slot, error]
  have stored : ∀ o i id, r.PendingUpdate o i id → (r.heap o).toUpdate i = id := by
    rintro _ _ id ⟨c, found, error, rfl, rfl⟩
    exact (timed.updates c.path c.index).id_eq found (own error)
  have pending : ∀ o i, (r.heap o).toUpdate i ≠ 0 → ∃ id, r.PendingUpdate o i id := by
    intro o i used
    obtain ⟨s, found, slot⟩ := (timed.updates o i).filled used
    obtain ⟨c, rfl, error, path, index⟩ := slot_update slot
    exact ⟨_, c, found, error, path, index⟩
  refine ⟨fun o i => ⟨fun used => ?_, ?_⟩, stored, ?_, fun o i live later earlier split => ?_⟩
  · obtain ⟨id, there⟩ := pending o i used
    exact ⟨id, there, fun id' there' => (stored o i id' there').symm.trans (stored o i id there)⟩
  · rintro ⟨id, there, _⟩
    rw [stored o i id there]
    obtain ⟨c, found, _⟩ := there
    exact Pool.ne_zero_of_find found
  · rintro _ _ id ⟨c, found, error, rfl, rfl⟩
    exact (timed.updates c.path c.index).live timed.recorded found (own error)
  · exact (announced.told o i live later earlier split).imp_left (pending o i)

end ConnmanUi.Registry
