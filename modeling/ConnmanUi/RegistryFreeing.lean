import ConnmanUi.RegistryBookkeeping

/-!
The timers of an object that is freed.

An object is freed when nothing finds it any more (`removal_invariant`), so the
destroy functions that run meanwhile leave its slots, and every other slot,
alone: freeing releases the ids the object's slots hold, and exactly these
(`freeSlots_timers`).  Where the slots are exact, no timer of the object is
left, and nothing was removed that was not pending.
-/

namespace ConnmanUi

theorem Pool.releaseAll_append {α : Type} (p : Pool α) (first rest : List Nat) :
    p.releaseAll (first ++ rest) = (p.releaseAll first).releaseAll rest := List.foldl_append ..

namespace Registry

variable {ι ρ : Type} {r r' : Registry ι ρ}
  {o o' : ObjId} {i j : ι} {k l : TimerSlot ι} {id : Nat} {c : PropertyChange ι} {s : Source ι}

/-! ## Who is freed -/

section

variable [DecidableEq ι] [PropertyIndex ι] [Inhabited ρ]

theorem get_objectFree (r : Registry ι ρ) (o : ObjId) (path : String)
    (absent : r.get path = none) :
    (r.objectFree o).get path = none := by
  unfold Registry.get at absent ⊢
  rw [objectFree_table, objectFree_selected]
  cases entry : r.table.lookup path with
  | some o' => simp [entry] at absent
  | none =>
    cases sel : r.selected with
    | none => rfl
    | some o' =>
      have kept : ((r.objectFree o).heap o').path = (r.heap o').path :=
        path_objectFree fun same => same ▸ sel
      simpa [entry, sel, kept] using absent

/-- What each part of freeing an object keeps, `service_free` and
`technology_free` keep. -/
theorem objectFree_invariant {I : Registry ι ρ → Prop} (inv : I r)
    (removes : ∀ (r : Registry ι ρ) (k : TimerSlot ι), k ≠ .refresh → I r → I (r.removeSlot k))
    (unwatches : ∀ (r : Registry ι ρ) (wid : Nat), I r → I { r with watches := r.watches.detach wid })
    (cancels : ∀ (r : Registry ι ρ) (id : Nat), I r → I { r with calls := r.calls.detach id })
    (scans : ∀ (r : Registry ι ρ) (id : Nat), I r → I { r with scans := r.scans.detach id })
    (storage : ∀ (r : Registry ι ρ) (o : ObjId), I r → I (r.storageFree o)) (o : ObjId) :
    I (r.objectFree o) := by
  have slot : ∀ (r : Registry ι ρ) (i : ι), I r → I (freeSlot o r i) := by
    intro r i inv
    have removed := removes r (.update o i) nofun inv
    rw [freeSlot_eq]
    apply removes _ (.error o i) nofun
    unfold cancelCall
    split
    · exact cancels _ _ removed
    · exact removed
  have slots : ∀ (is : List ι) (r : Registry ι ρ), I r → I (is.foldl (freeSlot o) r) := by
    intro is
    induction is with
    | nil => exact fun _ inv => inv
    | cons i is ih => exact fun r inv => ih _ (slot r i inv)
  unfold Registry.objectFree
  split
  · exact inv
  · apply storage
    have freed : I (r.freeSlots o) := by
      unfold Registry.freeSlots
      dsimp only
      split
      · exact slots _ _ (unwatches r _ inv)
      · exact slots _ _ inv
    unfold releaseHandles cancelScan
    split
    · exact scans _ _ freed
    · exact freed

/-- What freeing an object that is no longer found keeps, every operation that
frees objects keeps. -/
theorem removal_invariant {I : Registry ι ρ → Prop} (owned : Owned r) (inv : I r)
    (tables : ∀ (r : Registry ι ρ) (table : List (String × ObjId)), I r → I { r with table := table })
    (unselects : ∀ r : Registry ι ρ, I r → I { r with selected := none })
    (frees : ∀ (r : Registry ι ρ) (o : ObjId), I r → r.get (r.heap o).path = none →
      I (r.objectFree o)) (path : String) :
    I (r.hashRemove objectFree path) ∧ I (r.hashRemoveAll objectFree) ∧ I r.deselect := by
  have selectedStays : ∀ (r : Registry ι ρ) (o : ObjId), r.selected = some o → r.objectFree o = r :=
    fun r o sel => if_pos sel
  refine ⟨?_, ?_, ?_⟩
  · unfold Registry.hashRemove
    cases entry : r.table.lookup path with
    | none => exact inv
    | some o =>
      obtain ⟨_, named⟩ := owned.entries path o (lookup_mem entry)
      have dropped := tables r (r.table.filter (·.1 ≠ path)) inv
      dsimp only
      generalize dropping : ({ r with table := r.table.filter (·.1 ≠ path) } : Registry ι ρ) = r₁ at dropped
      by_cases sel : r₁.selected = some o
      · rw [selectedStays r₁ o sel]
        exact dropped
      · apply frees r₁ o dropped
        subst dropping
        unfold Registry.get
        simp only [named, lookup_filter_ne, ↓reduceIte]
        cases chosen : r.selected with
        | none => rfl
        | some o' =>
          refine if_neg fun same => sel ?_
          have entry' : ((r.heap o').path, o) ∈ r.table := same ▸ lookup_mem entry
          rw [owned.selectedEntry o' o chosen entry']
          exact chosen
  · unfold Registry.hashRemoveAll
    have apart : ∀ entry ∈ r.table, r.selected = some entry.2 ∨
        ({ r with table := [] } : Registry ι ρ).get (r.heap entry.2).path = none := by
      intro entry mem
      cases chosen : r.selected with
      | none => exact .inr (by simp [Registry.get])
      | some o' =>
        by_cases same : (r.heap o').path = (r.heap entry.2).path
        · have named := (owned.entries entry.1 entry.2 mem).2
          have mem' : ((r.heap o').path, entry.2) ∈ r.table := by
            rw [same, named]
            exact mem
          rw [owned.selectedEntry o' entry.2 chosen mem']
          exact .inl rfl
        · exact .inr (by simp [Registry.get, same])
    suffices fold : ∀ (leaving : List (String × ObjId)) (r : Registry ι ρ), I r →
        (leaving.map Prod.snd).Nodup →
        (∀ entry ∈ leaving, r.selected = some entry.2 ∨ r.get (r.heap entry.2).path = none) →
        I (leaving.foldl (fun r entry => r.objectFree entry.2) r) from
      fold r.table _ (tables r [] inv) owned.values_nodup apart
    intro leaving
    induction leaving with
    | nil => exact fun _ inv _ _ => inv
    | cons entry leaving ih =>
      intro r inv distinct apart
      rw [List.map_cons, List.nodup_cons] at distinct
      rw [List.foldl_cons]
      rcases apart entry (by simp) with sel | gone
      · rw [selectedStays r entry.2 sel]
        exact ih r inv distinct.2 fun later mem => apart later (by simp [mem])
      · refine ih _ (frees r entry.2 inv gone) distinct.2 fun later mem => ?_
        have other : later.2 ≠ entry.2 := fun same =>
          distinct.1 (List.mem_map.mpr ⟨later, mem, same⟩)
        rw [objectFree_selected, path_objectFree fun same => absurd same other]
        refine (apart later (by simp [mem])).imp_right fun absent => ?_
        exact get_objectFree r entry.2 _ absent
  · unfold Registry.deselect
    cases sel : r.selected with
    | none => exact inv
    | some o =>
      dsimp only
      split
      case h_2 => exact unselects r inv
      case h_1 absent => exact frees _ o (unselects r inv) absent

end

/-! ## How many objects there are -/

section

variable [DecidableEq ι] [PropertyIndex ι] [Inhabited ρ]

theorem objectFree_next (r : Registry ι ρ) (o : ObjId) : (r.objectFree o).next = r.next := by
  unfold Registry.objectFree
  split
  · rfl
  · exact (releaseHandles_spec o r).1.next

/-- Objects are allocated, never taken back. -/
theorem Op.next_le (op : Op r r') (owned : Owned r) : r.next ≤ r'.next := by
  have removal := fun path => removal_invariant (I := fun r' => r'.next = r.next) owned rfl (fun _ _ same => same)
    (fun _ same => same) (fun r' o same _ => (objectFree_next r' o).trans same) path
  cases op with
  | quiet op => exact Nat.le_of_eq op.place.next.symm
  | created path absent => exact Nat.le_succ _
  | removed path => exact Nat.le_of_eq (removal path).1.symm
  | removedAll => exact Nat.le_of_eq (removal "").2.1.symm
  | deselected => exact Nat.le_of_eq (removal "").2.2.symm

theorem Ops.next_le (ops : Ops r r') (owned : Owned r) : r.next ≤ r'.next :=
  (ops.invariant (I := fun r' => r.next ≤ r'.next) owned (Nat.le_refl _)
    fun _ _ owned le op => Nat.le_trans le (op.next_le owned)).2

end

/-! ## What freeing releases -/

section

variable [PropertyIndex ι]

/-- The slots of an object, in the order they are released. -/
def slotsOf (o : ObjId) : List (TimerSlot ι) :=
  PropertyIndex.all.flatMap fun i => [.update o i, .error o i]

theorem mem_slotsOf : k ∈ slotsOf o ↔ ∃ i, k = .update o i ∨ k = .error o i := by
  simp [slotsOf, PropertyIndex.mem_all]

variable [DecidableEq ι]

/-- A timer of an object that is not found empties no slot. -/
theorem removeSlot_gone (recorded : Recorded r) (gone : r.get (r.heap o).path = none)
    (mine : k = .update o i ∨ k = .error o i) (k' : TimerSlot ι) :
    (r.removeSlot k).timerSlot k' = r.timerSlot k' := by
  unfold Registry.removeSlot
  split
  case isFalse => rfl
  case isTrue =>
    cases found : r.sources.find (r.timerSlot k) with
    | none =>
      rw [sourceRemove_none found]
      rfl
    | some s =>
      rw [timerSlot_sourceRemove_found found, if_neg]
      have own := recorded.records.own k s found
      cases s with
      | refresh => exact nofun
      | property c =>
        have path : c.path = o := by
          cases error : c.error <;> rcases mine with rfl | rfl <;> simp [Source.slot, error] at own
          · exact own.1
          · exact own.1
        simp [emptiedBy, emptied, path, gone]

theorem freeSlot_timers (recorded : Recorded r) (gone : r.get (r.heap o).path = none) (i : ι) :
    (∀ k, (freeSlot o r i).timerSlot k = r.timerSlot k) ∧
      (freeSlot o r i).sources =
        r.sources.releaseAll [r.timerSlot (.update o i), r.timerSlot (.error o i)] := by
  have first := removeSlot_gone recorded gone (k := .update o i) (.inl rfl)
  have place := (removeSlot_upkeep r (.update o i)).toSameObjects.place
  have same := cancelCall_sameTimers (r.removeSlot (.update o i)) o i
  have stays : ∀ k, ((r.removeSlot (.update o i)).cancelCall o i).timerSlot k = r.timerSlot k := by
    intro k
    rcases same.slots k with kept | ⟨rfl, zero⟩
    · exact kept.trans (first k)
    · have kept : ((r.removeSlot (.update o i)).cancelCall o i).timerSlot .refresh =
          (r.removeSlot (.update o i)).timerSlot .refresh := by
        unfold cancelCall
        split <;> rfl
      exact kept.trans (first .refresh)
  have recorded' : Recorded ((r.removeSlot (.update o i)).cancelCall o i) :=
    (recorded.removeSlot _).same same fun o' alive => ((cancelCall_place _ o i).live o').mpr alive
  have gone' : ((r.removeSlot (.update o i)).cancelCall o i).get
      (((r.removeSlot (.update o i)).cancelCall o i).heap o).path = none := by
    rw [(cancelCall_place _ o i).get, (cancelCall_place _ o i).path, place.get, place.path]
    exact gone
  rw [freeSlot_eq]
  refine ⟨fun k => (removeSlot_gone recorded' gone' (k := .error o i) (.inr rfl) k).trans (stays k), ?_⟩
  rw [removeSlot_sources, stays, same.sources, removeSlot_sources]
  rfl

/-- Freeing the slots of an object that is not found empties none, and releases
the timers they hold. -/
theorem freeSlots_timers (recorded : Recorded r) (gone : r.get (r.heap o).path = none) :
    (∀ k, (r.freeSlots o).timerSlot k = r.timerSlot k) ∧
      (r.freeSlots o).sources = r.sources.releaseAll ((slotsOf o).map r.timerSlot) := by
  suffices fold : ∀ (is : List ι) (r : Registry ι ρ), Recorded r → r.get (r.heap o).path = none →
      (∀ k, (is.foldl (freeSlot o) r).timerSlot k = r.timerSlot k) ∧
        (is.foldl (freeSlot o) r).sources = r.sources.releaseAll
          ((is.flatMap fun i => [TimerSlot.update o i, .error o i]).map r.timerSlot) by
    unfold Registry.freeSlots
    dsimp only
    split
    · have unwatched : SameTimers r
          { r with watches := r.watches.detach (r.heap o).propertyChangedWid } :=
        ⟨rfl, fun k => .inl (by cases k <;> rfl), rfl⟩
      obtain ⟨slots, sources⟩ := fold PropertyIndex.all
        { r with watches := r.watches.detach (r.heap o).propertyChangedWid }
        (recorded.same unwatched fun _ alive => alive) gone
      have same : ∀ k, ({ r with watches := r.watches.detach (r.heap o).propertyChangedWid } :
          Registry ι ρ).timerSlot k = r.timerSlot k := fun k => by cases k <;> rfl
      refine ⟨fun k => (slots k).trans (same k), sources.trans ?_⟩
      rw [funext same]
      rfl
    · exact fold PropertyIndex.all r recorded gone
  intro is
  induction is with
  | nil => exact fun r _ _ => ⟨fun _ => rfl, rfl⟩
  | cons i is ih =>
    intro r recorded gone
    obtain ⟨slots, sources⟩ := freeSlot_timers recorded gone i
    have place := (freeSlot_spec o r i).1.place
    have gone' : (freeSlot o r i).get ((freeSlot o r i).heap o).path = none := by
      rw [place.get, place.path]
      exact gone
    obtain ⟨slots', sources'⟩ := ih (freeSlot o r i) (recorded.freeSlot o i) gone'
    refine ⟨fun k => (slots' k).trans (slots k), ?_⟩
    rw [List.foldl_cons, sources', sources, funext slots, ← Pool.releaseAll_append]
    rfl

/-- A slot that is exact stays exact when an object that is not found is freed. -/
theorem Exact.objectFree [Inhabited ρ] (exact_ : Exact r k) (recorded : Recorded r)
    (gone : r.get (r.heap o).path = none) : Exact (r.objectFree o) k := by
  unfold Registry.objectFree
  split
  case isTrue => exact exact_
  case isFalse =>
    obtain ⟨slots, sources⟩ := freeSlots_timers recorded gone
    have scan := cancelScan_sameTimers (r.freeSlots o) o
    have sources' : ((r.releaseHandles o).storageFree o).sources =
        r.sources.releaseAll ((slotsOf o).map r.timerSlot) := scan.sources.trans sources
    have slots' : ∀ k, (r.releaseHandles o).timerSlot k = r.timerSlot k := by
      intro k
      refine Eq.trans ?_ (slots k)
      unfold releaseHandles cancelScan
      split
      · cases k <;> rfl
      · rfl
    unfold Exact
    rw [sources']
    by_cases mine : k ∈ slotsOf o
    · refine (exact_.release [()] _ (fun _ _ => List.mem_map_of_mem mine) (by simp)).congr fun _ => ?_
      have blank : ((r.releaseHandles o).storageFree o).timerSlot k = 0 := by
        rw [timerSlot_storageFree]
        obtain ⟨i, rfl | rfl⟩ := mem_slotsOf.mp mine <;> simp
      simp [blank]
    · refine (exact_.release [] _ (by simp) fun h mem a u found own => ?_).congr fun _ => ?_
      · obtain ⟨k', mem', rfl⟩ := List.mem_map.mp mem
        have slot := recorded.records.own k' a found
        rw [Source.slot_of_inSlot own] at slot
        exact absurd (slot ▸ mem') mine
      · have other : ((r.releaseHandles o).storageFree o).timerSlot k = (r.releaseHandles o).timerSlot k := by
          rw [timerSlot_storageFree]
          cases k with
          | refresh => rfl
          | update o' i =>
            refine if_neg fun same => mine (mem_slotsOf.mpr ⟨i, .inl (by rw [same])⟩)
          | error o' i =>
            refine if_neg fun same => mine (mem_slotsOf.mpr ⟨i, .inr (by rw [same])⟩)
        rw [other, slots']
        simp

end

/-! ## Filled slots and ids that name nothing -/

theorem Filled.same (filled : Filled r k) (same : SameTimers r r') : Filled r' k := by
  intro used
  rcases same.slots k with kept | ⟨_, zero⟩
  · rw [kept] at used ⊢
    rw [same.sources]
    exact filled used
  · exact absurd zero used

/-- Removing the timer in a slot leaves those in the others. -/
theorem Filled.removeSlot [DecidableEq ι] [PropertyIndex ι]
    (filled : Filled r k) (recorded : Recorded r) (other : l ≠ k) :
    Filled (r.removeSlot l) k := by
  intro used
  have kept : (r.removeSlot l).timerSlot k = r.timerSlot k := by
    unfold Registry.removeSlot at used ⊢
    split
    case isFalse => rfl
    case isTrue there =>
      rw [if_pos there] at used
      exact (timerSlot_sourceRemove_or r _ k).resolve_right used
  rw [kept] at used ⊢
  obtain ⟨s, found, own⟩ := filled used
  refine ⟨s, ?_, own⟩
  rw [removeSlot_sources, Pool.find_detach, if_neg]
  · exact found
  · intro clash
    rw [clash] at found
    exact other ((recorded.records.own l s found).symm.trans own)

variable [DecidableEq ι]

theorem Filled.attach_other (filled : Filled r k) (elsewhere : attachSlot c i ≠ k) :
    Filled (r.attachChange c i) k := by
  intro used
  have kept : (r.attachChange c i).timerSlot k = r.timerSlot k := by
    rw [timerSlot_attachChange, Function.update_of_ne (Ne.symm elsewhere)]
  rw [kept] at used ⊢
  obtain ⟨s, found, own⟩ := filled used
  refine ⟨s, ?_, own⟩
  rw [attachChange_sources, Pool.find_attach, if_neg]
  · exact found
  · intro clash
    rw [clash, Pool.find_fresh] at found
    cases found

theorem destroyProperty_stray (r : Registry ι ρ) (c : PropertyChange ι) :
    (r.destroyProperty c).stray = r.stray := by
  unfold Registry.destroyProperty
  split
  · rfl
  · split
    · rfl
    · rfl

theorem sourceRemove_stray (found : r.sources.find id = some s) : (r.sourceRemove id).stray = r.stray := by
  cases s with
  | property c =>
    rw [sourceRemove_property found]
    exact destroyProperty_stray _ c
  | refresh => rw [sourceRemove_refresh found]

theorem removeSlot_stray (filled : Filled r k) : (r.removeSlot k).stray = r.stray := by
  unfold Registry.removeSlot
  split
  case isFalse => rfl
  case isTrue used =>
    obtain ⟨s, found, _⟩ := filled used
    exact sourceRemove_stray found

theorem attachChange_stray (r : Registry ι ρ) (c : PropertyChange ι) (i : ι) :
    (r.attachChange c i).stray = r.stray := by
  unfold Registry.attachChange
  dsimp only
  split
  · rfl
  · rfl

/-- Where an object's slots are filled, freeing it removes no id that names
nothing, and leaves the slots of others filled. -/
theorem objectFree_filled [PropertyIndex ι] [Inhabited ρ] (recorded : Recorded r)
    (filled : ∀ i, Filled r (.update o i) ∧ Filled r (.error o i)) :
    (r.objectFree o).stray = r.stray ∧ (Filled r .refresh → Filled (r.objectFree o) .refresh) := by
  suffices fold : ∀ (is : List ι) (r : Registry ι ρ), is.Nodup → Recorded r →
      (∀ i ∈ is, Filled r (.update o i) ∧ Filled r (.error o i)) →
      (is.foldl (freeSlot o) r).stray = r.stray ∧
        (Filled r .refresh → Filled (is.foldl (freeSlot o) r) .refresh) by
    unfold Registry.objectFree
    split
    · exact ⟨rfl, id⟩
    · have unwatched : ∀ watches, SameTimers r { r with watches := watches } :=
        fun watches => ⟨rfl, fun k => .inl (by cases k <;> rfl), rfl⟩
      have slots : (r.freeSlots o).stray = r.stray ∧
          (Filled r .refresh → Filled (r.freeSlots o) .refresh) := by
        unfold Registry.freeSlots
        dsimp only
        split
        · obtain ⟨stray, refresh⟩ := fold PropertyIndex.all _ PropertyIndex.nodup_all
            (recorded.same (unwatched (r.watches.detach (r.heap o).propertyChangedWid)) fun _ alive => alive)
            fun i _ => ⟨(filled i).1.same (unwatched _), (filled i).2.same (unwatched _)⟩
          exact ⟨stray, fun there => refresh (there.same (unwatched _))⟩
        · exact fold PropertyIndex.all r PropertyIndex.nodup_all recorded fun i _ => filled i
      have scan := cancelScan_sameTimers (r.freeSlots o) o
      refine ⟨scan.stray.trans slots.1, fun there => ?_⟩
      have kept : Filled (r.releaseHandles o) .refresh := (slots.2 there).same scan
      exact kept
  intro is
  induction is with
  | nil => exact fun r _ _ _ => ⟨rfl, id⟩
  | cons i is ih =>
    intro r distinct recorded filled
    obtain ⟨fresh, distinct⟩ := List.nodup_cons.mp distinct
    have first := removeSlot_stray (filled i (by simp)).1
    have recorded₁ := recorded.removeSlot (.update o i)
    have same := cancelCall_sameTimers (r.removeSlot (.update o i)) o i
    have recorded₂ := recorded₁.same same fun o' alive => ((cancelCall_place _ o i).live o').mpr alive
    have step : ∀ k, k ≠ .update o i → k ≠ .error o i → Filled r k → Filled (freeSlot o r i) k := by
      intro k other other' there
      rw [freeSlot_eq]
      exact ((there.removeSlot recorded other.symm).same same).removeSlot recorded₂ other'.symm
    have here : (freeSlot o r i).stray = r.stray := by
      rw [freeSlot_eq]
      have error := ((filled i (by simp)).2.removeSlot recorded (l := .update o i) nofun).same same
      exact (removeSlot_stray error).trans (same.stray.trans first)
    obtain ⟨stray, refresh⟩ := ih (freeSlot o r i) distinct (recorded.freeSlot o i) fun j mem => by
      have other : j ≠ i := fun same => fresh (same ▸ mem)
      exact ⟨step _ (by simp [other]) nofun (filled j (by simp [mem])).1,
        step _ nofun (by simp [other]) (filled j (by simp [mem])).2⟩
    exact ⟨stray.trans here, fun there => refresh (step .refresh nofun nofun there)⟩

end Registry

end ConnmanUi
