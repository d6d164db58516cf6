import ConnmanUi.TechnologySteps

/-!
Scans in flight.

A technology records one scan call, and freeing it cancels that one.  Scans can
overlap: the second call takes the slot of the first, and the first reply
empties it.  `scans_iff_recorded` says exactly when a technology may leave
without a reply that would reach it later.
-/

namespace ConnmanUi

open Run

namespace Registry

variable {ι ρ : Type} {r r' : Registry ι ρ}
  {o o' : ObjId}

/-- A Scan in flight with a notify function is one of a live technology. -/
def ScansLive (r : Registry ι ρ) : Prop := ∀ call o, r.scans.find call = some ⟨o, true⟩ → r.Live o

/-- A recorded scan call is in flight, and the technology's own. -/
def ScansHeld (r : Registry ι ρ) : Prop :=
  ∀ o, (r.heap o).scanCall ≠ 0 → ∃ scan, r.scans.find (r.heap o).scanCall = some scan ∧ scan.technology = o

/-- The scan call recorded for `o` is the only one in flight that would reach
it. -/
def ScanRecorded (r : Registry ι ρ) (o : ObjId) : Prop :=
  ∀ call, r.scans.find call = some ⟨o, true⟩ → (r.heap o).scanCall = call

instance (r : Registry ι ρ) (o : ObjId) : Decidable (r.ScanRecorded o) :=
  decidable_of_iff (∀ entry ∈ r.scans.live, r.scans.find entry.1 = some ⟨o, true⟩ →
      (r.heap o).scanCall = entry.1)
    ⟨fun all call found => by
      obtain ⟨before, after, eq, _⟩ := List.lookup_eq_some_iff.mp found
      exact all (call, ⟨o, true⟩) (by simp [eq]) found,
    fun all entry _ => all entry.1⟩

/-! ## Operations without scans -/

/-- `r'` has the scans of `r`, and records them as `r` does. -/
structure SameScans (r r' : Registry ι ρ) : Prop where
  scans : r'.scans = r.scans
  call : ∀ o, (r'.heap o).scanCall = (r.heap o).scanCall

theorem Upkeep.sameScans (up : Upkeep r r') : SameScans r r' := ⟨up.scans, fun o => (up.object o).scanCall⟩

theorem modify_sameScans {f : Object ι ρ → Object ι ρ}
    (call : (f (r.heap o)).scanCall = (r.heap o).scanCall) : SameScans r (r.modify o f) := by
  refine ⟨rfl, fun o' => ?_⟩
  rw [heap_modify]
  split
  case isTrue here => rw [call, here]
  case isFalse => rfl

theorem SameScans.trans {r'' : Registry ι ρ} (first : SameScans r r') (rest : SameScans r' r'') :
    SameScans r r'' :=
  ⟨rest.scans.trans first.scans, fun o => (rest.call o).trans (first.call o)⟩

theorem scheduleRefresh_sameScans [DecidableEq ι] (r : Registry ι ρ) : SameScans r r.scheduleRefresh := by
  have up := sourceRemove_if_upkeep r r.toRefresh
  unfold scheduleRefresh
  dsimp only
  generalize (if r.toRefresh ≠ 0 then r.sourceRemove r.toRefresh else r) = r₁ at up ⊢
  exact up.sameScans.trans ⟨rfl, fun _ => rfl⟩

theorem setPropertyCb_sameScans [DecidableEq ι] [PropertyIndex ι]
    (r : Registry ι ρ) (o : ObjId) (i : ι) (failed : Bool) :
    SameScans r (setPropertyCb r o i failed) := by
  have emptied : SameScans r (r.modify o fun obj =>
      { obj with callModify := Function.update obj.callModify i 0 }) := modify_sameScans rfl
  unfold setPropertyCb
  dsimp only
  split
  · exact emptied
  · split
    · exact emptied.trans ((sourceRemove_if_upkeep _ _).trans (attachChange_upkeep _ _ _)).sameScans
    · exact emptied

theorem Acts.sameScans [DecidableEq ι] [PropertyIndex ι] {a : Act} (acts : Acts r a r') : SameScans r r' := by
  cases acts with
  | replied call failed ran =>
    unfold Registry.setPropertyReply at ran
    split at ran
    case h_2 => cases ran
    case h_1 o i _ =>
      cases ran
      have detached : SameScans r { r with calls := r.calls.detach call } := ⟨rfl, fun _ => rfl⟩
      exact detached.trans (setPropertyCb_sameScans _ o i failed)
  | timerDone ran => exact (timerDone_upkeep ran).sameScans
  | refreshDone id => exact ⟨rfl, fun _ => rfl⟩

theorem ScansHeld.same (held : ScansHeld r) (same : SameScans r r') : ScansHeld r' := by
  intro o used
  rw [same.call] at used ⊢
  rw [same.scans]
  exact held o used

theorem ScansLive.same (live : ScansLive r) (same : SameScans r r') (alive : ∀ o, r.Live o → r'.Live o) :
    ScansLive r' := by
  intro call o found
  rw [same.scans] at found
  exact alive o (live call o found)

/-! ## Scanning -/

theorem find_attach_old {α : Type} {p : Pool α} {a b : α} {h : Nat} (found : p.find h = some a) :
    (p.attach b).find h = some a := by
  rw [Pool.find_attach, if_neg]
  · exact found
  · rintro rfl
    rw [Pool.find_fresh] at found
    cases found

/-- A scan is recorded: its call goes in, or none does. -/
theorem ScansHeld.store (held : ScansHeld r) (scan : ScanCall) (own : scan.technology = o)
    (callback : Option Callback) :
    ScansHeld (Registry.modify { r with scans := r.scans.attach scan } o fun obj =>
        { obj with scanCb := callback, scanCall := r.scans.fresh }) ∧
      ScansHeld (r.modify o fun obj => { obj with scanCb := callback, scanCall := 0 }) := by
  refine ⟨fun o' used => ?_, fun o' used => ?_⟩
  · rw [heap_modify] at used ⊢
    by_cases here : o' = o
    · rw [if_pos here]
      exact ⟨scan, by simp [Pool.find_attach, modify], own.trans here.symm⟩
    · rw [if_neg here] at used ⊢
      obtain ⟨scan', found, own'⟩ := held o' used
      exact ⟨scan', find_attach_old found, own'⟩
  · rw [heap_modify] at used ⊢
    by_cases here : o' = o
    · rw [if_pos here] at used
      exact absurd rfl used
    · rw [if_neg here] at used ⊢
      exact held o' used

theorem ScansHeld.sendScan (held : ScansHeld r) (callback : Option Callback) (outcome : SendOutcome) :
    ScansHeld (r.sendScan o callback outcome).1 := by
  cases outcome with
  | noMessage => exact held
  | refused => exact (held.store ⟨o, true⟩ rfl none).2
  | noPending => exact (held.store ⟨o, true⟩ rfl none).2
  | noNotify => exact (held.store ⟨o, false⟩ rfl none).1
  | sent => exact (held.store ⟨o, true⟩ rfl callback).1
  | noSetting => exact (held.store ⟨o, true⟩ rfl callback).1

theorem ScansLive.sendScan (live : ScansLive r) (alive : r.Live o) (callback : Option Callback)
    (outcome : SendOutcome) : ScansLive (r.sendScan o callback outcome).1 := by
  have place := sendScan_place (r := r) (o := o) callback outcome
  have attached : ∀ (notify : Bool) (r' : Registry ι ρ), SamePlace r r' →
      r'.scans = r.scans.attach ⟨o, notify⟩ → ScansLive r' := by
    intro notify r' place scans call o' found
    rw [scans, Pool.find_attach] at found
    apply (place.live o').mpr
    split at found
    · cases found
      exact alive
    · exact live call o' found
  have kept : ∀ r' : Registry ι ρ, SamePlace r r' → r'.scans = r.scans → ScansLive r' := by
    intro r' place scans call o' found
    rw [scans] at found
    exact (place.live o').mpr (live call o' found)
  cases outcome with
  | noMessage => exact live
  | refused => exact kept _ place rfl
  | noPending => exact kept _ place rfl
  | noNotify => exact attached false _ place rfl
  | sent => exact attached true _ place rfl
  | noSetting => exact attached true _ place rfl

/-- A reply empties the slot, whose call may be another one. -/
theorem ScansHeld.scanCallback {call : Nat} (held : ScansHeld r) (ran : r.scanCallback call = some r') :
    ScansHeld r' := by
  unfold Registry.scanCallback at ran
  split at ran
  case h_2 => cases ran
  case h_1 o found =>
    have held' : ScansHeld (Registry.modify { r with scans := r.scans.detach call } o fun obj =>
        { obj with scanCall := 0 }) := by
      intro o' used
      rw [heap_modify] at used ⊢
      by_cases here : o' = o
      · rw [if_pos here] at used
        exact absurd rfl used
      · rw [if_neg here] at used ⊢
        obtain ⟨scan, there, own⟩ := held o' used
        have there' : r.scans.find (r.heap o').scanCall = some scan := there
        refine ⟨scan, ?_, own⟩
        apply (Pool.find_detach r.scans call _).trans
        rw [if_neg]
        · exact there'
        · intro clash
          change (r.heap o').scanCall = call at clash
          rw [clash, found] at there'
          cases there'
          exact here own.symm
    dsimp only at ran
    split at ran
    · cases ran
      exact held'
    · cases ran
      exact held'.same (note_upkeep _ _).sameScans

theorem ScansLive.scanCallback {call : Nat} (live : ScansLive r) (ran : r.scanCallback call = some r') :
    ScansLive r' := by
  have place := (scanCallback_frame ran).1
  have scans : r'.scans = r.scans.detach call := by
    unfold Registry.scanCallback at ran
    split at ran
    case h_2 => cases ran
    case h_1 o found =>
      dsimp only at ran
      split at ran
      · cases ran
        rfl
      · cases ran
        rfl
  intro call' o there
  rw [scans] at there
  exact (place.live o).mpr (live call' o (Pool.find_of_find_detach there))

/-- What leaves the scans alone, and what sends or answers one. -/
theorem QuietOp.scans_cases [DecidableEq ι] (op : QuietOp r r') :
    SameScans r r' ∨ (∃ o callback outcome, r.Live o ∧ r' = (r.sendScan o callback outcome).1) ∨
      ∃ call, r.scanCallback call = some r' := by
  cases op with
  | noted n => exact .inl (note_upkeep r n).sameScans
  | data o rest index => exact .inl (modify_sameScans rfl)
  | callbacks o changed error => exact .inl (modify_sameScans rfl)
  | updated o i => exact .inl (propertyUpdate_upkeep r o i).sameScans
  | signalled o i rest =>
    have taken : SameScans r ((r.note (.changed o i)).setData o rest (some i)) :=
      (note_upkeep r (.changed o i)).sameScans.trans (modify_sameScans rfl)
    exact .inl (taken.trans (propertyUpdate_upkeep _ o i).sameScans)
  | sent o i outcome =>
    left
    have stored : ∀ (calls : Pool (PropertySetting ι)) (id : Nat),
        SameScans r (Registry.modify { r with calls := calls } o fun obj =>
          { obj with callModify := Function.update obj.callModify i id }) := fun calls id =>
      SameScans.trans (⟨rfl, fun _ => rfl⟩ : SameScans r { r with calls := calls }) (modify_sameScans rfl)
    unfold Registry.sendSetProperty
    split
    · exact ⟨rfl, fun _ => rfl⟩
    · cases outcome with
      | noMessage => exact ⟨rfl, fun _ => rfl⟩
      | noSetting => exact ⟨rfl, fun _ => rfl⟩
      | refused => exact stored r.calls 0
      | noPending => exact stored r.calls 0
      | noNotify => exact stored _ _
      | sent => exact stored _ _
  | timerRun global id idle ran => exact .inl (timerRun_upkeep ran).sameScans
  | refreshForgotten => exact .inl ⟨rfl, fun _ => rfl⟩
  | scanned o callback outcome alive => exact .inr (.inl ⟨o, callback, outcome, alive, rfl⟩)
  | scanReplied call ran => exact .inr (.inr ⟨call, ran⟩)

theorem ScansHeld.quietOp [DecidableEq ι] (held : ScansHeld r) (op : QuietOp r r') : ScansHeld r' := by
  rcases op.scans_cases with same | ⟨o, callback, outcome, _, rfl⟩ | ⟨call, ran⟩
  · exact held.same same
  · exact held.sendScan callback outcome
  · exact held.scanCallback ran

theorem ScansLive.quietOp [DecidableEq ι] (live : ScansLive r) (op : QuietOp r r') : ScansLive r' := by
  have place := op.place
  rcases op.scans_cases with same | ⟨o, callback, outcome, alive, rfl⟩ | ⟨call, ran⟩
  · exact live.same same fun o alive => (place.live o).mpr alive
  · exact live.sendScan alive callback outcome
  · exact live.scanCallback ran

theorem ScansHeld.create [PropertyIndex ι] [Inhabited ρ]
    (held : ScansHeld r) (path : String) : ScansHeld (r.create path) := by
  intro o used
  by_cases new : o = r.next
  · exact absurd (by simp [Registry.create, new, Object.blank]) used
  · have kept : (r.create path).heap o = r.heap o := Function.update_of_ne new _ _
    rw [kept] at used ⊢
    exact held o used

theorem ScansLive.create [PropertyIndex ι] [Inhabited ρ]
    (live : ScansLive r) (owned : Owned r) (path : String) : ScansLive (r.create path) :=
  fun call o found => (live_create owned path o).mpr (.inl (live call o found))

theorem GrowOps.scans [DecidableEq ι] [PropertyIndex ι] [Inhabited ρ]
    (grow : GrowOps r r') (owned : Owned r) (held : ScansHeld r) (live : ScansLive r) :
    ScansHeld r' ∧ ScansLive r' := by
  have inv : Owned r' ∧ ScansHeld r' ∧ ScansLive r' := by
    induction grow with
    | refl => exact ⟨owned, held, live⟩
    | tail _ op ih =>
      obtain ⟨owned, held, live⟩ := ih
      cases op with
      | quiet op => exact ⟨owned.quietOp op, held.quietOp op, live.quietOp op⟩
      | created path absent => exact ⟨owned.create absent, held.create path, live.create owned path⟩
  exact inv.2

/-! ## Freeing -/

variable [DecidableEq ι] [PropertyIndex ι] [Inhabited ρ]

/-- What freeing a technology does to the scans: its recorded call is
cancelled. -/
theorem objectFree_scans (unselected : r.selected = none) (held : ScansHeld r) (o : ObjId) :
    (r.objectFree o).scans = r.scans.detach (r.heap o).scanCall ∧ ScansHeld (r.objectFree o) ∧
      ∀ o', o' ≠ o → ((r.objectFree o).heap o').scanCall = (r.heap o').scanCall := by
  obtain ⟨same, _, scans, _⟩ := releaseHandles_spec o r
  have freed : r.objectFree o = (r.releaseHandles o).storageFree o := by
    unfold Registry.objectFree
    rw [if_neg (by simp [unselected])]
  have kept : ∀ o', o' ≠ o → ((r.objectFree o).heap o').scanCall = (r.heap o').scanCall := by
    intro o' other
    rw [freed]
    have stays : ((r.releaseHandles o).storageFree o).heap o' = (r.releaseHandles o).heap o' :=
      Function.update_of_ne other _ _
    rw [stays, (same.object o').scanCall]
  have scans' : (r.objectFree o).scans = r.scans.detach (r.heap o).scanCall := by
    rw [freed]
    exact scans
  refine ⟨scans', fun o' used => ?_, kept⟩
  by_cases here : o' = o
  · rw [freed, here] at used
    exact absurd (by simp [storageFree, Object.blank]) used
  · rw [kept o' here] at used ⊢
    obtain ⟨scan, found, own⟩ := held o' used
    refine ⟨scan, ?_, own⟩
    rw [scans', Pool.find_detach, if_neg]
    · exact found
    · intro clash
      rw [clash] at found
      by_cases zero : (r.heap o).scanCall = 0
      · rw [zero, Pool.find_zero] at found
        cases found
      · obtain ⟨scan', found', own'⟩ := held o zero
        rw [found] at found'
        cases found'
        exact here (own.symm.trans own')

/-- Freeing a technology leaves no call behind exactly if it has no call in
flight but the recorded one. -/
theorem objectFree_live_iff (unselected : r.selected = none) (held : ScansHeld r) (live : ScansLive r)
    (o : ObjId) : ScansLive (r.objectFree o) ↔ r.ScanRecorded o := by
  obtain ⟨scans, _, _⟩ := objectFree_scans unselected held o
  constructor
  · intro after call found
    by_contra other
    have still : (r.objectFree o).scans.find call = some ⟨o, true⟩ := by
      rw [scans, Pool.find_detach, if_neg (Ne.symm other)]
      exact found
    have selected := ((objectFree_live r o o).mp (after call o still)).2 rfl
    rw [unselected] at selected
    cases selected
  · intro recorded call o' found
    rw [scans, Pool.find_detach] at found
    split at found
    · cases found
    case isFalse other =>
      refine (objectFree_live r o o').mpr ⟨live call o' found, fun same => ?_⟩
      subst same
      exact absurd (recorded call found).symm other

theorem hashRemove_scans (owned : Owned r) (unselected : r.selected = none) (held : ScansHeld r)
    (live : ScansLive r) (path : String) :
    ScansHeld (r.hashRemove Registry.objectFree path) ∧
      (ScansLive (r.hashRemove Registry.objectFree path) ↔
        ∀ entry ∈ r.table, entry.1 = path → r.ScanRecorded entry.2) := by
  unfold Registry.hashRemove
  cases found : r.table.lookup path with
  | none =>
    refine ⟨held, fun _ entry mem same => ?_, fun _ => live⟩
    have other := List.lookup_eq_none_iff.mp found entry mem
    exact absurd other (by simp [same])
  | some o =>
    obtain ⟨_, held', _⟩ := objectFree_scans (r := { r with table := r.table.filter (·.1 ≠ path) })
      unselected held o
    refine ⟨held', (objectFree_live_iff (r := { r with table := r.table.filter (·.1 ≠ path) })
      unselected held live o).trans ⟨fun recorded entry mem same => ?_, fun all => ?_⟩⟩
    · have here : entry = (path, o) := by
        have entry' := owned.lookup_iff.mpr (same ▸ mem : (path, entry.2) ∈ r.table)
        rw [found] at entry'
        exact Prod.ext same (Option.some.inj entry').symm
      rw [here]
      exact recorded
    · exact all (path, o) (lookup_mem found) rfl

/-- Freeing a list of technologies cancels the calls they record. -/
theorem freeAll_scans (leaving : List (String × ObjId)) (unselected : r.selected = none)
    (held : ScansHeld r) (distinct : (leaving.map Prod.snd).Nodup) :
    ScansHeld (leaving.foldl (fun r entry => r.objectFree entry.2) r) ∧
      (leaving.foldl (fun r entry => r.objectFree entry.2) r).scans =
        r.scans.releaseAll (leaving.map fun entry => (r.heap entry.2).scanCall) := by
  induction leaving generalizing r with
  | nil => exact ⟨held, rfl⟩
  | cons entry leaving ih =>
    rw [List.map_cons, List.nodup_cons] at distinct
    obtain ⟨scans, held', kept⟩ := objectFree_scans unselected held entry.2
    obtain ⟨held'', scans'⟩ := ih ((objectFree_selected r entry.2).trans unselected) held' distinct.2
    refine ⟨held'', scans'.trans ?_⟩
    have later : leaving.map (fun later => ((r.objectFree entry.2).heap later.2).scanCall) =
        leaving.map fun later => (r.heap later.2).scanCall := by
      refine List.map_congr_left fun later mem => kept later.2 fun same => distinct.1 ?_
      exact List.mem_map.mpr ⟨later, mem, same⟩
    rw [later, scans]
    rfl

/-- Freeing does not touch what is recorded elsewhere, whatever is in flight. -/
theorem ScansHeld.op (held : ScansHeld r) (owned : Owned r) (unselected : r.selected = none) (op : Op r r') :
    ScansHeld r' := by
  cases op with
  | quiet op => exact held.quietOp op
  | created path absent => exact held.create path
  | removed path =>
    unfold Registry.hashRemove
    split
    · exact held
    · exact (objectFree_scans (r := { r with table := r.table.filter (·.1 ≠ path) }) unselected held _).2.1
  | removedAll => exact (freeAll_scans (r := { r with table := [] }) r.table unselected held owned.values_nodup).1
  | deselected =>
    unfold Registry.deselect
    rw [unselected]
    exact held

theorem hashRemoveAll_scans (owned : Owned r) (found : Held r) (unselected : r.selected = none)
    (held : ScansHeld r) (live : ScansLive r) :
    ScansHeld (r.hashRemoveAll Registry.objectFree) ∧
      (ScansLive (r.hashRemoveAll Registry.objectFree) ↔ ∀ entry ∈ r.table, r.ScanRecorded entry.2) := by
  obtain ⟨held', scans⟩ := freeAll_scans (r := { r with table := [] }) r.table unselected held
    owned.values_nodup
  have empty : ∀ o, ¬ (r.hashRemoveAll Registry.objectFree).Live o := by
    intro o alive
    have named := (found.hashRemoveAll owned o alive).2
    unfold Registry.get at named
    rw [hashRemoveAll_table, hashRemoveAll_selected, unselected] at named
    cases named
  have inTable : ∀ o, r.Live o → ((r.heap o).path, o) ∈ r.table := by
    intro o alive
    obtain ⟨_, _, mem | sel⟩ := owned.get_spec (found o alive).2
    · exact mem
    · rw [unselected] at sel
      cases sel
  have left : ∀ call, (r.hashRemoveAll Registry.objectFree).scans.find call =
      if call ∈ r.table.map (fun entry => (r.heap entry.2).scanCall) then none else r.scans.find call := by
    intro call
    have released := Pool.find_releaseAll (r.table.map fun entry => (r.heap entry.2).scanCall) r.scans call
    rw [← released]
    exact congrArg (·.find call) scans
  refine ⟨held', fun after entry mem call there => ?_, fun all call o there => ?_⟩
  · have cancelled : call ∈ r.table.map fun entry => (r.heap entry.2).scanCall := by
      by_contra stays
      exact empty entry.2 (after call entry.2 (by rw [left, if_neg stays, there]))
    obtain ⟨other, _, same⟩ := List.mem_map.mp cancelled
    have used : (r.heap other.2).scanCall ≠ 0 := by
      rw [same]
      exact Pool.ne_zero_of_find there
    obtain ⟨scan, there', own⟩ := held other.2 used
    rw [same, there] at there'
    cases there'
    rw [← same, ← own]
  · rw [left] at there
    split at there
    · cases there
    case isFalse stays =>
      have mem := inTable o (live call o there)
      exact absurd (List.mem_map.mpr ⟨_, mem, all _ mem call there⟩) stays

end Registry

namespace Technology

open Registry

variable {s s' : State} {e : Event}

/-- What the step frees, by its path. -/
def leaves (s : State) : Event → String → Bool
  | .technologyRemoved path, path' => path' = path
  | .finalize, _ => s.up
  | _, _ => false

/-- A technology that leaves has no scan in flight but the one it records. -/
def CleanLeave (s : State) (e : Event) : Prop :=
  ∀ entry ∈ s.reg.table, leaves s e entry.1 = true → s.reg.ScanRecorded entry.2

instance : Decidable (CleanLeave s e) := inferInstanceAs (Decidable (∀ entry ∈ _, _ → _))

/-- What the runs in which technologies leave clean keep. -/
structure Scanning (s : State) : Prop where
  tidy : Tidy s
  held : ScansHeld s.reg
  live : ScansLive s.reg

theorem boot_scanning (boot : Boot s) : Scanning s := by
  refine ⟨boot_tidy boot, ?_, ?_⟩
  · obtain ⟨sources, calls, scans, watches, rfl⟩ := boot
    exact fun o used => absurd rfl used
  · obtain ⟨sources, calls, scans, watches, rfl⟩ := boot
    exact fun call o found => by cases found

theorem scansHeld_step (tidy : Tidy s) (held : ScansHeld s.reg) (ran : step s e = some s') : ScansHeld s'.reg := by
  refine ((step_change tidy ran).invariant (I := fun r => r.selected = none ∧ ScansHeld r) tidy.owned
    ⟨tidy.unselected, held⟩ ?_ ?_ ?_).2.2
  · exact fun r r' owned inv op => ⟨op.unselected inv.1, inv.2.op owned inv.1 op⟩
  · exact fun r' _ inv acts => ⟨acts.place.selected.trans inv.1, inv.2.same acts.sameScans⟩
  · intro r _ inv _
    exact ⟨(scheduleRefresh_sameObjects r).1.selected.trans inv.1, inv.2.same (scheduleRefresh_sameScans r)⟩

theorem reaches_scansHeld {guard : State → Event → Prop} (reached : Reaches step guard Boot s) :
    ScansHeld s.reg :=
  (reached.invariant (I := fun s => Tidy s ∧ ScansHeld s.reg)
    (fun _ boot => ⟨boot_tidy boot, (boot_scanning boot).held⟩)
    fun _ _ _ inv _ ran => ⟨tidy_step inv.1 ran, scansHeld_step inv.1 inv.2 ran⟩).2

theorem grow_scans (scanning : Scanning s) (grow : GrowOps s.reg s'.reg) (stays : ∀ path, leaves s e path = false) :
    ScansHeld s'.reg ∧ (ScansLive s'.reg ↔ CleanLeave s e) := by
  obtain ⟨held, live⟩ := grow.scans scanning.tidy.owned scanning.held scanning.live
  refine ⟨held, fun _ entry _ leaving => ?_, fun _ => live⟩
  rw [stays] at leaving
  cases leaving

/-! ## What a step leaves behind -/

theorem technologyAddedCb_grow (tidy : Tidy s) (up : s.up = true) (uninit : Option String) (technology : String × Dict) :
    GrowOps s.reg (technologyAddedCb uninit s technology).reg := by
  obtain ⟨listed, lists, handled⟩ := technologyAddedCb_spec uninit tidy.owned tidy.unselected up technology
  rw [handled]
  split
  · exact lists.grow
  · exact lists.grow

theorem getTechnologiesCallback_grow (tidy : Tidy s) (uninit : Option String) (reply : TechnologiesReply) :
    GrowOps s.reg (getTechnologiesCallback uninit s reply).reg := by
  unfold getTechnologiesCallback
  cases up : s.up with
  | false =>
    have idle : (getTechnologiesCb uninit { s with getTechnologiesCall := none } reply).reg = s.reg := by
      simp [getTechnologiesCb, up]
    cases reply with
    | noArguments => exact .refl
    | notArray => exact idle ▸ .refl
    | technologies technologies => exact idle ▸ .refl
  | true =>
    cases reply with
    | noArguments => exact .refl
    | notArray => simp [getTechnologiesCb, GrowOps, Relation.ReflTransGen.refl]
    | technologies technologies =>
      obtain ⟨listed, lists, handled⟩ := getTechnologiesCb_spec uninit
        (s := { s with getTechnologiesCall := none }) tidy.owned tidy.unselected up technologies
      dsimp only at handled ⊢
      rw [up] at handled
      rw [handled]
      split
      · exact lists.grow
      · exact lists.grow

/-- The handler frees the technology of the path, if it knows it. -/
theorem technologyRemovedCb_scans (scanning : Scanning s) (path : String) :
    ScansHeld (technologyRemovedCb s path).reg ∧
      (ScansLive (technologyRemovedCb s path).reg ↔ CleanLeave s (.technologyRemoved path)) := by
  have tidy := scanning.tidy
  have quiet := (callRemovedCb_spec s path).1
  have place := quiet.place
  obtain ⟨held, live⟩ := quiet.grow.scans tidy.owned scanning.held scanning.live
  have same : ∀ o, ((callRemovedCb s path).reg.heap o).scanCall = (s.reg.heap o).scanCall ∧
      (callRemovedCb s path).reg.scans = s.reg.scans := by
    intro o
    unfold callRemovedCb
    split
    · exact ⟨rfl, rfl⟩
    · exact ⟨rfl, rfl⟩
  obtain ⟨held', live'⟩ := hashRemove_scans (tidy.owned.ops quiet.ops) (place.selected.trans tidy.unselected) held live path
  refine ⟨held', live'.trans ?_⟩
  rw [place.table]
  simp only [CleanLeave, leaves, ScanRecorded, (same _).1, (same 0).2, decide_eq_true_eq]

/-- The module frees every technology when it goes down. -/
theorem connmanTechnologyFinalize_scans (scanning : Scanning s) :
    ScansHeld (connmanTechnologyFinalize s).reg ∧
      (ScansLive (connmanTechnologyFinalize s).reg ↔ CleanLeave s .finalize) := by
  have tidy := scanning.tidy
  unfold connmanTechnologyFinalize
  split
  case isFalse down =>
    exact ⟨scanning.held, fun _ entry _ leaving => absurd leaving down, fun _ => scanning.live⟩
  case isTrue up =>
    obtain ⟨held, live⟩ := hashRemoveAll_scans tidy.owned tidy.held tidy.unselected scanning.held scanning.live
    refine ⟨held, live.trans ?_⟩
    simp [CleanLeave, leaves, up]

/-- Every other step frees nothing. -/
theorem quiet_scans (scanning : Scanning s) (ran : step s e = some s') (still : ¬ Moving e) :
    ScansHeld s'.reg ∧ (ScansLive s'.reg ↔ CleanLeave s e) := by
  have stays : ∀ path, leaves s e path = false := by
    intro path
    cases e <;> first | rfl | exact absurd trivial still
  rcases (quiet_step scanning.tidy.owned ran still).did with ops | acts
  · exact grow_scans scanning ops.grow stays
  · have same := acts.sameScans
    refine ⟨scanning.held.same same, fun _ entry _ leaving => ?_, fun _ => ?_⟩
    · rw [stays] at leaving
      cases leaving
    · exact scanning.live.same same fun o alive => (acts.place.live o).mpr alive

/-- A step leaves no call behind exactly if what it frees leaves clean. -/
theorem scans_step (scanning : Scanning s) (ran : step s e = some s') :
    ScansHeld s'.reg ∧ (ScansLive s'.reg ↔ CleanLeave s e) := by
  have tidy := scanning.tidy
  by_cases moving : Moving e
  case neg => exact quiet_scans scanning ran moving
  case pos =>
    cases e with
    | technologyAdded uninit technology =>
      obtain ⟨there, ran⟩ := Option.ite_none_right_eq_some.mp (handed ran).2
      cases ran
      exact grow_scans scanning (technologyAddedCb_grow tidy (tidy.signals there) uninit technology) fun _ => rfl
    | technologyRemoved path =>
      obtain ⟨_, ran⟩ := Option.ite_none_right_eq_some.mp (handed ran).2
      cases ran
      exact technologyRemovedCb_scans scanning path
    | getTechnologiesReply call uninit reply =>
      obtain ⟨_, ran⟩ := Option.ite_none_right_eq_some.mp (handed ran).2
      cases ran
      exact grow_scans scanning (getTechnologiesCallback_grow tidy uninit reply) fun _ => rfl
    | init =>
      cases ran
      refine grow_scans scanning ?_ fun _ => rfl
      unfold connmanTechnologyInit
      split
      · exact .refl
      · exact .refl
    | finalize =>
      cases ran
      exact connmanTechnologyFinalize_scans scanning
    | _ => exact moving.elim

/-! ## Runs -/

/-- In runs in which technologies leave clean no reply reaches a freed one; and
the next step leaves no call behind if and only if what it frees leaves clean. -/
theorem scans_iff_recorded (s : State) (reached : Reaches step CleanLeave Boot s) :
    ScansLive s.reg ∧ ∀ e s', step s e = some s' → (ScansLive s'.reg ↔ CleanLeave s e) := by
  refine reached.exact (I := Scanning) (fun _ => boot_scanning) (fun _ => Scanning.live) ?_ ?_
  · intro s e s' scanning clean ran
    obtain ⟨held, live⟩ := scans_step scanning ran
    exact ⟨tidy_step scanning.tidy ran, held, live.mpr clean⟩
  · intro s e s' scanning ran unclean live
    exact unclean ((scans_step scanning ran).2.mp live)

/-- Two scans overlap, and the first is answered. -/
def overlapped : List Event :=
  listing ++ [.scan "/t" none .sent, .scan "/t" none .sent, .scanReply 1]

/-- The technology leaves; the second scan is still in flight. -/
def afterLeft : State :=
  (play step Always started (overlapped ++ [.technologyRemoved "/t"])).get (by decide +kernel)

theorem not_always_cancelled : ¬ ∀ s, Reaches step Always Boot s → ScansLive s.reg := by
  intro always
  have live := always afterLeft ((Reaches.here started_boot).play _ (Option.some_get _).symm)
  exact absurd (live 2 0 (by decide +kernel)) (by decide +kernel)

def afterOverlapped : State := (play step CleanLeave started overlapped).get (by decide +kernel)

/-- After overlapping scans the technology must not leave. -/
theorem scans_iff_recorded_overlapped :
    ScansLive afterOverlapped.reg ∧
      ∀ s', step afterOverlapped (.technologyRemoved "/t") = some s' → ¬ ScansLive s'.reg := by
  have ran : play step CleanLeave started overlapped = some afterOverlapped := (Option.some_get _).symm
  have exact_ := scans_iff_recorded _ ((Reaches.here started_boot).play overlapped ran)
  refine ⟨exact_.1, fun s' ran live => ?_⟩
  exact absurd ((exact_.2 _ s' ran).mp live) (by decide +kernel)

end Technology

end ConnmanUi
