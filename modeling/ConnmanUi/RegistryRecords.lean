import ConnmanUi.RegistryOps

/-!
What the objects hold under their paths.

While nothing is selected the table is all there is to a registry's contents:
`record` reads it as a function of the path, and the lemmas say what each
operation does to it.  An object of the table has a watch (`Watched`), so the
bus delivers its PropertyChanged signals exactly while there is one under the
path (`watching_some`, `watching_of_get`).
-/

namespace ConnmanUi.Registry

variable {ι ρ : Type} {r r' r'' : Registry ι ρ}
  {o o' : ObjId} {i : ι} {path : String}

/-- What is kept under a path. -/
def record (r : Registry ι ρ) (path : String) : Option ρ := (r.get path).map fun o => (r.heap o).rest

/-- The watch for PropertyChanged signals from a path. -/
def watching (r : Registry ι ρ) (path : String) : Option Nat :=
  (r.watches.live.map Prod.fst).find? fun wid =>
    (r.watches.find wid).map (fun o => (r.heap o).path) = some path

/-- Every live object has a watch. -/
def Watched (r : Registry ι ρ) : Prop := ∀ o, r.Live o → (r.heap o).propertyChangedWid ≠ 0

/-- `r'` has the objects of `r` where they are, with their watches and what
they hold. -/
structure SameData (r r' : Registry ι ρ) : Prop extends SamePlace r r' where
  rest : ∀ o, (r'.heap o).rest = (r.heap o).rest
  wid : ∀ o, (r'.heap o).propertyChangedWid = (r.heap o).propertyChangedWid

/-! ## Operations that keep the data -/

theorem SameData.refl (r : Registry ι ρ) : SameData r r :=
  ⟨⟨rfl, rfl, rfl, rfl, fun _ => rfl⟩, fun _ => rfl, fun _ => rfl⟩

theorem SameData.trans (first : SameData r r') (rest : SameData r' r'') : SameData r r'' :=
  ⟨first.toSamePlace.trans rest.toSamePlace, fun o => (rest.rest o).trans (first.rest o),
    fun o => (rest.wid o).trans (first.wid o)⟩

theorem SameObjects.sameData (same : SameObjects r r') : SameData r r' :=
  ⟨same.place, fun o => (same.object o).rest, fun o => (same.object o).propertyChangedWid⟩

/-- Rewriting an object keeps what it keeps of the object. -/
theorem modify_field {γ : Type} {f : Object ι ρ → Object ι ρ} (field : Object ι ρ → γ)
    (same : field (f (r.heap o)) = field (r.heap o)) (o' : ObjId) :
    field ((r.modify o f).heap o') = field (r.heap o') := by
  rw [heap_modify]
  split
  case isTrue here => rw [same, here]
  case isFalse => rfl

theorem modify_sameData {f : Object ι ρ → Object ι ρ} (path : (f (r.heap o)).path = (r.heap o).path)
    (rest : (f (r.heap o)).rest = (r.heap o).rest)
    (wid : (f (r.heap o)).propertyChangedWid = (r.heap o).propertyChangedWid) : SameData r (r.modify o f) :=
  ⟨modify_place path, modify_field Object.rest rest, modify_field Object.propertyChangedWid wid⟩

theorem setCallbacks_sameData (r : Registry ι ρ) (o : ObjId) (changed error : Option Callback) :
    SameData r (r.setCallbacks o changed error) := modify_sameData rfl rfl rfl

theorem sendSetProperty_sameData [DecidableEq ι]
    (outcome : SendOutcome) : SameData r (r.sendSetProperty o i outcome).1 := by
  have stored : ∀ (calls : Pool (PropertySetting ι)) (id : Nat),
      SameData r (Registry.modify { r with calls := calls } o fun obj =>
        { obj with callModify := Function.update obj.callModify i id }) := by
    intro calls id
    have called : SameData r { r with calls := calls } :=
      ⟨samePlace_of_calls r calls, fun _ => rfl, fun _ => rfl⟩
    exact called.trans (modify_sameData rfl rfl rfl)
  unfold Registry.sendSetProperty
  split
  · exact .refl r
  · cases outcome with
    | noMessage => exact .refl r
    | noSetting => exact .refl r
    | refused => exact stored r.calls 0
    | noPending => exact stored r.calls 0
    | noNotify => exact stored _ _
    | sent => exact stored _ _

theorem setPropertyReply_sameData [DecidableEq ι] [PropertyIndex ι] {call : Nat} {failed : Bool}
    (ran : r.setPropertyReply call failed = some r') : SameData r r' := by
  unfold Registry.setPropertyReply at ran
  split at ran
  case h_2 => cases ran
  case h_1 o i _ =>
    cases ran
    have detached : SameData r { r with calls := r.calls.detach call } :=
      ⟨samePlace_of_calls r _, fun _ => rfl, fun _ => rfl⟩
    apply detached.trans
    unfold setPropertyCb
    dsimp only
    split
    · exact modify_sameData rfl rfl rfl
    · split
      · exact (modify_sameData rfl rfl rfl).trans
          ((sourceRemove_if_upkeep _ _).trans (attachChange_upkeep _ _ _)).toSameObjects.sameData
      · exact modify_sameData rfl rfl rfl

theorem sendScan_sameData (callback : Option Callback) (outcome : SendOutcome) :
    SameData r (r.sendScan o callback outcome).1 := by
  have stored : ∀ (scans : Pool ScanCall) (id : Nat) (callback : Option Callback),
      SameData r (Registry.modify { r with scans := scans } o fun obj =>
        { obj with scanCb := callback, scanCall := id }) := fun scans id callback =>
    (sameObjects_of_scans r scans).sameData.trans (modify_sameData rfl rfl rfl)
  cases outcome with
  | noMessage => exact .refl r
  | refused => exact stored r.scans 0 none
  | noPending => exact stored r.scans 0 none
  | noNotify => exact stored _ _ _
  | sent => exact stored _ _ _
  | noSetting => exact stored _ _ _

theorem scanCallback_sameData {call : Nat} (ran : r.scanCallback call = some r') : SameData r r' := by
  unfold Registry.scanCallback at ran
  split at ran
  case h_2 => cases ran
  case h_1 o _ =>
    have replied : SameData r (Registry.modify { r with scans := r.scans.detach call } o fun obj =>
        { obj with scanCall := 0 }) :=
      (sameObjects_of_scans r (r.scans.detach call)).sameData.trans (modify_sameData rfl rfl rfl)
    dsimp only at ran
    split at ran
    · cases ran
      exact replied
    · cases ran
      exact replied.trans (note_upkeep _ _).toSameObjects.sameData

theorem Acts.sameData [DecidableEq ι] [PropertyIndex ι] {a : Act} (acts : Acts r a r') : SameData r r' := by
  cases acts with
  | replied call failed ran => exact setPropertyReply_sameData ran
  | timerDone ran => exact (timerDone_upkeep ran).toSameObjects.sameData
  | refreshDone id => exact ⟨⟨rfl, rfl, rfl, rfl, fun _ => rfl⟩, fun _ => rfl, fun _ => rfl⟩

/-! ## Watches -/

/-- No operation that leaves the objects where they are touches a watch. -/
theorem QuietOp.wid [DecidableEq ι] (op : QuietOp r r') (o : ObjId) :
    (r'.heap o).propertyChangedWid = (r.heap o).propertyChangedWid := by
  cases op with
  | noted n => rfl
  | data o' rest index => exact modify_field Object.propertyChangedWid rfl o
  | callbacks o' changed error => exact modify_field Object.propertyChangedWid rfl o
  | updated o' i => exact ((propertyUpdate_upkeep r o' i).object o).propertyChangedWid
  | signalled o' i rest =>
    have taken := modify_field (r := r.note (.changed o' i)) (o := o')
      (f := fun obj => { obj with rest := rest, updateIndex := some i }) Object.propertyChangedWid rfl o
    exact ((propertyUpdate_upkeep _ o' i).object o).propertyChangedWid.trans taken
  | sent o' i outcome => exact (sendSetProperty_sameData outcome).wid o
  | timerRun global id idle ran => exact ((timerRun_upkeep ran).object o).propertyChangedWid
  | refreshForgotten => rfl
  | scanned o' callback outcome => exact (sendScan_sameData callback outcome).wid o
  | scanReplied call ran => exact (scanCallback_sameData ran).wid o

theorem Watched.same (watched : Watched r) (alive : ∀ o, r'.Live o → r.Live o)
    (wid : ∀ o, r'.Live o → (r'.heap o).propertyChangedWid = (r.heap o).propertyChangedWid) : Watched r' := by
  intro o live
  rw [wid o live]
  exact watched o (alive o live)

theorem wid_objectFree [DecidableEq ι] [PropertyIndex ι] [Inhabited ρ] (live : (r.objectFree o).Live o') :
    ((r.objectFree o).heap o').propertyChangedWid = (r.heap o').propertyChangedWid := by
  have other := ((objectFree_live r o o').mp live).2
  unfold Registry.objectFree
  split
  case isTrue => rfl
  case isFalse unselected =>
    have kept : ((r.releaseHandles o).storageFree o).heap o' = (r.releaseHandles o).heap o' :=
      Function.update_of_ne (fun eq => unselected (other eq)) _ _
    rw [kept, ((releaseHandles_spec o r).1.object o').propertyChangedWid]

theorem Watched.objectFree [DecidableEq ι] [PropertyIndex ι] [Inhabited ρ]
    (watched : Watched r) (o : ObjId) : Watched (r.objectFree o) :=
  watched.same (fun o' live => ((objectFree_live r o o').mp live).1) fun _ live => wid_objectFree live

theorem Watched.hashRemove [DecidableEq ι] [PropertyIndex ι] [Inhabited ρ] (watched : Watched r) (path : String) :
    Watched (r.hashRemove Registry.objectFree path) := by
  unfold Registry.hashRemove
  split
  · exact watched
  case h_2 o _ => exact Watched.objectFree (r := { r with table := r.table.filter (·.1 ≠ path) }) watched o

theorem Watched.freeAll [DecidableEq ι] [PropertyIndex ι] [Inhabited ρ]
    (leaving : List (String × ObjId)) (watched : Watched r) :
    Watched (leaving.foldl (fun r entry => r.objectFree entry.2) r) := by
  induction leaving generalizing r with
  | nil => exact watched
  | cons entry leaving ih => exact ih (watched.objectFree entry.2)

theorem Watched.op [DecidableEq ι] [PropertyIndex ι] [Inhabited ρ]
    (watched : Watched r) (owned : Owned r) (op : Op r r') : Watched r' := by
  cases op with
  | quiet op => exact watched.same (fun o live => (op.place.live o).mp live) fun o _ => op.wid o
  | created path absent =>
    intro o live
    by_cases new : o = r.next
    · subst new
      simp [Registry.create, Pool.fresh_ne_zero]
    · have old := ((live_create owned path o).mp live).resolve_right new
      rw [heap_create_of_live path old]
      exact watched o old
  | removed path => exact watched.hashRemove path
  | removedAll => exact Watched.freeAll (r := { r with table := [] }) r.table watched
  | deselected =>
    unfold Registry.deselect
    split
    · exact watched
    · dsimp only
      split
      · exact Watched.objectFree (r := { r with selected := none }) watched _
      · exact watched

theorem Watched.change [DecidableEq ι] [PropertyIndex ι] [Inhabited ρ]
    {a : Act} (watched : Watched r) (owned : Owned r) (change : Change r a r') : Watched r' :=
  (change.invariant owned watched (fun _ _ owned watched op => watched.op owned op)
    (fun _ _ watched acts => watched.same (fun o live => (acts.place.live o).mp live)
      fun o _ => acts.sameData.wid o)
    fun r _ watched _ => watched.same (fun o live => ((scheduleRefresh_sameObjects r).1.live o).mp live)
      fun o _ => ((scheduleRefresh_sameObjects r).1.object o).propertyChangedWid).2

/-- There is a watch for a path exactly when there is an object under it, and it
is that object's. -/
theorem watching_some (owned : Owned r) (held : Held r) {wid : Nat} (watches : r.watching path = some wid) :
    ∃ o, r.watches.find wid = some o ∧ r.get path = some o := by
  have named := List.find?_some watches
  simp only [decide_eq_true_eq, Option.map_eq_some_iff] at named
  obtain ⟨o, found, rfl⟩ := named
  exact ⟨o, found, (held o (owned.watch_live found)).2⟩

theorem watching_of_get (owned : Owned r) (watched : Watched r) (found : r.get path = some o) :
    ∃ wid, r.watching path = some wid := by
  obtain ⟨live, named, _⟩ := owned.get_spec found
  obtain ⟨o', there, own⟩ := owned.watched.holds o (watched o live)
  cases own
  refine Option.isSome_iff_exists.mp (List.find?_isSome.mpr ⟨(r.heap o).propertyChangedWid, ?_, ?_⟩)
  · obtain ⟨before, after, eq, _⟩ := List.lookup_eq_some_iff.mp there
    rw [eq]
    simp
  · simp [there, named]

/-! ## Records -/

theorem SameData.record (same : SameData r r') : r'.record = r.record := by
  funext path
  unfold Registry.record
  rw [same.get]
  cases r.get path with
  | none => rfl
  | some o => exact congrArg some (same.rest o)

/-- An object takes in data: what is kept under its path changes. -/
theorem record_setData (owned : Owned r) (found : r.Found o) (rest : ρ) (index : Option ι) :
    (r.setData o rest index).record = Function.update r.record (r.heap o).path (some rest) := by
  have place : SamePlace r (r.setData o rest index) := modify_place rfl
  funext path
  unfold Registry.record
  rw [place.get]
  by_cases here : path = (r.heap o).path
  · rw [here, Function.update_self, found.2]
    simp [setData, modify]
  · rw [Function.update_of_ne here]
    cases there : r.get path with
    | none => rfl
    | some o' =>
      have other : o' ≠ o := fun same => here ((owned.get_spec there).2.1.symm.trans (congrArg (r.heap · |>.path) same))
      simp [setData, modify, Function.update_of_ne other]

theorem record_create [PropertyIndex ι] [Inhabited ρ]
    (owned : Owned r) (unselected : r.selected = none) (path : String) :
    (r.create path).record = Function.update r.record path (some default) := by
  have blank : (Object.blank : Object ι ρ).rest = default := rfl
  funext other
  unfold Registry.record Registry.get
  by_cases here : other = path
  · simp [Registry.create, here, blank]
  · rw [Function.update_of_ne here]
    simp only [Registry.create, List.lookup_cons, beq_eq_false_iff_ne.mpr here, unselected]
    cases there : r.table.lookup other with
    | none => rfl
    | some o =>
      have live := (owned.entries other o (lookup_mem there)).1
      have old : o ≠ r.next := fun same => next_not_live r (same ▸ live)
      simp [Function.update_of_ne old]

theorem rest_objectFree [DecidableEq ι] [PropertyIndex ι] [Inhabited ρ]
    (live : (r.objectFree o).Live o') : ((r.objectFree o).heap o').rest = (r.heap o').rest := by
  have other := ((objectFree_live r o o').mp live).2
  unfold Registry.objectFree
  split
  case isTrue => rfl
  case isFalse unselected =>
    have kept : ((r.releaseHandles o).storageFree o).heap o' = (r.releaseHandles o).heap o' :=
      Function.update_of_ne (fun eq => unselected (other eq)) _ _
    rw [kept, ((releaseHandles_spec o r).1.object o').rest]

/-- With nothing selected, what is kept under a path is the table's. -/
theorem record_eq (unselected : r.selected = none) (path : String) :
    r.record path = (r.table.lookup path).map fun o => (r.heap o).rest := by
  unfold Registry.record Registry.get
  rw [unselected]
  cases r.table.lookup path with
  | none => rfl
  | some o => rfl

/-- An entry leaves the table: nothing is kept under its path any more. -/
theorem record_hashRemove [DecidableEq ι] [PropertyIndex ι] [Inhabited ρ]
    (owned : Owned r) (unselected : r.selected = none) (path : String) :
    (r.hashRemove Registry.objectFree path).record = Function.update r.record path none := by
  have owned' := owned.hashRemove path
  have unselected' : (r.hashRemove Registry.objectFree path).selected = none :=
    (Op.removed path).unselected unselected
  funext other
  rw [record_eq unselected', hashRemove_table, lookup_filter_ne]
  by_cases here : other = path
  · rw [if_pos here, here, Function.update_self]
    rfl
  · rw [if_neg here, Function.update_of_ne here, record_eq unselected]
    cases there : r.table.lookup other with
    | none => rfl
    | some o =>
      have kept : (r.hashRemove Registry.objectFree path).table.lookup other = some o := by
        rw [hashRemove_table, lookup_filter_ne, if_neg here, there]
      have live := (owned'.entries other o (lookup_mem kept)).1
      unfold Registry.hashRemove at live ⊢
      split
      · rfl
      case h_2 leaving entry =>
        rw [entry] at live
        exact congrArg some (rest_objectFree live)

end ConnmanUi.Registry
