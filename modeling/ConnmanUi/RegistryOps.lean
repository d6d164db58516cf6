import Mathlib.Logic.Relation
import ConnmanUi.RegistryOwnership

/-!
What the modules do to their objects.

A step of either module, `connman_service_select` apart, is a `Change`: a
sequence of the operations `Op` lists, and at most one of the main loop's on
the timers or of a SetProperty reply's (`Acts`).  Most operations leave every
object where it is (`QuietOp`); the others create, remove or deselect.  An
invariant of the registry that each of them keeps is kept by every step of both
modules: `Change.invariant`.
-/

namespace ConnmanUi

/-- Any note but that of a changed property. -/
def Note.Plain {ι : Type} (n : Note ι) : Prop := ∀ o i, n ≠ .changed o i

namespace Registry

variable {ι ρ : Type} {r r' r'' : Registry ι ρ}
  {o o' : ObjId} {i : ι} {path : String}

section

/-- An object takes in a property. -/
def setData (r : Registry ι ρ) (o : ObjId) (rest : ρ) (index : Option ι) : Registry ι ρ :=
  r.modify o fun obj => { obj with rest := rest, updateIndex := index }

/-- An object's callbacks are set. -/
def setCallbacks (r : Registry ι ρ) (o : ObjId) (changed error : Option Callback) : Registry ι ρ :=
  r.modify o fun obj => { obj with propertyChangedCb := changed, propertySetErrorCb := error }

variable [DecidableEq ι]

/-- One operation that leaves every object where it is. -/
inductive QuietOp (r : Registry ι ρ) : Registry ι ρ → Prop where
  | noted (n : Note ι) (plain : n.Plain) : QuietOp r (r.note n)
  | data (o : ObjId) (rest : ρ) (index : Option ι) : QuietOp r (r.setData o rest index)
  | callbacks (o : ObjId) (changed error : Option Callback) :
      QuietOp r (r.setCallbacks o changed error)
  | updated (o : ObjId) (i : ι) (live : r.Live o) : QuietOp r (r.propertyUpdate o i)
  /-- A PropertyChanged signal for an object with a callback. -/
  | signalled (o : ObjId) (i : ι) (rest : ρ) (live : r.Live o) (idle : r.dispatching = none)
      (registered : (r.heap o).propertyChangedCb ≠ none) :
      QuietOp r (((r.note (.changed o i)).setData o rest (some i)).propertyUpdate o i)
  | sent (o : ObjId) (i : ι) (outcome : SendOutcome) (live : r.Live o) :
      QuietOp r (r.sendSetProperty o i outcome).1
  | timerRun {after : Registry ι ρ} (global : Option Callback) (id : Nat)
      (idle : r.dispatching = none) (ran : r.timerRun global id = some after) : QuietOp r after
  | refreshForgotten : QuietOp r { r with toRefresh := 0 }
  | scanned (o : ObjId) (callback : Option Callback) (outcome : SendOutcome) (live : r.Live o) :
      QuietOp r (r.sendScan o callback outcome).1
  | scanReplied {after : Registry ι ρ} (call : Nat) (ran : r.scanCallback call = some after) :
      QuietOp r after

/-- One operation on the objects. -/
inductive Op [PropertyIndex ι] [Inhabited ρ] (r : Registry ι ρ) : Registry ι ρ → Prop where
  | quiet {after : Registry ι ρ} (op : QuietOp r after) : Op r after
  | created (path : String) (absent : r.get path = none) : Op r (r.create path)
  | removed (path : String) : Op r (r.hashRemove objectFree path)
  | removedAll : Op r (r.hashRemoveAll objectFree)
  | deselected : Op r r.deselect

/-- One operation that removes nothing. -/
inductive GrowOp [PropertyIndex ι] [Inhabited ρ] (r : Registry ι ρ) : Registry ι ρ → Prop where
  | quiet {after : Registry ι ρ} (op : QuietOp r after) : GrowOp r after
  | created (path : String) (absent : r.get path = none) : GrowOp r (r.create path)

/-- What a step does besides such operations: nothing, or one of these. -/
inductive Act where
  | move
  | reply (call : Nat) (failed : Bool)
  | timerDone
  | refresh (id : Nat)
  | schedule

/-- A SetProperty is answered, or a timer is over. -/
inductive Acts [PropertyIndex ι] (r : Registry ι ρ) : Act → Registry ι ρ → Prop where
  | replied {after : Registry ι ρ} (call : Nat) (failed : Bool)
      (ran : r.setPropertyReply call failed = some after) : Acts r (.reply call failed) after
  | timerDone {after : Registry ι ρ} (ran : r.timerDone = some after) : Acts r .timerDone after
  | refreshDone (id : Nat) (due : r.sources.find id = some .refresh) :
      Acts r (.refresh id) (r.refreshDone id)

/-- A sequence of operations. -/
def Ops [PropertyIndex ι] [Inhabited ρ] : Registry ι ρ → Registry ι ρ → Prop := Relation.ReflTransGen Op

/-- A sequence of quiet operations. -/
def QuietOps : Registry ι ρ → Registry ι ρ → Prop := Relation.ReflTransGen QuietOp

/-- A sequence of operations that remove nothing. -/
def GrowOps [PropertyIndex ι] [Inhabited ρ] : Registry ι ρ → Registry ι ρ → Prop := Relation.ReflTransGen GrowOp

theorem Ops.refl [PropertyIndex ι] [Inhabited ρ] (r : Registry ι ρ) : Ops r r := Relation.ReflTransGen.refl

theorem Ops.one [PropertyIndex ι] [Inhabited ρ] (op : Op r r') : Ops r r' := Relation.ReflTransGen.single op

theorem Ops.trans [PropertyIndex ι] [Inhabited ρ] (first : Ops r r') (rest : Ops r' r'') : Ops r r'' :=
  Relation.ReflTransGen.trans first rest

theorem Ops.then [PropertyIndex ι] [Inhabited ρ]
    (first : Ops r r') (op : Op r' r'') : Ops r r'' := Relation.ReflTransGen.tail first op

theorem QuietOps.refl (r : Registry ι ρ) : QuietOps r r := Relation.ReflTransGen.refl

theorem QuietOps.one (op : QuietOp r r') : QuietOps r r' := Relation.ReflTransGen.single op

theorem QuietOps.trans (first : QuietOps r r') (rest : QuietOps r' r'') : QuietOps r r'' :=
  Relation.ReflTransGen.trans first rest

theorem QuietOps.then (first : QuietOps r r') (op : QuietOp r' r'') : QuietOps r r'' :=
  Relation.ReflTransGen.tail first op

variable [PropertyIndex ι] [Inhabited ρ]

theorem QuietOps.ops (quiet : QuietOps r r') : Ops r r' := by
  induction quiet with
  | refl => exact .refl r
  | tail _ op ih => exact ih.then (.quiet op)

theorem QuietOps.grow (quiet : QuietOps r r') : GrowOps r r' := by
  induction quiet with
  | refl => exact .refl
  | tail _ op ih => exact ih.tail (.quiet op)

theorem GrowOps.ops (grow : GrowOps r r') : Ops r r' := by
  induction grow with
  | refl => exact .refl r
  | tail _ op ih =>
    cases op with
    | quiet op => exact ih.then (.quiet op)
    | created path absent => exact ih.then (.created path absent)

theorem GrowOps.trans (first : GrowOps r r') (rest : GrowOps r' r'') : GrowOps r r'' :=
  Relation.ReflTransGen.trans first rest

/-- What a step may do to the objects; it schedules a refresh last. -/
inductive Change (r : Registry ι ρ) (a : Act) : Registry ι ρ → Prop where
  | ops {after : Registry ι ρ} (ops : Ops r after) : Change r a after
  | acted {middle after : Registry ι ρ} (acts : Acts r a middle) (ops : Ops middle after) :
      Change r a after
  | scheduled {middle : Registry ι ρ} (ops : Ops r middle) (schedule : a = .schedule) :
      Change r a middle.scheduleRefresh

end

/-! ## Frames -/

theorem scheduleRefresh_sameObjects [DecidableEq ι] (r : Registry ι ρ) :
    SameObjects r r.scheduleRefresh ∧ r.scheduleRefresh.watches = r.watches ∧
      r.scheduleRefresh.calls = r.calls := by
  have up := sourceRemove_if_upkeep r r.toRefresh
  unfold scheduleRefresh
  dsimp only
  generalize (if r.toRefresh ≠ 0 then r.sourceRemove r.toRefresh else r) = r₁ at up ⊢
  exact ⟨up.toSameObjects.trans ⟨rfl, rfl, rfl, rfl, rfl, fun _ => .refl _⟩, up.watches, up.calls⟩

theorem timerRun_upkeep {global : Option Callback} {id : Nat}
    (ran : r.timerRun global id = some r') : Upkeep r r' := by
  unfold Registry.timerRun at ran
  split at ran
  case h_2 => cases ran
  case h_1 c _ =>
    cases ran
    have started : Upkeep r { r with dispatching := some (id, c) } :=
      ⟨⟨rfl, rfl, rfl, rfl, rfl, fun _ => .refl _⟩, rfl, rfl, rfl⟩
    refine started.trans (Upkeep.trans ?_ (propertyChangedOrError_upkeep global _ c))
    split
    · exact .refl _
    · exact note_upkeep _ _

theorem timerDone_upkeep [DecidableEq ι] (ran : r.timerDone = some r') : Upkeep r r' := by
  unfold Registry.timerDone at ran
  split at ran
  case h_2 => cases ran
  case h_1 id c _ =>
    cases ran
    have ended : Upkeep r { r with dispatching := none } :=
      ⟨⟨rfl, rfl, rfl, rfl, rfl, fun _ => .refl _⟩, rfl, rfl, rfl⟩
    apply ended.trans
    split
    · exact sourceRemove_upkeep _ id
    · exact .refl _

theorem samePlace_of_calls (r : Registry ι ρ) (calls : Pool (PropertySetting ι)) :
    SamePlace r { r with calls := calls } := ⟨rfl, rfl, rfl, rfl, fun _ => rfl⟩

theorem sameObjects_of_scans (r : Registry ι ρ) (scans : Pool ScanCall) :
    SameObjects r { r with scans := scans } := ⟨rfl, rfl, rfl, rfl, rfl, fun _ => .refl _⟩

theorem sendSetProperty_place [DecidableEq ι]
    (outcome : SendOutcome) : SamePlace r (r.sendSetProperty o i outcome).1 := by
  have stored : ∀ (calls : Pool (PropertySetting ι)) (id : Nat),
      SamePlace r (Registry.modify { r with calls := calls } o fun obj =>
        { obj with callModify := Function.update obj.callModify i id }) :=
    fun calls id => (samePlace_of_calls r calls).trans (modify_place rfl)
  unfold Registry.sendSetProperty
  split
  · exact ⟨rfl, rfl, rfl, rfl, fun _ => rfl⟩
  · cases outcome with
    | noMessage => exact ⟨rfl, rfl, rfl, rfl, fun _ => rfl⟩
    | noSetting => exact ⟨rfl, rfl, rfl, rfl, fun _ => rfl⟩
    | refused => exact stored r.calls 0
    | noPending => exact stored r.calls 0
    | noNotify => exact stored _ _
    | sent => exact stored _ _

theorem setPropertyCb_place [DecidableEq ι] [PropertyIndex ι]
    (failed : Bool) : SamePlace r (setPropertyCb r o i failed) := by
  unfold setPropertyCb
  dsimp only
  have emptied : SamePlace r (r.modify o fun obj =>
      { obj with callModify := Function.update obj.callModify i 0 }) := modify_place rfl
  split
  · exact emptied
  · split
    · exact emptied.trans
        ((sourceRemove_if_upkeep _ _).trans (attachChange_upkeep _ _ _)).toSameObjects.place
    · exact emptied

theorem setPropertyReply_place [DecidableEq ι] [PropertyIndex ι] {call : Nat} {failed : Bool}
    (ran : r.setPropertyReply call failed = some r') : SamePlace r r' := by
  unfold Registry.setPropertyReply at ran
  split at ran
  case h_2 => cases ran
  case h_1 o i _ =>
    cases ran
    exact (samePlace_of_calls r (r.calls.detach call)).trans (setPropertyCb_place failed)

theorem sendScan_place (callback : Option Callback) (outcome : SendOutcome) :
    SamePlace r (r.sendScan o callback outcome).1 := by
  have stored : ∀ (scans : Pool ScanCall) (id : Nat) (callback : Option Callback),
      SamePlace r (Registry.modify { r with scans := scans } o fun obj =>
        { obj with scanCb := callback, scanCall := id }) :=
    fun scans id callback => (sameObjects_of_scans r scans).place.trans (modify_place rfl)
  cases outcome with
  | noMessage => exact ⟨rfl, rfl, rfl, rfl, fun _ => rfl⟩
  | refused => exact stored r.scans 0 none
  | noPending => exact stored r.scans 0 none
  | noNotify => exact stored _ _ _
  | sent => exact stored _ _ _
  | noSetting => exact stored _ _ _

theorem scanCallback_frame {call : Nat} (ran : r.scanCallback call = some r') :
    SamePlace r r' ∧ (Owned r → Owned r') := by
  unfold Registry.scanCallback at ran
  split at ran
  case h_2 => cases ran
  case h_1 o _ =>
    have replied : SamePlace r (Registry.modify { r with scans := r.scans.detach call } o fun obj =>
        { obj with scanCall := 0 }) :=
      (sameObjects_of_scans r (r.scans.detach call)).place.trans (modify_place rfl)
    have kept : Owned r → Owned (Registry.modify { r with scans := r.scans.detach call } o fun obj =>
        { obj with scanCall := 0 }) := fun owned =>
      Owned.modify (owned.frame (sameObjects_of_scans r (r.scans.detach call)) rfl rfl) rfl rfl rfl
    dsimp only at ran
    split at ran
    · cases ran
      exact ⟨replied, kept⟩
    · cases ran
      exact ⟨replied.trans (note_upkeep _ _).toSameObjects.place,
        fun owned => (kept owned).upkeep (note_upkeep _ _)⟩

theorem QuietOp.place [DecidableEq ι] (op : QuietOp r r') : SamePlace r r' := by
  cases op with
  | noted n => exact (note_upkeep r n).toSameObjects.place
  | data o rest index => exact modify_place rfl
  | callbacks o changed error => exact modify_place rfl
  | updated o i => exact (propertyUpdate_upkeep r o i).toSameObjects.place
  | signalled o i rest =>
    have taken : SamePlace (r.note (.changed o i)) ((r.note (.changed o i)).setData o rest (some i)) :=
      modify_place rfl
    exact ((note_upkeep r (.changed o i)).toSameObjects.place.trans taken).trans
      (propertyUpdate_upkeep _ o i).toSameObjects.place
  | sent o i outcome => exact sendSetProperty_place outcome
  | timerRun global id idle ran => exact (timerRun_upkeep ran).toSameObjects.place
  | refreshForgotten => exact ⟨rfl, rfl, rfl, rfl, fun _ => rfl⟩
  | scanned o callback outcome => exact sendScan_place callback outcome
  | scanReplied call ran => exact (scanCallback_frame ran).1

theorem QuietOps.place [DecidableEq ι] (ops : QuietOps r r') : SamePlace r r' := by
  induction ops with
  | refl => exact ⟨rfl, rfl, rfl, rfl, fun _ => rfl⟩
  | tail _ op ih => exact ih.trans op.place

theorem Acts.place [DecidableEq ι] [PropertyIndex ι] {a : Act} (acts : Acts r a r') : SamePlace r r' := by
  cases acts with
  | replied call failed ran => exact setPropertyReply_place ran
  | timerDone ran => exact (timerDone_upkeep ran).toSameObjects.place
  | refreshDone id => exact ⟨rfl, rfl, rfl, rfl, fun _ => rfl⟩

/-! ## Ownership -/

section

theorem Owned.sendScan {callback : Option Callback} {outcome : SendOutcome} (owned : Owned r) :
    Owned (r.sendScan o callback outcome).1 := by
  have stored : ∀ (scans : Pool ScanCall) (id : Nat) (callback : Option Callback),
      Owned (Registry.modify { r with scans := scans } o fun obj =>
        { obj with scanCb := callback, scanCall := id }) := fun scans id callback =>
    Owned.modify (owned.frame (sameObjects_of_scans r scans) rfl rfl) rfl rfl rfl
  cases outcome with
  | noMessage => exact owned
  | refused => exact stored r.scans 0 none
  | noPending => exact stored r.scans 0 none
  | noNotify => exact stored (r.scans.attach ⟨o, false⟩) r.scans.fresh none
  | sent => exact stored (r.scans.attach ⟨o, true⟩) r.scans.fresh callback
  | noSetting => exact stored (r.scans.attach ⟨o, true⟩) r.scans.fresh callback

variable [DecidableEq ι]

theorem Owned.quietOp (owned : Owned r) (op : QuietOp r r') : Owned r' := by
  cases op with
  | noted n => exact owned.upkeep (note_upkeep r n)
  | data o rest index => exact owned.modify rfl rfl rfl
  | callbacks o changed error => exact owned.modify rfl rfl rfl
  | updated o i => exact owned.upkeep (propertyUpdate_upkeep r o i)
  | signalled o i rest =>
    have noted := owned.upkeep (note_upkeep r (.changed o i))
    have taken : Owned ((r.note (.changed o i)).setData o rest (some i)) := noted.modify rfl rfl rfl
    exact taken.upkeep (propertyUpdate_upkeep _ o i)
  | sent o i outcome live => exact owned.sendSetProperty live i outcome
  | timerRun global id idle ran => exact owned.upkeep (timerRun_upkeep ran)
  | refreshForgotten => exact owned.frame ⟨rfl, rfl, rfl, rfl, rfl, fun _ => .refl _⟩ rfl rfl
  | scanned o callback outcome => exact owned.sendScan
  | scanReplied call ran => exact (scanCallback_frame ran).2 owned

theorem Owned.op [PropertyIndex ι] [Inhabited ρ] (owned : Owned r) (op : Op r r') : Owned r' := by
  cases op with
  | quiet op => exact owned.quietOp op
  | created path absent => exact owned.create absent
  | removed path => exact owned.hashRemove path
  | removedAll => exact owned.hashRemoveAll
  | deselected => exact owned.deselect

theorem Owned.acts [PropertyIndex ι] {a : Act} (owned : Owned r) (acts : Acts r a r') : Owned r' := by
  cases acts with
  | replied call failed ran => exact owned.setPropertyReply ran
  | timerDone ran => exact owned.upkeep (timerDone_upkeep ran)
  | refreshDone id => exact owned.frame ⟨rfl, rfl, rfl, rfl, rfl, fun _ => .refl _⟩ rfl rfl

theorem Owned.scheduleRefresh (owned : Owned r) : Owned r.scheduleRefresh := by
  obtain ⟨same, watches, calls⟩ := scheduleRefresh_sameObjects r
  exact owned.frame same watches calls

variable [PropertyIndex ι] [Inhabited ρ]

/-- What holds of a registry that is owned, and is kept by each operation,
holds after any sequence of them. -/
theorem Ops.invariant {I : Registry ι ρ → Prop} (ops : Ops r r') (owned : Owned r) (inv : I r)
    (kept : ∀ r r', Owned r → I r → Op r r' → I r') : Owned r' ∧ I r' := by
  induction ops with
  | refl => exact ⟨owned, inv⟩
  | tail _ op ih => exact ⟨ih.1.op op, kept _ _ ih.1 ih.2 op⟩

theorem Owned.ops (owned : Owned r) (ops : Ops r r') : Owned r' :=
  (ops.invariant owned trivial fun _ _ _ _ _ => trivial).1

/-- What each operation keeps, what answers and timers keep and what a refresh
keeps, every step keeps. -/
theorem Change.invariant {I : Registry ι ρ → Prop} {a : Act} (change : Change r a r')
    (owned : Owned r) (inv : I r)
    (kept : ∀ r r', Owned r → I r → Op r r' → I r')
    (acted : ∀ r', Owned r → I r → Acts r a r' → I r')
    (scheduled : ∀ r, Owned r → I r → a = .schedule → I r.scheduleRefresh) :
    Owned r' ∧ I r' := by
  cases change with
  | ops ops => exact ops.invariant owned inv kept
  | acted acts ops => exact ops.invariant (owned.acts acts) (acted _ owned inv acts) kept
  | scheduled ops schedule =>
    obtain ⟨owned, inv⟩ := ops.invariant owned inv kept
    exact ⟨owned.scheduleRefresh, scheduled _ owned inv schedule⟩

theorem Owned.change {a : Act} (owned : Owned r) (change : Change r a r') : Owned r' :=
  (change.invariant owned trivial (fun _ _ _ _ _ => trivial) (fun _ _ _ _ => trivial)
    fun _ _ _ _ => trivial).1

end

/-! ## What stays found -/

variable [DecidableEq ι] [PropertyIndex ι] [Inhabited ρ]

theorem Held.op (held : Held r) (owned : Owned r) (op : Op r r') : Held r' := by
  cases op with
  | quiet op => exact held.place op.place
  | created path absent => exact held.create owned absent
  | removed path => exact held.hashRemove owned path
  | removedAll => exact held.hashRemoveAll owned
  | deselected => exact held.deselect owned

theorem Held.ops (held : Held r) (owned : Owned r) (ops : Ops r r') : Held r' :=
  (ops.invariant owned held fun _ _ owned held op => held.op owned op).2

theorem Held.change {a : Act} (held : Held r) (owned : Owned r) (change : Change r a r') : Held r' :=
  (change.invariant owned held (fun _ _ owned held op => held.op owned op)
    (fun _ _ held acts => held.place acts.place)
    fun r _ held _ => held.place (scheduleRefresh_sameObjects r).1.place).2

/-- Without `connman_service_select` nothing is ever selected. -/
theorem Op.unselected (op : Op r r') (unselected : r.selected = none) : r'.selected = none := by
  cases op with
  | quiet op => exact op.place.selected.trans unselected
  | created path => exact unselected
  | removed path =>
    unfold Registry.hashRemove
    split
    · exact unselected
    · exact (objectFree_selected _ _).trans unselected
  | removedAll => exact (hashRemoveAll_selected r).trans unselected
  | deselected => exact deselect_selected r

theorem Change.unselected {a : Act} (change : Change r a r') (owned : Owned r)
    (unselected : r.selected = none) : r'.selected = none :=
  (change.invariant owned unselected (fun _ _ _ unselected op => op.unselected unselected)
    (fun _ _ unselected acts => acts.place.selected.trans unselected)
    fun r _ unselected _ => (scheduleRefresh_sameObjects r).1.selected.trans unselected).2

end Registry

end ConnmanUi
