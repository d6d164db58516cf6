import ConnmanUi.SettingCalls
import ConnmanUi.TechnologyScans

/-!
Requests that fail.

libdbus writes the pending call into the object's slot before its notify
function is registered, and nothing empties the slot when that fails;
`connman_technology_scan` moreover stores its callback before it sends and
stores NULL when it fails, so what an earlier scan left there is lost.
`traceless_iff` says which failures leave the state of the requests alone, and
`blocked_technology` and `blocked_service` what becomes of a property whose
slot was filled so.
-/

namespace ConnmanUi

open Registry Run

namespace Registry

variable {ι ρ : Type} {r r' : Registry ι ρ}
  {o : ObjId} {i : ι} {outcome : SendOutcome} {callback : Option Callback}

/-! ## SetProperty -/

/-- The failures of a set that leave its slot alone: it was in use already, or
no call got into it. -/
def TracelessSet (r : Registry ι ρ) (o : ObjId) (i : ι) (outcome : SendOutcome) : Prop :=
  (r.heap o).callModify i ≠ 0 ∨ outcome ≠ .noNotify

instance : Decidable (r.TracelessSet o i outcome) := inferInstanceAs (Decidable (_ ∨ _))

/-- A failed set leaves the fresh call in its slot, or what was there. -/
theorem sendSetProperty_slot [DecidableEq ι] (failed : (r.sendSetProperty o i outcome).2 < 0) :
    ((r.sendSetProperty o i outcome).1.heap o).callModify i =
      if r.TracelessSet o i outcome then (r.heap o).callModify i else r.calls.fresh := by
  have stored : ∀ (calls : Pool (PropertySetting ι)) (id : Nat),
      ((Registry.modify { r with calls := calls } o fun obj =>
        { obj with callModify := Function.update obj.callModify i id }).heap o).callModify i = id := by
    intro calls id
    rw [heap_modify, if_pos rfl]
    exact Function.update_self ..
  unfold Registry.sendSetProperty at failed ⊢
  by_cases used : (r.heap o).callModify i = 0
  · rw [if_neg (not_not.mpr used)] at failed ⊢
    cases outcome with
    | sent => exact absurd failed (lt_irrefl 0)
    | noMessage => exact (if_pos (Or.inr nofun)).symm
    | noSetting => exact (if_pos (Or.inr nofun)).symm
    | refused => exact (stored r.calls 0).trans (used.symm.trans (if_pos (Or.inr nofun)).symm)
    | noPending => exact (stored r.calls 0).trans (used.symm.trans (if_pos (Or.inr nofun)).symm)
    | noNotify =>
      have trace : ¬ r.TracelessSet o i .noNotify := not_or.mpr ⟨not_not.mpr used, not_not.mpr rfl⟩
      exact (stored _ _).trans (if_neg trace).symm
  · rw [if_pos used]
    exact (if_pos (Or.inl used)).symm

theorem sendSetProperty_traceless_iff [DecidableEq ι] (failed : (r.sendSetProperty o i outcome).2 < 0) :
    ((r.sendSetProperty o i outcome).1.heap o).callModify i = (r.heap o).callModify i ↔
      r.TracelessSet o i outcome := by
  rw [sendSetProperty_slot failed]
  constructor
  · intro same
    by_contra trace
    have empty : (r.heap o).callModify i = 0 := not_not.mp fun used => trace (.inl used)
    rw [if_neg trace, empty] at same
    exact r.calls.fresh_ne_zero same
  · intro traceless
    exact if_pos traceless

/-! ## Scan -/

/-- The failures of a scan that leave the technology alone: no message was
made; or no call got into the slot, which was empty, and no callback was
stored. -/
def TracelessScan (r : Registry ι ρ) (o : ObjId) (outcome : SendOutcome) : Prop :=
  outcome = .noMessage ∨
    outcome ≠ .noNotify ∧ (r.heap o).scanCall = 0 ∧ (r.heap o).scanCb = none

instance : Decidable (r.TracelessScan o outcome) := inferInstanceAs (Decidable (_ ∨ _ ∧ _))

/-- The call a scan would get is not the one recorded. -/
theorem ScansHeld.fresh_ne (held : ScansHeld r) (o : ObjId) : r.scans.fresh ≠ (r.heap o).scanCall := by
  intro same
  have used : (r.heap o).scanCall ≠ 0 := same ▸ r.scans.fresh_ne_zero
  obtain ⟨scan, found, _⟩ := held o used
  rw [← same, Pool.find_fresh] at found
  cases found

/-- A failed scan touches nothing but the technology's call and callback. -/
theorem sendScan_stored (failed : (r.sendScan o callback outcome).2 < 0) (o' : ObjId) :
    (((r.sendScan o callback outcome).1.heap o').scanCall, ((r.sendScan o callback outcome).1.heap o').scanCb) =
      if o' = o ∧ outcome ≠ .noMessage then (if outcome = .noNotify then r.scans.fresh else 0, none)
      else ((r.heap o').scanCall, (r.heap o').scanCb) := by
  have stored : ∀ (scans : Pool ScanCall) (id : Nat),
      (((Registry.modify { r with scans := scans } o fun obj =>
          { obj with scanCb := none, scanCall := id }).heap o').scanCall,
        ((Registry.modify { r with scans := scans } o fun obj =>
          { obj with scanCb := none, scanCall := id }).heap o').scanCb) =
        if o' = o then (id, none) else ((r.heap o').scanCall, (r.heap o').scanCb) := by
    intro scans id
    rw [heap_modify]
    split
    · rfl
    · rfl
  cases outcome with
  | sent => exact absurd failed (lt_irrefl 0)
  | noSetting => exact absurd failed (lt_irrefl 0)
  | noMessage => simp [Registry.sendScan]
  | refused => exact (stored r.scans 0).trans (by simp)
  | noPending => exact (stored r.scans 0).trans (by simp)
  | noNotify => exact (stored (r.scans.attach ⟨o, false⟩) r.scans.fresh).trans (by simp)

theorem sendScan_traceless_iff (held : ScansHeld r) (failed : (r.sendScan o callback outcome).2 < 0) :
    (∀ o', ((r.sendScan o callback outcome).1.heap o').scanCall = (r.heap o').scanCall ∧
      ((r.sendScan o callback outcome).1.heap o').scanCb = (r.heap o').scanCb) ↔
      r.TracelessScan o outcome := by
  have stored := sendScan_stored failed
  constructor
  · intro same
    have here := stored o
    rw [(same o).1, (same o).2] at here
    by_cases unsent : outcome = .noMessage
    · exact .inl unsent
    rw [if_pos ⟨rfl, unsent⟩] at here
    obtain ⟨call, cb⟩ := Prod.mk.inj here
    refine .inr ⟨fun unheard => ?_, ?_, cb⟩
    · rw [if_pos unheard] at call
      exact held.fresh_ne o call.symm
    · split at call
      · exact absurd call.symm (held.fresh_ne o)
      · exact call
  · intro traceless o'
    have here := stored o'
    rcases traceless with unsent | ⟨heard, call, cb⟩
    · rw [if_neg fun both => both.2 unsent] at here
      exact Prod.mk.inj here
    · rw [if_neg heard] at here
      split at here
      case isTrue own =>
        rw [own.1, call, cb]
        rw [own.1] at here
        exact Prod.mk.inj here
      case isFalse => exact Prod.mk.inj here

/-! ## Blocked properties -/

/-- The slot of the property holds a call whose reply nobody waits for, as long
as the object is there. -/
def Blocked (r : Registry ι ρ) (o : ObjId) (i : ι) : Prop :=
  o < r.next ∧ (r.Live o → ∃ call, r.calls.find call = some ⟨o, i, false⟩)

theorem Blocked.refused [DecidableEq ι] (blocked : Blocked r o i) (owned : Owned r) (alive : r.Live o)
    (outcome : SendOutcome) : r.sendSetProperty o i outcome = (r, -EINVAL) := by
  obtain ⟨call, found⟩ := blocked.2 alive
  have used : (r.heap o).callModify i ≠ 0 := by
    rw [owned.slot_eq ⟨false, found⟩]
    exact Pool.ne_zero_of_find found
  unfold Registry.sendSetProperty
  rw [if_pos used]

/-- A set whose notify function is not registered blocks the property. -/
theorem blocked_of_trace [DecidableEq ι] (alive : r.Live o) (failed : (r.sendSetProperty o i outcome).2 < 0)
    (trace : ¬ r.TracelessSet o i outcome) : Blocked (r.sendSetProperty o i outcome).1 o i := by
  obtain ⟨empty, unheard⟩ := not_or.mp trace
  rw [not_not] at empty unheard
  subst unheard
  unfold Registry.sendSetProperty
  rw [if_neg (not_not.mpr empty)]
  refine ⟨alive.1, fun _ => ⟨r.calls.fresh, ?_⟩⟩
  exact (Pool.find_attach _ _ _).trans (if_pos rfl)

theorem Blocked.frame (blocked : Blocked r o i) (place : SamePlace r r')
    (kept : ∀ call, r.calls.find call = some ⟨o, i, false⟩ → r'.calls.find call = some ⟨o, i, false⟩) :
    Blocked r' o i := by
  refine ⟨place.next ▸ blocked.1, fun alive => ?_⟩
  obtain ⟨call, found⟩ := blocked.2 ((place.live o).mp alive)
  exact ⟨call, kept call found⟩

theorem sendSetProperty_keeps [DecidableEq ι] (o' : ObjId) (i' : ι) (outcome : SendOutcome) {call : Nat}
    {set : PropertySetting ι} (found : r.calls.find call = some set) :
    (r.sendSetProperty o' i' outcome).1.calls.find call = some set := by
  unfold Registry.sendSetProperty
  split
  · exact found
  · cases outcome with
    | sent => exact find_attach_old found
    | noNotify => exact find_attach_old found
    | _ => exact found

theorem Blocked.quietOp [DecidableEq ι] (blocked : Blocked r o i) (op : QuietOp r r') : Blocked r' o i := by
  have place := op.place
  have same : ∀ r' : Registry ι ρ, SamePlace r r' → r'.calls = r.calls → Blocked r' o i :=
    fun r' place calls => blocked.frame place fun _ found => calls ▸ found
  cases op with
  | noted n => exact same _ place rfl
  | data o' rest index => exact same _ place rfl
  | callbacks o' changed error => exact same _ place rfl
  | updated o' i' => exact same _ place (propertyUpdate_upkeep r o' i').calls
  | signalled o' i' rest => exact same _ place (propertyUpdate_upkeep _ o' i').calls
  | sent o' i' outcome => exact blocked.frame place fun _ found => sendSetProperty_keeps o' i' outcome found
  | timerRun global id idle ran => exact same _ place (timerRun_upkeep ran).calls
  | refreshForgotten => exact same _ place rfl
  | scanned o' callback outcome =>
    refine same _ place ?_
    cases outcome <;> rfl
  | scanReplied call ran =>
    refine same _ place ?_
    unfold Registry.scanCallback at ran
    split at ran
    case h_2 => cases ran
    case h_1 =>
      dsimp only at ran
      split at ran
      · cases ran
        rfl
      · cases ran
        rfl

/-- Freeing an object leaves the slots of the others alone. -/
theorem objectFree_slots [DecidableEq ι] [PropertyIndex ι] [Inhabited ρ] (o' : ObjId)
    (inv : r'.next = r.next ∧ (r'.Live o → r.Live o ∧ (r'.heap o).callModify = (r.heap o).callModify)) :
    (r'.objectFree o').next = r.next ∧
      ((r'.objectFree o').Live o →
        r.Live o ∧ ((r'.objectFree o').heap o).callModify = (r.heap o).callModify) := by
  obtain ⟨next, slots⟩ := inv
  by_cases selected : r'.selected = some o'
  · unfold Registry.objectFree
    rw [if_pos selected]
    exact ⟨next, slots⟩
  · have released := (releaseHandles_spec o' r').1
    refine ⟨(objectFree_next r' o').trans next, fun alive => ?_⟩
    · obtain ⟨before, other⟩ := (objectFree_live r' o' o).mp alive
      obtain ⟨live, same⟩ := slots before
      refine ⟨live, ?_⟩
      unfold Registry.objectFree
      rw [if_neg selected]
      have kept : ((r'.releaseHandles o').storageFree o').heap o = (r'.releaseHandles o').heap o :=
        Function.update_of_ne (fun here => selected (other here)) _ _
      rw [kept, (released.object o).callModify, same]

/-- Removing other objects leaves the slots of this one alone. -/
theorem Blocked.removal [DecidableEq ι] [PropertyIndex ι] [Inhabited ρ]
    (blocked : Blocked r o i) (owned : Owned r) (path : String) :
    Blocked (r.hashRemove objectFree path) o i ∧ Blocked (r.hashRemoveAll objectFree) o i ∧
      Blocked r.deselect o i := by
  have slots : ∀ r' : Registry ι ρ,
      (r'.next = r.next ∧
        (r'.Live o → r.Live o ∧ (r'.heap o).callModify = (r.heap o).callModify)) →
      CallsWithin r r' → Owned r' → Blocked r' o i := by
    intro r' kept within owned'
    refine ⟨kept.1 ▸ blocked.1, fun alive => ?_⟩
    obtain ⟨before, same⟩ := kept.2 alive
    obtain ⟨call, found⟩ := blocked.2 before
    have recorded : (r'.heap o).callModify i = call := by
      rw [same]
      exact owned.slot_eq ⟨false, found⟩
    obtain ⟨notify, found'⟩ := owned'.inFlight_of_slot (recorded ▸ Pool.ne_zero_of_find found)
    have own := within _ _ found'
    rw [recorded, found] at own
    cases own
    exact ⟨_, found'⟩
  obtain ⟨within, withinAll, withinSelected⟩ := removal_calls owned path
  obtain ⟨kept, keptAll, keptSelected⟩ := removal_invariant
    (I := fun r' => r'.next = r.next ∧
      (r'.Live o → r.Live o ∧ (r'.heap o).callModify = (r.heap o).callModify))
    owned ⟨rfl, fun alive => ⟨alive, rfl⟩⟩ (fun _ _ inv => inv) (fun _ inv => inv)
    (fun r' o' inv _ => objectFree_slots o' inv) path
  exact ⟨slots _ kept within (owned.hashRemove path), slots _ keptAll withinAll owned.hashRemoveAll,
    slots _ keptSelected withinSelected owned.deselect⟩

theorem Blocked.op [DecidableEq ι] [PropertyIndex ι] [Inhabited ρ]
    (blocked : Blocked r o i) (owned : Owned r) (op : Op r r') : Blocked r' o i := by
  cases op with
  | quiet op => exact blocked.quietOp op
  | created path absent =>
    refine ⟨Nat.lt_succ_of_lt blocked.1, fun alive => ?_⟩
    rcases (live_create owned path o).mp alive with before | new
    · exact blocked.2 before
    · exact absurd new (Nat.ne_of_lt blocked.1)
  | removed path => exact (blocked.removal owned path).1
  | removedAll => exact (blocked.removal owned "").2.1
  | deselected => exact (blocked.removal owned "").2.2

/-- A reply is handed over only to a call that has its notify function. -/
theorem Blocked.acts [DecidableEq ι] [PropertyIndex ι]
    {a : Act} (blocked : Blocked r o i) (acts : Acts r a r') : Blocked r' o i := by
  have place := acts.place
  cases acts with
  | replied call failed ran =>
    refine blocked.frame place fun call' found => ?_
    rw [setPropertyReply_detach ran, Pool.find_detach, if_neg]
    · exact found
    · rintro rfl
      unfold Registry.setPropertyReply at ran
      rw [found] at ran
      cases ran
  | timerDone ran => exact blocked.frame place fun _ found => (timerDone_upkeep ran).calls ▸ found
  | refreshDone id => exact blocked.frame place fun _ found => found

theorem Blocked.change [DecidableEq ι] [PropertyIndex ι] [Inhabited ρ]
    {a : Act} (blocked : Blocked r o i) (owned : Owned r) (change : Change r a r') :
    Blocked r' o i :=
  (change.invariant (I := (Blocked · o i)) owned blocked (fun _ _ owned blocked op => blocked.op owned op)
    (fun _ _ blocked acts => blocked.acts acts)
    fun r _ blocked _ => blocked.frame (scheduleRefresh_sameObjects r).1.place fun _ found =>
      (scheduleRefresh_sameObjects r).2.2 ▸ found).2

end Registry

/-! ## The modules' requests -/

namespace Service

variable {s s' : State} {o : ObjId} {i : Property} {outcome : SendOutcome}

/-- After a failed set left its trace every later one of that property is
refused, as long as the service is there. -/
theorem blocked_service (reached : Reaches step Always Boot s) (alive : s.reg.Live o)
    (failed : (setServiceProperty s o i outcome).2 < 0) (trace : ¬ s.reg.TracelessSet o i outcome)
    (later : Reaches step Always (· = (setServiceProperty s o i outcome).1) s') (there : s'.reg.Live o)
    (again : SendOutcome) : setServiceProperty s' o i again = (s', -EINVAL) := by
  have inv : Owned s'.reg ∧ Blocked s'.reg o i := by
    apply later.invariant (I := fun s => Owned s.reg ∧ Blocked s.reg o i)
    · rintro _ rfl
      exact ⟨(reaches_owned reached).sendSetProperty alive i outcome, blocked_of_trace alive failed trace⟩
    · intro s e s' inv _ ran
      refine ⟨owned_step inv.1 ran, ?_⟩
      by_cases selecting : ∃ path, e = .select path
      · obtain ⟨path, rfl⟩ := selecting
        cases ran
        unfold connmanServiceSelect
        split
        · exact inv.2
        · exact inv.2
      · exact inv.2.change inv.1 (step_change inv.1 ran fun path eq => selecting ⟨path, eq⟩)
  unfold setServiceProperty
  rw [inv.2.refused inv.1 there]

end Service

namespace Technology

variable {s s' : State} {o : ObjId} {i : Property} {outcome : SendOutcome}

theorem blocked_technology (reached : Reaches step Always Boot s) (alive : s.reg.Live o)
    (failed : (setTechnologyProperty s o i outcome).2 < 0) (trace : ¬ s.reg.TracelessSet o i outcome)
    (later : Reaches step Always (· = (setTechnologyProperty s o i outcome).1) s') (there : s'.reg.Live o)
    (again : SendOutcome) : setTechnologyProperty s' o i again = (s', -EINVAL) := by
  have tidy := reaches_tidy reached
  have inv : Tidy s' ∧ Blocked s'.reg o i := by
    apply later.invariant (I := fun s => Tidy s ∧ Blocked s.reg o i)
    · rintro _ rfl
      have op : Op s.reg (setTechnologyProperty s o i outcome).1.reg := .quiet (.sent o i outcome alive)
      refine ⟨⟨tidy.owned.op op, tidy.held.op tidy.owned op, op.unselected tidy.unselected, tidy.signals⟩, ?_⟩
      exact blocked_of_trace alive failed trace
    · exact fun s e s' inv _ ran =>
        ⟨tidy_step inv.1 ran, inv.2.change inv.1.owned (step_change inv.1 ran)⟩
  unfold setTechnologyProperty
  rw [inv.2.refused inv.1.owned there]

/-- The module with the `scan_user_data` of every technology. -/
structure Scanner where
  state : State
  scanUserData : ObjId → Nat

/-- What a technology keeps of its scan. -/
structure ScanRequest where
  scanCall : Nat
  scanCb : Option Callback
  scanUserData : Nat
  deriving DecidableEq

def Scanner.request (s : Scanner) (o : ObjId) : ScanRequest :=
  ⟨(s.state.reg.heap o).scanCall, (s.state.reg.heap o).scanCb, s.scanUserData o⟩

/-- `connman_technology_scan` with its user data, which it stores last. -/
def Scanner.connmanTechnologyScan (s : Scanner) (path : String) (callback : Option Callback) (userData : Nat)
    (outcome : SendOutcome) : Scanner × Int :=
  let sent := Technology.connmanTechnologyScan s.state path callback outcome
  let stored := match s.state.reg.get path with
    | none => s.scanUserData
    | some o => if sent.2 = 0 then Function.update s.scanUserData o userData else s.scanUserData
  (⟨sent.1, stored⟩, sent.2)

theorem scanner_traceless_iff {s : Scanner} (held : ScansHeld s.state.reg) {path : String}
    {callback : Option Callback} {userData : Nat}
    (failed : (s.connmanTechnologyScan path callback userData outcome).2 < 0) :
    (∀ o, (s.connmanTechnologyScan path callback userData outcome).1.request o = s.request o) ↔
      ∀ o, s.state.reg.get path = some o → s.state.reg.TracelessScan o outcome := by
  unfold Scanner.connmanTechnologyScan Technology.connmanTechnologyScan at failed ⊢
  cases found : s.state.reg.get path with
  | none => simp [Scanner.request]
  | some o =>
    rw [found] at failed
    have negative : (s.state.reg.sendScan o callback outcome).2 < 0 := failed
    have traceless := sendScan_traceless_iff held negative
    simp only [Scanner.request, ScanRequest.mk.injEq, if_neg (ne_of_lt negative), and_true,
      Option.some.injEq, forall_eq', traceless]

end Technology

/-- A failed request leaves the state of the requests as it was exactly if: a
set found its slot in use, or got no call into it; a scan got no message, or
got no call into its slot and found no earlier scan there. -/
theorem traceless_iff (s : Service.State) (t : Technology.Scanner)
    (reached : Reaches Technology.step Always Technology.Boot t.state) :
    (∀ o i outcome, (Service.setServiceProperty s o i outcome).2 < 0 →
      (((Service.setServiceProperty s o i outcome).1.reg.heap o).callModify i = (s.reg.heap o).callModify i ↔
        s.reg.TracelessSet o i outcome)) ∧
    (∀ o i outcome, (Technology.setTechnologyProperty t.state o i outcome).2 < 0 →
      (((Technology.setTechnologyProperty t.state o i outcome).1.reg.heap o).callModify i =
          (t.state.reg.heap o).callModify i ↔ t.state.reg.TracelessSet o i outcome)) ∧
    ∀ path callback userData outcome,
      (t.connmanTechnologyScan path callback userData outcome).2 < 0 →
      ((∀ o, (t.connmanTechnologyScan path callback userData outcome).1.request o = t.request o) ↔
        ∀ o, t.state.reg.get path = some o → t.state.reg.TracelessScan o outcome) :=
  ⟨fun _ _ _ failed => sendSetProperty_traceless_iff failed,
    fun _ _ _ failed => sendSetProperty_traceless_iff failed,
    fun _ _ _ _ failed => Technology.scanner_traceless_iff (Technology.reaches_scansHeld reached) failed⟩

namespace Technology

theorem listing_plays : (play step Always started listing).isSome := by decide +kernel

/-- A technology is known, and has no scan. -/
def listed : State := (play step Always started listing).get listing_plays

theorem listed_reached : Reaches step Always Boot listed :=
  (Reaches.here started_boot).play listing (Option.some_get _).symm

/-- Without its notify function a set leaves its call behind; a scan that is
refused leaves nothing, as there was nothing. -/
theorem traceless_iff_listed :
    ((setTechnologyProperty listed 0 .powered .noNotify).1.reg.heap 0).callModify .powered ≠
        (listed.reg.heap 0).callModify .powered ∧
      ∀ o, (Scanner.connmanTechnologyScan ⟨listed, fun _ => 0⟩ "/t" (some 1) 7 .refused).1.request o =
        Scanner.request ⟨listed, fun _ => 0⟩ o := by
  obtain ⟨_, set, scan⟩ := traceless_iff Service.started ⟨listed, fun _ => 0⟩ listed_reached
  constructor
  · intro same
    exact absurd ((set 0 .powered .noNotify (by decide +kernel)).mp same) (by decide +kernel)
  · apply (scan "/t" (some 1) 7 .refused (by decide +kernel)).mpr
    intro o found
    have here : listed.reg.get "/t" = some 0 := by decide +kernel
    rw [here] at found
    cases found
    decide +kernel

theorem not_always_traceless : ¬ ∀ s, Reaches step Always Boot s → ∀ o i outcome,
    (setTechnologyProperty s o i outcome).2 < 0 →
      ((setTechnologyProperty s o i outcome).1.reg.heap o).callModify i = (s.reg.heap o).callModify i := by
  intro always
  exact absurd (always listed listed_reached 0 .powered .noNotify (by decide +kernel)) (by decide +kernel)

end Technology

end ConnmanUi
