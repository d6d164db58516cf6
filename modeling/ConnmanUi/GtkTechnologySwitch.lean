import ConnmanUi.GtkTechnology
import ConnmanUi.TechnologyFrames

/-!
The switch of a technology's menu item.

A click makes the switch insensitive if `connman_technology_enable` returns
zero, and only `technology_property_changed_cb` makes it sensitive again.  What
the switch waits for is `Waits.waits`: a notification, a change ConnMan owes, or
a call it has still to answer.  A call that is refused leaves an error timer,
whose callback prints, and then nothing (`switch_comes_back_iff`).
-/

namespace ConnmanUi

open Registry Run

namespace GtkTechnology

variable {w w' : World} {e : Event} {s s' : Technology.State} {item : Item} {o : ObjId} {past : Option Nat}

/-! ## What is outstanding -/

/-- A timer of Powered is pending, other than one that is over. -/
def Notifying (r : Registry Technology.Property Technology.Record) (o : ObjId) (past : Option Nat) : Prop :=
  ∃ id, (r.PendingUpdate o .powered id ∨ r.PendingError o .powered id) ∧ past ≠ some id

/-- A call that sets Powered is in flight, ConnMan owes a change, or a timer
other than one that is over is to notify of Powered. -/
def Outstanding (w : World) (past : Option Nat) : Prop :=
  0 < w.owed ∨ ∃ o, w.object = some o ∧
    ((∃ call, w.technology.reg.calls.find call = some ⟨o, .powered, true⟩) ∨ Notifying w.technology.reg o past)

/-- The switch is insensitive only while something is outstanding; then it is
sensitive and shows what the technology module says. -/
structure Good (w : World) : Prop where
  waits : w.item.enabler.sensitive = false → Outstanding w none
  back : ¬ Outstanding w none → w.item.enabler.sensitive = true ∧
    w.item.enabler.active = connmanTechnologyIsEnabled w.technology w.item.path

/-- The step begins and ends well. -/
def Comes (w : World) (e : Event) : Prop := Good w ∧ ∀ w' ∈ step w e, Good w'

/-- When the notification that ConnMan refused to set Powered is over, the
switch is sensitive already, or something else is outstanding. -/
def Recovers (w : World) : Event → Prop
  | .timerDone => ∀ id c, w.technology.reg.dispatching = some (id, c) →
    w.technology.reg.sources.find id = some (.property c) → c.error = true → c.name = .powered →
    w.object = some c.path → w.item.enabler.sensitive = true ∨ Outstanding w (some id)
  | _ => True

/-! ## The item's place -/

/-- The technology at `path` is there, and the callback `changed` is its own and
nobody else's. -/
structure Mounted (s : Technology.State) (path : String) (changed : Callback) (o : ObjId) : Prop where
  tidy : Technology.Tidy s
  timed : Timed s.reg
  known : s.reg.get path = some o
  own : ∀ o', (s.reg.heap o').propertyChangedCb = some changed ↔ o' = o
  global : s.propertyChangedCb ≠ some changed
  error : (s.reg.heap o).propertySetErrorCb ≠ none

theorem Mounted.enabled {path : String} {changed : Callback} (mounted : Mounted s path changed o) :
    connmanTechnologyIsEnabled s path = (s.reg.heap o).rest.powered := by
  unfold connmanTechnologyIsEnabled
  rw [mounted.known]

theorem Mounted.step {path : String} {changed : Callback} {e : Technology.Event}
    (mounted : Mounted s path changed o) (ran : Technology.step s e = some s') (calm : Technology.Calm e) :
    Mounted s' path changed o := by
  obtain ⟨same, global⟩ := Technology.callbacks_step ran calm
  refine ⟨Technology.tidy_step mounted.tidy ran,
    mounted.timed.change mounted.tidy.owned (Technology.step_change mounted.tidy ran), ?_, fun o' => ?_, ?_, ?_⟩
  · rw [same.toSamePlace.get]
    exact mounted.known
  · rw [same.changed]
    exact mounted.own o'
  · rw [global]
    exact mounted.global
  · rw [same.error]
    exact mounted.error

/-! ## The invariant -/

/-- A call that ConnMan has still to answer, a change it owes, or a timer. -/
def Awaits (w : World) (o : ObjId) (past : Option Nat) : Prop :=
  0 < w.owed ∨ (∃ call ∉ w.accepted, w.technology.reg.calls.find call = some ⟨o, .powered, true⟩) ∨
    Notifying w.technology.reg o past

theorem Awaits.outstanding (awaits : Awaits w o past) (known : w.object = some o) : Outstanding w past := by
  rcases awaits with owed | ⟨call, _, found⟩ | notifying
  · exact .inl owed
  · exact .inr ⟨o, known, .inl ⟨call, found⟩⟩
  · exact .inr ⟨o, known, .inr notifying⟩

/-- An update of Powered is scheduled. -/
def Updating (w : World) (o : ObjId) : Prop := w.technology.reg.timerSlot (.update o .powered) ≠ 0

/-- The notification of a change of Powered is running. -/
def Running (w : World) (o : ObjId) : Prop :=
  ∃ id c, w.technology.reg.dispatching = some (id, c) ∧ c.error = false ∧ c.path = o ∧ c.index = .powered

/-- What every step keeps that recovers. -/
structure Waits (w : World) (o : ObjId) : Prop where
  mounted : Mounted w.technology w.item.path w.item.changed o
  accepted : ∀ call ∈ w.accepted, w.Powers call
  shown : w.item.enabler.active ≠ (w.technology.reg.heap o).rest.powered → Updating w o
  waits : w.item.enabler.sensitive = false → Awaits w o none
  /-- A call that ConnMan has accepted is not what the switch waits for. -/
  settled : w.item.enabler.sensitive = false → ∀ call ∈ w.accepted,
    w.technology.reg.calls.find call = some ⟨o, .powered, true⟩ → 0 < w.owed ∨ Updating w o
  running : Running w o → w.item.enabler = ⟨(w.technology.reg.heap o).rest.powered, true⟩

/-- An update that is scheduled is a timer that notifies. -/
theorem Mounted.notifying {path : String} {changed : Callback} (mounted : Mounted s path changed o)
    (used : s.reg.timerSlot (.update o .powered) ≠ 0) : Notifying s.reg o none :=
  ⟨_, .inl (mounted.timed.pendingUpdate_iff.mpr ⟨rfl, used⟩), nofun⟩

/-- A call that was accepted still sets Powered, if it is still in flight. -/
theorem Waits.powers (waits : Waits w o) (mounted : Mounted w'.technology w'.item.path w'.item.changed o)
    {call : Nat} (mem : call ∈ w.accepted)
    (same : w'.technology.reg.calls.find call = w.technology.reg.calls.find call) : w'.Powers call := by
  obtain ⟨set, found, here, index⟩ := waits.accepted call mem
  exact ⟨set, same.trans found, mounted.known.trans (waits.mounted.known.symm.trans here), index⟩

theorem Waits.good (waits : Waits w o) : Good w where
  waits insensitive := (waits.waits insensitive).outstanding waits.mounted.known
  back idle := by
    constructor
    · by_contra insensitive
      have awaits := waits.waits (Bool.eq_false_of_not_eq_true insensitive)
      exact idle (awaits.outstanding waits.mounted.known)
    · rw [waits.mounted.enabled]
      by_contra different
      exact idle (.inr ⟨o, waits.mounted.known, .inr (waits.mounted.notifying (waits.shown different))⟩)

/-! ## Steps that leave the switch alone -/

theorem Notifying.sources {r r' : Registry Technology.Property Technology.Record} (notifying : Notifying r o past)
    (same : r'.sources = r.sources) : Notifying r' o past := by
  obtain ⟨id, ⟨c, found, rest⟩ | pending, going⟩ := notifying
  · exact ⟨id, .inl ⟨c, by rw [same, found], rest⟩, going⟩
  · exact ⟨id, .inr (pending.sources same), going⟩

/-- The switch waits while the owed changes and the accepted calls are the same, no
call is taken out of flight and some timer is to notify. -/
theorem Awaits.still {past' : Option Nat} (awaits : Awaits w o past) (owed : w'.owed = w.owed)
    (accepted : w'.accepted = w.accepted) (within : CallsWithin w'.technology.reg w.technology.reg)
    (timers : Notifying w.technology.reg o past → Notifying w'.technology.reg o past') : Awaits w' o past' := by
  rcases awaits with due | ⟨call, new, found⟩ | notifying
  · rw [← owed] at due
    exact .inl due
  · rw [← accepted] at new
    exact .inr (.inl ⟨call, new, within call _ found⟩)
  · exact .inr (.inr (timers notifying))

/-- From `w` to `w'` the switch is left alone, and what it waits for is still to
come. -/
structure Keeps (w w' : World) (o : ObjId) : Prop where
  mounted : Mounted w'.technology w'.item.path w'.item.changed o
  enabler : w'.item.enabler = w.item.enabler
  accepted : ∀ call ∈ w'.accepted, w'.Powers call
  powered : Updating w' o ∨
    (w'.technology.reg.heap o).rest.powered = (w.technology.reg.heap o).rest.powered
  updating : Updating w o → Updating w' o
  owed : 0 < w.owed → 0 < w'.owed ∨ Updating w' o
  awaits : w.item.enabler.sensitive = false → Awaits w o none → Awaits w' o none
  settled : ∀ call ∈ w'.accepted, w'.technology.reg.calls.find call = some ⟨o, .powered, true⟩ →
    0 < w'.owed ∨ call ∈ w.accepted ∧ w.technology.reg.calls.find call = some ⟨o, .powered, true⟩
  running : Running w' o → Running w o ∧
    (w'.technology.reg.heap o).rest.powered = (w.technology.reg.heap o).rest.powered

theorem Waits.keeps (waits : Waits w o) (keeps : Keeps w w' o) : Waits w' o where
  mounted := keeps.mounted
  accepted := keeps.accepted
  shown different := by
    rcases keeps.powered with updating | same
    · exact updating
    · rw [keeps.enabler, same] at different
      exact keeps.updating (waits.shown different)
  waits insensitive := by
    rw [keeps.enabler] at insensitive
    exact keeps.awaits insensitive (waits.waits insensitive)
  settled insensitive call mem found := by
    rw [keeps.enabler] at insensitive
    rcases keeps.settled call mem found with owed | ⟨before, there⟩
    · exact .inl owed
    · exact (waits.settled insensitive call before there).elim keeps.owed fun updating => .inr (keeps.updating updating)
  running running' := by
    obtain ⟨running, same⟩ := keeps.running running'
    rw [keeps.enabler, same]
    exact waits.running running

/-- A set call, whoever makes it. -/
theorem Waits.set_keeps (waits : Waits w o) (path : String) (setting : Technology.Setting) (outcome : SendOutcome)
    (item : Item) (enabler : item.enabler = w.item.enabler) (kept : item.path = w.item.path)
    (changed : item.changed = w.item.changed) :
    Keeps w { w with
      technology := (Technology.connmanTechnologySet w.technology path setting outcome).1, item := item } o := by
  obtain ⟨timers, data, dispatching, within⟩ :=
    Technology.set_step w.technology path setting outcome
  have stays := waits.mounted.step (e := .set path setting outcome) rfl trivial
  have mounted : Mounted (Technology.connmanTechnologySet w.technology path setting outcome).1 item.path
      item.changed o := by
    rw [kept, changed]
    exact stays
  have slot := (timers.slots (.update o .powered)).resolve_right nofun
  have flying : ∀ call ∈ w.accepted,
      (Technology.connmanTechnologySet w.technology path setting outcome).1.reg.calls.find call =
        w.technology.reg.calls.find call := by
    intro call mem
    obtain ⟨set, there, _⟩ := waits.accepted call mem
    exact (within call set there).trans there.symm
  refine ⟨mounted, enabler, fun call mem => waits.powers mounted mem (flying call mem), .inr ?_,
    fun updating => ?_, .inl, fun _ awaits => awaits.still rfl rfl within fun now => now.sources timers.sources,
    fun call mem found => .inr ⟨mem, (flying call mem).symm.trans found⟩, fun running => ⟨?_, ?_⟩⟩
  · rw [data.rest]
  · exact ne_of_eq_of_ne slot updating
  · obtain ⟨id, c, now, rest⟩ := running
    exact ⟨id, c, dispatching.symm.trans now, rest⟩
  · rw [data.rest]

theorem Waits.accept (waits : Waits w o) {call : Nat} (ran : step w (.accept call) = some w') : Keeps w w' o := by
  obtain ⟨⟨powers, _⟩, ran⟩ := Option.ite_none_right_eq_some.mp ran
  cases ran
  have owed : 0 < w.owed + 1 := Nat.succ_pos _
  refine ⟨waits.mounted, rfl, fun call' mem => ?_, .inr rfl, id, fun _ => .inl owed, fun _ _ => .inl owed,
    fun _ _ _ => .inl owed, fun running => ⟨running, rfl⟩⟩
  rcases List.mem_cons.mp mem with rfl | before
  · exact powers
  · exact waits.accepted call' before

/-! ## A click -/

/-- A call of `connman_technology_enable` that returns zero sends a call, unless
the technology is in that state already. -/
theorem connmanTechnologyEnable_zero {path : String} {enable : Bool} {outcome : SendOutcome}
    (known : s.reg.get path = some o)
    (zero : (Technology.connmanTechnologyEnable s path enable outcome).2 = 0) :
    (s.reg.heap o).rest.powered = enable ∨ (s.reg.heap o).callModify .powered = 0 ∧
      (Technology.connmanTechnologyEnable s path enable outcome).1.reg.calls.find s.reg.calls.fresh =
        some ⟨o, .powered, true⟩ := by
  unfold Technology.connmanTechnologyEnable at zero ⊢
  rw [known] at zero ⊢
  dsimp only at zero ⊢
  split
  case isTrue same => exact .inl same
  case isFalse asks =>
    rw [if_neg asks] at zero
    exact .inr (sendSetProperty_zero zero)

theorem Waits.buttonRelease (waits : Waits w o) {button : Nat} {outcome : SendOutcome}
    (ran : step w (.buttonRelease button outcome) = some w') : Waits w' o := by
  obtain ⟨idle, ran⟩ := Option.ite_none_right_eq_some.mp ran
  cases ran
  unfold gtkTechnologyButtonReleaseEvent
  split
  case isTrue => exact waits
  case isFalse =>
    have keeps := waits.set_keeps w.item.path (.enable (!w.item.enabler.active)) outcome w.item rfl rfl rfl
    have asked := waits.keeps keeps
    dsimp only
    split
    case isFalse => exact asked
    case isTrue zero =>
      have known : w.technology.reg.get w.item.path = some o := waits.mounted.known
      have still : ¬ Running w o := by
        rintro ⟨id, c, running, _⟩
        rw [idle] at running
        cases running
      refine ⟨asked.mounted, asked.accepted, asked.shown, fun _ => ?_, fun _ call mem found => ?_,
        fun running => absurd (keeps.running running).1 still⟩
      · rcases connmanTechnologyEnable_zero known zero with same | ⟨_, sent⟩
        · have updating : Updating w o := waits.shown (by rw [same]; exact (Bool.not_ne_self _).symm)
          exact .inr (.inr (asked.mounted.notifying (keeps.updating updating)))
        · refine .inr (.inl ⟨_, fun mem => ?_, sent⟩)
          obtain ⟨set, found, _⟩ := waits.accepted _ mem
          rw [Pool.find_fresh] at found
          cases found
      · rcases connmanTechnologyEnable_zero known zero with same | ⟨empty, _⟩
        · have updating : Updating w o := waits.shown (by rw [same]; exact (Bool.not_ne_self _).symm)
          exact .inr (keeps.updating updating)
        · rcases keeps.settled call mem found with owed | ⟨_, there⟩
          · exact .inl owed
          · have slot := waits.mounted.tidy.owned.slot_eq ⟨true, there⟩
            rw [empty] at slot
            exact absurd slot.symm (Pool.ne_zero_of_find there)

theorem Waits.tetheringButton (waits : Waits w o) {button : Nat} {outcome : SendOutcome}
    (ran : step w (.tetheringButton button outcome) = some w') : Waits w' o := by
  obtain ⟨_, ran⟩ := Option.ite_none_right_eq_some.mp ran
  cases ran
  unfold gtkTechnologyTetheringButton
  split
  case isTrue => exact waits
  case isFalse =>
    exact waits.keeps (waits.set_keeps w.item.path (.tether (!w.item.tethering.active)) outcome _ rfl rfl rfl)

/-! ## Messages -/

/-- While no timer runs, neither does one that notifies of Powered. -/
theorem not_running {e : Technology.Event} (mounted : Mounted w.technology w.item.path w.item.changed o)
    (idle : w.technology.reg.dispatching = none) (ran : Technology.step w.technology e = some s')
    (fires : ∀ id, e ≠ .timer id) (ends : e ≠ .timerDone) (same : w'.technology = s') : ¬ Running w' o := by
  rintro ⟨id, c, running, _⟩
  rw [same, Technology.dispatching_step mounted.tidy mounted.timed ran fires ends, idle] at running
  cases running

/-- A PropertyChanged signal of Powered has it notified of. -/
theorem Waits.propertyChanged (waits : Waits w o) {wid : Nat} {uninit : Option String} {name : String}
    {value : Value} {accepted : Bool}
    (ran : step w (.propertyChanged wid uninit name value accepted) = some w') : Keeps w w' o := by
  obtain ⟨permitted, ran⟩ := Option.ite_none_right_eq_some.mp ran
  obtain ⟨s', stepped, rfl⟩ := Option.map_eq_some_iff.mp ran
  have mounted := waits.mounted.step stepped trivial
  obtain ⟨o', watched, calls, passes, errors, data⟩ :=
    Technology.propertyChanged_step waits.mounted.tidy waits.mounted.timed stepped
  -- the signal is about Powered of this technology, or about something else
  have powered : (o = o' ∧ Technology.Property.ofName name = some .powered →
      s'.reg.timerSlot (.update o .powered) ≠ 0) := by
    rintro ⟨rfl, named⟩
    have registered : (w.technology.reg.heap o).propertyChangedCb ≠ none := by
      rw [(waits.mounted.own o).mpr rfl]
      nofun
    exact (passes.renewed _ ⟨registered, named⟩).1
  have updating : Updating w o → s'.reg.timerSlot (.update o .powered) ≠ 0 := by
    intro before
    by_cases own : o = o' ∧ Technology.Property.ofName name = some .powered
    · exact powered own
    · exact ne_of_eq_of_ne (passes.kept o _ fun both => own ⟨both.1, both.2.2⟩) before
  have owed : 0 < w.owed → 0 < (if accepted = true then w.owed - 1 else w.owed) ∨
      s'.reg.timerSlot (.update o .powered) ≠ 0 := by
    intro owed
    cases accepted with
    | false => exact .inl owed
    | true =>
      obtain ⟨⟨here, named⟩, _⟩ := permitted rfl
      have same : some o = some o' := waits.mounted.known.symm.trans (here.trans watched)
      exact .inr (powered ⟨Option.some.inj same, named⟩)
  have flying : ∀ call, s'.reg.calls.find call = w.technology.reg.calls.find call := fun call => by rw [calls]
  refine ⟨mounted, rfl, fun call mem => waits.powers mounted mem (flying call), ?_, updating, owed, ?_,
    fun call mem found => .inr ⟨mem, (flying call).symm.trans found⟩,
    fun running => absurd running (not_running waits.mounted (Technology.handed stepped).1 stepped nofun nofun rfl)⟩
  · by_cases own : o = o' ∧ Technology.Property.ofName name = some .powered
    · exact .inl (powered own)
    · exact .inr (data o fun here named => own ⟨here, named⟩)
  · rintro - (due | ⟨call, new, found⟩ | ⟨id, pending | pending, _⟩)
    · exact (owed due).elim .inl fun used => .inr (.inr (mounted.notifying used))
    · exact .inr (.inl ⟨call, new, (flying call).trans found⟩)
    · obtain ⟨rfl, used⟩ := waits.mounted.timed.pendingUpdate_iff.mp pending
      exact .inr (.inr (mounted.notifying (updating used)))
    · exact .inr (.inr ⟨id, .inr (errors _ _ _ pending), nofun⟩)

/-- A call that ConnMan refuses leaves an error timer. -/
theorem Waits.setPropertyReply (waits : Waits w o) {call : Nat} {failed : Bool}
    (ran : step w (.setPropertyReply call failed) = some w') : Keeps w w' o := by
  obtain ⟨answered, ran⟩ := Option.ite_none_right_eq_some.mp ran
  obtain ⟨s', stepped, rfl⟩ := Option.map_eq_some_iff.mp ran
  have mounted := waits.mounted.step stepped trivial
  have idle := (Technology.handed stepped).1
  have still : ¬ Running { w with technology := s', accepted := w.accepted.filter (· ≠ call) } o :=
    not_running waits.mounted idle stepped nofun nofun rfl
  obtain ⟨reg, replied, rfl⟩ := Option.map_eq_some_iff.mp (Technology.handed stepped).2
  have live := (waits.mounted.tidy.owned.get_spec waits.mounted.known).1
  have data := setPropertyReply_sameData replied
  have live' : reg.Live o := (data.toSamePlace.live o).mpr live
  have updating : Updating w o → reg.timerSlot (.update o .powered) ≠ 0 :=
    (waits.mounted.timed.setPropertyReply_grows replied).stays.slots o .powered live.1 live'
  have detached := setPropertyReply_detach replied
  have left : ∀ call', reg.calls.find call' =
      if call' = call then none else w.technology.reg.calls.find call' := by
    intro call'
    rw [detached, Pool.find_detach]
  obtain ⟨o', i, found, after⟩ := setPropertyReply_eq replied
  have recorded := waits.mounted.timed.recorded.same
    (calls_sameTimers w.technology.reg (w.technology.reg.calls.detach call)) fun _ alive => alive
  refine ⟨mounted, rfl, fun call' mem => ?_, .inr (by rw [data.rest]), updating, .inl, ?_,
    fun call' mem there => .inr ⟨List.mem_of_mem_filter mem, ?_⟩, fun running => absurd running still⟩
  · obtain ⟨mem, other⟩ := List.mem_filter.mp mem
    exact waits.powers mounted mem ((left call').trans (if_neg (of_decide_eq_true other)))
  · rintro - (owed | ⟨call', new, there⟩ | ⟨id, pending | pending, _⟩)
    · exact .inl owed
    · by_cases same : call' = call
      · -- the call waited for is refused
        subst same
        rw [found] at there
        cases there
        have refused : failed = true := by
          rw [answered ⟨_, found, waits.mounted.known, rfl⟩]
          exact decide_eq_true new
        obtain ⟨id, pending⟩ := setPropertyCb_pendingError (i := Technology.Property.powered)
          (r := { w.technology.reg with calls := w.technology.reg.calls.detach call' }) waits.mounted.error
        rw [refused] at after
        exact .inr (.inr ⟨id, .inr (by rw [after]; exact pending), nofun⟩)
      · refine .inr (.inl ⟨call', fun mem => new (List.mem_of_mem_filter mem), ?_⟩)
        exact (left call').trans ((if_neg same).trans there)
    · obtain ⟨rfl, used⟩ := waits.mounted.timed.pendingUpdate_iff.mp pending
      exact .inr (.inr (mounted.notifying (updating used)))
    · have alone : Registry.PendingError { w.technology.reg with calls := w.technology.reg.calls.detach call }
          o .powered id := pending.sources rfl
      obtain ⟨id, pending⟩ := alone.setPropertyCb recorded o' i failed
      exact .inr (.inr ⟨id, .inr (by rw [after]; exact pending), nofun⟩)
  · dsimp only at there
    rw [left] at there
    exact (Option.ite_none_left_eq_some.mp there).2

/-! ## Timers -/

theorem news_eq (extra : List (Note Technology.Property)) (logged : s'.reg.log = extra ++ s.reg.log) :
    news s s' = extra.reverse := by
  unfold news
  rw [logged, List.length_append, Nat.add_sub_cancel, List.take_left']
  rfl

theorem told_errorCb (cb : Callback) (path : String) (property : Technology.Property) :
    told s item (.errorCb cb path property) = item := ite_self item

/-- The callback, invoked for a change of the property. -/
theorem technologyPropertyChangedCb_spec (s : Technology.State) (item : Item) (path : String)
    (property : Technology.Property) :
    let item' := technologyPropertyChangedCb s item path property
    item'.path = item.path ∧ item'.changed = item.changed ∧
      item'.enabler = if property = .powered then ⟨connmanTechnologyIsEnabled s path, true⟩ else item.enabler := by
  cases property <;> exact ⟨rfl, rfl, rfl⟩

/-- A timer has the item's callback invoked if it is of a change of the item's
technology. -/
theorem told_timer {path : String} {id : Nat} {c : PropertyChange Technology.Property}
    (mounted : Mounted s path item.changed o) (found : s.reg.sources.find id = some (.property c))
    (ran : Technology.step s (.timer id) = some s') :
    (news s s').foldl (told s') item =
      if c.error = false ∧ c.path = o then technologyPropertyChangedCb s' item path c.index else item := by
  obtain ⟨reg, fired, rfl⟩ := Option.map_eq_some_iff.mp (Technology.handed ran).2
  cases error : c.error with
  | true =>
    rw [if_neg (by simp)]
    rcases timerRun_log_error found error fired with silent | ⟨cb, path, logged⟩
    · rw [news_eq [] silent]
      rfl
    · rw [news_eq [.errorCb cb path c.name] logged]
      exact told_errorCb (s := { s with reg := reg }) cb path c.name
  | false =>
    have logged := timerRun_log mounted.timed found error fired
    rw [List.append_cons] at logged
    rw [news_eq _ logged]
    unfold invoked
    have other : ∀ (item' : Item) (path : String), item'.changed = item.changed →
        (s.propertyChangedCb.toList.map (Note.changedCb · path c.index)).reverse.foldl
          (told { s with reg := reg }) item' = item' := by
      intro item' path same
      cases global : s.propertyChangedCb with
      | none => rfl
      | some cb =>
        have foreign : cb ≠ item'.changed := by
          rw [same]
          rintro rfl
          exact mounted.global global
        exact if_neg foreign
    rw [List.reverse_append, List.reverse_append, List.foldl_append, List.foldl_append]
    have fired : List.foldl (told { s with reg := reg }) item
        [Note.fired c.path c.index (s.reg.heap c.path).propertyChangedCb].reverse = item := rfl
    rw [fired, other item _ rfl]
    by_cases here : c.path = o
    · rw [if_pos ⟨rfl, here⟩, here, (mounted.own o).mpr rfl, (mounted.tidy.owned.get_spec mounted.known).2.1]
      exact if_pos rfl
    · rw [if_neg fun both => here both.2]
      cases own : (s.reg.heap c.path).propertyChangedCb with
      | none => rfl
      | some cb =>
        refine if_neg fun same => here ((mounted.own c.path).mp ?_)
        rw [own, same]

theorem Waits.timer (waits : Waits w o) {id : Nat} (ran : step w (.timer id) = some w') : Waits w' o := by
  obtain ⟨s', stepped, rfl⟩ := Option.map_eq_some_iff.mp ran
  have mounted := waits.mounted.step stepped trivial
  have told := fun c found => told_timer (c := c) waits.mounted found stepped
  obtain ⟨reg, fired, rfl⟩ := Option.map_eq_some_iff.mp (Technology.handed stepped).2
  obtain ⟨c, found, _⟩ := timerRun_spec fired
  have timers := timerRun_sameTimers fired
  have upkeep := timerRun_upkeep fired
  have slot := (timers.slots (.update o .powered)).resolve_right nofun
  have calls : ∀ call, reg.calls.find call = w.technology.reg.calls.find call := fun call => by rw [upkeep.calls]
  obtain ⟨path, changed, enabler⟩ :=
    technologyPropertyChangedCb_spec { w.technology with reg := reg } w.item w.item.path c.index
  rw [told c found]
  by_cases powered : c.error = false ∧ c.path = o ∧ c.index = .powered
  · -- the callback shows Powered
    obtain ⟨error, here, index⟩ := powered
    rw [if_pos ⟨error, here⟩]
    rw [if_pos index, mounted.enabled] at enabler
    have there : (technologyPropertyChangedCb { w.technology with reg := reg } w.item w.item.path c.index).enabler =
        ⟨(reg.heap o).rest.powered, true⟩ := enabler
    rw [← path, ← changed] at mounted
    refine ⟨mounted, fun call mem => waits.powers mounted mem (calls call), fun different => ?_,
      fun insensitive => ?_, fun insensitive => ?_, fun _ => there⟩
    · rw [there] at different
      exact absurd rfl different
    · rw [there] at insensitive
      cases insensitive
    · rw [there] at insensitive
      cases insensitive
  · -- the switch is not the callback's business
    generalize after : (if c.error = false ∧ c.path = o then
      technologyPropertyChangedCb { w.technology with reg := reg } w.item w.item.path c.index else w.item) = item
    have same : item.path = w.item.path ∧ item.changed = w.item.changed ∧ item.enabler = w.item.enabler := by
      rw [← after]
      split
      case isTrue both =>
        refine ⟨path, changed, enabler.trans (if_neg fun index => powered ⟨both.1, both.2, index⟩)⟩
      case isFalse => exact ⟨rfl, rfl, rfl⟩
    obtain ⟨path, changed, enabler⟩ := same
    rw [← path, ← changed] at mounted
    refine waits.keeps ⟨mounted, enabler, fun call mem => waits.powers mounted mem (calls call),
      .inr (congrArg _ (upkeep.object o).rest), fun updating => ne_of_eq_of_ne slot updating, .inl,
      fun _ awaits => awaits.still rfl rfl (.of_eq upkeep.calls.symm) fun notifying => notifying.sources timers.sources,
      fun call mem found => .inr ⟨mem, (calls call).symm.trans found⟩, ?_⟩
    rintro ⟨id', c', running, rest⟩
    have now := (timerRun_dispatching found fired).symm.trans running
    cases now
    exact absurd rest powered

theorem notifying_over {r r' : Registry Technology.Property Technology.Record} {id : Nat}
    (detached : r'.sources = r.sources.detach id) : Notifying r' o none ↔ Notifying r o (some id) := by
  have left : ∀ id', r'.sources.find id' = if id' = id then none else r.sources.find id' := by
    intro id'
    rw [detached, Pool.find_detach]
  constructor
  · rintro ⟨id', ⟨c, found, rest⟩ | ⟨c, found, rest⟩, _⟩
    · rw [left] at found
      obtain ⟨other, found⟩ := Option.ite_none_left_eq_some.mp found
      exact ⟨id', .inl ⟨c, found, rest⟩, fun past => other (Option.some.inj past).symm⟩
    · rw [left] at found
      obtain ⟨other, found⟩ := Option.ite_none_left_eq_some.mp found
      exact ⟨id', .inr ⟨c, found, rest⟩, fun past => other (Option.some.inj past).symm⟩
  · rintro ⟨id', pending, going⟩
    have other : id' ≠ id := fun same => going (congrArg some same.symm)
    have stays : r'.sources.find id' = r.sources.find id' := (left id').trans (if_neg other)
    rcases pending with ⟨c, found, rest⟩ | ⟨c, found, rest⟩
    · exact ⟨id', .inl ⟨c, stays.trans found, rest⟩, nofun⟩
    · exact ⟨id', .inr ⟨c, stays.trans found, rest⟩, nofun⟩

/-- The switch waits for something other than the timer that is over, unless that
has shown Powered. -/
theorem Waits.recovered (waits : Waits w o) (recovers : Recovers w .timerDone) {id : Nat}
    {c : PropertyChange Technology.Property} (running : w.technology.reg.dispatching = some (id, c))
    (own : w.technology.reg.sources.find id = some (.property c))
    (other : ¬ (c.error = false ∧ c.path = o ∧ c.index = .powered)) (insensitive : w.item.enabler.sensitive = false) :
    Awaits w o (some id) := by
  -- the timer that is over is no update of Powered
  have update : ∀ id', w.technology.reg.PendingUpdate o .powered id' → Awaits w o (some id) := by
    intro id' pending
    refine .inr (.inr ⟨id', .inl pending, ?_⟩)
    rintro ⟨⟩
    obtain ⟨c', found, rest⟩ := pending
    cases own.symm.trans found
    exact other rest
  rcases waits.waits insensitive with owed | flying | ⟨id', pending | ⟨c', found, rest⟩, _⟩
  · exact .inl owed
  · exact .inr (.inl flying)
  · exact update id' pending
  · by_cases same : id' = id
    case neg => exact .inr (.inr ⟨id', .inr ⟨c', found, rest⟩, fun past => same (Option.some.inj past).symm⟩)
    case pos =>
      -- it is the notification of a refusal
      subst same
      cases own.symm.trans found
      obtain ⟨error, here, name⟩ := rest
      have recovered := recovers id' c running own error name (by rw [here]; exact waits.mounted.known)
      rcases recovered.resolve_left (by rw [insensitive]; nofun) with owed | ⟨o', known, rest⟩
      · exact .inl owed
      · obtain rfl : o = o' := Option.some.inj (waits.mounted.known.symm.trans known)
        rcases rest with ⟨call, found⟩ | notifying
        · by_cases answered : call ∈ w.accepted
          · rcases waits.settled insensitive call answered found with owed | updating
            · exact .inl owed
            · exact update _ (waits.mounted.timed.pendingUpdate_iff.mpr ⟨rfl, updating⟩)
          · exact .inr (.inl ⟨call, answered, found⟩)
        · exact .inr (.inr notifying)

/-- A timer is over, and its source is gone if it was still its own. -/
theorem timerDone_spec (ran : step w .timerDone = some w') :
    ∃ id c reg, w.technology.reg.dispatching = some (id, c) ∧
      w' = { w with technology := { w.technology with reg := reg } } ∧ Upkeep w.technology.reg reg ∧ reg.dispatching = none ∧
      reg = if w.technology.reg.sources.find id = some (.property c) then
        { w.technology.reg with dispatching := none }.sourceRemove id
        else { w.technology.reg with dispatching := none } := by
  obtain ⟨s', stepped, rfl⟩ := Option.map_eq_some_iff.mp ran
  obtain ⟨reg, ended, rfl⟩ := Option.map_eq_some_iff.mp stepped
  have upkeep := timerDone_upkeep ended
  rw [timerDone_eq] at ended
  obtain ⟨⟨id, c⟩, running, rfl⟩ := Option.map_eq_some_iff.mp ended
  refine ⟨id, c, _, running, rfl, upkeep, ?_, rfl⟩
  split
  · exact (sourceRemove_hushed _ _).dispatching
  · rfl

theorem Waits.timerDone (waits : Waits w o) (recovers : Recovers w .timerDone)
    (ran : step w .timerDone = some w') : Waits w' o := by
  have mounted : Mounted w'.technology w'.item.path w'.item.changed o := by
    obtain ⟨s', stepped, rfl⟩ := Option.map_eq_some_iff.mp ran
    exact waits.mounted.step stepped trivial
  obtain ⟨id, c, reg, running, rfl, upkeep, idle, after⟩ := timerDone_spec ran
  have calls : ∀ call, reg.calls.find call = w.technology.reg.calls.find call := fun call => by rw [upkeep.calls]
  have data : (reg.heap o).rest = (w.technology.reg.heap o).rest := (upkeep.object o).rest
  have accepted : ∀ call ∈ w.accepted, World.Powers { w with technology := { w.technology with reg := reg } } call :=
    fun call mem => waits.powers mounted mem (calls call)
  have still : ¬ Running { w with technology := { w.technology with reg := reg } } o := by
    rintro ⟨id', c', running', _⟩
    rw [idle] at running'
    cases running'
  by_cases shows : c.error = false ∧ c.path = o ∧ c.index = .powered
  · -- the callback has shown Powered
    have enabler := waits.running ⟨id, c, running, shows⟩
    refine ⟨mounted, accepted, fun different => ?_, fun insensitive => ?_, fun insensitive => ?_,
      fun running => absurd running still⟩
    · rw [enabler] at different
      exact absurd (congrArg Technology.Record.powered data.symm) different
    · rw [enabler] at insensitive
      cases insensitive
    · rw [enabler] at insensitive
      cases insensitive
  · have updating : Updating w o → reg.timerSlot (.update o .powered) ≠ 0 := by
      intro before
      rw [after]
      split
      case isFalse => exact before
      case isTrue own =>
        have other : (Source.property c).slot ≠ .update o .powered := by
          intro same
          obtain ⟨_, timer, rest⟩ := slot_update same
          cases timer
          exact shows rest
        have idle : Timed { w.technology.reg with dispatching := none } :=
          waits.mounted.timed.same (idle_sameTimers _) ⟨rfl, rfl, rfl, rfl, fun _ => rfl⟩
        exact ne_of_eq_of_ne (idle.sourceRemove_slot own other) before
    refine waits.keeps ⟨mounted, rfl, accepted, .inr (congrArg _ data), updating, .inl, ?_,
      fun call mem found => .inr ⟨mem, (calls call).symm.trans found⟩, fun running => absurd running still⟩
    intro insensitive awaits
    by_cases own : w.technology.reg.sources.find id = some (.property c)
    case pos =>
      rw [if_pos own] at after
      have detached : reg.sources = w.technology.reg.sources.detach id := by rw [after, sourceRemove_sources]
      exact (waits.recovered recovers running own shows insensitive).still rfl rfl (.of_eq upkeep.calls.symm)
        (notifying_over detached).mpr
    case neg =>
      rw [if_neg own] at after
      exact awaits.still rfl rfl (.of_eq upkeep.calls.symm) fun notifying => notifying.sources (by rw [after])

/-- A notification that is over is nothing to wait for. -/
theorem recovers_of_good (ran : step w .timerDone = some w') (good : Good w') :
    Recovers w .timerDone := by
  intro id c running own _ _ _
  by_cases sensitive : w.item.enabler.sensitive = true
  · exact .inl sensitive
  · right
    obtain ⟨id', c', reg, running', rfl, upkeep, _, after⟩ := timerDone_spec ran
    cases running.symm.trans running'
    rw [if_pos own] at after
    have detached : reg.sources = w.technology.reg.sources.detach id := by rw [after, sourceRemove_sources]
    rcases good.waits (Bool.eq_false_of_not_eq_true sensitive) with owed | ⟨o', known, flying | notifying⟩
    · exact .inl owed
    · obtain ⟨call, found⟩ := flying
      refine .inr ⟨o', ?_, .inl ⟨call, ?_⟩⟩
      · exact (upkeep.toSameObjects.place.get w.item.path).symm.trans known
      · dsimp only at found
        rw [upkeep.calls] at found
        exact found
    · refine .inr ⟨o', ?_, .inr ((notifying_over detached).mp notifying)⟩
      exact (upkeep.toSameObjects.place.get w.item.path).symm.trans known

/-! ## Runs -/

theorem waits_step (waits : Waits w o) (recovers : Recovers w e) (ran : step w e = some w') : Waits w' o := by
  cases e with
  | buttonRelease button outcome => exact waits.buttonRelease ran
  | tetheringButton button outcome => exact waits.tetheringButton ran
  | set path setting outcome =>
    cases ran
    exact waits.keeps (waits.set_keeps path setting outcome w.item rfl rfl rfl)
  | accept call => exact waits.keeps (waits.accept ran)
  | propertyChanged wid uninit name value accepted => exact waits.keeps (waits.propertyChanged ran)
  | setPropertyReply call failed => exact waits.keeps (waits.setPropertyReply ran)
  | timer id => exact waits.timer ran
  | timerDone => exact waits.timerDone recovers ran

/-- Making an item sets the callbacks of its technology. -/
theorem gtkTechnologyNew_reg {path : String} (changed error : Callback) (known : s.reg.get path = some o) :
    (gtkTechnologyNew s path changed error).1 = { s with reg :=
      (s.reg.modify o fun obj => { obj with propertyChangedCb := some changed }).modify o fun obj =>
        { obj with propertySetErrorCb := some error } } := by
  have place : SamePlace s.reg (s.reg.modify o fun obj => { obj with propertyChangedCb := some changed }) :=
    modify_place rfl
  unfold gtkTechnologyNew Technology.connmanTechnologySetPropertyChangedCallback
  dsimp only
  rw [known]
  dsimp only
  unfold Technology.connmanTechnologySetPropertyErrorCallback
  rw [place.get, known]

theorem start_waits (start : Start (Reaches Technology.step Always Technology.Start) w) : ∃ o, Waits w o := by
  obtain ⟨s, path, changed, error, reached, there, foreign, global, made, accepted⟩ := start
  obtain ⟨o, known⟩ := Option.ne_none_iff_exists'.mp there
  -- making the item is two steps of the technology module
  have first := reached.next (e := .setPropertyChangedCallback path (some changed)) trivial rfl
  have rest := first.next (e := .setPropertyErrorCallback path (some error)) trivial rfl
  obtain ⟨tidy, timed, _⟩ := Technology.reaches_announced rest
  have after := gtkTechnologyNew_reg changed error known
  obtain ⟨technology, item, calls, owed⟩ := w
  obtain ⟨rfl, rfl⟩ := Prod.mk.inj made
  have mounted : Mounted (gtkTechnologyNew s path changed error).1 path changed o := by
    refine ⟨tidy, timed, ?_, fun o' => ?_, ?_, ?_⟩
    · rw [after]
      exact ((modify_place rfl).get path).trans (((modify_place rfl).get path).trans known)
    · rw [after]
      dsimp only
      rw [modify_field Object.propertyChangedCb rfl, heap_modify]
      split
      case isTrue here => exact ⟨fun _ => here, fun _ => rfl⟩
      case isFalse other => exact ⟨fun same => absurd same (foreign o'), fun here => absurd here other⟩
    · rw [after]
      exact global
    · rw [after]
      dsimp only
      rw [heap_modify, if_pos rfl]
      nofun
  refine ⟨o, mounted, accepted, fun different => ?_, nofun, nofun, ?_⟩
  · exact absurd mounted.enabled different
  · exact fun _ => congrArg (Button.mk · true) mounted.enabled

/-- In a run the switch is never left insensitive for good exactly if, whenever
the notification of a refusal is over, the switch is sensitive or something else
is outstanding. -/
theorem switch_comes_back_iff (w : World) (start : Start (Reaches Technology.step Always Technology.Start) w)
    (events : List Event) : AllSteps step Comes w events ↔ AllSteps step Recovers w events := by
  obtain ⟨o, waits⟩ := start_waits start
  refine AllSteps.iff (I := (Waits · o)) (fun w e w' waits ran => ⟨fun comes => ?_, fun recovers => ?_⟩)
    (fun _ _ _ waits ran _ recovers => waits_step waits recovers ran) waits events
  · cases e with
    | timerDone => exact recovers_of_good ran (comes.2 w' ran)
    | _ => trivial
  · refine ⟨waits.good, fun w'' ran' => ?_⟩
    exact (waits_step waits recovers ran').good

/-- No notification of a refusal ends in this step. -/
def Unrefused (w : World) : Event → Prop
  | .timerDone => ∀ d ∈ w.technology.reg.dispatching, d.2.error = false
  | _ => True

instance (w : World) (e : Event) : Decidable (Unrefused w e) := by
  unfold Unrefused
  split
  · exact inferInstanceAs (Decidable (∀ d ∈ _, _))
  · infer_instance

theorem Unrefused.recovers (unrefused : Unrefused w e) : Recovers w e := by
  cases e with
  | timerDone =>
    intro id c running _ error
    rw [unrefused (id, c) running] at error
    cases error
  | _ => trivial

/-- An item of a technology, and nothing in flight. -/
def shown : World :=
  let made := gtkTechnologyNew
    ((Technology.listing.foldlM Technology.step Technology.started).get (by decide +kernel)) "/t" 1 2
  { technology := made.1, item := made.2 }

theorem shown_start : Start (Reaches Technology.step Always Technology.Start) shown := by
  have reached : Reaches Technology.step Always Technology.Start
      ((Technology.listing.foldlM Technology.step Technology.started).get (by decide +kernel)) :=
    (Reaches.here Technology.started_start).play Technology.listing (Option.some_get _).symm
  refine ⟨_, "/t", 1, 2, reached, by decide +kernel, fun o => ?_, by decide +kernel, rfl, nofun⟩
  have created : ∀ obj : Object Technology.Property Technology.Record, obj.propertyChangedCb = none →
      (Function.update (fun _ => Object.blank) 0 obj o).propertyChangedCb ≠ some 1 := by
    intro obj unset
    rw [Function.update_apply]
    split
    · rw [unset]
      nofun
    · nofun
  exact created _ rfl

/-- A click that ConnMan accepts, and another when the switch is back. -/
def clicked : List Event :=
  [.buttonRelease 1 .sent, .accept 1, .propertyChanged 1 none "Powered" (.variant (.boolean true)) true,
    .setPropertyReply 1 false, .timer 1, .timerDone, .buttonRelease 1 .sent]

theorem switch_comes_back_clicked : AllSteps step Comes shown clicked := by
  have unrefused : (play step Unrefused shown clicked).isSome := by decide +kernel
  have all := AllSteps.of_play (Option.some_get unrefused).symm
  exact (switch_comes_back_iff shown shown_start clicked).mpr (all.mono fun _ _ => Unrefused.recovers)

/-- A click that ConnMan refuses, and the notification of that. -/
def refused : List Event := [.buttonRelease 1 .sent, .setPropertyReply 1 true, .timer 1]

def afterRefused : World := (refused.foldlM step shown).get (by decide +kernel)

def afterNotified : World := (step afterRefused .timerDone).get (by decide +kernel)

/-- The switch is insensitive, and nothing is to come. -/
theorem not_always_comes : ¬ ∀ w, Start (Reaches Technology.step Always Technology.Start) w →
    ∀ events, AllSteps step Comes w events := by
  intro always
  have ended : step afterRefused .timerDone = some afterNotified := (Option.some_get _).symm
  have comes := AllSteps.last refused .timerDone (always shown shown_start _) (Option.some_get _).symm ended
  have waiting := (comes.2 _ ended).waits (by decide +kernel)
  have quiet : afterNotified.owed = 0 ∧ afterNotified.technology.reg.calls.live = [] ∧
      afterNotified.technology.reg.sources.live = [] := by decide +kernel
  obtain ⟨paid, flying, idle⟩ := quiet
  rcases waiting with owed | ⟨o, _, ⟨call, found⟩ | ⟨id, ⟨c, found, _⟩ | ⟨c, found, _⟩, _⟩⟩
  · rw [paid] at owed
    cases owed
  · rw [Pool.find, flying] at found
    cases found
  · rw [Pool.find, idle] at found
    cases found
  · rw [Pool.find, idle] at found
    cases found

end GtkTechnology

end ConnmanUi
