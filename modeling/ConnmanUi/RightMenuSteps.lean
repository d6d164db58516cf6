import ConnmanUi.RightMenuShown

/-!
What holds at every step of the right menu (`Good`).

The menu is opened and closed, ConnMan comes and goes, the items are clicked, and
the technology module moves on without invoking the menu's callbacks.
-/

namespace ConnmanUi

open Registry Run

namespace RightMenu

open Technology (connmanTechnologyGetTechnologies Carries registrations registrations_step)
open GtkTechnology (told news)

variable {w w' : World} {s s' : Technology.State} {entries : List (String × Nat)} {entry : String × Nat} {o : ObjId}
  {path : String} {item : GtkTechnology.Item}

/-! ## Opening and closing the menu -/

theorem mem_technologies (tidy : Technology.Tidy s) (path : String) :
    path ∈ connmanTechnologyGetTechnologies s ↔ s.reg.get path ≠ none := by
  constructor
  · intro mem
    obtain ⟨⟨_, o⟩, there, rfl⟩ := List.mem_map.mp mem
    rw [tidy.owned.get_of_entry there]
    nofun
  · intro known
    obtain ⟨o, found⟩ := Option.ne_none_iff_exists'.mp known
    exact Technology.mem_keys_of_get tidy.owned tidy.unselected found

/-- What the menu registers with the module. -/
def listen (cb : Option Callback) (s : Technology.State) : Technology.State :=
  Technology.connmanTechnologySetAddedCallback (Technology.connmanTechnologySetRemovedCallback s cb) cb

theorem listen_eq (cb : Option Callback) (s : Technology.State) :
    listen cb s = if s.up then { s with removedCb := cb, addedCb := cb } else s := by
  unfold listen Technology.connmanTechnologySetAddedCallback Technology.connmanTechnologySetRemovedCallback
  cases up : s.up with
  | false => simp [up]
  | true => simp

theorem listen_reg (cb : Option Callback) (s : Technology.State) : (listen cb s).reg = s.reg := by
  rw [listen_eq]
  split
  · rfl
  · rfl

theorem Base.listen (base : Base w entries) (cb : Option Callback) : Base (w.via (RightMenu.listen cb)) entries := by
  have reached : Reaches Technology.step Always Technology.Start (RightMenu.listen cb w.technology) :=
    (base.reached.next (e := .setRemovedCallback cb) trivial rfl).next (e := .setAddedCallback cb) trivial rfl
  refine ⟨reached, ?_, base.right, base.tethering, base.position, base.made, base.order, fun o => ?_⟩
  · unfold World.via
    dsimp only
    rw [listen_eq]
    split
    case isTrue up => exact ⟨base.registered.up, fun down => (by cases up.symm.trans down), Iff.rfl, base.registered.global⟩
    case isFalse => exact base.registered
  · unfold World.via
    dsimp only
    rw [listen_reg]
    exact base.owner o

/-- Nothing is registered while the module is down. -/
theorem Base.listen_none (base : Base w entries) : (RightMenu.listen none w.technology).addedCb = none := by
  rw [listen_eq]
  split
  case isTrue => rfl
  case isFalse down => exact base.registered.down (Bool.eq_false_of_not_eq_true down)

theorem Synced.of_reg {g : Since} (synced : Synced w g) (reg : s.reg = w.technology.reg) :
    Synced { w with technology := s } g := by
  constructor
  · intro path
    dsimp only
    rw [reg]
    exact synced.listed path
  · intro entry mem
    obtain ⟨o, item, found, own, tells⟩ := synced.heard entry mem
    refine ⟨o, item, ?_, own, tells.still Iff.rfl ?_ fun _ shows_ => ⟨?_, ?_⟩⟩
    · dsimp only
      rw [reg]
      exact found
    · dsimp only
      rw [reg]
    · dsimp only
      rw [reg]
      exact shows_.shown
    · dsimp only
      rw [reg]
      exact shows_.running

/-- What holds at every step. -/
structure Good (w : World) (g : Since) : Prop where
  base : Base w w.techItems
  keys : (w.techItems.map Prod.fst).Nodup
  closed : w.shown = false → w.techItems = []
  listening : w.technology.addedCb ≠ none → w.shown = true
  synced : w.technology.addedCb ≠ none → Synced w g

theorem Good.silent {g g' : Since} (good : Good w g) (silent : w.technology.addedCb = none) : Good w g' :=
  ⟨good.base, good.keys, good.closed, good.listening, fun listening => absurd silent listening⟩

/-- Technologies that have no item are added, one after the other. -/
theorem addAll (paths : List String) {unannounced : List String} (base : Base w w.techItems)
    (keys : (w.techItems.map Prod.fst).Nodup) (synced : Synced w { unannounced := unannounced })
    (distinct : paths.Nodup) (known : ∀ path ∈ paths, w.technology.reg.get path ≠ none)
    (apart : ∀ path ∈ paths, path ∉ w.techItems.map Prod.fst) :
    let w' := paths.foldl addTechnology w
    Base w' w'.techItems ∧ (w'.techItems.map Prod.fst).Nodup ∧
      Synced w' { unannounced := unannounced.filter (· ∉ paths) } := by
  induction paths generalizing w unannounced with
  | nil =>
    have all : unannounced.filter (· ∉ ([] : List String)) = unannounced := by simp
    rw [all]
    exact ⟨base, keys, synced⟩
  | cons path paths ih =>
    obtain ⟨absent, distinct⟩ := List.nodup_cons.mp distinct
    obtain ⟨o, found⟩ := Option.ne_none_iff_exists'.mp (known path List.mem_cons_self)
    obtain ⟨table, _, _, rewired⟩ := addTechnology_frame w path
    have next := synced.addTechnology base keys found
    have since : Since.added { unannounced := unannounced } w path = { unannounced := unannounced.filter (· ≠ path) } := by
      unfold Since.added
      dsimp only
      rw [if_neg (apart path List.mem_cons_self)]
      rfl
    rw [since] at next
    obtain ⟨base', keys', synced'⟩ := ih (base.addTechnology keys path) (addTechnology_keys keys path) next distinct
      (fun other mem => by
        rw [rewired.get]
        exact known other (List.mem_cons_of_mem _ mem))
      (fun other mem there => by
        rw [table, List.map_append, List.mem_append, mem_filter_ne] at there
        rcases there with ⟨there, _⟩ | last
        · exact apart other (List.mem_cons_of_mem _ mem) there
        · rw [List.mem_singleton.mp last] at mem
          exact absent mem)
    refine ⟨base', keys', ?_⟩
    have both : (unannounced.filter (· ≠ path)).filter (· ∉ paths) = unannounced.filter (· ∉ path :: paths) := by
      rw [List.filter_filter]
      exact List.filter_congr fun other _ => by
        by_cases same : other = path <;> simp [same]
    rw [← both]
    exact synced'

/-- The items are destroyed, one after the other. -/
theorem deleteAll (base : Base w entries) :
    let w' := entries.foldl (fun w entry => deleteTechnologyItem w entry.2) w
    Base w' [] ∧ w'.techItems = w.techItems ∧ w'.shown = w.shown ∧ Rewired w.technology w'.technology := by
  induction entries generalizing w with
  | nil => exact ⟨base, rfl, rfl, .refl _⟩
  | cons entry entries ih =>
    have first := base.deleteTechnologyItem (List.mem_cons_self (a := entry) (l := entries))
    have rest : (entry :: entries).filter (·.2 ≠ entry.2) = entries := by
      obtain ⟨absent, _⟩ := List.nodup_cons.mp base.once
      rw [List.filter_cons_of_neg (by simp)]
      refine List.filter_eq_self.mpr fun other mem => decide_eq_true fun same => absent ?_
      exact same ▸ List.mem_map_of_mem mem
    rw [rest] at first
    obtain ⟨table, _, shown, rewired⟩ := deleteTechnologyItem_frame w entry.2
    obtain ⟨base', table', shown', rewired'⟩ := ih first
    exact ⟨base', table'.trans table, shown'.trans shown, rewired.trans rewired'⟩

theorem Good.popdown {g : Since} (good : Good w g) : Good (cuiPopdownRightMenu w) g := by
  have quiet : Base { w.via (listen none) with shown := false, techItems := [] } w.techItems :=
    { good.base.listen none with }
  obtain ⟨base, table, shown, rewired⟩ := deleteAll quiet
  have same : cuiPopdownRightMenu w = w.techItems.foldl (fun w entry => deleteTechnologyItem w entry.2)
    { w.via (listen none) with shown := false, techItems := [] } := rfl
  rw [same]
  have added : (w.techItems.foldl (fun w entry => deleteTechnologyItem w entry.2)
      { w.via (listen none) with shown := false, techItems := [] }).technology.addedCb = none := by
    rw [rewired.frame]
    exact good.base.listen_none
  refine ⟨?_, ?_, fun _ => table, fun listening => absurd added listening, fun listening => absurd added listening⟩
  · rw [table]
    exact base
  · rw [table]
    exact List.nodup_nil

/-- A menu without items gets one for each technology. -/
theorem Base.fill (base : Base w w.techItems) (empty : w.techItems = []) :
    let w' := (connmanTechnologyGetTechnologies w.technology).foldl RightMenu.addTechnology w
    Base w' w'.techItems ∧ (w'.techItems.map Prod.fst).Nodup ∧ Synced w' {} := by
  have known := mem_technologies base.tidy
  have distinct : (connmanTechnologyGetTechnologies w.technology).Nodup := base.tidy.owned.keys
  have keys : (w.techItems.map Prod.fst).Nodup := by
    rw [empty]
    exact List.nodup_nil
  -- until they are added they are all technologies without an item
  have synced : Synced w { unannounced := connmanTechnologyGetTechnologies w.technology } := by
    constructor
    · intro path
      rw [empty, known]
      simp
    · rw [empty]
      nofun
  have added := addAll (connmanTechnologyGetTechnologies w.technology) base keys synced distinct
    (fun path mem => (known path).mp mem) fun path _ => by
      rw [empty]
      nofun
  have none_ : (connmanTechnologyGetTechnologies w.technology).filter
      (· ∉ connmanTechnologyGetTechnologies w.technology) = [] :=
    List.filter_eq_nil_iff.mpr fun path mem => by simp [mem]
  rw [none_] at added
  exact added

theorem Good.popup {g : Since} (good : Good w g) (closed : w.shown = false) (offlinemode : Bool) :
    Good (cuiPopupRightMenu w offlinemode) {} := by
  have empty := good.closed closed
  unfold cuiPopupRightMenu
  dsimp only
  split
  case isTrue disabled =>
    have base := good.base.listen (some menuCallback)
    have down : w.technology.up = false := good.base.registered.up.trans (by rw [disabled]; rfl)
    have still : (listen (some menuCallback) w.technology).addedCb = none := by
      rw [listen_eq, if_neg (by simp [down])]
      exact good.base.registered.down down
    exact ⟨{ base with }, good.keys, nofun, fun _ => rfl, fun listening => absurd still listening⟩
  case isFalse =>
    have before : ∀ visible, Base { w with visible := visible } w.techItems := fun _ => { good.base with }
    obtain ⟨base, keys, synced⟩ := (before (Function.update (Function.update w.visible .itemOfflinemodeOn offlinemode)
      Fixed.itemOfflinemodeOff (!offlinemode))).fill empty
    exact ⟨{ base.listen (some menuCallback) with }, keys, nofun, fun _ => rfl,
      fun _ => { synced.of_reg (listen_reg (some menuCallback) _) with }⟩

/-! ## ConnMan comes and goes -/

theorem Good.up {g : Since} (good : Good w g) : Good (connmanUp w) g := by
  have reached : Reaches Technology.step Always Technology.Start (Technology.connmanTechnologyInit w.technology) :=
    good.base.reached.next (e := .init) trivial rfl
  have reg : (Technology.connmanTechnologyInit w.technology).reg = w.technology.reg := by
    unfold Technology.connmanTechnologyInit
    split
    · rfl
    · rfl
  have registered : Registered (registrations (Technology.connmanTechnologyInit w.technology)) false := by
    unfold Technology.connmanTechnologyInit
    split
    case isTrue up => exact ⟨up, fun down => (by cases up.symm.trans down), good.base.registered.both, good.base.registered.global⟩
    case isFalse => exact ⟨rfl, nofun, good.base.registered.both, good.base.registered.global⟩
  have added : (Technology.connmanTechnologyInit w.technology).addedCb = w.technology.addedCb := by
    unfold Technology.connmanTechnologyInit
    split
    · rfl
    · rfl
  refine ⟨⟨reached, registered, good.base.right, good.base.tethering, good.base.position, good.base.made,
    good.base.order, fun o => ?_⟩, good.keys, good.closed, fun listening => good.listening (added ▸ listening),
    fun listening => ?_⟩
  · have owner := good.base.owner o
    rw [← reg] at owner
    exact owner
  · have synced := (good.synced (by rw [← added]; exact listening)).of_reg reg
    exact { synced with }

/-- The technologies that had callbacks are freed. -/
theorem Base.finalize (base : Base w entries) (up : w.technology.up = true) (o : ObjId) :
    (Technology.connmanTechnologyFinalize w.technology).reg.listeners o = (none, none) := by
  unfold Technology.connmanTechnologyFinalize
  rw [if_pos up]
  have freed := listeners_hashRemoveAll base.tidy.unselected o
  refine freed.trans ?_
  split
  case isTrue => rfl
  case isFalse outside =>
    rcases base.owner o with none_ | ⟨entry, _, _, known⟩
    · exact none_
    · obtain ⟨_, _, mem | selected⟩ := base.tidy.owned.get_spec known
      · exact absurd (List.mem_map_of_mem (f := Prod.snd) mem) outside
      · rw [base.tidy.unselected] at selected
        cases selected

theorem Good.down {g : Since} (good : Good w g) : Good (connmanDown w) g := by
  cases up : w.technology.up with
  | false =>
    have same : Technology.connmanTechnologyFinalize w.technology = w.technology := by
      unfold Technology.connmanTechnologyFinalize
      rw [if_neg (by simp [up])]
    unfold connmanDown
    rw [same]
    have registered : Registered (registrations w.technology) true :=
      ⟨up, good.base.registered.down, good.base.registered.both, good.base.registered.global⟩
    exact ⟨⟨good.base.reached, registered, good.base.right, good.base.tethering, good.base.position, good.base.made,
      good.base.order, good.base.owner⟩, good.keys, good.closed, good.listening, fun listening => { good.synced listening with }⟩
  | true =>
    have reached : Reaches Technology.step Always Technology.Start (Technology.connmanTechnologyFinalize w.technology) :=
      good.base.reached.next (e := .finalize) trivial rfl
    have finalized : registrations (Technology.connmanTechnologyFinalize w.technology) = ⟨false, none, none, none⟩ := by
      unfold Technology.connmanTechnologyFinalize
      rw [if_pos up]
      rfl
    have registered : Registered (registrations (Technology.connmanTechnologyFinalize w.technology)) true := by
      rw [finalized]
      exact ⟨rfl, fun _ => rfl, Iff.rfl, rfl⟩
    have silent : (Technology.connmanTechnologyFinalize w.technology).addedCb = none :=
      congrArg Technology.Registrations.addedCb finalized
    exact ⟨⟨reached, registered, good.base.right, good.base.tethering, good.base.position, good.base.made,
      good.base.order, fun o => .inl (good.base.finalize up o)⟩, good.keys, good.closed,
      fun listening => absurd silent listening, fun listening => absurd silent listening⟩

/-! ## The technology module moves on -/

/-- The technologies stay known and keep their callbacks, and the items show them. -/
theorem Synced.move {g g' : Since} (synced : Synced w g) {items : List GtkTechnology.Item}
    (known : ∀ path o, w.technology.reg.get path = some o → s.reg.get path = some o)
    (listeners : s.reg.listeners = w.technology.reg.listeners)
    (listed : ∀ path, s.reg.get path ≠ none ∧ path ∉ g'.unannounced ↔
      w.technology.reg.get path ≠ none ∧ path ∉ g.unannounced)
    (again : g'.again = g.again)
    (shows_ : ∀ entry ∈ w.techItems, ∀ o item, w.technology.reg.get entry.1 = some o → w.items[entry.2]? = some item →
      ∃ item', items[entry.2]? = some item' ∧
        (w.technology.reg.listeners o = (some (changedCallback entry.2), some (errorCallback entry.2)) →
          Shows w.technology o item → Shows s o item')) :
    Synced { w with technology := s, items := items } g' := by
  constructor
  · intro path
    rw [listed]
    exact synced.listed path
  · intro entry mem
    obtain ⟨o, item, found, own, tells⟩ := synced.heard entry mem
    obtain ⟨item', own', shown⟩ := shows_ entry mem o item found own
    refine ⟨o, item', known _ _ found, own', ?_⟩
    have registered : entry.1 ∉ g.again → w.technology.reg.listeners o =
        (some (changedCallback entry.2), some (errorCallback entry.2)) := by
      intro hears
      unfold Tells at tells
      rw [if_neg hears] at tells
      exact tells.1
    exact tells.still (by rw [again]) (congrFun listeners o) fun hears => shown (registered hears)

theorem Shows.carries (shows_ : Shows s o item) (carries : Carries s.reg s'.reg) (live : s.reg.Live o)
    (registered : (s.reg.listeners o).1 ≠ none) (idle : s'.reg.dispatching = none)
    {item' : GtkTechnology.Item} (same : item'.enabler.active = item.enabler.active) : Shows s' o item' where
  shown := by
    rw [same]
    rcases shows_.shown with active | updating
    · rcases carries.powered o live registered with updating | still
      · exact .inr updating
      · exact .inl (active.trans still.symm)
    · exact .inr (carries.updating o live updating)
  running id c running := by
    rw [idle] at running
    cases running

/-- Listing: which technologies the menu does not know of. -/
def Relisted (s s' : Technology.State) (g g' : Since) : Prop :=
  ∀ path, s'.reg.get path ≠ none ∧ path ∉ g'.unannounced ↔ s.reg.get path ≠ none ∧ path ∉ g.unannounced

/-- What the menu has registered and its table stay. -/
theorem Good.moved {g g' : Since} {items : List GtkTechnology.Item} (good : Good w g)
    (base : Base { w with technology := s, items := items } w.techItems)
    (registered : registrations s = registrations w.technology)
    (synced : Synced w g → Synced { w with technology := s, items := items } g') :
    Good { w with technology := s, items := items } g' := by
  have added : s.addedCb = w.technology.addedCb := congrArg Technology.Registrations.addedCb registered
  exact ⟨base, good.keys, good.closed, fun listening => good.listening (added ▸ listening),
    fun listening => synced (good.synced (added ▸ listening))⟩

/-- A step of the module that invokes nothing, while no timer runs. -/
theorem Good.carried {g g' : Since} {event : Technology.Event} (good : Good w g)
    (ran : Technology.step w.technology event = some s) (still : Technology.Still event)
    (fires : ∀ id, event ≠ .timer id) (idle : w.technology.reg.dispatching = none)
    (listed : Relisted w.technology s g g') (again : g'.again = g.again) {items : List GtkTechnology.Item}
    (kept : ∀ (t : Nat) item, w.items[t]? = some item → ∃ item', items[t]? = some item' ∧ item'.path = item.path ∧
      item'.changed = item.changed ∧ item'.enabler.active = item.enabler.active) :
    Good { w with technology := s, items := items } g' := by
  have tidy := good.base.tidy
  have carries := Technology.step_carries (tidy.listable good.base.timed good.base.blank) tidy ran still
  have registered := registrations_step tidy ran (.inl still)
  have ends : event ≠ .timerDone := by
    rintro rfl
    exact still
  have idle' : s.reg.dispatching = none :=
    (Technology.dispatching_step tidy good.base.timed ran fires ends).trans idle
  have base : Base { w with technology := s, items := items } w.techItems :=
    good.base.move (good.base.reached.next trivial ran) registered carries.listeners carries.known fun t item found => by
      obtain ⟨item', found', path, changed, _⟩ := kept t item found
      exact ⟨item', found', path, changed⟩
  refine good.moved base registered fun synced => ?_
  refine synced.move carries.known carries.listeners listed again fun entry _ o item known found => ?_
  obtain ⟨item', found', _, _, active⟩ := kept entry.2 item found
  refine ⟨item', found', fun own shows_ => shows_.carries carries (tidy.owned.get_spec known).1 ?_ idle' active⟩
  rw [own]
  nofun

theorem kept_items (w : World) : ∀ (t : Nat) item, w.items[t]? = some item → ∃ item', w.items[t]? = some item' ∧
    item'.path = item.path ∧ item'.changed = item.changed ∧ item'.enabler.active = item.enabler.active :=
  fun _ item found => ⟨item, found, rfl, rfl, rfl⟩

/-- A step that leaves the technologies where they are. -/
theorem Good.still {g : Since} {event : Technology.Event} (good : Good w g) (ran : quietly w event = some w')
    (still : Technology.Still event) (unmoving : ¬ Technology.Moving event) (fires : ∀ id, event ≠ .timer id)
    (idle : w.technology.reg.dispatching = none) : Good w' g := by
  obtain ⟨s, stepped, rfl⟩ := Option.map_eq_some_iff.mp ran
  have place := (Technology.quiet_step good.base.tidy.owned stepped unmoving).place
  exact good.carried stepped still fires idle (fun path => by rw [place.get]) rfl (kept_items w)

/-! ## The widgets of an item -/

/-- A handler that at most sets a property of the item's technology, and leaves
what the item shows of Powered. -/
structure Asks (handler : GtkTechnology.World → GtkTechnology.World) : Prop where
  sets : ∀ one, handler one = one ∨ ∃ setting outcome, (handler one).technology =
    (Technology.connmanTechnologySet one.technology one.item.path setting outcome).1
  keeps : ∀ one, (handler one).item.path = one.item.path ∧ (handler one).item.changed = one.item.changed ∧
    (handler one).item.enabler.active = one.item.enabler.active

theorem buttonRelease_asks (button : Nat) (outcome : SendOutcome) :
    Asks fun one => GtkTechnology.gtkTechnologyButtonReleaseEvent one button outcome := by
  constructor
  · intro one
    unfold GtkTechnology.gtkTechnologyButtonReleaseEvent
    split
    · exact .inl rfl
    · exact .inr ⟨.enable (!one.item.enabler.active), outcome, rfl⟩
  · intro one
    unfold GtkTechnology.gtkTechnologyButtonReleaseEvent
    dsimp only
    split
    · exact ⟨rfl, rfl, rfl⟩
    · split
      · exact ⟨rfl, rfl, rfl⟩
      · exact ⟨rfl, rfl, rfl⟩

theorem tetheringButton_asks (button : Nat) (outcome : SendOutcome) :
    Asks fun one => GtkTechnology.gtkTechnologyTetheringButton one button outcome := by
  constructor
  · intro one
    unfold GtkTechnology.gtkTechnologyTetheringButton
    split
    · exact .inl rfl
    · exact .inr ⟨.tether (!one.item.tethering.active), outcome, rfl⟩
  · intro one
    unfold GtkTechnology.gtkTechnologyTetheringButton
    dsimp only
    split
    · exact ⟨rfl, rfl, rfl⟩
    · exact ⟨rfl, rfl, rfl⟩

theorem Good.handle {g : Since} {handler : GtkTechnology.World → GtkTechnology.World} (good : Good w g)
    (asks : Asks handler) (idle : w.technology.reg.dispatching = none) (t : Nat) : Good (handle w t handler) g := by
  unfold RightMenu.handle
  split
  case h_1 => exact good
  case h_2 item found =>
    have kept : ∀ (t' : Nat) item', w.items[t']? = some item' → ∃ item'',
        (w.items.set t (handler { technology := w.technology, item := item }).item)[t']? = some item'' ∧
          item''.path = item'.path ∧ item''.changed = item'.changed ∧
          item''.enabler.active = item'.enabler.active := by
      intro t' item' found'
      rw [List.getElem?_set]
      split
      case isTrue here =>
        subst here
        cases found.symm.trans found'
        rw [if_pos (List.getElem?_eq_some_iff.mp found).1]
        exact ⟨_, rfl, asks.keeps { technology := w.technology, item := item }⟩
      case isFalse => exact ⟨item', found', rfl, rfl, rfl⟩
    dsimp only
    rcases asks.sets { technology := w.technology, item := item } with same | ⟨setting, outcome, set⟩
    · rw [same]
      dsimp only
      obtain ⟨inside, rfl⟩ := List.getElem?_eq_some_iff.mp found
      rw [List.set_getElem_self]
      exact good
    · rw [set]
      have stepped : Technology.step w.technology (.set item.path setting outcome) =
          some (Technology.connmanTechnologySet w.technology item.path setting outcome).1 := rfl
      have place := (Technology.quiet_step good.base.tidy.owned stepped id).place
      exact good.carried stepped trivial nofun idle (fun path => by rw [place.get]) rfl kept

/-! ## Timers -/

/-- A note changes at most what an item shows. -/
theorem told_fields (s : Technology.State) (item : GtkTechnology.Item) (notes : List (Note Technology.Property)) :
    (notes.foldl (told s) item).path = item.path ∧ (notes.foldl (told s) item).changed = item.changed := by
  induction notes generalizing item with
  | nil => exact ⟨rfl, rfl⟩
  | cons note notes ih =>
    have one : (told s item note).path = item.path ∧ (told s item note).changed = item.changed := by
      cases note with
      | changedCb cb path property =>
        unfold told
        dsimp only
        split
        · obtain ⟨path, changed, _⟩ := GtkTechnology.technologyPropertyChangedCb_spec s item path property
          exact ⟨path, changed⟩
        · exact ⟨rfl, rfl⟩
      | errorCb cb path property =>
        rw [GtkTechnology.told_errorCb]
        exact ⟨rfl, rfl⟩
      | _ => exact ⟨rfl, rfl⟩
    exact ⟨(ih _).1.trans one.1, (ih _).2.trans one.2⟩

/-- The callback of an item is set for its technology and for no other. -/
theorem Base.mounted (base : Base w entries) (mem : entry ∈ entries) (known : w.technology.reg.get entry.1 = some o)
    (own : w.technology.reg.listeners o = (some (changedCallback entry.2), some (errorCallback entry.2))) :
    GtkTechnology.Mounted w.technology entry.1 (changedCallback entry.2) o := by
  refine ⟨base.tidy, base.timed, known, fun o' => ⟨fun registered => ?_, ?_⟩, ?_, ?_⟩
  · rcases base.owner o' with none_ | ⟨entry', mem', own', known'⟩
    · have unset : (w.technology.reg.heap o').propertyChangedCb = none := congrArg Prod.fst none_
      rw [unset] at registered
      cases registered
    · have set : (w.technology.reg.heap o').propertyChangedCb = some (changedCallback entry'.2) := congrArg Prod.fst own'
      rw [set] at registered
      have same : entry'.2 = entry.2 := Nat.eq_of_mul_eq_mul_left (by decide) (Option.some.inj registered)
      rw [base.entry_eq mem' mem same, known] at known'
      exact (Option.some.inj known').symm
  · rintro rfl
    exact congrArg Prod.fst own
  · have global : w.technology.propertyChangedCb = none := base.registered.global
    rw [global]
    nofun
  · have set : (w.technology.reg.heap o).propertySetErrorCb = some (errorCallback entry.2) := congrArg Prod.snd own
    rw [set]
    nofun

/-- A timer of Powered has the item show it, and any other leaves what it shows. -/
theorem Shows.timer (shows_ : Shows s o item) {id : Nat} (mounted : GtkTechnology.Mounted s path item.changed o)
    (ran : Technology.step s (.timer id) = some s') : Shows s' o ((news s s').foldl (told s') item) := by
  have mounted' := mounted.step ran trivial
  have told := fun c found => GtkTechnology.told_timer (c := c) mounted found ran
  obtain ⟨reg, fired, rfl⟩ := Option.map_eq_some_iff.mp (Technology.handed ran).2
  obtain ⟨c, found, _⟩ := timerRun_spec fired
  have slot := ((timerRun_sameTimers fired).slots (.update o Technology.Property.powered)).resolve_right nofun
  have data : (reg.heap o).rest = (s.reg.heap o).rest := ((timerRun_upkeep fired).object o).rest
  obtain ⟨_, _, enabler⟩ := GtkTechnology.technologyPropertyChangedCb_spec { s with reg := reg } item path c.index
  rw [told c found]
  by_cases powered : c.error = false ∧ c.path = o ∧ c.index = .powered
  · obtain ⟨error, here, index⟩ := powered
    rw [if_pos ⟨error, here⟩]
    rw [if_pos index, mounted'.enabled] at enabler
    exact .of_active (congrArg GtkTechnology.Button.active enabler)
  · have same : (if c.error = false ∧ c.path = o then
        GtkTechnology.technologyPropertyChangedCb { s with reg := reg } item path c.index else item).enabler =
        item.enabler := by
      split
      case isTrue both => exact enabler.trans (if_neg fun index => powered ⟨both.1, both.2, index⟩)
      case isFalse => rfl
    constructor
    · rw [same]
      dsimp only
      rw [data, slot]
      exact shows_.shown
    · intro id' c' running error here index
      have now := (timerRun_dispatching found fired).symm.trans running
      cases now
      exact absurd ⟨error, here, index⟩ powered

theorem Good.timer {g : Since} {id : Nat} (good : Good w g)
    (ran : Technology.step w.technology (.timer id) = some s) :
    Good { w with technology := s, items := w.items.map fun item => (news w.technology s).foldl (told s) item } g := by
  have tidy := good.base.tidy
  have carries := Technology.step_carries (tidy.listable good.base.timed good.base.blank) tidy ran trivial
  have registered := registrations_step tidy ran (.inl trivial)
  have place := (Technology.quiet_step tidy.owned ran (fun moving => moving)).place
  have mapped : ∀ (t : Nat) item, w.items[t]? = some item →
      (w.items.map fun item => (news w.technology s).foldl (told s) item)[t]? =
        some ((news w.technology s).foldl (told s) item) := by
    intro t item found
    rw [List.getElem?_map, found]
    rfl
  have base := good.base.move (good.base.reached.next trivial ran) registered carries.listeners carries.known
    fun t item found => ⟨_, mapped t item found, told_fields s item (news w.technology s)⟩
  refine good.moved base registered fun synced => ?_
  refine synced.move carries.known carries.listeners (fun path => by rw [place.get]) rfl
    fun entry mem o item known found => ?_
  refine ⟨_, mapped _ item found, fun own shows_ => ?_⟩
  obtain ⟨item', found', _, changed⟩ := good.base.made entry mem
  cases found.symm.trans found'
  have mounted := good.base.mounted mem known own
  rw [← changed] at mounted
  exact shows_.timer mounted ran

/-- The timer that is over has shown Powered, if it was for that. -/
theorem Shows.timerDone (shows_ : Shows s o item) (timed : Timed s.reg) (ran : Technology.step s .timerDone = some s') :
    Shows s' o item := by
  have stepped : GtkTechnology.step { technology := s, item := item } .timerDone =
      some { technology := s', item := item } := by
    unfold GtkTechnology.step
    dsimp only
    rw [ran]
    rfl
  obtain ⟨id, c, reg, running, same, upkeep, idle, after⟩ := GtkTechnology.timerDone_spec stepped
  cases same
  dsimp only at running upkeep after
  have data : (reg.heap o).rest = (s.reg.heap o).rest := (upkeep.object o).rest
  refine ⟨?_, fun id' c' running' => ?_⟩
  · dsimp only
    rw [data]
    by_cases over_ : c.error = false ∧ c.path = o ∧ c.index = .powered
    · exact .inl (shows_.running id c running over_.1 over_.2.1 over_.2.2)
    · refine shows_.shown.imp (fun active => active) fun updating => ?_
      rw [after]
      split
      case isFalse => exact updating
      case isTrue own =>
        have other : (Source.property c).slot ≠ .update o .powered := by
          intro slot
          obtain ⟨_, timer, rest⟩ := slot_update slot
          cases timer
          exact over_ rest
        have quiet : Timed { s.reg with dispatching := none } :=
          timed.same (idle_sameTimers _) ⟨rfl, rfl, rfl, rfl, fun _ => rfl⟩
        exact ne_of_eq_of_ne (quiet.sourceRemove_slot own other) updating
  · dsimp only at running'
    rw [idle] at running'
    cases running'

theorem Good.timerDone {g : Since} (good : Good w g) (ran : quietly w .timerDone = some w') : Good w' g := by
  obtain ⟨s, stepped, rfl⟩ := Option.map_eq_some_iff.mp ran
  have tidy := good.base.tidy
  obtain ⟨same, _⟩ := Technology.callbacks_step stepped trivial
  have registered := registrations_step tidy stepped (.inr rfl)
  have known : ∀ path o, w.technology.reg.get path = some o → s.reg.get path = some o :=
    fun path o found => (same.toSamePlace.get path).trans found
  have base : Base { w with technology := s } w.techItems :=
    good.base.move (good.base.reached.next trivial stepped) registered same.listeners known
      fun _ item found => ⟨item, found, rfl, rfl⟩
  exact good.moved base registered fun synced =>
    synced.move known same.listeners (fun path => by rw [same.toSamePlace.get]) rfl
      fun _ _ _ item _ found => ⟨item, found, fun _ shows_ => shows_.timerDone good.base.timed stepped⟩

end RightMenu

end ConnmanUi
