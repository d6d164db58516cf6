import ConnmanUi.RightMenuSteps

/-!
The right menu shows the technologies.

In every run each item stands in both menus, below those made before it, and is
kept under its path, and every callback a technology has was set for an item that
is still there, so none is invoked with an item that was destroyed.  While the menu listens, its items
are those of the technologies that are known, but for the ones only a reply has
listed since it was opened; and an item's switch shows Powered unless an update
is scheduled, but for the technologies announced once more meanwhile: the item
that is replaced takes the new one's callbacks with it
(`right_menu_mirrors`).
-/

namespace ConnmanUi

open Registry Run

namespace RightMenu

open Technology (connmanTechnologyGetTechnologies registrations_step)

variable {w w' : World} {s s' : Technology.State} {entries : List (String × Nat)} {o : ObjId} {path : String}

/-! ## Technologies are announced -/

/-- A reply lists technologies the menu is not told of. -/
theorem Good.getTechnologiesReply {g : Since} {call : Nat} {uninit : Option String}
    {reply : Technology.TechnologiesReply} (good : Good w g)
    (ran : quietly w (.getTechnologiesReply call uninit reply) = some w')
    (idle : w.technology.reg.dispatching = none) : Good w' (g.listed w.technology w'.technology) := by
  obtain ⟨s, stepped, rfl⟩ := Option.map_eq_some_iff.mp ran
  have tidy := good.base.tidy
  have carries := Technology.step_carries (tidy.listable good.base.timed good.base.blank) tidy stepped trivial
  have grown : ∀ path, w.technology.reg.get path ≠ none → s.reg.get path ≠ none := by
    intro path known
    obtain ⟨o, found⟩ := Option.ne_none_iff_exists'.mp known
    rw [carries.known path o found]
    nofun
  have relisted : Relisted w.technology s g (g.listed w.technology s) := by
    intro path
    have before := grown path
    unfold Since.listed
    dsimp only
    rw [List.mem_append, List.mem_filter, decide_eq_true_eq, mem_technologies tidy,
      mem_technologies (Technology.tidy_step tidy stepped)]
    constructor
    · rintro ⟨now, apart⟩
      refine ⟨fun unknown => apart (.inr ⟨now, not_not.mpr unknown⟩), fun mem => apart (.inl mem)⟩
    · rintro ⟨known, apart⟩
      exact ⟨before known, fun mem => mem.elim apart fun new => new.2 known⟩
  exact good.carried stepped trivial nofun idle relisted rfl (kept_items w)

theorem Good.addTechnology {g : Since} (good : Good w g) (known : w.technology.reg.get path = some o)
    (listening : w.technology.addedCb ≠ none) : Good (addTechnology w path) (g.added w path) := by
  have shown : (RightMenu.addTechnology w path).shown = true :=
    (addTechnology_frame w path).2.2.1.trans (good.listening listening)
  exact ⟨good.base.addTechnology good.keys path, addTechnology_keys good.keys path,
    fun closed => (by cases shown.symm.trans closed), fun _ => shown,
    fun _ => (good.synced listening).addTechnology good.base good.keys known⟩

/-- Between the library's handler and the menu's a new technology is known without
an item. -/
def Since.unlisted (g : Since) (s : Technology.State) (path : String) : Since where
  again := g.again
  unannounced := if s.reg.get path = none then path :: g.unannounced else g.unannounced

theorem Since.added_unlisted (g : Since) (w : World) (f : Technology.State → Technology.State) (path : String) :
    (g.unlisted w.technology path).added (w.via f) path = g.added w path := by
  unfold Since.added Since.unlisted World.via
  dsimp only
  congr 1
  split
  · rw [List.filter_cons_of_neg (by simp)]
  · rfl

theorem relisted_unlisted (known : ∀ other, s'.reg.get other ≠ none ↔ s.reg.get other ≠ none ∨ other = path) (g : Since) :
    Relisted s s' g (g.unlisted s path) := by
  intro other
  unfold Since.unlisted
  rw [known]
  by_cases new : s.reg.get path = none
  · rw [if_pos new, List.mem_cons, not_or]
    constructor
    · rintro ⟨there, apart, out⟩
      exact ⟨there.resolve_right apart, out⟩
    · rintro ⟨there, out⟩
      exact ⟨.inl there, fun same => there (by rw [same, new]), out⟩
  · rw [if_neg new]
    refine and_congr_left fun _ => ⟨fun there => there.elim id ?_, .inl⟩
    rintro rfl
    exact new

/-- The library's handler makes the technology known. -/
theorem technologyAddedCb_known {uninit : Option String} {technology : String × Dict} (tidy : Technology.Tidy s)
    (up : s.up = true) (tidy' : Technology.Tidy (Technology.technologyAddedCb uninit s technology)) (path : String) :
    (Technology.technologyAddedCb uninit s technology).reg.get path ≠ none ↔
      s.reg.get path ≠ none ∨ path = technology.1 := by
  obtain ⟨listed, lists, handled⟩ :=
    Technology.technologyAddedCb_spec uninit tidy.owned tidy.unselected up technology
  have reg : (Technology.technologyAddedCb uninit s technology).reg = listed.reg := by
    rw [handled]
    split
    · rfl
    · rfl
  rw [← mem_technologies tidy', ← mem_technologies tidy]
  unfold connmanTechnologyGetTechnologies
  rw [reg, lists.known, List.mem_singleton]

theorem Good.technologyAdded {g : Since} {uninit : Option String} {technology : String × Dict} (good : Good w g)
    (heard : w.technology.technologySignals = true) (idle : w.technology.reg.dispatching = none) :
    Good (technologyAdded w uninit technology) (g.added w technology.1) := by
  have tidy := good.base.tidy
  have up := tidy.signals heard
  have stepped : Technology.step w.technology (.technologyAdded uninit technology) =
      some (Technology.technologyAddedCb uninit w.technology technology) := by
    unfold Technology.step Technology.dispatch
    dsimp only
    rw [if_pos idle, if_pos heard]
  have known := technologyAddedCb_known tidy up (Technology.tidy_step tidy stepped)
  have middle : Good (w.via fun s => Technology.technologyAddedCb uninit s technology) (g.unlisted w.technology technology.1) :=
    good.carried stepped trivial nofun idle (relisted_unlisted known g) rfl (kept_items w)
  have added : (Technology.technologyAddedCb uninit w.technology technology).addedCb = w.technology.addedCb :=
    congrArg Technology.Registrations.addedCb (registrations_step tidy stepped (.inl trivial))
  rw [technologyAdded_eq tidy up]
  split
  case isTrue silent => exact middle.silent (added.trans silent)
  case isFalse listening =>
    obtain ⟨o, found⟩ := Option.ne_none_iff_exists'.mp ((known technology.1).mpr (.inr rfl))
    have next := middle.addTechnology found (ne_of_eq_of_ne added listening)
    rw [Since.added_unlisted] at next
    exact next

/-! ## A technology is removed -/

/-- The technology of the path is freed, and the others stay as they are. -/
theorem technologyRemovedCb_spares (tidy : Technology.Tidy s) (path : String) :
    (∀ other, (Technology.technologyRemovedCb s path).reg.get other = if other = path then none else s.reg.get other) ∧
      (∀ o, (Technology.technologyRemovedCb s path).reg.listeners o =
        if s.reg.get path = some o then (none, none) else s.reg.listeners o) ∧
      ∀ other, other ≠ path → (Technology.technologyRemovedCb s path).reg.record other = s.reg.record other := by
  obtain ⟨quiet, frame⟩ := Technology.callRemovedCb_spec s path
  have owned : Owned (Technology.callRemovedCb s path).reg :=
    (quiet.ops.invariant (I := fun _ => True) tidy.owned trivial fun _ _ _ _ _ => trivial).1
  have heap : (Technology.callRemovedCb s path).reg.heap = s.reg.heap := (tell_around path).heap s
  have get : ∀ other, (Technology.callRemovedCb s path).reg.get other = s.reg.get other := (tell_around path).get s
  have unselected : (Technology.callRemovedCb s path).reg.selected = none := quiet.place.selected.trans tidy.unselected
  refine ⟨fun other => ?_, fun o => ?_, fun other apart => ?_⟩
  · exact (get_hashRemove unselected path other).trans (by rw [get])
  · refine (listeners_hashRemove unselected path o).trans ?_
    rw [← get_eq_lookup unselected, get]
    unfold Registry.listeners
    rw [heap]
  · have freed := congrFun (record_hashRemove owned unselected path) other
    rw [Function.update_of_ne apart] at freed
    refine freed.trans ?_
    unfold Registry.record
    rw [get, heap]

/-- The handler of the library frees the technology. -/
theorem Base.hashRemove (base : Base w entries)
    (stepped : Technology.step w.technology (.technologyRemoved path) =
      some (Technology.technologyRemovedCb w.technology path)) :
    Base (w.via fun s => Technology.technologyRemovedCb s path) entries := by
  obtain ⟨get, listeners, _⟩ := technologyRemovedCb_spares base.tidy path
  have same := Technology.registrations_of_frame (Technology.technologyRemovedCb_spec w.technology path).2.1
  refine ⟨base.reached.next trivial stepped, same.symm ▸ base.registered, base.right, base.tethering, base.position,
    base.made, base.order, fun o => ?_⟩
  have after := listeners o
  split at after
  case isTrue => exact .inl after
  case isFalse other =>
    rcases base.owner o with none_ | ⟨entry, mem, own, known⟩
    · exact .inl (after.trans none_)
    · refine .inr ⟨entry, mem, after.trans own, (get entry.1).trans ((if_neg ?_).trans known)⟩
      rintro rfl
      exact other known

/-- An item whose technology stays shows what it showed. -/
theorem Synced.hashRemove {g : Since}
    (synced : Synced w { again := g.again.filter (· ≠ path), unannounced := path :: g.unannounced })
    (tidy : Technology.Tidy w.technology) (timed : Timed w.technology.reg) (idle : w.technology.reg.dispatching = none)
    (stepped : Technology.step w.technology (.technologyRemoved path) =
      some (Technology.technologyRemovedCb w.technology path)) :
    Synced (w.via fun s => Technology.technologyRemovedCb s path) (g.removed path) := by
  obtain ⟨get, listeners, records⟩ := technologyRemovedCb_spares tidy path
  have stays := timed.stays_change tidy.owned (Technology.step_change tidy stepped) nofun
  have idle' := (Technology.technologyRemovedCb_dispatching tidy timed path).trans idle
  have owned' := (Technology.tidy_step tidy stepped).owned
  constructor
  · intro other
    have before := synced.listed other
    unfold World.via Since.removed
    dsimp only at before ⊢
    rw [before, get]
    by_cases here : other = path
    · simp [here]
    · simp [here]
  · intro entry mem
    obtain ⟨o, item, found, own, tells⟩ := synced.heard entry mem
    have listed := ((synced.listed entry.1).mp (List.mem_map_of_mem mem)).2
    have other : entry.1 ≠ path := fun same => listed (same ▸ List.mem_cons_self)
    have found' : (Technology.technologyRemovedCb w.technology path).reg.get entry.1 = some o :=
      (get entry.1).trans ((if_neg other).trans found)
    have apart : w.technology.reg.get path ≠ some o := by
      intro same
      exact other ((tidy.owned.get_spec found).2.1.symm.trans (tidy.owned.get_spec same).2.1)
    have data : ((Technology.technologyRemovedCb w.technology path).reg.heap o).rest = (w.technology.reg.heap o).rest := by
      have kept := records entry.1 other
      unfold Registry.record at kept
      rw [found', found] at kept
      exact Option.some.inj kept
    refine ⟨o, item, found', own, tells.still Iff.rfl ((listeners o).trans (if_neg apart)) fun _ shows_ => ⟨?_, ?_⟩⟩
    · refine shows_.shown.imp (fun active => active.trans (congrArg Technology.Record.powered data.symm)) fun updating => ?_
      exact stays.slots o .powered (tidy.owned.get_spec found).1.1 (owned'.get_spec found').1 updating
    · intro id c running
      cases running.symm.trans idle'

theorem Good.technologyRemoved {g : Since} (good : Good w g) (heard : w.technology.technologySignals = true)
    (idle : w.technology.reg.dispatching = none) (path : String) :
    Good (technologyRemoved w path) (g.removed path) := by
  have stepped : ∀ s : Technology.State, s.technologySignals = true → s.reg.dispatching = none →
      Technology.step s (.technologyRemoved path) = some (Technology.technologyRemovedCb s path) := by
    intro s heard idle
    unfold Technology.step Technology.dispatch
    dsimp only
    rw [if_pos idle, if_pos heard]
  have added : ∀ s, (Technology.technologyRemovedCb s path).addedCb = s.addedCb := fun s => by
    rw [(Technology.technologyRemovedCb_spec s path).2.1]
  have both : w.technology.removedCb = none ↔ w.technology.addedCb = none := good.base.registered.both
  rw [technologyRemoved_eq]
  split
  case isTrue silent =>
    have silent' := (added w.technology).trans (both.mp silent)
    exact ⟨good.base.hashRemove (stepped _ heard idle), good.keys, good.closed,
      fun listening => absurd silent' listening, fun listening => absurd silent' listening⟩
  case isFalse told =>
    have listening : w.technology.addedCb ≠ none := fun silent => told (both.mpr silent)
    obtain ⟨_, _, shown, rewired⟩ := technologyRemovedCb_frame w path
    have middle := good.base.technologyRemovedCb good.keys path
    have idle' := rewired.dispatching.trans idle
    have ran := stepped (technologyRemovedCb w path).technology (by rw [rewired.frame]; exact heard) idle'
    have opened : (technologyRemovedCb w path).shown = true := shown.trans (good.listening listening)
    exact ⟨middle.hashRemove ran, technologyRemovedCb_keys good.keys path,
      fun closed => (by cases opened.symm.trans closed), fun _ => opened, fun _ =>
      ((good.synced listening).technologyRemovedCb good.base path).hashRemove middle.tidy middle.timed idle' ran⟩

/-! ## Runs -/

/-- What is noted at a step. -/
def note (w : World) (e : Event) (w' : World) (g : Since) : Since :=
  match e with
  | .popup _ => {}
  | .technologyAdded _ technology => g.added w technology.1
  | .technologyRemoved path => g.removed path
  | .getTechnologiesReply .. => g.listed w.technology w'.technology
  | _ => g

/-- The program has built the menu, and asked for nothing yet. -/
def Start (w : World) : Prop := ∃ s, Technology.Start s ∧ w = load s

theorem handed {e : Event} (ran : step w e = some w') (ends : e ≠ .timerDone) :
    w.technology.reg.dispatching = none ∧ dispatch w e = some w' := by
  cases e with
  | timerDone => exact absurd rfl ends
  | _ => exact Option.ite_none_right_eq_some.mp ran

theorem Good.step {g : Since} {e : Event} (good : Good w g) (ran : step w e = some w') : Good w' (note w e w' g) := by
  cases e with
  | timerDone => exact good.timerDone ran
  | up =>
    cases (handed ran nofun).2
    exact good.up
  | down =>
    cases (handed ran nofun).2
    exact good.down
  | popup offlinemode =>
    obtain ⟨closed, ran⟩ := Option.ite_none_left_eq_some.mp (handed ran nofun).2
    cases ran
    exact good.popup (Bool.eq_false_of_not_eq_true closed) offlinemode
  | deactivate =>
    obtain ⟨_, ran⟩ := Option.ite_none_right_eq_some.mp (handed ran nofun).2
    cases ran
    exact good.popdown
  | buttonRelease t button outcome =>
    obtain ⟨idle, ran⟩ := handed ran nofun
    obtain ⟨_, ran⟩ := Option.ite_none_right_eq_some.mp ran
    cases ran
    unfold buttonReleaseEvent
    split
    · exact good.popdown
    · exact good.handle (buttonRelease_asks button outcome) idle t
  | tetheringButton t button outcome =>
    obtain ⟨idle, ran⟩ := handed ran nofun
    obtain ⟨_, ran⟩ := Option.ite_none_right_eq_some.mp ran
    cases ran
    exact good.handle (tetheringButton_asks button outcome) idle t
  | technologyAdded uninit technology =>
    obtain ⟨idle, ran⟩ := handed ran nofun
    obtain ⟨heard, ran⟩ := Option.ite_none_right_eq_some.mp ran
    cases ran
    exact good.technologyAdded heard idle
  | technologyRemoved path =>
    obtain ⟨idle, ran⟩ := handed ran nofun
    obtain ⟨heard, ran⟩ := Option.ite_none_right_eq_some.mp ran
    cases ran
    exact good.technologyRemoved heard idle path
  | getTechnologiesReply call uninit reply =>
    obtain ⟨idle, ran⟩ := handed ran nofun
    exact good.getTechnologiesReply ran idle
  | timer id =>
    obtain ⟨s, stepped, rfl⟩ := Option.map_eq_some_iff.mp (handed ran nofun).2
    exact good.timer stepped
  | set path setting outcome => exact good.still (handed ran nofun).2 trivial id nofun (handed ran nofun).1
  | scan path callback outcome => exact good.still (handed ran nofun).2 trivial id nofun (handed ran nofun).1
  | propertyChanged wid uninit name value =>
    exact good.still (handed ran nofun).2 trivial id nofun (handed ran nofun).1
  | setPropertyReply call failed => exact good.still (handed ran nofun).2 trivial id nofun (handed ran nofun).1
  | scanReply call => exact good.still (handed ran nofun).2 trivial id nofun (handed ran nofun).1

theorem good_start (start : Start w) : Good w {} := by
  obtain ⟨s, start, rfl⟩ := start
  have reached : Reaches Technology.step Always Technology.Start s := .here start
  obtain ⟨⟨sources, calls, scans, watches, rfl⟩, _⟩ := start
  exact ⟨⟨reached, ⟨rfl, fun _ => rfl, Iff.rfl, rfl⟩, rfl, rfl, rfl, nofun, List.Pairwise.nil, fun _ => .inl rfl⟩,
    List.nodup_nil, fun _ => rfl, fun listening => absurd rfl listening, fun listening => absurd rfl listening⟩

/-- The menu against the technologies. -/
structure Mirrors (w : World) (g : Since) : Prop where
  /-- The items stand between the separators, and the next one goes below them. -/
  right : w.right = above ++ w.techItems.map (fun entry => .technology entry.2) ++ below
  tethering : w.tethering = w.techItems.map Prod.snd
  position : w.itemPosition = 3 + w.techItems.length
  keys : (w.techItems.map Prod.fst).Nodup
  once : (w.techItems.map Prod.snd).Nodup
  /-- They stand in the order they were made in. -/
  order : (w.techItems.map Prod.snd).Pairwise (· < ·)
  named : ∀ entry ∈ w.techItems, ∃ item, w.items[entry.2]? = some item ∧ item.path = entry.1
  closed : w.shown = false → w.techItems = []
  listening : w.technology.addedCb ≠ none → w.shown = true
  /-- A technology has no callbacks, or those of the item it has. -/
  owner : ∀ o, w.technology.reg.listeners o = (none, none) ∨ ∃ entry ∈ w.techItems,
    w.technology.reg.listeners o = (some (changedCallback entry.2), some (errorCallback entry.2)) ∧
      w.technology.reg.get entry.1 = some o
  /-- While the menu listens, the items are those of the technologies, but for
  the ones only a reply has listed. -/
  listed : w.technology.addedCb ≠ none → ∀ path, path ∈ w.techItems.map Prod.fst ↔
    path ∈ connmanTechnologyGetTechnologies w.technology ∧ path ∉ g.unannounced
  /-- A technology announced once more has no callbacks. -/
  deaf : w.technology.addedCb ≠ none → ∀ entry ∈ w.techItems, entry.1 ∈ g.again →
    ∃ o, w.technology.reg.get entry.1 = some o ∧ w.technology.reg.listeners o = (none, none)
  /-- The item of any other is told, and shows Powered unless an update is pending. -/
  heard : w.technology.addedCb ≠ none → ∀ entry ∈ w.techItems, entry.1 ∉ g.again →
    ∃ o item, w.technology.reg.get entry.1 = some o ∧ w.items[entry.2]? = some item ∧
      w.technology.reg.listeners o = (some (changedCallback entry.2), some (errorCallback entry.2)) ∧
        (item.enabler.active = (w.technology.reg.heap o).rest.powered ∨
          ∃ id, w.technology.reg.PendingUpdate o .powered id)

theorem Good.mirrors {g : Since} (good : Good w g) : Mirrors w g := by
  have base := good.base
  refine ⟨base.right, base.tethering, base.position, good.keys, base.once, base.order, fun entry mem => ?_, good.closed,
    good.listening, base.owner, fun listening path => ?_, fun listening entry mem again => ?_, fun listening entry mem hears => ?_⟩
  · obtain ⟨item, found, named, _⟩ := base.made entry mem
    exact ⟨item, found, named⟩
  · rw [mem_technologies base.tidy]
    exact (good.synced listening).listed path
  · obtain ⟨o, _, known, _, tells⟩ := (good.synced listening).heard entry mem
    unfold Tells at tells
    rw [if_pos again] at tells
    exact ⟨o, known, tells⟩
  · obtain ⟨o, item, known, own, tells⟩ := (good.synced listening).heard entry mem
    unfold Tells at tells
    rw [if_neg hears] at tells
    obtain ⟨registered, shows_⟩ := tells
    exact ⟨o, item, known, own, registered,
      shows_.shown.imp (fun active => active) fun updating => ⟨_, base.timed.pendingUpdate_iff.mpr ⟨rfl, updating⟩⟩⟩

theorem right_menu_mirrors (seen : Watched World Since)
    (reached : Reaches (observe step note) Always (fun seen => Start seen.state ∧ seen.ghost = {}) seen) :
    Mirrors seen.state seen.ghost := by
  have good : Good seen.state seen.ghost := by
    refine reached.invariant (I := fun seen => Good seen.state seen.ghost) (fun seen start => ?_)
      fun seen e seen' good _ ran => ?_
    · obtain ⟨start, none⟩ := start
      rw [none]
      exact good_start start
    · obtain ⟨w', stepped, rfl⟩ := observe_eq_some ran
      exact good.step stepped
  exact good.mirrors

/-- A technology that has an item is announced once more, and another for the
first time. -/
def announcedAgain : List Event :=
  [.up, .getTechnologiesReply 0 none (.technologies [("/t", [])]), .popup false, .technologyAdded none ("/t", []),
    .technologyAdded none ("/u", [("Powered", .variant (.boolean true))])]

theorem announcedAgain_runs :
    (play (observe step note) Always ⟨load Technology.started, {}⟩ announcedAgain).isSome := by decide +kernel

def afterAgain : Watched World Since :=
  (play (observe step note) Always ⟨load Technology.started, {}⟩ announcedAgain).get announcedAgain_runs

theorem afterAgain_reached :
    Reaches (observe step note) Always (fun seen => Start seen.state ∧ seen.ghost = {}) afterAgain := by
  have start : Start (⟨load Technology.started, {}⟩ : Watched World Since).state := ⟨_, Technology.started_start, rfl⟩
  exact Reaches.play (.here ⟨start, rfl⟩) announcedAgain (Option.some_get announcedAgain_runs).symm

/-- The menu listens, and its item of the first is deaf. -/
theorem right_menu_mirrors_again : afterAgain.state.technology.addedCb ≠ none ∧
    afterAgain.state.techItems = [("/t", 1), ("/u", 2)] ∧ afterAgain.ghost.again = ["/t"] ∧
      Mirrors afterAgain.state afterAgain.ghost :=
  ⟨by decide +kernel, by decide +kernel, by decide +kernel, right_menu_mirrors afterAgain afterAgain_reached⟩

end RightMenu

end ConnmanUi
