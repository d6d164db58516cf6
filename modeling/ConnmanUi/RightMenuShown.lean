import ConnmanUi.RightMenuItems

/-!
What the right menu shows while it listens.

Its items are those of the technologies that are known, and the switch of each
shows Powered unless an update is scheduled (`Synced`).  The library's handlers
around the menu's callbacks do not touch what these read or write (`Around`).
-/

namespace ConnmanUi

open Registry Run

namespace RightMenu

open Technology (connmanTechnologyGetTechnologies)
open GtkTechnology (gtkTechnologyNew connmanTechnologyIsEnabled)

variable {w : World} {s s' : Technology.State} {entries : List (String × Nat)} {entry : String × Nat} {o : ObjId}
  {path : String} {item : GtkTechnology.Item}

/-! ## What the menu shows while it listens -/

/-- What happened since the menu was opened. -/
structure Since where
  /-- The technologies announced although they had an item. -/
  again : List String := []
  /-- The technologies that only a reply has listed. -/
  unannounced : List String := []

/-- The menu has added a technology. -/
def Since.added (g : Since) (w : World) (path : String) : Since where
  again := if path ∈ w.techItems.map Prod.fst then path :: g.again else g.again.filter (· ≠ path)
  unannounced := g.unannounced.filter (· ≠ path)

/-- A reply has listed technologies. -/
def Since.listed (g : Since) (s s' : Technology.State) : Since :=
  let new := (connmanTechnologyGetTechnologies s').filter (· ∉ connmanTechnologyGetTechnologies s)
  { g with unannounced := g.unannounced ++ new }

/-- A technology has gone. -/
def Since.removed (g : Since) (path : String) : Since where
  again := g.again.filter (· ≠ path)
  unannounced := g.unannounced.filter (· ≠ path)

/-- The switch shows Powered, unless an update is scheduled; one that is running
has shown it. -/
structure Shows (s : Technology.State) (o : ObjId) (item : GtkTechnology.Item) : Prop where
  shown : item.enabler.active = (s.reg.heap o).rest.powered ∨ s.reg.timerSlot (.update o .powered) ≠ 0
  running : ∀ id c, s.reg.dispatching = some (id, c) → c.error = false → c.path = o → c.index = .powered →
    item.enabler.active = (s.reg.heap o).rest.powered

/-- The item's technology has its callbacks, and the item shows it; one that was
announced once more has no callbacks. -/
def Tells (s : Technology.State) (again : List String) (entry : String × Nat) (o : ObjId)
    (item : GtkTechnology.Item) : Prop :=
  if entry.1 ∈ again then s.reg.listeners o = (none, none)
  else s.reg.listeners o = (some (changedCallback entry.2), some (errorCallback entry.2)) ∧ Shows s o item

/-- The entries are the technologies known, but for those only listed, and their
items are told what changes, but for those announced again. -/
structure Synced (w : World) (g : Since) : Prop where
  listed : ∀ path, path ∈ w.techItems.map Prod.fst ↔ w.technology.reg.get path ≠ none ∧ path ∉ g.unannounced
  heard : ∀ entry ∈ w.techItems, ∃ o item, w.technology.reg.get entry.1 = some o ∧ w.items[entry.2]? = some item ∧
    Tells w.technology g.again entry o item

theorem Tells.still {again again' : List String} {item' : GtkTechnology.Item} (tells : Tells s again entry o item)
    (same : entry.1 ∈ again' ↔ entry.1 ∈ again) (listeners : s'.reg.listeners o = s.reg.listeners o)
    (shows_ : entry.1 ∉ again → Shows s o item → Shows s' o item') : Tells s' again' entry o item' := by
  unfold Tells at tells ⊢
  rw [listeners]
  by_cases deaf : entry.1 ∈ again
  · rw [if_pos deaf] at tells
    rw [if_pos (same.mpr deaf)]
    exact tells
  · rw [if_neg deaf] at tells
    rw [if_neg fun mem => deaf (same.mp mem)]
    exact ⟨tells.1, shows_ deaf tells.2⟩

theorem Shows.rewired (shows_ : Shows s o item) (rewired : Rewired s s') : Shows s' o item where
  shown := by
    rw [rewired.data.rest, (rewired.timers.slots (.update o .powered)).resolve_right nofun]
    exact shows_.shown
  running id c := by
    rw [rewired.data.rest, rewired.dispatching]
    exact shows_.running id c

theorem Shows.of_active (active : item.enabler.active = (s.reg.heap o).rest.powered) : Shows s o item :=
  ⟨.inl active, fun _ _ _ _ _ _ => active⟩

theorem newItem_active (known : w.technology.reg.get path = some o) :
    (newItem w path).enabler.active = (w.technology.reg.heap o).rest.powered := by
  have rewired := assign_rewired w.technology path (some (changedCallback w.items.length))
    (some (errorCallback w.items.length))
  have enabled : (newItem w path).enabler.active = connmanTechnologyIsEnabled (assign w.technology path
      (some (changedCallback w.items.length)) (some (errorCallback w.items.length))) path := rfl
  rw [enabled]
  unfold connmanTechnologyIsEnabled
  rw [rewired.get, known]
  dsimp only
  rw [rewired.data.rest]

theorem Since.again_added {g : Since} {other : String} (apart : other ≠ path) :
    other ∈ (g.added w path).again ↔ other ∈ g.again := by
  unfold Since.added
  dsimp only
  split
  · simp [apart]
  · simp [apart]

theorem Synced.addTechnology {g : Since} (synced : Synced w g) (base : Base w w.techItems)
    (keys : (w.techItems.map Prod.fst).Nodup) (known : w.technology.reg.get path = some o) :
    Synced (addTechnology w path) (g.added w path) := by
  obtain ⟨table, items, _, rewired⟩ := addTechnology_frame w path
  have listeners := base.addTechnology_listeners keys path
  constructor
  · intro other
    rw [table, rewired.get, List.map_append, List.mem_append, mem_filter_ne, synced.listed]
    by_cases here : other = path
    · subst here
      simp [Since.added, known]
    · simp [Since.added, here]
  · intro entry there
    rw [table] at there
    rcases List.mem_append.mp there with old | new
    · obtain ⟨there, other⟩ := List.mem_filter.mp old
      have other : entry.1 ≠ path := of_decide_eq_true other
      obtain ⟨o', item, found, own, tells⟩ := synced.heard entry there
      have apart : w.technology.reg.get path ≠ some o' := by
        intro same
        exact other ((base.tidy.owned.get_spec found).2.1.symm.trans (base.tidy.owned.get_spec same).2.1)
      refine ⟨o', item, (rewired.get _).trans found, ?_, tells.still (Since.again_added other) ?_
        fun _ shows_ => shows_.rewired rewired⟩
      · rw [items, List.getElem?_append_left (base.below_length there)]
        exact own
      · rw [listeners, if_neg apart]
    · rw [List.mem_singleton.mp new]
      refine ⟨o, newItem w path, (rewired.get _).trans known, ?_, ?_⟩
      · rw [items]
        exact getElem_newItem w path
      · unfold Tells
        rw [listeners, if_pos known]
        by_cases again : path ∈ w.techItems.map Prod.fst
        · rw [if_pos again, if_pos (by simp [Since.added, again])]
        · rw [if_neg again, if_neg (by simp [Since.added, again])]
          exact ⟨rfl, (Shows.of_active (newItem_active known)).rewired rewired⟩

/-- The item of a technology goes before the technology: meanwhile that is known
and has no item. -/
theorem Synced.technologyRemovedCb {g : Since} (synced : Synced w g) (base : Base w w.techItems) (path : String) :
    Synced (technologyRemovedCb w path)
      { again := g.again.filter (· ≠ path), unannounced := path :: g.unannounced } := by
  obtain ⟨table, items, _, rewired⟩ := technologyRemovedCb_frame w path
  constructor
  · intro other
    rw [table, rewired.get, mem_filter_ne, synced.listed, List.mem_cons, not_or, and_assoc, and_comm (a := ¬ other = path)]
  · intro entry there
    rw [table] at there
    obtain ⟨there, other⟩ := List.mem_filter.mp there
    have other : entry.1 ≠ path := of_decide_eq_true other
    obtain ⟨o, item, found, own, tells⟩ := synced.heard entry there
    have apart : w.technology.reg.get path ≠ some o := by
      intro same
      exact other ((base.tidy.owned.get_spec found).2.1.symm.trans (base.tidy.owned.get_spec same).2.1)
    refine ⟨o, item, (rewired.get _).trans found, ?_, tells.still (by simp [other]) ?_
      fun _ shows_ => shows_.rewired rewired⟩
    · rw [items]
      exact own
    · rw [base.technologyRemovedCb_listeners, if_neg fun both => apart both.2]

/-! ## The menu inside the library's handlers -/

/-- What the library does around the menu's callback does not touch what the menu
reads or writes. -/
structure Around (f : Technology.State → Technology.State) : Prop where
  assign : ∀ s path changed error, RightMenu.assign (f s) path changed error = f (RightMenu.assign s path changed error)
  get : ∀ s path, (f s).reg.get path = s.reg.get path
  heap : ∀ s, (f s).reg.heap = s.reg.heap

/-- The library does `f`. -/
def World.via (f : Technology.State → Technology.State) (w : World) : World :=
  { w with technology := f w.technology }

variable {f : Technology.State → Technology.State}

theorem Around.deleteTechnologyItem (around : Around f) (w : World) (t : Nat) :
    deleteTechnologyItem (w.via f) t = (deleteTechnologyItem w t).via f := by
  cases found : w.items[t]? with
  | none =>
    have absent : (w.via f).items[t]? = none := found
    unfold RightMenu.deleteTechnologyItem gtkTechnologyDestroy
    rw [found, absent]
    rfl
  | some item =>
    have there : (w.via f).items[t]? = some item := found
    rw [deleteTechnologyItem_eq found, deleteTechnologyItem_eq there]
    unfold World.via
    dsimp only
    rw [around.assign]

theorem Around.newItem (around : Around f) (w : World) (path : String) : newItem (w.via f) path = newItem w path := by
  have enabled : ∀ s path, connmanTechnologyIsEnabled (f s) path = connmanTechnologyIsEnabled s path := by
    intro s path
    unfold connmanTechnologyIsEnabled
    rw [around.get, around.heap]
  have tethering : ∀ s path, GtkTechnology.connmanTechnologyIsTethering (f s) path =
      GtkTechnology.connmanTechnologyIsTethering s path := by
    intro s path
    unfold GtkTechnology.connmanTechnologyIsTethering
    rw [around.get, around.heap]
  have name : ∀ s path enabled, GtkTechnology.setTechnologyName (f s) path enabled =
      GtkTechnology.setTechnologyName s path enabled := by
    intro s path enabled
    unfold GtkTechnology.setTechnologyName GtkTechnology.connmanTechnologyGetName
    rw [around.get, around.heap]
  have assigned := around.assign w.technology path (some (changedCallback w.items.length))
    (some (errorCallback w.items.length))
  unfold RightMenu.assign at assigned
  unfold RightMenu.newItem gtkTechnologyNew World.via
  dsimp only
  rw [assigned, enabled, tethering, name]

theorem Around.makeItem (around : Around f) (w : World) (path : String) :
    RightMenu.makeItem (w.via f) path = (RightMenu.makeItem w path).via f := by
  rw [makeItem_eq, makeItem_eq, around.newItem]
  unfold World.via
  dsimp only
  rw [around.assign]

theorem Around.addTechnology (around : Around f) (w : World) (path : String) :
    addTechnology (w.via f) path = (addTechnology w path).via f := by
  cases found : w.techItems.lookup path with
  | none =>
    have absent : (w.via f).techItems.lookup path = none := found
    rw [addTechnology_new found, addTechnology_new absent, around.makeItem]
    rfl
  | some old =>
    have there : (w.via f).techItems.lookup path = some old := found
    rw [addTechnology_again found, addTechnology_again there, around.makeItem]
    exact around.deleteTechnologyItem
      { RightMenu.makeItem w path with techItems := w.techItems.filter (·.1 ≠ path) ++ [(path, w.items.length)] } old

theorem Around.technologyRemovedCb (around : Around f) (w : World) (path : String) :
    technologyRemovedCb (w.via f) path = (technologyRemovedCb w path).via f := by
  cases found : w.techItems.lookup path with
  | none =>
    have absent : (w.via f).techItems.lookup path = none := found
    rw [technologyRemovedCb_absent found, technologyRemovedCb_absent absent]
  | some old =>
    have there : (w.via f).techItems.lookup path = some old := found
    rw [technologyRemovedCb_found found, technologyRemovedCb_found there]
    exact around.deleteTechnologyItem { w with techItems := w.techItems.filter (·.1 ≠ path) } old

/-- The library asks for all technologies, once the signals are registered. -/
def askAgain (s : Technology.State) : Technology.State :=
  if s.set then Technology.connmanManagerGetTechnologies s else s

theorem askAgain_around : Around askAgain := by
  have asked : ∀ s, askAgain s = { askAgain s with reg := s.reg } ∧
      ∀ reg, askAgain { s with reg := reg } = { askAgain s with reg := reg } := by
    intro s
    unfold askAgain
    dsimp only
    split
    · exact ⟨rfl, fun _ => rfl⟩
    · exact ⟨rfl, fun _ => rfl⟩
  have reg : ∀ s, (askAgain s).reg = s.reg := fun s => by rw [(asked s).1]
  refine ⟨fun s path changed error => ?_, fun s path => by rw [reg], fun s => by rw [reg]⟩
  rw [assign_eq, assign_eq, reg]
  cases s.reg.get path with
  | none => rfl
  | some o => exact ((asked s).2 _).symm

theorem technologyAdded_via (w : World) (uninit : Option String) (technology : String × Dict) :
    technologyAdded w uninit technology =
      let s := Technology.callAddedCb (Technology.updateOrCreateTechnology uninit w.technology technology) technology.1
      if s.addedCb = none then (w.via fun _ => s).via askAgain
      else (addTechnology (w.via fun _ => s) technology.1).via askAgain := by
  unfold technologyAdded World.via askAgain technologyAddedCb
  dsimp only
  split
  · split
    · rfl
    · rfl
  · split
    · rfl
    · rfl

/-- The menu adds the technology when the library's handler has run. -/
theorem technologyAdded_eq (tidy : Technology.Tidy w.technology) (up : w.technology.up = true) (uninit : Option String)
    (technology : String × Dict) :
    technologyAdded w uninit technology =
      if w.technology.addedCb = none then w.via fun s => Technology.technologyAddedCb uninit s technology
      else addTechnology (w.via fun s => Technology.technologyAddedCb uninit s technology) technology.1 := by
  have lists := Technology.updateOrCreateTechnology_lists uninit tidy.owned tidy.unselected up technology
  have added : (Technology.callAddedCb (Technology.updateOrCreateTechnology uninit w.technology technology)
      technology.1).addedCb = w.technology.addedCb := by
    rw [(Technology.callAddedCb_spec _ _).2, lists.rest]
  rw [technologyAdded_via]
  dsimp only
  rw [added, ← askAgain_around.addTechnology]
  rfl

/-- The library tells of a technology that goes. -/
def tell (path : String) (s : Technology.State) : Technology.State := Technology.callRemovedCb s path

theorem tell_around (path : String) : Around (tell path) := by
  have told : ∀ s, (tell path s).reg.heap = s.reg.heap ∧ (tell path s).reg.get = s.reg.get := by
    intro s
    unfold tell Technology.callRemovedCb
    split
    · exact ⟨rfl, rfl⟩
    · exact ⟨rfl, rfl⟩
  refine ⟨fun s other changed error => ?_, fun s other => by rw [(told s).2], fun s => (told s).1⟩
  rw [assign_eq, assign_eq, (told s).2]
  cases s.reg.get other with
  | none => rfl
  | some o =>
    dsimp only
    unfold tell Technology.callRemovedCb
    dsimp only
    split
    · rfl
    · rfl

/-- The menu destroys the item before the library's handler runs. -/
theorem technologyRemoved_eq (w : World) (path : String) :
    technologyRemoved w path =
      if w.technology.removedCb = none then w.via fun s => Technology.technologyRemovedCb s path
      else (technologyRemovedCb w path).via fun s => Technology.technologyRemovedCb s path := by
  have removed : (Technology.callRemovedCb w.technology path).removedCb = w.technology.removedCb := by
    rw [(Technology.callRemovedCb_spec _ _).2]
  unfold technologyRemoved
  dsimp only
  rw [removed]
  split
  · rfl
  · have inside := (tell_around path).technologyRemovedCb w path
    unfold World.via tell at inside
    rw [inside]
    rfl

end RightMenu

end ConnmanUi
