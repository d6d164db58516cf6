import ConnmanUi.GtkTechnologySwitch
import ConnmanUi.RightMenu
import ConnmanUi.TechnologyCarries
import Mathlib.Data.List.Nodup

/-!
The items of the right menu.

An item stands in both menus under its path, and every callback a technology has
was set for an item that is still there (`Base`).  Adding a technology and
destroying an item keep that.
-/

namespace ConnmanUi

open Registry Run

namespace RightMenu

open Technology (connmanTechnologySetPropertyChangedCallback connmanTechnologySetPropertyErrorCallback registrations)
open GtkTechnology (gtkTechnologyNew)

variable {w : World} {s s' s'' : Technology.State} {entries : List (String × Nat)} {entry : String × Nat} {o : ObjId}
  {path : String} {t : Nat} {item : GtkTechnology.Item}

/-! ## Setting the callbacks of a technology -/

/-- Both callbacks of a technology are set. -/
def assign (s : Technology.State) (path : String) (changed error : Option Callback) : Technology.State :=
  connmanTechnologySetPropertyErrorCallback (connmanTechnologySetPropertyChangedCallback s path changed) path error

theorem assign_eq (s : Technology.State) (path : String) (changed error : Option Callback) :
    assign s path changed error =
      match s.reg.get path with
      | none => s
      | some o => { s with reg := s.reg.setCallbacks o changed error } := by
  unfold assign connmanTechnologySetPropertyChangedCallback
  cases known : s.reg.get path with
  | none =>
    dsimp only
    unfold connmanTechnologySetPropertyErrorCallback
    rw [known]
  | some o =>
    dsimp only
    unfold connmanTechnologySetPropertyErrorCallback
    have same : (s.reg.modify o fun obj => { obj with propertyChangedCb := changed }).get path = some o :=
      ((modify_place rfl).get path).trans known
    dsimp only
    rw [same]
    dsimp only
    rw [modify_modify]
    rfl

theorem assign_known (known : s.reg.get path = some o) (changed error : Option Callback) :
    assign s path changed error = { s with reg := s.reg.setCallbacks o changed error } := by
  rw [assign_eq, known]

theorem assign_unknown (unknown : s.reg.get path = none) (changed error : Option Callback) :
    assign s path changed error = s := by
  rw [assign_eq, unknown]

/-- From `s` to `s'` nothing but callbacks has changed. -/
structure Rewired (s s' : Technology.State) : Prop where
  data : SameData s.reg s'.reg
  timers : SameTimers s.reg s'.reg
  dispatching : s'.reg.dispatching = s.reg.dispatching
  frame : s' = { s with reg := s'.reg }
  reached : Reaches Technology.step Always Technology.Start s → Reaches Technology.step Always Technology.Start s'

theorem Rewired.refl (s : Technology.State) : Rewired s s :=
  ⟨.refl _, ⟨rfl, fun _ => .inl rfl, rfl⟩, rfl, rfl, id⟩

theorem Rewired.trans (first : Rewired s s') (rest : Rewired s' s'') : Rewired s s'' :=
  ⟨first.data.trans rest.data, first.timers.trans rest.timers, rest.dispatching.trans first.dispatching,
    by rw [rest.frame, first.frame], rest.reached ∘ first.reached⟩

theorem Rewired.registrations (rewired : Rewired s s') : registrations s' = registrations s :=
  Technology.registrations_of_frame rewired.frame

theorem Rewired.get (rewired : Rewired s s') (path : String) : s'.reg.get path = s.reg.get path :=
  rewired.data.toSamePlace.get path

/-- It takes two steps of the module. -/
theorem assign_rewired (s : Technology.State) (path : String) (changed error : Option Callback) :
    Rewired s (assign s path changed error) := by
  have reached : Reaches Technology.step Always Technology.Start s →
      Reaches Technology.step Always Technology.Start (assign s path changed error) := fun before =>
    (before.next (e := .setPropertyChangedCallback path changed) trivial rfl).next
      (e := .setPropertyErrorCallback path error) trivial rfl
  cases known : s.reg.get path with
  | none =>
    rw [assign_unknown known] at reached ⊢
    exact { Rewired.refl s with reached := reached }
  | some o =>
    rw [assign_known known] at reached ⊢
    exact ⟨setCallbacks_sameData _ _ _ _, setCallbacks_sameTimers _ _ _ _, rfl, rfl, reached⟩

theorem assign_listeners (s : Technology.State) (path : String) (changed error : Option Callback) (o : ObjId) :
    (assign s path changed error).reg.listeners o =
      if s.reg.get path = some o then (changed, error) else s.reg.listeners o := by
  cases known : s.reg.get path with
  | none =>
    rw [assign_unknown known]
    rfl
  | some o' =>
    rw [assign_known known]
    by_cases same : o = o'
    · rw [listeners_setCallbacks, if_pos same, if_pos (congrArg some same.symm)]
    · rw [listeners_setCallbacks, if_neg same, if_neg fun eq => same (Option.some.inj eq).symm]

/-! ## The items and their technologies -/

/-- The module is up while the menu is enabled, and only then is the menu
registered with it, with both callbacks. -/
structure Registered (r : Technology.Registrations) (disabled : Bool) : Prop where
  up : r.up = !disabled
  down : r.up = false → r.addedCb = none
  both : r.removedCb = none ↔ r.addedCb = none
  global : r.propertyChangedCb = none

/-- Each of `entries` has an item in both menus, in the order the items were made;
every callback of a technology is that of the item of one of them. -/
structure Base (w : World) (entries : List (String × Nat)) : Prop where
  reached : Reaches Technology.step Always Technology.Start w.technology
  registered : Registered (registrations w.technology) w.disabled
  right : w.right = above ++ entries.map (fun entry => .technology entry.2) ++ below
  tethering : w.tethering = entries.map Prod.snd
  position : w.itemPosition = 3 + entries.length
  made : ∀ entry ∈ entries, ∃ item, w.items[entry.2]? = some item ∧ item.path = entry.1 ∧
    item.changed = changedCallback entry.2
  order : (entries.map Prod.snd).Pairwise (· < ·)
  owner : ∀ o, w.technology.reg.listeners o = (none, none) ∨ ∃ entry ∈ entries,
    w.technology.reg.listeners o = (some (changedCallback entry.2), some (errorCallback entry.2)) ∧
      w.technology.reg.get entry.1 = some o

theorem Base.tidy (base : Base w entries) : Technology.Tidy w.technology :=
  (Technology.reaches_announced base.reached).1

theorem Base.timed (base : Base w entries) : Timed w.technology.reg :=
  (Technology.reaches_announced base.reached).2.1

theorem Base.blank (base : Base w entries) : Blank w.technology.reg := by
  intro o dead
  rcases base.owner o with none | ⟨entry, _, _, known⟩
  · exact none
  · exact absurd (base.tidy.owned.get_spec known).1 dead

theorem Base.once (base : Base w entries) : (entries.map Prod.snd).Nodup := base.order.imp Nat.ne_of_lt

theorem Base.entry_eq (base : Base w entries) {entry' : String × Nat} (mem : entry ∈ entries) (mem' : entry' ∈ entries)
    (same : entry.2 = entry'.2) : entry = entry' := List.inj_on_of_nodup_map base.once mem mem' same

theorem Base.below_length (base : Base w entries) (mem : entry ∈ entries) : entry.2 < w.items.length := by
  obtain ⟨item, found, _⟩ := base.made entry mem
  exact (List.getElem?_eq_some_iff.mp found).1

/-- The technology moves on and frees nothing that has callbacks. -/
theorem Base.move (base : Base w entries) {items : List GtkTechnology.Item}
    (reached : Reaches Technology.step Always Technology.Start s)
    (same : registrations s = registrations w.technology) (listeners : s.reg.listeners = w.technology.reg.listeners)
    (known : ∀ path o, w.technology.reg.get path = some o → s.reg.get path = some o)
    (kept : ∀ (t : Nat) item, w.items[t]? = some item →
      ∃ item', items[t]? = some item' ∧ item'.path = item.path ∧ item'.changed = item.changed) :
    Base { w with technology := s, items := items } entries where
  reached := reached
  registered := same ▸ base.registered
  right := base.right
  tethering := base.tethering
  position := base.position
  made entry mem := by
    obtain ⟨item, found, path, changed⟩ := base.made entry mem
    obtain ⟨item', found', path', changed'⟩ := kept entry.2 item found
    exact ⟨item', found', path'.trans path, changed'.trans changed⟩
  order := base.order
  owner o := by
    rw [listeners]
    exact (base.owner o).imp id fun ⟨entry, mem, own, there⟩ => ⟨entry, mem, own, known _ _ there⟩

/-! ## Making and destroying items -/

/-- What is said does not depend on the table. -/
theorem Base.table (base : Base w entries) (techItems : List (String × Nat)) :
    Base { w with techItems := techItems } entries := { base with }

theorem deleteTechnologyItem_eq (found : w.items[t]? = some item) :
    deleteTechnologyItem w t = { w with
      technology := assign w.technology item.path none none
      tethering := w.tethering.filter (· ≠ t)
      right := w.right.filter (· ≠ .technology t)
      itemPosition := w.itemPosition - 1 } := by
  unfold deleteTechnologyItem gtkTechnologyDestroy
  rw [found]
  rfl

theorem filter_children (entries : List (String × Nat)) (t : Nat) :
    (above ++ entries.map (fun entry => MenuChild.technology entry.2) ++ below).filter (· ≠ .technology t) =
      above ++ (entries.filter (·.2 ≠ t)).map (fun entry => .technology entry.2) ++ below := by
  have middle : (entries.map fun entry => MenuChild.technology entry.2).filter (· ≠ .technology t) =
      (entries.filter (·.2 ≠ t)).map fun entry => .technology entry.2 := by
    rw [List.filter_map]
    congr 1
    exact List.filter_congr fun entry _ => by simp
  rw [List.filter_append, List.filter_append, middle]
  rfl

theorem length_filter_item (once : (entries.map Prod.snd).Nodup) (mem : entry ∈ entries) :
    entries.length = (entries.filter (·.2 ≠ entry.2)).length + 1 := by
  have inside : entry.2 ∈ entries.map Prod.snd := List.mem_map_of_mem mem
  have left : (entries.filter (·.2 ≠ entry.2)).length = ((entries.map Prod.snd).erase entry.2).length := by
    rw [once.erase_eq_filter, List.filter_map, List.length_map]
    exact congrArg List.length (List.filter_congr fun other _ => by by_cases same : other.2 = entry.2 <;> simp [same])
  have some_ := List.length_pos_of_mem inside
  rw [List.length_erase_of_mem inside, List.length_map] at left
  rw [List.length_map] at some_
  omega

/-- An item is destroyed, and its technology has no callbacks any more. -/
theorem Base.deleteTechnologyItem (base : Base w entries) (mem : entry ∈ entries) :
    Base (deleteTechnologyItem w entry.2) (entries.filter (·.2 ≠ entry.2)) := by
  obtain ⟨item, found, named, _⟩ := base.made entry mem
  have rewired := assign_rewired w.technology entry.1 none none
  rw [deleteTechnologyItem_eq found, named]
  refine ⟨rewired.reached base.reached, rewired.registrations ▸ base.registered, ?_, ?_, ?_,
    fun other there => base.made other (List.mem_of_mem_filter there), ?_, fun o => ?_⟩
  · dsimp only
    rw [base.right]
    exact filter_children entries entry.2
  · dsimp only
    rw [base.tethering, List.filter_map]
    rfl
  · dsimp only
    rw [base.position, length_filter_item base.once mem]
    rfl
  · exact base.order.sublist (List.filter_sublist.map _)
  · dsimp only
    rw [assign_listeners]
    split
    case isTrue => exact .inl rfl
    case isFalse other =>
      refine (base.owner o).imp id fun ⟨own, there, registered, known⟩ => ⟨own, ?_, registered, ?_⟩
      · refine List.mem_filter.mpr ⟨there, decide_eq_true fun same => other ?_⟩
        rw [← base.entry_eq there mem same]
        exact known
      · rw [rewired.get]
        exact known

/-- The item `makeItem` makes. -/
def newItem (w : World) (path : String) : GtkTechnology.Item :=
  (gtkTechnologyNew w.technology path (changedCallback w.items.length) (errorCallback w.items.length)).2

theorem makeItem_eq (w : World) (path : String) :
    makeItem w path = { w with
      technology := assign w.technology path (some (changedCallback w.items.length))
        (some (errorCallback w.items.length))
      items := w.items ++ [newItem w path]
      right := LeftMenu.menuShellInsert w.right (.technology w.items.length) w.itemPosition
      itemPosition := w.itemPosition + 1
      tethering := w.tethering ++ [w.items.length] } := rfl

theorem getElem_newItem (w : World) (path : String) :
    (w.items ++ [newItem w path])[w.items.length]? = some (newItem w path) := by
  rw [List.getElem?_append_right (Nat.le_refl _), Nat.sub_self]
  rfl

/-- A new item is made, and its technology has its callbacks. -/
theorem Base.makeItem (base : Base w entries) (path : String) :
    Base (makeItem w path) (entries ++ [(path, w.items.length)]) := by
  have rewired := assign_rewired w.technology path (some (changedCallback w.items.length))
    (some (errorCallback w.items.length))
  rw [makeItem_eq]
  refine ⟨rewired.reached base.reached, rewired.registrations ▸ base.registered, ?_, ?_, ?_, fun entry there => ?_, ?_,
    fun o => ?_⟩
  · have split : w.right = (above ++ entries.map fun entry => MenuChild.technology entry.2) ++ below := base.right
    have front : (above ++ entries.map fun entry => MenuChild.technology entry.2).length = w.itemPosition := by
      rw [base.position, List.length_append, List.length_map]
      rfl
    dsimp only
    unfold LeftMenu.menuShellInsert
    rw [split, ← front, List.take_left, List.drop_left]
    simp
  · dsimp only
    rw [base.tethering, List.map_append]
    rfl
  · dsimp only
    rw [base.position, List.length_append, List.length_singleton]
    exact Nat.add_assoc _ _ _
  · rcases List.mem_append.mp there with old | new
    · obtain ⟨item, found, rest⟩ := base.made entry old
      refine ⟨item, ?_, rest⟩
      dsimp only
      rw [List.getElem?_append_left (base.below_length old)]
      exact found
    · rw [List.mem_singleton.mp new]
      exact ⟨newItem w path, getElem_newItem w path, rfl, rfl⟩
  · rw [List.map_append]
    refine List.pairwise_append.mpr ⟨base.order, List.pairwise_singleton _ _, fun old mem new last => ?_⟩
    obtain ⟨entry, there, rfl⟩ := List.mem_map.mp mem
    rw [List.mem_singleton.mp last]
    exact base.below_length there
  · dsimp only
    rw [assign_listeners]
    split
    case isTrue known =>
      refine .inr ⟨(path, w.items.length), List.mem_append_right _ (List.mem_singleton_self _), rfl, ?_⟩
      rw [rewired.get]
      exact known
    case isFalse =>
      refine (base.owner o).imp id fun ⟨own, there, registered, known⟩ =>
        ⟨own, List.mem_append_left _ there, registered, ?_⟩
      rw [rewired.get]
      exact known

/-! ## Adding a technology -/

theorem deleteTechnologyItem_frame (w : World) (t : Nat) :
    (deleteTechnologyItem w t).techItems = w.techItems ∧ (deleteTechnologyItem w t).items = w.items ∧
      (deleteTechnologyItem w t).shown = w.shown ∧ Rewired w.technology (deleteTechnologyItem w t).technology := by
  cases found : w.items[t]? with
  | none =>
    unfold deleteTechnologyItem gtkTechnologyDestroy
    rw [found]
    exact ⟨rfl, rfl, rfl, .refl _⟩
  | some item =>
    rw [deleteTechnologyItem_eq found]
    exact ⟨rfl, rfl, rfl, assign_rewired _ _ _ _⟩

theorem addTechnology_new (absent : w.techItems.lookup path = none) :
    addTechnology w path =
      { makeItem w path with techItems := w.techItems.filter (·.1 ≠ path) ++ [(path, w.items.length)] } := by
  unfold addTechnology insertItem
  have same : (makeItem w path).techItems = w.techItems := rfl
  rw [same, absent]

/-- The item of a technology that is announced once more replaces the one it has. -/
theorem addTechnology_again {old : Nat} (found : w.techItems.lookup path = some old) :
    addTechnology w path = deleteTechnologyItem
      { makeItem w path with techItems := w.techItems.filter (·.1 ≠ path) ++ [(path, w.items.length)] } old := by
  unfold addTechnology insertItem
  have same : (makeItem w path).techItems = w.techItems := rfl
  rw [same, found]

theorem addTechnology_frame (w : World) (path : String) :
    (addTechnology w path).techItems = w.techItems.filter (·.1 ≠ path) ++ [(path, w.items.length)] ∧
      (addTechnology w path).items = w.items ++ [newItem w path] ∧ (addTechnology w path).shown = w.shown ∧
      Rewired w.technology (addTechnology w path).technology := by
  have rewired := assign_rewired w.technology path (some (changedCallback w.items.length))
    (some (errorCallback w.items.length))
  cases found : w.techItems.lookup path with
  | none =>
    rw [addTechnology_new found]
    exact ⟨rfl, rfl, rfl, rewired⟩
  | some old =>
    rw [addTechnology_again found]
    obtain ⟨table, items, shown, destroyed⟩ := deleteTechnologyItem_frame
      { makeItem w path with techItems := w.techItems.filter (·.1 ≠ path) ++ [(path, w.items.length)] } old
    exact ⟨table, items, shown, rewired.trans destroyed⟩

/-- Taking out the value under a path takes out the entry of the path. -/
theorem filter_value (once : (entries.map Prod.snd).Nodup) (keys : (entries.map Prod.fst).Nodup)
    (mem : entry ∈ entries) : entries.filter (·.2 ≠ entry.2) = entries.filter (·.1 ≠ entry.1) := by
  refine List.filter_congr fun other there => decide_eq_decide.mpr (not_congr ⟨fun same => ?_, fun same => ?_⟩)
  · rw [List.inj_on_of_nodup_map once there mem same]
  · rw [List.inj_on_of_nodup_map keys there mem same]

theorem Base.addTechnology (base : Base w w.techItems) (keys : (w.techItems.map Prod.fst).Nodup) (path : String) :
    Base (addTechnology w path) (addTechnology w path).techItems := by
  have made := base.makeItem path
  rw [(addTechnology_frame w path).1]
  cases found : w.techItems.lookup path with
  | none =>
    have same : w.techItems.filter (·.1 ≠ path) = w.techItems := by
      refine List.filter_eq_self.mpr fun entry mem => decide_eq_true ?_
      rintro rfl
      rw [lookup_of_mem keys mem] at found
      cases found
    rw [addTechnology_new found, same]
    exact made.table _
  | some old =>
    have there : (path, old) ∈ w.techItems := lookup_mem found
    have deleted := (made.table (w.techItems.filter (·.1 ≠ path) ++ [(path, w.items.length)])).deleteTechnologyItem
      (List.mem_append_left _ there)
    have new : w.items.length ≠ old := (base.below_length there).ne'
    have last : [(path, w.items.length)].filter (·.2 ≠ old) = [(path, w.items.length)] := by simp [new]
    rw [List.filter_append, filter_value base.once keys there, last] at deleted
    rw [addTechnology_again found]
    exact deleted

theorem addTechnology_keys (keys : (w.techItems.map Prod.fst).Nodup) (path : String) :
    ((addTechnology w path).techItems.map Prod.fst).Nodup := by
  rw [(addTechnology_frame w path).1, List.map_append]
  refine List.nodup_append.mpr ⟨keys.sublist (List.filter_sublist.map _), List.nodup_singleton _,
    fun old mem new last => ?_⟩
  obtain ⟨entry, there, rfl⟩ := List.mem_map.mp mem
  rw [List.mem_singleton.mp last]
  exact of_decide_eq_true (List.mem_filter.mp there).2

/-- The technology has the callbacks of its new item, and none if that replaces
another. -/
theorem Base.addTechnology_listeners (base : Base w w.techItems) (keys : (w.techItems.map Prod.fst).Nodup)
    (path : String) (o : ObjId) :
    (RightMenu.addTechnology w path).technology.reg.listeners o =
      if w.technology.reg.get path = some o then
        if path ∈ w.techItems.map Prod.fst then (none, none)
        else (some (changedCallback w.items.length), some (errorCallback w.items.length))
      else w.technology.reg.listeners o := by
  have rewired := assign_rewired w.technology path (some (changedCallback w.items.length))
    (some (errorCallback w.items.length))
  cases found : w.techItems.lookup path with
  | none =>
    have absent : path ∉ w.techItems.map Prod.fst := by
      intro mem
      obtain ⟨entry, there, rfl⟩ := List.mem_map.mp mem
      rw [lookup_of_mem keys there] at found
      cases found
    rw [addTechnology_new found, if_neg absent, makeItem_eq]
    exact assign_listeners _ _ _ _ o
  | some old =>
    have there : (path, old) ∈ w.techItems := lookup_mem found
    obtain ⟨item, own, named, _⟩ := base.made _ there
    have still : ({ RightMenu.makeItem w path with
        techItems := w.techItems.filter (·.1 ≠ path) ++ [(path, w.items.length)] } : World).items[old]? = some item :=
      (List.getElem?_append_left (base.below_length there)).trans own
    rw [addTechnology_again found, deleteTechnologyItem_eq still,
      if_pos (List.mem_map_of_mem (f := Prod.fst) there), named, makeItem_eq]
    dsimp only
    rw [assign_listeners, rewired.get, assign_listeners]
    split
    · rfl
    · rfl

/-! ## A technology goes -/

theorem technologyRemovedCb_absent (absent : w.techItems.lookup path = none) : technologyRemovedCb w path = w := by
  unfold technologyRemovedCb
  rw [absent]

theorem technologyRemovedCb_found {old : Nat} (found : w.techItems.lookup path = some old) :
    technologyRemovedCb w path =
      deleteTechnologyItem { w with techItems := w.techItems.filter (·.1 ≠ path) } old := by
  unfold technologyRemovedCb
  rw [found]

theorem filter_absent (absent : w.techItems.lookup path = none) :
    w.techItems.filter (·.1 ≠ path) = w.techItems := by
  refine List.filter_eq_self.mpr fun entry mem => decide_eq_true ?_
  intro same
  have other := List.lookup_eq_none_iff.mp absent entry mem
  simp [same] at other

theorem mem_filter_ne {other : String} :
    other ∈ (entries.filter (·.1 ≠ path)).map Prod.fst ↔ other ∈ entries.map Prod.fst ∧ other ≠ path := by
  constructor
  · intro mem
    obtain ⟨entry, there, rfl⟩ := List.mem_map.mp mem
    obtain ⟨there, apart⟩ := List.mem_filter.mp there
    exact ⟨List.mem_map_of_mem there, of_decide_eq_true apart⟩
  · rintro ⟨mem, apart⟩
    obtain ⟨entry, there, rfl⟩ := List.mem_map.mp mem
    exact List.mem_map_of_mem (List.mem_filter.mpr ⟨there, decide_eq_true apart⟩)

theorem technologyRemovedCb_frame (w : World) (path : String) :
    (technologyRemovedCb w path).techItems = w.techItems.filter (·.1 ≠ path) ∧
      (technologyRemovedCb w path).items = w.items ∧ (technologyRemovedCb w path).shown = w.shown ∧
      Rewired w.technology (technologyRemovedCb w path).technology := by
  cases found : w.techItems.lookup path with
  | none =>
    rw [technologyRemovedCb_absent found]
    exact ⟨(filter_absent found).symm, rfl, rfl, .refl _⟩
  | some old =>
    rw [technologyRemovedCb_found found]
    exact deleteTechnologyItem_frame { w with techItems := w.techItems.filter (·.1 ≠ path) } old

theorem Base.technologyRemovedCb (base : Base w w.techItems) (keys : (w.techItems.map Prod.fst).Nodup) (path : String) :
    Base (technologyRemovedCb w path) (technologyRemovedCb w path).techItems := by
  rw [(technologyRemovedCb_frame w path).1]
  cases found : w.techItems.lookup path with
  | none =>
    rw [technologyRemovedCb_absent found, filter_absent found]
    exact base
  | some old =>
    have there : (path, old) ∈ w.techItems := lookup_mem found
    have deleted := (base.table (w.techItems.filter (·.1 ≠ path))).deleteTechnologyItem there
    rw [filter_value base.once keys there] at deleted
    rw [technologyRemovedCb_found found]
    exact deleted

theorem technologyRemovedCb_keys (keys : (w.techItems.map Prod.fst).Nodup) (path : String) :
    ((technologyRemovedCb w path).techItems.map Prod.fst).Nodup := by
  rw [(technologyRemovedCb_frame w path).1]
  exact keys.sublist (List.filter_sublist.map _)

/-- The technology of the item has no callbacks, and the others keep theirs. -/
theorem Base.technologyRemovedCb_listeners (base : Base w w.techItems) (path : String) (o : ObjId) :
    (RightMenu.technologyRemovedCb w path).technology.reg.listeners o =
      if path ∈ w.techItems.map Prod.fst ∧ w.technology.reg.get path = some o then (none, none)
      else w.technology.reg.listeners o := by
  cases found : w.techItems.lookup path with
  | none =>
    have absent : path ∉ w.techItems.map Prod.fst := by
      intro mem
      rw [← filter_absent found] at mem
      exact (mem_filter_ne.mp mem).2 rfl
    rw [technologyRemovedCb_absent found, if_neg fun both => absent both.1]
  | some old =>
    have there : (path, old) ∈ w.techItems := lookup_mem found
    obtain ⟨item, own, named, _⟩ := base.made _ there
    have mem : path ∈ w.techItems.map Prod.fst := List.mem_map_of_mem (f := Prod.fst) there
    have destroyed := deleteTechnologyItem_eq (w := { w with techItems := w.techItems.filter (·.1 ≠ path) }) (t := old) own
    rw [technologyRemovedCb_found found, destroyed, named]
    dsimp only
    rw [assign_listeners]
    simp only [mem, true_and]

end RightMenu

end ConnmanUi
