import ConnmanUi.Pool
import ConnmanUi.Run

/-!
The left menu and its services (`src/left-menu.c`, `data/ui/left_menu.ui`).

The menu starts with its header and the scan spinner; the items of the first
eight services follow, and the "More networks" entry opens a second menu with
the others.  `service_items` keeps the item of each service under its path, and
destroying the value it replaces or removes takes that item out of its menu.
`get_services_cb` puts new items in among the old ones, so until it is done the
menus hold both: `Midway` is the state in between.  After each step of a run
every service displayed has the one item registered for it
(`menus_consistent`).

A child is added to a menu shell at an index or at the end, and a widget that
is destroyed leaves its menu; the labels and icons of an item are left out.
-/

namespace ConnmanUi

/-- A `GtkService`: which widget it is, and the path it was made for. -/
structure GtkService where
  widget : Nat
  path : String
  deriving DecidableEq

/-- A child of `cui_left_menu`. -/
inductive MenuChild where
  | serviceListMenuItem
  | scanSpinner
  | listMoreItem
  | service (item : GtkService)
  deriving DecidableEq

/-- The service item a child is. -/
def MenuChild.item : MenuChild → Option GtkService
  | service s => some s
  | _ => none

@[simp] theorem MenuChild.item_service (s : GtkService) : (service s).item = some s := rfl

@[simp] theorem MenuChild.item_serviceListMenuItem : serviceListMenuItem.item = none := rfl

@[simp] theorem MenuChild.item_scanSpinner : scanSpinner.item = none := rfl

@[simp] theorem MenuChild.item_listMoreItem : listMoreItem.item = none := rfl

structure LeftMenu where
  /-- The children of `cui_left_menu`. -/
  left : List MenuChild
  /-- The children of `cui_more_menu`. -/
  more : List GtkService
  serviceItems : List (String × GtkService)
  /-- Whether `cui_list_more_item` is shown. -/
  moreShown : Bool
  /-- Whether `cui_scan_spinner` is shown. -/
  spinnerShown : Bool
  /-- How many items have been made. -/
  created : Nat
  deriving DecidableEq

namespace LeftMenu

/-- `gtk_menu_shell_insert`: at the index, or at the end. -/
def menuShellInsert {α : Type} (shell : List α) (child : α) (position : Nat) : List α :=
  shell.take position ++ child :: shell.drop position

/-- The menus `cui_load_left_menu` builds from `left_menu.ui`. -/
def load : LeftMenu where
  left := [.serviceListMenuItem, .scanSpinner, .listMoreItem]
  more := []
  serviceItems := []
  moreShown := true
  spinnerShown := true
  created := 0

/-- `delete_service_item`. -/
def deleteServiceItem (m : LeftMenu) (item : GtkService) : LeftMenu :=
  { m with left := m.left.filter (· ≠ .service item), more := m.more.filter (· ≠ item) }

/-- `g_hash_table_insert` into `service_items`: a value that is replaced is
destroyed. -/
def insertItem (m : LeftMenu) (s : GtkService) : LeftMenu :=
  let inserted := { m with serviceItems := (s.path, s) :: m.serviceItems.filter (·.1 ≠ s.path) }
  match m.serviceItems.lookup s.path with
  | none => inserted
  | some old => inserted.deleteServiceItem old

/-- `add_or_update_service`. -/
def addOrUpdateService (m : LeftMenu) (path : String) (position : Nat) : LeftMenu :=
  let s : GtkService := ⟨m.created, path⟩
  let m := { m with created := m.created + 1 }
  let m :=
    if position > 9 then { m with more := m.more ++ [s] }
    else { m with left := menuShellInsert m.left (.service s) position }
  m.insertItem s

/-- `remove_service_cb`. -/
def removeServiceCb (m : LeftMenu) (path : String) : LeftMenu :=
  match m.serviceItems.lookup path with
  | none => m
  | some old =>
    { m with serviceItems := m.serviceItems.filter (·.1 ≠ path) }.deleteServiceItem old

/-- The loop of `get_services_cb`, with `item_position` at its end. -/
def addServices (m : LeftMenu) : List String → Nat → LeftMenu × Nat
  | [], itemPosition => (m, itemPosition)
  | path :: list, itemPosition =>
    addServices (m.addOrUpdateService path itemPosition) list (itemPosition + 1)

/-- `get_services_cb`, over the list `connman_service_get_services` returns. -/
def getServicesCb (m : LeftMenu) (services : List String) : LeftMenu :=
  if services = [] then m
  else
    let (m, itemPosition) := addServices { m with moreShown := false } services 2
    if itemPosition > 10 then { m with moreShown := true } else m

/-- `scanning_cb`. -/
def scanningCb (m : LeftMenu) : LeftMenu := { m with spinnerShown := false }

/-- What `cui_popup_left_menu` does to the menus. -/
def popup (m : LeftMenu) : LeftMenu := { m with moreShown := false, spinnerShown := true }

/-- `cui_popdown_left_menu`: the table is emptied and its items destroyed. -/
def popdown (m : LeftMenu) : LeftMenu :=
  m.serviceItems.foldl (fun m entry => m.deleteServiceItem entry.2) { m with serviceItems := [] }

/-! ## What the menus hold -/

/-- The service items in either menu. -/
def displayed (m : LeftMenu) : List GtkService := m.left.filterMap MenuChild.item ++ m.more

/-- The header and the spinner come first and the "More networks" entry is
somewhere after them; each item displayed is the one registered under its path,
and nothing else is registered. -/
structure Consistent (m : LeftMenu) : Prop where
  layout : ∃ rest, m.left = .serviceListMenuItem :: .scanSpinner :: rest ∧
    rest.filter (·.item = none) = [.listMoreItem]
  registered : ∀ s, s ∈ m.displayed ↔ m.serviceItems.lookup s.path = some s
  keyed : ∀ path s, m.serviceItems.lookup path = some s → s.path = path
  once : m.displayed.Nodup
  made : ∀ s ∈ m.displayed, s.widget < m.created

variable {m m' : LeftMenu} {s old : GtkService} {path : String} {position : Nat}

/-- Whether an item is not the one registered under `path`. -/
def Spared (m : LeftMenu) (path : String) (s : GtkService) : Prop :=
  m.serviceItems.lookup path ≠ some s

instance (m : LeftMenu) (path : String) (s : GtkService) : Decidable (m.Spared path s) :=
  inferInstanceAs (Decidable (_ ≠ _))

/-- What is left of a menu when the item registered under `path` is destroyed. -/
def sparedChildren (m : LeftMenu) (path : String) (children : List MenuChild) : List MenuChild :=
  children.filter fun child => ∀ s ∈ child.item, m.Spared path s

def sparedItems (m : LeftMenu) (path : String) (items : List GtkService) : List GtkService :=
  items.filter fun s => m.Spared path s

theorem spared_of_unregistered (absent : m.serviceItems.lookup path = none) (s : GtkService) :
    m.Spared path s := by
  simp [Spared, absent]

theorem sparedChildren_of_unregistered (absent : m.serviceItems.lookup path = none)
    (children : List MenuChild) : m.sparedChildren path children = children :=
  List.filter_eq_self.mpr fun _ _ => decide_eq_true fun s _ => spared_of_unregistered absent s

theorem sparedItems_of_unregistered (absent : m.serviceItems.lookup path = none)
    (items : List GtkService) : m.sparedItems path items = items :=
  List.filter_eq_self.mpr fun s _ => decide_eq_true (spared_of_unregistered absent s)

theorem spared_iff_ne (found : m.serviceItems.lookup path = some old) :
    m.Spared path s ↔ s ≠ old := by
  rw [Spared, found, ne_eq, Option.some.injEq]
  exact ne_comm

theorem ne_service_iff (child : MenuChild) :
    child ≠ .service old ↔ ∀ s ∈ child.item, s ≠ old := by
  cases child <;> simp

/-- Replacing a value destroys the item registered under the path before. -/
theorem insertItem_eq (m : LeftMenu) (s : GtkService) :
    m.insertItem s = { m with
      serviceItems := (s.path, s) :: m.serviceItems.filter (·.1 ≠ s.path)
      left := m.sparedChildren s.path m.left
      more := m.sparedItems s.path m.more } := by
  unfold insertItem
  cases found : m.serviceItems.lookup s.path with
  | none => rw [sparedChildren_of_unregistered found, sparedItems_of_unregistered found]
  | some old =>
    simp only [deleteServiceItem, sparedChildren, sparedItems, spared_iff_ne found, ne_service_iff]

theorem removeServiceCb_eq (m : LeftMenu) (path : String) :
    m.removeServiceCb path = { m with
      serviceItems := m.serviceItems.filter (·.1 ≠ path)
      left := m.sparedChildren path m.left
      more := m.sparedItems path m.more } := by
  unfold removeServiceCb
  cases found : m.serviceItems.lookup path with
  | none =>
    have same : m.serviceItems.filter (·.1 ≠ path) = m.serviceItems := by
      apply List.filter_eq_self.mpr
      intro entry mem
      have other := List.lookup_eq_none_iff.mp found entry mem
      exact decide_eq_true fun same => by simp [same] at other
    rw [same, sparedChildren_of_unregistered found, sparedItems_of_unregistered found]
  | some old =>
    simp only [deleteServiceItem, sparedChildren, sparedItems, spared_iff_ne found, ne_service_iff]

/-! ## The operations keep the menus consistent -/

theorem displayed_spared (m : LeftMenu) (path : String) (children : List MenuChild)
    (items : List GtkService) :
    (m.sparedChildren path children).filterMap MenuChild.item ++ m.sparedItems path items =
      (children.filterMap MenuChild.item ++ items).filter fun s => m.Spared path s := by
  rw [List.filter_append, sparedItems, sparedChildren, List.filterMap_filter,
    List.filter_filterMap]
  congr 2
  funext child
  cases child with
  | service s => by_cases spared : m.Spared path s <;> simp [Option.filter, spared]
  | _ => simp

/-- The entries that are not service items stay. -/
theorem fixed_sparedChildren (m : LeftMenu) (path : String) (children : List MenuChild) :
    (m.sparedChildren path children).filter (·.item = none) =
      children.filter (·.item = none) := by
  rw [sparedChildren, List.filter_filter]
  apply List.filter_congr
  intro child _
  cases child <;> simp

theorem Consistent.spared_iff (c : m.Consistent) (shown : s ∈ m.displayed) :
    m.Spared path s ↔ s.path ≠ path := by
  have own := (c.registered s).mp shown
  constructor
  · rintro spared rfl
    exact spared own
  · intro other found
    exact other (c.keyed path s found)

theorem Consistent.fresh (c : m.Consistent) (path p : String) : m.Spared p ⟨m.created, path⟩ := by
  intro found
  have same := c.keyed p _ found
  have shown := (c.registered ⟨m.created, path⟩).mpr (by rw [same]; exact found)
  exact absurd (c.made _ shown) (Nat.lt_irrefl _)

theorem Consistent.sparedLayout (p : String)
    (layout : ∃ rest, m'.left = .serviceListMenuItem :: .scanSpinner :: rest ∧
      rest.filter (·.item = none) = [.listMoreItem]) :
    ∃ rest, m.sparedChildren p m'.left = .serviceListMenuItem :: .scanSpinner :: rest ∧
      rest.filter (·.item = none) = [.listMoreItem] := by
  obtain ⟨rest, shape, fixed⟩ := layout
  refine ⟨m.sparedChildren p rest, ?_, ?_⟩
  · rw [shape]
    simp [sparedChildren]
  · rw [fixed_sparedChildren, fixed]

theorem Consistent.removeServiceCb (c : m.Consistent) (path : String) :
    (m.removeServiceCb path).Consistent := by
  have displayed : (m.removeServiceCb path).displayed =
      m.displayed.filter fun s => m.Spared path s := by
    rw [removeServiceCb_eq]
    exact displayed_spared m path m.left m.more
  have items : ∀ p, (m.removeServiceCb path).serviceItems.lookup p =
      if p = path then none else m.serviceItems.lookup p := by
    intro p
    rw [removeServiceCb_eq]
    exact lookup_filter_ne _ _ _
  refine ⟨?_, fun s => ?_, fun p s found => ?_, ?_, fun s shown => ?_⟩
  · rw [removeServiceCb_eq]
    exact Consistent.sparedLayout path c.layout
  · rw [displayed, items, List.mem_filter, decide_eq_true_eq]
    constructor
    · rintro ⟨shown, spared⟩
      rw [if_neg ((c.spared_iff shown).mp spared)]
      exact (c.registered s).mp shown
    · intro found
      split at found
      · exact absurd found (by simp)
      · have shown := (c.registered s).mpr found
        exact ⟨shown, (c.spared_iff shown).mpr ‹_›⟩
  · rw [items] at found
    split at found
    · exact absurd found (by simp)
    · exact c.keyed p s found
  · rw [displayed]
    exact c.once.filter _
  · rw [displayed] at shown
    have before := c.made s (List.mem_of_mem_filter shown)
    rw [removeServiceCb_eq]
    exact before

theorem menuShellInsert_perm {α : Type} (shell : List α) (child : α) (position : Nat) :
    (menuShellInsert shell child position).Perm (child :: shell) := by
  have moved : (shell.take position ++ child :: shell.drop position).Perm
      (child :: (shell.take position ++ shell.drop position)) := List.perm_middle
  rwa [List.take_append_drop] at moved

/-- The table with an item entered under a path. -/
theorem lookup_entered (m : LeftMenu) (path p : String) (s : GtkService) :
    ((path, s) :: m.serviceItems.filter (·.1 ≠ path)).lookup p =
      if p = path then some s else m.serviceItems.lookup p := by
  rw [List.lookup_cons, lookup_filter_ne]
  by_cases same : p = path
  · simp [same]
  · simp [same, beq_eq_false_iff_ne.mpr same]

/-- A new item in one of the menus replaces the one registered under its path. -/
theorem Consistent.insertItem (c : m.Consistent) (path : String) (left : List MenuChild)
    (more : List GtkService)
    (layout : ∃ rest, left = .serviceListMenuItem :: .scanSpinner :: rest ∧
      rest.filter (·.item = none) = [.listMoreItem])
    (added : (left.filterMap MenuChild.item ++ more).Perm (⟨m.created, path⟩ :: m.displayed)) :
    (LeftMenu.insertItem { m with left := left, more := more, created := m.created + 1 }
      ⟨m.created, path⟩).Consistent := by
  have fresh := c.fresh path path
  rw [insertItem_eq]
  have displayed : ∀ s,
      s ∈ (m.sparedChildren path left).filterMap MenuChild.item ++ m.sparedItems path more ↔
        s = ⟨m.created, path⟩ ∨ s ∈ m.displayed ∧ m.Spared path s := by
    intro s
    rw [displayed_spared, List.mem_filter, added.mem_iff, List.mem_cons, decide_eq_true_eq]
    constructor
    · rintro ⟨rfl | shown, spared⟩
      · exact .inl rfl
      · exact .inr ⟨shown, spared⟩
    · rintro (rfl | ⟨shown, spared⟩)
      · exact ⟨.inl rfl, fresh⟩
      · exact ⟨.inr shown, spared⟩
  refine ⟨Consistent.sparedLayout path layout, fun s => ?_,
    fun p s found => ?_, ?_, fun s shown => ?_⟩
  · refine (displayed s).trans ?_
    rw [lookup_entered]
    constructor
    · rintro (rfl | ⟨shown, spared⟩)
      · exact if_pos rfl
      · rw [if_neg ((c.spared_iff shown).mp spared)]
        exact (c.registered s).mp shown
    · intro found
      split at found
      · exact .inl (Option.some.inj found).symm
      · have shown := (c.registered s).mpr found
        exact .inr ⟨shown, (c.spared_iff shown).mpr ‹_›⟩
  · change List.lookup p _ = some s at found
    rw [lookup_entered] at found
    split at found
    · next same =>
      cases found
      exact same.symm
    · exact c.keyed p s found
  · change List.Nodup (_ ++ _)
    have all : (⟨m.created, path⟩ :: m.displayed).Nodup :=
      List.nodup_cons.mpr ⟨fun shown => Nat.lt_irrefl _ (c.made _ shown), c.once⟩
    have before := added.nodup_iff.mpr all
    exact (displayed_spared m path left more) ▸ before.filter _
  · rcases (displayed s).mp shown with rfl | ⟨before, _⟩
    · exact Nat.lt_succ_self _
    · exact Nat.lt_succ_of_lt (c.made s before)

theorem Consistent.addOrUpdateService (c : m.Consistent) (path : String)
    (after : 2 ≤ position) : (m.addOrUpdateService path position).Consistent := by
  obtain ⟨rest, shape, fixed⟩ := c.layout
  rw [LeftMenu.addOrUpdateService]
  dsimp only
  split
  · refine c.insertItem path _ _ ⟨rest, shape, fixed⟩ ?_
    rw [← List.append_assoc]
    exact List.perm_append_singleton _ _
  · refine c.insertItem path _ _ ?_ ?_
    · obtain ⟨before, rfl⟩ := Nat.exists_eq_add_of_le' after
      refine ⟨menuShellInsert rest (.service ⟨m.created, path⟩) before, ?_, ?_⟩
      · rw [shape]
        rfl
      · rw [menuShellInsert, List.filter_append, List.filter_cons_of_neg (by simp),
          ← List.filter_append, List.take_append_drop, fixed]
    · have moved := (menuShellInsert_perm m.left (.service ⟨m.created, path⟩) position).filterMap
        MenuChild.item
      exact moved.append_right m.more

theorem addServices_consistent (c : m.Consistent) (list : List String) (after : 2 ≤ position) :
    (m.addServices list position).1.Consistent := by
  induction list generalizing m position with
  | nil => exact c
  | cons path list ih => exact ih (c.addOrUpdateService path after) (Nat.le_succ_of_le after)

theorem Consistent.congr (c : m.Consistent) (left : m'.left = m.left) (more : m'.more = m.more)
    (items : m'.serviceItems = m.serviceItems) (created : m'.created = m.created) :
    m'.Consistent := by
  have displayed : m'.displayed = m.displayed := by rw [displayed, displayed, left, more]
  refine ⟨?_, ?_, ?_, ?_, ?_⟩
  · rw [left]
    exact c.layout
  · rw [displayed, items]
    exact c.registered
  · rw [items]
    exact c.keyed
  · rw [displayed]
    exact c.once
  · rw [displayed, created]
    exact c.made

theorem getServicesCb_consistent (c : m.Consistent) (services : List String) :
    (m.getServicesCb services).Consistent := by
  rw [getServicesCb]
  split
  · exact c
  · have hidden : Consistent { m with moreShown := false } := c.congr rfl rfl rfl rfl
    have filled := addServices_consistent hidden services (Nat.le_refl 2)
    dsimp only
    split
    · exact filled.congr rfl rfl rfl rfl
    · exact filled

/-- Destroying a list of items leaves the others in their menus. -/
theorem deleteItems_eq (entries : List (String × GtkService)) (m : LeftMenu) :
    entries.foldl (fun m entry => m.deleteServiceItem entry.2) m = { m with
      left := m.left.filter fun child => ∀ s ∈ child.item, s ∉ entries.map Prod.snd
      more := m.more.filter (· ∉ entries.map Prod.snd) } := by
  induction entries generalizing m with
  | nil => simp
  | cons entry entries ih =>
    rw [List.foldl_cons, ih]
    simp only [deleteServiceItem, List.filter_filter]
    congr 1
    · apply List.filter_congr
      intro child _
      cases child with
      | service s =>
        rw [← Bool.decide_and, decide_eq_decide]
        simp [and_comm]
      | _ => simp
    · apply List.filter_congr
      intro s _
      rw [← Bool.decide_and, decide_eq_decide, List.map_cons, List.mem_cons, not_or]
      exact and_comm

theorem popdown_displayed (c : m.Consistent) : m.popdown.displayed = [] := by
  have listed : ∀ s ∈ m.displayed, s ∈ m.serviceItems.map Prod.snd := by
    intro s shown
    obtain ⟨before, after, table, _⟩ := List.lookup_eq_some_iff.mp ((c.registered s).mp shown)
    simp [table]
  rw [popdown, deleteItems_eq, displayed]
  simp only [displayed, List.mem_append] at listed
  apply List.append_eq_nil_iff.mpr
  constructor
  · rw [List.filterMap_filter]
    apply List.filterMap_eq_nil_iff.mpr
    intro child mem
    cases item : child.item with
    | none => simp
    | some s =>
      have shown := listed s (.inl (List.mem_filterMap.mpr ⟨child, mem, item⟩))
      simpa using shown
  · apply List.filter_eq_nil_iff.mpr
    intro s mem
    have shown := listed s (.inr mem)
    simpa using shown

theorem popdown_consistent (c : m.Consistent) : m.popdown.Consistent := by
  have displayed := popdown_displayed c
  have items : m.popdown.serviceItems = [] := by rw [popdown, deleteItems_eq]
  refine ⟨?_, ?_, ?_, ?_, ?_⟩
  · obtain ⟨rest, shape, fixed⟩ := c.layout
    rw [popdown, deleteItems_eq]
    dsimp only
    rw [shape]
    refine ⟨rest.filter fun child => ∀ s ∈ child.item, s ∉ m.serviceItems.map Prod.snd,
      by simp, ?_⟩
    rw [← fixed, List.filter_filter]
    apply List.filter_congr
    intro child _
    cases child <;> simp
  · rw [displayed, items]
    simp
  · rw [items]
    simp
  · rw [displayed]
    exact List.nodup_nil
  · rw [displayed]
    simp

/-! ## Runs -/

/-- What drives the menus: the tray icon, the service module's callbacks, and
the menu being closed. -/
inductive Event where
  | popup
  | services (list : List String)
  | removed (path : String)
  | scanned
  | popdown
  deriving DecidableEq

def step (m : LeftMenu) : Event → Option LeftMenu
  | .popup => some m.popup
  | .services list => some (m.getServicesCb list)
  | .removed path => some (m.removeServiceCb path)
  | .scanned => some m.scanningCb
  | .popdown => some m.popdown

theorem load_consistent : load.Consistent := by
  have none : load.displayed = [] := rfl
  have empty : load.serviceItems = [] := rfl
  refine ⟨⟨[.listMoreItem], rfl, by simp⟩, ?_, ?_, List.nodup_nil, ?_⟩ <;> simp [none, empty]

/-- At every moment each service displayed has the one item registered for it. -/
theorem menus_consistent (reached : Run.Reaches step Run.Always (· = load) m) : m.Consistent := by
  apply reached.invariant
  · rintro _ rfl
    exact load_consistent
  · intro m e m' c _ ran
    cases e with
    | popup =>
      cases ran
      exact c.congr rfl rfl rfl rfl
    | services list =>
      cases ran
      exact getServicesCb_consistent c list
    | removed path =>
      cases ran
      exact c.removeServiceCb path
    | scanned =>
      cases ran
      exact c.congr rfl rfl rfl rfl
    | popdown =>
      cases ran
      exact popdown_consistent c

end LeftMenu

end ConnmanUi
