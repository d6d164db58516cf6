import ConnmanUi.LeftMenu

/-!
The menus show the services in their order (`src/left-menu.c`).

`get_services_cb` inserts the new items at fixed indexes while the items of the
services not yet reached are still around.  `Midway` says what the menus hold
after some of the paths: the new items, eight of them in the left menu, and
behind them what was there before, less the items replaced.
-/

namespace ConnmanUi

namespace LeftMenu

variable {m m₀ : LeftMenu} {rest : List MenuChild} {done todo : List String} {path : String}

/-- The items made for a list of paths, the first widget being `first`. -/
def newItems (first : Nat) (paths : List String) : List GtkService :=
  paths.mapIdx fun k path => ⟨first + k, path⟩

theorem newItems_concat (first : Nat) (paths : List String) (path : String) :
    newItems first (paths ++ [path]) = newItems first paths ++ [⟨first + paths.length, path⟩] := by
  simp [newItems]

@[simp] theorem length_newItems (first : Nat) (paths : List String) :
    (newItems first paths).length = paths.length := by
  simp [newItems]

theorem mem_newItems {first : Nat} {paths : List String} {s : GtkService}
    (mem : s ∈ newItems first paths) : first ≤ s.widget ∧ s.path ∈ paths := by
  obtain ⟨k, within, rfl⟩ := List.mem_mapIdx.mp mem
  exact ⟨Nat.le_add_right _ _, List.getElem_mem within⟩

/-- An old item whose path has not been reached. -/
def Waiting (done : List String) (s : GtkService) : Prop := s.path ∉ done

instance (done : List String) (s : GtkService) : Decidable (Waiting done s) :=
  inferInstanceAs (Decidable (_ ∉ _))

/-- The children behind the new items, when the paths `done` have been dealt with. -/
def waitingChildren (done : List String) (children : List MenuChild) : List MenuChild :=
  children.filter fun child => ∀ s ∈ child.item, Waiting done s

def waitingItems (done : List String) (items : List GtkService) : List GtkService :=
  items.filter fun s => Waiting done s

/-- The menus after the paths `done`, from a menu `m₀` with `rest` behind the
spinner. -/
structure Midway (m₀ : LeftMenu) (rest : List MenuChild) (done : List String) (m : LeftMenu) :
    Prop where
  left : m.left = .serviceListMenuItem :: .scanSpinner ::
    (((newItems m₀.created done).take 8).map .service ++ waitingChildren done rest)
  more : m.more = waitingItems done m₀.more ++ (newItems m₀.created done).drop 8
  created : m.created = m₀.created + done.length
  items : ∀ path, m.serviceItems.lookup path =
    ((newItems m₀.created done).find? (·.path = path)).or (m₀.serviceItems.lookup path)
  hidden : m.moreShown = m₀.moreShown

theorem Midway.start (shape : m₀.left = .serviceListMenuItem :: .scanSpinner :: rest) :
    Midway m₀ rest [] m₀ where
  left := by simp [shape, newItems, waitingChildren, Waiting]
  more := by simp [newItems, waitingItems, Waiting]
  created := rfl
  items := by simp [newItems]
  hidden := rfl

/-- The item registered under a path not reached yet is the old one. -/
theorem Midway.lookup_of_not_mem (mid : Midway m₀ rest done m) (unreached : path ∉ done) :
    m.serviceItems.lookup path = m₀.serviceItems.lookup path := by
  rw [mid.items]
  have none : (newItems m₀.created done).find? (·.path = path) = none := by
    apply List.find?_eq_none.mpr
    intro s mem same
    exact unreached (of_decide_eq_true same ▸ (mem_newItems mem).2)
  rw [none, Option.none_or]

/-- Of the old items, destroying the one under `path` leaves those whose path is
neither `path` nor done. -/
theorem Midway.spared_old (mid : Midway m₀ rest done m) (consistent : m₀.Consistent)
    (unreached : path ∉ done) {s : GtkService} (shown : s ∈ m₀.displayed) :
    m.Spared path s ∧ Waiting done s ↔ Waiting (done ++ [path]) s := by
  have same : m.Spared path s ↔ m₀.Spared path s := by
    rw [Spared, Spared, mid.lookup_of_not_mem unreached]
  rw [same, consistent.spared_iff shown, Waiting, Waiting, List.mem_append, List.mem_singleton,
    not_or]
  exact and_comm

/-- None of the new items is destroyed. -/
theorem Midway.spared_new (mid : Midway m₀ rest done m) (consistent : m₀.Consistent)
    (unreached : path ∉ done) {s : GtkService} (fresh : m₀.created ≤ s.widget) :
    m.Spared path s := by
  rw [Spared, mid.lookup_of_not_mem unreached]
  intro found
  have shown := (consistent.registered s).mpr (consistent.keyed path s found ▸ found)
  exact Nat.not_lt.mpr fresh (consistent.made s shown)

theorem Midway.sparedItems_new (mid : Midway m₀ rest done m) (consistent : m₀.Consistent)
    (unreached : path ∉ done) {items : List GtkService}
    (fresh : ∀ s ∈ items, m₀.created ≤ s.widget) : m.sparedItems path items = items :=
  List.filter_eq_self.mpr fun s mem =>
    decide_eq_true (mid.spared_new consistent unreached (fresh s mem))

theorem Midway.sparedChildren_new (mid : Midway m₀ rest done m) (consistent : m₀.Consistent)
    (unreached : path ∉ done) {items : List GtkService}
    (fresh : ∀ s ∈ items, m₀.created ≤ s.widget) :
    m.sparedChildren path (items.map .service) = items.map .service := by
  apply List.filter_eq_self.mpr
  intro child mem
  obtain ⟨s, among, rfl⟩ := List.mem_map.mp mem
  apply decide_eq_true
  rintro _ ⟨⟩
  exact mid.spared_new consistent unreached (fresh s among)

theorem Midway.sparedItems_old (mid : Midway m₀ rest done m) (consistent : m₀.Consistent)
    (unreached : path ∉ done) :
    m.sparedItems path (waitingItems done m₀.more) = waitingItems (done ++ [path]) m₀.more := by
  rw [sparedItems, waitingItems, List.filter_filter]
  apply List.filter_congr
  intro s mem
  have shown : s ∈ m₀.displayed := List.mem_append_right _ mem
  rw [← Bool.decide_and, decide_eq_decide]
  exact mid.spared_old consistent unreached shown

theorem Midway.sparedChildren_old (mid : Midway m₀ rest done m) (consistent : m₀.Consistent)
    (shape : m₀.left = .serviceListMenuItem :: .scanSpinner :: rest) (unreached : path ∉ done) :
    m.sparedChildren path (waitingChildren done rest) = waitingChildren (done ++ [path]) rest := by
  rw [sparedChildren, waitingChildren, List.filter_filter]
  apply List.filter_congr
  intro child mem
  rw [← Bool.decide_and, decide_eq_decide, ← forall₂_and]
  apply forall₂_congr
  intro s item
  apply mid.spared_old consistent unreached
  have held : child ∈ m₀.left := by
    rw [shape]
    exact List.mem_cons_of_mem _ (List.mem_cons_of_mem _ mem)
  exact List.mem_append_left _ (List.mem_filterMap.mpr ⟨child, held, item⟩)

theorem newItems_fresh {first : Nat} {paths : List String} {items : List GtkService}
    (sub : items ⊆ newItems first paths) : ∀ s ∈ items, first ≤ s.widget :=
  fun _ mem => (mem_newItems (sub mem)).1

/-- Inserting behind the new items, while there are fewer than eight. -/
theorem menuShellInsert_behind (items : List MenuChild) (child : MenuChild)
    (behind : List MenuChild) :
    menuShellInsert (.serviceListMenuItem :: .scanSpinner :: (items ++ behind)) child
        (items.length + 2) =
      .serviceListMenuItem :: .scanSpinner :: (items ++ [child] ++ behind) := by
  simp [menuShellInsert]

/-- The table after the new item is entered. -/
theorem Midway.items_step (mid : Midway m₀ rest done m) (unreached : path ∉ done) (p : String) :
    ((path, ⟨m.created, path⟩) :: m.serviceItems.filter (·.1 ≠ path)).lookup p =
      ((newItems m₀.created (done ++ [path])).find? (·.path = p)).or
        (m₀.serviceItems.lookup p) := by
  rw [lookup_entered, newItems_concat, List.find?_append, mid.items, mid.created]
  by_cases same : p = path
  · subst same
    have none : (newItems m₀.created done).find? (·.path = p) = none := by
      apply List.find?_eq_none.mpr
      intro s mem here
      exact unreached (of_decide_eq_true here ▸ (mem_newItems mem).2)
    simp [none]
  · simp [same, Ne.symm same]

theorem Midway.created_step (mid : Midway m₀ rest done m) (path : String) :
    m.created + 1 = m₀.created + (done ++ [path]).length := by
  rw [mid.created, List.length_append]
  rfl

/-- While the left menu has fewer than eight of the new items, the next one goes
behind them. -/
theorem Midway.step_left (mid : Midway m₀ rest done m) (consistent : m₀.Consistent)
    (shape : m₀.left = .serviceListMenuItem :: .scanSpinner :: rest) (unreached : path ∉ done)
    (few : done.length < 8) : Midway m₀ rest (done ++ [path]) (m.addOrUpdateService path (done.length + 2)) := by
  have length := length_newItems m₀.created done
  have all : (newItems m₀.created done).take 8 = newItems m₀.created done :=
    List.take_of_length_le (by omega)
  have noneYet : (newItems m₀.created done).drop 8 = [] := List.drop_of_length_le (by omega)
  have allNow : (newItems m₀.created (done ++ [path])).take 8 =
      newItems m₀.created done ++ [⟨m.created, path⟩] := by
    rw [newItems_concat, mid.created]
    exact List.take_of_length_le (by simp; omega)
  have noneLater : (newItems m₀.created (done ++ [path])).drop 8 = [] :=
    List.drop_of_length_le (by simp; omega)
  rw [addOrUpdateService]
  dsimp only
  rw [if_neg (by omega), insertItem_eq]
  refine ⟨?_, ?_, mid.created_step path, mid.items_step unreached, mid.hidden⟩
  · have mapped : ((newItems m₀.created done).map MenuChild.service).length =
        (newItems m₀.created done).length := List.length_map _
    have first : ∀ s ∈ newItems m₀.created done ++ [⟨m.created, path⟩], m₀.created ≤ s.widget := by
      rw [← allNow]
      exact newItems_fresh (List.take_subset _ _)
    change m.sparedChildren path (menuShellInsert m.left _ _) = _
    rw [mid.left, all, ← length, ← mapped, menuShellInsert_behind, allNow]
    have kept := mid.sparedChildren_new consistent unreached first
    rw [List.map_append, List.map_singleton] at kept ⊢
    rw [sparedChildren, List.filter_cons_of_pos (by simp), List.filter_cons_of_pos (by simp),
      List.filter_append]
    exact congrArg₂ (fun a b => _ :: _ :: (a ++ b)) kept (mid.sparedChildren_old consistent shape unreached)
  · change m.sparedItems path m.more = _
    rw [mid.more, noneYet, noneLater, List.append_nil, List.append_nil]
    exact mid.sparedItems_old consistent unreached

/-- Once it has eight, the next item goes to the end of the second menu. -/
theorem Midway.step_more (mid : Midway m₀ rest done m) (consistent : m₀.Consistent)
    (shape : m₀.left = .serviceListMenuItem :: .scanSpinner :: rest) (unreached : path ∉ done)
    (full : 8 ≤ done.length) : Midway m₀ rest (done ++ [path]) (m.addOrUpdateService path (done.length + 2)) := by
  have length := length_newItems m₀.created done
  have takeSame : (newItems m₀.created (done ++ [path])).take 8 = (newItems m₀.created done).take 8 := by
    rw [newItems_concat, List.take_append_of_le_length (by omega)]
  have dropMore : (newItems m₀.created (done ++ [path])).drop 8 =
      (newItems m₀.created done).drop 8 ++ [⟨m.created, path⟩] := by
    rw [newItems_concat, mid.created, List.drop_append_of_le_length (by omega)]
  rw [addOrUpdateService]
  dsimp only
  rw [if_pos (by omega), insertItem_eq]
  refine ⟨?_, ?_, mid.created_step path, mid.items_step unreached, mid.hidden⟩
  · have first : ∀ s ∈ (newItems m₀.created done).take 8, m₀.created ≤ s.widget :=
      newItems_fresh (List.take_subset _ _)
    have kept := mid.sparedChildren_new consistent unreached first
    change m.sparedChildren path m.left = _
    rw [mid.left, takeSame, sparedChildren, List.filter_cons_of_pos (by simp),
      List.filter_cons_of_pos (by simp), List.filter_append]
    exact congrArg₂ (fun a b => _ :: _ :: (a ++ b)) kept (mid.sparedChildren_old consistent shape unreached)
  · have later : ∀ s ∈ (newItems m₀.created done).drop 8 ++ [⟨m.created, path⟩], m₀.created ≤ s.widget := by
      rw [← dropMore]
      exact newItems_fresh (List.drop_subset _ _)
    change m.sparedItems path (m.more ++ [_]) = _
    rw [mid.more, dropMore, List.append_assoc, sparedItems, List.filter_append]
    exact congrArg₂ (· ++ ·) (mid.sparedItems_old consistent unreached)
      (mid.sparedItems_new consistent unreached later)

/-- One round of the loop. -/
theorem Midway.step (mid : Midway m₀ rest done m) (consistent : m₀.Consistent)
    (shape : m₀.left = .serviceListMenuItem :: .scanSpinner :: rest) (unreached : path ∉ done) :
    Midway m₀ rest (done ++ [path]) (m.addOrUpdateService path (done.length + 2)) := by
  by_cases few : done.length < 8
  · exact mid.step_left consistent shape unreached few
  · exact mid.step_more consistent shape unreached (Nat.not_lt.mp few)

/-- The whole loop. -/
theorem Midway.addServices (todo : List String) (mid : Midway m₀ rest done m) (consistent : m₀.Consistent)
    (shape : m₀.left = .serviceListMenuItem :: .scanSpinner :: rest)
    (distinct : (done ++ todo).Nodup) :
    Midway m₀ rest (done ++ todo) (m.addServices todo (done.length + 2)).1 := by
  induction todo generalizing done m with
  | nil =>
    rw [List.append_nil]
    exact mid
  | cons path todo ih =>
    have unreached : path ∉ done := by
      intro reached
      exact (List.nodup_append.mp distinct).2.2 path reached path (List.mem_cons_self ..) rfl
    have next := mid.step consistent shape unreached
    rw [List.append_cons] at distinct ⊢
    have rest := ih next distinct
    rw [List.length_append] at rest
    exact rest

theorem addServices_position (m : LeftMenu) (list : List String) (position : Nat) :
    (m.addServices list position).2 = position + list.length := by
  induction list generalizing m position with
  | nil => rfl
  | cons path list ih =>
    rw [LeftMenu.addServices, ih, List.length_cons]
    omega

/-! ## After the last path -/

theorem newItems_path (first : Nat) (paths : List String) :
    (newItems first paths).map GtkService.path = paths := by
  induction paths using List.reverseRecOn with
  | nil => rfl
  | append_singleton paths path ih => rw [newItems_concat, List.map_append, ih]; rfl

/-- No child but the "More networks" entry is left of those there before. -/
theorem waitingChildren_of_listed (consistent : m.Consistent)
    (shape : m.left = .serviceListMenuItem :: .scanSpinner :: rest)
    (listed : ∀ s ∈ m.displayed, s.path ∈ done) :
    waitingChildren done rest = [.listMoreItem] := by
  obtain ⟨rest', shape', fixed⟩ := consistent.layout
  obtain rfl : rest = rest' := by simpa [shape] using shape'
  rw [← fixed, waitingChildren]
  apply List.filter_congr
  intro child mem
  rw [decide_eq_decide]
  constructor
  · intro waiting
    apply Option.eq_none_iff_forall_not_mem.mpr
    intro s item
    have held : child ∈ m.left := by
      rw [shape]
      exact List.mem_cons_of_mem _ (List.mem_cons_of_mem _ mem)
    have shown : s ∈ m.displayed :=
      List.mem_append_left _ (List.mem_filterMap.mpr ⟨child, held, item⟩)
    exact waiting s item (listed s shown)
  · intro none s item
    rw [none] at item
    cases item

theorem waitingItems_of_listed (listed : ∀ s ∈ m.displayed, s.path ∈ done) :
    waitingItems done m.more = [] := by
  apply List.filter_eq_nil_iff.mpr
  intro s mem waiting
  exact of_decide_eq_true waiting (listed s (List.mem_append_right _ mem))

/-- Nothing is registered under a path outside the list. -/
theorem lookup_of_listed (consistent : m.Consistent) (listed : ∀ s ∈ m.displayed, s.path ∈ done)
    (outside : path ∉ done) : m.serviceItems.lookup path = none := by
  cases found : m.serviceItems.lookup path with
  | none => rfl
  | some s =>
    have named := consistent.keyed path s found
    have shown := (consistent.registered s).mpr (named ▸ found)
    exact absurd (named ▸ listed s shown) outside

/-- `get_services_cb` leaves the items of the services listed, new ones in the
order of the list, eight of them in the left menu, and nothing of what was there
before but the "More networks" entry. -/
theorem services_shown_in_order (services : List String) (consistent : m.Consistent)
    (distinct : services.Nodup) (nonempty : services ≠ [])
    (listed : ∀ s ∈ m.displayed, s.path ∈ services) :
    let new := newItems m.created services
    let m' := m.getServicesCb services
    (new.map GtkService.path = services ∧ ∀ s ∈ new, s ∉ m.displayed) ∧
      m'.left = [.serviceListMenuItem, .scanSpinner] ++ (new.take 8).map .service ++
        [.listMoreItem] ∧
      m'.more = new.drop 8 ∧
      (∀ path, m'.serviceItems.lookup path = new.find? (·.path = path)) ∧
      (m'.moreShown ↔ 8 < services.length) := by
  obtain ⟨rest, shape, _⟩ := consistent.layout
  have hidden : Consistent { m with moreShown := false } := consistent.congr rfl rfl rfl rfl
  have begun : Midway { m with moreShown := false } rest [] { m with moreShown := false } := .start shape
  have mid := begun.addServices services hidden shape distinct
  have position := addServices_position { m with moreShown := false } services 2
  rw [List.nil_append] at mid
  change Midway _ rest services (LeftMenu.addServices { m with moreShown := false } services 2).1
    at mid
  intro new m'
  have left := mid.left
  rw [waitingChildren_of_listed hidden shape listed] at left
  have more := mid.more
  rw [waitingItems_of_listed (m := { m with moreShown := false }) listed, List.nil_append] at more
  have items : ∀ path, (LeftMenu.addServices { m with moreShown := false } services
      2).1.serviceItems.lookup path = new.find? (·.path = path) := by
    intro path
    rw [mid.items]
    by_cases inside : path ∈ services
    · rw [← newItems_path m.created services] at inside
      obtain ⟨s, mem, named⟩ := List.mem_map.mp inside
      have some : (new.find? (·.path = path)).isSome :=
        List.find?_isSome.mpr ⟨s, mem, decide_eq_true named⟩
      obtain ⟨s', found⟩ := Option.isSome_iff_exists.mp some
      change (new.find? _).or _ = _
      rw [found, Option.some_or]
    · have absent := lookup_of_listed hidden listed inside
      rw [absent, Option.or_none]
  have old : ∀ s ∈ new, s ∉ m.displayed := fun s mem shown =>
    Nat.not_lt.mpr (mem_newItems mem).1 (consistent.made s shown)
  refine ⟨⟨newItems_path _ _, old⟩, ?_⟩
  change (getServicesCb m services).left = _ ∧ (getServicesCb m services).more = _ ∧
    (∀ path, (getServicesCb m services).serviceItems.lookup path = _) ∧
    ((getServicesCb m services).moreShown ↔ _)
  rw [getServicesCb, if_neg nonempty]
  dsimp only
  rw [position]
  split
  · exact ⟨left, more, items, by simp; omega⟩
  · refine ⟨left, more, items, ?_⟩
    rw [mid.hidden]
    simp
    omega

/-- Nine services, one of them in the second menu. -/
def nineServices : List String := ["a", "b", "c", "d", "e", "f", "g", "h", "i"]

/-- Turned round, each of the nine items is replaced and two change menus. -/
theorem nine_services_turned_round :
    let m := load.getServicesCb nineServices
    (nineServices.reverse.Nodup ∧ nineServices.reverse ≠ [] ∧
        ∀ s ∈ m.displayed, s.path ∈ nineServices.reverse) ∧
      m.more = [⟨8, "i"⟩] ∧ (m.getServicesCb nineServices.reverse).more = [⟨17, "a"⟩] := by
  intro m
  have distinct : nineServices.reverse.Nodup := by decide
  have listed : ∀ s ∈ m.displayed, s.path ∈ nineServices.reverse := by decide
  have shown := services_shown_in_order nineServices.reverse
    (getServicesCb_consistent load_consistent nineServices) distinct (by decide) listed
  exact ⟨⟨distinct, by decide, listed⟩, by decide, shown.2.2.1⟩

end LeftMenu

end ConnmanUi
