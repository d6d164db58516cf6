import ConnmanUi.RightMenuMirror
import ConnmanUi.ServiceWatchTold

/-!
The right menu and ConnMan on the bus (`lib/interface.c`, `src/main.c`).

`connman_interface_init` watches the name of ConnMan, and `connman_up` and
`connman_down` run from within the functions of that watch.  The connection of
`ServiceWatch` and the menu of `RightMenu` are one program here: its one thread is
in the filter of the connection, or in a timer, or waits for something to handle,
and the bus goes on meanwhile.  Once nothing is on its way, the menu is enabled
and the technology module is up exactly if ConnMan is on the bus
(`menu_follows_connman`).
-/

namespace ConnmanUi.Interface

open Run
open Watch (Answers Lookup FilterData FilterCallback gDbusAddServiceWatch serviceMatch)
open ServiceWatch (told noteTold last heard)

/-- `CONNMAN_DBUS_NAME`. -/
def connmanDbusName : String := "net.connman"

structure World where
  bus : ServiceWatch.World := {}
  menu : RightMenu.World
  /-- `interface_watch_id`, and 0 while `connman` is NULL. -/
  interfaceWatchId : Nat := 0

variable (connection : Nat) (w : World)

/-- `connman_watch_interface_connected` and
`connman_watch_interface_disconnected`. -/
def watchInterface (menu : RightMenu.World) (connected : Bool) : RightMenu.World :=
  if connected then RightMenu.connmanUp menu else RightMenu.connmanDown menu

/-- What the menu has of the function of a watch that is called. -/
def called (id : Nat) (menu : RightMenu.World) : Option (Nat × Bool) → RightMenu.World
  | some (i, connected) => if i = id then watchInterface menu connected else menu
  | none => menu

/-- `connman_interface_init` adds its watch. -/
def added (answers : Answers) (lookup : Lookup) : Watch.Event :=
  .addServiceWatch connection connmanDbusName true true false answers lookup

/-- `connman_interface_init`, once the connection is there; `main` ends if the
watch is refused. -/
def connmanInterfaceInit (answers : Answers) (lookup : Lookup) : Option World :=
  (ServiceWatch.step connection connmanDbusName w.bus (.watch (added connection answers lookup))).bind fun bus =>
    let id := (gDbusAddServiceWatch w.bus.watch connection connmanDbusName true true false answers lookup).2
    -- it is not known yet whether ConnMan is there
    if id = 0 then none else some { bus := bus, menu := watchInterface w.menu false, interfaceWatchId := id }

inductive Event where
  | interfaceInit (answers : Answers) (lookup : Lookup)
  | bus (e : ServiceWatch.Event)
  | menu (e : RightMenu.Event)

/-- The program takes no part in it. -/
def remote : ServiceWatch.Event → Bool
  | .owns .. | .answer | .sends _ => true
  | .receive | .watch _ => false

/-- ConnMan neither comes nor goes. -/
def menuOnly : RightMenu.Event → Bool
  | .up | .down => false
  | _ => true

def step : Event → Option World
  | .interfaceInit answers lookup =>
    if w.interfaceWatchId = 0 ∧ w.menu.technology.reg.dispatching = none then connmanInterfaceInit connection w answers lookup
    else none
  | .bus e =>
    if remote e ∨ w.menu.technology.reg.dispatching = none then
      (ServiceWatch.step connection connmanDbusName w.bus e).map fun bus =>
        { w with bus := bus, menu := called w.interfaceWatchId w.menu (told w.bus.watch bus.watch) }
    else none
  | .menu e =>
    if w.bus.watch.phase = .idle ∧ menuOnly e then (RightMenu.step w.menu e).map fun menu => { w with menu := menu }
    else none

/-- Nobody is watched, and the menu has been built. -/
def Start : Prop := ∃ owner menu, RightMenu.Start menu ∧ w = { bus := { owner := owner }, menu := menu }

/-- The program is careful with its watches. -/
def Allowed : Event → Prop
  | .interfaceInit answers lookup =>
    ServiceWatch.Allowed connection connmanDbusName w.bus (.watch (added connection answers lookup))
  | .bus e => ServiceWatch.Allowed connection connmanDbusName w.bus e
  | .menu _ => True

variable {connection w} {w' : World} {all : List (Nat × Bool)} {g : RightMenu.Since} {id : Nat}

/-! ## What enables the menu -/

theorem called_disabled {menu : RightMenu.World} {b : Bool} (t : Option (Nat × Bool)) (same : menu.disabled = !b) :
    (called id menu t).disabled = !heard t id b := by
  cases t with
  | none => exact same
  | some p =>
    obtain ⟨i, connected⟩ := p
    unfold called heard
    dsimp only
    split
    · cases connected with
      | false => rfl
      | true => rfl
    · exact same

theorem watchInterface_good {menu : RightMenu.World} (good : RightMenu.Good menu g) (connected : Bool) :
    RightMenu.Good (watchInterface menu connected) g := by
  unfold watchInterface
  split
  · exact good.up
  · exact good.down

theorem called_good {menu : RightMenu.World} (good : RightMenu.Good menu g) (t : Option (Nat × Bool)) :
    RightMenu.Good (called id menu t) g := by
  unfold called
  split
  · split
    · exact watchInterface_good good _
    · exact good
  · exact good

theorem deleteTechnologyItem_disabled (menu : RightMenu.World) (t : Nat) :
    (RightMenu.deleteTechnologyItem menu t).disabled = menu.disabled := by
  unfold RightMenu.deleteTechnologyItem RightMenu.gtkTechnologyDestroy
  split
  · rfl
  · rfl

theorem addTechnology_disabled (menu : RightMenu.World) (path : String) :
    (RightMenu.addTechnology menu path).disabled = menu.disabled := by
  unfold RightMenu.addTechnology RightMenu.insertItem
  dsimp only
  split
  · rfl
  · exact deleteTechnologyItem_disabled _ _

theorem technologyRemovedCb_disabled (menu : RightMenu.World) (path : String) :
    (RightMenu.technologyRemovedCb menu path).disabled = menu.disabled := by
  unfold RightMenu.technologyRemovedCb
  split
  · rfl
  · exact deleteTechnologyItem_disabled _ _

theorem foldl_disabled {α : Type} {f : RightMenu.World → α → RightMenu.World}
    (keeps : ∀ menu a, (f menu a).disabled = menu.disabled) (l : List α) (menu : RightMenu.World) :
    (l.foldl f menu).disabled = menu.disabled := by
  induction l generalizing menu with
  | nil => rfl
  | cons a l ih => exact (ih _).trans (keeps menu a)

theorem popdown_disabled (menu : RightMenu.World) : (RightMenu.cuiPopdownRightMenu menu).disabled = menu.disabled :=
  foldl_disabled (fun _ _ => deleteTechnologyItem_disabled _ _) _ _

theorem popup_disabled (menu : RightMenu.World) (offlinemode : Bool) :
    (RightMenu.cuiPopupRightMenu menu offlinemode).disabled = menu.disabled := by
  unfold RightMenu.cuiPopupRightMenu
  dsimp only
  split
  · rfl
  · exact foldl_disabled addTechnology_disabled _ _

theorem handle_disabled (menu : RightMenu.World) (t : Nat) (handler : GtkTechnology.World → GtkTechnology.World) :
    (RightMenu.handle menu t handler).disabled = menu.disabled := by
  unfold RightMenu.handle
  split
  · rfl
  · rfl

theorem quietly_disabled {menu menu' : RightMenu.World} {e : Technology.Event}
    (ran : RightMenu.quietly menu e = some menu') : menu'.disabled = menu.disabled := by
  obtain ⟨s, _, rfl⟩ := Option.map_eq_some_iff.mp ran
  rfl

/-- Only ConnMan's coming and going enables or disables the menu. -/
theorem step_disabled {menu menu' : RightMenu.World} {e : RightMenu.Event} (own : menuOnly e = true)
    (ran : RightMenu.step menu e = some menu') : menu'.disabled = menu.disabled := by
  cases e with
  | up => cases own
  | down => cases own
  | timerDone => exact quietly_disabled ran
  | popup offlinemode =>
    obtain ⟨_, ran⟩ := Option.ite_none_left_eq_some.mp (RightMenu.handed ran nofun).2
    cases ran
    exact popup_disabled menu offlinemode
  | deactivate =>
    obtain ⟨_, ran⟩ := Option.ite_none_right_eq_some.mp (RightMenu.handed ran nofun).2
    cases ran
    exact popdown_disabled menu
  | buttonRelease t button outcome =>
    obtain ⟨_, ran⟩ := Option.ite_none_right_eq_some.mp (RightMenu.handed ran nofun).2
    cases ran
    unfold RightMenu.buttonReleaseEvent
    split
    · exact popdown_disabled menu
    · exact handle_disabled menu t _
  | tetheringButton t button outcome =>
    obtain ⟨_, ran⟩ := Option.ite_none_right_eq_some.mp (RightMenu.handed ran nofun).2
    cases ran
    exact handle_disabled menu t _
  | technologyAdded uninit technology =>
    obtain ⟨_, ran⟩ := Option.ite_none_right_eq_some.mp (RightMenu.handed ran nofun).2
    cases ran
    rw [RightMenu.technologyAdded_via]
    dsimp only
    split
    · rfl
    · exact addTechnology_disabled _ _
  | technologyRemoved path =>
    obtain ⟨_, ran⟩ := Option.ite_none_right_eq_some.mp (RightMenu.handed ran nofun).2
    cases ran
    rw [RightMenu.technologyRemoved_eq]
    split
    · rfl
    · exact technologyRemovedCb_disabled menu path
  | timer id =>
    obtain ⟨s, _, rfl⟩ := Option.map_eq_some_iff.mp (RightMenu.handed ran nofun).2
    rfl
  | set path setting outcome => exact quietly_disabled (RightMenu.handed ran nofun).2
  | scan path callback outcome => exact quietly_disabled (RightMenu.handed ran nofun).2
  | getTechnologiesReply call uninit reply => exact quietly_disabled (RightMenu.handed ran nofun).2
  | propertyChanged wid uninit name value => exact quietly_disabled (RightMenu.handed ran nofun).2
  | setPropertyReply call failed => exact quietly_disabled (RightMenu.handed ran nofun).2
  | scanReply call => exact quietly_disabled (RightMenu.handed ran nofun).2

/-! ## ConnMan and the menu -/

/-- Once the interface is watched, the menu is as its watch was told last. -/
structure Follows (connection : Nat) (w : World) (all : List (Nat × Bool)) (g : RightMenu.Since) : Prop where
  bus : ServiceWatch.Inv connection connmanDbusName w.bus all
  menu : RightMenu.Good w.menu g
  enabled : w.interfaceWatchId ≠ 0 → w.menu.disabled = !last all w.interfaceWatchId

theorem last_new {k : Nat} (noted : ∀ p ∈ all, p.1 ≤ k) : last all (k + 1) = false := by
  have none_ : all.lookup (k + 1) = none := List.lookup_eq_none_iff.mpr fun p mem => by
    have below := noted p mem
    have apart : k + 1 ≠ p.1 := by omega
    simpa using apart
  unfold last
  rw [none_]
  rfl

/-- The watch that is added has been told nothing, and the menu is disabled. -/
theorem Follows.interfaceInit {answers : Answers} {lookup : Lookup} (follows : Follows connection w all g)
    (allowed : ServiceWatch.Allowed connection connmanDbusName w.bus (.watch (added connection answers lookup)))
    (ran : connmanInterfaceInit connection w answers lookup = some w') : ∃ all, Follows connection w' all g := by
  obtain ⟨bus, stepped, ran⟩ := Option.bind_eq_some_iff.mp ran
  obtain ⟨new, ran⟩ := Option.ite_none_left_eq_some.mp ran
  cases ran
  have inv := ServiceWatch.step_inv follows.bus allowed stepped
  refine ⟨_, inv, watchInterface_good follows.menu false, fun _ => ?_⟩
  unfold ServiceWatch.step at stepped
  dsimp only at stepped
  rw [if_pos (show ServiceWatch.Apart connection connmanDbusName w.bus (added connection answers lookup) from trivial)] at stepped
  obtain ⟨s', went, rfl⟩ := Option.map_eq_some_iff.mp stepped
  have onward := ServiceWatch.addServiceWatch_onward follows.bus allowed went
  have number := (Watch.addServiceWatch_id answers (Nat.lt_of_succ_lt allowed.1.room) connection connmanDbusName true true
    false lookup).resolve_left new
  dsimp only
  rw [number.1]
  refine (congrArg not (last_new fun p mem => ?_)).symm
  rcases List.mem_append.mp mem with now | before
  · exact onward.noted p (Option.mem_toList.mp now)
  · exact follows.bus.noted p before

theorem Follows.bus_step {e : ServiceWatch.Event} {bus : ServiceWatch.World} (follows : Follows connection w all g)
    (allowed : ServiceWatch.Allowed connection connmanDbusName w.bus e)
    (ran : ServiceWatch.step connection connmanDbusName w.bus e = some bus) :
    Follows connection { w with bus := bus, menu := called w.interfaceWatchId w.menu (told w.bus.watch bus.watch) }
      (noteTold w.bus e bus all) g := by
  refine ⟨ServiceWatch.step_inv follows.bus allowed ran, called_good follows.menu _, fun set => ?_⟩
  unfold noteTold
  dsimp only
  rw [ServiceWatch.last_note]
  exact called_disabled _ (follows.enabled set)

theorem follows_step {e : Event} (follows : ∃ all g, Follows connection w all g) (allowed : Allowed connection w e)
    (ran : step connection w e = some w') : ∃ all g, Follows connection w' all g := by
  obtain ⟨all, g, follows⟩ := follows
  cases e with
  | interfaceInit answers lookup =>
    obtain ⟨_, ran⟩ := Option.ite_none_right_eq_some.mp ran
    obtain ⟨all', follows'⟩ := follows.interfaceInit allowed ran
    exact ⟨all', g, follows'⟩
  | bus e =>
    obtain ⟨_, ran⟩ := Option.ite_none_right_eq_some.mp ran
    obtain ⟨bus, stepped, rfl⟩ := Option.map_eq_some_iff.mp ran
    exact ⟨_, g, follows.bus_step allowed stepped⟩
  | menu e =>
    obtain ⟨⟨_, own⟩, ran⟩ := Option.ite_none_right_eq_some.mp ran
    obtain ⟨menu, stepped, rfl⟩ := Option.map_eq_some_iff.mp ran
    exact ⟨all, _, follows.bus, follows.menu.step stepped, fun set => (step_disabled own stepped).trans (follows.enabled set)⟩

theorem follows_start (start : Start w) : ∃ all g, Follows connection w all g := by
  obtain ⟨owner, menu, built, rfl⟩ := start
  exact ⟨[], {}, ServiceWatch.inv_start ⟨owner, rfl⟩, RightMenu.good_start built, fun set => absurd rfl set⟩

/-- The watch of `connman_interface_init` is there. -/
def Watching (connection : Nat) (w : World) : Prop :=
  ∃ d ∈ w.bus.watch.listeners, d.toMatch = serviceMatch connection connmanDbusName ∧
    ∃ cb ∈ d.own, cb.id = w.interfaceWatchId ∧ cb.connFunc = true ∧ cb.discFunc = true

theorem menu_follows_connman (reached : Reaches (step connection) (Allowed connection) Start w)
    (idle : w.bus.watch.phase = .idle) (asked : w.bus.asked = []) (inbox : w.bus.inbox = [])
    (watching : Watching connection w) :
    w.menu.disabled = decide (w.bus.owner = "") ∧ w.menu.technology.up = decide (w.bus.owner ≠ "") := by
  obtain ⟨all, g, follows⟩ := reached.invariant (I := fun w => ∃ all g, Follows connection w all g)
    (fun _ start => follows_start start) fun _ _ _ follows allowed ran => follows_step follows allowed ran
  obtain ⟨d, mem, what, cb, own, same, connects, disconnects⟩ := watching
  have told := follows.bus.told idle asked inbox mem what own connects disconnects
  have set : w.interfaceWatchId ≠ 0 := by
    rw [← same]
    exact (follows.bus.upright.numbered.callbacks (Watch.mem_callbacks mem own)).1.ne'
  have disabled : w.menu.disabled = decide (w.bus.owner = "") := by
    rw [follows.enabled set, ← same, told, decide_not, Bool.not_not]
  have up : w.menu.technology.up = !w.menu.disabled := follows.menu.base.registered.up
  exact ⟨disabled, by rw [up, disabled, decide_not]⟩

/-- The bus answered that ConnMan is there. -/
def present : World where
  bus := ServiceWatch.answered.state
  menu := RightMenu.connmanUp (RightMenu.connmanDown (RightMenu.load Technology.started))
  interfaceWatchId := 1

theorem present_reached : Reaches (step 1) (Allowed 1) Start present := by
  have good : ({} : Answers).Good := ⟨rfl, fun _ => rfl, fun _ => rfl⟩
  have fresh : ServiceWatch.Fresh 1 connmanDbusName { owner := ":1.5" } :=
    ⟨fun _ mem => absurd mem List.not_mem_nil, fun _ _ => Watch.Phase.noConfusion⟩
  have built : Reaches (step 1) (Allowed 1) Start
      { bus := { owner := ":1.5" }, menu := RightMenu.load Technology.started } :=
    .here ⟨":1.5", _, ⟨_, Technology.started_start, rfl⟩, rfl⟩
  have watches := built.next (e := Event.interfaceInit {} .sent)
    ⟨⟨by decide, good, by decide +kernel, fun _ => .inr ⟨rfl, rfl⟩⟩, fun _ _ _ _ _ _ same _ _ => by
      cases same
      exact ⟨rfl, fresh⟩⟩ rfl
  have answers := watches.next (e := Event.bus .answer) trivial rfl
  have receives := answers.next (e := Event.bus .receive) (show Watch.Room _ by decide +kernel) rfl
  exact receives.next (e := Event.bus (.watch (.returned true {}))) ⟨⟨by decide +kernel, rfl⟩, fun _ _ _ _ _ _ same => by cases same⟩ rfl

theorem menu_follows_connman_present :
    present.menu.disabled = decide (present.bus.owner = "") ∧ present.menu.technology.up = decide (present.bus.owner ≠ "") := by
  have own : { id := 1, connFunc := true, discFunc := true } ∈ ((present.bus.watch.listeners.head?).get rfl).own := by decide +kernel
  exact menu_follows_connman present_reached rfl rfl rfl
    ⟨_, by decide +kernel, by decide +kernel, _, own, rfl, rfl, rfl⟩

end ConnmanUi.Interface
