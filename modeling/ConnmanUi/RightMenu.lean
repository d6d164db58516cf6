import ConnmanUi.GtkTechnology
import ConnmanUi.LeftMenu

/-!
The right menu and its technologies (`src/right-menu.c`,
`data/ui/right_menu.ui`, and `gtk_technology_destroy` of
`src/gtktechnology.c`).

While the menu is open it has an item for each technology, between its two
separators, and each item has a check item in the tethering menu.  `tech_items`
keeps the items under their paths, and destroying one clears the callbacks of
its technology.  The library invokes the menu's callbacks from within its
handlers of TechnologyAdded and TechnologyRemoved, so these are spelled out here
with the menu inside.

A menu that is open holds the grab: it is not opened again before it is
deactivated.  Elsewhere only `gtk_service_destroy` sets a callback of a
technology, under the path of a service, which is none of a technology.  Widgets are named by the order they were made in.
-/

namespace ConnmanUi.RightMenu

open Registry Technology GtkTechnology

/-- The children `right_menu.ui` gives `cui_right_menu`. -/
inductive Fixed where
  | itemOfflinemodeOn
  | itemOfflinemodeOff
  | sepTechnologyUp
  | sepTechnologyDown
  | itemTethering
  | sepTethering
  | itemQuit
  deriving DecidableEq

/-- A child of `cui_right_menu`. -/
inductive MenuChild where
  | fixed (child : Fixed)
  | technology (t : Nat)
  deriving DecidableEq

/-- The technology module, the menus, and the items that were made. -/
structure World where
  technology : Technology.State
  /-- The children of `cui_right_menu`. -/
  right : List MenuChild
  /-- The children of `cui_tethering_menu`: the check item of each technology item. -/
  tethering : List Nat := []
  techItems : List (String × Nat) := []
  items : List Item := []
  itemPosition : Nat := 3
  disabled : Bool := true
  /-- Which of the fixed children are visible. -/
  visible : Fixed → Bool := fun _ => true
  /-- The menu is open. -/
  shown : Bool := false

/-- The children above the technologies. -/
def above : List MenuChild :=
  [.fixed .itemOfflinemodeOn, .fixed .itemOfflinemodeOff, .fixed .sepTechnologyUp]

/-- The children below them. -/
def below : List MenuChild :=
  [.fixed .sepTechnologyDown, .fixed .itemTethering, .fixed .sepTethering, .fixed .itemQuit]

/-- The menu `cui_load_right_menu` builds from `right_menu.ui`. -/
def load (s : Technology.State) : World := { technology := s, right := above ++ below }

/-- `technology_added_cb` and `technology_removed_cb`, which get no user data. -/
def menuCallback : Callback := 0

/-- `technology_property_changed_cb` with the item as its user data. -/
def changedCallback (t : Nat) : Callback := 2 * t

/-- `technology_property_error_cb` with the item as its user data. -/
def errorCallback (t : Nat) : Callback := 2 * t + 1

section Handlers

variable (w : World)

/-- `gtk_technology_destroy`; a widget that is destroyed leaves its menu. -/
def gtkTechnologyDestroy (t : Nat) : World :=
  match w.items[t]? with
  | none => w
  | some item =>
    let s := connmanTechnologySetPropertyChangedCallback w.technology item.path none
    let s := connmanTechnologySetPropertyErrorCallback s item.path none
    { w with
      technology := s
      tethering := w.tethering.filter (· ≠ t)
      right := w.right.filter (· ≠ .technology t) }

/-- `delete_technology_item`. -/
def deleteTechnologyItem (t : Nat) : World :=
  let w := gtkTechnologyDestroy w t
  { w with itemPosition := w.itemPosition - 1 }

/-- `g_hash_table_insert` into `tech_items`: a value that is replaced is
destroyed. -/
def insertItem (path : String) (t : Nat) : World :=
  let inserted := { w with techItems := w.techItems.filter (·.1 ≠ path) ++ [(path, t)] }
  match w.techItems.lookup path with
  | none => inserted
  | some old => deleteTechnologyItem inserted old

/-- A new item, in both menus. -/
def makeItem (path : String) : World :=
  let t := w.items.length
  let made := gtkTechnologyNew w.technology path (changedCallback t) (errorCallback t)
  { w with
    technology := made.1
    items := w.items ++ [made.2]
    right := LeftMenu.menuShellInsert w.right (.technology t) w.itemPosition
    itemPosition := w.itemPosition + 1
    tethering := w.tethering ++ [t] }

/-- `add_technology`. -/
def addTechnology (path : String) : World := insertItem (makeItem w path) path w.items.length

/-- `technology_added_cb`. -/
def technologyAddedCb (path : String) : World := addTechnology w path

/-- `technology_removed_cb`: `g_hash_table_remove` destroys the value. -/
def technologyRemovedCb (path : String) : World :=
  match w.techItems.lookup path with
  | none => w
  | some old => deleteTechnologyItem { w with techItems := w.techItems.filter (·.1 ≠ path) } old

/-- `cui_popup_right_menu`. -/
def cuiPopupRightMenu (offlinemode : Bool) : World :=
  let w :=
    if w.disabled then w
    else
      let visible := Function.update (Function.update w.visible .itemOfflinemodeOn offlinemode)
        .itemOfflinemodeOff (!offlinemode)
      (connmanTechnologyGetTechnologies w.technology).foldl addTechnology { w with visible := visible }
  let s := connmanTechnologySetRemovedCallback w.technology (some menuCallback)
  let s := connmanTechnologySetAddedCallback s (some menuCallback)
  { w with technology := s, shown := true }

/-- `cui_popdown_right_menu`, when the menu is deactivated. -/
def cuiPopdownRightMenu : World :=
  let s := connmanTechnologySetRemovedCallback w.technology none
  let s := connmanTechnologySetAddedCallback s none
  w.techItems.foldl (fun w entry => deleteTechnologyItem w entry.2)
    { w with technology := s, shown := false, techItems := [] }

/-- `cui_enable_item`, which hides what it enables. -/
def cuiEnableItem (enable : Bool) : World :=
  { w with visible := fun child => child = .itemQuit || !enable, disabled := enable }

/-- `connman_up`, as far as the technologies and this menu are concerned. -/
def connmanUp : World := cuiEnableItem { w with technology := connmanTechnologyInit w.technology } false

/-- `connman_down`, likewise. -/
def connmanDown : World := cuiEnableItem { w with technology := connmanTechnologyFinalize w.technology } true

/-- An event of a widget of item `t` is handled. -/
def handle (t : Nat) (handler : GtkTechnology.World → GtkTechnology.World) : World :=
  match w.items[t]? with
  | none => w
  | some item =>
    let handled := handler { technology := w.technology, item := item }
    { w with technology := handled.technology, items := w.items.set t handled.item }

/-- `gtk_technology_button_release_event` of item `t`, which deactivates the
menu for the third button. -/
def buttonReleaseEvent (t button : Nat) (outcome : SendOutcome) : World :=
  if button = 3 then cuiPopdownRightMenu w
  else handle w t fun one => gtkTechnologyButtonReleaseEvent one button outcome

/-- `gtk_technology_tethering_button` of item `t`. -/
def tetheringButton (t button : Nat) (outcome : SendOutcome) : World :=
  handle w t fun one => gtkTechnologyTetheringButton one button outcome

/-- `technology_added_cb` of the library, with the menu's inside. -/
def technologyAdded (uninit : Option String) (technology : String × Dict) : World :=
  let s := callAddedCb (updateOrCreateTechnology uninit w.technology technology) technology.1
  let w := { w with technology := s }
  let w := if s.addedCb = none then w else technologyAddedCb w technology.1
  if w.technology.set then { w with technology := connmanManagerGetTechnologies w.technology } else w

/-- `technology_removed_cb` of the library, with the menu's inside. -/
def technologyRemoved (path : String) : World :=
  let s := callRemovedCb w.technology path
  let w := { w with technology := s }
  let w := if s.removedCb = none then w else technologyRemovedCb w path
  { w with technology := { w.technology with reg := w.technology.reg.hashRemove objectFree path } }

end Handlers

/-! ## Steps -/

inductive Event where
  | up
  | down
  | popup (offlinemode : Bool)
  | deactivate
  | buttonRelease (t button : Nat) (outcome : SendOutcome)
  | tetheringButton (t button : Nat) (outcome : SendOutcome)
  /-- The other dialogs set a property or have a technology scan. -/
  | set (path : String) (setting : Setting) (outcome : SendOutcome)
  | scan (path : String) (callback : Option Callback) (outcome : SendOutcome)
  | technologyAdded (uninit : Option String) (technology : String × Dict)
  | technologyRemoved (path : String)
  | getTechnologiesReply (call : Nat) (uninit : Option String) (reply : TechnologiesReply)
  | propertyChanged (wid : Nat) (uninit : Option String) (name : String) (value : Value)
  | setPropertyReply (call : Nat) (failed : Bool)
  | scanReply (call : Nat)
  | timer (id : Nat)
  | timerDone

/-- A step of the technology module that invokes none of the menu's callbacks. -/
def quietly (w : World) (e : Technology.Event) : Option World :=
  (Technology.step w.technology e).map fun s => { w with technology := s }

/-- What the main loop hands to the program. -/
def dispatch (w : World) : Event → Option World
  | .up => some (connmanUp w)
  | .down => some (connmanDown w)
  | .popup offlinemode => if w.shown then none else some (cuiPopupRightMenu w offlinemode)
  | .deactivate => if w.shown then some (cuiPopdownRightMenu w) else none
  | .buttonRelease t button outcome =>
    if t ∈ w.techItems.map Prod.snd then some (buttonReleaseEvent w t button outcome) else none
  | .tetheringButton t button outcome =>
    if t ∈ w.tethering then some (tetheringButton w t button outcome) else none
  | .set path setting outcome => quietly w (.set path setting outcome)
  | .scan path callback outcome => quietly w (.scan path callback outcome)
  | .technologyAdded uninit technology =>
    if w.technology.technologySignals then some (technologyAdded w uninit technology) else none
  | .technologyRemoved path =>
    if w.technology.technologySignals then some (technologyRemoved w path) else none
  | .getTechnologiesReply call uninit reply => quietly w (.getTechnologiesReply call uninit reply)
  | .propertyChanged wid uninit name value => quietly w (.propertyChanged wid uninit name value)
  | .setPropertyReply call failed => quietly w (.setPropertyReply call failed)
  | .scanReply call => quietly w (.scanReply call)
  | .timer id =>
    (Technology.step w.technology (.timer id)).map fun s =>
      { w with technology := s, items := w.items.map fun item => (news w.technology s).foldl (told s) item }
  | .timerDone => none

/-- One step.  A property timer ends before anything else is handed over. -/
def step (w : World) : Event → Option World
  | .timerDone => quietly w .timerDone
  | e => if w.technology.reg.dispatching = none then dispatch w e else none

end ConnmanUi.RightMenu
