import ConnmanUi.Technology

/-!
The menu item of a technology (`src/gtktechnology.c`).

An item shows whether its technology is enabled and asks for the opposite when
it is clicked.  Its callbacks are invoked by the technology module, whose log
tells which of them and when; ConnMan is there for the SetProperty calls of
Powered it has accepted, and owes a PropertyChanged signal for each.
-/

namespace ConnmanUi.GtkTechnology

open Registry Technology

/-! ## What the item reads -/

section Reads

variable (s : Technology.State) (path : String)

/-- `connman_technology_get_name`. -/
def connmanTechnologyGetName : Option String := (s.reg.get path).bind fun o => (s.reg.heap o).rest.name

/-- `connman_technology_is_enabled`. -/
def connmanTechnologyIsEnabled : Bool :=
  match s.reg.get path with
  | none => false
  | some o => (s.reg.heap o).rest.powered

/-- `connman_technology_is_tethering`. -/
def connmanTechnologyIsTethering : Bool :=
  match s.reg.get path with
  | none => false
  | some o => (s.reg.heap o).rest.tethering

end Reads

/-! ## The item -/

/-- A `GtkSwitch` or a `GtkCheckMenuItem`. -/
structure Button where
  active : Bool
  sensitive : Bool
  deriving DecidableEq

/-- A `GtkLabel`, bold or not. -/
structure Label where
  text : Option String
  bold : Bool
  deriving DecidableEq

/-- `struct _GtkTechnology`; `changed` and `error` are its two callbacks, with
the item as their user data. -/
structure Item where
  path : String
  changed : Callback
  error : Callback
  enabler : Button
  tethering : Button
  name : Label

/-- `set_technology_name`. -/
def setTechnologyName (s : Technology.State) (path : String) (enabled : Bool) : Label :=
  { text := connmanTechnologyGetName s path, bold := enabled }

/-- `gtk_technology_new`. -/
def gtkTechnologyNew (s : Technology.State) (path : String) (changed error : Callback) :
    Technology.State × Item :=
  let s := connmanTechnologySetPropertyChangedCallback s path (some changed)
  let s := connmanTechnologySetPropertyErrorCallback s path (some error)
  let enabled := connmanTechnologyIsEnabled s path
  (s, { path := path
        changed := changed
        error := error
        enabler := { active := enabled, sensitive := true }
        tethering := { active := connmanTechnologyIsTethering s path, sensitive := enabled }
        name := setTechnologyName s path enabled })

/-- `technology_property_changed_cb`. -/
def technologyPropertyChangedCb (s : Technology.State) (item : Item) (path : String) (property : Property) : Item :=
  match property with
  | .powered =>
    let enabled := connmanTechnologyIsEnabled s path
    { item with
      enabler := { active := enabled, sensitive := true }
      tethering := { item.tethering with sensitive := enabled }
      name := setTechnologyName s item.path enabled }
  | .tethering =>
    { item with
      tethering := { active := connmanTechnologyIsTethering s path, sensitive := connmanTechnologyIsEnabled s path } }
  | _ => item

/-- `technology_property_error_cb`, which prints. -/
def technologyPropertyErrorCb (item : Item) (_ : String) (_ : Property) : Item := item

/-- The module invokes a callback. -/
def told (s : Technology.State) (item : Item) : Note Property → Item
  | .changedCb cb path property =>
    if cb = item.changed then technologyPropertyChangedCb s item path property else item
  | .errorCb cb path property =>
    if cb = item.error then technologyPropertyErrorCb item path property else item
  | _ => item

/-- What a step of the module logged, the first note first. -/
def news (s s' : Technology.State) : List (Note Property) :=
  (s'.reg.log.take (s'.reg.log.length - s.reg.log.length)).reverse

/-! ## The item and its surroundings -/

/-- The technology module, an item, and ConnMan. -/
structure World where
  technology : Technology.State
  item : Item
  /-- The calls in flight that ConnMan has accepted. -/
  accepted : List Nat := []
  /-- How many accepted changes of Powered have not been delivered. -/
  owed : Nat := 0

namespace World

/-- The item's technology. -/
def object (w : World) : Option ObjId := w.technology.reg.get w.item.path

/-- The call is a SetProperty of Powered on the item's technology. -/
def Powers (w : World) (call : Nat) : Prop :=
  ∃ set ∈ w.technology.reg.calls.find call, w.object = some set.data ∧ set.index = .powered

instance (w : World) (call : Nat) : Decidable (w.Powers call) :=
  inferInstanceAs (Decidable (∃ set ∈ w.technology.reg.calls.find call, _))

end World

/-- `gtk_technology_button_release_event`.  The third button opens the tethering
settings of a wifi technology, and the menu handles the rest. -/
def gtkTechnologyButtonReleaseEvent (w : World) (button : Nat) (outcome : SendOutcome) : World :=
  if button ≠ 1 then w
  else
    let enable := !w.item.enabler.active
    let asked := connmanTechnologyEnable w.technology w.item.path enable outcome
    let item := if asked.2 = 0 then
        { w.item with enabler := { w.item.enabler with sensitive := false } } else w.item
    { w with technology := asked.1, item := item }

/-- `gtk_technology_tethering_button`. -/
def gtkTechnologyTetheringButton (w : World) (button : Nat) (outcome : SendOutcome) : World :=
  if button ≠ 1 then w
  else
    let tethering := w.item.tethering.active
    let item := { w.item with tethering := { active := !tethering, sensitive := false } }
    { w with
      technology := (connmanTechnologyTether w.technology w.item.path (!tethering) outcome).1
      item := item }

inductive Event where
  | buttonRelease (button : Nat) (outcome : SendOutcome)
  | tetheringButton (button : Nat) (outcome : SendOutcome)
  /-- Another client sets a property. -/
  | set (path : String) (setting : Setting) (outcome : SendOutcome)
  /-- ConnMan accepts a call that sets Powered. -/
  | accept (call : Nat)
  /-- A PropertyChanged signal, for a call accepted or not. -/
  | propertyChanged (wid : Nat) (uninit : Option String) (name : String) (value : Value) (accepted : Bool)
  | setPropertyReply (call : Nat) (failed : Bool)
  | timer (id : Nat)
  | timerDone

/-- The signal is one of Powered of the item's technology. -/
def World.Switches (w : World) (wid : Nat) (name : String) : Prop :=
  w.object = w.technology.reg.watches.find wid ∧ Property.ofName name = some .powered

instance (w : World) (wid : Nat) (name : String) : Decidable (w.Switches wid name) :=
  inferInstanceAs (Decidable (_ ∧ _))

/-- One step while the item is there.  A reply says whether ConnMan accepted
the call, and it delivers no more changes than it owes. -/
def step (w : World) : Event → Option World
  | .buttonRelease button outcome =>
    if w.technology.reg.dispatching = none then some (gtkTechnologyButtonReleaseEvent w button outcome) else none
  | .tetheringButton button outcome =>
    if w.technology.reg.dispatching = none then some (gtkTechnologyTetheringButton w button outcome) else none
  | .set path setting outcome =>
    (Technology.step w.technology (.set path setting outcome)).map fun s => { w with technology := s }
  | .accept call =>
    if w.Powers call ∧ call ∉ w.accepted then
      some { w with accepted := call :: w.accepted, owed := w.owed + 1 }
    else none
  | .propertyChanged wid uninit name value accepted =>
    if accepted = true → w.Switches wid name ∧ 0 < w.owed then
      (Technology.step w.technology (.propertyChanged wid uninit name value)).map fun s =>
        { w with technology := s, owed := if accepted then w.owed - 1 else w.owed }
    else none
  | .setPropertyReply call failed =>
    if w.Powers call → failed = decide (call ∉ w.accepted) then
      (Technology.step w.technology (.setPropertyReply call failed)).map fun s =>
        { w with technology := s, accepted := w.accepted.filter (· ≠ call) }
    else none
  | .timer id =>
    (Technology.step w.technology (.timer id)).map fun s =>
      { w with technology := s, item := (news w.technology s).foldl (told s) w.item }
  | .timerDone => (Technology.step w.technology .timerDone).map fun s => { w with technology := s }

/-- An item is made for a technology of the module, with callbacks of its own;
calls of an item before it may be in flight. -/
def Start (start : Technology.State → Prop) (w : World) : Prop :=
  ∃ s path changed error, start s ∧ s.reg.get path ≠ none ∧
    (∀ o, (s.reg.heap o).propertyChangedCb ≠ some changed) ∧ s.propertyChangedCb ≠ some changed ∧
    (w.technology, w.item) = gtkTechnologyNew s path changed error ∧ ∀ call ∈ w.accepted, w.Powers call

end ConnmanUi.GtkTechnology
