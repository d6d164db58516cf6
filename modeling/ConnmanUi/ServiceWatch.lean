import ConnmanUi.WatchRecords

/-!
The watch of a name, and the bus (`gdbus/watch.c`).

`g_dbus_add_service_watch` asks the bus who has the name, and the bus tells of each
change of the owner.  The answer and the signals reach the connection in the order
in which the bus sends them, one at a time, and between them other watches come
and go and callbacks run.  The state holds the bus's owner of one name, the
questions that are on their way to the bus, and what the bus has sent.
-/

namespace ConnmanUi.ServiceWatch

open Watch Run

/-- What the bus sends to the connection. -/
inductive Packet where
  | signal (m : Message)
  /-- The answer to the GetNameOwner of a watch: the owner, or an error. -/
  | reply (id : Nat) (owner : Option String)
  deriving DecidableEq

/-- The connection, and the bus as far as it is about the name. -/
structure World where
  watch : Watch.State := {}
  /-- Who has the name; empty for nobody. -/
  owner : String := ""
  /-- The watches whose GetNameOwner is on its way to the bus, the first one
  first. -/
  asked : List Nat := []
  /-- What is on its way to the connection, the first one first. -/
  inbox : List Packet := []

variable (connection : Nat) (name : String)

/-- The NameOwnerChanged of the bus. -/
def nameOwnerChanged (old new : String) : Message :=
  { sender := "org.freedesktop.DBus", path := "/org/freedesktop/DBus", interface := "org.freedesktop.DBus",
    member := "NameOwnerChanged", args := [name, old, new] }

/-- The signal is a NameOwnerChanged of the name. -/
def Owns (m : Message) : Prop :=
  m.interface = "org.freedesktop.DBus" ∧ m.member = "NameOwnerChanged" ∧ m.args.head? = some name

instance (m : Message) : Decidable (Owns name m) := inferInstanceAs (Decidable (_ ∧ _ ∧ _))

/-- The name has an owner after it. -/
def gained (m : Message) : Bool :=
  match m.args with
  | _ :: _ :: new :: _ => new ≠ ""
  | _ => false

def Packet.replyId : Packet → Option Nat
  | .signal _ => none
  | .reply id _ => some id

variable (w : World)

/-- The watches whose question is not answered yet, or whose answer has not come
yet. -/
def World.waiting : List Nat := w.asked ++ w.inbox.filterMap Packet.replyId

inductive Event where
  /-- Another client gets the name, or the name goes; `heard` if a rule of the
  connection other than that of a watch of the name lets the signal through. -/
  | owns (owner : String) (heard : Bool)
  /-- The bus answers the first GetNameOwner. -/
  | answer
  /-- The bus sends another signal. -/
  | sends (m : Message)
  /-- The connection dispatches what has come first. -/
  | receive
  /-- Anything else in `watch.c`. -/
  | watch (e : Watch.Event)

/-- The watch that asks for the owner of the name, if the step adds one that
does. -/
def lookups (s : Watch.State) : Watch.Event → List Nat
  | .addServiceWatch c n connect disconnect destroy answers lookup =>
    let added := gDbusAddServiceWatch s c n connect disconnect destroy answers lookup
    if c = connection ∧ n = name ∧ ∃ found ∈ added.1.findCallback added.2, found.2.data = .call then [added.2] else []
  | _ => []

/-- What reaches the connection comes through `inbox`, and so do the answers about
the name. -/
def Apart : Watch.Event → Prop
  | .message c _ => c ≠ connection
  | .serviceReply id _ =>
    id ∉ w.waiting ∧ ∀ found ∈ w.watch.findCallback id, found.1.toMatch ≠ serviceMatch connection name
  | _ => True

instance : ∀ e, Decidable (Apart connection name w e)
  | .message c _ => inferInstanceAs (Decidable (c ≠ connection))
  | .serviceReply id _ => inferInstanceAs (Decidable (id ∉ w.waiting ∧ ∀ found ∈ w.watch.findCallback id, _))
  | .addSignalWatch .. => isTrue trivial
  | .addPropertiesWatch .. => isTrue trivial
  | .addServiceWatch .. => isTrue trivial
  | .removeWatch .. => isTrue trivial
  | .proceed .. => isTrue trivial
  | .returned .. => isTrue trivial
  | .updateService .. => isTrue trivial

/-- The connection dispatches a packet: a signal goes to the filter, if there is
one; an answer goes to `service_reply`, unless its call was cancelled with its
watch. -/
def receive : Packet → Option Watch.State
  | .signal m => if connection ∈ w.watch.filters then Watch.step w.watch (.message connection m) else some w.watch
  | .reply id owner => some ((Watch.step w.watch (.serviceReply id owner)).getD w.watch)

def step (w : World) : Event → Option World
  | .owns owner heard =>
    if owner = w.owner then none
    else
      let rule := (connection, formatRule (serviceMatch connection name))
      some { w with
        owner := owner
        inbox := if heard || w.watch.rules.contains rule then w.inbox ++ [.signal (nameOwnerChanged name w.owner owner)] else w.inbox }
  | .answer =>
    match w.asked with
    | [] => none
    | id :: asked =>
      some { w with asked := asked, inbox := w.inbox ++ [.reply id (if w.owner = "" then none else some w.owner)] }
  | .sends m => if Owns name m then none else some { w with inbox := w.inbox ++ [.signal m] }
  | .receive =>
    match w.watch.phase, w.inbox with
    | .idle, packet :: inbox => (receive connection w packet).map fun s => { w with watch := s, inbox := inbox }
    | _, _ => none
  | .watch e =>
    if Apart connection name w e then
      (Watch.step w.watch e).map fun s => { w with watch := s, asked := w.asked ++ lookups connection name w.watch e }
    else none

/-- No watch has been added; the name may have an owner. -/
def Start (w : World) : Prop := ∃ owner, w = { owner := owner }

/-- No NameOwnerChanged of the name is on its way, or being dispatched. -/
def Fresh : Prop :=
  (∀ m, .signal m ∈ w.inbox → ¬Owns name m) ∧
    ∀ f stage, w.watch.phase = .filtering f stage → f.connection = connection → ¬Owns name f.message

/-- The program is careful, and it begins to watch the name while no signal of it
is about; its question is sent. -/
def Allowed (w : World) : Event → Prop
  | .sends m => m.Typed
  | .receive => Room w.watch
  | .watch e => Careful w.watch e ∧ ∀ c n disconnect destroy answers lookup,
      e = .addServiceWatch c n true disconnect destroy answers lookup → c = connection → n = name →
        lookup = .sent ∧ Fresh connection name w
  | _ => True

/-! ## What the watches are told -/

/-- The watch whose function a step calls: with true if the connect function is
called, with false if the disconnect function is. -/
def told (s s' : Watch.State) : Option (Nat × Bool) :=
  match s'.phase with
  | .filtering f (.call _ id) => if s'.log = .called id :: s.log then some (id, gained f.message) else none
  | .updating id => if s'.log = .called id :: s.log then some (id, true) else none
  | _ => none

/-- What the watches were told, newest first. -/
abbrev Seen := Watched World (List (Nat × Bool))

def noteTold (w : World) (_ : Event) (w' : World) (all : List (Nat × Bool)) : List (Nat × Bool) :=
  (told w.watch w'.watch).toList ++ all

/-- What a watch was told last, if that it was that the name has an owner. -/
def last (all : List (Nat × Bool)) (id : Nat) : Bool := (all.lookup id).getD false

end ConnmanUi.ServiceWatch
