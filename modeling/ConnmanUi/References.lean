import ConnmanUi.Ledger
import ConnmanUi.ManagerCalls
import ConnmanUi.ServiceRecord
import ConnmanUi.Technology

/-!
D-Bus references of `lib/service.c`, `lib/technology.c` and `lib/manager.c`.

A message or a pending call lives as long as someone holds a reference to it;
`messages` and `calls` are the books of those the three files hold.  A message
is held by a function while it runs.  A pending call is held by the slot that
`dbus_connection_send_with_reply` writes it to; libdbus knows besides which
calls are in flight with a notify function (`pending`), and each slot has one
notify function of its own.

The objects come and go as the tables of the two modules have it; a slot goes
with its object, or with the manager.
-/

namespace ConnmanUi.References

open ManagerCalls (Listing)

/-- A service or a technology. -/
inductive Owner where
  | service (o : ObjId)
  | technology (o : ObjId)
  deriving DecidableEq

/-- The places a pending call is kept in: `call_modify` of a service or a
technology, `scan_call`, and those of the manager. -/
inductive Slot where
  | service (o : ObjId) (i : Service.Property)
  | technology (o : ObjId) (i : Technology.Property)
  | scan (o : ObjId)
  | getProperties
  | get (l : Listing)
  deriving DecidableEq

structure State where
  messages : Ledger Nat := {}
  calls : Ledger Nat := {}
  /-- How many messages there have been, and how many calls. -/
  nextMessage : Nat := 0
  nextCall : Nat := 0
  slots : Slots Slot Nat := ∅
  /-- The calls in flight that notify, and the slot each was sent for. -/
  pending : List (Nat × Slot) := []
  objects : List Owner := []
  /-- `manager` is not NULL. -/
  manager : Bool := false

/-- How `dbus_connection_send_with_reply` and `dbus_pending_call_set_notify`
fare: both succeed, the first fails, it succeeds with a NULL call, the second
fails. -/
inductive Sending where
  | sent
  | notSent
  | noPending
  | noNotify
  deriving DecidableEq

/-- A reply handler runs: whether `dbus_pending_call_steal_reply` gives a
message, and whether it has arguments; whether the client has a callback, and
there is memory to tell it; and the listing that callback asks for in turn, with
whether there is a message for that and how it is sent. -/
structure Reply where
  reply : Bool
  args : Bool
  callback : Bool
  memory : Bool
  again : Option (Bool × Sending)

section Libdbus

variable (s : State)

/-- `dbus_message_new_method_call` or `dbus_pending_call_steal_reply`: a message
with the number `nextMessage`. -/
def messageNew : State :=
  { s with messages := s.messages.acquire s.nextMessage, nextMessage := s.nextMessage + 1 }

/-- `dbus_message_unref`. -/
def messageUnref (message : Nat) : State := { s with messages := s.messages.release message }

/-- `g_dbus_send_message`, which unreferences the message whether it is sent or
not. -/
def gDbusSendMessage (message : Nat) : State := messageUnref s message

/-- `dbus_pending_call_cancel`: the notify function will not run. -/
def pendingCallCancel (call : Nat) : State := { s with pending := s.pending.filter (·.1 ≠ call) }

/-- `dbus_pending_call_unref`. -/
def pendingCallUnref (call : Nat) : State := { s with calls := s.calls.release call }

/-- A slot is set to NULL. -/
def setNull (slot : Slot) : State := { s with slots := s.slots.erase slot }

/-- `dbus_connection_send_with_reply` for a slot, which it clears first. -/
def connectionSendWithReply (slot : Slot) (sending : Sending) : State :=
  match sending with
  | .notSent | .noPending => setNull s slot
  | .sent | .noNotify =>
    { s with
      calls := s.calls.acquire s.nextCall
      nextCall := s.nextCall + 1
      slots := s.slots.insert slot s.nextCall }

/-- `dbus_pending_call_set_notify` on what the slot holds. -/
def pendingCallSetNotify (slot : Slot) (sending : Sending) : State :=
  match sending, s.slots.lookup slot with
  | .sent, some call => { s with pending := (call, slot) :: s.pending }
  | _, _ => s

/-- The two, as each request function calls them. -/
def sendWithReply (slot : Slot) (sending : Sending) : State :=
  pendingCallSetNotify (connectionSendWithReply s slot sending) slot sending

/-- A slot is cancelled, unreferenced and set to NULL, if it holds a call. -/
def cancelSlot (slot : Slot) : State :=
  match s.slots.lookup slot with
  | none => s
  | some call => setNull (pendingCallUnref (pendingCallCancel s call) call) slot

end Libdbus

/-! ## Services and technologies -/

section Objects

variable (s : State) (message setting : Bool) (sending : Sending)

/-- What `set_service_property` and `set_technology_property` do with the slot
of the property; `message` and `setting` say whether there is memory for these.
The message is not unreferenced when all goes well. -/
def setProperty (slot : Slot) : State × Int :=
  if (s.slots.lookup slot).isSome then (s, -EINVAL)
  else if !message then (s, -ENOMEM)
  else
    let number := s.nextMessage
    let s := messageNew s
    if !setting then (messageUnref s number, -ENOMEM)
    else
      let s := sendWithReply s slot sending
      match sending with
      | .sent => (s, 0)
      | _ => (messageUnref s number, -EINVAL)

/-- `set_service_property`. -/
def setServiceProperty (o : ObjId) (i : Service.Property) : State × Int :=
  setProperty s message setting sending (.service o i)

/-- `set_technology_property`. -/
def setTechnologyProperty (o : ObjId) (i : Technology.Property) : State × Int :=
  setProperty s message setting sending (.technology o i)

/-- `set_property_cb` of both files: the call is not unreferenced. -/
def setPropertyCb (slot : Slot) (r : Reply) : State :=
  let s := setNull s slot
  if !r.callback then s
  else if !r.memory then s
  else if !r.reply then s
  else
    let number := s.nextMessage
    messageUnref (messageNew s) number

/-- `call_empty_method`; `sent` is what `g_dbus_send_message` returns. -/
def callEmptyMethod (sent : Bool) : State × Int :=
  if !message then (s, -ENOMEM)
  else
    let number := s.nextMessage
    let s := gDbusSendMessage (messageNew s) number
    if !sent then (messageUnref s number, -EINVAL) else (s, 0)

/-- `connman_technology_scan`. -/
def connmanTechnologyScan (o : ObjId) : State × Int :=
  if !message then (s, -ENOMEM)
  else
    let number := s.nextMessage
    let s := sendWithReply (messageNew s) (.scan o) sending
    match sending with
    | .sent => (messageUnref s number, 0)
    | _ => (messageUnref s number, -EINVAL)

/-- `scan_callback`. -/
def scanCallback (call : Nat) (o : ObjId) : State := setNull (pendingCallUnref s call) (.scan o)

/-- The slots of an object, in the order its free function takes them. -/
def Owner.slots : Owner → List Slot
  | .service o => PropertyIndex.all.map (Slot.service o)
  | .technology o => PropertyIndex.all.map (Slot.technology o) ++ [.scan o]

/-- `service_free` and `technology_free`. -/
def objectFree (owner : Owner) : State :=
  { owner.slots.foldl cancelSlot s with objects := s.objects.erase owner }

end Objects

/-! ## The manager -/

section Manager

variable (s : State) (message : Bool) (sending : Sending)

/-- What `__connman_manager_get_technologies` and
`__connman_manager_get_services` do; `cb` says whether a callback is given. -/
def managerGet (l : Listing) (cb : Bool) : State × Int :=
  if !s.manager then (s, -EINVAL)
  else
    let s := cancelSlot s (.get l)
    if !cb then (s, 0)
    else if !message then (s, -ENOMEM)
    else
      let number := s.nextMessage
      let s := sendWithReply (messageNew s) (.get l) sending
      match sending with
      | .sent => (messageUnref s number, 0)
      | _ => (messageUnref s number, -EINVAL)

/-- `get_technologies_callback` and `get_services_callback`. -/
def getCallback (l : Listing) (call : Nat) (r : Reply) : State :=
  let s := setNull s (.get l)
  if !r.reply then pendingCallUnref s call
  else
    let number := s.nextMessage
    let s := messageNew s
    let s := match r.args && r.callback, r.again with
      | true, some (message, sending) => (managerGet s message sending l true).1
      | _, _ => s
    pendingCallUnref (messageUnref s number) call

/-- `get_properties_callback`. -/
def getPropertiesCallback (call : Nat) (r : Reply) : State :=
  let s := setNull s .getProperties
  if !r.reply then pendingCallUnref s call
  else
    let number := s.nextMessage
    pendingCallUnref (messageUnref (messageNew s) number) call

/-- `connman_manager_finalize`. -/
def connmanManagerFinalize : State :=
  if !s.manager then s
  else
    let s := cancelSlot s .getProperties
    let s := cancelSlot s (.get .technologies)
    let s := cancelSlot s (.get .services)
    { s with manager := false }

/-- `connman_manager_init`, past the checks; `watch` says whether the watch can
be added. -/
def connmanManagerInit (watch : Bool) : State × Int :=
  if s.manager then (s, 0)
  else
    let s := { s with manager := true }
    if !message then (connmanManagerFinalize s, -ENOMEM)
    else
      let number := s.nextMessage
      let s := sendWithReply (messageNew s) .getProperties sending
      match sending, watch with
      | .sent, true => (messageUnref s number, 0)
      | _, _ => (connmanManagerFinalize (messageUnref s number), -EINVAL)

/-- A message without a reply, as `connman_manager_set_offlinemode`,
`connman_manager_register_agent` and `connman_manager_unregister_agent` send
one. -/
def managerSend : State :=
  if !s.manager then s
  else if !message then s
  else gDbusSendMessage (messageNew s) s.nextMessage

/-- `connman_manager_set_offlinemode`. -/
def connmanManagerSetOfflinemode (sent : Bool) : State × Int :=
  (managerSend s message,
    if !s.manager then -EINVAL else if !message then -ENOMEM else if !sent then -EINVAL else 0)

/-- `connman_manager_register_agent`. -/
def connmanManagerRegisterAgent : State := managerSend s message

/-- `connman_manager_unregister_agent`. -/
def connmanManagerUnregisterAgent : State := managerSend s message

end Manager

/-! ## Steps -/

inductive Event where
  | created (owner : Owner)
  | freed (owner : Owner)
  | setServiceProperty (o : ObjId) (i : Service.Property) (message setting : Bool) (sending : Sending)
  | setTechnologyProperty (o : ObjId) (i : Technology.Property) (message setting : Bool) (sending : Sending)
  | callEmptyMethod (o : ObjId) (message sent : Bool)
  | scan (o : ObjId) (message : Bool) (sending : Sending)
  | init (message : Bool) (sending : Sending) (watch : Bool)
  | finalize
  | get (l : Listing) (cb message : Bool) (sending : Sending)
  | setOfflinemode (message sent : Bool)
  | registerAgent (message : Bool)
  | unregisterAgent (message : Bool)
  | reply (call : Nat) (r : Reply)

/-- The notify function of a slot, if what it reads is still there. -/
def notify (s : State) (call : Nat) (r : Reply) : Slot → Option State
  | .service o i => if .service o ∈ s.objects then some (setPropertyCb s (.service o i) r) else none
  | .technology o i => if .technology o ∈ s.objects then some (setPropertyCb s (.technology o i) r) else none
  | .scan o => if .technology o ∈ s.objects then some (scanCallback s call o) else none
  | .getProperties => if s.manager then some (getPropertiesCallback s call r) else none
  | .get l => if s.manager then some (getCallback s l call r) else none

/-- A step of the program.  A call completes once: it is no longer in flight when
its notify function runs. -/
def step (s : State) : Event → Option State
  | .created owner => if owner ∈ s.objects then none else some { s with objects := owner :: s.objects }
  | .freed owner => if owner ∈ s.objects then some (objectFree s owner) else none
  | .setServiceProperty o i message setting sending =>
    if .service o ∈ s.objects then some (setServiceProperty s message setting sending o i).1 else none
  | .setTechnologyProperty o i message setting sending =>
    if .technology o ∈ s.objects then some (setTechnologyProperty s message setting sending o i).1 else none
  | .callEmptyMethod o message sent =>
    if .service o ∈ s.objects then some (callEmptyMethod s message sent).1 else none
  | .scan o message sending =>
    if .technology o ∈ s.objects then some (connmanTechnologyScan s message sending o).1 else none
  | .init message sending watch => some (connmanManagerInit s message sending watch).1
  | .finalize => some (connmanManagerFinalize s)
  | .get l cb message sending => some (managerGet s message sending l cb).1
  | .setOfflinemode message sent => some (connmanManagerSetOfflinemode s message sent).1
  | .registerAgent message => some (connmanManagerRegisterAgent s message)
  | .unregisterAgent message => some (connmanManagerUnregisterAgent s message)
  | .reply call r =>
    (s.pending.lookup call).bind fun slot => notify (pendingCallCancel s call) call r slot

/-- What a slot belongs to is there: its object, or the manager. -/
def Slot.Live (s : State) : Slot → Prop
  | .service o _ => .service o ∈ s.objects
  | .technology o _ | .scan o => .technology o ∈ s.objects
  | .getProperties | .get _ => s.manager = true

/-- The references the code holds are those in the slots, which are live, and
none was released twice; no function runs, so no message is held. -/
def Balanced (s : State) : Prop :=
  s.messages.Balanced 0 ∧ s.calls.Balanced (Slots.contents s.slots) ∧
    ∀ slot : Slot, (s.slots.lookup slot).isSome = true → slot.Live s

end ConnmanUi.References
