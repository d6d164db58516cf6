import ConnmanUi.Pool
import ConnmanUi.Run

/-!
The manager's calls and watches (`lib/manager.c`).

The manager asks ConnMan for its properties, for the technologies and for the
services, and watches four signals.  A listing has one slot: a new request
cancels the call in flight and replaces the stored callback.  `history` is
bookkeeping the program does not have; it numbers the requests, and records
when a callback runs and for which reply.

A reply handler touches no state of the manager after it has called back, so
what the callback asks for in turn is a later event of the run.
-/

namespace ConnmanUi.ManagerCalls

open Run

/-- What ConnMan is asked to list. -/
inductive Listing where
  | technologies
  | services
  deriving DecidableEq

/-- The methods the manager calls. -/
inductive Method where
  | getProperties
  | get (l : Listing)
  deriving DecidableEq

/-- The signals the manager watches. -/
inductive Signal where
  | propertyChanged
  | technologyAdded
  | technologyRemoved
  | servicesChanged
  deriving DecidableEq

/-- How libdbus fares with a method call: all goes well, there is no memory for
the message, it is not sent, or the notify function cannot be set. -/
inductive Sending where
  | sent
  | noMessage
  | notSent
  | noNotify
  deriving DecidableEq

/-- A `DBusPendingCall`, and the request it was sent for. -/
structure PendingCall where
  method : Method
  /-- The reply handler is set. -/
  notified : Bool
  request : Nat

/-- `struct connman_manager`, as far as calls and watches go.  A slot is zero
for NULL; `signalCb` says which of `technology_added_cb`,
`technology_removed_cb` and `services_changed_cb` are there. -/
structure ConnmanManager (Cb : Type) where
  call : Method → Nat := fun _ => 0
  cb : Listing → Option Cb := fun _ => none
  wid : Signal → Nat := fun _ => 0
  signalCb : Signal → Bool := fun _ => false

/-- What happened to a listing. -/
inductive Entry (Cb : Type) where
  | requested (l : Listing) (request : Nat) (cb : Cb)
  | cancelled (l : Listing)
  | invoked (l : Listing) (request : Nat) (cb : Cb)
  | finalized

structure State (Cb : Type) where
  manager : Option (ConnmanManager Cb) := none
  calls : Pool PendingCall
  watches : Pool Signal
  nextRequest : Nat := 0
  /-- Newest first. -/
  history : List (Entry Cb) := []

variable {Cb : Type}

/-- A field of the manager is assigned. -/
def State.modify (s : State Cb) (f : ConnmanManager Cb → ConnmanManager Cb) : State Cb :=
  { s with manager := s.manager.map f }

def State.record (s : State Cb) (entry : Entry Cb) : State Cb := { s with history := entry :: s.history }

/-- A request gets the next number. -/
def State.noteRequest (s : State Cb) (l : Listing) (cb : Cb) : State Cb :=
  { s.record (.requested l s.nextRequest cb) with nextRequest := s.nextRequest + 1 }

/-- The call in a slot, zero for none. -/
def State.callSlot (s : State Cb) (m : Method) : Nat := s.manager.elim 0 fun a => a.call m

def State.wid (s : State Cb) (signal : Signal) : Nat := s.manager.elim 0 fun a => a.wid signal

/-- The callback stored for a listing, `none` for NULL. -/
def State.storedCb (s : State Cb) (l : Listing) : Option Cb := s.manager.bind fun a => a.cb l

/-- The call in a slot is cancelled, if there is one, and the slot emptied. -/
def cancelCall (s : State Cb) (m : Method) : State Cb :=
  { s.modify fun a => { a with call := Function.update a.call m 0 } with
    calls := s.calls.detach (s.callSlot m) }

/-- `g_dbus_remove_watch`, if the slot is not zero. -/
def removeWatch (s : State Cb) (signal : Signal) : State Cb :=
  { s.modify fun a => { a with wid := Function.update a.wid signal 0 } with
    watches := s.watches.detach (s.wid signal) }

/-- `g_dbus_add_signal_watch`, when it succeeds. -/
def addWatch (s : State Cb) (signal : Signal) : State Cb :=
  { s.modify fun a => { a with wid := Function.update a.wid signal s.watches.fresh } with
    watches := s.watches.attach signal }

/-- `manager->get_..._cb = cb`. -/
def storeCb (s : State Cb) (l : Listing) (cb : Option Cb) : State Cb :=
  s.modify fun a => { a with cb := Function.update a.cb l cb }

def setSignalCb (s : State Cb) (signal : Signal) (there : Bool) : State Cb :=
  s.modify fun a => { a with signalCb := Function.update a.signalCb signal there }

/-- A pending call comes back from libdbus. -/
def attachCall (s : State Cb) (call : PendingCall) : State Cb :=
  { s.modify fun a => { a with call := Function.update a.call call.method s.calls.fresh } with
    calls := s.calls.attach call }

/-- A message is made and sent, and the handler of its reply is set. -/
def sendCall (s : State Cb) (m : Method) (request : Nat) : Sending → State Cb × Int
  | .sent => (attachCall s ⟨m, true, request⟩, 0)
  | .noMessage => (s, -12)
  | .notSent => (s, -22)
  | .noNotify => (attachCall s ⟨m, false, request⟩, -22)

/-- What `__connman_manager_get_technologies` and
`__connman_manager_get_services` do, each with its own slot. -/
def managerGet (l : Listing) (s : State Cb) (cb : Option Cb) (sending : Sending) : State Cb × Int :=
  if s.manager.isNone then (s, -22)
  else
    let s := cancelCall (storeCb s l none) (.get l)
    match cb with
    | none => (s.record (.cancelled l), 0)
    | some cb =>
      let asked := s.noteRequest l cb
      if sending = .noMessage then (asked, -12)
      else sendCall (storeCb asked l (some cb)) (.get l) s.nextRequest sending

def connmanManagerGetTechnologies (s : State Cb) := managerGet .technologies s

def connmanManagerGetServices (s : State Cb) := managerGet .services s

/-- `__connman_manager_register_technology_signals`; the last two arguments say
whether each watch can be added. -/
def connmanManagerRegisterTechnologySignals (s : State Cb) (addedCb removedCb watchAdded watchRemoved : Bool) :
    State Cb × Int :=
  if s.manager.isNone then (s, -22)
  else
    let s := setSignalCb (setSignalCb s .technologyAdded false) .technologyRemoved false
    let s := removeWatch (removeWatch s .technologyAdded) .technologyRemoved
    if !addedCb && !removedCb then (s, 0)
    else if !watchAdded then (s, -22)
    else
      let s := addWatch s .technologyAdded
      if !watchRemoved then (removeWatch s .technologyAdded, -22)
      else
        let s := addWatch s .technologyRemoved
        (setSignalCb (setSignalCb s .technologyAdded addedCb) .technologyRemoved removedCb, 0)

/-- `__connman_manager_register_service_signal`. -/
def connmanManagerRegisterServiceSignal (s : State Cb) (cb watchChanged : Bool) : State Cb × Int :=
  if s.manager.isNone then (s, -22)
  else
    let s := removeWatch (setSignalCb s .servicesChanged false) .servicesChanged
    if !cb then (s, 0)
    else if !watchChanged then (s, -22)
    else (setSignalCb (addWatch s .servicesChanged) .servicesChanged true, 0)

/-- `connman_manager_finalize`: every call and watch goes, but for the watch of
ServicesChanged. -/
def connmanManagerFinalize (s : State Cb) : State Cb :=
  if s.manager.isNone then s
  else
    let s := removeWatch (cancelCall s .getProperties) .propertyChanged
    let s := cancelCall s (.get .technologies)
    let s := removeWatch (removeWatch s .technologyAdded) .technologyRemoved
    let s := cancelCall s (.get .services)
    { s with manager := none }.record .finalized

/-- What can fail in `connman_manager_init`. -/
structure InitOutcome where
  /-- `g_try_malloc0` has memory. -/
  memory : Bool := true
  sending : Sending := .sent
  /-- The PropertyChanged watch can be added. -/
  watch : Bool := true
  deriving DecidableEq

/-- `connman_manager_init`; `connman` says that `connman` is not NULL. -/
def connmanManagerInit (s : State Cb) (connman : Bool) (o : InitOutcome) : State Cb × Int :=
  if !connman then (s, -22)
  else if s.manager.isSome then (s, 0)
  else if !o.memory then (s, -12)
  else
    let sent := sendCall { s with manager := some {} } .getProperties 0 o.sending
    if sent.2 < 0 then (connmanManagerFinalize sent.1, sent.2)
    else if !o.watch then (connmanManagerFinalize sent.1, -22)
    else (addWatch sent.1 .propertyChanged, 0)

/-- A reply handler empties the slot and takes the callback out of it. -/
def takeCb (s : State Cb) (l : Listing) : State Cb :=
  s.modify fun a => { a with call := Function.update a.call (.get l) 0, cb := Function.update a.cb l none }

/-- `get_technologies_callback` and `get_services_callback`, up to the callback
they end with; `args` says that the reply has arguments, as error replies have
too. -/
def getCallback (s : State Cb) (l : Listing) (request : Nat) (args : Bool) : State Cb × Option Cb :=
  match s.storedCb l, args with
  | some cb, true => ((takeCb s l).record (.invoked l request cb), some cb)
  | _, _ => (takeCb s l, none)

/-- A pending call completes.  Its handler reads `manager`, so without one the
program is gone; a call without a handler keeps its reply and tells nobody. -/
def reply (s : State Cb) (h : Nat) (args : Bool) : Option (State Cb × Option (Listing × Cb)) := do
  let call ← s.calls.find h
  if !call.notified then some (s, none)
  else
    let _ ← s.manager
    let s := { s with calls := s.calls.detach h }
    match call.method with
    | .getProperties => some (s.modify fun a => { a with call := Function.update a.call .getProperties 0 }, none)
    | .get l =>
      let handled := getCallback s l call.request args
      some (handled.1, handled.2.map fun cb => (l, cb))

inductive Event (Cb : Type) where
  | init (connman : Bool) (o : InitOutcome)
  | finalize
  | get (l : Listing) (cb : Option Cb) (sending : Sending)
  | registerTechnologySignals (addedCb removedCb watchAdded watchRemoved : Bool)
  | registerServiceSignal (cb watchChanged : Bool)
  | reply (h : Nat) (args : Bool)

def step (s : State Cb) : Event Cb → Option (State Cb)
  | .init connman o => some (connmanManagerInit s connman o).1
  | .finalize => some (connmanManagerFinalize s)
  | .get .technologies cb sending => some (connmanManagerGetTechnologies s cb sending).1
  | .get .services cb sending => some (connmanManagerGetServices s cb sending).1
  | .registerTechnologySignals addedCb removedCb watchAdded watchRemoved =>
    some (connmanManagerRegisterTechnologySignals s addedCb removedCb watchAdded watchRemoved).1
  | .registerServiceSignal cb watchChanged => some (connmanManagerRegisterServiceSignal s cb watchChanged).1
  | .reply h args => (reply s h args).map Prod.fst

/-- The program just started. -/
def Boot (s : State Cb) : Prop :=
  s.manager = none ∧ s.calls.live = [] ∧ s.watches.live = [] ∧ s.history = []

variable {s s' : State Cb} {e : Event Cb} {l : Listing} {m : Method} {h : Nat} {cb : Option Cb} {sending : Sending}

/-! ## Slots -/

/-- A call slot holds exactly the call made for it; without a manager no call
is left. -/
def Slotted (s : State Cb) : Prop := s.calls.Tracks (fun call => some call.method) s.callSlot

section Projections
variable (signal : Signal) (entry : Entry Cb) (there : Bool)

@[simp] theorem callSlot_record : (s.record entry).callSlot = s.callSlot := rfl
@[simp] theorem storedCb_record : (s.record entry).storedCb = s.storedCb := rfl
@[simp] theorem calls_record : (s.record entry).calls = s.calls := rfl
@[simp] theorem manager_record : (s.record entry).manager = s.manager := rfl
@[simp] theorem history_record : (s.record entry).history = entry :: s.history := rfl
@[simp] theorem callSlot_noteRequest (cb : Cb) : (s.noteRequest l cb).callSlot = s.callSlot := rfl
@[simp] theorem storedCb_noteRequest (cb : Cb) : (s.noteRequest l cb).storedCb = s.storedCb := rfl
@[simp] theorem calls_noteRequest (cb : Cb) : (s.noteRequest l cb).calls = s.calls := rfl
@[simp] theorem manager_noteRequest (cb : Cb) : (s.noteRequest l cb).manager = s.manager := rfl
@[simp] theorem calls_modify (f : ConnmanManager Cb → ConnmanManager Cb) : (s.modify f).calls = s.calls := rfl
@[simp] theorem history_modify (f : ConnmanManager Cb → ConnmanManager Cb) : (s.modify f).history = s.history := rfl
@[simp] theorem isNone_modify (f : ConnmanManager Cb → ConnmanManager Cb) :
    (s.modify f).manager.isNone = s.manager.isNone := by simp [State.modify]

@[simp] theorem isNone_cancelCall : (cancelCall s m).manager.isNone = s.manager.isNone := isNone_modify _
@[simp] theorem isNone_storeCb : (storeCb s l cb).manager.isNone = s.manager.isNone := isNone_modify _
@[simp] theorem isNone_attachCall (call : PendingCall) : (attachCall s call).manager.isNone = s.manager.isNone :=
  isNone_modify _
@[simp] theorem isNone_removeWatch : (removeWatch s signal).manager.isNone = s.manager.isNone := isNone_modify _
@[simp] theorem isNone_addWatch : (addWatch s signal).manager.isNone = s.manager.isNone := isNone_modify _
@[simp] theorem isNone_setSignalCb : (setSignalCb s signal there).manager.isNone = s.manager.isNone := isNone_modify _

/-- Assigning a field that is not a call slot. -/
theorem callSlot_modify {f : ConnmanManager Cb → ConnmanManager Cb} (same : ∀ a, (f a).call = a.call) :
    (s.modify f).callSlot = s.callSlot := by
  funext m
  cases manager : s.manager <;> simp [State.callSlot, State.modify, manager, same]

theorem storedCb_modify {f : ConnmanManager Cb → ConnmanManager Cb} (same : ∀ a, (f a).cb = a.cb) :
    (s.modify f).storedCb = s.storedCb := by
  funext l
  cases manager : s.manager <;> simp [State.storedCb, State.modify, manager, same]

@[simp] theorem callSlot_removeWatch : (removeWatch s signal).callSlot = s.callSlot := callSlot_modify fun _ => rfl
@[simp] theorem callSlot_addWatch : (addWatch s signal).callSlot = s.callSlot := callSlot_modify fun _ => rfl
@[simp] theorem callSlot_setSignalCb : (setSignalCb s signal there).callSlot = s.callSlot := callSlot_modify fun _ => rfl
@[simp] theorem callSlot_storeCb : (storeCb s l cb).callSlot = s.callSlot := callSlot_modify fun _ => rfl
@[simp] theorem calls_removeWatch : (removeWatch s signal).calls = s.calls := rfl
@[simp] theorem calls_addWatch : (addWatch s signal).calls = s.calls := rfl
@[simp] theorem calls_setSignalCb : (setSignalCb s signal there).calls = s.calls := rfl
@[simp] theorem calls_storeCb : (storeCb s l cb).calls = s.calls := rfl
@[simp] theorem storedCb_removeWatch : (removeWatch s signal).storedCb = s.storedCb := storedCb_modify fun _ => rfl
@[simp] theorem storedCb_addWatch : (addWatch s signal).storedCb = s.storedCb := storedCb_modify fun _ => rfl
@[simp] theorem storedCb_setSignalCb : (setSignalCb s signal there).storedCb = s.storedCb := storedCb_modify fun _ => rfl
@[simp] theorem storedCb_cancelCall : (cancelCall s m).storedCb = s.storedCb := storedCb_modify fun _ => rfl
@[simp] theorem storedCb_attachCall (call : PendingCall) : (attachCall s call).storedCb = s.storedCb :=
  storedCb_modify fun _ => rfl

/-- Emptying a call slot. -/
theorem callSlot_empty {f : ConnmanManager Cb → ConnmanManager Cb}
    (empties : ∀ a, (f a).call = Function.update a.call m 0) :
    (s.modify f).callSlot = Function.update s.callSlot m 0 := by
  funext m'
  by_cases same : m' = m
  · cases manager : s.manager <;> simp [State.callSlot, State.modify, manager, empties, same]
  · cases manager : s.manager <;> simp [State.callSlot, State.modify, manager, empties, same]

/-- Clearing a stored callback. -/
theorem storedCb_clear {f : ConnmanManager Cb → ConnmanManager Cb}
    (clears : ∀ a, (f a).cb = Function.update a.cb l none) :
    (s.modify f).storedCb = Function.update s.storedCb l none := by
  funext l'
  by_cases same : l' = l
  · cases manager : s.manager <;> simp [State.storedCb, State.modify, manager, clears, same]
  · cases manager : s.manager <;> simp [State.storedCb, State.modify, manager, clears, same]

@[simp] theorem callSlot_cancelCall : (cancelCall s m).callSlot = Function.update s.callSlot m 0 :=
  callSlot_empty fun _ => rfl

theorem callSlot_attachCall (up : s.manager.isNone = false) (call : PendingCall) :
    (attachCall s call).callSlot = Function.update s.callSlot call.method s.calls.fresh := by
  obtain ⟨a, manager⟩ := Option.isSome_iff_exists.mp (Option.isNone_eq_false_iff.mp up)
  funext m
  by_cases same : m = call.method
  · simp [State.callSlot, attachCall, State.modify, manager, same]
  · simp [State.callSlot, attachCall, State.modify, manager, same]

theorem storedCb_storeCb (up : s.manager.isNone = false) :
    (storeCb s l cb).storedCb = Function.update s.storedCb l cb := by
  obtain ⟨a, manager⟩ := Option.isSome_iff_exists.mp (Option.isNone_eq_false_iff.mp up)
  funext l'
  by_cases same : l' = l
  · subst same
    simp [State.storedCb, storeCb, State.modify, manager]
  · simp [State.storedCb, storeCb, State.modify, manager, same]

end Projections

theorem Slotted.of_eq (slotted : Slotted s) (calls : s'.calls = s.calls) (slot : s'.callSlot = s.callSlot) :
    Slotted s' := by
  unfold Slotted
  rw [calls, slot]
  exact slotted

theorem Slotted.cancelCall (slotted : Slotted s) (m : Method) : Slotted (cancelCall s m) := by
  unfold Slotted
  rw [callSlot_cancelCall]
  exact slotted.detach m

theorem Slotted.attachCall (slotted : Slotted s) (up : s.manager.isNone = false) {call : PendingCall}
    (free : s.callSlot call.method = 0) : Slotted (attachCall s call) := by
  unfold Slotted
  rw [callSlot_attachCall up]
  exact slotted.attach rfl free

theorem Slotted.sendCall (slotted : Slotted s) (up : s.manager.isNone = false) (free : s.callSlot m = 0)
    (request : Nat) (sending : Sending) : Slotted (sendCall s m request sending).1 := by
  cases sending with
  | sent => exact slotted.attachCall up free
  | noMessage => exact slotted
  | notSent => exact slotted
  | noNotify => exact slotted.attachCall up free

theorem Slotted.managerGet (slotted : Slotted s) (l : Listing) (cb : Option Cb) (sending : Sending) :
    Slotted (managerGet l s cb sending).1 := by
  unfold ManagerCalls.managerGet
  split
  case isTrue => exact slotted
  case isFalse up =>
    rw [Bool.not_eq_true] at up
    have cancelled : Slotted (ManagerCalls.cancelCall (storeCb s l none) (.get l)) :=
      (slotted.of_eq (calls_storeCb ..) (callSlot_storeCb ..)).cancelCall (.get l)
    cases cb with
    | none => exact cancelled
    | some cb =>
      dsimp only
      split
      · exact cancelled
      · apply Slotted.sendCall
        · exact cancelled.of_eq rfl (by simp)
        · simpa using up
        · simp

theorem callSlot_down (down : s.manager = none) : s.callSlot = fun _ => 0 := by
  funext m
  rw [State.callSlot, down]
  rfl

/-- Without a manager no call is in flight. -/
theorem Slotted.find_down (slotted : Slotted s) (down : s.manager = none) (h : Nat) : s.calls.find h = none := by
  cases found : s.calls.find h with
  | none => rfl
  | some call =>
    have stored := slotted.stored h call call.method found rfl
    rw [callSlot_down down] at stored
    exact absurd stored.symm (Pool.ne_zero_of_find found)

theorem Slotted.finalize (slotted : Slotted s) : Slotted (connmanManagerFinalize s) := by
  unfold connmanManagerFinalize
  split
  case isTrue => exact slotted
  case isFalse =>
    have properties := slotted.cancelCall .getProperties
    have technologies := Slotted.cancelCall (s := removeWatch (ManagerCalls.cancelCall s .getProperties) .propertyChanged)
      (properties.of_eq rfl (callSlot_removeWatch _)) (.get .technologies)
    have services := Slotted.cancelCall (s := removeWatch (removeWatch (ManagerCalls.cancelCall
      (removeWatch (ManagerCalls.cancelCall s .getProperties) .propertyChanged) (.get .technologies))
      .technologyAdded) .technologyRemoved) (technologies.of_eq rfl (by simp)) (.get .services)
    refine services.congr fun m => ?_
    simp only [callSlot_cancelCall, callSlot_removeWatch, callSlot_record]
    rw [callSlot_down rfl]
    rcases m with _ | _ | _ <;> rfl

/-- Two states with the same calls, slots, callbacks and history. -/
structure SameCalls (s s' : State Cb) : Prop where
  calls : s'.calls = s.calls
  callSlot : s'.callSlot = s.callSlot
  storedCb : s'.storedCb = s.storedCb
  history : s'.history = s.history

theorem SameCalls.refl (s : State Cb) : SameCalls s s := ⟨rfl, rfl, rfl, rfl⟩

theorem SameCalls.trans {s'' : State Cb} (first : SameCalls s s') (second : SameCalls s' s'') : SameCalls s s'' where
  calls := second.calls.trans first.calls
  callSlot := second.callSlot.trans first.callSlot
  storedCb := second.storedCb.trans first.storedCb
  history := second.history.trans first.history

theorem sameCalls_removeWatch (signal : Signal) : SameCalls s (removeWatch s signal) :=
  ⟨rfl, callSlot_removeWatch _, storedCb_removeWatch _, rfl⟩

theorem sameCalls_addWatch (signal : Signal) : SameCalls s (addWatch s signal) :=
  ⟨rfl, callSlot_addWatch _, storedCb_addWatch _, rfl⟩

theorem sameCalls_setSignalCb (signal : Signal) (there : Bool) : SameCalls s (setSignalCb s signal there) :=
  ⟨rfl, callSlot_setSignalCb .., storedCb_setSignalCb .., rfl⟩

theorem sameCalls_registerTechnologySignals (addedCb removedCb watchAdded watchRemoved : Bool) :
    SameCalls s (connmanManagerRegisterTechnologySignals s addedCb removedCb watchAdded watchRemoved).1 := by
  unfold connmanManagerRegisterTechnologySignals
  split
  · exact .refl s
  · have dropped := (sameCalls_setSignalCb (s := s) .technologyAdded false).trans
      (sameCalls_setSignalCb .technologyRemoved false)
    have removed := dropped.trans ((sameCalls_removeWatch .technologyAdded).trans (sameCalls_removeWatch .technologyRemoved))
    have added := removed.trans (sameCalls_addWatch .technologyAdded)
    split
    · exact removed
    · split
      · exact removed
      · split
        · exact added.trans (sameCalls_removeWatch _)
        · exact added.trans ((sameCalls_addWatch _).trans ((sameCalls_setSignalCb ..).trans (sameCalls_setSignalCb ..)))

theorem sameCalls_registerServiceSignal (cb watchChanged : Bool) :
    SameCalls s (connmanManagerRegisterServiceSignal s cb watchChanged).1 := by
  unfold connmanManagerRegisterServiceSignal
  split
  · exact .refl s
  · have removed := (sameCalls_setSignalCb (s := s) .servicesChanged false).trans (sameCalls_removeWatch .servicesChanged)
    split
    · exact removed
    · split
      · exact removed
      · exact removed.trans ((sameCalls_addWatch _).trans (sameCalls_setSignalCb ..))

theorem Slotted.init (slotted : Slotted s) (connman : Bool) (o : InitOutcome) :
    Slotted (connmanManagerInit s connman o).1 := by
  unfold connmanManagerInit
  split
  · exact slotted
  split
  · exact slotted
  case isFalse down =>
    split
    · exact slotted
    have empty : s.callSlot = fun _ => 0 := callSlot_down (by simpa using down)
    have fresh : Slotted { s with manager := some {} } := slotted.of_eq rfl empty.symm
    have sent : Slotted (ManagerCalls.sendCall { s with manager := some {} } .getProperties 0 o.sending).1 :=
      fresh.sendCall rfl rfl 0 o.sending
    dsimp only
    split
    · exact sent.finalize
    · split
      · exact sent.finalize
      · exact sent.of_eq rfl (callSlot_addWatch _)

/-- What a reply does: a call without a handler keeps it; otherwise the slot of
the method is emptied, and for a listing the callback is taken out and runs if
the reply has arguments. -/
inductive Handled (s : State Cb) (h : Nat) (s' : State Cb) (called : Option (Listing × Cb)) : Prop where
  | kept (call : PendingCall) (found : s.calls.find h = some call) (mute : call.notified = false) (same : s' = s)
      (quiet : called = none)
  | properties (call : PendingCall) (found : s.calls.find h = some call) (method : call.method = .getProperties)
      (calls : s'.calls = s.calls.detach h) (slots : s'.callSlot = Function.update s.callSlot call.method 0)
      (up : s'.manager.isNone = false)
      (stored : s'.storedCb = s.storedCb) (history : s'.history = s.history) (quiet : called = none)
  | listing (l : Listing) (call : PendingCall) (found : s.calls.find h = some call) (method : call.method = .get l)
      (calls : s'.calls = s.calls.detach h) (slots : s'.callSlot = Function.update s.callSlot call.method 0)
      (up : s'.manager.isNone = false)
      (stored : s'.storedCb = Function.update s.storedCb l none)
      (history : called = none ∧ s'.history = s.history ∨
        ∃ cb, s.storedCb l = some cb ∧ called = some (l, cb) ∧ s'.history = .invoked l call.request cb :: s.history)

theorem reply_handled {args : Bool} {called : Option (Listing × Cb)} (ran : reply s h args = some (s', called)) :
    Handled s h s' called := by
  unfold reply at ran
  obtain ⟨call, found, ran⟩ := Option.bind_eq_some_iff.mp ran
  cases notified : call.notified with
  | false =>
    rw [notified] at ran
    cases ran
    exact .kept call found notified rfl rfl
  | true =>
    rw [notified] at ran
    obtain ⟨a, manager, ran⟩ := Option.bind_eq_some_iff.mp ran
    cases method : call.method with
    | getProperties =>
      rw [method] at ran
      cases ran
      refine .properties call found method rfl ?_ ?_ ?_ rfl rfl
      · rw [method]
        exact callSlot_empty fun _ => rfl
      · simp [State.modify, manager]
      · exact storedCb_modify fun _ => rfl
    | get l =>
      rw [method] at ran
      cases ran
      have slots : (takeCb { s with calls := s.calls.detach h } l).callSlot = Function.update s.callSlot (.get l) 0 :=
        callSlot_empty fun _ => rfl
      have stored : (takeCb { s with calls := s.calls.detach h } l).storedCb = Function.update s.storedCb l none :=
        storedCb_clear fun _ => rfl
      have up : (takeCb { s with calls := s.calls.detach h } l).manager.isNone = false := by
        simp [takeCb, State.modify, manager]
      unfold getCallback
      split
      case h_1 cb known _ =>
        exact .listing l call found method rfl (method ▸ slots) up stored (.inr ⟨cb, known, rfl, rfl⟩)
      case h_2 => exact .listing l call found method rfl (method ▸ slots) up stored (.inl ⟨rfl, rfl⟩)

theorem Slotted.handled (slotted : Slotted s) {called : Option (Listing × Cb)} (handled : Handled s h s' called) :
    Slotted s' := by
  cases handled with
  | kept call found mute same quiet => exact same ▸ slotted
  | properties call found method calls slots | listing l call found method calls slots =>
    have emptied := slotted.detach call.method
    rw [slotted.stored h call call.method found rfl] at emptied
    unfold Slotted
    rw [calls, slots]
    exact emptied

theorem boot_slotted (boot : Boot s) : Slotted s := by
  obtain ⟨down, calls, _, _⟩ := boot
  unfold Slotted
  rw [callSlot_down down]
  refine ⟨fun m used => absurd rfl used, fun h call m found => ?_⟩
  rw [Pool.find, calls] at found
  cases found

/-! ## Watches -/

/-- A watch slot holds exactly the watch added for it. -/
def Watched (s : State Cb) : Prop := s.watches.Tracks some s.wid

/-- Two states with the same watches in the same slots. -/
structure SameWatches (s s' : State Cb) : Prop where
  watches : s'.watches = s.watches
  wid : s'.wid = s.wid

theorem SameWatches.refl (s : State Cb) : SameWatches s s := ⟨rfl, rfl⟩

theorem SameWatches.trans {s'' : State Cb} (first : SameWatches s s') (second : SameWatches s' s'') :
    SameWatches s s'' :=
  ⟨second.watches.trans first.watches, second.wid.trans first.wid⟩

/-- Assigning a field that is not a watch slot. -/
theorem wid_modify {f : ConnmanManager Cb → ConnmanManager Cb} (same : ∀ a, (f a).wid = a.wid) :
    (s.modify f).wid = s.wid := by
  funext signal
  cases manager : s.manager <;> simp [State.wid, State.modify, manager, same]

theorem sameWatches_cancelCall (m : Method) : SameWatches s (cancelCall s m) := ⟨rfl, wid_modify fun _ => rfl⟩

theorem sameWatches_storeCb : SameWatches s (storeCb s l cb) := ⟨rfl, wid_modify fun _ => rfl⟩

theorem sameWatches_attachCall (call : PendingCall) : SameWatches s (attachCall s call) :=
  ⟨rfl, wid_modify fun _ => rfl⟩

theorem sameWatches_setSignalCb (signal : Signal) (there : Bool) : SameWatches s (setSignalCb s signal there) :=
  ⟨rfl, wid_modify fun _ => rfl⟩

theorem sameWatches_sendCall (m : Method) (request : Nat) (sending : Sending) :
    SameWatches s (sendCall s m request sending).1 := by
  cases sending with
  | sent => exact sameWatches_attachCall _
  | noMessage => exact .refl s
  | notSent => exact .refl s
  | noNotify => exact sameWatches_attachCall _

theorem sameWatches_managerGet (l : Listing) (cb : Option Cb) (sending : Sending) :
    SameWatches s (managerGet l s cb sending).1 := by
  unfold managerGet
  split
  · exact .refl s
  · have cancelled : SameWatches s (cancelCall (storeCb s l none) (.get l)) :=
      sameWatches_storeCb.trans (sameWatches_cancelCall (.get l))
    cases cb with
    | none => exact ⟨cancelled.watches, cancelled.wid⟩
    | some cb =>
      have asked : SameWatches s ((cancelCall (storeCb s l none) (.get l)).noteRequest l cb) :=
        ⟨cancelled.watches, cancelled.wid⟩
      dsimp only
      split
      · exact asked
      · exact asked.trans (sameWatches_storeCb.trans (sameWatches_sendCall ..))

theorem Watched.of_same (watched : Watched s) (same : SameWatches s s') : Watched s' := by
  unfold Watched
  rw [same.watches, same.wid]
  exact watched

theorem wid_removeWatch (signal : Signal) : (removeWatch s signal).wid = Function.update s.wid signal 0 := by
  funext signal'
  by_cases same : signal' = signal
  · cases manager : s.manager <;> simp [State.wid, removeWatch, State.modify, manager, same]
  · cases manager : s.manager <;> simp [State.wid, removeWatch, State.modify, manager, same]

theorem wid_addWatch (up : s.manager.isNone = false) (signal : Signal) :
    (addWatch s signal).wid = Function.update s.wid signal s.watches.fresh := by
  obtain ⟨a, manager⟩ := Option.isSome_iff_exists.mp (Option.isNone_eq_false_iff.mp up)
  funext signal'
  by_cases same : signal' = signal
  · simp [State.wid, addWatch, State.modify, manager, same]
  · simp [State.wid, addWatch, State.modify, manager, same]

theorem Watched.removeWatch (watched : Watched s) (signal : Signal) : Watched (removeWatch s signal) := by
  unfold Watched
  rw [wid_removeWatch]
  exact watched.detach signal

theorem Watched.addWatch (watched : Watched s) (up : s.manager.isNone = false) (signal : Signal)
    (free : s.wid signal = 0) : Watched (addWatch s signal) := by
  unfold Watched
  rw [wid_addWatch up]
  exact watched.attach rfl free

/-- What registering for signals keeps: the watches are in their slots, and the
slots of other signals are left alone. -/
theorem Watched.registerTechnologySignals (watched : Watched s) (addedCb removedCb watchAdded watchRemoved : Bool) :
    Watched (connmanManagerRegisterTechnologySignals s addedCb removedCb watchAdded watchRemoved).1 ∧
      (connmanManagerRegisterTechnologySignals s addedCb removedCb watchAdded watchRemoved).1.wid .servicesChanged =
        s.wid .servicesChanged := by
  unfold connmanManagerRegisterTechnologySignals
  split
  case isTrue => exact ⟨watched, rfl⟩
  case isFalse up =>
    rw [Bool.not_eq_true] at up
    have quiet := (sameWatches_setSignalCb (s := s) .technologyAdded false).trans
      (sameWatches_setSignalCb .technologyRemoved false)
    have dropped := ((watched.of_same quiet).removeWatch .technologyAdded).removeWatch .technologyRemoved
    have slots : (ManagerCalls.removeWatch (ManagerCalls.removeWatch (setSignalCb (setSignalCb s .technologyAdded false)
        .technologyRemoved false) .technologyAdded) .technologyRemoved).wid =
        Function.update (Function.update s.wid .technologyAdded 0) .technologyRemoved 0 := by
      rw [wid_removeWatch, wid_removeWatch, quiet.wid]
    have stays : (ManagerCalls.removeWatch (ManagerCalls.removeWatch (setSignalCb (setSignalCb s .technologyAdded false)
        .technologyRemoved false) .technologyAdded) .technologyRemoved).manager.isNone = false := by
      simpa using up
    dsimp only
    generalize ManagerCalls.removeWatch (ManagerCalls.removeWatch (setSignalCb (setSignalCb s .technologyAdded false)
      .technologyRemoved false) .technologyAdded) .technologyRemoved = t at dropped slots stays ⊢
    have added := dropped.addWatch stays .technologyAdded (by simp [slots])
    split
    · exact ⟨dropped, by simp [slots]⟩
    split
    · exact ⟨dropped, by simp [slots]⟩
    split
    · exact ⟨added.removeWatch .technologyAdded, by simp [wid_removeWatch, wid_addWatch stays, slots]⟩
    · have both := added.addWatch (by simpa using stays) .technologyRemoved
        (by simp [wid_addWatch stays, slots])
      have told : SameWatches (ManagerCalls.addWatch (ManagerCalls.addWatch t .technologyAdded) .technologyRemoved) _ :=
        (sameWatches_setSignalCb .technologyAdded addedCb).trans (sameWatches_setSignalCb .technologyRemoved removedCb)
      refine ⟨both.of_same told, ?_⟩
      rw [told.wid, wid_addWatch (by simpa using stays), wid_addWatch stays, slots]
      simp

theorem Watched.registerServiceSignal (watched : Watched s) (cb watchChanged : Bool) :
    Watched (connmanManagerRegisterServiceSignal s cb watchChanged).1 ∧
      (cb = false → (connmanManagerRegisterServiceSignal s cb watchChanged).1.wid .servicesChanged = 0) := by
  unfold connmanManagerRegisterServiceSignal
  split
  case isTrue down =>
    refine ⟨watched, fun _ => ?_⟩
    rw [State.wid, Option.isNone_iff_eq_none.mp down]
    rfl
  case isFalse up =>
    rw [Bool.not_eq_true] at up
    have dropped := (watched.of_same (sameWatches_setSignalCb .servicesChanged false)).removeWatch .servicesChanged
    have empty : (ManagerCalls.removeWatch (setSignalCb s .servicesChanged false) .servicesChanged).wid .servicesChanged = 0 := by
      simp [wid_removeWatch]
    dsimp only
    split
    · exact ⟨dropped, fun _ => empty⟩
    case isFalse there =>
      split
      · exact ⟨dropped, fun _ => empty⟩
      · refine ⟨(dropped.addWatch (by simpa using up) .servicesChanged empty).of_same (sameWatches_setSignalCb ..), fun gone => ?_⟩
        rw [gone] at there
        exact absurd rfl there

theorem wid_down (down : s.manager = none) : s.wid = fun _ => 0 := by
  funext signal
  rw [State.wid, down]
  rfl

/-- Without a manager no watch is left. -/
theorem Watched.find_down (watched : Watched s) (down : s.manager = none) (h : Nat) : s.watches.find h = none := by
  cases found : s.watches.find h with
  | none => rfl
  | some signal =>
    have stored := watched.stored h signal signal found rfl
    rw [wid_down down] at stored
    exact absurd stored.symm (Pool.ne_zero_of_find found)

theorem manager_finalize : (connmanManagerFinalize s).manager = none := by
  unfold connmanManagerFinalize
  split
  case isTrue down => exact Option.isNone_iff_eq_none.mp down
  case isFalse => rfl

theorem wid_finalize : (connmanManagerFinalize s).wid = fun _ => 0 := by
  unfold connmanManagerFinalize
  split
  case isTrue down => exact wid_down (Option.isNone_iff_eq_none.mp down)
  case isFalse => exact wid_down rfl

/-- Finalizing the manager leaves no watch, if that of ServicesChanged is gone
already. -/
theorem Watched.finalize (watched : Watched s) (closed : s.wid .servicesChanged = 0) :
    Watched (connmanManagerFinalize s) := by
  unfold connmanManagerFinalize
  split
  case isTrue => exact watched
  case isFalse =>
    have properties := (watched.of_same (sameWatches_cancelCall .getProperties)).removeWatch .propertyChanged
    have added := (properties.of_same (sameWatches_cancelCall (.get .technologies))).removeWatch .technologyAdded
    have services := (added.removeWatch .technologyRemoved).of_same (sameWatches_cancelCall (.get .services))
    refine services.congr fun signal => ?_
    rw [wid_down rfl, (sameWatches_cancelCall _).wid, wid_removeWatch, wid_removeWatch, (sameWatches_cancelCall _).wid,
      wid_removeWatch, (sameWatches_cancelCall _).wid]
    cases signal <;> simp [closed]

theorem Watched.init (watched : Watched s) (connman : Bool) (o : InitOutcome) :
    Watched (connmanManagerInit s connman o).1 ∧
      (connmanManagerInit s connman o).1.wid .servicesChanged = s.wid .servicesChanged := by
  unfold connmanManagerInit
  split
  · exact ⟨watched, rfl⟩
  split
  · exact ⟨watched, rfl⟩
  case isFalse down =>
    split
    · exact ⟨watched, rfl⟩
    have empty : s.wid = fun _ => 0 := wid_down (by simpa using down)
    have started : SameWatches s { s with manager := some {} } := ⟨rfl, empty.symm⟩
    have sent := started.trans (sameWatches_sendCall .getProperties 0 o.sending)
    have up : (sendCall { s with manager := some {} } .getProperties 0 o.sending).1.manager.isNone = false := by
      cases o.sending <;> rfl
    have closed : (sendCall { s with manager := some {} } .getProperties 0 o.sending).1.wid .servicesChanged = 0 := by
      rw [sent.wid, empty]
    dsimp only
    split
    · exact ⟨(watched.of_same sent).finalize closed, by rw [wid_finalize, empty]⟩
    · split
      · exact ⟨(watched.of_same sent).finalize closed, by rw [wid_finalize, empty]⟩
      · refine ⟨(watched.of_same sent).addWatch up .propertyChanged (by rw [sent.wid, empty]), ?_⟩
        rw [wid_addWatch up, Function.update_of_ne (by decide), sent.wid]

theorem sameWatches_reply {called : Option (Listing × Cb)} {args : Bool}
    (ran : reply s h args = some (s', called)) : SameWatches s s' := by
  unfold reply at ran
  obtain ⟨call, _, ran⟩ := Option.bind_eq_some_iff.mp ran
  split at ran
  · cases ran
    exact .refl s
  · obtain ⟨a, _, ran⟩ := Option.bind_eq_some_iff.mp ran
    have emptied : ∀ (l : Listing), SameWatches s (takeCb { s with calls := s.calls.detach h } l) := fun _ =>
      ⟨rfl, wid_modify (s := { s with calls := s.calls.detach h }) fun _ => rfl⟩
    cases method : call.method with
    | getProperties =>
      rw [method] at ran
      cases ran
      exact ⟨rfl, wid_modify (s := { s with calls := s.calls.detach h }) fun _ => rfl⟩
    | get l =>
      rw [method] at ran
      cases ran
      unfold getCallback
      split
      · exact ⟨rfl, (emptied l).wid⟩
      · exact emptied l

/-! ## What success means -/

/-- A call of this method is in flight, with its handler, in its slot. -/
def Calling (s : State Cb) (m : Method) : Prop :=
  ∃ request, s.calls.find (s.callSlot m) = some ⟨m, true, request⟩

theorem attachCall_calling (up : s.manager.isNone = false) (m : Method) (request : Nat) :
    Calling (attachCall s ⟨m, true, request⟩) m := by
  refine ⟨request, ?_⟩
  rw [callSlot_attachCall up, Function.update_self]
  exact (Pool.find_attach ..).trans (if_pos rfl)

/-- Asking for a listing fails without a manager, or when sending fails. -/
theorem managerGet_fails (l : Listing) (s : State Cb) (cb : Cb) (sending : Sending) :
    (managerGet l s (some cb) sending).2 < 0 ↔ s.manager = none ∨ sending ≠ .sent := by
  unfold managerGet
  split
  case isTrue down => simp [Option.isNone_iff_eq_none.mp down]
  case isFalse up =>
    have there : s.manager ≠ none := by simpa using up
    cases sending <;> simp [sendCall, there]

theorem managerGet_calling (cb : Cb) (sent : 0 ≤ (managerGet l s (some cb) sending).2) :
    Calling (managerGet l s (some cb) sending).1 (.get l) ∧
      (managerGet l s (some cb) sending).1.storedCb l = some cb := by
  have succeeded := (managerGet_fails l s cb sending).not.mp (Int.not_lt.mpr sent)
  rw [not_or, not_not] at succeeded
  obtain ⟨there, rfl⟩ := succeeded
  have up : s.manager.isNone = false := Option.isNone_eq_false_iff.mpr (Option.isSome_iff_ne_none.mpr there)
  unfold managerGet
  rw [up, if_neg Bool.false_ne_true]
  dsimp only
  rw [if_neg nofun]
  refine ⟨attachCall_calling (by simpa using up) _ _, ?_⟩
  rw [sendCall, storedCb_attachCall, storedCb_storeCb (by simpa using up), Function.update_self]

/-- Over a NULL manager, an init that fails leaves it NULL, and one that does not
has asked for the properties and watches them. -/
theorem connmanManagerInit_cases (connman : Bool) (o : InitOutcome) (null : s.manager = none) :
    (connmanManagerInit s connman o).2 < 0 ∧ (connmanManagerInit s connman o).1.manager = none ∨
    0 ≤ (connmanManagerInit s connman o).2 ∧ Calling (connmanManagerInit s connman o).1 .getProperties ∧
      (connmanManagerInit s connman o).1.watches.find ((connmanManagerInit s connman o).1.wid .propertyChanged) =
        some .propertyChanged := by
  unfold connmanManagerInit
  split
  · exact .inl ⟨show (-22 : Int) < 0 by decide, null⟩
  rw [if_neg (by simp [null])]
  split
  · exact .inl ⟨show (-12 : Int) < 0 by decide, null⟩
  · dsimp only
    cases sending : o.sending with
    | noMessage => exact .inl ⟨show (-12 : Int) < 0 by decide, manager_finalize⟩
    | notSent => exact .inl ⟨show (-22 : Int) < 0 by decide, manager_finalize⟩
    | noNotify => exact .inl ⟨show (-22 : Int) < 0 by decide, manager_finalize⟩
    | sent =>
      rw [sendCall, if_neg (Int.lt_irrefl 0)]
      split
      · exact .inl ⟨show (-22 : Int) < 0 by decide, manager_finalize⟩
      · refine .inr ⟨Int.le_refl 0, ?_, ?_⟩
        · obtain ⟨request, found⟩ := attachCall_calling (s := { s with manager := some {} }) rfl .getProperties 0
          exact ⟨request, by rw [callSlot_addWatch, calls_addWatch]; exact found⟩
        · rw [wid_addWatch rfl, Function.update_self]
          exact (Pool.find_attach ..).trans (if_pos rfl)

end ConnmanUi.ManagerCalls
