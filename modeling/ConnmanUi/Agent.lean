import Mathlib.Logic.Function.Basic
import ConnmanUi.Run

/-!
The agent object and the dialogs that answer for it (`lib/agent.c`,
`src/agent_dialogs.c`).

ConnMan calls the agent object; a handler either answers at once or keeps the
call in the one `pendingReply` slot and shows a dialog, whose buttons answer
later through `connman_agent_reply_*`.  The state holds the slot, the four
dialogs and the log of replies handed to the bus.  `shownFor` is bookkeeping
the program does not have: the call each dialog was last shown for.
-/

namespace ConnmanUi.Agent

/-- A method call received on the agent object, by its D-Bus serial. -/
abbrev Serial := Nat

/-- `struct agent_input_data`: what `parse_input_request` finds in the fields
of a RequestInput. -/
structure AgentInputData where
  hidden : Bool := false
  identity : Bool := false
  passphrase : Bool := false
  wpspin : Bool := false
  login : Bool := false
  previousPassphrase : Option String := none
  previousWpspin : Option String := none
  deriving DecidableEq

/-- The two iterators of a reply under construction. -/
inductive Iter where
  | arg
  | dict
  deriving DecidableEq

/-- A reply as the agent hands it to the bus.  `inputs` is a method return
with the entries appended to its dictionary (`none` is a NULL string) and the
two arguments of the `dbus_message_iter_close_container` that ends it. -/
inductive Reply where
  | empty
  | error (name text : String)
  | inputs (entries : List (String × Option String)) (closeParent closeSub : Iter)
  deriving DecidableEq

/-- How libdbus answers while a reply is built: it may have no memory for the
message, or none for its dictionary. -/
inductive Memory where
  | enough
  | noMessage
  | noDict
  deriving DecidableEq

/-- `struct connman_agent`; a callback is there or is NULL. -/
structure ConnmanAgent where
  pendingReply : Option Serial := none
  errorCb : Bool := false
  browserCb : Bool := false
  inputCb : Bool := false
  cancelCb : Bool := false
  deriving DecidableEq

/-- The dialogs of `agent.ui`. -/
inductive Dialog where
  | input
  | login
  | error
  | tethering
  deriving DecidableEq

/-- The agent, the dialogs and the bus as they see it. -/
structure State where
  /-- `agent_if`, `none` for NULL. -/
  agentIf : Option ConnmanAgent := none
  /-- `service.path` of `agent_dialogs.c`. -/
  servicePath : Option String := none
  visible : Dialog → Bool := fun _ => false
  /-- The call a dialog was last shown for, `none` for none. -/
  shownFor : Dialog → Option Serial := fun _ => none
  /-- The serial of the next call to arrive. -/
  nextSerial : Serial := 0
  /-- Replies handed to the bus, newest first. -/
  sent : List (Serial × Reply) := []

/-- The request held in `agent_if->pending_reply`. -/
def State.pending (s : State) : Option Serial := s.agentIf.bind (·.pendingReply)

/-- `agent_if->pending_reply = value`. -/
def State.setPending (s : State) (value : Option Serial) : State :=
  { s with agentIf := s.agentIf.map fun a => { a with pendingReply := value } }

/-- A reply to `msg` goes to the bus. -/
def State.send (s : State) (msg : Serial) (reply : Reply) : State :=
  { s with sent := (msg, reply) :: s.sent }

/-- A method call arrives and takes the next serial. -/
def State.receive (s : State) : State := { s with nextSerial := s.nextSerial + 1 }

/-- `gtk_widget_show` on a dialog, for the request `req`. -/
def State.widgetShow (s : State) (d : Dialog) (req : Option Serial) : State :=
  { s with visible := Function.update s.visible d true
           shownFor := Function.update s.shownFor d req }

/-- `gtk_widget_hide` on a dialog. -/
def State.widgetHide (s : State) (d : Dialog) : State :=
  { s with visible := Function.update s.visible d false }

section Projections
variable (s : State) (v : Option Serial) (m : Serial) (r : Reply) (d : Dialog)

@[simp] theorem pending_send : (s.send m r).pending = s.pending := rfl
@[simp] theorem pending_widgetShow : (s.widgetShow d v).pending = s.pending := rfl
@[simp] theorem pending_widgetHide : (s.widgetHide d).pending = s.pending := rfl
@[simp] theorem pending_setPending_none : (s.setPending none).pending = none := by
  cases h : s.agentIf <;> simp [State.pending, State.setPending, h]
@[simp] theorem pending_receive : s.receive.pending = s.pending := rfl
@[simp] theorem agentIf_receive : s.receive.agentIf = s.agentIf := rfl
@[simp] theorem servicePath_receive : s.receive.servicePath = s.servicePath := rfl
@[simp] theorem visible_receive : s.receive.visible = s.visible := rfl
@[simp] theorem shownFor_receive : s.receive.shownFor = s.shownFor := rfl
@[simp] theorem nextSerial_receive : s.receive.nextSerial = s.nextSerial + 1 := rfl
@[simp] theorem servicePath_setPending : (s.setPending v).servicePath = s.servicePath := rfl
@[simp] theorem sent_setPending : (s.setPending v).sent = s.sent := rfl
@[simp] theorem sent_send : (s.send m r).sent = (m, r) :: s.sent := rfl
@[simp] theorem sent_widgetShow : (s.widgetShow d v).sent = s.sent := rfl
@[simp] theorem sent_widgetHide : (s.widgetHide d).sent = s.sent := rfl
@[simp] theorem visible_setPending : (s.setPending v).visible = s.visible := rfl
@[simp] theorem visible_send : (s.send m r).visible = s.visible := rfl
@[simp] theorem shownFor_setPending : (s.setPending v).shownFor = s.shownFor := rfl
@[simp] theorem shownFor_send : (s.send m r).shownFor = s.shownFor := rfl
@[simp] theorem shownFor_widgetHide : (s.widgetHide d).shownFor = s.shownFor := rfl
@[simp] theorem nextSerial_setPending : (s.setPending v).nextSerial = s.nextSerial := rfl
@[simp] theorem nextSerial_send : (s.send m r).nextSerial = s.nextSerial := rfl
@[simp] theorem nextSerial_widgetShow : (s.widgetShow d v).nextSerial = s.nextSerial := rfl
@[simp] theorem nextSerial_widgetHide : (s.widgetHide d).nextSerial = s.nextSerial := rfl

end Projections

/-! ## `lib/agent.c` -/

/-- `CONNMAN_AGENT_INTERFACE`. -/
def connmanAgentInterface : String := "net.connman.Agent"

/-- `CONNMAN_ERROR ".Canceled"`, what a handler answers at once. -/
def canceledError : Reply := .error "net.connman.Error.Canceled" ""

/-- `send_agent_reply`: with or without a reply, the slot is emptied. -/
def sendAgentReply (s : State) (msg : Serial) : Option Reply → State
  | none => s.setPending none
  | some reply => (s.send msg reply).setPending none

/-- `agent_reply_error`. -/
def agentReplyError (s : State) (mem : Memory) (error text : String) : State :=
  match s.pending with
  | none => s
  | some msg => sendAgentReply s msg (if mem = .noMessage then none else some (.error error text))

def connmanAgentReplyRetry (s : State) (mem : Memory) : State :=
  agentReplyError s mem (connmanAgentInterface ++ ".Error.Retry") "Retry"

def connmanAgentReplyCanceled (s : State) (mem : Memory) : State :=
  agentReplyError s mem (connmanAgentInterface ++ ".Error.Canceled") "Canceled"

def connmanAgentReplyLaunchBrowser (s : State) (mem : Memory) : State :=
  agentReplyError s mem (connmanAgentInterface ++ ".Error.LaunchBrowser") "Launch the Browser"

/-- The common part of `connman_agent_reply_identity`, `_passphrase` and
`_login`: nothing pending is success, refused arguments and a missing message
are errors that leave the request pending, a missing dictionary drops it. -/
def replyInputs (s : State) (mem : Memory) (refused : Bool)
    (entries : List (String × Option String)) (closeParent closeSub : Iter) : State × Int :=
  match s.pending with
  | none => (s, 0)
  | some msg =>
    if refused then (s, -22)
    else match mem with
      | .noMessage => (s, -12)
      | .noDict => (s.setPending none, -12)
      | .enough => (sendAgentReply s msg (some (.inputs entries closeParent closeSub)), 0)

/-- The dictionary is closed with its two iterators exchanged. -/
def connmanAgentReplyIdentity (s : State) (mem : Memory) (identity passphrase : Option String) :
    State × Int :=
  replyInputs s mem (identity.isNone || passphrase.isNone)
    [("Identity", identity), ("Passphrase", passphrase)] .dict .arg

def connmanAgentReplyPassphrase (s : State) (mem : Memory) (hiddenName passphrase : Option String)
    (wps : Bool) (wpspin : Option String) : State × Int :=
  replyInputs s mem (passphrase.isNone && hiddenName.isNone && !wps)
    ((match hiddenName with
      | some name => [("Name", some name)]
      | none => []) ++
     (match passphrase with
      | some phrase => [("Passphrase", some phrase)]
      | none => if wps then [("WPS", some (wpspin.getD ""))] else [])) .arg .dict

/-- Both strings are appended once one of them is given, and the dictionary is
closed with its two iterators exchanged. -/
def connmanAgentReplyLogin (s : State) (mem : Memory) (username password : Option String) :
    State × Int :=
  replyInputs s mem (username.isNone && password.isNone)
    [("Username", username), ("Password", password)] .dict .arg

/-! ## `src/agent_dialogs.c` -/

/-- `agent_error_cb`, which is `agent_popup_error_dbox`. -/
def agentErrorCb (s : State) : State := s.widgetShow .error s.pending

/-- `agent_browser_cb` does nothing. -/
def agentBrowserCb (s : State) : State := s

/-- `agent_input_cb`. -/
def agentInputCb (s : State) (mem : Memory) (path : String) (data : AgentInputData) : State :=
  if s.servicePath ≠ some path then connmanAgentReplyCanceled s mem
  else if data.passphrase || data.hidden then s.widgetShow .input s.pending
  else if data.login then s.widgetShow .login s.pending
  else connmanAgentReplyCanceled s mem

/-- `agent_cancel_cb` hides the input dialog, and only that one. -/
def agentCancelCb (s : State) : State := s.widgetHide .input

/-- The widgets `agent_ok_input` reads. -/
structure InputForm where
  hiddenEntry : String := ""
  secretEntry : String := ""
  passphraseButton : Bool := false
  wpspbcButton : Bool := false
  wpspinButton : Bool := false
  deriving DecidableEq

/-- `gtk_entry_get_text` when the entry is not empty, NULL otherwise. -/
def nonEmpty (text : String) : Option String := if text.isEmpty then none else some text

def agentOkInput (s : State) (mem : Memory) (form : InputForm) : State :=
  let passphrase := if form.passphraseButton then some form.secretEntry else none
  let wps := form.wpspbcButton || form.wpspinButton
  let wpspin :=
    if form.wpspinButton then some form.secretEntry
    else if form.wpspbcButton then some "" else none
  (connmanAgentReplyPassphrase s mem (nonEmpty form.hiddenEntry) passphrase wps wpspin).1.widgetHide .input

def agentOkLogin (s : State) (mem : Memory) (username password : String) : State :=
  (connmanAgentReplyLogin s mem (nonEmpty username) (nonEmpty password)).1.widgetHide .login

/-- `agent_cancel`, the handler of every dialog's cancel button. -/
def agentCancel (s : State) (mem : Memory) (d : Dialog) : State :=
  connmanAgentReplyCanceled (s.widgetHide d) mem

/-- `agent_close` on a delete event, which `gtk_widget_hide_on_delete` follows. -/
def agentClose (s : State) (mem : Memory) (d : Dialog) : State :=
  (connmanAgentReplyCanceled s mem).widgetHide d

def agentRetry (s : State) (mem : Memory) : State :=
  connmanAgentReplyRetry (s.widgetHide .error) mem

/-- `agent_ok_tethering` sets technology properties and answers no request. -/
def agentOkTethering (s : State) : State := s.widgetHide .tethering

/-- `agent_popup_tethering_dbox`. -/
def agentPopupTetheringDbox (s : State) : State := s.widgetShow .tethering none

/-- `cui_agent_set_selected_service`. -/
def cuiAgentSetSelectedService (s : State) (path : Option String) : State :=
  { s with servicePath := path }

/-! ## The agent's methods -/

/-- `agent_release_method`: the pending request is dropped with the agent. -/
def agentReleaseMethod (s : State) (msg : Serial) : State :=
  { s with agentIf := none }.send msg .empty

def agentReportErrorMethod (s : State) (msg : Serial) : State :=
  match s.agentIf with
  | some a => if a.errorCb then agentErrorCb (s.setPending (some msg)) else s.send msg .empty
  | none => s.send msg .empty

def agentRequestBrowserMethod (s : State) (msg : Serial) : State :=
  match s.agentIf with
  | some a =>
    if a.browserCb then agentBrowserCb (s.setPending (some msg)) else s.send msg canceledError
  | none => s.send msg canceledError

def agentRequestInputMethod (s : State) (mem : Memory) (msg : Serial) (path : String)
    (data : AgentInputData) : State :=
  match s.agentIf with
  | some a =>
    if !a.inputCb then s.send msg canceledError
    else if !data.hidden && !data.identity && !data.passphrase && !data.login then
      s.send msg canceledError
    else agentInputCb (s.setPending (some msg)) mem path data
  | none => s.send msg canceledError

def agentCancelMethod (s : State) (msg : Serial) : State :=
  match s.agentIf with
  | some a =>
    let s := s.setPending none
    (if a.cancelCb then agentCancelCb s else s).send msg .empty
  | none => s.send msg .empty

/-- `connman_agent_init` followed by `cui_agent_init_callbacks`, as
`connman_up` runs them. -/
def connmanAgentInit (s : State) : State :=
  let a := s.agentIf.getD {}
  let hooked := { a with errorCb := true, browserCb := true, inputCb := true, cancelCb := true }
  { s with agentIf := some hooked }

/-- `connman_agent_finalize`. -/
def connmanAgentFinalize (s : State) : State := { s with agentIf := none }

/-! ## The running program -/

/-- What the user can do with a dialog. -/
inductive Action where
  | okInput (form : InputForm)
  | okLogin (username password : String)
  | okTethering
  | cancel
  | close
  | retry
  deriving DecidableEq

/-- An action on a dialog, refused when the dialog is hidden or has no such
button. -/
def userAction (s : State) (mem : Memory) (d : Dialog) (a : Action) : Option State :=
  if s.visible d then
    match a, d with
    | .okInput form, .input => some (agentOkInput s mem form)
    | .okLogin username password, .login => some (agentOkLogin s mem username password)
    | .okTethering, .tethering => some (agentOkTethering s)
    | .retry, .error => some (agentRetry s mem)
    | .cancel, d => some (agentCancel s mem d)
    | .close, d => some (agentClose s mem d)
    | _, _ => none
  else none

/-- What can happen to the agent and its dialogs.  `mem` is how libdbus fares
while a reply is built. -/
inductive Event where
  | reportError (path error : String)
  | requestBrowser (path url : String)
  | requestInput (path : String) (data : AgentInputData) (mem : Memory)
  | cancel
  | release
  | init
  | finalize
  | selectService (path : Option String)
  | openTethering
  | user (d : Dialog) (a : Action) (mem : Memory)

/-- One event; a method call takes the next serial. -/
def step (s : State) : Event → Option State
  | .reportError _ _ =>
    some (agentReportErrorMethod s.receive s.nextSerial)
  | .requestBrowser _ _ =>
    some (agentRequestBrowserMethod s.receive s.nextSerial)
  | .requestInput path data mem =>
    some (agentRequestInputMethod s.receive mem s.nextSerial path data)
  | .cancel => some (agentCancelMethod s.receive s.nextSerial)
  | .release => some (agentReleaseMethod s.receive s.nextSerial)
  | .init => some (connmanAgentInit s)
  | .finalize => some (connmanAgentFinalize s)
  | .selectService path => some (cuiAgentSetSelectedService s path)
  | .openTethering => some (agentPopupTetheringDbox s)
  | .user d a mem => userAction s mem d a

/-- The program just started: no agent, every dialog hidden. -/
def Initial (s : State) : Prop :=
  s.agentIf = none ∧ (∀ d, s.visible d = false) ∧ (∀ d, s.shownFor d = none) ∧ s.sent = []

end ConnmanUi.Agent
