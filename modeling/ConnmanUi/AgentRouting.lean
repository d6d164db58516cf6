import Mathlib.Order.Nat
import Mathlib.Tactic.ByContra
import Mathlib.Tactic.Push
import ConnmanUi.Agent

/-!
Which request a user's answer reaches.

There is one pending slot and four dialogs that live on their own, so a dialog
answers the request it was shown for only as long as every visible dialog was
shown for the request in the slot (`Inv`).  Two things break that: a call that
is kept while another dialog is still on screen (`agent_cancel_cb` hides only
the input dialog, so a withdrawn login or error dialog stays), and a tethering
dialog opened while a request is pending, since its cancel button and its close
button are the agent's.  `Clear` is the condition that neither happens;
`routed_iff_clear` says it is exactly what the routing needs.
-/

namespace ConnmanUi.Agent

open Run

variable {s s' : State} {e : Event} {d : Dialog} {a : Action} {mem : Memory} {r : Serial}

/-- What the routing promises of a state: an action on a dialog either sends
nothing or answers the request the dialog was last shown for, and an action on
the tethering dialog sends nothing. -/
def Routed (s : State) : Prop :=
  (∀ d a mem s', userAction s mem d a = some s' →
    s'.sent = s.sent ∨ ∃ r reply, s.shownFor d = some r ∧ s'.sent = (r, reply) :: s.sent) ∧
  ∀ a mem s', userAction s mem .tethering a = some s' → s'.sent = s.sent

/-- The dialog an agent call is shown in when its handler keeps it pending
(`some none` for a kept call without a dialog); `none` when the handler answers
it, or the event is no agent call. -/
def kept (s : State) : Event → Option (Option Dialog)
  | .reportError _ _ => if s.agentIf.any (·.errorCb) then some (some .error) else none
  | .requestBrowser _ _ => if s.agentIf.any (·.browserCb) then some none else none
  | .requestInput path data _ =>
    if s.agentIf.any (·.inputCb) && s.servicePath == some path then
      if data.passphrase || data.hidden then some (some .input)
      else if data.login then some (some .login) else none
    else none
  | _ => none

/-- A call is kept only while no other dialog is on screen, and the tethering
dialog is opened only while no request is pending. -/
def Clear (s : State) (e : Event) : Prop :=
  (∀ shown, kept s e = some shown → ∀ d, s.visible d = true → shown = some d) ∧
  (e = .openTethering → s.pending = none)

/-! ## What an event does to the slot and the dialogs -/

/-- `agent_reply_error` empties the slot and leaves the dialogs alone. -/
theorem agentReplyError_spec (s : State) (mem : Memory) (error text : String) :
    (agentReplyError s mem error text).pending = none ∧
      (agentReplyError s mem error text).visible = s.visible ∧
      (agentReplyError s mem error text).shownFor = s.shownFor ∧
      (agentReplyError s mem error text).nextSerial = s.nextSerial ∧
      ((agentReplyError s mem error text).sent = s.sent ∨ ∃ r reply, s.pending = some r ∧
        (agentReplyError s mem error text).sent = (r, reply) :: s.sent) := by
  unfold agentReplyError
  cases pending : s.pending with
  | none => simp [pending]
  | some msg => cases mem <;> simp [sendAgentReply]

/-- The three replies with inputs empty the slot or leave it. -/
theorem replyInputs_spec (s : State) (mem : Memory) (refused : Bool) (entries : List (String × Option String)) (p q : Iter) :
    ((replyInputs s mem refused entries p q).1.pending = s.pending ∨
        (replyInputs s mem refused entries p q).1.pending = none) ∧
      (replyInputs s mem refused entries p q).1.visible = s.visible ∧
      (replyInputs s mem refused entries p q).1.shownFor = s.shownFor ∧
      (replyInputs s mem refused entries p q).1.nextSerial = s.nextSerial ∧
      ((replyInputs s mem refused entries p q).1.sent = s.sent ∨ ∃ r reply, s.pending = some r ∧
        (replyInputs s mem refused entries p q).1.sent = (r, reply) :: s.sent) := by
  unfold replyInputs
  cases pending : s.pending with
  | none => simp [pending]
  | some msg =>
    cases refused
    · cases mem <;> simp [sendAgentReply, pending]
    · simp [pending]

/-- What any event may leave behind without touching the routing: the slot as
it was or empty, no dialog more than before, each shown for what it was. -/
structure Quiet (s s' : State) : Prop where
  pending : s'.pending = s.pending ∨ s'.pending = none
  visible : ∀ d, s'.visible d = true → s.visible d = true
  shownFor : s'.shownFor = s.shownFor
  nextSerial : s.nextSerial ≤ s'.nextSerial

theorem Quiet.widgetHide (quiet : Quiet s s') (d : Dialog) : Quiet s (s'.widgetHide d) where
  pending := by simpa using quiet.pending
  visible d' shown := by
    by_cases same : d' = d
    · subst same
      simp [State.widgetHide] at shown
    · exact quiet.visible d' (by simpa [State.widgetHide, same] using shown)
  shownFor := quiet.shownFor
  nextSerial := quiet.nextSerial

theorem Quiet.send (quiet : Quiet s s') (msg : Serial) (reply : Reply) : Quiet s (s'.send msg reply) :=
  ⟨quiet.pending, quiet.visible, quiet.shownFor, quiet.nextSerial⟩

theorem quiet_refl : Quiet s s := ⟨.inl rfl, fun _ => id, rfl, Nat.le_refl _⟩

theorem quiet_agentReplyError (error text : String) : Quiet s (agentReplyError s mem error text) := by
  obtain ⟨pending, visible, shownFor, serial, _⟩ := agentReplyError_spec s mem error text
  exact ⟨.inr pending, fun _ => by rw [visible]; exact id, shownFor, serial.ge⟩

theorem quiet_replyInputs (refused : Bool) (entries : List (String × Option String)) (p q : Iter) :
    Quiet s (replyInputs s mem refused entries p q).1 := by
  obtain ⟨pending, visible, shownFor, serial, _⟩ :=
    replyInputs_spec s mem refused entries p q
  exact ⟨pending, fun _ => by rw [visible]; exact id, shownFor, serial.ge⟩

/-- A user action: the dialog was visible, the routing is left quiet, and what
is sent, if anything, answers the pending request. -/
theorem userAction_spec (ran : userAction s mem d a = some s') :
    s.visible d = true ∧ Quiet s s' ∧ (d = .tethering ∧ a = .okTethering ∧ s'.sent = s.sent ∨
      s'.sent = s.sent ∨ ∃ r reply, s.pending = some r ∧ s'.sent = (r, reply) :: s.sent) := by
  unfold userAction at ran
  split at ran
  case isFalse => cases ran
  case isTrue shown =>
    refine ⟨shown, ?_⟩
    cases a with
    | okInput form =>
      cases d <;> cases ran
      exact ⟨(quiet_replyInputs ..).widgetHide .input, .inr (replyInputs_spec ..).2.2.2.2⟩
    | okLogin username password =>
      cases d <;> cases ran
      exact ⟨(quiet_replyInputs ..).widgetHide .login, .inr (replyInputs_spec ..).2.2.2.2⟩
    | okTethering =>
      cases d <;> cases ran
      exact ⟨quiet_refl.widgetHide .tethering, .inl ⟨rfl, rfl, rfl⟩⟩
    | retry =>
      cases d <;> cases ran
      have spec := agentReplyError_spec (s.widgetHide .error) mem
        (connmanAgentInterface ++ ".Error.Retry") "Retry"
      exact ⟨⟨.inr spec.1, fun d' on => (quiet_refl.widgetHide .error).visible d' (by rw [← spec.2.1]; exact on),
        spec.2.2.1, spec.2.2.2.1.ge⟩, .inr spec.2.2.2.2⟩
    | cancel =>
      cases ran
      have spec := agentReplyError_spec (s.widgetHide d) mem
        (connmanAgentInterface ++ ".Error.Canceled") "Canceled"
      exact ⟨⟨.inr spec.1, fun d' on => (quiet_refl.widgetHide d).visible d' (by rw [← spec.2.1]; exact on),
        spec.2.2.1, spec.2.2.2.1.ge⟩, .inr spec.2.2.2.2⟩
    | close =>
      cases ran
      exact ⟨(quiet_agentReplyError ..).widgetHide d, .inr (agentReplyError_spec ..).2.2.2.2⟩

/-- A call that is kept takes the slot under its own serial and is shown in its
dialog, if it has one. -/
structure Keeps (s s' : State) (shown : Option Dialog) : Prop where
  pending : s'.pending = some s.nextSerial
  visible : ∀ d, s'.visible d = true ↔ s.visible d = true ∨ shown = some d
  shownFor : ∀ d, s'.shownFor d = if shown = some d then some s.nextSerial else s.shownFor d
  nextSerial : s'.nextSerial = s.nextSerial + 1

/-- The state a handler hands to its callback once it has kept the call. -/
def held (s : State) : State := s.receive.setPending (some s.nextSerial)

theorem pending_held {c : ConnmanAgent} (agent : s.agentIf = some c) :
    (held s).pending = some s.nextSerial := by
  simp [held, State.pending, State.setPending, agent]

theorem keeps_show {c : ConnmanAgent} (agent : s.agentIf = some c) (d : Dialog) :
    Keeps s ((held s).widgetShow d (held s).pending) (some d) where
  pending := by rw [pending_widgetShow, pending_held agent]
  visible d' := by
    by_cases same : d' = d
    · simp [State.widgetShow, same]
    · simp [State.widgetShow, held, same, Ne.symm same]
  shownFor d' := by
    by_cases same : d' = d
    · simp [State.widgetShow, same, pending_held agent]
    · simp [State.widgetShow, held, same, Ne.symm same]
  nextSerial := rfl

theorem quiet_answered (msg : Serial) (reply : Reply) : Quiet s (s.receive.send msg reply) :=
  ⟨.inl rfl, fun _ => id, rfl, Nat.le_succ _⟩

theorem agentReportErrorMethod_cases (path error : String) :
    (kept s (.reportError path error) = some (some .error) ∧
      Keeps s (agentReportErrorMethod s.receive s.nextSerial) (some .error)) ∨
    (kept s (.reportError path error) = none ∧
      Quiet s (agentReportErrorMethod s.receive s.nextSerial)) := by
  unfold agentReportErrorMethod
  rw [agentIf_receive]
  cases agent : s.agentIf with
  | none => exact .inr ⟨by simp [kept, agent], quiet_answered ..⟩
  | some c =>
    cases cb : c.errorCb
    · exact .inr ⟨by simp [kept, agent, cb], by simpa [cb] using quiet_answered ..⟩
    · refine .inl ⟨by simp [kept, agent, cb], ?_⟩
      simp only [cb, ↓reduceIte, agentErrorCb]
      exact keeps_show agent .error

theorem agentRequestBrowserMethod_cases (path url : String) :
    (kept s (.requestBrowser path url) = some none ∧
      Keeps s (agentRequestBrowserMethod s.receive s.nextSerial) none) ∨
    (kept s (.requestBrowser path url) = none ∧
      Quiet s (agentRequestBrowserMethod s.receive s.nextSerial)) := by
  unfold agentRequestBrowserMethod
  rw [agentIf_receive]
  cases agent : s.agentIf with
  | none => exact .inr ⟨by simp [kept, agent], quiet_answered ..⟩
  | some c =>
    cases cb : c.browserCb
    · exact .inr ⟨by simp [kept, agent, cb], by simpa [cb] using quiet_answered ..⟩
    · refine .inl ⟨by simp [kept, agent, cb], ?_⟩
      simp only [cb, ↓reduceIte, agentBrowserCb]
      exact ⟨pending_held agent, by simp, by simp, rfl⟩

/-- A cancelled call leaves the slot empty, whatever it held before. -/
theorem quiet_cancelled : Quiet s (connmanAgentReplyCanceled (held s) mem) := by
  obtain ⟨pending, visible, shownFor, serial, _⟩ := agentReplyError_spec (held s) mem
    (connmanAgentInterface ++ ".Error.Canceled") "Canceled"
  exact ⟨.inr pending, fun d on => by rw [connmanAgentReplyCanceled, visible] at on; exact on,
    shownFor, by rw [connmanAgentReplyCanceled, serial]; exact Nat.le_succ _⟩

theorem agentRequestInputMethod_cases (path : String) (data : AgentInputData) :
    (∃ shown, kept s (.requestInput path data mem) = some shown ∧
      Keeps s (agentRequestInputMethod s.receive mem s.nextSerial path data) shown) ∨
    (kept s (.requestInput path data mem) = none ∧
      Quiet s (agentRequestInputMethod s.receive mem s.nextSerial path data)) := by
  unfold agentRequestInputMethod
  rw [agentIf_receive]
  cases agent : s.agentIf with
  | none => exact .inr ⟨by simp [kept, agent], quiet_answered ..⟩
  | some c =>
    cases cb : c.inputCb
    · exact .inr ⟨by simp [kept, agent, cb], by simpa [cb] using quiet_answered ..⟩
    simp only [cb, Bool.not_true, Bool.false_eq_true, ↓reduceIte]
    split
    case isTrue nothing =>
      simp only [Bool.and_eq_true, Bool.not_eq_eq_eq_not, Bool.not_true] at nothing
      exact .inr ⟨by simp [kept, nothing], quiet_answered ..⟩
    case isFalse asked =>
      unfold agentInputCb
      by_cases service : s.servicePath = some path
      · simp only [servicePath_setPending, servicePath_receive, service, ne_eq,
          not_true_eq_false, ↓reduceIte]
        by_cases entry : (data.passphrase || data.hidden) = true
        · simp only [entry, ↓reduceIte]
          exact .inl ⟨some .input, by simp [kept, agent, cb, service, entry], keeps_show agent .input⟩
        · simp only [entry, Bool.false_eq_true, ↓reduceIte]
          cases login : data.login
          · exact .inr ⟨by simp [kept, agent, cb, service, entry, login], quiet_cancelled⟩
          · exact .inl ⟨some .login, by simp [kept, agent, cb, service, entry, login],
              keeps_show agent .login⟩
      · refine .inr ⟨by simp [kept, service], ?_⟩
        simp only [servicePath_setPending, servicePath_receive, service, ne_eq, not_false_eq_true,
          ↓reduceIte]
        exact quiet_cancelled

theorem quiet_agentCancelMethod : Quiet s (agentCancelMethod s.receive s.nextSerial) := by
  unfold agentCancelMethod
  rw [agentIf_receive]
  cases agent : s.agentIf with
  | none => exact quiet_answered ..
  | some c =>
    have dropped : Quiet s (s.receive.setPending none) :=
      ⟨.inr (pending_setPending_none _), fun _ => id, rfl, Nat.le_succ _⟩
    cases cb : c.cancelCb
    · simpa [cb] using dropped.send ..
    · simpa [cb, agentCancelCb] using (dropped.widgetHide .input).send ..

/-- Every event keeps a call, opens the tethering dialog, or is quiet. -/
theorem step_cases (ran : step s e = some s') :
    (∃ shown, kept s e = some shown ∧ Keeps s s' shown) ∨
    (e = .openTethering ∧ s' = s.widgetShow .tethering none) ∨
    (kept s e = none ∧ e ≠ .openTethering ∧ Quiet s s') := by
  cases e with
  | reportError path error =>
    cases ran
    rcases agentReportErrorMethod_cases path error with h | ⟨answered, quiet⟩
    · exact .inl ⟨_, h⟩
    · exact .inr (.inr ⟨answered, by simp, quiet⟩)
  | requestBrowser path url =>
    cases ran
    rcases agentRequestBrowserMethod_cases path url with h | ⟨answered, quiet⟩
    · exact .inl ⟨_, h⟩
    · exact .inr (.inr ⟨answered, by simp, quiet⟩)
  | requestInput path data mem =>
    cases ran
    rcases agentRequestInputMethod_cases path data with h | ⟨answered, quiet⟩
    · exact .inl h
    · exact .inr (.inr ⟨answered, by simp, quiet⟩)
  | cancel => cases ran; exact .inr (.inr ⟨rfl, by simp, quiet_agentCancelMethod⟩)
  | release => cases ran; exact .inr (.inr ⟨rfl, by simp, .inr rfl, fun _ => id, rfl, Nat.le_succ _⟩)
  | init =>
    cases ran
    refine .inr (.inr ⟨rfl, by simp, .inl ?_, fun _ => id, rfl, Nat.le_refl _⟩)
    cases agent : s.agentIf <;> simp [connmanAgentInit, State.pending, agent]
  | finalize => cases ran; exact .inr (.inr ⟨rfl, by simp, .inr rfl, fun _ => id, rfl, Nat.le_refl _⟩)
  | selectService path =>
    cases ran
    exact .inr (.inr ⟨rfl, by simp, .inl rfl, fun _ => id, rfl, Nat.le_refl _⟩)
  | openTethering => cases ran; exact .inr (.inl ⟨rfl, rfl⟩)
  | user d a mem => exact .inr (.inr ⟨rfl, by simp, (userAction_spec ran).2.1⟩)

/-! ## The invariant of clear runs -/

/-- Every dialog on screen was shown for the pending request, if there is one;
serials grow; the tethering dialog was shown for none. -/
structure Inv (s : State) : Prop where
  owned : ∀ r d, s.pending = some r → s.visible d = true → s.shownFor d = some r
  older : ∀ d r, s.shownFor d = some r → r < s.nextSerial
  tethering : s.shownFor .tethering = none

theorem inv_initial (initial : Initial s) : Inv s where
  owned r d pending := by simp [State.pending, initial.1] at pending
  older d r shown := by simp [initial.2.2.1] at shown
  tethering := initial.2.2.1 _

theorem kept_not_tethering (k : kept s e = some (some d)) : d ≠ .tethering := by
  rintro rfl
  cases e <;> simp only [kept] at k <;> (repeat' split at k) <;> cases k

theorem inv_step (inv : Inv s) (clear : Clear s e) (ran : step s e = some s') : Inv s' := by
  rcases step_cases ran with ⟨shown, isKept, keeps⟩ | ⟨rfl, rfl⟩ | ⟨_, _, quiet⟩
  · refine ⟨fun r d pending on => ?_, fun d r forReq => ?_, ?_⟩
    · have here : shown = some d :=
        ((keeps.visible d).mp on).elim (clear.1 shown isKept d) id
      rw [keeps.shownFor, if_pos here, ← keeps.pending, pending]
    · rw [keeps.shownFor] at forReq
      rw [keeps.nextSerial]
      split at forReq
      · cases forReq; exact Nat.lt_succ_self _
      · exact Nat.lt_succ_of_lt (inv.older d r forReq)
    · rw [keeps.shownFor, if_neg, inv.tethering]
      rintro rfl
      exact kept_not_tethering isKept rfl
  · have idle : s.pending = none := clear.2 rfl
    refine ⟨fun r d pending => ?_, fun d r forReq => ?_, by simp [State.widgetShow]⟩
    · simp [idle] at pending
    · by_cases same : d = .tethering
      · subst same; simp [State.widgetShow] at forReq
      · exact inv.older d r (by simpa [State.widgetShow, same] using forReq)
  · refine ⟨fun r d pending on => ?_, fun d r forReq => ?_, by rw [quiet.shownFor, inv.tethering]⟩
    · rcases quiet.pending with same | gone
      · rw [quiet.shownFor]
        exact inv.owned r d (same ▸ pending) (quiet.visible d on)
      · rw [gone] at pending; cases pending
    · rw [quiet.shownFor] at forReq
      exact Nat.lt_of_lt_of_le (inv.older d r forReq) quiet.nextSerial

theorem inv_routed (inv : Inv s) : Routed s := by
  refine ⟨fun d a mem s' ran => ?_, fun a mem s' ran => ?_⟩
  · obtain ⟨on, _, ⟨_, _, same⟩ | same | ⟨r, reply, pending, sent⟩⟩ := userAction_spec ran
    · exact .inl same
    · exact .inl same
    · exact .inr ⟨r, reply, inv.owned r d pending on, sent⟩
  · obtain ⟨on, _, ⟨_, _, same⟩ | same | ⟨r, reply, pending, _⟩⟩ := userAction_spec ran
    · exact same
    · exact same
    · have := inv.owned r _ pending on
      rw [inv.tethering] at this
      cases this

/-! ## Leaving the clear runs -/

/-- Cancelling a visible dialog answers whatever is pending. -/
theorem cancel_answers (on : s.visible d = true) (pending : s.pending = some r) :
    ∃ s' reply, userAction s .enough d .cancel = some s' ∧ s'.sent = (r, reply) :: s.sent := by
  refine ⟨agentCancel s .enough d, .error (connmanAgentInterface ++ ".Error.Canceled") "Canceled",
    by simp [userAction, on], ?_⟩
  simp [agentCancel, connmanAgentReplyCanceled, agentReplyError, sendAgentReply, pending]

/-- A visible dialog shown for another request than the pending one spoils the
routing. -/
theorem not_routed (on : s.visible d = true) (pending : s.pending = some r)
    (other : s.shownFor d ≠ some r) : ¬ Routed s := by
  intro routed
  obtain ⟨s', reply, ran, sent⟩ := cancel_answers on pending
  rcases routed.1 d .cancel .enough s' ran with same | ⟨r', reply', shown, sent'⟩
  · rw [sent] at same
    exact List.cons_ne_self _ _ same
  · rw [sent, List.cons.injEq, Prod.mk.injEq] at sent'
    exact other (sent'.1.1 ▸ shown)

theorem not_clear_not_routed (inv : Inv s) (ran : step s e = some s') (unclear : ¬ Clear s e) :
    ¬ Routed s' := by
  rcases step_cases ran with ⟨shown, isKept, keeps⟩ | ⟨rfl, rfl⟩ | ⟨notKept, notTethering, _⟩
  · have stale : ∃ d, s.visible d = true ∧ shown ≠ some d := by
      by_contra none
      push Not at none
      refine unclear ⟨fun shown' isKept' d on => ?_, fun tether => ?_⟩
      · rw [isKept] at isKept'
        cases isKept'
        exact none d on
      · subst tether
        cases isKept
    obtain ⟨d, on, other⟩ := stale
    apply not_routed ((keeps.visible d).mpr (.inl on)) keeps.pending
    rw [keeps.shownFor, if_neg other]
    exact fun same => Nat.lt_irrefl _ (inv.older d _ same)
  · obtain ⟨r, pending⟩ : ∃ r, s.pending = some r := by
      by_contra idle
      refine unclear ⟨nofun, fun _ => ?_⟩
      exact Option.eq_none_iff_forall_ne_some.mpr fun r h => idle ⟨r, h⟩
    exact not_routed (d := .tethering) (by simp [State.widgetShow]) (by simpa using pending)
      (by simp [State.widgetShow])
  · refine absurd ⟨fun _ k => ?_, fun h => absurd h notTethering⟩ unclear
    rw [notKept] at k
    cases k

/-- **Routing.**  In every run whose steps are clear, every action in every
state reached answers the request its dialog was shown for; and the next step
keeps that if and only if it is clear. -/
theorem routed_iff_clear (s : State) (reached : Reaches step Clear Initial s) :
    Routed s ∧ ∀ e s', step s e = some s' → (Routed s' ↔ Clear s e) :=
  reached.exact (fun _ => inv_initial) (fun _ => inv_routed) (fun _ _ _ => inv_step)
    fun _ _ _ => not_clear_not_routed

/-- A program that has just been started. -/
def started : State := {}

theorem started_initial : Initial started := ⟨rfl, fun _ => rfl, fun _ => rfl, rfl⟩

/-- ConnMan asks for a login, withdraws it, and asks to open a browser: the
login dialog is still on screen. -/
def withdrawnLogin : List Event :=
  [.init, .selectService (some "/service"), .requestInput "/service" { login := true } .enough,
    .cancel, .requestBrowser "/service" "http://portal"]

/-- The stale login dialog answers the browser request with the password. -/
theorem not_always_routed : ¬ ∀ s, Reaches step Always Initial s → Routed s := by
  intro always
  obtain ⟨s, ran⟩ : ∃ s, play step Always started withdrawnLogin = some s := ⟨_, rfl⟩
  have routed := always s ((Reaches.here started_initial).play _ ran)
  cases ran
  rcases routed.1 .login (.okLogin "user" "secret") .enough _ rfl with same | ⟨r, reply, shown, sent⟩
  · exact List.cons_ne_self _ _ same
  · have answered : (2 : Serial) = r := congrArg Prod.fst (List.cons.inj sent).1
    subst answered
    exact absurd shown (by decide)

/-- One reported error on screen, reached by clear steps. -/
theorem reaches_reported :
    Reaches step Clear Initial (agentReportErrorMethod (connmanAgentInit started).receive 0) :=
  .next (e := .reportError "/service" "invalid-key")
    (.next (e := .init) (.here started_initial) ⟨nofun, nofun⟩ rfl)
    ⟨fun _ _ _ on => absurd on Bool.false_ne_true, nofun⟩ rfl

/-- The error dialog routes; opening the tethering dialog over it does not. -/
theorem routed_iff_clear_reported :
    Routed (agentReportErrorMethod (connmanAgentInit started).receive 0) ∧
      ¬ Routed (agentPopupTetheringDbox
        (agentReportErrorMethod (connmanAgentInit started).receive 0)) :=
  have routing := routed_iff_clear _ reaches_reported
  ⟨routing.1, fun routed => nomatch ((routing.2 .openTethering _ rfl).mp routed).2 rfl⟩

end ConnmanUi.Agent
