import ConnmanUi.ManagerCalls

/-!
Requests and the callbacks they come with.

A listing of the manager has one slot, which a new request takes over, and a
reply handler empties the slot before it calls back.  As long as sending does
not fail, a callback therefore runs only for the reply to its own request, once,
and never after something else happened to the listing (`one_request`).
-/

namespace ConnmanUi.ManagerCalls

open Run

variable {Cb : Type} {s s' : State Cb} {e : Event Cb} {l : Listing} {m : Method} {h : Nat} {sending : Sending}

/-- `dbus_connection_send_with_reply` and `dbus_pending_call_set_notify` do not
fail. -/
def Succeeds (_ : State Cb) : Event Cb → Prop
  | .init _ o => o.sending = .sent ∨ o.sending = .noMessage
  | .get _ _ sending => sending = .sent ∨ sending = .noMessage
  | _ => True

/-- The entry is about this listing; finalizing is about both. -/
def Entry.concerns (l : Listing) : Entry Cb → Bool
  | .requested l' _ _ => l' = l
  | .cancelled l' => l' = l
  | .invoked l' _ _ => l' = l
  | .finalized => true

/-- The last thing that happened to a listing. -/
def newest (l : Listing) (history : List (Entry Cb)) : Option (Entry Cb) := history.find? (·.concerns l)

/-- Whenever a callback ran, the last thing that had happened to its listing was
the request it was passed with, and the reply was the one to that request. -/
def Paired (history : List (Entry Cb)) : Prop :=
  ∀ after l request cb before, history = after ++ .invoked l request cb :: before →
    newest l before = some (.requested l request cb)

/-- What holds while sending does not fail: every call in flight has its
handler, a callback is stored exactly while a call is in its slot, and then the
last thing that happened to the listing is the request for both. -/
structure Asked (s : State Cb) : Prop where
  slotted : Slotted s
  notified : ∀ h call, s.calls.find h = some call → call.notified = true
  waiting : ∀ l cb, s.storedCb l = some cb → ∃ call, s.calls.find (s.callSlot (.get l)) = some call ∧
    newest l s.history = some (.requested l call.request cb)
  idle : ∀ l, s.storedCb l = none → s.callSlot (.get l) = 0
  paired : Paired s.history

variable {history : List (Entry Cb)} {entry : Entry Cb}

theorem Paired.cons (paired : Paired history) (other : ∀ l request cb, entry ≠ .invoked l request cb) :
    Paired (entry :: history) := by
  intro after l request cb before split
  cases after with
  | nil =>
    rw [List.nil_append, List.cons.injEq] at split
    exact absurd split.1 (other l request cb)
  | cons first after =>
    rw [List.cons_append, List.cons.injEq] at split
    exact paired after l request cb before split.2

theorem Paired.invoked (paired : Paired history) {request : Nat} {cb : Cb}
    (last : newest l history = some (.requested l request cb)) : Paired (.invoked l request cb :: history) := by
  intro after l' request' cb' before split
  cases after with
  | nil =>
    rw [List.nil_append, List.cons.injEq, Entry.invoked.injEq] at split
    obtain ⟨⟨rfl, rfl, rfl⟩, rfl⟩ := split
    exact last
  | cons first after =>
    rw [List.cons_append, List.cons.injEq] at split
    exact paired after l' request' cb' before split.2

theorem newest_other (other : entry.concerns l = false) : newest l (entry :: history) = newest l history := by
  rw [newest, List.find?_cons_of_neg (by simp [other])]
  rfl

theorem newest_self (own : entry.concerns l = true) : newest l (entry :: history) = some entry := by
  rw [newest, List.find?_cons_of_pos own]

theorem asked_down (slotted : Slotted s) (down : s.manager = none) (paired : Paired s.history) : Asked s where
  slotted := slotted
  notified h call found := by
    rw [slotted.find_down down] at found
    cases found
  waiting l cb stored := by
    rw [State.storedCb, down] at stored
    cases stored
  idle l _ := by rw [callSlot_down down]
  paired := paired

theorem Asked.of_same (asked : Asked s) (same : SameCalls s s') : Asked s' where
  slotted := asked.slotted.of_eq same.calls same.callSlot
  notified := same.calls ▸ asked.notified
  waiting l cb stored := by
    rw [same.calls, same.callSlot, same.history]
    exact asked.waiting l cb (same.storedCb ▸ stored)
  idle l empty := by
    rw [same.callSlot]
    exact asked.idle l (same.storedCb ▸ empty)
  paired := same.history ▸ asked.paired

/-- The call of one method goes, and with it the callback stored for it. -/
theorem Asked.dropped (asked : Asked s) (m : Method) (calls : s'.calls = s.calls.detach (s.callSlot m))
    (slots : s'.callSlot = Function.update s.callSlot m 0)
    (stored : ∀ l, s'.storedCb l = if m = .get l then none else s.storedCb l)
    (last : ∀ l, m ≠ .get l → newest l s'.history = newest l s.history) (paired : Paired s'.history) : Asked s' where
  slotted := by
    unfold Slotted
    rw [calls, slots]
    exact asked.slotted.detach m
  notified h call found := by
    rw [calls] at found
    exact asked.notified h call (Pool.find_of_find_detach found)
  waiting l cb known := by
    rw [stored] at known
    split at known
    case isTrue => cases known
    case isFalse other =>
      obtain ⟨call, found, requested⟩ := asked.waiting l cb known
      rw [calls, slots, Function.update_of_ne (Ne.symm other), last l other, Pool.find_detach, if_neg]
      · exact ⟨call, found, requested⟩
      · intro clash
        have own := asked.slotted.holds m (by rw [← clash]; exact Pool.ne_zero_of_find found)
        have own' := asked.slotted.holds (.get l) (Pool.ne_zero_of_find found)
        rw [clash] at own'
        obtain ⟨call₁, found₁, method₁⟩ := own
        obtain ⟨call₂, found₂, method₂⟩ := own'
        rw [found₁] at found₂
        cases found₂
        exact other (Option.some.inj (method₁.symm.trans method₂))
  idle l empty := by
    rw [slots]
    by_cases own : m = .get l
    · rw [own, Function.update_self]
    · rw [Function.update_of_ne (Ne.symm own)]
      rw [stored, if_neg own] at empty
      exact asked.idle l empty
  paired := paired

/-- A request goes out over an empty slot. -/
theorem Asked.sent (asked : Asked s) (up : s.manager.isNone = false) (free : s.storedCb l = none) (cb : Cb)
    (request : Nat) (last : newest l s.history = some (.requested l request cb)) :
    Asked (attachCall (storeCb s l (some cb)) ⟨.get l, true, request⟩) := by
  have slots : (attachCall (storeCb s l (some cb)) ⟨.get l, true, request⟩).callSlot =
      Function.update s.callSlot (.get l) s.calls.fresh := by
    rw [callSlot_attachCall (by simpa using up), callSlot_storeCb, calls_storeCb]
  have stored : (attachCall (storeCb s l (some cb)) ⟨.get l, true, request⟩).storedCb =
      Function.update s.storedCb l (some cb) := by
    rw [storedCb_attachCall, storedCb_storeCb up]
  refine ⟨?_, fun h call found => ?_, fun l' cb' known => ?_, fun l' empty => ?_, asked.paired⟩
  · apply Slotted.attachCall (asked.slotted.of_eq (calls_storeCb ..) (callSlot_storeCb ..)) (by simpa using up)
    rw [callSlot_storeCb]
    exact asked.idle l free
  · change (s.calls.attach _).find h = some call at found
    rw [Pool.find_attach] at found
    split at found
    · cases found
      rfl
    · exact asked.notified h call found
  · change ∃ call, (s.calls.attach _).find _ = some call ∧ newest l' s.history = _
    rw [stored] at known
    rw [slots]
    by_cases own : l' = l
    · subst own
      rw [Function.update_self, Option.some.injEq] at known
      subst known
      exact ⟨_, by rw [Function.update_self, Pool.find_attach, if_pos rfl], last⟩
    · rw [Function.update_of_ne own] at known
      obtain ⟨call, found, requested⟩ := asked.waiting l' cb' known
      refine ⟨call, ?_, requested⟩
      rw [Function.update_of_ne (by simpa using own), Pool.find_attach, if_neg]
      · exact found
      · intro clash
        rw [clash, Pool.find_fresh] at found
        cases found
  · rw [stored] at empty
    by_cases own : l' = l
    · rw [own, Function.update_self] at empty
      cases empty
    · rw [Function.update_of_ne own] at empty
      rw [slots, Function.update_of_ne (by simpa using own)]
      exact asked.idle l' empty

theorem concerns_requested {l' : Listing} {request : Nat} {cb : Cb} :
    (Entry.requested l' request cb).concerns l = decide (l' = l) := rfl

theorem concerns_cancelled {l' : Listing} : (Entry.cancelled l' : Entry Cb).concerns l = decide (l' = l) := rfl

theorem Asked.managerGet (asked : Asked s) (l : Listing) (cb : Option Cb)
    (succeeds : sending = .sent ∨ sending = .noMessage) : Asked (managerGet l s cb sending).1 := by
  unfold ManagerCalls.managerGet
  split
  case isTrue => exact asked
  case isFalse up =>
    rw [Bool.not_eq_true] at up
    have stored : (cancelCall (storeCb s l none) (.get l)).storedCb = Function.update s.storedCb l none := by
      rw [storedCb_cancelCall, storedCb_storeCb up]
    have cleared : ∀ entry : Entry Cb, (∀ l' request cb, entry ≠ .invoked l' request cb) →
        (∀ l', l ≠ l' → entry.concerns l' = false) → ∀ s', s'.calls = (cancelCall (storeCb s l none) (.get l)).calls →
        s'.callSlot = (cancelCall (storeCb s l none) (.get l)).callSlot → s'.storedCb = Function.update s.storedCb l none →
        s'.history = entry :: s.history → Asked s' := by
      intro entry other elsewhere s' calls slots cbs history
      refine asked.dropped (.get l) ?_ ?_ (fun l' => ?_) (fun l' different => ?_) ?_
      · rw [calls]
        simp [cancelCall]
      · rw [slots, callSlot_cancelCall, callSlot_storeCb]
      · rw [cbs]
        by_cases own : l' = l
        · simp [own]
        · simp [own, Ne.symm own]
      · rw [history, newest_other (elsewhere l' (by simpa using different))]
      · rw [history]
        exact asked.paired.cons other
    cases cb with
    | none =>
      exact cleared (.cancelled l) nofun (fun l' other => by simpa [concerns_cancelled] using other) _ rfl rfl
        (by rw [storedCb_record, stored]) rfl
    | some cb =>
      have noted := cleared (.requested l s.nextRequest cb) nofun
        (fun l' other => by simpa [concerns_requested] using other)
        ((cancelCall (storeCb s l none) (.get l)).noteRequest l cb) rfl rfl (by rw [storedCb_noteRequest, stored]) rfl
      dsimp only
      split
      · exact noted
      case isFalse made =>
        rw [succeeds.resolve_right made]
        refine noted.sent (by simpa using up) ?_ cb s.nextRequest (newest_self ?_)
        · rw [storedCb_noteRequest, stored, Function.update_self]
        · rw [concerns_requested, decide_eq_true rfl]

theorem Asked.finalize (asked : Asked s) : Asked (connmanManagerFinalize s) := by
  have slotted := asked.slotted.finalize
  unfold connmanManagerFinalize at slotted ⊢
  split
  case isTrue => exact asked
  case isFalse up =>
    rw [if_neg up] at slotted
    exact asked_down slotted rfl (asked.paired.cons nofun)

theorem Asked.init (asked : Asked s) (connman : Bool) {o : InitOutcome}
    (succeeds : o.sending = .sent ∨ o.sending = .noMessage) : Asked (connmanManagerInit s connman o).1 := by
  unfold connmanManagerInit
  split
  · exact asked
  split
  · exact asked
  case isFalse down =>
    have down : s.manager = none := by simpa using down
    split
    · exact asked
    have slotted : Slotted { s with manager := some {} } := asked.slotted.of_eq rfl (callSlot_down down).symm
    have fresh : Asked { s with manager := some {} } := {
      slotted := slotted
      notified := asked.notified
      waiting := nofun
      idle := fun l _ => rfl
      paired := asked.paired }
    rcases succeeds with sent | failed
    · rw [sent]
      have attached : Asked (attachCall { s with manager := some {} } ⟨.getProperties, true, 0⟩) := {
        slotted := fresh.slotted.attachCall rfl rfl
        notified := fun h call found => by
          change (s.calls.attach _).find h = some call at found
          rw [Pool.find_attach] at found
          split at found
          · cases found
            rfl
          · exact asked.notified h call found
        waiting := nofun
        idle := fun l _ => by
          rw [callSlot_attachCall rfl, Function.update_of_ne (show Method.get l ≠ .getProperties from nofun)]
          rfl
        paired := asked.paired }
      dsimp only [sendCall]
      split
      · exact attached.finalize
      · split
        · exact attached.finalize
        · exact attached.of_same (sameCalls_addWatch _)
    · rw [failed]
      dsimp only [sendCall]
      split
      · exact fresh.finalize
      · split
        · exact fresh.finalize
        · exact fresh.of_same (sameCalls_addWatch _)

theorem Asked.handled (asked : Asked s) {called : Option (Listing × Cb)} (handled : Handled s h s' called) :
    Asked s' := by
  cases handled with
  | kept call found mute same quiet => exact same ▸ asked
  | properties call found method calls slots up stored history quiet =>
    have here := asked.slotted.stored h call call.method found rfl
    refine asked.dropped call.method (by rw [calls, here]) slots (fun l => ?_) (fun l _ => by rw [history])
      (history ▸ asked.paired)
    rw [stored, method, if_neg nofun]
  | listing l call found method calls slots up stored history =>
    have here := asked.slotted.stored h call call.method found rfl
    have last : ∀ cb, s.storedCb l = some cb → newest l s.history = some (.requested l call.request cb) := by
      intro cb known
      obtain ⟨call', found', requested⟩ := asked.waiting l cb known
      rw [← method, here, found] at found'
      cases found'
      exact requested
    refine asked.dropped call.method (by rw [calls, here]) slots (fun l' => ?_) (fun l' other => ?_) ?_
    · rw [stored, method]
      by_cases own : l' = l
      · simp [own]
      · simp [own, Ne.symm own]
    · rcases history with ⟨_, same⟩ | ⟨cb, _, _, ran⟩
      · rw [same]
      · rw [ran, newest_other]
        rw [method] at other
        simpa [Entry.concerns] using other
    · rcases history with ⟨_, same⟩ | ⟨cb, known, _, ran⟩
      · exact same ▸ asked.paired
      · rw [ran]
        exact asked.paired.invoked (last cb known)

theorem asked_step (asked : Asked s) (succeeds : Succeeds s e) (ran : step s e = some s') : Asked s' := by
  cases e with
  | init connman o =>
    cases ran
    exact asked.init connman succeeds
  | finalize =>
    cases ran
    exact asked.finalize
  | get l cb sending =>
    cases l <;> cases ran
    · exact asked.managerGet .technologies cb succeeds
    · exact asked.managerGet .services cb succeeds
  | registerTechnologySignals addedCb removedCb watchAdded watchRemoved =>
    cases ran
    exact asked.of_same (sameCalls_registerTechnologySignals ..)
  | registerServiceSignal cb watchChanged =>
    cases ran
    exact asked.of_same (sameCalls_registerServiceSignal ..)
  | reply h args =>
    obtain ⟨⟨after, called⟩, replied, rfl⟩ := Option.map_eq_some_iff.mp ran
    exact asked.handled (reply_handled replied)

theorem boot_asked (boot : Boot s) : Asked s :=
  asked_down (boot_slotted boot) boot.1 fun after l request cb before split => by
    rw [boot.2.2.2] at split
    cases after <;> cases split

/-- The calls of a listing that are in flight. -/
def InFlight (s : State Cb) (l : Listing) (h : Nat) : Prop :=
  ∃ call, s.calls.find h = some call ∧ call.method = .get l ∧ call.notified = true

/-- **One request slot.**  While sending does not fail, at most one call of each
listing is in flight, its callback is stored exactly meanwhile, and a callback
runs only for the reply to the request it came with, that request being the last
thing that happened to the listing: no later request, no cancellation, no
finalizing, and no earlier run of the callback. -/
theorem one_request (s : State Cb) (reached : Reaches step Succeeds Boot s) :
    (∀ l h h', InFlight s l h → InFlight s l h' → h = h') ∧
      (∀ l, s.storedCb l ≠ none ↔ ∃ h, InFlight s l h) ∧ Paired s.history := by
  have asked : Asked s :=
    reached.invariant (fun _ => boot_asked) fun _ _ _ asked succeeds ran => asked_step asked succeeds ran
  refine ⟨fun l h h' => ?_, fun l => ⟨fun there => ?_, ?_⟩, asked.paired⟩
  · rintro ⟨call, found, method, _⟩ ⟨call', found', method', _⟩
    rw [← asked.slotted.stored h call (.get l) found (congrArg some method),
      ← asked.slotted.stored h' call' (.get l) found' (congrArg some method')]
  · obtain ⟨cb, known⟩ := Option.ne_none_iff_exists'.mp there
    obtain ⟨call, found, _⟩ := asked.waiting l cb known
    obtain ⟨call', found', method⟩ := asked.slotted.holds (.get l) (Pool.ne_zero_of_find found)
    rw [found] at found'
    cases found'
    exact ⟨_, call, found, Option.some.inj method, asked.notified _ _ found⟩
  · rintro ⟨h, call, found, method, _⟩ absent
    have here := asked.slotted.stored h call (.get l) found (congrArg some method)
    rw [asked.idle l absent] at here
    exact absurd here.symm (Pool.ne_zero_of_find found)

/-- Nothing asked yet. -/
def started : State Nat := { calls := .ofSupply .counting, watches := .ofSupply .counting }

instance (s : State Cb) (e : Event Cb) : Decidable (Succeeds s e) := by
  unfold Succeeds
  split <;> infer_instance

/-- The services are asked for twice and the technologies once; the second
answer about the services arrives. -/
def replaced : List (Event Nat) :=
  [.init true {}, .get .services (some 11) .sent, .get .technologies (some 12) .sent, .get .services (some 13) .sent,
    .reply 4 true]

/-- The first request has no reply any more, the second callback has run, and
the technologies are still asked for. -/
theorem one_request_replaced : ∃ s, play step Succeeds started replaced = some s ∧
    s.history = [.invoked .services 2 13, .requested .services 2 13, .requested .technologies 1 12,
      .requested .services 0 11] ∧
    (∃ h, InFlight s .technologies h) ∧ s.storedCb .services = none ∧ Paired s.history := by
  obtain ⟨s, ran⟩ : ∃ s, play step Succeeds started replaced = some s := ⟨_, rfl⟩
  have one := one_request s ((Reaches.here ⟨rfl, rfl, rfl, rfl⟩).play _ ran)
  refine ⟨s, ran, ?_, (one.2.1 .technologies).mp ?_, ?_, one.2.2⟩
  · cases ran
    rfl
  · cases ran
    exact nofun
  · cases ran
    rfl

end ConnmanUi.ManagerCalls
