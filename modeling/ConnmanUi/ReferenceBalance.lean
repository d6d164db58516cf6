import ConnmanUi.References
import ConnmanUi.Run

/-!
Which runs keep the books of D-Bus references.

Messages and calls go wrong in different places, so each is settled for itself.
The books of the messages are those of before after every function but two
(`messages_step`).  The books of the calls are followed with the references a
running function holds besides those stored (`Filed`): a slot that is cleared
adds one, a call that is unreferenced takes one away.  `balanced_iff` is about
both books; `calls_iff` about the calls alone, for runs that leak a message.
-/

namespace ConnmanUi.References

open ManagerCalls (Listing)
open Run

variable {s s' : State} {slot : Slot} {sending : Sending} {e : Event} {l : Listing} {call : Nat}

/-! ## What a step does -/

/-- What each event does, and when it can happen; the replies are told apart by
the slot their call was sent for. -/
inductive Does (s : State) : Event → State → Prop where
  | created {owner : Owner} : Does s (.created owner) { s with objects := owner :: s.objects }
  | freed {owner : Owner} : Does s (.freed owner) (objectFree s owner)
  | setServiceProperty {o : ObjId} {i : Service.Property} {message setting : Bool} {sending : Sending}
      (live : .service o ∈ s.objects) :
      Does s (.setServiceProperty o i message setting sending)
        (setProperty s message setting sending (.service o i)).1
  | setTechnologyProperty {o : ObjId} {i : Technology.Property} {message setting : Bool} {sending : Sending}
      (live : .technology o ∈ s.objects) :
      Does s (.setTechnologyProperty o i message setting sending)
        (setProperty s message setting sending (.technology o i)).1
  | callEmptyMethod {o : ObjId} {message sent : Bool} :
      Does s (.callEmptyMethod o message sent) (callEmptyMethod s message sent).1
  | scan {o : ObjId} {message : Bool} {sending : Sending} (live : .technology o ∈ s.objects) :
      Does s (.scan o message sending) (connmanTechnologyScan s message sending o).1
  | init {message watch : Bool} {sending : Sending} :
      Does s (.init message sending watch) (connmanManagerInit s message sending watch).1
  | finalize : Does s .finalize (connmanManagerFinalize s)
  | get {l : Listing} {cb message : Bool} {sending : Sending} :
      Does s (.get l cb message sending) (managerGet s message sending l cb).1
  | setOfflinemode {message sent : Bool} : Does s (.setOfflinemode message sent) (managerSend s message)
  | registerAgent {message : Bool} : Does s (.registerAgent message) (managerSend s message)
  | unregisterAgent {message : Bool} : Does s (.unregisterAgent message) (managerSend s message)
  | serviceSet {call : Nat} {o : ObjId} {i : Service.Property} {r : Reply}
      (waiting : s.pending.lookup call = some (.service o i)) :
      Does s (.reply call r) (setPropertyCb (pendingCallCancel s call) (.service o i) r)
  | technologySet {call : Nat} {o : ObjId} {i : Technology.Property} {r : Reply}
      (waiting : s.pending.lookup call = some (.technology o i)) :
      Does s (.reply call r) (setPropertyCb (pendingCallCancel s call) (.technology o i) r)
  | scanned {call : Nat} {o : ObjId} {r : Reply} (waiting : s.pending.lookup call = some (.scan o)) :
      Does s (.reply call r) (scanCallback (pendingCallCancel s call) call o)
  | gotProperties {call : Nat} {r : Reply} (waiting : s.pending.lookup call = some .getProperties) :
      Does s (.reply call r) (getPropertiesCallback (pendingCallCancel s call) call r)
  | got {call : Nat} {l : Listing} {r : Reply} (waiting : s.pending.lookup call = some (.get l)) :
      Does s (.reply call r) (getCallback (pendingCallCancel s call) l call r)

theorem step_does (ran : step s e = some s') : Does s e s' := by
  cases e with
  | created owner =>
    obtain ⟨-, did⟩ := Option.ite_none_left_eq_some.mp ran
    exact Option.some.inj did ▸ .created
  | freed owner =>
    obtain ⟨-, did⟩ := Option.ite_none_right_eq_some.mp ran
    exact Option.some.inj did ▸ .freed
  | setServiceProperty o i message setting sending =>
    obtain ⟨live, did⟩ := Option.ite_none_right_eq_some.mp ran
    exact Option.some.inj did ▸ .setServiceProperty live
  | setTechnologyProperty o i message setting sending =>
    obtain ⟨live, did⟩ := Option.ite_none_right_eq_some.mp ran
    exact Option.some.inj did ▸ .setTechnologyProperty live
  | callEmptyMethod o message sent =>
    obtain ⟨-, did⟩ := Option.ite_none_right_eq_some.mp ran
    exact Option.some.inj did ▸ .callEmptyMethod
  | scan o message sending =>
    obtain ⟨live, did⟩ := Option.ite_none_right_eq_some.mp ran
    exact Option.some.inj did ▸ .scan live
  | init message sending watch => exact Option.some.inj ran ▸ .init
  | finalize => exact Option.some.inj ran ▸ .finalize
  | get l cb message sending => exact Option.some.inj ran ▸ .get
  | setOfflinemode message sent => exact Option.some.inj ran ▸ .setOfflinemode
  | registerAgent message => exact Option.some.inj ran ▸ .registerAgent
  | unregisterAgent message => exact Option.some.inj ran ▸ .unregisterAgent
  | reply call r =>
    obtain ⟨slot, waiting, did⟩ := Option.bind_eq_some_iff.mp ran
    cases slot with
    | service o i =>
      obtain ⟨-, did⟩ := Option.ite_none_right_eq_some.mp did
      exact Option.some.inj did ▸ .serviceSet waiting
    | technology o i =>
      obtain ⟨-, did⟩ := Option.ite_none_right_eq_some.mp did
      exact Option.some.inj did ▸ .technologySet waiting
    | scan o =>
      obtain ⟨-, did⟩ := Option.ite_none_right_eq_some.mp did
      exact Option.some.inj did ▸ .scanned waiting
    | getProperties =>
      obtain ⟨-, did⟩ := Option.ite_none_right_eq_some.mp did
      exact Option.some.inj did ▸ .gotProperties waiting
    | get l =>
      obtain ⟨-, did⟩ := Option.ite_none_right_eq_some.mp did
      exact Option.some.inj did ▸ .got waiting

/-! ## What a call leaves alone -/

/-- The messages, the objects and the manager are as before. -/
structure SameRest (s s' : State) : Prop where
  messages : s'.messages = s.messages
  objects : s'.objects = s.objects
  manager : s'.manager = s.manager

theorem sendWithReply_rest (s : State) (slot : Slot) (sending : Sending) :
    SameRest s (sendWithReply s slot sending) := by
  cases sending with
  | sent =>
    simp only [sendWithReply, connectionSendWithReply, pendingCallSetNotify]
    split <;> exact ⟨rfl, rfl, rfl⟩
  | notSent | noPending | noNotify => exact ⟨rfl, rfl, rfl⟩

theorem cancelSlot_rest (s : State) (slot : Slot) : SameRest s (cancelSlot s slot) := by
  unfold cancelSlot
  split <;> exact ⟨rfl, rfl, rfl⟩

theorem sendWithReply_other {x : Slot} (other : x ≠ slot) (s : State) (sending : Sending) :
    (sendWithReply s slot sending).slots.lookup x = s.slots.lookup x := by
  cases sending <;> simp only [sendWithReply, connectionSendWithReply, pendingCallSetNotify, setNull]
  · split <;> exact AList.lookup_insert_ne other
  · exact AList.lookup_erase_ne other
  · exact AList.lookup_erase_ne other
  · exact AList.lookup_insert_ne other

theorem cancelSlot_other {x : Slot} (other : x ≠ slot) (s : State) :
    (cancelSlot s slot).slots.lookup x = s.slots.lookup x := by
  unfold cancelSlot
  split
  · rfl
  · exact AList.lookup_erase_ne other

/-! ## Messages -/

@[simp]
theorem sendWithReply_messages (s : State) (slot : Slot) (sending : Sending) :
    (sendWithReply s slot sending).messages = s.messages :=
  (sendWithReply_rest s slot sending).messages

@[simp]
theorem cancelSlot_messages (s : State) (slot : Slot) : (cancelSlot s slot).messages = s.messages :=
  (cancelSlot_rest s slot).messages

/-- A message that is made, passed around and unreferenced leaves no trace. -/
theorem messageUnref_messages {number : Nat} (same : s'.messages = s.messages.acquire number) :
    (messageUnref s' number).messages = s.messages := by
  rw [messageUnref, same, Ledger.release_acquire]

@[simp]
theorem managerGet_messages (s : State) (message : Bool) (sending : Sending) (l : Listing) (cb : Bool) :
    (managerGet s message sending l cb).1.messages = s.messages := by
  unfold managerGet
  split
  · rfl
  · dsimp only
    split
    · exact cancelSlot_messages s _
    · split
      · exact cancelSlot_messages s _
      · have sent : (sendWithReply (messageNew (cancelSlot s (.get l))) (.get l) sending).messages =
            s.messages.acquire (cancelSlot s (.get l)).nextMessage := by
          simp [messageNew]
        split <;> exact messageUnref_messages sent

@[simp]
theorem getCallback_messages (s : State) (l : Listing) (call : Nat) (r : Reply) :
    (getCallback s l call r).messages = s.messages := by
  unfold getCallback
  split
  · rfl
  · dsimp only
    split
    · exact messageUnref_messages (managerGet_messages _ _ _ _ _)
    · exact messageUnref_messages rfl

@[simp]
theorem getPropertiesCallback_messages (s : State) (call : Nat) (r : Reply) :
    (getPropertiesCallback s call r).messages = s.messages := by
  unfold getPropertiesCallback
  split
  · rfl
  · exact messageUnref_messages rfl

@[simp]
theorem setPropertyCb_messages (s : State) (slot : Slot) (r : Reply) :
    (setPropertyCb s slot r).messages = s.messages := by
  unfold setPropertyCb
  split_ifs
  · rfl
  · rfl
  · rfl
  · exact messageUnref_messages rfl

@[simp]
theorem connmanManagerFinalize_messages (s : State) : (connmanManagerFinalize s).messages = s.messages := by
  unfold connmanManagerFinalize
  split <;> simp

@[simp]
theorem connmanManagerInit_messages (s : State) (message : Bool) (sending : Sending) (watch : Bool) :
    (connmanManagerInit s message sending watch).1.messages = s.messages := by
  unfold connmanManagerInit
  split
  · rfl
  · dsimp only
    split
    · simp
    · have sent : (sendWithReply (messageNew { s with manager := true }) .getProperties sending).messages =
          s.messages.acquire s.nextMessage := by
        simp [messageNew]
      split
      · exact messageUnref_messages sent
      · exact (connmanManagerFinalize_messages _).trans (messageUnref_messages sent)

@[simp]
theorem managerSend_messages (s : State) (message : Bool) : (managerSend s message).messages = s.messages := by
  unfold managerSend
  split_ifs
  · rfl
  · rfl
  · exact messageUnref_messages rfl

@[simp]
theorem connmanTechnologyScan_messages (s : State) (message : Bool) (sending : Sending) (o : ObjId) :
    (connmanTechnologyScan s message sending o).1.messages = s.messages := by
  unfold connmanTechnologyScan
  split
  · rfl
  · have sent : (sendWithReply (messageNew s) (.scan o) sending).messages =
        s.messages.acquire s.nextMessage := by
      simp [messageNew]
    cases sending <;> exact messageUnref_messages sent

@[simp]
theorem foldl_cancelSlot_messages (slots : List Slot) (s : State) :
    (slots.foldl cancelSlot s).messages = s.messages := by
  induction slots generalizing s with
  | nil => rfl
  | cons slot slots ih => rw [List.foldl_cons, ih, cancelSlot_messages]

/-- A SetProperty goes through: the slot was empty, and nothing failed. -/
def GoesThrough (s : State) (slot : Slot) (message setting : Bool) (sending : Sending) : Prop :=
  s.slots.lookup slot = none ∧ message = true ∧ setting = true ∧ sending = .sent

/-- One that goes through leaves its message behind. -/
theorem setProperty_messages (s : State) (message setting : Bool) (sending : Sending) (slot : Slot) :
    GoesThrough s slot message setting sending ∧
        (setProperty s message setting sending slot).1.messages = s.messages.acquire s.nextMessage ∨
      ¬GoesThrough s slot message setting sending ∧
        (setProperty s message setting sending slot).1.messages = s.messages := by
  have sent : (sendWithReply (messageNew s) slot sending).messages = s.messages.acquire s.nextMessage := by
    simp [messageNew]
  unfold setProperty GoesThrough
  cases empty : s.slots.lookup slot with
  | some call => exact .inr ⟨by simp, rfl⟩
  | none =>
    cases message with
    | false => exact .inr ⟨by simp, rfl⟩
    | true =>
      cases setting with
      | false => exact .inr ⟨by simp, messageUnref_messages rfl⟩
      | true =>
        cases sending with
        | sent => exact .inl ⟨⟨rfl, rfl, rfl, rfl⟩, sent⟩
        | notSent | noPending | noNotify => exact .inr ⟨by simp, messageUnref_messages sent⟩

/-- A message that could not be sent is unreferenced once more. -/
theorem callEmptyMethod_messages (s : State) (message sent : Bool) :
    (callEmptyMethod s message sent).1.messages =
      if message = true → sent = true then s.messages else s.messages.release s.nextMessage := by
  cases message with
  | false => rfl
  | true => cases sent <;> simp [callEmptyMethod, gDbusSendMessage, messageUnref, messageNew]

/-- The steps the books of the messages survive. -/
def TidyMessages (s : State) : Event → Prop
  | .setServiceProperty o i message setting sending => ¬GoesThrough s (.service o i) message setting sending
  | .setTechnologyProperty o i message setting sending =>
    ¬GoesThrough s (.technology o i) message setting sending
  | .callEmptyMethod _ message sent => message = true → sent = true
  | _ => True

theorem setProperty_tidy (message setting : Bool) (slot : Slot) (none_ : s.messages.Balanced 0) :
    (setProperty s message setting sending slot).1.messages.Balanced 0 ↔
      ¬GoesThrough s slot message setting sending := by
  rcases setProperty_messages s message setting sending slot with ⟨through, left⟩ | ⟨failed, same⟩
  · rw [left]
    exact iff_of_false (fun balanced => Multiset.cons_ne_zero balanced.1) (not_not.mpr through)
  · rw [same]
    exact iff_of_true none_ failed

/-- A step from books without messages ends in such if and only if it is tidy. -/
theorem messages_step (none_ : s.messages.Balanced 0) (ran : step s e = some s') :
    s'.messages.Balanced 0 ↔ TidyMessages s e := by
  have kept (same : s'.messages = s.messages) (tidy : TidyMessages s e) :
      s'.messages.Balanced 0 ↔ TidyMessages s e := iff_of_true (same ▸ none_) tidy
  cases step_does ran with
  | created => exact kept rfl trivial
  | freed => exact kept (foldl_cancelSlot_messages _ _) trivial
  | setServiceProperty live => exact setProperty_tidy _ _ _ none_
  | setTechnologyProperty live => exact setProperty_tidy _ _ _ none_
  | callEmptyMethod =>
    rw [callEmptyMethod_messages]
    split
    · next tidy => exact iff_of_true none_ tidy
    · next untidy => exact iff_of_false (Ledger.not_balanced_release (by simp [none_.1])) untidy
  | scan live => exact kept (connmanTechnologyScan_messages _ _ _ _) trivial
  | init => exact kept (connmanManagerInit_messages _ _ _ _) trivial
  | finalize => exact kept (connmanManagerFinalize_messages _) trivial
  | get => exact kept (managerGet_messages _ _ _ _ _) trivial
  | setOfflinemode => exact kept (managerSend_messages _ _) trivial
  | registerAgent => exact kept (managerSend_messages _ _) trivial
  | unregisterAgent => exact kept (managerSend_messages _ _) trivial
  | serviceSet waiting => exact kept (setPropertyCb_messages _ _ _) trivial
  | technologySet waiting => exact kept (setPropertyCb_messages _ _ _) trivial
  | scanned waiting => exact kept rfl trivial
  | gotProperties waiting => exact kept (getPropertiesCallback_messages _ _ _) trivial
  | got waiting => exact kept (getCallback_messages _ _ _ _) trivial

/-! ## Calls -/

/-- The books of the calls agree with the slots and what a running function
holds besides; and every call that will notify is in its slot. -/
structure Filed (extra : Multiset Nat) (s : State) : Prop where
  balanced : s.calls.Balanced (extra + Slots.contents s.slots)
  notified : ∀ call slot, (call, slot) ∈ s.pending → s.slots.lookup slot = some call

variable {extra : Multiset Nat}

theorem Filed.messageNew (filed : Filed extra s) : Filed extra (messageNew s) := ⟨filed.balanced, filed.notified⟩

theorem Filed.messageUnref (filed : Filed extra s) (number : Nat) : Filed extra (messageUnref s number) :=
  ⟨filed.balanced, filed.notified⟩

/-- A call sent for an empty slot is filed there. -/
theorem Filed.sendWithReply (filed : Filed extra s) (empty : s.slots.lookup slot = none) (sending : Sending) :
    Filed extra (sendWithReply s slot sending) := by
  have elsewhere : ∀ call x, (call, x) ∈ s.pending → x ≠ slot := by
    rintro call x there rfl
    exact absurd ((filed.notified call x there).symm.trans empty) (by simp)
  have cleared : Filed extra (setNull s slot) := by
    unfold setNull
    rw [Slots.erase_of_none empty]
    exact filed
  have stored : Filed extra (connectionSendWithReply s slot .noNotify) := by
    refine ⟨?_, fun call x there => ?_⟩
    · show (s.calls.acquire s.nextCall).Balanced (extra + Slots.contents (s.slots.insert slot s.nextCall))
      rw [Slots.contents_insert empty, Multiset.add_cons]
      exact filed.balanced.acquire
    · exact (AList.lookup_insert_ne (elsewhere call x there)).trans (filed.notified call x there)
  cases sending with
  | notSent | noPending => exact cleared
  | noNotify => exact stored
  | sent =>
    have slotted : (connectionSendWithReply s slot .sent).slots.lookup slot = some s.nextCall :=
      AList.lookup_insert s.slots
    simp only [References.sendWithReply, pendingCallSetNotify, slotted]
    refine ⟨stored.balanced, fun call x there => ?_⟩
    rcases List.mem_cons.mp there with this | there
    · cases this
      exact slotted
    · exact stored.notified call x there

/-- A call taken out of its slot is held besides. -/
theorem Filed.take (filed : Filed extra s) (there : s.slots.lookup slot = some call) :
    Filed (call ::ₘ extra) (setNull (pendingCallCancel s call) slot) := by
  refine ⟨?_, fun call' x waiting => ?_⟩
  · show s.calls.Balanced (call ::ₘ extra + Slots.contents (s.slots.erase slot))
    rw [Multiset.cons_add, ← Multiset.add_cons, ← Slots.contents_erase there]
    exact filed.balanced
  · obtain ⟨waiting, other⟩ := List.mem_filter.mp waiting
    have slotted := filed.notified call' x waiting
    have elsewhere : x ≠ slot := by
      rintro rfl
      simp [Option.some.inj (slotted.symm.trans there)] at other
    exact (AList.lookup_erase_ne elsewhere).trans slotted

/-- A call held besides is given back. -/
theorem Filed.unref (filed : Filed (call ::ₘ extra) s) : Filed extra (pendingCallUnref s call) := by
  refine ⟨?_, filed.notified⟩
  have balanced := filed.balanced
  rw [Multiset.cons_add] at balanced
  exact balanced.release

theorem Filed.cancelSlot (filed : Filed extra s) (slot : Slot) : Filed extra (cancelSlot s slot) := by
  unfold References.cancelSlot
  split
  · exact filed
  · next call there => exact (filed.take there).unref

@[simp]
theorem cancelSlot_lookup (s : State) (slot : Slot) : (cancelSlot s slot).slots.lookup slot = none := by
  unfold cancelSlot
  split
  · next empty => exact empty
  · exact AList.lookup_erase slot s.slots

theorem Filed.managerGet (filed : Filed extra s) (message : Bool) (sending : Sending) (l : Listing) (cb : Bool) :
    Filed extra (managerGet s message sending l cb).1 := by
  unfold References.managerGet
  split
  · exact filed
  · have cancelled := filed.cancelSlot (.get l)
    have sent := cancelled.messageNew.sendWithReply (cancelSlot_lookup s (.get l)) sending
    dsimp only
    split
    · exact cancelled
    · split
      · exact cancelled
      · cases sending <;> exact sent.messageUnref _

theorem Filed.getCallback (filed : Filed extra s) (there : s.slots.lookup (.get l) = some call) (r : Reply) :
    Filed extra (getCallback (pendingCallCancel s call) l call r) := by
  have taken := filed.take there
  unfold References.getCallback
  split
  · exact taken.unref
  · dsimp only
    split
    · exact ((taken.messageNew.managerGet _ _ _ _).messageUnref _).unref
    · exact (taken.messageNew.messageUnref _).unref

theorem Filed.getPropertiesCallback (filed : Filed extra s)
    (there : s.slots.lookup .getProperties = some call) (r : Reply) :
    Filed extra (getPropertiesCallback (pendingCallCancel s call) call r) := by
  have taken := filed.take there
  unfold References.getPropertiesCallback
  split
  · exact taken.unref
  · exact (taken.messageNew.messageUnref _).unref

theorem Filed.scanCallback {o : ObjId} (filed : Filed extra s) (there : s.slots.lookup (.scan o) = some call) :
    Filed extra (scanCallback (pendingCallCancel s call) call o) :=
  (filed.take there).unref

/-- `set_property_cb` keeps the reference to its call. -/
theorem Filed.setPropertyCb (filed : Filed extra s) (there : s.slots.lookup slot = some call) (r : Reply) :
    Filed (call ::ₘ extra) (setPropertyCb (pendingCallCancel s call) slot r) := by
  have taken := filed.take there
  unfold References.setPropertyCb
  split_ifs
  · exact taken
  · exact taken
  · exact taken
  · exact taken.messageNew.messageUnref _

theorem Filed.setProperty (filed : Filed extra s) (message setting : Bool) (sending : Sending) (slot : Slot) :
    Filed extra (setProperty s message setting sending slot).1 := by
  unfold References.setProperty
  split
  · exact filed
  · next full =>
    have empty : s.slots.lookup slot = none := by simpa using full
    have sent := filed.messageNew.sendWithReply empty sending
    dsimp only
    split
    · exact filed
    · split
      · exact filed.messageNew.messageUnref _
      · cases sending with
        | sent => exact sent
        | notSent | noPending | noNotify => exact sent.messageUnref _

theorem Filed.foldl_cancelSlot (slots : List Slot) (filed : Filed extra s) :
    Filed extra (slots.foldl References.cancelSlot s) := by
  induction slots generalizing s with
  | nil => exact filed
  | cons slot slots ih => exact ih (filed.cancelSlot slot)

theorem Filed.finalize (filed : Filed extra s) : Filed extra (connmanManagerFinalize s) := by
  unfold connmanManagerFinalize
  split
  · exact filed
  · have cancelled := ((filed.cancelSlot .getProperties).cancelSlot (.get .technologies)).cancelSlot (.get .services)
    exact ⟨cancelled.balanced, cancelled.notified⟩

theorem Filed.init (filed : Filed extra s) (empty : s.manager = false → s.slots.lookup .getProperties = none)
    (message : Bool) (sending : Sending) (watch : Bool) :
    Filed extra (connmanManagerInit s message sending watch).1 := by
  unfold connmanManagerInit
  split
  · exact filed
  · next down =>
    have up : Filed extra { s with manager := true } := ⟨filed.balanced, filed.notified⟩
    have sent := up.messageNew.sendWithReply (empty (Bool.eq_false_of_not_eq_true down)) sending
    dsimp only
    split
    · exact up.finalize
    · split
      · exact sent.messageUnref _
      · exact (sent.messageUnref _).finalize

theorem Filed.scan {o : ObjId} (filed : Filed extra s) (message : Bool) (sending : Sending)
    (empty : message = true → s.slots.lookup (.scan o) = none) :
    Filed extra (connmanTechnologyScan s message sending o).1 := by
  cases message with
  | false => exact filed
  | true =>
    have sent := filed.messageNew.sendWithReply (empty rfl) sending
    cases sending <;> exact sent.messageUnref _

theorem Filed.managerSend (filed : Filed extra s) (message : Bool) : Filed extra (managerSend s message) := by
  unfold References.managerSend
  split_ifs
  · exact filed
  · exact filed
  · exact filed.messageNew.messageUnref _

/-- A call that is sent for a slot in use displaces the one there. -/
theorem sendWithReply_displaces (filed : Filed extra s) (there : s.slots.lookup slot = some call)
    (sending : Sending) :
    (sendWithReply s slot sending).calls.Balanced
      (call ::ₘ extra + Slots.contents (sendWithReply s slot sending).slots) := by
  have before := filed.balanced
  rw [Slots.contents_erase there, Multiset.add_cons, ← Multiset.cons_add] at before
  have replaced : (s.calls.acquire s.nextCall).Balanced
      (call ::ₘ extra + Slots.contents (s.slots.insert slot s.nextCall)) := by
    rw [Slots.contents_insert_erase, Multiset.add_cons]
    exact before.acquire
  cases sending with
  | notSent | noPending => exact before
  | noNotify => exact replaced
  | sent =>
    simp only [sendWithReply, pendingCallSetNotify]
    split <;> exact replaced

/-! ## Live slots -/

/-- Only live slots hold calls. -/
def Closed (s : State) : Prop := ∀ slot : Slot, (s.slots.lookup slot).isSome = true → slot.Live s

theorem Closed.empty (closed : Closed s) (dead : ¬slot.Live s) : s.slots.lookup slot = none := by
  cases held : s.slots.lookup slot with
  | none => rfl
  | some call => exact absurd (closed slot (by simp [held])) dead

/-- More may be there afterwards. -/
theorem Slot.Live.mono (live : slot.Live s) (objects : ∀ owner ∈ s.objects, owner ∈ s'.objects)
    (manager : s.manager = true → s'.manager = true) : slot.Live s' := by
  cases slot with
  | service o i => exact objects _ live
  | technology o i => exact objects _ live
  | scan o => exact objects _ live
  | getProperties => exact manager live
  | get l => exact manager live

theorem Closed.mono (closed : Closed s) (slots : s'.slots = s.slots)
    (objects : ∀ owner ∈ s.objects, owner ∈ s'.objects) (manager : s.manager = true → s'.manager = true) :
    Closed s' :=
  fun slot held => (closed slot (slots ▸ held)).mono objects manager

/-- A slot changes, and is empty or live. -/
theorem Closed.of_slot (closed : Closed s) (rest : SameRest s s')
    (others : ∀ x, x ≠ slot → s'.slots.lookup x = s.slots.lookup x)
    (here : (s'.slots.lookup slot).isSome = true → slot.Live s) : Closed s' := by
  intro x held
  have live : x.Live s := by
    by_cases same : x = slot
    · subst same
      exact here held
    · exact closed x (others x same ▸ held)
  exact live.mono (fun _ there => rest.objects ▸ there) rest.manager.trans

theorem Closed.setNull (closed : Closed s) (slot : Slot) : Closed (setNull s slot) :=
  closed.of_slot ⟨rfl, rfl, rfl⟩ (fun _ other => AList.lookup_erase_ne other)
    fun held => absurd held (by simp [References.setNull])

theorem Closed.sendWithReply (closed : Closed s) (live : slot.Live s) (sending : Sending) :
    Closed (sendWithReply (messageNew s) slot sending) := by
  have made : Closed (messageNew s) := closed
  exact made.of_slot (sendWithReply_rest _ slot sending) (fun _ other => sendWithReply_other other _ sending)
    fun _ => live

theorem Closed.cancelSlot (closed : Closed s) (slot : Slot) : Closed (cancelSlot s slot) :=
  closed.of_slot (cancelSlot_rest s slot) (fun _ other => cancelSlot_other other s) fun held => absurd held (by simp)

theorem Closed.foldl_cancelSlot (slots : List Slot) (closed : Closed s) :
    Closed (slots.foldl References.cancelSlot s) := by
  induction slots generalizing s with
  | nil => exact closed
  | cons slot slots ih => exact ih (closed.cancelSlot slot)

/-- What is cancelled stays so. -/
theorem foldl_cancelSlot_lookup (slots : List Slot) (there : slot ∈ slots ∨ s.slots.lookup slot = none) :
    (slots.foldl cancelSlot s).slots.lookup slot = none := by
  induction slots generalizing s with
  | nil => exact there.resolve_left List.not_mem_nil
  | cons first slots ih =>
    refine ih (or_iff_not_imp_left.mpr fun later => ?_)
    by_cases same : slot = first
    · subst same
      exact cancelSlot_lookup s slot
    · rw [cancelSlot_other same]
      exact there.resolve_left fun here => (List.mem_cons.mp here).elim same later

theorem foldl_cancelSlot_objects (slots : List Slot) (s : State) :
    (slots.foldl cancelSlot s).objects = s.objects := by
  induction slots generalizing s with
  | nil => rfl
  | cons slot slots ih => rw [List.foldl_cons, ih, (cancelSlot_rest s slot).objects]

/-- The slots of other objects stay live. -/
theorem Slot.Live.erase {owner : Owner} (live : slot.Live s) (other : slot ∉ owner.slots) :
    slot.Live { s with objects := s.objects.erase owner } := by
  cases slot with
  | service o i =>
    refine (List.mem_erase_of_ne ?_).mpr live
    rintro rfl
    exact other (List.mem_map_of_mem (PropertyIndex.mem_all i))
  | technology o i =>
    refine (List.mem_erase_of_ne ?_).mpr live
    rintro rfl
    exact other (List.mem_append_left _ (List.mem_map_of_mem (PropertyIndex.mem_all i)))
  | scan o =>
    refine (List.mem_erase_of_ne ?_).mpr live
    rintro rfl
    exact other (List.mem_append_right _ (List.mem_singleton_self _))
  | getProperties => exact live
  | get l => exact live

theorem Closed.objectFree (closed : Closed s) (owner : Owner) : Closed (objectFree s owner) := by
  intro slot held
  have live : slot.Live (owner.slots.foldl References.cancelSlot s) := closed.foldl_cancelSlot owner.slots slot held
  have other : slot ∉ owner.slots := by
    intro there
    have empty := foldl_cancelSlot_lookup (s := s) owner.slots (.inl there)
    simp [References.objectFree, empty] at held
  have erased := live.erase other
  rw [foldl_cancelSlot_objects] at erased
  exact erased

theorem Closed.setProperty (closed : Closed s) (message setting : Bool) (sending : Sending)
    (live : slot.Live s) : Closed (setProperty s message setting sending slot).1 := by
  have sent := closed.sendWithReply live sending
  unfold References.setProperty
  split
  · exact closed
  · dsimp only
    split
    · exact closed
    · split
      · exact closed
      · split <;> exact sent

theorem Closed.scan {o : ObjId} (closed : Closed s) (message : Bool) (sending : Sending)
    (live : (Slot.scan o).Live s) : Closed (connmanTechnologyScan s message sending o).1 := by
  have sent := closed.sendWithReply live sending
  unfold connmanTechnologyScan
  split
  · exact closed
  · dsimp only
    split <;> exact sent

theorem Closed.finalize (closed : Closed s) : Closed (connmanManagerFinalize s) := by
  unfold connmanManagerFinalize
  split
  · exact closed
  · intro slot held
    have cancelled := ((closed.cancelSlot .getProperties).cancelSlot (.get .technologies)).cancelSlot (.get .services)
    have live := cancelled slot held
    cases slot with
    | service o i => exact live
    | technology o i => exact live
    | scan o => exact live
    | getProperties =>
      dsimp only at held
      rw [cancelSlot_other (by simp), cancelSlot_other (by simp), cancelSlot_lookup] at held
      cases held
    | get l =>
      dsimp only at held
      cases l with
      | technologies =>
        rw [cancelSlot_other (by simp), cancelSlot_lookup] at held
        cases held
      | services =>
        rw [cancelSlot_lookup] at held
        cases held

theorem Closed.init (closed : Closed s) (message : Bool) (sending : Sending) (watch : Bool) :
    Closed (connmanManagerInit s message sending watch).1 := by
  unfold connmanManagerInit
  split
  · exact closed
  · have up : Closed { s with manager := true } := closed.mono rfl (fun _ there => there) fun _ => rfl
    have live : Slot.getProperties.Live { s with manager := true } := rfl
    have sent := up.sendWithReply live sending
    dsimp only
    split
    · exact up.finalize
    · split
      · exact sent
      · exact Closed.finalize (s := messageUnref _ _) sent

theorem Closed.managerGet (closed : Closed s) (message : Bool) (sending : Sending) (l : Listing) (cb : Bool) :
    Closed (managerGet s message sending l cb).1 := by
  unfold References.managerGet
  split
  · exact closed
  · next up =>
    have cancelled := closed.cancelSlot (.get l)
    have live : (Slot.get l).Live (References.cancelSlot s (.get l)) :=
      (cancelSlot_rest s _).manager.trans (by simpa using up)
    have sent := cancelled.sendWithReply live sending
    dsimp only
    split
    · exact cancelled
    · split
      · exact cancelled
      · split <;> exact sent

theorem Closed.managerSend (closed : Closed s) (message : Bool) : Closed (managerSend s message) := by
  unfold References.managerSend
  split_ifs <;> exact closed

theorem Closed.getCallback (closed : Closed s) (l : Listing) (call : Nat) (r : Reply) :
    Closed (getCallback s l call r) := by
  have cleared := closed.setNull (.get l)
  unfold References.getCallback
  split
  · exact cleared
  · dsimp only
    split
    · exact Closed.managerGet (s := messageNew (References.setNull s (.get l))) cleared _ _ _ _
    · exact cleared

theorem Closed.getPropertiesCallback (closed : Closed s) (call : Nat) (r : Reply) :
    Closed (getPropertiesCallback s call r) := by
  have cleared := closed.setNull .getProperties
  unfold References.getPropertiesCallback
  split <;> exact cleared

/-! ## Steps -/

/-- The steps the books of the calls survive. -/
def TidyCalls (s : State) : Event → Prop
  | .scan o message _ => message = true → s.slots.lookup (.scan o) = none
  | .reply call _ =>
    match s.pending.lookup call with
    | some (.service _ _) | some (.technology _ _) => False
    | _ => True
  | _ => True

/-- The calls of a state no function runs in. -/
structure Kept (s : State) : Prop where
  filed : Filed 0 s
  closed : Closed s

theorem Kept.balanced (kept : Kept s) : s.calls.Balanced (Slots.contents s.slots) := by
  simpa using kept.filed.balanced

theorem kept_start : Kept {} := ⟨⟨⟨rfl, rfl⟩, by simp⟩, fun _ held => absurd held Bool.false_ne_true⟩

/-- A call held besides the slots spoils the books. -/
theorem not_balanced_of_extra (balanced : s.calls.Balanced (call ::ₘ 0 + Slots.contents s.slots)) :
    ¬s.calls.Balanced (Slots.contents s.slots) := by
  rw [balanced.extra_iff]
  exact Multiset.cons_ne_zero

/-- A handled reply: the call was in flight for a slot, and in it. -/
theorem reply_slotted (kept : Kept s) (waiting : s.pending.lookup call = some slot) :
    s.slots.lookup slot = some call := by
  obtain ⟨before, after, entries, -⟩ := List.lookup_eq_some_iff.mp waiting
  exact kept.filed.notified call slot (by simp [entries])

/-- A step from such a state is tidy and ends in another, or is untidy and
spoils the books. -/
theorem calls_step (kept : Kept s) (ran : step s e = some s') :
    TidyCalls s e ∧ Kept s' ∨ ¬TidyCalls s e ∧ ¬s'.calls.Balanced (Slots.contents s'.slots) := by
  obtain ⟨filed, closed⟩ := kept
  cases step_does ran with
  | @created owner =>
    exact .inl ⟨trivial, ⟨filed.balanced, filed.notified⟩,
      closed.mono rfl (fun _ there => List.mem_cons_of_mem owner there) id⟩
  | @freed owner =>
    have cancelled := filed.foldl_cancelSlot owner.slots
    exact .inl ⟨trivial, ⟨cancelled.balanced, cancelled.notified⟩, closed.objectFree owner⟩
  | setServiceProperty live => exact .inl ⟨trivial, filed.setProperty _ _ _ _, closed.setProperty _ _ _ live⟩
  | setTechnologyProperty live => exact .inl ⟨trivial, filed.setProperty _ _ _ _, closed.setProperty _ _ _ live⟩
  | callEmptyMethod =>
    refine .inl ⟨trivial, ?_⟩
    unfold callEmptyMethod
    split_ifs
    · exact ⟨filed, closed⟩
    · exact ⟨(filed.messageNew.messageUnref _).messageUnref _, closed⟩
    · exact ⟨filed.messageNew.messageUnref _, closed⟩
  | @scan o message sending live =>
    cases message with
    | false => exact .inl ⟨fun made => absurd made (by simp), filed, closed⟩
    | true =>
      cases there : s.slots.lookup (.scan o) with
      | none => exact .inl ⟨fun _ => there, filed.scan true sending fun _ => there, closed.scan true sending live⟩
      | some call =>
        refine .inr ⟨fun tidy => absurd ((tidy rfl).symm.trans there) (by simp), ?_⟩
        have displaced := sendWithReply_displaces filed.messageNew there sending
        cases sending <;> exact not_balanced_of_extra displaced
  | init =>
    have empty (down : s.manager = false) : s.slots.lookup .getProperties = none :=
      closed.empty (by simp [Slot.Live, down])
    exact .inl ⟨trivial, filed.init empty _ _ _, closed.init _ _ _⟩
  | finalize => exact .inl ⟨trivial, filed.finalize, closed.finalize⟩
  | get => exact .inl ⟨trivial, filed.managerGet _ _ _ _, closed.managerGet _ _ _ _⟩
  | setOfflinemode => exact .inl ⟨trivial, filed.managerSend _, closed.managerSend _⟩
  | registerAgent => exact .inl ⟨trivial, filed.managerSend _, closed.managerSend _⟩
  | unregisterAgent => exact .inl ⟨trivial, filed.managerSend _, closed.managerSend _⟩
  | @serviceSet call o i r waiting | @technologySet call o i r waiting =>
    have kept_back := filed.setPropertyCb (reply_slotted ⟨filed, closed⟩ waiting) r
    refine .inr ⟨?_, not_balanced_of_extra kept_back.balanced⟩
    simp only [TidyCalls, waiting, not_false_eq_true]
  | @scanned call o r waiting =>
    exact .inl ⟨by simp only [TidyCalls, waiting], filed.scanCallback (reply_slotted ⟨filed, closed⟩ waiting),
      closed.setNull (.scan o)⟩
  | @gotProperties call r waiting =>
    exact .inl ⟨by simp only [TidyCalls, waiting],
      filed.getPropertiesCallback (reply_slotted ⟨filed, closed⟩ waiting) r,
      Closed.getPropertiesCallback (s := pendingCallCancel s call) closed call r⟩
  | @got call l r waiting =>
    exact .inl ⟨by simp only [TidyCalls, waiting], filed.getCallback (reply_slotted ⟨filed, closed⟩ waiting) r,
      Closed.getCallback (s := pendingCallCancel s call) closed l call r⟩

/-- The steps the books survive. -/
def Tidy (s : State) (e : Event) : Prop := TidyMessages s e ∧ TidyCalls s e

/-- The books balance after a step. -/
def LeavesBalanced (s : State) (e : Event) : Prop := ∀ s', step s e = some s' → Balanced s'

theorem leavesBalanced_step (none_ : s.messages.Balanced 0) (kept : Kept s) (ran : step s e = some s') :
    LeavesBalanced s e ↔ Tidy s e := by
  have after : LeavesBalanced s e ↔ Balanced s' :=
    ⟨fun leaves => leaves s' ran, fun balanced t ran' => Option.some.inj (ran.symm.trans ran') ▸ balanced⟩
  rw [after, Balanced, messages_step none_ ran, Tidy]
  refine and_congr_right fun _ => ?_
  rcases calls_step kept ran with ⟨tidy, kept'⟩ | ⟨untidy, spoilt⟩
  · exact iff_of_true ⟨kept'.balanced, kept'.closed⟩ tidy
  · exact iff_of_false (fun balanced => spoilt balanced.1) untidy

/-- In every run of the three files, the references held are those in the live
slots after every step if and only if every step is tidy. -/
theorem balanced_iff (events : List Event) :
    AllSteps step LeavesBalanced {} events ↔ AllSteps step Tidy {} events := by
  refine AllSteps.iff (I := fun s => s.messages.Balanced 0 ∧ Kept s) ?_ ?_ ?_ events
  · exact fun s e s' inv ran => leavesBalanced_step inv.1 inv.2 ran
  · intro s e s' inv ran _ tidy
    refine ⟨(messages_step inv.1 ran).mpr tidy.1, ?_⟩
    rcases calls_step inv.2 ran with ⟨-, kept⟩ | ⟨untidy, -⟩
    · exact kept
    · exact absurd tidy.2 untidy
  · exact ⟨⟨rfl, rfl⟩, kept_start⟩

/-- With the books of the messages left aside, those of the calls balance after
every step if and only if no reply to a SetProperty is handled and no scan is
asked for while one is in its slot. -/
theorem calls_iff (events : List Event) :
    AllSteps step (fun s e => ∀ s', step s e = some s' → s'.calls.Balanced (Slots.contents s'.slots)) {} events ↔
      AllSteps step TidyCalls {} events := by
  refine AllSteps.iff (I := Kept) ?_ ?_ kept_start events
  · intro s e s' kept ran
    rcases calls_step kept ran with ⟨tidy, kept'⟩ | ⟨untidy, spoilt⟩
    · exact iff_of_true (fun t ran' => Option.some.inj (ran.symm.trans ran') ▸ kept'.balanced) tidy
    · exact iff_of_false (fun leaves => spoilt (leaves s' ran)) untidy
  · intro s e s' kept ran _ tidy
    rcases calls_step kept ran with ⟨-, kept'⟩ | ⟨untidy, -⟩
    · exact kept'
    · exact absurd tidy untidy

/-- AutoConnect is set on a service: the message stays. -/
theorem not_always_balanced : ¬ ∀ events, AllSteps step LeavesBalanced {} events := by
  intro always
  have leaves := AllSteps.last [.created (.service 0)] (.setServiceProperty 0 .autoconnect true true .sent)
    (always _) rfl rfl
  exact absurd (congrArg Multiset.card (leaves _ rfl).1.1) (by decide)

end ConnmanUi.References
