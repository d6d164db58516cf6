import ConnmanUi.ReferenceBalance
import ConnmanUi.RegistryTimers

/-!
The slots of the references and those of the modules.

The registries and the manager's calls are models of the same functions, with a
handle or zero in each slot.  `InUse` says that the same slots are in use there
as here; the functions keep it, and return the same (`setProperty_agrees` and
those after it).
-/

namespace ConnmanUi.References

open ManagerCalls (Listing Method)

variable {s s' : State} {call : Nat}

/-- A slot that names its own place holds a call here exactly if the handle in
it is not zero. -/
def InUse {κ : Type} (place : κ → Slot) (s : State) (slot : κ → Nat) : Prop :=
  ∀ k, (s.slots.lookup (place k)).isSome = true ↔ slot k ≠ 0

/-- `s'` has the slots of `s`, but for one. -/
def OnlySlot (slot : Slot) (s s' : State) : Prop := ∀ x, x ≠ slot → s'.slots.lookup x = s.slots.lookup x

section InUse
variable {κ : Type} [DecidableEq κ] {place : κ → Slot} {slot : κ → Nat} {k : κ}

theorem InUse.of_only (injective : Function.Injective place) (inUse : InUse place s slot)
    (only : OnlySlot (place k) s s') {handle : Nat}
    (here : (s'.slots.lookup (place k)).isSome = true ↔ handle ≠ 0) :
    InUse place s' (Function.update slot k handle) := by
  intro k'
  by_cases same : k' = k
  · subst same
    rw [Function.update_self]
    exact here
  · rw [Function.update_of_ne same, only _ fun back => same (injective back)]
    exact inUse k'

theorem sendWithReply_only (s : State) (x : Slot) (sending : Sending) : OnlySlot x s (sendWithReply s x sending) :=
  fun _ other => sendWithReply_other other s sending

/-- What the slot holds after a call was sent for it. -/
theorem sendWithReply_lookup (s : State) (x : Slot) (sending : Sending) :
    (sendWithReply s x sending).slots.lookup x =
      match sending with
      | .sent | .noNotify => some s.nextCall
      | .notSent | .noPending => none := by
  cases sending <;> simp only [sendWithReply, connectionSendWithReply, pendingCallSetNotify, setNull]
  · split <;> exact AList.lookup_insert s.slots
  · exact AList.lookup_erase x s.slots
  · exact AList.lookup_erase x s.slots
  · exact AList.lookup_insert s.slots

theorem cancelSlot_only (s : State) (x : Slot) : OnlySlot x s (cancelSlot s x) :=
  fun _ other => cancelSlot_other other s

theorem setNull_only (s : State) (x : Slot) : OnlySlot x s (setNull s x) :=
  fun _ other => AList.lookup_erase_ne other

end InUse

/-! ## Properties -/

section Properties
variable {ι ρ : Type} {place : ObjId × ι → Slot}
  {r : Registry ι ρ} {o : ObjId} {i : ι}

/-- The `call_modify` slots of a registry. -/
def modifySlot (r : Registry ι ρ) : ObjId × ι → Nat := fun k => (r.heap k.1).callModify k.2

theorem modifySlot_store [DecidableEq ι] (r : Registry ι ρ) (o : ObjId) (i : ι) (handle : Nat) :
    modifySlot (r.modify o fun obj => { obj with callModify := Function.update obj.callModify i handle }) =
      Function.update (modifySlot r) (o, i) handle := by
  funext ⟨o', i'⟩
  by_cases object : o' = o
  · subst object
    by_cases index : i' = i <;> simp [modifySlot, Registry.heap_modify, Function.update, index]
  · simp [modifySlot, Registry.heap_modify, Function.update, object]

/-- How a call fares, as the registry has it. -/
def outcomeOf (message setting : Bool) (sending : Sending) : SendOutcome :=
  if !message then .noMessage
  else if !setting then .noSetting
  else match sending with
    | .sent => .sent
    | .notSent => .refused
    | .noPending => .noPending
    | .noNotify => .noNotify

/-- What a SetProperty that is sent leaves in an empty slot of the registry. -/
theorem modifySlot_send [DecidableEq ι] (empty : (r.heap o).callModify i = 0) (sending : Sending) :
    ∃ handle, modifySlot (r.sendSetProperty o i (outcomeOf true true sending)).1 =
        Function.update (modifySlot r) (o, i) handle ∧
      (handle ≠ 0 ↔ sending = .sent ∨ sending = .noNotify) := by
  have free : ¬(r.heap o).callModify i ≠ 0 := not_not.mpr empty
  unfold Registry.sendSetProperty
  rw [if_neg free]
  cases sending with
  | sent | noNotify =>
    exact ⟨r.calls.fresh, modifySlot_store _ o i _, iff_of_true r.calls.fresh_ne_zero (by simp)⟩
  | notSent | noPending => exact ⟨0, modifySlot_store r o i 0, by simp⟩

/-- Sending a SetProperty returns the same, and uses the same slots. -/
theorem setProperty_agrees [DecidableEq ι]
    (injective : Function.Injective place) (inUse : InUse place s (modifySlot r))
    (message setting : Bool) (sending : Sending) (o : ObjId) (i : ι) :
    (setProperty s message setting sending (place (o, i))).2 =
        (r.sendSetProperty o i (outcomeOf message setting sending)).2 ∧
      InUse place (setProperty s message setting sending (place (o, i))).1
        (modifySlot (r.sendSetProperty o i (outcomeOf message setting sending)).1) := by
  have here := inUse (o, i)
  by_cases used : (r.heap o).callModify i ≠ 0
  · have full := here.mpr used
    unfold setProperty Registry.sendSetProperty
    rw [if_pos full, if_pos used]
    exact ⟨rfl, inUse⟩
  · have empty : ¬(s.slots.lookup (place (o, i))).isSome = true := fun full => used (here.mp full)
    obtain ⟨handle, slots, filled⟩ := modifySlot_send (not_not.mp used) sending
    cases message with
    | false =>
      unfold setProperty Registry.sendSetProperty
      rw [if_neg empty, if_neg used]
      exact ⟨rfl, inUse⟩
    | true =>
      cases setting with
      | false =>
        unfold setProperty Registry.sendSetProperty
        rw [if_neg empty, if_neg used]
        exact ⟨rfl, inUse⟩
      | true =>
        rw [slots]
        have stored : InUse place (sendWithReply (messageNew s) (place (o, i)) sending)
            (Function.update (modifySlot r) (o, i) handle) := by
          refine inUse.of_only injective (sendWithReply_only (messageNew s) _ sending) ?_
          rw [filled, sendWithReply_lookup]
          cases sending <;> simp
        unfold setProperty Registry.sendSetProperty
        rw [if_neg empty, if_neg used]
        cases sending <;> exact ⟨rfl, stored⟩

theorem modifySlot_same {r' : Registry ι ρ} (same : Registry.SameObjects r r') : modifySlot r' = modifySlot r :=
  funext fun k => congrFun (same.object k.1).callModify k.2

/-- So does the handler of its reply. -/
theorem setPropertyCb_agrees [DecidableEq ι] [PropertyIndex ι]
    (injective : Function.Injective place) (inUse : InUse place s (modifySlot r))
    (o : ObjId) (i : ι) (failed : Bool) (reply : Reply) :
    InUse place (setPropertyCb s (place (o, i)) reply) (modifySlot (r.setPropertyCb o i failed)) := by
  have emptied : modifySlot (r.setPropertyCb o i failed) = Function.update (modifySlot r) (o, i) 0 := by
    rw [← modifySlot_store, Registry.setPropertyCb_eq]
    split
    · rfl
    · split
      · exact modifySlot_same
          ((Registry.removeSlot_upkeep _ _).trans (Registry.attachChange_upkeep _ _ _)).toSameObjects
      · rfl
  rw [emptied]
  refine inUse.of_only injective ?_ (iff_of_false ?_ (by simp))
  · unfold setPropertyCb
    split_ifs <;> exact setNull_only s _
  · have none_ : (setPropertyCb s (place (o, i)) reply).slots.lookup (place (o, i)) = none := by
      unfold setPropertyCb
      split_ifs <;> exact AList.lookup_erase _ s.slots
    simp [none_]

end Properties

/-! ## Scans -/

section Scans
variable {ι ρ : Type} {r : Registry ι ρ}

/-- The `scan_call` slots of a registry. -/
def scanSlot (r : Registry ι ρ) : ObjId → Nat := fun o => (r.heap o).scanCall

theorem scanSlot_store (r : Registry ι ρ) (o : ObjId) (callback : Option Callback) (handle : Nat) :
    scanSlot (r.modify o fun obj => { obj with scanCb := callback, scanCall := handle }) =
      Function.update (scanSlot r) o handle := by
  funext o'
  by_cases object : o' = o <;> simp [scanSlot, Registry.heap_modify, Function.update, object]

theorem Slot.scan_injective : Function.Injective Slot.scan := fun _ _ same => Slot.scan.inj same

/-- What a Scan that is sent leaves in the slot of the registry. -/
theorem scanSlot_send (r : Registry ι ρ) (o : ObjId) (callback : Option Callback) (sending : Sending) :
    ∃ handle, scanSlot (r.sendScan o callback (outcomeOf true true sending)).1 =
        Function.update (scanSlot r) o handle ∧
      (handle ≠ 0 ↔ sending = .sent ∨ sending = .noNotify) := by
  cases sending with
  | sent | noNotify =>
    exact ⟨r.scans.fresh, scanSlot_store _ o _ _, iff_of_true r.scans.fresh_ne_zero (by simp)⟩
  | notSent | noPending => exact ⟨0, scanSlot_store r o _ 0, by simp⟩

/-- Sending a Scan returns the same, and uses the same slots. -/
theorem connmanTechnologyScan_agrees (inUse : InUse Slot.scan s (scanSlot r)) (message : Bool) (sending : Sending)
    (o : ObjId) (callback : Option Callback) :
    (connmanTechnologyScan s message sending o).2 = (r.sendScan o callback (outcomeOf message true sending)).2 ∧
      InUse Slot.scan (connmanTechnologyScan s message sending o).1
        (scanSlot (r.sendScan o callback (outcomeOf message true sending)).1) := by
  cases message with
  | false => exact ⟨rfl, inUse⟩
  | true =>
    obtain ⟨handle, slots, filled⟩ := scanSlot_send r o callback sending
    have stored : InUse Slot.scan (sendWithReply (messageNew s) (.scan o) sending)
        (Function.update (scanSlot r) o handle) := by
      refine inUse.of_only Slot.scan_injective (sendWithReply_only (messageNew s) _ sending) ?_
      rw [filled, sendWithReply_lookup]
      cases sending <;> simp
    rw [slots]
    cases sending <;> exact ⟨rfl, stored⟩

/-- So does the handler of its reply. -/
theorem scanCallback_agrees (inUse : InUse Slot.scan s (scanSlot r)) {r' : Registry ι ρ} {handle : Nat} {o : ObjId}
    (waiting : r.scans.find handle = some ⟨o, true⟩) (ran : r.scanCallback handle = some r') :
    InUse Slot.scan (scanCallback s call o) (scanSlot r') := by
  have emptied : scanSlot r' = Function.update (scanSlot r) o 0 := by
    unfold Registry.scanCallback at ran
    rw [waiting] at ran
    dsimp only at ran
    funext o'
    split at ran <;> cases ran <;> by_cases object : o' = o <;>
      simp [scanSlot, Registry.heap_modify, Registry.note, Function.update, object]
  rw [emptied]
  have cleared : (setNull s (.scan o)).slots.lookup (.scan o) = none := AList.lookup_erase _ s.slots
  exact inUse.of_only Slot.scan_injective (setNull_only s _) (iff_of_false (by simp [cleared]) (by simp))

end Scans

/-! ## The manager -/

section Manager
variable {Cb : Type} {bus : ManagerCalls.State Cb}

/-- The slot of a method of the manager. -/
def methodSlot : Method → Slot
  | .getProperties => .getProperties
  | .get l => .get l

theorem methodSlot_injective : Function.Injective methodSlot := by
  intro m m' same
  cases m <;> cases m' <;> cases same <;> rfl

/-- How a call fares, as the manager's calls have it. -/
def sendingOf (message : Bool) (sending : Sending) : ManagerCalls.Sending :=
  if !message then .noMessage
  else match sending with
    | .sent => .sent
    | .notSent | .noPending => .notSent
    | .noNotify => .noNotify

/-- What a request that is sent leaves in an empty slot of the manager. -/
theorem callSlot_send {m : Method} (up : bus.manager.isNone = false) (empty : bus.callSlot m = 0) (request : Nat)
    (sending : Sending) :
    ∃ handle, (ManagerCalls.sendCall bus m request (sendingOf true sending)).1.callSlot =
        Function.update bus.callSlot m handle ∧
      (handle ≠ 0 ↔ sending = .sent ∨ sending = .noNotify) := by
  have untouched : bus.callSlot = Function.update bus.callSlot m 0 := by rw [← empty, Function.update_eq_self]
  cases sending with
  | sent | noNotify =>
    exact ⟨bus.calls.fresh, ManagerCalls.callSlot_attachCall up _, iff_of_true bus.calls.fresh_ne_zero (by simp)⟩
  | notSent | noPending => exact ⟨0, untouched, by simp⟩

/-- Asking for a listing returns the same, and uses the same slots. -/
theorem managerGet_agrees (up : s.manager = bus.manager.isSome) (inUse : InUse methodSlot s bus.callSlot)
    (message : Bool) (sending : Sending) (l : Listing) (cb : Option Cb) :
    (managerGet s message sending l cb.isSome).2 =
        (ManagerCalls.managerGet l bus cb (sendingOf message sending)).2 ∧
      InUse methodSlot (managerGet s message sending l cb.isSome).1
        (ManagerCalls.managerGet l bus cb (sendingOf message sending)).1.callSlot := by
  unfold managerGet ManagerCalls.managerGet
  rw [up]
  cases there : bus.manager with
  | none => exact ⟨rfl, inUse⟩
  | some manager =>
    have cleared : (cancelSlot s (methodSlot (.get l))).slots.lookup (methodSlot (.get l)) = none :=
      cancelSlot_lookup s _
    have slots : (ManagerCalls.cancelCall (ManagerCalls.storeCb bus l none) (.get l)).callSlot =
        Function.update bus.callSlot (.get l) 0 := by
      rw [ManagerCalls.callSlot_cancelCall, ManagerCalls.callSlot_storeCb]
    have cancelled : InUse methodSlot (cancelSlot s (methodSlot (.get l)))
        (ManagerCalls.cancelCall (ManagerCalls.storeCb bus l none) (.get l)).callSlot := by
      rw [slots]
      exact inUse.of_only methodSlot_injective (cancelSlot_only s _) (iff_of_false (by simp [cleared]) (by simp))
    cases cb with
    | none => exact ⟨rfl, cancelled⟩
    | some cb =>
      cases message with
      | false => exact ⟨rfl, cancelled⟩
      | true =>
        have stillUp : (ManagerCalls.storeCb ((ManagerCalls.cancelCall (ManagerCalls.storeCb bus l none)
            (.get l)).noteRequest l cb) l (some cb)).manager.isNone = false := by
          simp [ManagerCalls.cancelCall, ManagerCalls.storeCb, ManagerCalls.State.modify, there]
        have asked : (ManagerCalls.storeCb ((ManagerCalls.cancelCall (ManagerCalls.storeCb bus l none)
            (.get l)).noteRequest l cb) l (some cb)).callSlot = Function.update bus.callSlot (.get l) 0 := by
          rw [ManagerCalls.callSlot_storeCb, ManagerCalls.callSlot_noteRequest, slots]
        obtain ⟨handle, sent, filled⟩ := callSlot_send stillUp
          (by rw [asked, Function.update_self]) (ManagerCalls.storeCb bus l none).nextRequest sending
        rw [asked, Function.update_idem] at sent
        have stored : InUse methodSlot
            (sendWithReply (messageNew (cancelSlot s (methodSlot (.get l)))) (methodSlot (.get l)) sending)
            (Function.update bus.callSlot (.get l) handle) := by
          rw [slots] at cancelled
          rw [← Function.update_idem (a := Method.get l) (0 : Nat) handle bus.callSlot]
          refine cancelled.of_only methodSlot_injective
            (sendWithReply_only (messageNew (cancelSlot s (methodSlot (.get l)))) _ sending) ?_
          rw [filled, sendWithReply_lookup]
          cases sending <;> simp
        rw [← sent] at stored
        cases sending <;> exact ⟨rfl, stored⟩

end Manager

end ConnmanUi.References
