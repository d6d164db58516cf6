import ConnmanUi.AgentRequests
import ConnmanUi.CuiDbusAppend

/-!
The replies that carry what the user typed (`lib/agent.c`).

A reply in the log of the agent is the entries and the iterators it was built
with.  Here it is written, which shows what becomes of NULL strings and of a
dictionary that is closed through the wrong iterator (`replied_iff`).
-/

namespace ConnmanUi.Agent

open DBus Writer

variable {s : State} {mem : Memory} {msg : Serial}

/-! ## Writing a reply -/

/-- How many containers are open around an iterator. -/
def Iter.depth : Iter → Nat
  | .arg => 0
  | .dict => 1

/-- `dbus_message_iter_append_basic` for a `char *`. -/
def appendCharPointer (value : Option String) (iter : Nat) (w : Writer) : Writes Writer :=
  match value with
  | some x => appendBasic iter .string x w
  | none => .error .null

/-- `cui_dbus_append_dict_entry_basic` for a `char *`. -/
def appendStringEntry (key : String) (value : Option String) (dict : Nat) (w : Writer) : Writes Writer :=
  within .dictEntry none (withKey (some key) (mapBasicToSignature .string) (appendCharPointer value)) dict w

def appendStringEntries : List (String × Option String) → PropertyFunction
  | [], _, w => .ok w
  | (key, value) :: rest, dict, w => (appendStringEntry key value dict w).bind (appendStringEntries rest dict)

/-- `cui_dbus_open_dict`. -/
def cuiDbusOpenDict (iter : Nat) (w : Writer) : Writes (Nat × Writer) := openContainer iter .array (some "{sv}") w

/-- The body of a method return: its dictionary is opened, filled and closed. -/
def writeInputs (entries : List (String × Option String)) (closeParent closeSub : Iter) : Writes Writer := do
  let (dict, w) ← cuiDbusOpenDict 0 .empty
  let w ← appendStringEntries entries dict w
  closeContainer closeParent.depth closeSub.depth w

/-- The three functions, with their arguments. -/
inductive InputsReply where
  | identity (user phrase : Option String)
  | passphrase (hiddenName phrase : Option String) (wps : Bool) (wpspin : Option String)
  | login (user phrase : Option String)

variable {reply : InputsReply}

namespace InputsReply

def call (s : State) (mem : Memory) : InputsReply → State × Int
  | identity user phrase => connmanAgentReplyIdentity s mem user phrase
  | passphrase hiddenName phrase wps wpspin => connmanAgentReplyPassphrase s mem hiddenName phrase wps wpspin
  | login user phrase => connmanAgentReplyLogin s mem user phrase

/-- As an answer of any kind. -/
def answer : InputsReply → Answer
  | identity user phrase => .identity user phrase
  | passphrase hiddenName phrase wps wpspin => .passphrase hiddenName phrase wps wpspin
  | login user phrase => .login user phrase

/-- The values that are given, a PIN only without a passphrase; pressing the
button stands for an empty one. -/
def supplied : InputsReply → List (String × String)
  | identity user phrase =>
    (user.map fun x => ("Identity", x)).toList ++ (phrase.map fun x => ("Passphrase", x)).toList
  | passphrase hiddenName phrase wps wpspin =>
    (hiddenName.map fun x => ("Name", x)).toList ++
      match phrase with
      | some x => [("Passphrase", x)]
      | none => if wps then [("WPS", wpspin.getD "")] else []
  | login user phrase =>
    (user.map fun x => ("Username", x)).toList ++ (phrase.map fun x => ("Password", x)).toList

end InputsReply

/-- The dictionary of these values. -/
def inputsBody (values : List (String × String)) : Body :=
  .dictionary (values.map fun entry => (entry.1, .basic .string entry.2 .nil))

/-- A reply function fails and sends nothing, or it answers the pending request
with one method return that holds the values that were given. -/
def Replied (s : State) (reply : InputsReply) (out : State × Int) : Prop :=
  out.2 < 0 ∧ out.1.sent = s.sent ∨
    ∃ msg entries closeParent closeSub, s.pending = some msg ∧
      out.1.sent = (msg, .inputs entries closeParent closeSub) :: s.sent ∧ out.1.pending = none ∧
      writeInputs entries closeParent closeSub = .ok [(.message, inputsBody reply.supplied)]

/-! ## What is written -/

theorem fills_appendStringEntry (key x : String) :
    Fills (appendStringEntry key (some x)) .stringVariant (.ofEntries [(key, .basic .string x .nil)]) :=
  fills_withKey (ofVariant_basic (show Mapped .string by decide)) rfl (puts_basic .string x)

theorem breaks_appendStringEntry (key : String) : Breaks (appendStringEntry key none) .stringVariant .null :=
  breaks_dictEntry (refuses_variant (ofVariant_basic (show Mapped .string by decide)) rfl fun _ _ _ _ _ => rfl)

theorem fills_appendStringEntries (values : List (String × String)) :
    Fills (appendStringEntries (values.map fun entry => (entry.1, some entry.2))) .stringVariant
      (.ofEntries (values.map fun entry => (entry.1, .basic .string entry.2 .nil))) := by
  induction values with
  | nil => exact fills_nothing _
  | cons entry values ih => exact (fills_appendStringEntry entry.1 entry.2).append ih

/-- All the strings are there, or the first that is NULL goes wrong. -/
theorem appendStringEntries_cases (entries : List (String × Option String)) :
    (∃ values : List (String × String), entries = values.map fun entry => (entry.1, some entry.2)) ∨
      Breaks (appendStringEntries entries) .stringVariant .null := by
  induction entries with
  | nil => exact .inl ⟨[], rfl⟩
  | cons entry entries ih =>
    obtain ⟨key, value⟩ := entry
    cases value with
    | none => exact .inr (breaks_appendStringEntry key).first
    | some x =>
      rcases ih with ⟨values, rfl⟩ | breaks
      · exact .inl ⟨(key, x) :: values, rfl⟩
      · exact .inr ((fills_appendStringEntry key x).breaks breaks)

/-- Closed through its parent, the dictionary is complete. -/
theorem writeInputs_closed (values : List (String × String)) :
    writeInputs (values.map fun entry => (entry.1, some entry.2)) .arg .dict =
      .ok [(.message, inputsBody values)] :=
  puts_dict (fills_appendStringEntries values) .message .message .nil [] rfl

theorem writeInputs_opened (entries : List (String × Option String)) (closeParent closeSub : Iter) :
    writeInputs entries closeParent closeSub =
      (appendStringEntries entries 1 [(.array .stringVariant, .nil), (.message, .nil)]).bind
        (closeContainer closeParent.depth closeSub.depth) := by
  have opened : cuiDbusOpenDict 0 .empty = .ok (1, [(.array .stringVariant, .nil), (.message, .nil)]) := by decide
  rw [writeInputs, opened]
  rfl

/-- Closed the other way round, it never is. -/
theorem writeInputs_exchanged (entries : List (String × Option String)) (w : Writer) :
    writeInputs entries .dict .arg ≠ .ok w := by
  rw [writeInputs_opened]
  rcases appendStringEntries_cases entries with ⟨values, rfl⟩ | breaks
  · have filled := fills_appendStringEntries values .nil [(.message, .nil)]
    rw [List.length_singleton] at filled
    rw [filled]
    nofun
  · have broken := breaks .nil [(.message, .nil)]
    rw [List.length_singleton] at broken
    rw [broken]
    nofun

/-! ## What is sent -/

theorem replyInputs_replied (pending : s.pending = some msg) (refused : Bool)
    (entries : List (String × Option String)) (closeParent closeSub : Iter) :
    Replied s reply (replyInputs s mem refused entries closeParent closeSub) ↔
      refused = true ∨ mem ≠ .enough ∨
        writeInputs entries closeParent closeSub = .ok [(.message, inputsBody reply.supplied)] := by
  unfold replyInputs
  rw [pending]
  cases refused with
  | true => exact ⟨fun _ => .inl rfl, fun _ => .inl ⟨show (-22 : Int) < 0 by omega, rfl⟩⟩
  | false =>
    cases mem with
    | noMessage => exact ⟨fun _ => .inr (.inl nofun), fun _ => .inl ⟨show (-12 : Int) < 0 by omega, rfl⟩⟩
    | noDict =>
      exact ⟨fun _ => .inr (.inl nofun), fun _ => .inl ⟨show (-12 : Int) < 0 by omega, sent_setPending s none⟩⟩
    | enough =>
      constructor
      · rintro (⟨negative, -⟩ | ⟨msg', entries', closeParent', closeSub', -, sent, -, written⟩)
        · exact absurd negative (show ¬(0 : Int) < 0 by omega)
        · have same := Prod.mk.inj (List.cons.inj sent).1
          obtain ⟨rfl, rfl, rfl⟩ := Reply.inputs.inj same.2
          exact .inr (.inr written)
      · rintro (refused | short | written)
        · cases refused
        · exact absurd rfl short
        · exact .inr ⟨msg, entries, closeParent, closeSub, pending, rfl, pending_setPending_none _, written⟩

theorem passphrase_entries (hiddenName phrase : Option String) (wps : Bool) (wpspin : Option String) :
    ((match hiddenName with
      | some name => [("Name", some name)]
      | none => []) ++
     (match phrase with
      | some phrase => [("Passphrase", some phrase)]
      | none => if wps then [("WPS", some (wpspin.getD ""))] else [])) =
    (InputsReply.passphrase hiddenName phrase wps wpspin).supplied.map fun entry => (entry.1, some entry.2) := by
  cases hiddenName <;> cases phrase <;> cases wps <;> rfl

/-- A reply is well formed, or is not sent, if and only if it is one of
`connman_agent_reply_passphrase`, its arguments are refused, or there is no
memory for it. -/
theorem replied_iff (pending : s.pending = some msg) :
    Replied s reply (reply.call s mem) ↔
      (∃ hiddenName phrase wps wpspin, reply = .passphrase hiddenName phrase wps wpspin) ∨
        reply.answer.refused = true ∨ mem ≠ .enough := by
  cases reply with
  | identity user phrase =>
    have replied : Replied s (.identity user phrase) (connmanAgentReplyIdentity s mem user phrase) ↔ _ :=
      replyInputs_replied pending _ _ _ _
    simp [InputsReply.call, replied, writeInputs_exchanged, InputsReply.answer, Answer.refused]
  | passphrase hiddenName phrase wps wpspin =>
    refine ⟨fun _ => .inl ⟨_, _, _, _, rfl⟩, fun _ => ?_⟩
    refine (replyInputs_replied pending _ _ _ _).mpr (.inr (.inr ?_))
    have entries := passphrase_entries hiddenName phrase wps wpspin
    exact (congrArg (writeInputs · .arg .dict) entries).trans (writeInputs_closed _)
  | login user phrase =>
    have replied : Replied s (.login user phrase) (connmanAgentReplyLogin s mem user phrase) ↔ _ :=
      replyInputs_replied pending _ _ _ _
    simp [InputsReply.call, replied, writeInputs_exchanged, InputsReply.answer, Answer.refused]

/-- A request that is pending. -/
def asked : State := { agentIf := some { pendingReply := some 0 } }

/-- A hidden network is named and joined with its PIN. -/
theorem replied_iff_wps :
    let reply := InputsReply.passphrase (some "home") none true (some "1234")
    Replied asked reply (reply.call asked .enough) :=
  (replied_iff (show asked.pending = some 0 from rfl)).mpr (.inl ⟨_, _, _, _, rfl⟩)

/-- A user name and a password are closed in the wrong container. -/
theorem not_always_replied :
    ¬∀ (s : State) (mem : Memory) (msg : Serial) (reply : InputsReply), s.pending = some msg →
      Replied s reply (reply.call s mem) := by
  intro always
  rcases always asked .enough 0 (.login (some "user") (some "secret")) rfl with
    ⟨negative, -⟩ | ⟨msg, entries, closeParent, closeSub, -, sent, -, written⟩
  · exact absurd negative (by decide)
  · have same := Prod.mk.inj (List.cons.inj sent).1
    obtain ⟨-, rfl, rfl⟩ := Reply.inputs.inj same.2
    exact writeInputs_exchanged _ _ written

end ConnmanUi.Agent
