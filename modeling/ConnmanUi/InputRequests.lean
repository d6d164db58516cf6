import ConnmanUi.AgentRequests
import ConnmanUi.CuiDbusGuarantees

/-!
RequestInput as it arrives (`lib/agent.c`).

ConnMan sends a dictionary of the fields it wants, each with a dictionary of its
own that says more about it.  Here `agent_request_input_method` runs on the
message; `decoded_iff` says for which requests the callback gets what the
request says.  Of the agent's state it does what `serve` does in the runs of
`AgentRequests`, with the arguments it decodes (`requestInput_serves`).
-/

namespace ConnmanUi.Agent

open DBus

variable {s : State} {a : ConnmanAgent} {path name : String} {data : AgentInputData}

/-! ## The handler -/

/-- A string that was read, if one was. -/
def gotString : Option Got → Option String
  | some (.basic .string x) => some x
  | _ => none

/-- The fields that are only noticed. -/
def AgentInputData.mark (data : AgentInputData) : String → AgentInputData
  | "Passphrase" => { data with passphrase := true }
  | "WPS" => { data with wpspin := true }
  | "Name" => { data with hidden := true }
  | "Identity" => { data with identity := true }
  | "Username" => { data with login := true }
  | _ => data

/-- `parse_input_request`.  The second lookup stores the string in `value`
itself, and not in the member `value` points to. -/
def parseInputRequest (arg : Body) (data : AgentInputData) : Reads (Bool × AgentInputData) :=
  match cuiDbusGetBasic arg .string with
  | none => .ok (false, data)
  | some name =>
    if name = "PreviousPassphrase" then do
      let dict ← recurse arg.next
      let type ← cuiDbusGetDictEntryBasic dict "Type" .string
      let _ ← readLocal (gotString type.2)
      let _ ← cuiDbusGetDictEntryBasic dict "Value" .string
      .ok (false, data)
    else .ok (false, data.mark name)

/-- `agent_request_input_method`, up to the callback it ends with, and the
arguments of the callback. -/
def requestInput (s : State) (msg : Body) : Reads (State × List (String × AgentInputData)) :=
  let error := (s.receive.send s.nextSerial canceledError, [])
  match s.agentIf with
  | none => .ok error
  | some a =>
    if !a.inputCb then .ok error
    else match cuiDbusGetBasic msg .objectPath with
      | none => .ok error
      | some path => do
        let (_, data) ← cuiDbusForeachDictEntry msg.next parseInputRequest {}
        if !data.hidden && !data.identity && !data.passphrase && !data.login then .ok error
        else .ok (s.receive.setPending (some s.nextSerial), [(path, data)])

/-- The handler is `serve` with the arguments it decodes. -/
theorem requestInput_serves {msg : Body} {s' : State} {calls : List (String × AgentInputData)}
    (ran : requestInput s msg = .ok (s', calls)) :
    ∃ args, s' = serve s (.requestInput args) ∧
      calls = if defers s (.requestInput args) then args.toList else [] := by
  unfold requestInput at ran
  cases up : s.agentIf with
  | none =>
    rw [up] at ran
    cases ran
    exact ⟨none, by simp [serve, deferOr, defers], by simp [defers]⟩
  | some a =>
    rw [up] at ran
    dsimp only at ran
    cases hooked : a.inputCb with
    | false =>
      simp only [hooked, Bool.not_false, if_true] at ran
      cases ran
      exact ⟨none, by simp [serve, deferOr, defers], by simp [defers]⟩
    | true =>
      simp only [hooked, Bool.not_true, Bool.false_eq_true, if_false] at ran
      cases named : cuiDbusGetBasic msg .objectPath with
      | none =>
        rw [named] at ran
        cases ran
        exact ⟨none, by simp [serve, deferOr, defers], by simp [defers]⟩
      | some path =>
        rw [named] at ran
        dsimp only [bind, Except.bind] at ran
        cases parsed : cuiDbusForeachDictEntry msg.next parseInputRequest {} with
        | error fault =>
          rw [parsed] at ran
          cases ran
        | ok answer =>
          rw [parsed] at ran
          dsimp only at ran
          have asked : defers s (.requestInput (some (path, answer.2))) =
              !(!answer.2.hidden && !answer.2.identity && !answer.2.passphrase && !answer.2.login) := by
            simp [defers, up, hooked]
          refine ⟨some (path, answer.2), ?_⟩
          split at ran
          · rename_i nothing
            cases ran
            simp [serve, deferOr, asked, nothing]
          · rename_i something
            cases ran
            simp [serve, deferOr, asked, something]

/-! ## What a request says -/

/-- The fields of a request, each with what is said about it. -/
abbrev Fields := List (String × List (String × Body))

/-- The message of a request. -/
def Fields.message (fields : Fields) (path : String) : Body :=
  .basic .objectPath path (.dictionary (fields.map fun field => (field.1, .dictionary field.2)))

def Fields.Has (fields : Fields) (name : String) : Bool := fields.any fun field => field.1 = name

/-- Something is asked for that a dialog can answer. -/
def Fields.Asks (fields : Fields) : Prop :=
  fields.Has "Name" ∨ fields.Has "Identity" ∨ fields.Has "Passphrase" ∨ fields.Has "Username"

instance (fields : Fields) : Decidable fields.Asks := inferInstanceAs (Decidable (_ ∨ _))

/-- A string said about a field. -/
def stringUnder (nested : List (String × Body)) (key : String) : Option String :=
  (exactEntry nested key).bind (·.getBasic .string)

/-- The Value of PreviousPassphrase, if this is its Type. -/
def Fields.previous (fields : Fields) (type : String) : Option String :=
  (fields.lookup "PreviousPassphrase").bind fun nested =>
    if stringUnder nested "Type" = some type then stringUnder nested "Value" else none

/-- What the callback should get. -/
def Fields.inputData (fields : Fields) : AgentInputData where
  hidden := fields.Has "Name"
  identity := fields.Has "Identity"
  passphrase := fields.Has "Passphrase"
  wpspin := fields.Has "WPS"
  login := fields.Has "Username"
  previousPassphrase := fields.previous "psk"
  previousWpspin := fields.previous "wpspin"

/-- A request that asks for nothing is answered with an error; any other is kept,
and the callback gets once what the request says. -/
def Decoded (s : State) (fields : Fields) (path : String) (got : Reads (State × List (String × AgentInputData))) :
    Prop :=
  got = .ok (if fields.Asks then (s.receive.setPending (some s.nextSerial), [(path, fields.inputData)])
    else (s.receive.send s.nextSerial canceledError, []))

/-- Every PreviousPassphrase has a Type that is a string. -/
def Fields.Typed (fields : Fields) : Prop :=
  ∀ field ∈ fields, field.1 = "PreviousPassphrase" → (entryFor field.2 "Type").bind (·.getBasic .string) ≠ none

instance (fields : Fields) : Decidable fields.Typed := inferInstanceAs (Decidable (∀ field ∈ fields, _ → _))

/-! ## Decoding -/

/-- An entry: a PreviousPassphrase is read, and nothing comes of it. -/
theorem parseInputRequest_entry (nested : List (String × Body)) :
    parseInputRequest (.basic .string name (.variant (.dictionary nested) .nil)) data =
      if name = "PreviousPassphrase" ∧ (entryFor nested "Type").bind (·.getBasic .string) = none then .error .unwritten
      else .ok (false, data.mark name) := by
  unfold parseInputRequest cuiDbusGetBasic
  rw [Body.getBasic_basic]
  dsimp only
  by_cases previous : name = "PreviousPassphrase"
  · subst previous
    have lookup : ∀ key type, cuiDbusGetDictEntryBasic (.dictionary nested) key type = _ :=
      getDictEntryBasic_eq nested .nil
    simp only [if_true, Body.next, recurse, Body.inside, readLocal, bind, Except.bind, lookup]
    cases entryFor nested "Type" with
    | none => rfl
    | some inner =>
      cases typed : inner.getBasic .string with
      | none => simp [typed, gotString]
      | some type =>
        simp only [Option.map_some, gotString, typed, Option.bind_some]
        cases entryFor nested "Value" <;> rfl
  · simp [previous]

theorem foreachEntry_fields (fields : Fields) (data : AgentInputData) :
    foreachEntry parseInputRequest (Body.ofEntries (fields.map fun field => (field.1, .dictionary field.2))).positions
        data = .ok (-22, fields.foldl (fun data field => data.mark field.1) data) ∧ fields.Typed ∨
      foreachEntry parseInputRequest (Body.ofEntries (fields.map fun field => (field.1, .dictionary field.2))).positions
        data = .error .unwritten ∧ ¬fields.Typed := by
  induction fields generalizing data with
  | nil => exact .inl ⟨rfl, nofun⟩
  | cons field fields ih =>
    rw [List.map_cons, foreachEntry_ofEntries, parseInputRequest_entry]
    by_cases untyped : field.1 = "PreviousPassphrase" ∧ (entryFor field.2 "Type").bind (·.getBasic .string) = none
    · rw [if_pos untyped]
      exact .inr ⟨rfl, fun typed => typed field List.mem_cons_self untyped.1 untyped.2⟩
    · rw [if_neg untyped]
      have first : field.1 = "PreviousPassphrase" → (entryFor field.2 "Type").bind (·.getBasic .string) ≠ none :=
        fun same none_ => untyped ⟨same, none_⟩
      rcases ih (data.mark field.1) with ⟨read, typed⟩ | ⟨read, untyped⟩
      · exact .inl ⟨read, List.forall_mem_cons.mpr ⟨first, typed⟩⟩
      · exact .inr ⟨read, fun typed => untyped (List.forall_mem_cons.mp typed).2⟩

/-- The fields that are noticed are the ones there are. -/
theorem foldl_mark (fields : Fields) (data : AgentInputData) :
    fields.foldl (fun data field => data.mark field.1) data =
      { data with
        hidden := data.hidden || fields.Has "Name"
        identity := data.identity || fields.Has "Identity"
        passphrase := data.passphrase || fields.Has "Passphrase"
        wpspin := data.wpspin || fields.Has "WPS"
        login := data.login || fields.Has "Username" } := by
  induction fields generalizing data with
  | nil => simp [Fields.Has]
  | cons field fields ih =>
    rw [List.foldl_cons, ih]
    unfold AgentInputData.mark
    split <;> simp_all [Fields.Has]

/-- What the callback does get. -/
def Fields.marks (fields : Fields) : AgentInputData :=
  { fields.inputData with previousPassphrase := none, previousWpspin := none }

theorem requestInput_message (up : s.agentIf = some a) (hooked : a.inputCb = true) (fields : Fields) (path : String) :
    requestInput s (fields.message path) = .ok (if fields.Asks then
        (s.receive.setPending (some s.nextSerial), [(path, fields.marks)])
      else (s.receive.send s.nextSerial canceledError, [])) ∧ fields.Typed ∨
    requestInput s (fields.message path) = .error .unwritten ∧ ¬fields.Typed := by
  have started : requestInput s (fields.message path) =
      (foreachEntry parseInputRequest
        (Body.ofEntries (fields.map fun field => (field.1, .dictionary field.2))).positions {}).bind fun answer =>
          if !answer.2.hidden && !answer.2.identity && !answer.2.passphrase && !answer.2.login then
            .ok (s.receive.send s.nextSerial canceledError, [])
          else .ok (s.receive.setPending (some s.nextSerial), [(path, answer.2)]) := by
    unfold requestInput
    rw [up]
    simp only [hooked, Bool.not_true, Bool.false_eq_true, if_false]
    rfl
  rw [started]
  rcases foreachEntry_fields fields {} with ⟨read, typed⟩ | ⟨read, untyped⟩
  · rw [read, foldl_mark]
    refine .inl ⟨?_, typed⟩
    by_cases asks : fields.Asks
    · rw [if_pos asks]
      refine (if_neg ?_).trans (congrArg Except.ok ?_)
      · simpa [Fields.Asks, imp_iff_not_or, or_assoc] using asks
      · simp [Fields.marks, Fields.inputData]
    · rw [if_neg asks]
      refine if_pos ?_
      simpa [Fields.Asks, not_or, and_assoc] using asks
  · rw [read]
    exact .inr ⟨rfl, untyped⟩

/-- A request is decoded completely if and only if PreviousPassphrase has a Type
wherever it is there, and no Value is asked for that goes with it. -/
theorem decoded_iff (up : s.agentIf = some a) (hooked : a.inputCb = true) (fields : Fields) (path : String) :
    Decoded s fields path (requestInput s (fields.message path)) ↔
      fields.Typed ∧ (fields.Asks → fields.previous "psk" = none ∧ fields.previous "wpspin" = none) := by
  unfold Decoded
  rcases requestInput_message up hooked fields path with ⟨ran, typed⟩ | ⟨ran, untyped⟩
  · rw [ran]
    by_cases asks : fields.Asks
    · have same : (fields.marks = fields.inputData) ↔ fields.previous "psk" = none ∧ fields.previous "wpspin" = none := by
        simp [Fields.marks, Fields.inputData, eq_comm]
      simp [asks, typed, same]
    · simp [asks, typed]
  · rw [ran]
    exact ⟨nofun, fun decoded => absurd decoded.1 untyped⟩

/-- An agent with its callbacks set. -/
def hooked : State := { agentIf := some { inputCb := true } }

/-- A passphrase is asked for again, and the previous one was a WEP key. -/
theorem decoded_iff_wep :
    let fields : Fields := [("Passphrase", [("Type", .basic .string "psk" .nil)]),
      ("PreviousPassphrase", [("Value", .basic .string "12345" .nil), ("Type", .basic .string "wep" .nil)])]
    Decoded hooked fields "/service" (requestInput hooked (fields.message "/service")) :=
  (decoded_iff rfl rfl _ _).mpr ⟨by decide, fun _ => by decide⟩

/-- The previous passphrase does not arrive. -/
theorem not_always_decoded :
    ¬∀ (s : State) (a : ConnmanAgent) (fields : Fields) (path : String), s.agentIf = some a → a.inputCb = true →
      Decoded s fields path (requestInput s (fields.message path)) := by
  intro always
  have decoded := always hooked _ [("Passphrase", []), ("PreviousPassphrase",
    [("Type", .basic .string "psk" .nil), ("Value", .basic .string "secret" .nil)])] "/service" rfl rfl
  exact absurd (congrArg (fun got => got.toOption.map Prod.snd) decoded) (by decide)

end ConnmanUi.Agent
