import ConnmanUi.ListHandlers
import ConnmanUi.ServiceConfig

/-!
Lists set twice (`lib/service.c`).

The three list setters split a string at its semicolons and send the parts as
an array; a PropertyChanged that echoes the array is read back and joined.  The
chain is followed on the messages themselves: what `set_service_property`
writes is what `update_service_property` reads, and what the handler makes of it
is what the step of the module does (`servicePropertyChangedSignalCb_agrees`).
-/

namespace ConnmanUi.Reading

open DBus Writer
open Service (Key State Setting connmanServiceSet setListConfig setServiceProperty)

/-- The lists a client can set. -/
inductive ListSetting where
  | nameservers
  | domains
  | timeservers
  deriving DecidableEq

namespace ListSetting

def property : ListSetting → Service.Property
  | nameservers => .nameserversConfiguration
  | domains => .domainsConfiguration
  | timeservers => .timeserversConfiguration

def key (list : ListSetting) : Key := .updatable list.property

/-- The call of `connman_service_set_nameservers_config`, `_domains_config` or
`_timeservers_config`. -/
def setting (list : ListSetting) (string : Option String) : Setting :=
  match list with
  | nameservers => .nameserversConfig string
  | domains => .domainsConfig string
  | timeservers => .timeserversConfig string

/-- The string the record keeps of the list. -/
def stored (list : ListSetting) (record : Service.Record) : Option String :=
  match list with
  | nameservers => record (.updatable .nameserversConfiguration)
  | domains => record (.updatable .domainsConfiguration)
  | timeservers => record (.updatable .timeserversConfiguration)

/-- The arguments of the SetProperty `set_service_property` sends for the list. -/
def message (list : ListSetting) (string : String) : Writes Writer :=
  cuiDbusAppendArray 0 (some list.key.busName) .string (some (appendList .string (strsplit string))) .empty

end ListSetting

/-- `property_changed_signal_cb` of a service, on the arguments of the signal. -/
def servicePropertyChangedSignalCb (s : State) (o : ObjId) (arg : Body) : Reads State := do
  let s := { s with reg := s.reg.modify o fun obj => { obj with updateIndex := none } }
  let obj ← updateServiceProperty arg (s.reg.heap o)
  let s := { s with reg := s.reg.modify o fun _ => obj }
  match obj.updateIndex with
  | some i => .ok { s with reg := s.reg.propertyUpdate o i }
  | none => .ok s

/-- On values the handler does what it does in the runs of the module. -/
theorem servicePropertyChangedSignalCb_agrees {uninit : Service.Uninit} {s s' : State} {o : ObjId}
    {name : String} {value : Value}
    (ok : servicePropertyChangedSignalCb s o (.basic .string name (valueBody value)) = .ok s') :
    Service.propertyChangedSignalCb uninit s o name value = s' := by
  obtain ⟨obj, read, rest⟩ := bind_ok ok
  have same : Service.updateServiceProperty uninit _ name value = obj := updateServiceProperty_agrees read
  unfold Service.propertyChangedSignalCb Service.updateProperty
  dsimp only at same rest ⊢
  have merged : ∀ r : Registry Service.Property Service.Record,
      Service.updateServiceProperty uninit (r.heap o) name value = obj →
        r.modify o (fun obj => Service.updateServiceProperty uninit obj name value) =
          r.modify o fun _ => obj := fun r here => Registry.modify_congr here
  rw [merged _ same, Registry.heap_modify, if_pos rfl]
  cases index : obj.updateIndex with
  | some i =>
    simp only [index] at rest ⊢
    exact Except.ok.inj rest
  | none =>
    simp only [index] at rest ⊢
    exact Except.ok.inj rest

variable {list : ListSetting} {string path : String} {s s' : State} {o : ObjId} {outcome : SendOutcome}

/-! ## The message -/

/-- The array a list is sent as. -/
def listBody (list : ListSetting) (string : String) : Body :=
  .basic .string list.key.busName (.variant (.array .string (.ofList .string (strsplit string)) .nil) .nil)

theorem message_list (list : ListSetting) (string : String) :
    list.message string = .ok [(.message, listBody list string)] := by
  have listed : elementSize .string ≠ none := by decide
  have array := puts_array (ofArray_basic (ofVariant_array listed).1)
    (fills_appendList .string (strsplit string))
  exact puts_variant (ofVariant_array listed).2 rfl array .message .message
    (.basic .string list.key.busName .nil) [] rfl

/-- Read back it is the string, unless that is empty. -/
theorem update_list (list : ListSetting) (string : String)
    (obj : Object Service.Property Service.Record) :
    ∃ obj', updateServiceProperty (listBody list string) obj = .ok obj' ∧ obj'.path = obj.path ∧
      obj'.updateIndex = some list.property ∧
      list.stored obj'.rest = if string = "" then none else some string := by
  have read := getStrings_typed rfl (Body.wellFormed_array (k := .string) (strsplit string)) .nil
  rw [Body.inside, Option.getD_some, stringsOf_ofList, joinv_strsplit] at read
  cases list with
  | nameservers =>
    exact ⟨storeService obj (.updatable .nameserversConfiguration) (if string = "" then none else some string),
      congrArg (Except.map (storeService obj (.updatable .nameserversConfiguration))) read, rfl, rfl,
      Function.update_self (Key.updatable .nameserversConfiguration) _ obj.rest⟩
  | domains =>
    exact ⟨storeService obj (.updatable .domainsConfiguration) (if string = "" then none else some string),
      congrArg (Except.map (storeService obj (.updatable .domainsConfiguration))) read, rfl, rfl,
      Function.update_self (Key.updatable .domainsConfiguration) _ obj.rest⟩
  | timeservers =>
    exact ⟨storeService obj (.updatable .timeserversConfiguration) (if string = "" then none else some string),
      congrArg (Except.map (storeService obj (.updatable .timeserversConfiguration))) read, rfl, rfl,
      Function.update_self (Key.updatable .timeserversConfiguration) _ obj.rest⟩

/-! ## Twice -/

/-- The echo leaves the service under its path. -/
theorem echo_get (list : ListSetting) (known : s.reg.get path = some o) (string : String) :
    ∃ s', servicePropertyChangedSignalCb s o (listBody list string) = .ok s' ∧
      s'.reg.get path = some o ∧
      list.stored (s'.reg.heap o).rest = if string = "" then none else some string := by
  obtain ⟨obj', read, samePath, index, stored⟩ := update_list list string
    { s.reg.heap o with updateIndex := none }
  have marked := Registry.modify_place (r := s.reg) (o := o)
    (f := fun obj => { obj with updateIndex := none }) rfl
  have heap : (s.reg.modify o fun obj => { obj with updateIndex := none }).heap o =
      { s.reg.heap o with updateIndex := none } := by
    rw [Registry.heap_modify, if_pos rfl]
  have placed := Registry.modify_place
    (r := s.reg.modify o fun obj => { obj with updateIndex := none }) (o := o)
    (f := fun _ => obj') (by rw [heap]; exact samePath)
  have upkeep := Registry.propertyUpdate_upkeep
    ((s.reg.modify o fun obj => { obj with updateIndex := none }).modify o fun _ => obj') o list.property
  refine ⟨{ s with reg := ((s.reg.modify o fun obj => { obj with updateIndex := none }).modify o
    fun _ => obj').propertyUpdate o list.property }, ?_, ?_, ?_⟩
  · unfold servicePropertyChangedSignalCb
    dsimp only
    rw [heap, read]
    simp only [bind, Except.bind, index]
  · rw [upkeep.toSameObjects.place.get, placed.get, marked.get]
    exact known
  · rw [(upkeep.object o).rest, Registry.heap_modify, if_pos rfl]
    exact stored

/-- A setter of a list compares what is stored, and sends where it differs. -/
theorem set_list (known : s.reg.get path = some o) (list : ListSetting) (string : String)
    (outcome : SendOutcome) :
    connmanServiceSet s path (list.setting (some string)) outcome =
      if list.stored (s.reg.heap o).rest = some string then (s, 0)
      else setServiceProperty s o list.property outcome := by
  cases list <;> simp only [connmanServiceSet, ListSetting.setting, setListConfig, known] <;> rfl

/-- A method call has gone out between two states. -/
def Sends (s s' : State) : Prop := s'.reg.calls.issued ≠ s.reg.calls.issued

theorem sends_iff (s : State) (o : ObjId) (i : Service.Property) (outcome : SendOutcome) :
    Sends s (setServiceProperty s o i outcome).1 ↔
      (s.reg.heap o).callModify i = 0 ∧ (outcome = .sent ∨ outcome = .noNotify) := by
  unfold Sends setServiceProperty Registry.sendSetProperty
  by_cases free : (s.reg.heap o).callModify i = 0
  · cases outcome <;> simp [free, Registry.modify, Pool.attach]
  · simp [free]

/-- If the list goes out and comes back, whatever has happened to the service
in between, it is stored as it was set, and setting it again does nothing. -/
def SendsOnce (list : ListSetting) (string path : String) (s : State) : Prop :=
  ∀ outcome, Sends s (connmanServiceSet s path (list.setting (some string)) outcome).1 →
    ∃ body, list.message string = .ok [(.message, body)] ∧
      ∀ s₁ o, s₁.reg.get path = some o →
        ∃ s₂, servicePropertyChangedSignalCb s₁ o body = .ok s₂ ∧
          list.stored (s₂.reg.heap o).rest = some string ∧
          ∀ outcome, connmanServiceSet s₂ path (list.setting (some string)) outcome = (s₂, 0)

/-- Nothing is sent: the service is not known, has the string already, or waits
for the reply to an earlier call. -/
def SendsNothing (list : ListSetting) (string path : String) (s : State) : Prop :=
  ∀ o, s.reg.get path = some o →
    list.stored (s.reg.heap o).rest = some string ∨ (s.reg.heap o).callModify list.property ≠ 0

theorem sendsOnce_of_ne_empty (nonempty : string ≠ "") : SendsOnce list string path s := by
  intro outcome _
  refine ⟨listBody list string, message_list list string, fun s₁ o known => ?_⟩
  obtain ⟨s₂, echoed, known₂, stored⟩ := echo_get list known string
  rw [if_neg nonempty] at stored
  refine ⟨s₂, echoed, stored, fun outcome => ?_⟩
  rw [set_list known₂, if_pos stored]

theorem sendsOnce_of_sendsNothing (nothing : SendsNothing list string path s) :
    SendsOnce list string path s := by
  intro outcome sends
  cases known : s.reg.get path with
  | none =>
    have same : (connmanServiceSet s path (list.setting (some string)) outcome).1 = s := by
      cases list <;> simp only [connmanServiceSet, ListSetting.setting, setListConfig, known]
    exact absurd (by rw [same]) sends
  | some o =>
    rw [set_list known] at sends
    split at sends
    · exact absurd rfl sends
    · next other =>
      have free := ((sends_iff s o list.property outcome).mp sends).1
      exact absurd free ((nothing o known).resolve_left other)

/-- The empty string has no parts, and an array without elements comes back as
NULL. -/
theorem not_sendsOnce_empty (known : s.reg.get path = some o)
    (other : list.stored (s.reg.heap o).rest ≠ some "")
    (free : (s.reg.heap o).callModify list.property = 0) : ¬ SendsOnce list "" path s := by
  intro once
  have sends : Sends s (connmanServiceSet s path (list.setting (some "")) .sent).1 := by
    rw [set_list known, if_neg other]
    exact (sends_iff s o list.property .sent).mpr ⟨free, .inl rfl⟩
  obtain ⟨body, written, back⟩ := once .sent sends
  obtain ⟨s₂, echoed, stored, -⟩ := back s o known
  rw [message_list] at written
  cases written
  obtain ⟨s₂', echoed', -, lost⟩ := echo_get list known ""
  rw [echoed] at echoed'
  cases echoed'
  rw [if_pos rfl, stored] at lost
  cases lost

/-- A list that is set twice is sent once, exactly if it is not empty. -/
theorem list_sent_once_iff (list : ListSetting) (string path : String) (s : State) :
    SendsOnce list string path s ↔ string ≠ "" ∨ SendsNothing list string path s := by
  constructor
  · intro once
    by_cases empty : string = ""
    · right
      subst empty
      intro o known
      by_contra neither
      obtain ⟨other, busy⟩ := not_or.mp neither
      exact not_sendsOnce_empty known other (not_not.mp busy) once
    · exact .inl empty
  · rintro (nonempty | nothing)
    · exact sendsOnce_of_ne_empty nonempty
    · exact sendsOnce_of_sendsNothing nothing

/-- A service listed with two time servers, and nothing in flight. -/
def oneService : State :=
  Service.getServicesCb ⟨none, false, 0, 0⟩
    { reg := .empty .counting .counting .counting .counting, up := true }
    (.services [("/wifi", [("Timeservers.Configuration", .variant (.strings ["a", "b"]))])])

/-- Clearing them is sent each time it is asked for. -/
theorem clearing_sent_again : ¬ SendsOnce .timeservers "" "/wifi" oneService := by
  have known : oneService.reg.get "/wifi" = some 0 := by decide
  exact not_sendsOnce_empty known (by decide) rfl

end ConnmanUi.Reading
