import ConnmanUi.CuiDbusAppend
import ConnmanUi.Service
import ConnmanUi.StructUpdates

/-!
Configurations sent to ConnMan (`lib/service.c`).

`connman_service_set_*_config` writes a structure into a dictionary, which comes
back when ConnMan says that the property changed; then setting the same again
should do nothing, as the setters do with what the record has already
(`connmanServiceSet_config`).  `config_round_trip_iff` says for which structures
it does.
-/

namespace ConnmanUi.Reading

open DBus Writer
open Service (Key Record ConnmanIpv4 ConnmanIpv6 ConnmanProxy)

/-- A configuration to set. -/
inductive Config where
  | ipv4 (ipv4 : ConnmanIpv4)
  | ipv6 (ipv6 : ConnmanIpv6)
  | proxy (proxy : ConnmanProxy)

/-- A string field becomes an entry. -/
def appendString (dict : Nat) (key : String) (field : Option String) (w : Writer) : Writes Writer :=
  match field with
  | some s => cuiDbusAppendDictEntry dict key (.basic .string s) w
  | none => .error .null

/-- `g_strsplit(string, ";", 0)`; an empty string has no parts. -/
def strsplit (string : String) : List String :=
  if string = "" then [] else (string.toList.splitOn ';').map String.ofList

/-- A list that is kept in one string becomes an entry. -/
def appendStrings (dict : Nat) (key : String) (field : Option String) (w : Writer) : Writes Writer :=
  match field with
  | some s => cuiDbusAppendDictEntry dict key (.array .string (some (appendList .string (strsplit s)))) w
  | none => .error .null

/-- `append_ipv4_config`. -/
def appendIpv4Config (ipv4 : ConnmanIpv4) : PropertyFunction := fun dict w => do
  let w ← appendString dict "Method" ipv4.method w
  let w ← appendString dict "Address" ipv4.address w
  let w ← appendString dict "Netmask" ipv4.netmask w
  appendString dict "Gateway" ipv4.gateway w

/-- `append_ipv6_config`. -/
def appendIpv6Config (ipv6 : ConnmanIpv6) : PropertyFunction := fun dict w => do
  let w ← appendString dict "Method" ipv6.method w
  let w ← appendString dict "Address" ipv6.address w
  let w ← cuiDbusAppendDictEntry dict "PrefixLength" (.basic .byte ipv6.prefixLength) w
  let w ← appendString dict "Gateway" ipv6.gateway w
  appendString dict "Privacy" ipv6.privacy w

/-- `append_proxy_config`. -/
def appendProxyConfig (proxy : ConnmanProxy) : PropertyFunction := fun dict w => do
  let w ← appendString dict "Method" proxy.method w
  let w ← appendString dict "URL" proxy.url w
  let w ← appendStrings dict "Servers" proxy.servers w
  appendStrings dict "Excludes" proxy.excludes w

namespace Config

/-- The property a configuration is. -/
def key : Config → Key
  | ipv4 _ => .updatable .ipv4Configuration
  | ipv6 _ => .updatable .ipv6Configuration
  | proxy _ => .updatable .proxyConfiguration

/-- The field of a record that has just the configuration. -/
def field : (config : Config) → config.key.Field
  | ipv4 c => some c
  | ipv6 c => some c
  | proxy c => some c

/-- The call that sets it. -/
def setting : Config → Service.Setting
  | ipv4 c => .ipv4Config (some c)
  | ipv6 c => .ipv6Config (some c)
  | proxy c => .proxyConfig (some c)

def appendConfig : Config → PropertyFunction
  | ipv4 c => appendIpv4Config c
  | ipv6 c => appendIpv6Config c
  | proxy c => appendProxyConfig c

/-- The arguments of the SetProperty that `set_service_property` sends. -/
def message (config : Config) : Writes Writer :=
  cuiDbusAppendDict 0 (some config.key.busName) (some config.appendConfig) .empty

/-- No string is NULL. -/
def Filled : Config → Prop
  | ipv4 c => c.method.isSome ∧ c.address.isSome ∧ c.netmask.isSome ∧ c.gateway.isSome
  | ipv6 c => c.method.isSome ∧ c.address.isSome ∧ c.gateway.isSome ∧ c.privacy.isSome
  | proxy c => c.method.isSome ∧ c.url.isSome ∧ c.servers.isSome ∧ c.excludes.isSome

/-- What the record has of the property is the configuration;
`connman_service_set_*_config` then returns at once. -/
def Unchanged : (config : Config) → config.key.Field → Prop
  | ipv4 c, conf => ∃ orig, conf = some orig ∧ orig.method = c.method ∧ orig.address = c.address ∧
      orig.netmask = c.netmask ∧ orig.gateway = c.gateway
  | ipv6 c, conf => ∃ orig, conf = some orig ∧ orig.method = c.method ∧ orig.address = c.address ∧
      orig.gateway = c.gateway ∧ orig.privacy = c.privacy ∧ orig.prefixLength = c.prefixLength
  | proxy c, conf => ∃ orig, conf = some orig ∧ orig.method = c.method ∧ orig.url = c.url ∧
      orig.servers = c.servers ∧ orig.excludes = c.excludes

theorem unchanged_iff (config : Config) (conf : config.key.Field) :
    config.Unchanged conf ↔ conf = config.field := by
  cases config with
  | ipv4 c =>
    constructor
    · rintro ⟨⟨⟩, rfl, rfl, rfl, rfl, rfl⟩
      rfl
    · exact fun same => ⟨c, same, rfl, rfl, rfl, rfl⟩
  | ipv6 c =>
    constructor
    · rintro ⟨⟨⟩, rfl, rfl, rfl, rfl, rfl, rfl⟩
      rfl
    · exact fun same => ⟨c, same, rfl, rfl, rfl, rfl, rfl⟩
  | proxy c =>
    constructor
    · rintro ⟨⟨⟩, rfl, rfl, rfl, rfl, rfl⟩
      rfl
    · exact fun same => ⟨c, same, rfl, rfl, rfl, rfl⟩

/-- Setting what the record has is done without a message; anything else is sent. -/
theorem connmanServiceSet_config (config : Config) {s : Service.State} {path : String} {o : ObjId}
    (known : s.reg.get path = some o) (outcome : SendOutcome) :
    (config.Unchanged ((s.reg.heap o).rest config.key) →
      Service.connmanServiceSet s path config.setting outcome = (s, 0)) ∧
    (¬config.Unchanged ((s.reg.heap o).rest config.key) →
      ∃ i, config.key = .updatable i ∧
        Service.connmanServiceSet s path config.setting outcome = Service.setServiceProperty s o i outcome) := by
  rw [unchanged_iff]
  cases config with
  | ipv4 c | ipv6 c | proxy c =>
    refine ⟨fun same => ?_, fun other => ⟨_, rfl, ?_⟩⟩
    · simp only [setting, Service.connmanServiceSet, Service.setConfig, known]
      exact if_pos same
    · simp only [setting, Service.connmanServiceSet, Service.setConfig, known]
      exact if_neg other

/-- A list that is kept in a string may come back as NULL if it is empty. -/
def SameList (orig field : Option String) : Prop := orig = field ∨ (orig = none ∧ field = some "")

/-- Field by field the record has the configuration. -/
def Stored : (config : Config) → config.key.Field → Prop
  | ipv4 c, conf => conf = some c
  | ipv6 c, conf => conf = some c
  | proxy c, conf => ∃ orig, conf = some orig ∧ orig.method = c.method ∧ orig.url = c.url ∧
      SameList orig.servers c.servers ∧ SameList orig.excludes c.excludes

/-- Whatever the record held, what the message leaves there is this. -/
def ComesBack (config : Config) (holds : config.key.Field → Prop) : Prop :=
  ∃ body, config.message = .ok [(.message, body)] ∧
    ∀ obj, ∃ obj', updateServiceProperty body obj = .ok obj' ∧ holds (obj'.rest config.key)

/-- A length of a prefix does not come back, and a list that is empty comes back
as NULL. -/
def Returns : Config → Prop
  | ipv4 _ => True
  | ipv6 _ => False
  | proxy c => c.servers ≠ some "" ∧ c.excludes ≠ some ""

end Config

/-! ## Lists in a string -/

theorem joinv_strsplit (s : String) : joinv (strsplit s) = if s = "" then none else some s := by
  unfold strsplit
  split
  · rfl
  · have parts : (s.toList.splitOn ';').map String.ofList ≠ [] := by
      simp
    have joined : ";".intercalate ((s.toList.splitOn ';').map String.ofList) = s := by
      apply String.toList_injective
      rw [String.toList_intercalate, List.map_map]
      have same : (String.toList ∘ String.ofList) = id := funext fun l => String.toList_ofList
      rw [same, List.map_id]
      exact List.intercalate_splitOn ';'
    cases shape : (s.toList.splitOn ';').map String.ofList with
    | nil => exact absurd shape parts
    | cons part rest =>
      rw [shape] at joined
      exact congrArg some joined

/-! ## Writing a configuration -/

section Writing
variable {key : String}

theorem fills_string (key s : String) :
    Fills (fun dict => appendString dict key (some s)) .stringVariant (.ofEntries [(key, .basic .string s .nil)]) :=
  fills_basic key (show Mapped .string by decide) s

theorem fills_strings (key s : String) :
    Fills (fun dict => appendStrings dict key (some s)) .stringVariant
      (.ofEntries [(key, .array .string (.ofList .string (strsplit s)) .nil)]) :=
  fills_array key (by decide) (fills_appendList .string (strsplit s))

/-- A dictionary that is written alone makes the message. -/
theorem message_dictionary {config : Config} {entries : List (String × Body)}
    (fills : Fills config.appendConfig .stringVariant (.ofEntries entries)) :
    config.message = .ok [(.message, changed config.key entries)] := by
  have variant := puts_variant (show Sig.ofVariant "a{sv}" = some .dictionary by decide) rfl (puts_dict fills)
  exact variant .message .message (.basic .string config.key.busName .nil) [] rfl

theorem message_ipv4 (method address netmask gateway : String) :
    (Config.ipv4 ⟨some method, some address, some netmask, some gateway⟩).message =
      .ok [(.message, changed (.updatable .ipv4Configuration)
        [("Method", .basic .string method .nil), ("Address", .basic .string address .nil),
          ("Netmask", .basic .string netmask .nil), ("Gateway", .basic .string gateway .nil)])] :=
  message_dictionary ((fills_string "Method" method).append ((fills_string "Address" address).append
    ((fills_string "Netmask" netmask).append (fills_string "Gateway" gateway))))

theorem message_ipv6 (method address gateway privacy : String) (prefixLength : UInt8) :
    (Config.ipv6 ⟨some method, some address, prefixLength, some gateway, some privacy⟩).message =
      .ok [(.message, changed (.updatable .ipv6Configuration)
        [("Method", .basic .string method .nil), ("Address", .basic .string address .nil),
          ("PrefixLength", .basic .byte prefixLength .nil), ("Gateway", .basic .string gateway .nil),
          ("Privacy", .basic .string privacy .nil)])] :=
  message_dictionary ((fills_string "Method" method).append ((fills_string "Address" address).append
    ((fills_basic "PrefixLength" (show Mapped .byte by decide) prefixLength).append
      ((fills_string "Gateway" gateway).append (fills_string "Privacy" privacy)))))

theorem message_proxy (method url servers excludes : String) :
    (Config.proxy ⟨some method, some url, some servers, some excludes⟩).message =
      .ok [(.message, changed (.updatable .proxyConfiguration)
        [("Method", .basic .string method .nil), ("URL", .basic .string url .nil),
          ("Servers", .array .string (.ofList .string (strsplit servers)) .nil),
          ("Excludes", .array .string (.ofList .string (strsplit excludes)) .nil)])] :=
  message_dictionary ((fills_string "Method" method).append ((fills_string "URL" url).append
    ((fills_strings "Servers" servers).append (fills_strings "Excludes" excludes))))

/-- A dictionary with an entry for every member comes back as it is. -/
theorem comesBack_iff {config : Config} {entries : List (String × Body)}
    (message : config.message = .ok [(.message, changed config.key entries)])
    (typed : TypedDictionary config.key entries) (struct : typeOf config.key = .dictionary)
    (without : ¬HasPrefixLength entries) (fits : ∀ old, Fits entries config.key old)
    (holds : config.key.Field → Prop) : config.ComesBack holds ↔ holds (described entries config.key) := by
  have stored : ∀ obj, updateServiceProperty (changed config.key entries) obj =
      .ok (storeService obj config.key (described entries config.key)) := by
    intro obj
    rw [update_changed, decode_dictionary typed struct, if_neg without,
      (taken_iff typed struct without _).mpr (fits _)]
    rfl
  have held : ∀ obj, (storeService obj config.key (described entries config.key)).rest config.key =
      described entries config.key := fun obj => Function.update_self ..
  rw [Config.ComesBack, message]
  constructor
  · rintro ⟨body, same, back⟩
    cases same
    obtain ⟨obj', ok, there⟩ := back .blank
    rw [stored] at ok
    cases ok
    exact held .blank ▸ there
  · intro there
    refine ⟨_, rfl, fun obj => ⟨_, stored obj, ?_⟩⟩
    rw [held]
    exact there

end Writing

/-! ## Coming back -/

theorem comesBack_ipv4 (method address netmask gateway : String) (holds : Option ConnmanIpv4 → Prop) :
    (Config.ipv4 ⟨some method, some address, some netmask, some gateway⟩).ComesBack holds ↔
      holds (some ⟨some method, some address, some netmask, some gateway⟩) := by
  have typed : TypedDictionary (.updatable .ipv4Configuration)
      [("Method", .basic .string method .nil), ("Address", .basic .string address .nil),
        ("Netmask", .basic .string netmask .nil), ("Gateway", .basic .string gateway .nil)] :=
    ⟨by simp [Body.wellFormed_dictionary, Body.sig, Body.WellFormed, Sig.Single, Sig.Valid], by simp,
      by simp [connmanMembersOf, membersOf, ipv4Members, Body.sig]⟩
  have without : ¬HasPrefixLength _ := fun sent => absurd (typed.ipv6 sent) (by decide)
  rw [comesBack_iff (message_ipv4 method address netmask gateway) typed rfl without
    (fun old any => ⟨.of_lookup _ rfl, .of_lookup _ rfl, .of_lookup _ rfl, .of_lookup _ rfl⟩) holds]
  exact Iff.rfl

/-- The length of the prefix is a byte under another key than the one it is
looked for. -/
theorem comesBack_ipv6 (method address gateway privacy : String) (prefixLength : UInt8)
    (holds : Option ConnmanIpv6 → Prop) :
    ¬(Config.ipv6 ⟨some method, some address, prefixLength, some gateway, some privacy⟩).ComesBack holds := by
  have typed : TypedDictionary (.updatable .ipv6Configuration)
      [("Method", .basic .string method .nil), ("Address", .basic .string address .nil),
        ("PrefixLength", .basic .byte prefixLength .nil), ("Gateway", .basic .string gateway .nil),
        ("Privacy", .basic .string privacy .nil)] :=
    ⟨by simp [Body.wellFormed_dictionary, Body.sig, Body.WellFormed, Sig.Single, Sig.Valid], by simp,
      by simp [connmanMembersOf, connmanIpv6Members, Body.sig]⟩
  rintro ⟨body, same, back⟩
  rw [message_ipv6] at same
  cases same
  obtain ⟨obj', ok, -⟩ := back .blank
  rw [update_changed, decode_dictionary typed rfl,
    if_pos ⟨("PrefixLength", .basic .byte prefixLength .nil), by simp, rfl⟩] at ok
  cases ok

theorem comesBack_proxy (method url servers excludes : String) (holds : Option ConnmanProxy → Prop) :
    (Config.proxy ⟨some method, some url, some servers, some excludes⟩).ComesBack holds ↔
      holds (some ⟨some method, some url, if servers = "" then none else some servers,
        if excludes = "" then none else some excludes⟩) := by
  have typed : TypedDictionary (.updatable .proxyConfiguration)
      [("Method", .basic .string method .nil), ("URL", .basic .string url .nil),
        ("Servers", .array .string (.ofList .string (strsplit servers)) .nil),
        ("Excludes", .array .string (.ofList .string (strsplit excludes)) .nil)] := by
    have whole : ∀ l : List String, (Body.array .string (.ofList .string l) .nil).WellFormed :=
      @Body.wellFormed_array .string
    refine ⟨Body.wellFormed_dictionary.mpr ?_, by simp, by simp [connmanMembersOf, membersOf, proxyMembers, Body.sig]⟩
    simp only [List.forall_mem_cons]
    exact ⟨⟨rfl, rfl, trivial⟩, ⟨rfl, rfl, trivial⟩, ⟨rfl, rfl, whole _⟩, ⟨rfl, rfl, whole _⟩, by simp⟩
  have without : ¬HasPrefixLength _ := fun sent => absurd (typed.ipv6 sent) (by decide)
  rw [comesBack_iff (message_proxy method url servers excludes) typed rfl without
    (fun old any => ⟨.of_lookup _ rfl, .of_lookup _ rfl, .of_lookup _ rfl, .of_lookup _ rfl⟩) holds, ← joinv_strsplit, ← joinv_strsplit]
  have list : ∀ l : List String, stringsOf (Body.ofList .string l) = l := stringsOf_ofList
  have meant : described [("Method", .basic .string method .nil), ("URL", .basic .string url .nil),
      ("Servers", .array .string (.ofList .string (strsplit servers)) .nil),
      ("Excludes", .array .string (.ofList .string (strsplit excludes)) .nil)] (.updatable .proxyConfiguration) =
      some ⟨some method, some url, joinv (strsplit servers), joinv (strsplit excludes)⟩ := by
    simp [described, described.proxy, stringAt, stringsAt, List.lookup_cons, Body.inside, list]
  exact iff_of_eq (congrArg holds meant)

/-- An address configuration comes back as it was sent and is known again; one
with a prefix never; and a proxy is known again unless one of its lists is
empty. -/
theorem config_round_trip_iff (config : Config) (filled : config.Filled) :
    (config.ComesBack config.Stored ↔ ¬∃ c, config = .ipv6 c) ∧
    (config.ComesBack (fun conf => config.Stored conf ∧ config.Unchanged conf) ↔ config.Returns) := by
  cases config with
  | ipv4 c =>
    obtain ⟨_ | method, _ | address, _ | netmask, _ | gateway⟩ := c
    case some.some.some.some =>
      have back := comesBack_ipv4 method address netmask gateway
      exact ⟨(back _).trans ⟨fun _ => nofun, fun _ => rfl⟩,
        (back _).trans ⟨fun _ => trivial, fun _ => ⟨rfl, _, rfl, rfl, rfl, rfl, rfl⟩⟩⟩
    all_goals simp [Config.Filled] at filled
  | ipv6 c =>
    obtain ⟨_ | method, _ | address, prefixLength, _ | gateway, _ | privacy⟩ := c
    case some.some.some.some =>
      have lost := comesBack_ipv6 method address gateway privacy prefixLength
      exact ⟨⟨fun back => absurd back (lost _), fun other => absurd ⟨_, rfl⟩ other⟩,
        ⟨fun back => absurd back (lost _), fun never => never.elim⟩⟩
    all_goals simp [Config.Filled] at filled
  | proxy c =>
    obtain ⟨_ | method, _ | url, _ | servers, _ | excludes⟩ := c
    case some.some.some.some =>
      have back := comesBack_proxy method url servers excludes
      have sameList : ∀ s : String, Config.SameList (if s = "" then none else some s) (some s) := by
        intro s
        by_cases empty : s = ""
        · rw [if_pos empty, empty]
          exact .inr ⟨rfl, rfl⟩
        · rw [if_neg empty]
          exact .inl rfl
      have sameString : ∀ s : String, (if s = "" then none else some s) = some s ↔ some s ≠ some "" := by
        intro s
        by_cases empty : s = "" <;> simp [empty]
      constructor
      · exact (back _).trans ⟨fun _ => nofun, fun _ => ⟨_, rfl, rfl, rfl, sameList servers, sameList excludes⟩⟩
      · refine (back _).trans ⟨?_, fun nonempty => ?_⟩
        · rintro ⟨-, orig, same, -, -, known, known'⟩
          cases same
          exact ⟨(sameString servers).mp known, (sameString excludes).mp known'⟩
        · exact ⟨⟨_, rfl, rfl, rfl, sameList servers, sameList excludes⟩, _, rfl, rfl, rfl,
            (sameString servers).mpr nonempty.1, (sameString excludes).mpr nonempty.2⟩
    all_goals simp [Config.Filled] at filled

/-- A proxy with two servers and one exception is known again. -/
theorem config_round_trip_iff_proxy :
    let config : Config := .proxy ⟨some "manual", some "", some "a:1;b:2", some "localhost"⟩
    config.ComesBack fun conf => config.Stored conf ∧ config.Unchanged conf :=
  (config_round_trip_iff (.proxy ⟨some "manual", some "", some "a:1;b:2", some "localhost"⟩)
    ⟨rfl, rfl, rfl, rfl⟩).2.mpr ⟨by decide, by decide⟩

/-- A prefix of 64 does not come back, and a proxy without exceptions is not
known again. -/
theorem not_always_back :
    let address : Config := .ipv6 ⟨some "manual", some "fd00::2", 64, some "fd00::1", some "disabled"⟩
    let proxy : Config := .proxy ⟨some "manual", some "", some "a:1", some ""⟩
    (address.Filled ∧ ¬address.ComesBack address.Stored) ∧
      (proxy.Filled ∧ ¬proxy.ComesBack fun conf => proxy.Stored conf ∧ proxy.Unchanged conf) := by
  refine ⟨⟨⟨rfl, rfl, rfl, rfl⟩, comesBack_ipv6 _ _ _ _ _ _⟩, ⟨rfl, rfl, rfl, rfl⟩, fun back => ?_⟩
  obtain ⟨-, orig, same, -, -, -, excludes⟩ := (comesBack_proxy ..).mp back
  cases same
  cases excludes

end ConnmanUi.Reading
