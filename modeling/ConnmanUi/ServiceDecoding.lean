import ConnmanUi.ServiceRecord

/-!
What a record shows of the values it has taken in.

`meaning` is what a record that held nothing shows of a value.  A record that
held something may show something else: a member of an address or proxy struct
the new dictionary has no entry for stays, and a value of the wrong type leaves
a local as it was.  `Whole` excludes both, and then decoding is taking the
meaning (`decode_whole`), of a whole dictionary at once (`storeEntries_whole`).
-/

namespace ConnmanUi.Service

variable {uninit : Uninit} {dict : List (String × Variant)} {key name : String} {k : Key} {arg : Value}

/-! ## Entries -/

/-- The dictionary has a string for a member, or no entry and the member is not
set. -/
def StringEntry (dict : List (String × Variant)) (key : String) (old : Option String) : Prop :=
  match getDictEntry dict key with
  | some (.string _) => True
  | some _ => False
  | none => old = none

def Uint16Entry (dict : List (String × Variant)) (key : String) (old : UInt16) : Prop :=
  match getDictEntry dict key with
  | some (.uint16 _) => True
  | some _ => False
  | none => old = 0

/-- The dictionary has an array for a member, or no entry and the member is not
set. -/
def ArrayEntry (dict : List (String × Variant)) (key : String) (old : Option String) : Prop :=
  match getDictEntry dict key with
  | some _ => True
  | none => old = none

/-- The dictionary has none of these entries. -/
def Lacks (dict : List (String × Variant)) (keys : List String) : Prop :=
  ∀ key ∈ keys, getDictEntry dict key = none

instance (old : Option String) : Decidable (StringEntry dict key old) := by
  unfold StringEntry
  split <;> infer_instance

instance (old : UInt16) : Decidable (Uint16Entry dict key old) := by
  unfold Uint16Entry
  split <;> infer_instance

instance (old : Option String) : Decidable (ArrayEntry dict key old) := by
  unfold ArrayEntry
  split <;> infer_instance

instance (keys : List String) : Decidable (Lacks dict keys) := inferInstanceAs (Decidable (∀ _ ∈ keys, _))

theorem getDictString_found (dict : List (String × Variant)) (key : String) (destination : Option String) :
    (getDictString dict key destination).1 = (getDictEntry dict key).isSome := by
  unfold getDictString
  split
  case h_1 absent => rw [absent]; rfl
  case h_2 there => rw [there]; rfl
  case h_3 there => rw [there]; rfl

theorem getDictUint16_found (dict : List (String × Variant)) (key : String) (destination : UInt16) :
    (getDictUint16 dict key destination).1 = (getDictEntry dict key).isSome := by
  unfold getDictUint16
  split
  case h_1 absent => rw [absent]; rfl
  case h_2 there => rw [there]; rfl
  case h_3 there => rw [there]; rfl

/-- The string a dictionary has for a member. -/
def stringOf (dict : List (String × Variant)) (key : String) : Option String :=
  match getDictEntry dict key with
  | some (.string s) => some s
  | _ => none

def uint16Of (dict : List (String × Variant)) (key : String) : UInt16 :=
  match getDictEntry dict key with
  | some (.uint16 n) => n
  | _ => 0

/-- What is read for a member is what the dictionary has for it. -/
theorem StringEntry.read {old : Option String} (entry : StringEntry dict key old) (destination : Option String) :
    (if (getDictEntry dict key).isSome then (getDictString dict key destination).2 else old) =
      stringOf dict key := by
  unfold StringEntry at entry
  unfold getDictString stringOf
  cases found : getDictEntry dict key with
  | none =>
    rw [found] at entry
    exact entry
  | some v =>
    rw [found] at entry
    cases v with
    | string s => rfl
    | _ => exact entry.elim

theorem Uint16Entry.read {old : UInt16} (entry : Uint16Entry dict key old) (destination : UInt16) :
    (if (getDictEntry dict key).isSome then (getDictUint16 dict key destination).2 else old) =
      uint16Of dict key := by
  unfold Uint16Entry at entry
  unfold getDictUint16 uint16Of
  cases found : getDictEntry dict key with
  | none =>
    rw [found] at entry
    exact entry
  | some v =>
    rw [found] at entry
    cases v with
    | uint16 n => rfl
    | _ => exact entry.elim

/-- The prefix is kept in fewer bits than it is read in. -/
theorem Uint16Entry.readByte {old : UInt8} (entry : Uint16Entry dict key old.toUInt16) (destination : UInt16) :
    (if (getDictEntry dict key).isSome then (getDictUint16 dict key destination).2.toUInt8 else old) =
      (uint16Of dict key).toUInt8 := by
  rw [← entry.read destination]
  split
  · rfl
  · simp

theorem ArrayEntry.absent {old : Option String} (entry : ArrayEntry dict key old)
    (absent : getDictEntry dict key = none) : old = none := by
  unfold ArrayEntry at entry
  rw [absent] at entry
  exact entry

/-- An entry that would do for a member that is set does for one that is not. -/
theorem StringEntry.unset {old : Option String} (entry : StringEntry dict key old) : StringEntry dict key none := by
  unfold StringEntry at entry ⊢
  cases found : getDictEntry dict key with
  | none => rfl
  | some v =>
    rw [found] at entry
    cases v <;> exact entry

theorem Uint16Entry.unset {old : UInt16} (entry : Uint16Entry dict key old) : Uint16Entry dict key 0 := by
  unfold Uint16Entry at entry ⊢
  cases found : getDictEntry dict key with
  | none => rfl
  | some v =>
    rw [found] at entry
    cases v <;> exact entry

/-! ## Whole values -/

def WholeIpv4 (dict : List (String × Variant)) (old : ConnmanIpv4) : Prop :=
  Lacks dict ["Method", "Address", "Netmask", "Gateway"] ∨
    StringEntry dict "Method" old.method ∧ StringEntry dict "Address" old.address ∧
      StringEntry dict "Netmask" old.netmask ∧ StringEntry dict "Gateway" old.gateway

def WholeIpv6 (dict : List (String × Variant)) (old : ConnmanIpv6) : Prop :=
  Lacks dict ["Method", "Address", "Prefix", "Gateway", "Privacy"] ∨
    StringEntry dict "Method" old.method ∧ StringEntry dict "Address" old.address ∧
      Uint16Entry dict "Prefix" old.prefixLength.toUInt16 ∧ StringEntry dict "Gateway" old.gateway ∧
      StringEntry dict "Privacy" old.privacy

def WholeProxy (dict : List (String × Variant)) (old : ConnmanProxy) : Prop :=
  Lacks dict ["Method", "URL", "Servers", "Excludes"] ∨
    StringEntry dict "Method" old.method ∧ StringEntry dict "URL" old.url ∧
      ArrayEntry dict "Servers" old.servers ∧ ArrayEntry dict "Excludes" old.excludes

def WholeProvider (dict : List (String × Variant)) (old : ConnmanProvider) : Prop :=
  Lacks dict ["Host", "Domain", "Name", "Type"] ∨
    StringEntry dict "Host" old.host ∧ StringEntry dict "Domain" old.domain ∧
      StringEntry dict "Name" old.name ∧ StringEntry dict "Type" old.type

def WholeEthernet (dict : List (String × Variant)) (old : ConnmanEthernet) : Prop :=
  StringEntry dict "Method" old.method ∧ StringEntry dict "Interface" old.interface ∧
    StringEntry dict "Address" old.address ∧ Uint16Entry dict "MTU" old.mtu ∧
    Uint16Entry dict "Speed" old.speed ∧ StringEntry dict "Duplex" old.duplex

def IsString : Value → Bool
  | .variant (.string _) => true
  | _ => false

def IsBoolean : Value → Bool
  | .variant (.boolean _) => true
  | _ => false

def IsByte : Value → Bool
  | .variant (.byte _) => true
  | _ => false

/-- The value has the property's type, and a dictionary has an entry for each
member the record has set. -/
def Whole (arg : Value) : (k : Key) → k.Field → Prop
  | .name, _ => IsString arg
  | .type, _ => IsString arg
  | .immutable, _ => IsBoolean arg
  | .updatable .state, _ => IsString arg
  | .updatable .error, _ => IsString arg
  | .updatable .strength, _ => IsByte arg
  | .updatable .favorite, _ => IsBoolean arg
  | .updatable .autoconnect, _ => IsBoolean arg
  | .updatable .roaming, _ => IsBoolean arg
  | .updatable .ipv4, old => WholeIpv4 arg.entries (old.getD {})
  | .updatable .ipv4Configuration, old => WholeIpv4 arg.entries (old.getD {})
  | .updatable .ipv6, old => WholeIpv6 arg.entries (old.getD {})
  | .updatable .ipv6Configuration, old => WholeIpv6 arg.entries (old.getD {})
  | .updatable .proxy, old => WholeProxy arg.entries (old.getD {})
  | .updatable .proxyConfiguration, old => WholeProxy arg.entries (old.getD {})
  | .updatable .provider, old => WholeProvider arg.entries (old.getD {})
  | .updatable .ethernet, old => WholeEthernet arg.entries (old.getD {})
  | _, _ => True

instance (arg : Value) (k : Key) (old : k.Field) : Decidable (Whole arg k old) := by
  cases k with
  | updatable i =>
    cases i <;> dsimp only [Whole, WholeIpv4, WholeIpv6, WholeProxy, WholeProvider, WholeEthernet] <;>
      infer_instance
  | _ => dsimp only [Whole]; infer_instance

/-- What a record that holds nothing shows of a value. -/
def meaning (k : Key) (arg : Value) : k.Field := decode ⟨none, false, 0, 0⟩ arg k k.zero

theorem parseIpv4_whole {old : Option ConnmanIpv4} (whole : WholeIpv4 arg.entries (old.getD {})) :
    parseIpv4 uninit arg old = parseIpv4 ⟨none, false, 0, 0⟩ arg none := by
  simp only [parseIpv4, getDictString_found]
  rcases whole with lacks | ⟨method, address, netmask, gateway⟩
  · simp [lacks "Method", lacks "Address", lacks "Netmask", lacks "Gateway"]
  · simp only [method.read, address.read, netmask.read, gateway.read, Option.getD_none, method.unset.read,
      address.unset.read, netmask.unset.read, gateway.unset.read]

theorem parseIpv6_whole {old : Option ConnmanIpv6} (whole : WholeIpv6 arg.entries (old.getD {})) :
    parseIpv6 uninit arg old = parseIpv6 ⟨none, false, 0, 0⟩ arg none := by
  simp only [parseIpv6, getDictString_found, getDictUint16_found]
  rcases whole with lacks | ⟨method, address, prefixLength, gateway, privacy⟩
  · simp [lacks "Method", lacks "Address", lacks "Prefix", lacks "Gateway", lacks "Privacy"]
  · have unset : Uint16Entry arg.entries "Prefix" (0 : UInt8).toUInt16 := prefixLength.unset
    simp only [method.read, address.read, prefixLength.readByte, gateway.read, privacy.read, Option.getD_none,
      method.unset.read, address.unset.read, unset.readByte, gateway.unset.read, privacy.unset.read]

theorem parseProxy_whole {old : Option ConnmanProxy} (whole : WholeProxy arg.entries (old.getD {})) :
    parseProxy uninit arg old = parseProxy ⟨none, false, 0, 0⟩ arg none := by
  simp only [parseProxy, getDictString_found]
  rcases whole with lacks | ⟨method, url, servers, excludes⟩
  · simp [getDictArray, lacks "Method", lacks "URL", lacks "Servers", lacks "Excludes"]
  · simp only [method.read, url.read, Option.getD_none, method.unset.read, url.unset.read, getDictArray]
    have unset := And.intro servers.absent excludes.absent
    cases servers : getDictEntry arg.entries "Servers" with
    | none =>
      cases excludes : getDictEntry arg.entries "Excludes" with
      | none => simp [unset.1 servers, unset.2 excludes]
      | some v => simp [unset.1 servers]
    | some v =>
      cases excludes : getDictEntry arg.entries "Excludes" with
      | none => simp [unset.2 excludes]
      | some v => simp

theorem parseProvider_whole {old : Option ConnmanProvider} (whole : WholeProvider arg.entries (old.getD {})) :
    parseProvider uninit arg old = parseProvider ⟨none, false, 0, 0⟩ arg none := by
  simp only [parseProvider, getDictString_found]
  rcases whole with lacks | ⟨host, domain, name, type⟩
  · simp [lacks "Host", lacks "Domain", lacks "Name", lacks "Type"]
  · simp only [host.read, domain.read, name.read, type.read, Option.getD_none, host.unset.read,
      domain.unset.read, name.unset.read, type.unset.read]

theorem parseEthernet_whole {old : Option ConnmanEthernet} (whole : WholeEthernet arg.entries (old.getD {})) :
    parseEthernet uninit arg old = parseEthernet ⟨none, false, 0, 0⟩ arg none := by
  obtain ⟨method, interface, address, mtu, speed, duplex⟩ := whole
  simp only [parseEthernet, getDictString_found, getDictUint16_found, method.read, interface.read, address.read,
    mtu.read, speed.read, duplex.read, Option.getD_none, method.unset.read, interface.unset.read,
    address.unset.read, mtu.unset.read, speed.unset.read, duplex.unset.read]

/-- A whole value is decoded to its meaning, whatever the record held. -/
theorem decode_whole {old : k.Field} (whole : Whole arg k old) : decode uninit arg k old = meaning k arg := by
  have string : IsString arg = true → ∀ destination, arg.getString destination = arg.getString none := by
    intro typed destination
    cases arg with
    | dict => cases typed
    | variant v => cases v <;> first | rfl | cases typed
  have boolean : IsBoolean arg = true → ∀ destination, arg.getBoolean destination = arg.getBoolean false := by
    intro typed destination
    cases arg with
    | dict => cases typed
    | variant v => cases v <;> first | rfl | cases typed
  have byte : IsByte arg = true → ∀ destination, arg.getByte destination = arg.getByte 0 := by
    intro typed destination
    cases arg with
    | dict => cases typed
    | variant v => cases v <;> first | rfl | cases typed
  cases k with
  | name => exact string whole _
  | type => exact string whole _
  | security => rfl
  | immutable => exact boolean whole _
  | updatable i =>
    cases i with
    | state => exact congrArg string2enumState (string whole _)
    | error => exact string whole _
    | strength => exact byte whole _
    | favorite => exact boolean whole _
    | autoconnect => exact boolean whole _
    | roaming => exact boolean whole _
    | ipv4 => exact parseIpv4_whole whole
    | ipv4Configuration => exact parseIpv4_whole whole
    | ipv6 => exact parseIpv6_whole whole
    | ipv6Configuration => exact parseIpv6_whole whole
    | proxy => exact parseProxy_whole whole
    | proxyConfiguration => exact parseProxy_whole whole
    | provider => exact parseProvider_whole whole
    | ethernet => exact parseEthernet_whole whole
    | _ => rfl

/-! ## Dictionaries -/

/-- The name a property has on the bus. -/
def Key.busName : Key → String
  | .name => "Name"
  | .type => "Type"
  | .security => "Security"
  | .immutable => "Immutable"
  | .updatable .state => "State"
  | .updatable .error => "Error"
  | .updatable .strength => "Strength"
  | .updatable .favorite => "Favorite"
  | .updatable .autoconnect => "AutoConnect"
  | .updatable .roaming => "Roaming"
  | .updatable .nameservers => "Nameservers"
  | .updatable .nameserversConfiguration => "Nameservers.Configuration"
  | .updatable .domains => "Domains"
  | .updatable .domainsConfiguration => "Domains.Configuration"
  | .updatable .timeservers => "Timeservers"
  | .updatable .timeserversConfiguration => "Timeservers.Configuration"
  | .updatable .ipv4 => "IPv4"
  | .updatable .ipv4Configuration => "IPv4.Configuration"
  | .updatable .ipv6 => "IPv6"
  | .updatable .ipv6Configuration => "IPv6.Configuration"
  | .updatable .proxy => "Proxy"
  | .updatable .proxyConfiguration => "Proxy.Configuration"
  | .updatable .provider => "Provider"
  | .updatable .ethernet => "Ethernet"

/-- A property is stored under one name only. -/
theorem Key.ofName_eq (named : Key.ofName name = some k) : name = k.busName := by
  unfold Key.ofName at named
  split at named
  all_goals cases named
  all_goals rfl

/-- What `update_service_property` leaves in the record. -/
def storeEntry (uninit : Uninit) (rest : Record) (entry : String × Value) : Record :=
  match Key.ofName entry.1 with
  | none => rest
  | some k => Function.update rest k (decode uninit entry.2 k (rest k))

theorem updateServiceProperty_rest (uninit : Uninit) (obj : Object Property Record) (entry : String × Value) :
    (updateServiceProperty uninit obj entry.1 entry.2).rest = storeEntry uninit obj.rest entry := by
  unfold updateServiceProperty storeEntry
  cases Key.ofName entry.1 with
  | none => rfl
  | some k => rfl

/-- The record takes in the meaning of an entry. -/
def showEntry (rest : Record) (entry : String × Value) : Record :=
  match Key.ofName entry.1 with
  | none => rest
  | some k => Function.update rest k (meaning k entry.2)

/-- The record shows the properties of the dictionary that are stored. -/
def Shows (rest : Record) (dict : Dict) : Prop :=
  ∀ entry ∈ dict, ∀ k ∈ Key.ofName entry.1, rest k = meaning k entry.2

/-- The entries are whole to the record. -/
def Fits (rest : Record) (dict : Dict) : Prop :=
  ∀ entry ∈ dict, ∀ k ∈ Key.ofName entry.1, Whole entry.2 k (rest k)

instance (rest : Record) (dict : Dict) : Decidable (Fits rest dict) :=
  inferInstanceAs (Decidable (∀ _ ∈ dict, ∀ _ ∈ _, _))

/-- An entry does not touch what the record holds under another name. -/
theorem showEntry_other (rest : Record) (entry : String × Value) (named : Key.ofName name = some k)
    (other : name ≠ entry.1) : showEntry rest entry k = rest k := by
  unfold showEntry
  cases stored : Key.ofName entry.1 with
  | none => rfl
  | some k' =>
    refine Function.update_of_ne ?_ _ _
    rintro rfl
    exact other ((Key.ofName_eq named).trans (Key.ofName_eq stored).symm)

theorem storeEntry_whole (rest : Record) (entry : String × Value)
    (whole : ∀ k ∈ Key.ofName entry.1, Whole entry.2 k (rest k)) :
    storeEntry uninit rest entry = showEntry rest entry := by
  unfold storeEntry showEntry
  cases stored : Key.ofName entry.1 with
  | none => rfl
  | some k => exact congrArg (Function.update rest k) (decode_whole (whole k stored))

/-- Storing a dictionary whose entries are whole is taking in their meaning. -/
theorem storeEntries_whole (rest : Record) (dict : Dict) (distinct : (dict.map Prod.fst).Nodup)
    (fits : Fits rest dict) : dict.foldl (storeEntry uninit) rest = dict.foldl showEntry rest := by
  induction dict generalizing rest with
  | nil => rfl
  | cons entry dict ih =>
    obtain ⟨new, distinct⟩ := List.nodup_cons.mp distinct
    rw [List.foldl_cons, List.foldl_cons, storeEntry_whole rest entry (fits entry List.mem_cons_self)]
    refine ih _ distinct fun later mem k stored => ?_
    rw [showEntry_other rest entry stored fun same => new (same ▸ List.mem_map_of_mem mem)]
    exact fits later (List.mem_cons_of_mem _ mem) k stored

theorem showEntries_other (rest : Record) (dict : Dict) (named : Key.ofName name = some k)
    (other : name ∉ dict.map Prod.fst) : dict.foldl showEntry rest k = rest k := by
  induction dict generalizing rest with
  | nil => rfl
  | cons entry dict ih =>
    obtain ⟨ne, others⟩ := not_or.mp (List.mem_cons.not.mp other)
    rw [List.foldl_cons, ih _ others, showEntry_other rest entry named ne]

/-- A record that has taken in a dictionary shows it. -/
theorem showEntries_shows (rest : Record) (dict : Dict) (distinct : (dict.map Prod.fst).Nodup) :
    Shows (dict.foldl showEntry rest) dict := by
  induction dict generalizing rest with
  | nil => nofun
  | cons entry dict ih =>
    obtain ⟨new, distinct⟩ := List.nodup_cons.mp distinct
    rw [List.foldl_cons]
    intro later mem k stored
    rcases List.mem_cons.mp mem with rfl | old
    · rw [showEntries_other _ dict stored new]
      unfold showEntry
      have named : Key.ofName later.1 = some k := stored
      rw [named]
      exact Function.update_self ..
    · exact ih _ distinct later old k stored

end ConnmanUi.Service
