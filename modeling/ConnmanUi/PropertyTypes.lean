import ConnmanUi.PropertyReading

/-!
The types of properties.

A property is read well exactly when its value has the type the code expects
(`reads_iff_typed`): nothing that is read is ever turned away.  The booleans of a
technology are the exception; they are read in place, and a value of another
type leaves them alone.
-/

namespace ConnmanUi.Reading

open DBus
open Service (Key Record ConnmanIpv4 ConnmanIpv6 ConnmanProxy ConnmanProvider ConnmanEthernet)

/-! ## Expected types -/

/-- The type `update_service_property` expects of a property. -/
def typeOf : Key → Sig
  | .name => .string
  | .type => .string
  | .security => .strings
  | .immutable => .boolean
  | .updatable .state => .string
  | .updatable .error => .string
  | .updatable .strength => .byte
  | .updatable .favorite => .boolean
  | .updatable .autoconnect => .boolean
  | .updatable .roaming => .boolean
  | .updatable .nameservers => .strings
  | .updatable .nameserversConfiguration => .strings
  | .updatable .timeservers => .strings
  | .updatable .timeserversConfiguration => .strings
  | .updatable .domains => .strings
  | .updatable .domainsConfiguration => .strings
  | .updatable .ipv4 => .dictionary
  | .updatable .ipv4Configuration => .dictionary
  | .updatable .ipv6 => .dictionary
  | .updatable .ipv6Configuration => .dictionary
  | .updatable .proxy => .dictionary
  | .updatable .proxyConfiguration => .dictionary
  | .updatable .provider => .dictionary
  | .updatable .ethernet => .dictionary

def ipv4Members : List (String × Sig) :=
  [("Method", .string), ("Address", .string), ("Netmask", .string), ("Gateway", .string)]

def ipv6Members : List (String × Sig) :=
  [("Method", .string), ("Address", .string), ("Prefix", .uint16), ("Gateway", .string), ("Privacy", .string)]

def proxyMembers : List (String × Sig) :=
  [("Method", .string), ("URL", .string), ("Servers", .strings), ("Excludes", .strings)]

def providerMembers : List (String × Sig) :=
  [("Host", .string), ("Domain", .string), ("Name", .string), ("Type", .string)]

def ethernetMembers : List (String × Sig) :=
  [("Method", .string), ("Interface", .string), ("Address", .string), ("MTU", .uint16), ("Speed", .uint16),
    ("Duplex", .string)]

/-- The keys the parsers look for, with the types they expect there. -/
def membersOf : Key → List (String × Sig)
  | .updatable .ipv4 => ipv4Members
  | .updatable .ipv4Configuration => ipv4Members
  | .updatable .ipv6 => ipv6Members
  | .updatable .ipv6Configuration => ipv6Members
  | .updatable .proxy => proxyMembers
  | .updatable .proxyConfiguration => proxyMembers
  | .updatable .provider => providerMembers
  | .updatable .ethernet => ethernetMembers
  | _ => []

/-- The entry a key finds has this type, if there is one. -/
def EntryHasType (entries : List (String × Body)) (member : String × Sig) : Prop :=
  ∀ inner, entryFor entries member.1 = some inner → inner.sig = member.2

/-- The entries of a dictionary of variants; nothing else has any. -/
def entriesOf : Body → List (String × Body)
  | .array _ items _ => items.entries
  | _ => []

/-- A property's value has the type expected of it. -/
def Expected (k : Key) (arg : Body) : Prop :=
  ∃ inner rest, arg = .variant inner rest ∧ inner.sig = typeOf k ∧
    ∀ member ∈ membersOf k, EntryHasType (entriesOf inner) member

/-! ## Reading what has its type -/

section Members
variable {entries : List (String × Body)} {key : String} {type : Basic}

def basicFor (entries : List (String × Body)) (key : String) (type : Basic) : Option type.Carrier :=
  (entryFor entries key).bind (Body.getBasic type)

/-- The strings at the head of a sequence. -/
def stringsOf : Body → List String
  | .basic .string s rest => s :: stringsOf rest
  | _ => []

@[simp] theorem stringsOf_ofList (l : List String) : stringsOf (Body.ofList .string l) = l := by
  induction l with
  | nil => rfl
  | cons s l ih => exact congrArg (s :: ·) ih

def stringsFor (entries : List (String × Body)) (key : String) : Option (List String) :=
  (entryFor entries key).map fun inner => stringsOf (inner.inside.getD .nil)

theorem readMember_typed (typed : EntryHasType entries (key, .basic type .nil)) (value : Option type.Carrier) :
    readMember type (.dictionary entries) key value =
      .ok (basicFor entries key type, (basicFor entries key type).or value) := by
  unfold readMember
  rw [getDictEntry_dictionary]
  unfold basicFor
  cases found : entryFor entries key with
  | none => rfl
  | some inner =>
    obtain ⟨x, rfl⟩ := Body.sig_eq_basic.mp (typed inner found)
    simp [cuiDbusGet, cuiDbusGetBasic, Except.map, bind, Except.bind, gotBasic, readLocal]

theorem joinCells_strings (l : List (Basic.Carrier .string)) :
    joinCells (l.map fun s => some ⟨.string, s⟩) = .ok (joinv l) := by
  have read : ∀ l : List String, (l.map fun s => (some ⟨.string, s⟩ : Cell)).mapM cellString = .ok l := by
    intro l
    induction l with
    | nil => rfl
    | cons s l ih => rw [List.map_cons, List.mapM_cons, ih]; rfl
  rw [joinCells, read]
  rfl

theorem readArrayMember_typed (typed : EntryHasType entries (key, .strings))
    (wellFormed : (Body.dictionary entries).WellFormed) :
    readArrayMember (.dictionary entries) key = .ok ((stringsFor entries key).map joinv) := by
  unfold readArrayMember
  rw [getDictEntry_dictionary]
  unfold stringsFor
  cases found : entryFor entries key with
  | none => rfl
  | some inner =>
    obtain ⟨items, rfl⟩ := Body.sig_eq_array.mp (typed inner found)
    have whole : (Body.array .string items .nil).WellFormed := by
      obtain ⟨entry, there, same⟩ := Option.map_eq_some_iff.mp found
      rw [← same]
      exact (Body.wellFormed_dictionary.mp wellFormed entry (List.mem_of_find?_eq_some there)).2.2
    obtain ⟨l, rfl⟩ := Body.uniform_basic.mp whole.1
    simp only [cuiDbusGet, cuiDbusGetArray_ofList (show elementSize .string = some 8 from rfl), Except.map, bind,
      Except.bind]
    simp only [Option.map_some, Body.inside, Option.getD_some, stringsOf_ofList]
    rw [joinCells_strings l]
    rfl

/-- What `parse_ipv4` makes of a dictionary of the right types. -/
def ipv4Of (entries : List (String × Body)) (ipv4 : Option ConnmanIpv4) : Option ConnmanIpv4 :=
  let method := basicFor entries "Method" .string
  let address := basicFor entries "Address" .string
  let netmask := basicFor entries "Netmask" .string
  let gateway := basicFor entries "Gateway" .string
  let old := ipv4.getD {}
  if method.isSome || address.isSome || netmask.isSome || gateway.isSome then
    some { method := method.or old.method
           address := address.or old.address
           netmask := netmask.or old.netmask
           gateway := gateway.or old.gateway }
  else none

theorem parseIpv4_typed (typed : ∀ member ∈ ipv4Members, EntryHasType entries member) (rest : Body)
    (old : Option ConnmanIpv4) :
    parseIpv4 (.variant (.dictionary entries) rest) old = .ok (ipv4Of entries old) := by
  have method := readMember_typed (typed ("Method", .string) (by decide))
  have address := readMember_typed (typed ("Address", .string) (by decide))
  have netmask := readMember_typed (typed ("Netmask", .string) (by decide))
  have gateway := readMember_typed (typed ("Gateway", .string) (by decide))
  simp only [parseIpv4, ipv4Of, recurse, readLocal, Body.inside, bind, Except.bind, method, address, netmask, gateway]
  split <;> rfl

def ipv6Of (entries : List (String × Body)) (ipv6 : Option ConnmanIpv6) : Option ConnmanIpv6 :=
  let method := basicFor entries "Method" .string
  let address := basicFor entries "Address" .string
  let prefixLength := basicFor entries "Prefix" .uint16
  let gateway := basicFor entries "Gateway" .string
  let privacy := basicFor entries "Privacy" .string
  let old := ipv6.getD {}
  if method.isSome || address.isSome || prefixLength.isSome || gateway.isSome || privacy.isSome then
    some { method := method.or old.method
           address := address.or old.address
           prefixLength := (prefixLength.map UInt16.toUInt8).getD old.prefixLength
           gateway := gateway.or old.gateway
           privacy := privacy.or old.privacy }
  else none

theorem parseIpv6_typed (typed : ∀ member ∈ ipv6Members, EntryHasType entries member) (rest : Body)
    (old : Option ConnmanIpv6) :
    parseIpv6 (.variant (.dictionary entries) rest) old = .ok (ipv6Of entries old) := by
  have method := readMember_typed (typed ("Method", .string) (by decide))
  have address := readMember_typed (typed ("Address", .string) (by decide))
  have prefixLength := readMember_typed (typed ("Prefix", .uint16) (by decide))
  have gateway := readMember_typed (typed ("Gateway", .string) (by decide))
  have privacy := readMember_typed (typed ("Privacy", .string) (by decide))
  simp only [parseIpv6, ipv6Of, recurse, readLocal, Body.inside, bind, Except.bind, method, address, prefixLength,
    gateway, privacy]
  split <;> rfl

def proxyOf (entries : List (String × Body)) (proxy : Option ConnmanProxy) : Option ConnmanProxy :=
  let method := basicFor entries "Method" .string
  let url := basicFor entries "URL" .string
  let servers := stringsFor entries "Servers"
  let excludes := stringsFor entries "Excludes"
  let old := proxy.getD {}
  if method.isSome || url.isSome || servers.isSome || excludes.isSome then
    some { method := method.or old.method
           url := url.or old.url
           servers := (servers.map joinv).getD old.servers
           excludes := (excludes.map joinv).getD old.excludes }
  else none

theorem parseProxy_typed (typed : ∀ member ∈ proxyMembers, EntryHasType entries member)
    (wellFormed : (Body.dictionary entries).WellFormed) (rest : Body) (old : Option ConnmanProxy) :
    parseProxy (.variant (.dictionary entries) rest) old = .ok (proxyOf entries old) := by
  have method := readMember_typed (typed ("Method", .string) (by decide))
  have url := readMember_typed (typed ("URL", .string) (by decide))
  have servers := readArrayMember_typed (typed ("Servers", .strings) (by decide)) wellFormed
  have excludes := readArrayMember_typed (typed ("Excludes", .strings) (by decide)) wellFormed
  simp only [parseProxy, proxyOf, recurse, readLocal, Body.inside, bind, Except.bind, method, url, servers, excludes,
    Option.isSome_map]
  split <;> rfl

def providerOf (entries : List (String × Body)) (provider : Option ConnmanProvider) : Option ConnmanProvider :=
  let host := basicFor entries "Host" .string
  let domain := basicFor entries "Domain" .string
  let name := basicFor entries "Name" .string
  let type := basicFor entries "Type" .string
  let old := provider.getD {}
  if host.isSome || domain.isSome || name.isSome || type.isSome then
    some { host := host.or old.host
           domain := domain.or old.domain
           name := name.or old.name
           type := type.or old.type }
  else none

theorem parseProvider_typed (typed : ∀ member ∈ providerMembers, EntryHasType entries member) (rest : Body)
    (old : Option ConnmanProvider) :
    parseProvider (.variant (.dictionary entries) rest) old = .ok (providerOf entries old) := by
  have host := readMember_typed (typed ("Host", .string) (by decide))
  have domain := readMember_typed (typed ("Domain", .string) (by decide))
  have name := readMember_typed (typed ("Name", .string) (by decide))
  have type := readMember_typed (typed ("Type", .string) (by decide))
  simp only [parseProvider, providerOf, recurse, readLocal, Body.inside, bind, Except.bind, host, domain, name, type]
  split <;> rfl

def ethernetOf (entries : List (String × Body)) (ethernet : Option ConnmanEthernet) : Option ConnmanEthernet :=
  let old := ethernet.getD {}
  some { method := (basicFor entries "Method" .string).or old.method
         interface := (basicFor entries "Interface" .string).or old.interface
         address := (basicFor entries "Address" .string).or old.address
         mtu := (basicFor entries "MTU" .uint16).getD old.mtu
         speed := (basicFor entries "Speed" .uint16).getD old.speed
         duplex := (basicFor entries "Duplex" .string).or old.duplex }

theorem parseEthernet_typed (typed : ∀ member ∈ ethernetMembers, EntryHasType entries member) (rest : Body)
    (old : Option ConnmanEthernet) :
    parseEthernet (.variant (.dictionary entries) rest) old = .ok (ethernetOf entries old) := by
  have method := readMember_typed (typed ("Method", .string) (by decide))
  have interface := readMember_typed (typed ("Interface", .string) (by decide))
  have address := readMember_typed (typed ("Address", .string) (by decide))
  have mtu := readMember_typed (typed ("MTU", .uint16) (by decide))
  have speed := readMember_typed (typed ("Speed", .uint16) (by decide))
  have duplex := readMember_typed (typed ("Duplex", .string) (by decide))
  simp only [parseEthernet, ethernetOf, recurse, readLocal, Body.inside, bind, Except.bind, method, interface, address,
    mtu, speed, duplex]

/-! ## Values of the expected type -/

variable {inner rest arg : Body}

/-- A list of strings is read as it is. -/
theorem getStrings_typed (typed : inner.sig = .strings) (wellFormed : inner.WellFormed) (rest : Body) :
    getStrings (.variant inner rest) = .ok (joinv (stringsOf (inner.inside.getD .nil))) := by
  obtain ⟨items, rfl⟩ := Body.sig_eq_array.mp typed
  obtain ⟨l, rfl⟩ := Body.uniform_basic.mp wellFormed.1
  simp only [getStrings, cuiDbusGetArray_variant (show elementSize .string = some 8 from rfl), readLocal, bind,
    Except.bind, Body.inside, Option.getD_some, stringsOf_ofList]
  exact joinCells_strings l

theorem getVariant_typed (typed : inner.sig = .basic type .nil) (rest : Body) :
    ∃ x, inner = .basic type x .nil ∧ getVariant type (.variant inner rest) = .ok x := by
  obtain ⟨x, rfl⟩ := Body.sig_eq_basic.mp typed
  exact ⟨x, rfl, by simp [getVariant, cuiDbusGetBasicVariant, readLocal]⟩

/-- A dictionary is made of its entries. -/
theorem dictionary_typed (typed : inner.sig = .dictionary) (wellFormed : inner.WellFormed) :
    inner = .dictionary (entriesOf inner) := by
  obtain ⟨items, rfl⟩ := Body.sig_eq_array.mp typed
  obtain ⟨l, rfl⟩ := Body.uniform_stringVariant.mp wellFormed.1
  simp [Body.dictionary, entriesOf]

end Members

/-- What is stored of a value of the expected type; `old` is what the member
holds. -/
def taken (inner : Body) : (k : Key) → k.Field → k.Field
  | .name, _ => inner.getBasic .string
  | .type, _ => inner.getBasic .string
  | .security, _ => joinv (stringsOf (inner.inside.getD .nil))
  | .immutable, old => (inner.getBasic .boolean).getD old
  | .updatable .state, _ => string2enumState (inner.getBasic .string)
  | .updatable .error, _ => inner.getBasic .string
  | .updatable .strength, old => (inner.getBasic .byte).getD old
  | .updatable .favorite, old => (inner.getBasic .boolean).getD old
  | .updatable .autoconnect, old => (inner.getBasic .boolean).getD old
  | .updatable .roaming, old => (inner.getBasic .boolean).getD old
  | .updatable .nameservers, _ => joinv (stringsOf (inner.inside.getD .nil))
  | .updatable .nameserversConfiguration, _ => joinv (stringsOf (inner.inside.getD .nil))
  | .updatable .timeservers, _ => joinv (stringsOf (inner.inside.getD .nil))
  | .updatable .timeserversConfiguration, _ => joinv (stringsOf (inner.inside.getD .nil))
  | .updatable .domains, _ => joinv (stringsOf (inner.inside.getD .nil))
  | .updatable .domainsConfiguration, _ => joinv (stringsOf (inner.inside.getD .nil))
  | .updatable .ipv4, old => ipv4Of (entriesOf inner) old
  | .updatable .ipv4Configuration, old => ipv4Of (entriesOf inner) old
  | .updatable .ipv6, old => ipv6Of (entriesOf inner) old
  | .updatable .ipv6Configuration, old => ipv6Of (entriesOf inner) old
  | .updatable .proxy, old => proxyOf (entriesOf inner) old
  | .updatable .proxyConfiguration, old => proxyOf (entriesOf inner) old
  | .updatable .provider, old => providerOf (entriesOf inner) old
  | .updatable .ethernet, old => ethernetOf (entriesOf inner) old

/-- A value of the expected type is read without going wrong. -/
theorem decode_expected {k : Key} {inner : Body} (typed : inner.sig = typeOf k)
    (members : ∀ member ∈ membersOf k, EntryHasType (entriesOf inner) member) (wellFormed : inner.WellFormed)
    (rest : Body) (old : k.Field) : decode (.variant inner rest) k old = .ok (taken inner k old) := by
  have basic : ∀ type : Basic, inner.sig = .basic type .nil →
      ∃ x, inner.getBasic type = some x ∧ getVariant type (.variant inner rest) = .ok x := by
    intro type typed
    obtain ⟨x, rfl, read⟩ := getVariant_typed typed rest
    exact ⟨x, Body.getBasic_basic .., read⟩
  have entries : inner.sig = .dictionary → ∃ l, inner = .dictionary l ∧ entriesOf inner = l := by
    intro typed
    exact ⟨entriesOf inner, dictionary_typed typed wellFormed, rfl⟩
  cases k with
  | name =>
    obtain ⟨s, there, read⟩ := basic .string typed
    simp only [decode, taken, read, there]
    rfl
  | type =>
    obtain ⟨s, there, read⟩ := basic .string typed
    simp only [decode, taken, read, there]
    rfl
  | security => exact getStrings_typed typed wellFormed rest
  | immutable =>
    obtain ⟨b, there, read⟩ := basic .boolean typed
    simp only [decode, taken, read, there]
    rfl
  | updatable p =>
    cases p with
    | state =>
      obtain ⟨s, there, read⟩ := basic .string typed
      simp only [decode, taken, read, there]
      rfl
    | error =>
      obtain ⟨s, there, read⟩ := basic .string typed
      simp only [decode, taken, read, there]
      rfl
    | strength =>
      obtain ⟨n, there, read⟩ := basic .byte typed
      simp only [decode, taken, read, there]
      rfl
    | favorite | autoconnect | roaming =>
      obtain ⟨b, there, read⟩ := basic .boolean typed
      simp only [decode, taken, read, there]
      rfl
    | ipv4 | ipv4Configuration =>
      obtain ⟨l, rfl, same⟩ := entries typed
      rw [same] at members
      exact (parseIpv4_typed members rest old).trans (congrArg _ (congrArg (ipv4Of · old) same.symm))
    | ipv6 | ipv6Configuration =>
      obtain ⟨l, rfl, same⟩ := entries typed
      rw [same] at members
      exact (parseIpv6_typed members rest old).trans (congrArg _ (congrArg (ipv6Of · old) same.symm))
    | proxy | proxyConfiguration =>
      obtain ⟨l, rfl, same⟩ := entries typed
      rw [same] at members
      exact (parseProxy_typed members wellFormed rest old).trans (congrArg _ (congrArg (proxyOf · old) same.symm))
    | provider =>
      obtain ⟨l, rfl, same⟩ := entries typed
      rw [same] at members
      exact (parseProvider_typed members rest old).trans (congrArg _ (congrArg (providerOf · old) same.symm))
    | ethernet =>
      obtain ⟨l, rfl, same⟩ := entries typed
      rw [same] at members
      exact (parseEthernet_typed members rest old).trans (congrArg _ (congrArg (ethernetOf · old) same.symm))
    | _ => exact getStrings_typed typed wellFormed rest

/-- No branch turns a value away: whatever it is, a record that held something
else no longer holds it. -/
theorem decode_moves (arg : Body) (k : Key) : ∃ old, ∀ value, decode arg k old = .ok value → value ≠ old := by
  -- where what was held does not matter, anything but the result will do
  have forgets : Nontrivial k.Field → (∀ old old', decode arg k old = decode arg k old') →
      ∃ old, ∀ value, decode arg k old = .ok value → value ≠ old := by
    intro _ same
    cases read : decode arg k k.zero with
    | error fault => exact ⟨k.zero, fun value ok => by rw [read] at ok; cases ok⟩
    | ok v =>
      obtain ⟨old, other⟩ := exists_ne v
      refine ⟨old, fun value ok => ?_⟩
      rw [same old k.zero, read] at ok
      cases ok
      exact other.symm
  -- a struct is made anew or given up, but never left
  have parses : ∀ {Struct : Type} (parse : Option Struct → Reads (Option Struct)) (zeroed : Struct),
      parse (some zeroed) = parse none → ∃ old, ∀ value, parse old = .ok value → value ≠ old := by
    intro Struct parse zeroed same
    cases read : parse none with
    | error fault => exact ⟨none, fun value ok => by rw [read] at ok; cases ok⟩
    | ok value =>
      cases value with
      | some s =>
        refine ⟨none, fun value ok => ?_⟩
        rw [read] at ok
        cases ok
        exact Option.some_ne_none s
      | none =>
        refine ⟨some zeroed, fun value ok => ?_⟩
        rw [same, read] at ok
        cases ok
        exact Option.some_ne_none zeroed |>.symm
  cases k with
  | updatable p =>
    cases p with
    | ipv4 | ipv4Configuration => exact parses (parseIpv4 arg) {} rfl
    | ipv6 | ipv6Configuration => exact parses (parseIpv6 arg) {} rfl
    | proxy | proxyConfiguration => exact parses (parseProxy arg) {} rfl
    | provider => exact parses (parseProvider arg) {} rfl
    | ethernet => exact parses (parseEthernet arg) {} rfl
    | state => exact forgets ⟨.unknown, .idle, by decide⟩ fun _ _ => rfl
    | strength => exact forgets ⟨0, 1, by decide⟩ fun _ _ => rfl
    | favorite | autoconnect | roaming => exact forgets inferInstance fun _ _ => rfl
    | _ => exact forgets (inferInstanceAs (Nontrivial (Option String))) fun _ _ => rfl
  | immutable => exact forgets inferInstance fun _ _ => rfl
  | _ => exact forgets (inferInstanceAs (Nontrivial (Option String))) fun _ _ => rfl

/-! ## Technologies -/

/-- The C type of the member a property is stored in. -/
abbrev TechnologyKey.Field : TechnologyKey → Type
  | .updatable .powered => Bool
  | .updatable .connected => Bool
  | .updatable .tethering => Bool
  | _ => Option String

def TechnologyKey.get (record : Technology.Record) : (k : TechnologyKey) → k.Field
  | .name => record.name
  | .type => record.type
  | .updatable .powered => record.powered
  | .updatable .connected => record.connected
  | .updatable .tethering => record.tethering
  | .updatable .tetheringIdentifier => record.tetheringIdentifier
  | .updatable .tetheringPassphrase => record.tetheringPassphrase

/-- The properties read straight into their member. -/
def TechnologyKey.InPlace : TechnologyKey → Prop
  | .updatable .powered => True
  | .updatable .connected => True
  | .updatable .tethering => True
  | _ => False

/-- The type `update_technology_property` expects of a property. -/
def technologyTypeOf : TechnologyKey → Sig
  | .updatable .powered => .boolean
  | .updatable .connected => .boolean
  | .updatable .tethering => .boolean
  | _ => .string

def ExpectedTechnology (k : TechnologyKey) (arg : Body) : Prop :=
  ∃ inner rest, arg = .variant inner rest ∧ inner.sig = technologyTypeOf k

/-- A boolean of the wrong type is left alone. -/
theorem cuiDbusGetBasicVariant_unexpected {arg : Body} {type : Basic} (wellFormed : arg.WellFormed)
    (unexpected : ¬∃ inner rest, arg = .variant inner rest ∧ inner.sig = .basic type .nil) :
    cuiDbusGetBasicVariant arg type = none := by
  cases arg with
  | variant inner rest =>
    cases read : inner.getBasic type with
    | none => exact read
    | some x =>
      obtain ⟨after, rfl⟩ := Body.getBasic_eq_some.mp read
      have ended := wellFormed.single
      exact absurd ⟨_, rest, rfl, Body.sig_eq_basic.mpr ⟨x, by rw [ended]⟩⟩ unexpected
  | _ => rfl

theorem decodeTechnology_expected {k : TechnologyKey} {inner : Body} (typed : inner.sig = technologyTypeOf k)
    (rest : Body) (record : Technology.Record) :
    ∃ record', decodeTechnology (.variant inner rest) record k = .ok record' := by
  have stringRead : inner.sig = .string → ∃ s, getVariant .string (.variant inner rest) = .ok s := by
    intro typed
    obtain ⟨s, -, read⟩ := getVariant_typed typed rest
    exact ⟨s, read⟩
  cases k with
  | updatable p =>
    cases p with
    | tetheringIdentifier | tetheringPassphrase =>
      obtain ⟨s, read⟩ := stringRead typed
      exact ⟨_, by rw [decodeTechnology, read]; rfl⟩
    | _ => exact ⟨_, rfl⟩
  | _ =>
    obtain ⟨s, read⟩ := stringRead typed
    exact ⟨_, by rw [decodeTechnology, read]; rfl⟩

/-- A string is never turned away. -/
theorem decodeTechnology_moves {arg : Body} {k : TechnologyKey} {record' : Technology.Record} (local' : ¬k.InPlace)
    (ok : decodeTechnology arg {} k = .ok record') : k.get record' ≠ k.get {} := by
  have stored : ∀ store : String → Technology.Record,
      (getVariant .string arg).map store = .ok record' → ∃ s, record' = store s := by
    intro store ok
    cases read : getVariant .string arg with
    | error fault => rw [read] at ok; cases ok
    | ok s =>
      rw [read] at ok
      cases ok
      exact ⟨s, rfl⟩
  cases k with
  | updatable p =>
    cases p with
    | tetheringIdentifier | tetheringPassphrase =>
      obtain ⟨s, rfl⟩ := stored _ ok
      exact Option.some_ne_none s
    | _ => exact absurd trivial local'
  | _ =>
    obtain ⟨s, rfl⟩ := stored _ ok
    exact Option.some_ne_none s

/-! ## Deliveries -/

/-- Where `update_service_property` and `update_technology_property` get what
they read: a PropertyChanged signal, or the iterator at the property dictionary
of an object that is listed or added. -/
inductive Delivery where
  | signal (body : Body)
  | dictionary (iter : Body)

namespace Delivery

def WellFormed : Delivery → Prop
  | signal body => body.WellFormed
  | dictionary iter => iter.WellFormed

/-- The arguments the update function is called with, one call after another. -/
def calls : Delivery → List Body
  | signal body => [body]
  | dictionary (.array elem items _) => if elem = .basic .byte .nil then [] else items.contents
  | dictionary _ => []

/-- `property_changed_signal_cb`, or `cui_dbus_foreach_dict_entry` with the
update function. -/
def deliver {σ : Type} (update : Body → σ → Reads σ) : Delivery → σ → Reads σ
  | signal body, obj => update body obj
  | dictionary iter, obj =>
    (cuiDbusForeachDictEntry iter (fun arg obj => (update arg obj).map (false, ·)) obj).map (·.2)

variable {σ : Type}

theorem foreachEntry_contents (update : Body → σ → Reads σ) (items : Body) (obj : σ) :
    foreachEntry (fun arg obj => (update arg obj).map (false, ·)) items.positions obj =
      (items.contents.foldlM (fun obj arg => update arg obj) obj).map (-22, ·) := by
  induction items generalizing obj with
  | dictEntry content rest _ ih =>
    simp only [Body.positions, Body.contents, foreachEntry, List.foldlM_cons]
    cases update content obj with
    | error fault => rfl
    | ok obj' => exact ih obj'
  | _ => rfl

/-- A delivery is its calls. -/
theorem deliver_calls (update : Body → σ → Reads σ) (delivery : Delivery) (obj : σ) :
    delivery.deliver update obj = delivery.calls.foldlM (fun obj arg => update arg obj) obj := by
  cases delivery with
  | signal body => exact (bind_pure (update body obj)).symm
  | dictionary iter =>
    cases iter with
    | array elem items rest =>
      by_cases bytes : elem = .basic .byte .nil
      · simp [deliver, calls, cuiDbusForeachDictEntry, bytes, Except.map, pure, Except.pure]
      · simp only [deliver, calls, cuiDbusForeachDictEntry, bytes, if_false, foreachEntry_contents]
        cases items.contents.foldlM (fun obj arg => update arg obj) obj <;> rfl
    | _ => rfl

theorem calls_wellFormed {delivery : Delivery} (wellFormed : delivery.WellFormed) :
    ∀ arg ∈ delivery.calls, arg.WellFormed := by
  cases delivery with
  | signal body =>
    intro arg called
    cases List.mem_singleton.mp called
    exact wellFormed
  | dictionary iter =>
    cases iter with
    | array elem items rest =>
      intro arg called
      by_cases bytes : elem = .basic .byte .nil
      · rw [calls, if_pos bytes] at called
        cases called
      · rw [calls, if_neg bytes] at called
        exact Body.WellFormed.contents wellFormed.2.1 arg called
    | _ =>
      intro arg called
      cases called

end Delivery

/-- A call does not go wrong, and a value that is not of the type expected leaves
what is stored alone. -/
def CleanService (arg : Body) (obj : Object Service.Property Record) : Prop :=
  ∃ obj', updateServiceProperty arg obj = .ok obj' ∧
    ∀ k, serviceProperty arg = some k → ¬Expected k arg.next → obj'.rest k = obj.rest k

def CleanTechnology (arg : Body) (obj : Object Technology.Property Technology.Record) : Prop :=
  ∃ obj', updateTechnologyProperty arg obj = .ok obj' ∧
    ∀ k, technologyProperty arg = some k → ¬ExpectedTechnology k arg.next → k.get obj'.rest = k.get obj.rest

/-- A property that is stored has a value of the type expected. -/
def TypedService (arg : Body) : Prop := ∀ k, serviceProperty arg = some k → Expected k arg.next

/-- Likewise, but for those read in place. -/
def TypedTechnology (arg : Body) : Prop :=
  ∀ k, technologyProperty arg = some k → k.InPlace ∨ ExpectedTechnology k arg.next

theorem clean_service_iff {arg : Body} (wellFormed : arg.WellFormed) :
    (∀ obj, CleanService arg obj) ↔ TypedService arg := by
  constructor
  · intro clean k named
    by_contra unexpected
    obtain ⟨old, moves⟩ := decode_moves arg.next k
    let obj : Object Service.Property Record :=
      { path := "", rest := Function.update default k old, updateIndex := none }
    have held : obj.rest k = old := Function.update_self ..
    obtain ⟨obj', ok, alone⟩ := clean obj
    have alone := alone k named unexpected
    simp only [updateServiceProperty, named, held] at ok alone
    cases read : decode arg.next k old with
    | error fault => rw [read] at ok; cases ok
    | ok value =>
      rw [read] at ok
      cases ok
      exact moves value read ((Function.update_self ..).symm.trans alone)
  · intro typed obj
    cases named : serviceProperty arg with
    | none => exact ⟨obj, by rw [updateServiceProperty, named], fun k named' => by cases named.symm.trans named'⟩
    | some k =>
      obtain ⟨inner, rest, there, type, members⟩ := typed k named
      have read := decode_expected type members (there ▸ wellFormed.next).2.2.1 rest (obj.rest k)
      refine ⟨storeService obj k (taken inner k (obj.rest k)), ?_, fun k' named' unexpected =>
        absurd (typed k' named') unexpected⟩
      simp only [updateServiceProperty, named, there, read]
      rfl

theorem clean_technology_iff {arg : Body} (wellFormed : arg.WellFormed) :
    (∀ obj, CleanTechnology arg obj) ↔ TypedTechnology arg := by
  constructor
  · intro clean k named
    by_contra neither
    obtain ⟨local', unexpected⟩ := not_or.mp neither
    obtain ⟨obj', ok, alone⟩ := clean { path := "", rest := {}, updateIndex := none }
    have alone := alone k named unexpected
    simp only [updateTechnologyProperty, named] at ok
    cases read : decodeTechnology arg.next {} k with
    | error fault => rw [read] at ok; cases ok
    | ok record =>
      rw [read] at ok
      cases ok
      exact decodeTechnology_moves local' read alone
  · intro typed obj
    cases named : technologyProperty arg with
    | none => exact ⟨obj, by rw [updateTechnologyProperty, named], fun k named' => by cases named.symm.trans named'⟩
    | some k =>
      by_cases expected : ExpectedTechnology k arg.next
      · obtain ⟨inner, rest, there, type⟩ := expected
        obtain ⟨record, read⟩ := decodeTechnology_expected type rest obj.rest
        refine ⟨storeTechnology obj k record, ?_, fun k' named' unexpected => ?_⟩
        · simp only [updateTechnologyProperty, named, there, read]
          rfl
        · cases named.symm.trans named'
          exact absurd ⟨inner, rest, there, type⟩ unexpected
      · have inPlace := (typed k named).resolve_right expected
        have alone : decodeTechnology arg.next obj.rest k = .ok obj.rest := by
          cases k with
          | updatable p =>
            cases p with
            | powered | connected | tethering =>
              rw [decodeTechnology, cuiDbusGetBasicVariant_unexpected wellFormed.next expected]
              rfl
            | _ => exact inPlace.elim
          | _ => exact inPlace.elim
        refine ⟨storeTechnology obj k obj.rest, ?_, fun k' named' _ => rfl⟩
        simp only [updateTechnologyProperty, named, alone]
        rfl

/-- A property is read well, on whatever record, exactly when its value has the
type expected; nothing else is turned away.  The booleans of a technology may
have any. -/
theorem reads_iff_typed (delivery : Delivery) (wellFormed : delivery.WellFormed) :
    ((∀ arg ∈ delivery.calls, ∀ obj, CleanService arg obj) ↔ ∀ arg ∈ delivery.calls, TypedService arg) ∧
    ((∀ arg ∈ delivery.calls, ∀ obj, CleanTechnology arg obj) ↔ ∀ arg ∈ delivery.calls, TypedTechnology arg) := by
  have sound := delivery.calls_wellFormed wellFormed
  constructor
  · exact forall₂_congr fun arg called => clean_service_iff (sound arg called)
  · exact forall₂_congr fun arg called => clean_technology_iff (sound arg called)

/-- A dictionary with a name, an address and a power state that is a number is
read well, by services and technologies alike. -/
theorem reads_iff_typed_named :
    let named : Delivery := .dictionary (.dictionary [("Name", .basic .string "home" .nil),
      ("IPv4", .dictionary [("Method", .basic .string "dhcp" .nil)]), ("Powered", .basic .int32 5 .nil)])
    ∀ arg ∈ named.calls, (∀ obj, CleanService arg obj) ∧ ∀ obj, CleanTechnology arg obj := by
  intro named
  have wellFormed : named.WellFormed := by
    refine Body.wellFormed_dictionary.mpr fun entry there => ?_
    rcases there with _ | ⟨_, _ | ⟨_, _ | ⟨_, ⟨⟩⟩⟩⟩
    · exact ⟨by decide, by decide, trivial⟩
    · refine ⟨by decide, by decide, Body.wellFormed_dictionary.mpr fun entry there => ?_⟩
      cases List.mem_singleton.mp there
      exact ⟨by decide, by decide, trivial⟩
    · exact ⟨by decide, by decide, trivial⟩
  have both := reads_iff_typed named wellFormed
  have service := both.1.mpr (by
    intro arg called k stored
    rcases called with _ | ⟨_, _ | ⟨_, _ | ⟨_, ⟨⟩⟩⟩⟩
    · cases stored
      exact ⟨_, _, rfl, rfl, by simp [membersOf]⟩
    · cases stored
      refine ⟨_, _, rfl, rfl, fun member there inner found => ?_⟩
      rcases there with _ | ⟨_, _ | ⟨_, _ | ⟨_, _ | ⟨_, ⟨⟩⟩⟩⟩⟩ <;> cases found
      rfl
    · cases stored)
  have technology := both.2.mpr (by
    intro arg called k stored
    rcases called with _ | ⟨_, _ | ⟨_, _ | ⟨_, ⟨⟩⟩⟩⟩
    · cases stored
      exact .inr ⟨_, _, rfl, rfl⟩
    · cases stored
    · cases stored
      exact .inl trivial)
  exact fun arg called => ⟨service arg called, technology arg called⟩

/-- A number for a name: a local is used that nothing has written.  Numbers for
strings: they are used as strings. -/
theorem not_always_read_well :
    let name : Body := .basic .string "Name" (.variant (.basic .int32 5 .nil) .nil)
    let nameservers : Body :=
      .basic .string "Nameservers" (.variant (.array (.basic .int32 .nil) (.basic .int32 5 .nil) .nil) .nil)
    (name.Message ∧ ¬∀ obj, CleanService name obj) ∧ (name.Message ∧ ¬∀ obj, CleanTechnology name obj) ∧
      (nameservers.Message ∧ ¬∀ obj, CleanService nameservers obj) := by
  refine ⟨⟨⟨⟨by decide, by decide, trivial, trivial⟩, by decide⟩, fun clean => ?_⟩,
    ⟨⟨⟨by decide, by decide, trivial, trivial⟩, by decide⟩, fun clean => ?_⟩,
    ⟨⟨⟨by decide, by decide, ⟨⟨rfl, trivial⟩, trivial, trivial⟩, trivial⟩, by decide⟩, fun clean => ?_⟩⟩
  · obtain ⟨obj', ok, -⟩ := clean { path := "", rest := default, updateIndex := none }
    cases ok
  · obtain ⟨obj', ok, -⟩ := clean { path := "", rest := default, updateIndex := none }
    cases ok
  · obtain ⟨obj', ok, -⟩ := clean { path := "", rest := default, updateIndex := none }
    cases ok

end ConnmanUi.Reading
