import ConnmanUi.CuiDbus
import ConnmanUi.ServiceRecord
import ConnmanUi.Technology

/-!
Reading properties from any message (`lib/service.c`, `lib/technology.c`).

`update_service_property` and `update_technology_property` are called with
whatever a message holds.  Here they run on the message itself, so that reading
the wrong thing shows.
-/

namespace ConnmanUi.Reading

open DBus
open Service (Key Record ConnmanIpv4 ConnmanIpv6 ConnmanProxy ConnmanProvider ConnmanEthernet)

/-! ## Locals -/

/-- A basic value is read through a local, which is used whatever
`cui_dbus_get_basic_variant` returned. -/
def getVariant (type : Basic) (arg : Body) : Reads type.Carrier := readLocal (cuiDbusGetBasicVariant arg type)

/-- An element of a string array is used as a string. -/
def cellString : Cell → Reads String
  | some ⟨.string, s⟩ => .ok s
  | some _ => .error .foreign
  | none => .error .unwritten

/-- `g_strjoinv(";", array)` unless the array is NULL. -/
def joinCells (cells : List Cell) : Reads (Option String) := (cells.mapM cellString).map joinv

/-- An array is read through a local, and joined. -/
def getStrings (arg : Body) : Reads (Option String) := do
  let got ← cuiDbusGetArray arg .string
  let array ← readLocal got.2
  joinCells array.2

/-- What a destination of a basic type holds afterwards. -/
def gotBasic (type : Basic) (destination : Option type.Carrier) : Option Got → Option type.Carrier
  | some (.basic b x) => if same : b = type then some (same ▸ x) else destination
  | _ => destination

/-- `cui_dbus_get_dict_entry_basic`, and the branch that uses the local when it
returns 0: what the member becomes, if it is assigned, and the local. -/
def readMember (type : Basic) (dict : Body) (key : String) (value : Option type.Carrier) :
    Reads (Option type.Carrier × Option type.Carrier) := do
  let got ← cuiDbusGetDictEntry dict key .basic type
  let value := gotBasic type value got.2
  if got.1 = 0 then (readLocal value).map fun x => (some x, value) else .ok (none, value)

/-- The same for an array of strings. -/
def readArrayMember (dict : Body) (key : String) : Reads (Option (Option String)) := do
  let got ← cuiDbusGetDictEntry dict key .array .string
  if got.1 = 0 then
    match got.2 with
    | some (.array _ cells) => (joinCells cells).map some
    | _ => .error .unwritten
  else .ok none

/-! ## Parsers -/

/-- `parse_ipv4`. -/
def parseIpv4 (arg : Body) (ipv4 : Option ConnmanIpv4) : Reads (Option ConnmanIpv4) := do
  let dict ← recurse arg
  let (method, value) ← readMember .string dict "Method" none
  let (address, value) ← readMember .string dict "Address" value
  let (netmask, value) ← readMember .string dict "Netmask" value
  let (gateway, _) ← readMember .string dict "Gateway" value
  let old := ipv4.getD {}
  if method.isSome || address.isSome || netmask.isSome || gateway.isSome then
    .ok (some { method := method.or old.method
                address := address.or old.address
                netmask := netmask.or old.netmask
                gateway := gateway.or old.gateway })
  else .ok none

/-- `parse_ipv6`. -/
def parseIpv6 (arg : Body) (ipv6 : Option ConnmanIpv6) : Reads (Option ConnmanIpv6) := do
  let dict ← recurse arg
  let (method, value) ← readMember .string dict "Method" none
  let (address, value) ← readMember .string dict "Address" value
  let (prefixLength, _) ← readMember .uint16 dict "Prefix" none
  let (gateway, value) ← readMember .string dict "Gateway" value
  let (privacy, _) ← readMember .string dict "Privacy" value
  let old := ipv6.getD {}
  if method.isSome || address.isSome || prefixLength.isSome || gateway.isSome || privacy.isSome then
    .ok (some { method := method.or old.method
                address := address.or old.address
                prefixLength := (prefixLength.map UInt16.toUInt8).getD old.prefixLength
                gateway := gateway.or old.gateway
                privacy := privacy.or old.privacy })
  else .ok none

/-- `parse_proxy`. -/
def parseProxy (arg : Body) (proxy : Option ConnmanProxy) : Reads (Option ConnmanProxy) := do
  let dict ← recurse arg
  let (method, value) ← readMember .string dict "Method" none
  let (url, _) ← readMember .string dict "URL" value
  let servers ← readArrayMember dict "Servers"
  let excludes ← readArrayMember dict "Excludes"
  let old := proxy.getD {}
  if method.isSome || url.isSome || servers.isSome || excludes.isSome then
    .ok (some { method := method.or old.method
                url := url.or old.url
                servers := servers.getD old.servers
                excludes := excludes.getD old.excludes })
  else .ok none

/-- `parse_provider`. -/
def parseProvider (arg : Body) (provider : Option ConnmanProvider) : Reads (Option ConnmanProvider) := do
  let dict ← recurse arg
  let (host, value) ← readMember .string dict "Host" none
  let (domain, value) ← readMember .string dict "Domain" value
  let (name, value) ← readMember .string dict "Name" value
  let (type, _) ← readMember .string dict "Type" value
  let old := provider.getD {}
  if host.isSome || domain.isSome || name.isSome || type.isSome then
    .ok (some { host := host.or old.host
                domain := domain.or old.domain
                name := name.or old.name
                type := type.or old.type })
  else .ok none

/-- `parse_ethernet`. -/
def parseEthernet (arg : Body) (ethernet : Option ConnmanEthernet) : Reads (Option ConnmanEthernet) := do
  let dict ← recurse arg
  let (method, value) ← readMember .string dict "Method" none
  let (interface, value) ← readMember .string dict "Interface" value
  let (address, value) ← readMember .string dict "Address" value
  let (mtu, uint16Value) ← readMember .uint16 dict "MTU" none
  let (speed, _) ← readMember .uint16 dict "Speed" uint16Value
  let (duplex, _) ← readMember .string dict "Duplex" value
  let old := ethernet.getD {}
  .ok (some { method := method.or old.method
              interface := interface.or old.interface
              address := address.or old.address
              mtu := mtu.getD old.mtu
              speed := speed.getD old.speed
              duplex := duplex.or old.duplex })

/-! ## Updates -/

/-- What a branch of `update_service_property` stores; `old` is what the member
holds. -/
def decode (arg : Body) : (k : Key) → k.Field → Reads k.Field
  | .name, _ => (getVariant .string arg).map some
  | .type, _ => (getVariant .string arg).map some
  | .security, _ => getStrings arg
  | .immutable, _ => getVariant .boolean arg
  | .updatable .state, _ => (getVariant .string arg).map fun value => string2enumState (some value)
  | .updatable .error, _ => (getVariant .string arg).map some
  | .updatable .strength, _ => getVariant .byte arg
  | .updatable .favorite, _ => getVariant .boolean arg
  | .updatable .autoconnect, _ => getVariant .boolean arg
  | .updatable .roaming, _ => getVariant .boolean arg
  | .updatable .nameservers, _ => getStrings arg
  | .updatable .nameserversConfiguration, _ => getStrings arg
  | .updatable .timeservers, _ => getStrings arg
  | .updatable .timeserversConfiguration, _ => getStrings arg
  | .updatable .domains, _ => getStrings arg
  | .updatable .domainsConfiguration, _ => getStrings arg
  | .updatable .ipv4, old => parseIpv4 arg old
  | .updatable .ipv4Configuration, old => parseIpv4 arg old
  | .updatable .ipv6, old => parseIpv6 arg old
  | .updatable .ipv6Configuration, old => parseIpv6 arg old
  | .updatable .proxy, old => parseProxy arg old
  | .updatable .proxyConfiguration, old => parseProxy arg old
  | .updatable .provider, old => parseProvider arg old
  | .updatable .ethernet, old => parseEthernet arg old

/-- The property a call is about, if it is one that is stored. -/
def serviceProperty (arg : Body) : Option Key := (cuiDbusGetBasic arg .string).bind Key.ofName

/-- A value is stored, and the property is the one last stored. -/
def storeService (obj : Object Service.Property Record) (k : Key) (value : k.Field) : Object Service.Property Record :=
  { obj with
    rest := Function.update obj.rest k value
    updateIndex := match k with | .updatable p => some p | _ => obj.updateIndex }

/-- `update_service_property`. -/
def updateServiceProperty (arg : Body) (obj : Object Service.Property Record) :
    Reads (Object Service.Property Record) :=
  match serviceProperty arg with
  | none => .ok obj
  | some k => (decode arg.next k (obj.rest k)).map (storeService obj k)

/-- The properties a technology stores. -/
inductive TechnologyKey where
  | name
  | type
  | updatable (p : Technology.Property)
  deriving DecidableEq

def TechnologyKey.ofName : String → Option TechnologyKey
  | "Name" => some .name
  | "Type" => some .type
  | property => (Technology.Property.ofName property).map .updatable

/-- What a branch of `update_technology_property` makes of the record. -/
def decodeTechnology (arg : Body) (record : Technology.Record) : TechnologyKey → Reads Technology.Record
  | .name => (getVariant .string arg).map fun value => { record with name := some value }
  | .type => (getVariant .string arg).map fun value => { record with type := some value }
  | .updatable .powered => .ok { record with powered := (cuiDbusGetBasicVariant arg .boolean).getD record.powered }
  | .updatable .connected =>
    .ok { record with connected := (cuiDbusGetBasicVariant arg .boolean).getD record.connected }
  | .updatable .tethering =>
    .ok { record with tethering := (cuiDbusGetBasicVariant arg .boolean).getD record.tethering }
  | .updatable .tetheringIdentifier =>
    (getVariant .string arg).map fun value => { record with tetheringIdentifier := some value }
  | .updatable .tetheringPassphrase =>
    (getVariant .string arg).map fun value => { record with tetheringPassphrase := some value }

def technologyProperty (arg : Body) : Option TechnologyKey := (cuiDbusGetBasic arg .string).bind TechnologyKey.ofName

def storeTechnology (obj : Object Technology.Property Technology.Record) (k : TechnologyKey)
    (record : Technology.Record) : Object Technology.Property Technology.Record :=
  { obj with
    rest := record
    updateIndex := match k with | .updatable p => some p | _ => obj.updateIndex }

/-- `update_technology_property`, up to `property_update`. -/
def updateTechnologyProperty (arg : Body) (obj : Object Technology.Property Technology.Record) :
    Reads (Object Technology.Property Technology.Record) :=
  match technologyProperty arg with
  | none => .ok obj
  | some k => (decodeTechnology arg.next obj.rest k).map (storeTechnology obj k)

end ConnmanUi.Reading
