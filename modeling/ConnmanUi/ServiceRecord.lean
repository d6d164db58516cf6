import Mathlib.Logic.Function.Basic
import ConnmanUi.Manager
import ConnmanUi.Registry

/-!
What the client keeps of a service (`lib/service.c`).

A service is known by the properties ConnMan sends: each is decoded from a
message into a field of `struct connman_service`.  The decoders read into
locals that are not initialised; where a value has the wrong type the local
keeps what it held, so `Uninit` says what that was.
-/

namespace ConnmanUi.Service

/-- `enum connman_service_property`. -/
inductive Property where
  | state
  | error
  | strength
  | favorite
  | autoconnect
  | roaming
  | nameservers
  | nameserversConfiguration
  | timeservers
  | timeserversConfiguration
  | domains
  | domainsConfiguration
  | ipv4
  | ipv4Configuration
  | ipv6
  | ipv6Configuration
  | proxy
  | proxyConfiguration
  | provider
  | ethernet
  deriving DecidableEq

instance : PropertyIndex Property where
  zero := .state
  all := [.state, .error, .strength, .favorite, .autoconnect, .roaming, .nameservers,
    .nameserversConfiguration, .timeservers, .timeserversConfiguration, .domains,
    .domainsConfiguration, .ipv4, .ipv4Configuration, .ipv6, .ipv6Configuration, .proxy,
    .proxyConfiguration, .provider, .ethernet]
  mem_all i := by cases i <;> decide
  nodup_all := by decide

structure ConnmanIpv4 where
  method : Option String := none
  address : Option String := none
  netmask : Option String := none
  gateway : Option String := none
  deriving DecidableEq

structure ConnmanIpv6 where
  method : Option String := none
  address : Option String := none
  prefixLength : UInt8 := 0
  gateway : Option String := none
  privacy : Option String := none
  deriving DecidableEq

structure ConnmanProxy where
  method : Option String := none
  url : Option String := none
  servers : Option String := none
  excludes : Option String := none
  deriving DecidableEq

structure ConnmanProvider where
  host : Option String := none
  domain : Option String := none
  name : Option String := none
  type : Option String := none
  deriving DecidableEq

structure ConnmanEthernet where
  method : Option String := none
  interface : Option String := none
  address : Option String := none
  mtu : UInt16 := 0
  speed : UInt16 := 0
  duplex : Option String := none
  deriving DecidableEq

/-! ## Decoding -/

/-- What the locals of the decoders hold before they are written. -/
structure Uninit where
  string : Option String
  boolean : Bool
  byte : UInt8
  uint16 : UInt16

section Parse
variable (uninit : Uninit) (arg : Value)

/-- `parse_ipv4`; the members of a struct that is there already stay where the
dictionary has no entry for them. -/
def parseIpv4 (ipv4 : Option ConnmanIpv4) : Option ConnmanIpv4 :=
  let dict := arg.entries
  let old := ipv4.getD {}
  let method := getDictString dict "Method" uninit.string
  let address := getDictString dict "Address" method.2
  let netmask := getDictString dict "Netmask" address.2
  let gateway := getDictString dict "Gateway" netmask.2
  if method.1 || address.1 || netmask.1 || gateway.1 then
    some { method := if method.1 then method.2 else old.method
           address := if address.1 then address.2 else old.address
           netmask := if netmask.1 then netmask.2 else old.netmask
           gateway := if gateway.1 then gateway.2 else old.gateway }
  else none

/-- `parse_ipv6`, which reads the prefix into 16 bits and keeps 8. -/
def parseIpv6 (ipv6 : Option ConnmanIpv6) : Option ConnmanIpv6 :=
  let dict := arg.entries
  let old := ipv6.getD {}
  let method := getDictString dict "Method" uninit.string
  let address := getDictString dict "Address" method.2
  let prefixLength := getDictUint16 dict "Prefix" uninit.uint16
  let gateway := getDictString dict "Gateway" address.2
  let privacy := getDictString dict "Privacy" gateway.2
  if method.1 || address.1 || prefixLength.1 || gateway.1 || privacy.1 then
    some { method := if method.1 then method.2 else old.method
           address := if address.1 then address.2 else old.address
           prefixLength := if prefixLength.1 then prefixLength.2.toUInt8 else old.prefixLength
           gateway := if gateway.1 then gateway.2 else old.gateway
           privacy := if privacy.1 then privacy.2 else old.privacy }
  else none

/-- `parse_proxy`. -/
def parseProxy (proxy : Option ConnmanProxy) : Option ConnmanProxy :=
  let dict := arg.entries
  let old := proxy.getD {}
  let method := getDictString dict "Method" uninit.string
  let url := getDictString dict "URL" method.2
  let servers := getDictArray dict "Servers"
  let excludes := getDictArray dict "Excludes"
  if method.1 || url.1 || servers.isSome || excludes.isSome then
    some { method := if method.1 then method.2 else old.method
           url := if url.1 then url.2 else old.url
           servers := match servers with | some l => joinv l | none => old.servers
           excludes := match excludes with | some l => joinv l | none => old.excludes }
  else none

/-- `parse_provider`. -/
def parseProvider (provider : Option ConnmanProvider) : Option ConnmanProvider :=
  let dict := arg.entries
  let old := provider.getD {}
  let host := getDictString dict "Host" uninit.string
  let domain := getDictString dict "Domain" host.2
  let name := getDictString dict "Name" domain.2
  let type := getDictString dict "Type" name.2
  if host.1 || domain.1 || name.1 || type.1 then
    some { host := if host.1 then host.2 else old.host
           domain := if domain.1 then domain.2 else old.domain
           name := if name.1 then name.2 else old.name
           type := if type.1 then type.2 else old.type }
  else none

/-- `parse_ethernet`, which returns the struct whether or not it found
anything. -/
def parseEthernet (ethernet : Option ConnmanEthernet) : Option ConnmanEthernet :=
  let dict := arg.entries
  let old := ethernet.getD {}
  let method := getDictString dict "Method" uninit.string
  let interface := getDictString dict "Interface" method.2
  let address := getDictString dict "Address" interface.2
  let mtu := getDictUint16 dict "MTU" uninit.uint16
  let speed := getDictUint16 dict "Speed" mtu.2
  let duplex := getDictString dict "Duplex" address.2
  some { method := if method.1 then method.2 else old.method
         interface := if interface.1 then interface.2 else old.interface
         address := if address.1 then address.2 else old.address
         mtu := if mtu.1 then mtu.2 else old.mtu
         speed := if speed.1 then speed.2 else old.speed
         duplex := if duplex.1 then duplex.2 else old.duplex }

end Parse

/-- The properties the client stores: those of `Service_updatable_properties`
and four more. -/
inductive Key where
  | name
  | type
  | security
  | immutable
  | updatable (p : Property)
  deriving DecidableEq

/-- The name a property has on the bus. -/
def Key.ofName : String → Option Key
  | "Name" => some .name
  | "Type" => some .type
  | "Security" => some .security
  | "Immutable" => some .immutable
  | "State" => some (.updatable .state)
  | "Error" => some (.updatable .error)
  | "Strength" => some (.updatable .strength)
  | "Favorite" => some (.updatable .favorite)
  | "AutoConnect" => some (.updatable .autoconnect)
  | "Roaming" => some (.updatable .roaming)
  | "Nameservers" => some (.updatable .nameservers)
  | "Nameservers.Configuration" => some (.updatable .nameserversConfiguration)
  | "Domains" => some (.updatable .domains)
  | "Domains.Configuration" => some (.updatable .domainsConfiguration)
  | "Timeservers" => some (.updatable .timeservers)
  | "Timeservers.Configuration" => some (.updatable .timeserversConfiguration)
  | "IPv4" => some (.updatable .ipv4)
  | "IPv4.Configuration" => some (.updatable .ipv4Configuration)
  | "IPv6" => some (.updatable .ipv6)
  | "IPv6.Configuration" => some (.updatable .ipv6Configuration)
  | "Proxy" => some (.updatable .proxy)
  | "Proxy.Configuration" => some (.updatable .proxyConfiguration)
  | "Provider" => some (.updatable .provider)
  | "Ethernet" => some (.updatable .ethernet)
  | _ => none

/-- The C type of the member a property is stored in. -/
abbrev Key.Field : Key → Type
  | .immutable => Bool
  | .updatable .state => ConnmanState
  | .updatable .strength => UInt8
  | .updatable .favorite => Bool
  | .updatable .autoconnect => Bool
  | .updatable .roaming => Bool
  | .updatable .ipv4 => Option ConnmanIpv4
  | .updatable .ipv4Configuration => Option ConnmanIpv4
  | .updatable .ipv6 => Option ConnmanIpv6
  | .updatable .ipv6Configuration => Option ConnmanIpv6
  | .updatable .proxy => Option ConnmanProxy
  | .updatable .proxyConfiguration => Option ConnmanProxy
  | .updatable .provider => Option ConnmanProvider
  | .updatable .ethernet => Option ConnmanEthernet
  | _ => Option String

/-- The members of `struct connman_service` that hold properties. -/
abbrev Record := (k : Key) → k.Field

/-- What `g_try_malloc0` leaves in a member. -/
def Key.zero : (k : Key) → k.Field
  | .name => none
  | .type => none
  | .security => none
  | .immutable => false
  | .updatable .state => .unknown
  | .updatable .error => none
  | .updatable .strength => 0
  | .updatable .favorite => false
  | .updatable .autoconnect => false
  | .updatable .roaming => false
  | .updatable .nameservers => none
  | .updatable .nameserversConfiguration => none
  | .updatable .timeservers => none
  | .updatable .timeserversConfiguration => none
  | .updatable .domains => none
  | .updatable .domainsConfiguration => none
  | .updatable .ipv4 => none
  | .updatable .ipv4Configuration => none
  | .updatable .ipv6 => none
  | .updatable .ipv6Configuration => none
  | .updatable .proxy => none
  | .updatable .proxyConfiguration => none
  | .updatable .provider => none
  | .updatable .ethernet => none

instance : Inhabited Record := ⟨Key.zero⟩

/-- The value a branch of `update_service_property` stores; `old` is what the
member holds. -/
def decode (uninit : Uninit) (arg : Value) : (k : Key) → k.Field → k.Field
  | .name, _ => arg.getString uninit.string
  | .type, _ => arg.getString uninit.string
  | .security, _ => joinv arg.getArray
  | .immutable, _ => arg.getBoolean uninit.boolean
  | .updatable .state, _ => string2enumState (arg.getString uninit.string)
  | .updatable .error, _ => arg.getString uninit.string
  | .updatable .strength, _ => arg.getByte uninit.byte
  | .updatable .favorite, _ => arg.getBoolean uninit.boolean
  | .updatable .autoconnect, _ => arg.getBoolean uninit.boolean
  | .updatable .roaming, _ => arg.getBoolean uninit.boolean
  | .updatable .nameservers, _ => joinv arg.getArray
  | .updatable .nameserversConfiguration, _ => joinv arg.getArray
  | .updatable .timeservers, _ => joinv arg.getArray
  | .updatable .timeserversConfiguration, _ => joinv arg.getArray
  | .updatable .domains, _ => joinv arg.getArray
  | .updatable .domainsConfiguration, _ => joinv arg.getArray
  | .updatable .ipv4, old => parseIpv4 uninit arg old
  | .updatable .ipv4Configuration, old => parseIpv4 uninit arg old
  | .updatable .ipv6, old => parseIpv6 uninit arg old
  | .updatable .ipv6Configuration, old => parseIpv6 uninit arg old
  | .updatable .proxy, old => parseProxy uninit arg old
  | .updatable .proxyConfiguration, old => parseProxy uninit arg old
  | .updatable .provider, old => parseProvider uninit arg old
  | .updatable .ethernet, old => parseEthernet uninit arg old

/-- `update_service_property` on an object's data and its `update_index`. -/
def updateServiceProperty (uninit : Uninit) (obj : Object Property Record) (name : String)
    (arg : Value) : Object Property Record :=
  match Key.ofName name with
  | none => obj
  | some k =>
    { obj with
      rest := Function.update obj.rest k (decode uninit arg k (obj.rest k))
      updateIndex := match k with | .updatable p => some p | _ => obj.updateIndex }

end ConnmanUi.Service
