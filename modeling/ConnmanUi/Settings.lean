import ConnmanUi.Service

/-!
The settings dialog (`src/settings.c`, the helpers of `src/utils.c` it calls and
the widgets of `data/ui/settings.ui`).

The values of the service come from the service module: an event carries the
members its getters read.  Of the widgets, those are kept that the code reads
back or that decide what the user can do; labels, images and the entries that
only show the values in force are not.  GTK emits `toggled` when a button's
state changes, and of two buttons of a radio group first on the one that
becomes inactive; an opening finds every widget as `settings.ui` has it, with
the first button of each radio group active.
-/

namespace ConnmanUi.Settings

open Service (Record ConnmanIpv4 ConnmanIpv6 ConnmanProxy Setting)

/-! ## Widgets -/

/-- The sections of the dialog that have a changed flag. -/
inductive Section where
  | ipv4
  | ipv6
  | proxy
  | nameservers
  | domains
  | timeservers
  deriving DecidableEq

/-- The radio groups, each with the variable its callbacks write. -/
inductive Group where
  | ipv4Method
  | ipv6Method
  | ipv6Privacy
  | proxyMethod
  deriving DecidableEq

inductive Radio : Group → Type where
  | ipv4Dhcp : Radio .ipv4Method
  | ipv4Manual : Radio .ipv4Method
  | ipv4Off : Radio .ipv4Method
  | ipv6Auto : Radio .ipv6Method
  | ipv6Manual : Radio .ipv6Method
  | ipv6Off : Radio .ipv6Method
  | ipv6PrivPrefered : Radio .ipv6Privacy
  | ipv6PrivEnabled : Radio .ipv6Privacy
  | ipv6PrivDisabled : Radio .ipv6Privacy
  | proxyAuto : Radio .proxyMethod
  | proxyDirect : Radio .proxyMethod
  | proxyManual : Radio .proxyMethod
  deriving DecidableEq

/-- The button of a group that is active in a fresh dialog. -/
def Radio.first : (g : Group) → Radio g
  | .ipv4Method => .ipv4Dhcp
  | .ipv6Method => .ipv6Auto
  | .ipv6Privacy => .ipv6PrivPrefered
  | .proxyMethod => .proxyAuto

/-- The entries the user types in. -/
inductive Entry where
  | ipv4ConfAddress
  | ipv4ConfNetmask
  | ipv4ConfGateway
  | ipv6ConfAddress
  | ipv6ConfPrefixLength
  | ipv6ConfGateway
  | nameserversConf
  | domainsConf
  | proxyConfUrl
  | proxyConfServers
  | proxyConfExcludes
  | timeserversConf
  deriving DecidableEq

/-- The id of an entry in `settings.ui`. -/
def Entry.id : Entry → String
  | .ipv4ConfAddress => "ipv4_conf_address"
  | .ipv4ConfNetmask => "ipv4_conf_netmask"
  | .ipv4ConfGateway => "ipv4_conf_gateway"
  | .ipv6ConfAddress => "ipv6_conf_address"
  | .ipv6ConfPrefixLength => "ipv6_conf_prefix_length"
  | .ipv6ConfGateway => "ipv6_conf_gateway"
  | .nameserversConf => "nameservers_conf"
  | .domainsConf => "domains_conf"
  | .proxyConfUrl => "proxy_conf_url"
  | .proxyConfServers => "proxy_conf_servers"
  | .proxyConfExcludes => "proxy_conf_excludes"
  | .timeserversConf => "timeservers_conf"

/-- `gtk_builder_get_object`, for an entry. -/
def Entry.named (name : String) : Option Entry :=
  [ipv4ConfAddress, ipv4ConfNetmask, ipv4ConfGateway, ipv6ConfAddress, ipv6ConfPrefixLength,
    ipv6ConfGateway, nameserversConf, domainsConf, proxyConfUrl, proxyConfServers,
    proxyConfExcludes, timeserversConf].find? fun entry => entry.id = name

/-- The two buttons of the header. -/
inductive Button where
  | serviceAutoconnect
  | serviceFavorite
  deriving DecidableEq

/-- The widgets whose sensitivity the code sets. -/
inductive Widget where
  | ipv4Settings
  | ipv6Settings
  | ipv6PrivBox
  | proxySettings
  | entry (entry : Entry)
  | button (button : Button)
  deriving DecidableEq

/-! ## State -/

/-- The functions the dialog gives `connman_service_set_property_changed_callback`. -/
inductive ChangedCb where
  | servicePropertyChangedCb
  | servicePropertySetCb
  deriving DecidableEq

structure State where
  /-- `ipv4_changed` and the five like it. -/
  changed : Section → Bool := fun _ => false
  /-- `ipv4_method`, `ipv6_method`, `ipv6_privacy` and `proxy_method`. -/
  method : Group → Option String := fun _ => none
  path : Option String := none
  /-- `service_settings_dbox` is there. -/
  shown : Bool := false
  /-- `get_service` finds the service of `path`: the selection keeps it. -/
  known : Bool := false
  /-- The callback the service has. -/
  changedCb : Option ChangedCb := none
  /-- The service has `service_property_error_cb`. -/
  errorCb : Bool := false
  active : (g : Group) → Radio g := Radio.first
  text : Entry → String := fun _ => ""
  sensitive : Widget → Bool := fun _ => true
  pressed : Button → Bool := fun _ => false
  /-- How many handlers a button of the header has for `toggled`. -/
  handlers : Button → Nat := fun _ => 0

deriving instance DecidableEq for Setting

/-- A call of a `connman_service_set_*` function or of `connman_service_remove`. -/
inductive Request where
  | set (path : Option String) (setting : Setting)
  | remove (path : Option String)
  deriving DecidableEq

/-! ## `utils.c` -/

section Utils

variable (name : String) (s : State)

/-- `set_widget_sensitive`. -/
def setWidgetSensitive (widget : Widget) (value : Bool) : State :=
  { s with sensitive := Function.update s.sensitive widget value }

/-- `set_entry`, with the empty string for NULL. -/
def setEntry (value : Option String) : State :=
  match Entry.named name with
  | none => s
  | some entry => { s with text := Function.update s.text entry (value.getD "") }

/-- `get_entry_text`. -/
def getEntryText : Option String := (Entry.named name).map s.text

end Utils

/-! ## Callbacks of the radio groups and entries -/

section Toggled

variable {g : Group} (s : State)

/-- A string for the group's variable, and the flag of a section. -/
def store (g : Group) (method : String) (changed : Section) : State :=
  { s with
    method := Function.update s.method g (some method)
    changed := Function.update s.changed changed true }

/-- `enable_ipv4_config`. -/
def enableIpv4Config (enable : Bool) : State :=
  let s := setWidgetSensitive s (.entry .ipv4ConfAddress) enable
  let s := setWidgetSensitive s (.entry .ipv4ConfNetmask) enable
  setWidgetSensitive s (.entry .ipv4ConfGateway) enable

/-- `enable_ipv6_config`. -/
def enableIpv6Config (enable : Bool) : State :=
  let s := setWidgetSensitive s (.entry .ipv6ConfAddress) enable
  let s := setWidgetSensitive s (.entry .ipv6ConfPrefixLength) enable
  setWidgetSensitive s (.entry .ipv6ConfGateway) enable

/-- `enable_proxy_config`. -/
def enableProxyConfig (enable : Bool) : State :=
  let s := setWidgetSensitive s (.entry .proxyConfUrl) enable
  let s := setWidgetSensitive s (.entry .proxyConfServers) enable
  setWidgetSensitive s (.entry .proxyConfExcludes) enable

/-- `toggled_ipv4_method_cb`; `active` is what the button says of itself. -/
def toggledIpv4MethodCb (name : Radio .ipv4Method) (active : Bool) : State :=
  if active then
    match name with
    | .ipv4Manual => store (enableIpv4Config s true) .ipv4Method "manual" .ipv4
    | .ipv4Dhcp => store (enableIpv4Config s false) .ipv4Method "dhcp" .ipv4
    | .ipv4Off => store (enableIpv4Config s false) .ipv4Method "off" .ipv4
  else s

/-- `toggled_ipv6_method_cb`. -/
def toggledIpv6MethodCb (name : Radio .ipv6Method) (active : Bool) : State :=
  if active then
    match name with
    | .ipv6Manual =>
      store (setWidgetSensitive (enableIpv6Config s true) .ipv6PrivBox false) .ipv6Method "manual" .ipv6
    | .ipv6Auto =>
      store (setWidgetSensitive (enableIpv6Config s false) .ipv6PrivBox true) .ipv6Method "auto" .ipv6
    | .ipv6Off =>
      store (setWidgetSensitive (enableIpv6Config s false) .ipv6PrivBox false) .ipv6Method "off" .ipv6
  else s

/-- `toggled_ipv6_privacy_cb`, which does not ask the button. -/
def toggledIpv6PrivacyCb (name : Radio .ipv6Privacy) : State :=
  match name with
  | .ipv6PrivEnabled => store s .ipv6Privacy "enabled" .ipv6
  | .ipv6PrivDisabled => store s .ipv6Privacy "disabled" .ipv6
  | .ipv6PrivPrefered => store s .ipv6Privacy "prefered" .ipv6

/-- `toggled_proxy_method_cb`. -/
def toggledProxyMethodCb (name : Radio .proxyMethod) (active : Bool) : State :=
  if active then
    match name with
    | .proxyManual => store (enableProxyConfig s true) .proxyMethod "manual" .proxy
    | .proxyDirect => store (enableProxyConfig s false) .proxyMethod "direct" .proxy
    | .proxyAuto => store (enableProxyConfig s false) .proxyMethod "auto" .proxy
  else s

/-- The handler `settings_connect_signals` gives a radio button. -/
def toggledCb : {g : Group} → Radio g → Bool → State
  | .ipv4Method, name, active => toggledIpv4MethodCb s name active
  | .ipv6Method, name, active => toggledIpv6MethodCb s name active
  | .ipv6Privacy, name, _ => toggledIpv6PrivacyCb s name
  | .proxyMethod, name, active => toggledProxyMethodCb s name active

/-- `toggle_button`. -/
def toggleButton (button : Radio g) : State :=
  if s.active g = button then s
  else
    let old := s.active g
    let s := { s with active := Function.update s.active g button }
    toggledCb (toggledCb s old false) button true

/-- The entries `settings_connect_signals` connects `key_released_entry_cb` to,
each with the flag it is given. -/
def entrySignals : List (String × Section) :=
  [("ipv4_conf_address", .ipv4), ("ipv4_conf_netmask", .ipv4), ("ipv4_conf_gateway", .ipv4),
    ("ipv6_conf_address", .ipv6), ("ipv6_conf_prefix_length", .ipv6), ("ipv6_conf_gateway", .ipv6),
    ("nameservers_conf", .nameservers), ("domains_conf", .domains), ("timerservers_conf", .timeservers),
    ("proxy_conf_url", .proxy), ("proxy_conf_servers", .proxy), ("proxy_conf_excludes", .proxy)]

/-- A key typed in an entry: its text, and `key_released_entry_cb` if the entry
has it. -/
def keyReleased (entry : Entry) (text : String) : State :=
  let s := { s with text := Function.update s.text entry text }
  match entrySignals.lookup entry.id with
  | none => s
  | some changed => { s with changed := Function.update s.changed changed true }

end Toggled

/-! ## The header -/

section Header

variable (s : State)

/-- `autoconnect_button_toggled`. -/
def autoconnectButtonToggled : List Request :=
  [.set s.path (.autoconnectable (s.pressed .serviceAutoconnect))]

/-- `favorite_button_toggled`. -/
def favoriteButtonToggled : List Request :=
  if s.pressed .serviceFavorite then [] else [.remove s.path]

/-- The handler of a button of the header. -/
def Button.toggled : Button → List Request
  | .serviceAutoconnect => autoconnectButtonToggled s
  | .serviceFavorite => favoriteButtonToggled s

/-- `set_button_toggle`: every handler connected so far runs. -/
def setButtonToggle (button : Button) (active : Bool) : State × List Request :=
  if s.pressed button = active then (s, [])
  else
    let s := { s with pressed := Function.update s.pressed button active }
    (s, (List.replicate (s.handlers button) (button.toggled s)).flatten)

/-- `g_signal_connect` on a button of the header. -/
def connect (button : Button) : State :=
  { s with handlers := Function.update s.handlers button (s.handlers button + 1) }

/-- A half of `update_header`: a button is set and gets its sensitivity, and one
more handler if the service is a favorite. -/
def updateButton (button : Button) (active favorite : Bool) : State × List Request :=
  let set := setButtonToggle s button active
  let s := setWidgetSensitive set.1 (.button button) favorite
  (if favorite then connect s button else s, set.2)

/-- `update_header`. -/
def updateHeader (service : Record) : State × List Request :=
  let favorite := service (.updatable .favorite)
  let autoconnect := updateButton s .serviceAutoconnect (service (.updatable .autoconnect)) favorite
  let favorite := updateButton autoconnect.1 .serviceFavorite favorite favorite
  (favorite.1, autoconnect.2 ++ favorite.2)

end Header

/-! ## The sections -/

section Update

variable (s : State) (service : Record)

/-- `set_ipv4_method`. -/
def setIpv4Method (method : Option String) : State :=
  if method = some "dhcp" then enableIpv4Config (toggleButton s .ipv4Dhcp) false
  else if method = some "manual" then enableIpv4Config (toggleButton s .ipv4Manual) true
  else enableIpv4Config (toggleButton s .ipv4Off) false

/-- `set_ipv6_method`. -/
def setIpv6Method (method : Option String) : State :=
  if method = some "auto" then
    setWidgetSensitive (enableIpv6Config (toggleButton s .ipv6Auto) false) .ipv6PrivBox true
  else if method = some "manual" then
    setWidgetSensitive (enableIpv6Config (toggleButton s .ipv6Manual) true) .ipv6PrivBox false
  else
    setWidgetSensitive (enableIpv6Config (toggleButton s .ipv6Off) false) .ipv6PrivBox false

/-- `set_ipv6_privacy`. -/
def setIpv6Privacy (privacy : Option String) : State :=
  if privacy = some "enabled" then toggleButton s .ipv6PrivEnabled
  else if privacy = some "prefered" then toggleButton s .ipv6PrivPrefered
  else toggleButton s .ipv6PrivDisabled

/-- `set_proxy_method`. -/
def setProxyMethod (method : Option String) : State :=
  if method = some "auto" then enableProxyConfig (toggleButton s .proxyAuto) false
  else if method = some "direct" then enableProxyConfig (toggleButton s .proxyDirect) false
  else enableProxyConfig (toggleButton s .proxyManual) true

/-- The entries `update_ipv4` fills from the configuration. -/
def setIpv4Entries (conf : ConnmanIpv4) : State :=
  let s := setEntry "ipv4_conf_address" s conf.address
  let s := setEntry "ipv4_conf_netmask" s conf.netmask
  setEntry "ipv4_conf_gateway" s conf.gateway

/-- `update_ipv4`. -/
def updateIpv4 : State :=
  match service (.updatable .ipv4), service (.updatable .ipv4Configuration) with
  | none, none => setWidgetSensitive (setIpv4Entries s {}) .ipv4Settings false
  | some ipv4, none => setIpv4Entries (setIpv4Method s ipv4.method) {}
  | none, some conf =>
    setWidgetSensitive (setIpv4Entries (setIpv4Method s conf.method) conf) .ipv4Settings true
  | some ipv4, some conf =>
    setWidgetSensitive (setIpv4Entries (setIpv4Method s ipv4.method) conf) .ipv4Settings true

/-- The entries `update_ipv6` fills from the configuration, with the prefix as
`snprintf` writes it. -/
def setIpv6Entries (address prefixLength gateway : Option String) : State :=
  let s := setEntry "ipv6_conf_address" s address
  let s := setEntry "ipv6_conf_prefix_length" s prefixLength
  setEntry "ipv6_conf_gateway" s gateway

/-- `update_ipv6`, which never makes the section sensitive again. -/
def updateIpv6 : State :=
  match service (.updatable .ipv6), service (.updatable .ipv6Configuration) with
  | none, none => setWidgetSensitive (setIpv6Entries s none none none) .ipv6Settings false
  | some ipv6, none =>
    setIpv6Entries (setIpv6Privacy (setIpv6Method s ipv6.method) ipv6.privacy) none none none
  | none, some conf =>
    let s := setIpv6Entries (setIpv6Method s conf.method) conf.address
      (toString conf.prefixLength.toNat) conf.gateway
    setIpv6Privacy s conf.privacy
  | some ipv6, some conf =>
    setIpv6Entries (setIpv6Privacy (setIpv6Method s ipv6.method) ipv6.privacy) conf.address
      (toString conf.prefixLength.toNat) conf.gateway

/-- `update_dns`. -/
def updateDns : State :=
  let s := setEntry "nameservers_conf" s (service (.updatable .nameserversConfiguration))
  setEntry "domains_conf" s (service (.updatable .domainsConfiguration))

/-- `update_timeservers`. -/
def updateTimeservers : State :=
  setEntry "timerservers_conf" s (service (.updatable .timeserversConfiguration))

/-- The entries `update_proxy` fills from the configuration. -/
def setProxyEntries (conf : ConnmanProxy) : State :=
  let s := setEntry "proxy_conf_url" s conf.url
  let s := setEntry "proxy_conf_servers" s conf.servers
  setEntry "proxy_conf_excludes" s conf.excludes

/-- `update_proxy`. -/
def updateProxy : State :=
  match service (.updatable .proxy), service (.updatable .proxyConfiguration) with
  | none, none => setWidgetSensitive (setProxyEntries s {}) .proxySettings false
  | some proxy, none => setProxyEntries (setProxyMethod s proxy.method) {}
  | none, some conf =>
    setWidgetSensitive (setProxyEntries (setProxyMethod s conf.method) conf) .proxySettings true
  | some proxy, some conf =>
    setWidgetSensitive (setProxyEntries (setProxyMethod s proxy.method) conf) .proxySettings true

/-- The updates of the sections in `service_property_set_cb`. -/
def updateSections : State :=
  updateProxy (updateTimeservers (updateDns (updateIpv6 (updateIpv4 s service) service) service) service)
    service

end Update

/-! ## What is sent -/

section Configuration

variable (s : State)

/-- `get_ipv4_configuration`. -/
def getIpv4Configuration : ConnmanIpv4 where
  method := s.method .ipv4Method
  address := getEntryText "ipv4_conf_address" s
  netmask := getEntryText "ipv4_conf_netmask" s
  gateway := getEntryText "ipv4_conf_gateway" s

/-- `isspace`. -/
def isspace (c : Char) : Bool := c = ' ' || (9 ≤ c.toNat && c.toNat ≤ 13)

/-- `atoi`: white space, a sign and the digits that follow. -/
def atoi (text : String) : Int :=
  let digits (l : List Char) : Int :=
    (l.takeWhile Char.isDigit).foldl (fun n c => 10 * n + (c.toNat - '0'.toNat : Nat)) 0
  match text.toList.dropWhile isspace with
  | '-' :: l => -digits l
  | '+' :: l => digits l
  | l => digits l

/-- `get_ipv6_configuration`; the prefix is kept in eight bits. -/
def getIpv6Configuration : ConnmanIpv6 where
  method := s.method .ipv6Method
  address := getEntryText "ipv6_conf_address" s
  prefixLength := UInt8.ofInt (atoi ((getEntryText "ipv6_conf_prefix_length" s).getD ""))
  gateway := getEntryText "ipv6_conf_gateway" s
  privacy := s.method .ipv6Privacy

/-- `get_proxy_configuration`. -/
def getProxyConfiguration : ConnmanProxy where
  method := s.method .proxyMethod
  url := getEntryText "proxy_conf_url" s
  servers := getEntryText "proxy_conf_servers" s
  excludes := getEntryText "proxy_conf_excludes" s

/-- What the setter of a section is called with. -/
def Section.setting : Section → Setting
  | .ipv4 => .ipv4Config (getIpv4Configuration s)
  | .ipv6 => .ipv6Config (getIpv6Configuration s)
  | .proxy => .proxyConfig (getProxyConfiguration s)
  | .nameservers => .nameserversConfig (getEntryText "nameservers_conf" s)
  | .domains => .domainsConfig (getEntryText "domains_conf" s)
  | .timeservers => .timeserversConfig (getEntryText "timerservers_conf" s)

/-- The call a branch of `settings_ok_callback` makes. -/
def Section.request (x : Section) : Request := .set s.path (x.setting s)

end Configuration

/-! ## Callbacks of the dialog -/

section Callbacks

variable (s : State)

/-- `connman_service_set_property_changed_callback` on the service of the dialog. -/
def setPropertyChangedCallback (cb : Option ChangedCb) : State :=
  if s.known then { s with changedCb := cb } else s

/-- `connman_service_set_property_error_callback` on the service of the dialog. -/
def setPropertyErrorCallback (cb : Bool) : State :=
  if s.known then { s with errorCb := cb } else s

/-- `service_property_changed_cb`. -/
def servicePropertyChangedCb (service : Record) : State × List Request := updateHeader s service

/-- `service_property_set_cb`; `named` says that its path is not NULL. -/
def servicePropertySetCb (named : Bool) (service : Record) : State × List Request :=
  let header := updateHeader s service
  let s := { updateSections header.1 service with changed := fun _ => false }
  (if named then setPropertyChangedCallback s (some .servicePropertyChangedCb) else s, header.2)

/-- `service_property_error_cb`. -/
def servicePropertyErrorCb (service : Record) : State × List Request :=
  servicePropertySetCb s false service

/-- `settings_ok_callback`. -/
def settingsOkCallback : State × List Request :=
  let s := setPropertyChangedCallback s (some .servicePropertySetCb)
  let requests :=
    if s.changed .ipv4 then [Section.ipv4.request s]
    else if s.changed .ipv6 then [Section.ipv6.request s]
    else if s.changed .proxy then [Section.proxy.request s]
    else if s.changed .nameservers then [Section.nameservers.request s]
    else if s.changed .domains then [Section.domains.request s]
    else if s.changed .timeservers then [Section.timeservers.request s]
    else []
  (s, requests)

/-- `settings_cancel_callback`. -/
def settingsCancelCallback : State :=
  let s := { s with shown := false }
  let s := setPropertyChangedCallback s none
  let s := setPropertyErrorCallback s false
  { s with path := none, known := false }

/-- The widgets as `settings.ui` has them. -/
def freshWidgets : State :=
  { s with
    active := Radio.first
    text := fun _ => ""
    sensitive := fun _ => true
    pressed := fun _ => false
    handlers := fun _ => 0 }

/-- `cui_settings_popup`, once the file is loaded; a path without a service is
`none`, and the getters say zero or NULL then. -/
def cuiSettingsPopup (selectedPath : String) (service : Option Record) : State × List Request :=
  let s := { freshWidgets s with path := some selectedPath, shown := true, known := service.isSome }
  let s := setPropertyChangedCallback s (some .servicePropertyChangedCb)
  let s := setPropertyErrorCallback s true
  servicePropertySetCb s false (service.getD default)

end Callbacks

/-! ## Steps -/

/-- The widgets that must be sensitive for the user to reach a radio button. -/
def Group.within : Group → List Widget
  | .ipv4Method => [.ipv4Settings]
  | .ipv6Method => [.ipv6Settings]
  | .ipv6Privacy => [.ipv6Settings, .ipv6PrivBox]
  | .proxyMethod => [.proxySettings]

/-- The widgets that must be sensitive for the user to type in an entry. -/
def Entry.within : Entry → List Widget
  | .ipv4ConfAddress => [.ipv4Settings, .entry .ipv4ConfAddress]
  | .ipv4ConfNetmask => [.ipv4Settings, .entry .ipv4ConfNetmask]
  | .ipv4ConfGateway => [.ipv4Settings, .entry .ipv4ConfGateway]
  | .ipv6ConfAddress => [.ipv6Settings, .entry .ipv6ConfAddress]
  | .ipv6ConfPrefixLength => [.ipv6Settings, .entry .ipv6ConfPrefixLength]
  | .ipv6ConfGateway => [.ipv6Settings, .entry .ipv6ConfGateway]
  | .proxyConfUrl => [.proxySettings, .entry .proxyConfUrl]
  | .proxyConfServers => [.proxySettings, .entry .proxyConfServers]
  | .proxyConfExcludes => [.proxySettings, .entry .proxyConfExcludes]
  | .nameserversConf => []
  | .domainsConf => []
  | .timeserversConf => []

inductive Event where
  | popup (selectedPath : String) (service : Option Record)
  | cancel
  | ok
  | pick {g : Group} (button : Radio g)
  | typed (entry : Entry) (text : String)
  | click (button : Button)
  | propertyChanged (service : Record)
  | propertyError (service : Record)

/-- The user can reach what lies within the given widgets. -/
def State.reachable (s : State) (within : List Widget) : Bool := s.shown && within.all s.sensitive

/-- What an event does, and the functions of the service module it calls.  The
tray is disabled while a dialog is open, so there is one at a time. -/
def act (s : State) : Event → Option (State × List Request)
  | .popup selectedPath service => if s.shown then none else some (cuiSettingsPopup s selectedPath service)
  | .cancel => if s.shown then some (settingsCancelCallback s, []) else none
  | .ok => if s.shown then some (settingsOkCallback s) else none
  | .pick (g := g) button => if s.reachable g.within then some (toggleButton s button, []) else none
  | .typed entry text => if s.reachable entry.within then some (keyReleased s entry text, []) else none
  | .click button =>
    if s.reachable [.button button] then some (setButtonToggle s button (!s.pressed button)) else none
  | .propertyChanged service =>
    match s.changedCb with
    | none => none
    | some .servicePropertyChangedCb => some (servicePropertyChangedCb s service)
    | some .servicePropertySetCb => some (servicePropertySetCb s true service)
  | .propertyError service => if s.errorCb then some (servicePropertyErrorCb s service) else none

/-- A step of the dialog. -/
def step (s : State) (e : Event) : Option State := (act s e).map Prod.fst

/-- The statics as the program starts with them. -/
def Boot (s : State) : Prop := s = {}

end ConnmanUi.Settings
