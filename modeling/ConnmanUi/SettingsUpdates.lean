import ConnmanUi.Settings

/-!
What the updates of the settings dialog change.

An update of the header touches the two buttons only; an update of the sections
leaves the buttons alone and presses, in each radio group, at most the button
that stands for the method the service has.
-/

namespace ConnmanUi.Settings

open Service (Record ConnmanIpv4 ConnmanIpv6 ConnmanProxy Setting)

variable {s s' : State} {service : Record} {g : Group}

/-! ## The header -/

/-- A button of the header that is set changes nothing but what it shows. -/
theorem setButtonToggle_state (s : State) (button : Button) (active : Bool) :
    (setButtonToggle s button active).1 =
      { s with pressed := Function.update s.pressed button active } := by
  unfold setButtonToggle
  split
  · next same => rw [← same, Function.update_eq_self]
  · rfl

/-- A half of the header's update touches its button only. -/
theorem updateButton_state (s : State) (button : Button) (active favorite : Bool) :
    (updateButton s button active favorite).1 =
      { s with
        pressed := Function.update s.pressed button active
        sensitive := Function.update s.sensitive (.button button) favorite
        handlers := if favorite then Function.update s.handlers button (s.handlers button + 1)
          else s.handlers } := by
  cases favorite <;> simp [updateButton, setButtonToggle_state, setWidgetSensitive, connect]

/-- The header's update touches the two buttons only. -/
theorem updateHeader_state (s : State) (service : Record) :
    ∃ pressed sensitive handlers,
      (updateHeader s service).1 =
        { s with pressed := pressed, sensitive := sensitive, handlers := handlers } := by
  simp only [updateHeader, updateButton_state]
  exact ⟨_, _, _, rfl⟩

/-- An update with Favorite TRUE connects one more handler to each button. -/
theorem updateHeader_handlers (s : State) (service : Record) (button : Button) :
    (updateHeader s service).1.handlers button =
      s.handlers button + if service (.updatable .favorite) then 1 else 0 := by
  cases favorite : service (.updatable .favorite) <;> cases button <;>
    simp [updateHeader, updateButton_state, favorite]

/-- The handlers of a button issue nothing when it is set to what it shows, when
there are none, and on a favorite button that becomes active. -/
theorem setButtonToggle_requests (s : State) (button : Button) (active : Bool) :
    (setButtonToggle s button active).2 = [] ↔
      s.pressed button = active ∨ s.handlers button = 0 ∨ button = .serviceFavorite ∧ active = true := by
  unfold setButtonToggle
  split
  · next same => simp [same]
  · next differs =>
    cases button <;> cases active <;>
      simp [differs, Button.toggled, autoconnectButtonToggled, favoriteButtonToggled]

/-- A request of the header is not one of a section. -/
theorem request_not_toggled (s t : State) (x : Section) (button : Button) :
    x.request t ∉ button.toggled s := by
  cases button <;> cases x <;>
    simp [Button.toggled, autoconnectButtonToggled, favoriteButtonToggled, Section.request, Section.setting]

theorem request_not_setButtonToggle (s t : State) (x : Section) (button : Button) (active : Bool) :
    x.request t ∉ (setButtonToggle s button active).2 := by
  unfold setButtonToggle
  split
  · exact List.not_mem_nil
  · intro there
    obtain ⟨requests, handler, there⟩ := List.mem_flatten.mp there
    rw [List.eq_of_mem_replicate handler] at there
    exact request_not_toggled _ t x button there

theorem request_not_updateHeader (s t : State) (service : Record) (x : Section) :
    x.request t ∉ (updateHeader s service).2 := by
  intro there
  rcases List.mem_append.mp there with there | there <;>
    exact request_not_setButtonToggle _ t x _ _ there

/-! ## The radio groups -/

/-- The string that names a button's method. -/
def Radio.name : Radio g → String
  | .ipv4Dhcp => "dhcp"
  | .ipv4Manual => "manual"
  | .ipv4Off => "off"
  | .ipv6Auto => "auto"
  | .ipv6Manual => "manual"
  | .ipv6Off => "off"
  | .ipv6PrivPrefered => "prefered"
  | .ipv6PrivEnabled => "enabled"
  | .ipv6PrivDisabled => "disabled"
  | .proxyAuto => "auto"
  | .proxyDirect => "direct"
  | .proxyManual => "manual"

/-- The section whose flag the callbacks of a group set. -/
def Group.section : Group → Section
  | .ipv4Method => .ipv4
  | .ipv6Method => .ipv6
  | .ipv6Privacy => .ipv6
  | .proxyMethod => .proxy

/-- The active button of a group and the string in its variable. -/
abbrev Choices := (g : Group) → Radio g × Option String

def State.choices (s : State) : Choices := fun g => (s.active g, s.method g)

/-- A button is made the active one of its group; the variable follows only if
another one was. -/
def press (c : Choices) (button : Radio g) : Choices :=
  if (c g).1 = button then c else Function.update c g (button, some button.name)

theorem press_self (c : Choices) (button : Radio g) :
    press c button g = (button, if (c g).1 = button then (c g).2 else some button.name) := by
  unfold press
  split
  · next same => rw [← same]
  · simp

theorem press_other {h : Group} (c : Choices) (button : Radio g) (other : h ≠ g) :
    press c button h = c h := by
  unfold press
  split
  · rfl
  · exact Function.update_of_ne other _ c

/-- What a button's callbacks come to when it becomes the active one: its name
is stored, and of the widgets only sensitivities change. -/
theorem toggledCb_twice (s : State) (old button : Radio g) :
    ∃ sensitive, toggledCb (toggledCb s old false) button true =
      { store s g button.name g.section with sensitive := sensitive } := by
  refine ⟨(toggledCb (toggledCb s old false) button true).sensitive, ?_⟩
  cases button with
  | ipv6PrivPrefered | ipv6PrivEnabled | ipv6PrivDisabled =>
    cases old <;> simp [toggledCb, toggledIpv6PrivacyCb, store, Radio.name, Group.section]
  | ipv6Auto | ipv6Manual | ipv6Off =>
    simp [toggledCb, toggledIpv6MethodCb, store, Radio.name, Group.section, enableIpv6Config,
      setWidgetSensitive]
  | _ => rfl

/-- `toggle_button`, in full. -/
theorem toggleButton_state (s : State) (button : Radio g) :
    s.active g = button ∧ toggleButton s button = s ∨
      s.active g ≠ button ∧ ∃ sensitive, toggleButton s button =
        { s with
          active := Function.update s.active g button
          method := Function.update s.method g (some button.name)
          changed := Function.update s.changed g.section true
          sensitive := sensitive } := by
  by_cases same : s.active g = button
  · exact .inl ⟨same, if_pos same⟩
  · obtain ⟨sensitive, toggled⟩ :=
      toggledCb_twice { s with active := Function.update s.active g button } (s.active g) button
    exact .inr ⟨same, sensitive, (if_neg same).trans toggled⟩

/-- `toggle_button` presses. -/
theorem toggleButton_choices (s : State) (button : Radio g) :
    (toggleButton s button).choices = press s.choices button := by
  rcases toggleButton_state s button with ⟨same, kept⟩ | ⟨differs, sensitive, toggled⟩
  · rw [kept, press, if_pos (show (s.choices g).1 = button from same)]
  · rw [toggled, press, if_neg (show ¬(s.choices g).1 = button from differs)]
    funext h
    by_cases same : h = g
    · subst same
      simp [State.choices]
    · simp [State.choices, same]

/-! ## The sections -/

@[simp]
theorem setWidgetSensitive_choices (s : State) (widget : Widget) (value : Bool) :
    (setWidgetSensitive s widget value).choices = s.choices := rfl

@[simp]
theorem setEntry_choices (name : String) (s : State) (value : Option String) :
    (setEntry name s value).choices = s.choices := by
  unfold setEntry
  split <;> rfl

/-- The button that stands for a method in its group. -/
def Radio.standsFor : (g : Group) → Option String → Radio g
  | .ipv4Method, method =>
    if method = some "dhcp" then .ipv4Dhcp else if method = some "manual" then .ipv4Manual else .ipv4Off
  | .ipv6Method, method =>
    if method = some "auto" then .ipv6Auto else if method = some "manual" then .ipv6Manual else .ipv6Off
  | .ipv6Privacy, privacy =>
    if privacy = some "enabled" then .ipv6PrivEnabled
    else if privacy = some "prefered" then .ipv6PrivPrefered else .ipv6PrivDisabled
  | .proxyMethod, method =>
    if method = some "auto" then .proxyAuto else if method = some "direct" then .proxyDirect else .proxyManual

@[simp]
theorem setIpv4Method_choices (s : State) (method : Option String) :
    (setIpv4Method s method).choices = press s.choices (Radio.standsFor .ipv4Method method) := by
  simp only [setIpv4Method, Radio.standsFor]
  split_ifs <;> simp [enableIpv4Config, toggleButton_choices]

@[simp]
theorem setIpv6Method_choices (s : State) (method : Option String) :
    (setIpv6Method s method).choices = press s.choices (Radio.standsFor .ipv6Method method) := by
  simp only [setIpv6Method, Radio.standsFor]
  split_ifs <;> simp [enableIpv6Config, toggleButton_choices]

@[simp]
theorem setIpv6Privacy_choices (s : State) (privacy : Option String) :
    (setIpv6Privacy s privacy).choices = press s.choices (Radio.standsFor .ipv6Privacy privacy) := by
  simp only [setIpv6Privacy, Radio.standsFor]
  split_ifs <;> simp [toggleButton_choices]

@[simp]
theorem setProxyMethod_choices (s : State) (method : Option String) :
    (setProxyMethod s method).choices = press s.choices (Radio.standsFor .proxyMethod method) := by
  simp only [setProxyMethod, Radio.standsFor]
  split_ifs <;> simp [enableProxyConfig, toggleButton_choices]

/-- The method a service has for a group, if it has the struct: the value in
force before the configured one. -/
def methodOf (service : Record) : Group → Option (Option String)
  | .ipv4Method =>
    ((service (.updatable .ipv4)).or (service (.updatable .ipv4Configuration))).map ConnmanIpv4.method
  | .ipv6Method =>
    ((service (.updatable .ipv6)).or (service (.updatable .ipv6Configuration))).map ConnmanIpv6.method
  | .ipv6Privacy =>
    ((service (.updatable .ipv6)).or (service (.updatable .ipv6Configuration))).map ConnmanIpv6.privacy
  | .proxyMethod =>
    ((service (.updatable .proxy)).or (service (.updatable .proxyConfiguration))).map ConnmanProxy.method

/-- The button an update presses in a group, if any. -/
def buttonOf (service : Record) (g : Group) : Option (Radio g) :=
  (methodOf service g).map (Radio.standsFor g)

/-- What an update makes of the choices. -/
def pressFor (service : Record) (c : Choices) (g : Group) : Choices :=
  match buttonOf service g with
  | none => c
  | some button => press c button

theorem pressFor_self (service : Record) (c : Choices) (g : Group) :
    pressFor service c g g =
      match buttonOf service g with
      | none => c g
      | some button => (button, if (c g).1 = button then (c g).2 else some button.name) := by
  unfold pressFor
  cases buttonOf service g with
  | none => rfl
  | some button => exact press_self c button

theorem pressFor_other {h : Group} (service : Record) (c : Choices) (other : h ≠ g) :
    pressFor service c g h = c h := by
  unfold pressFor
  cases buttonOf service g with
  | none => rfl
  | some button => exact press_other c button other

@[simp]
theorem updateIpv4_choices (s : State) (service : Record) :
    (updateIpv4 s service).choices = pressFor service s.choices .ipv4Method := by
  simp only [updateIpv4, pressFor, buttonOf, methodOf]
  cases service (.updatable .ipv4) <;> cases service (.updatable .ipv4Configuration) <;>
    simp [setIpv4Entries]

@[simp]
theorem updateIpv6_choices (s : State) (service : Record) :
    (updateIpv6 s service).choices =
      pressFor service (pressFor service s.choices .ipv6Method) .ipv6Privacy := by
  simp only [updateIpv6, pressFor, buttonOf, methodOf]
  cases service (.updatable .ipv6) <;> cases service (.updatable .ipv6Configuration) <;>
    simp [setIpv6Entries]

@[simp]
theorem updateProxy_choices (s : State) (service : Record) :
    (updateProxy s service).choices = pressFor service s.choices .proxyMethod := by
  simp only [updateProxy, pressFor, buttonOf, methodOf]
  cases service (.updatable .proxy) <;> cases service (.updatable .proxyConfiguration) <;>
    simp [setProxyEntries]

/-- An update of the sections presses in each group the button the service
calls for. -/
theorem updateSections_choices (s : State) (service : Record) (g : Group) :
    (updateSections s service).choices g =
      match buttonOf service g with
      | none => s.choices g
      | some button =>
        (button, if (s.choices g).1 = button then (s.choices g).2 else some button.name) := by
  cases g <;>
    simp [updateSections, updateTimeservers, updateDns, pressFor_self, pressFor_other]

/-! ## What an update of the sections leaves alone -/

/-- The dialog apart from its sections. -/
structure Frame where
  path : Option String
  shown : Bool
  known : Bool
  changedCb : Option ChangedCb
  errorCb : Bool
  pressed : Button → Bool
  handlers : Button → Nat

def State.frame (s : State) : Frame where
  path := s.path
  shown := s.shown
  known := s.known
  changedCb := s.changedCb
  errorCb := s.errorCb
  pressed := s.pressed
  handlers := s.handlers

@[simp]
theorem setWidgetSensitive_frame (s : State) (widget : Widget) (value : Bool) :
    (setWidgetSensitive s widget value).frame = s.frame := rfl

@[simp]
theorem setEntry_frame (name : String) (s : State) (value : Option String) :
    (setEntry name s value).frame = s.frame := by
  unfold setEntry
  split <;> rfl

@[simp]
theorem toggleButton_frame (s : State) (button : Radio g) : (toggleButton s button).frame = s.frame := by
  rcases toggleButton_state s button with ⟨-, kept⟩ | ⟨-, sensitive, toggled⟩
  · rw [kept]
  · rw [toggled]
    rfl

@[simp]
theorem setIpv4Method_frame (s : State) (method : Option String) :
    (setIpv4Method s method).frame = s.frame := by
  unfold setIpv4Method
  split_ifs <;> simp [enableIpv4Config]

@[simp]
theorem setIpv6Method_frame (s : State) (method : Option String) :
    (setIpv6Method s method).frame = s.frame := by
  unfold setIpv6Method
  split_ifs <;> simp [enableIpv6Config]

@[simp]
theorem setIpv6Privacy_frame (s : State) (privacy : Option String) :
    (setIpv6Privacy s privacy).frame = s.frame := by
  unfold setIpv6Privacy
  split_ifs <;> simp

@[simp]
theorem setProxyMethod_frame (s : State) (method : Option String) :
    (setProxyMethod s method).frame = s.frame := by
  unfold setProxyMethod
  split_ifs <;> simp [enableProxyConfig]

@[simp]
theorem updateIpv4_frame (s : State) (service : Record) : (updateIpv4 s service).frame = s.frame := by
  unfold updateIpv4
  split <;> simp [setIpv4Entries]

@[simp]
theorem updateIpv6_frame (s : State) (service : Record) : (updateIpv6 s service).frame = s.frame := by
  unfold updateIpv6
  split <;> simp [setIpv6Entries]

@[simp]
theorem updateProxy_frame (s : State) (service : Record) : (updateProxy s service).frame = s.frame := by
  unfold updateProxy
  split <;> simp [setProxyEntries]

/-- An update of the sections changes nothing else. -/
theorem updateSections_frame (s : State) (service : Record) :
    (updateSections s service).frame = s.frame := by
  simp [updateSections, updateTimeservers, updateDns]

/-- The callback registered again, if the dialog has a service. -/
theorem setPropertyChangedCallback_frame (s : State) (cb : Option ChangedCb) :
    (setPropertyChangedCallback s cb).frame =
      { s.frame with changedCb := if s.frame.known then cb else s.frame.changedCb } := by
  unfold setPropertyChangedCallback State.frame
  split <;> rfl

/-- The frame of the dialog after `service_property_set_cb`: the header's update,
and the callback if there is a path to register it for. -/
theorem servicePropertySetCb_frame (s : State) (named : Bool) (service : Record) :
    (servicePropertySetCb s named service).1.frame =
      { (updateHeader s service).1.frame with
        changedCb := if named && s.known then some .servicePropertyChangedCb else s.changedCb } := by
  obtain ⟨pressed, sensitive, handlers, header⟩ := updateHeader_state s service
  have sections : State.frame { updateSections (updateHeader s service).1 service with changed := fun _ => false } =
      (updateHeader s service).1.frame := updateSections_frame _ service
  cases named with
  | false =>
    simp only [servicePropertySetCb, Bool.false_and, Bool.false_eq_true, if_false, sections]
    rw [header]
    rfl
  | true =>
    simp only [servicePropertySetCb, if_true, setPropertyChangedCallback_frame, sections, Bool.true_and]
    rw [header]
    rfl

/-- The choices after `service_property_set_cb`. -/
theorem servicePropertySetCb_choices (s : State) (named : Bool) (service : Record) (g : Group) :
    (servicePropertySetCb s named service).1.choices g =
      match buttonOf service g with
      | none => s.choices g
      | some button =>
        (button, if (s.choices g).1 = button then (s.choices g).2 else some button.name) := by
  obtain ⟨pressed, sensitive, handlers, header⟩ := updateHeader_state s service
  have kept : (servicePropertySetCb s named service).1.choices =
      (updateSections (updateHeader s service).1 service).choices := by
    simp only [servicePropertySetCb, setPropertyChangedCallback]
    split_ifs <;> rfl
  rw [kept, updateSections_choices, header]
  rfl

/-- Every flag is reset. -/
theorem servicePropertySetCb_changed (s : State) (named : Bool) (service : Record) (x : Section) :
    (servicePropertySetCb s named service).1.changed x = false := by
  simp only [servicePropertySetCb, setPropertyChangedCallback]
  split_ifs <;> rfl

/-- The handlers after `service_property_set_cb`. -/
theorem servicePropertySetCb_handlers (s : State) (named : Bool) (service : Record) (button : Button) :
    (servicePropertySetCb s named service).1.handlers button =
      s.handlers button + if service (.updatable .favorite) then 1 else 0 := by
  have frame := congrArg Frame.handlers (servicePropertySetCb_frame s named service)
  exact (congrFun frame button).trans (updateHeader_handlers s service button)

/-- A dialog opens with fresh buttons, and its first update finds it so. -/
theorem cuiSettingsPopup_eq (s : State) (selectedPath : String) (service : Option Record) :
    ∃ opened, cuiSettingsPopup s selectedPath service =
        servicePropertySetCb opened false (service.getD default) ∧
      opened.frame =
        { path := some selectedPath
          shown := true
          known := service.isSome
          changedCb := if service.isSome then some .servicePropertyChangedCb else s.changedCb
          errorCb := service.isSome || s.errorCb
          pressed := fun _ => false
          handlers := fun _ => 0 } ∧
      opened.choices = fun g => (Radio.first g, s.method g) := by
  refine ⟨_, rfl, ?_⟩
  cases service <;> exact ⟨rfl, rfl⟩

@[simp]
theorem keyReleased_frame (s : State) (entry : Entry) (text : String) :
    (keyReleased s entry text).frame = s.frame := by
  unfold keyReleased
  dsimp only
  split <;> rfl

/-- Closing the dialog takes its callbacks back. -/
theorem settingsCancelCallback_frame (s : State) :
    (settingsCancelCallback s).frame =
      { path := none
        shown := false
        known := false
        changedCb := if s.known then none else s.changedCb
        errorCb := !s.known && s.errorCb
        pressed := s.pressed
        handlers := s.handlers } := by
  cases known : s.known <;>
    simp [settingsCancelCallback, setPropertyChangedCallback, setPropertyErrorCallback, State.frame, known]

/-! ## Steps -/

/-- What each event does, and when it can happen. -/
inductive Does (s : State) : Event → State × List Request → Prop where
  | popup {selectedPath : String} {service : Option Record} (closed : s.shown = false) :
      Does s (.popup selectedPath service) (cuiSettingsPopup s selectedPath service)
  | cancel (shown : s.shown = true) : Does s .cancel (settingsCancelCallback s, [])
  | ok (shown : s.shown = true) : Does s .ok (settingsOkCallback s)
  | pick {g : Group} {button : Radio g} (shown : s.shown = true) :
      Does s (.pick button) (toggleButton s button, [])
  | typed {entry : Entry} {text : String} (shown : s.shown = true) :
      Does s (.typed entry text) (keyReleased s entry text, [])
  | click {button : Button} (shown : s.shown = true) :
      Does s (.click button) (setButtonToggle s button !s.pressed button)
  | changed {service : Record} (cb : s.changedCb = some .servicePropertyChangedCb) :
      Does s (.propertyChanged service) (updateHeader s service)
  | set {service : Record} (cb : s.changedCb = some .servicePropertySetCb) :
      Does s (.propertyChanged service) (servicePropertySetCb s true service)
  | error {service : Record} (cb : s.errorCb = true) :
      Does s (.propertyError service) (servicePropertySetCb s false service)

theorem act_does {e : Event} {out : State × List Request} (acted : act s e = some out) :
    Does s e out := by
  cases e with
  | popup selectedPath service =>
    cases shown : s.shown with
    | true => simp [act, shown] at acted
    | false =>
      simp only [act, shown, Bool.false_eq_true, if_false, Option.some.injEq] at acted
      exact acted ▸ .popup shown
  | cancel =>
    obtain ⟨shown, did⟩ := Option.ite_none_right_eq_some.mp acted
    exact Option.some.inj did ▸ .cancel shown
  | ok =>
    obtain ⟨shown, did⟩ := Option.ite_none_right_eq_some.mp acted
    exact Option.some.inj did ▸ .ok shown
  | pick button =>
    obtain ⟨reachable, did⟩ := Option.ite_none_right_eq_some.mp acted
    exact Option.some.inj did ▸ .pick (Bool.and_eq_true_iff.mp reachable).1
  | typed entry text =>
    obtain ⟨reachable, did⟩ := Option.ite_none_right_eq_some.mp acted
    exact Option.some.inj did ▸ .typed (Bool.and_eq_true_iff.mp reachable).1
  | click button =>
    obtain ⟨reachable, did⟩ := Option.ite_none_right_eq_some.mp acted
    exact Option.some.inj did ▸ .click (Bool.and_eq_true_iff.mp reachable).1
  | propertyChanged service =>
    simp only [act] at acted
    split at acted
    · cases acted
    · next cb => exact Option.some.inj acted ▸ .changed cb
    · next cb => exact Option.some.inj acted ▸ .set cb
  | propertyError service =>
    obtain ⟨cb, did⟩ := Option.ite_none_right_eq_some.mp acted
    exact Option.some.inj did ▸ .error cb

end ConnmanUi.Settings
