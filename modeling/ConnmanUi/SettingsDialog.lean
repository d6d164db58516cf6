import ConnmanUi.SettingsUpdates

/-!
Runs of the settings dialog.

Three things are asked of a run: that the header's buttons ask for something
when the user clicks them and then once (`asksOnce_iff`), that OK sends the
methods the dialog shows (`sendsShown_iff`), and that no edit is lost
(`unlost_iff`).  None holds of every run; each is equivalent to a condition on
the steps, told from what an observer notes since the dialog was opened.  What
`unlost_iff` asks of the timeservers no run puts to the test: their entry has no
handler, so they are never flagged (`timeservers_unflagged`).
-/

namespace ConnmanUi.Settings

open Service (Record Setting)
open Run

variable {s s' : State} {service : Record} {requests : List Request}

/-! ## The buttons of the header -/

/-- How often the header has been updated with Favorite TRUE since the dialog
was opened. -/
def noteFavorite (_ : State) (e : Event) (_ : State × List Request) (favorites : Nat) : Nat :=
  match e with
  | .popup _ service => if service.getD default (.updatable .favorite) then 1 else 0
  | .propertyChanged service | .propertyError service =>
    favorites + if service (.updatable .favorite) then 1 else 0
  | _ => favorites

abbrev watchFavorite := watch act noteFavorite

/-- What is displayed asks for nothing; a click on the autoconnect button, and
one that releases the favorite button, asks for its change once. -/
def AsksOnce (w : Watched State Nat) (e : Event) : Prop :=
  ∀ out, act w.state e = some out →
    match e with
    | .popup _ _ | .propertyChanged _ | .propertyError _ => out.2 = []
    | .click .serviceAutoconnect =>
      out.2 = [.set w.state.path (.autoconnectable !w.state.pressed .serviceAutoconnect)]
    | .click .serviceFavorite =>
      out.2 = if w.state.pressed .serviceFavorite then [.remove w.state.path] else []
    | _ => True

/-- The steps that go well: notifications that change neither button, or come
before any update with Favorite TRUE, and clicks after exactly one such
update. -/
def Settled (w : Watched State Nat) (e : Event) : Prop :=
  match e with
  | .propertyChanged service | .propertyError service =>
    w.ghost = 0 ∨
      w.state.pressed .serviceAutoconnect = service (.updatable .autoconnect) ∧
        (w.state.pressed .serviceFavorite = true → service (.updatable .favorite) = true)
  | .click .serviceAutoconnect => w.ghost = 1
  | .click .serviceFavorite => w.state.pressed .serviceFavorite = true → w.ghost = 1
  | _ => True

/-- The header issues nothing if and only if each button that changes has no
handler, or is the favorite button and becomes active. -/
theorem updateHeader_requests (s : State) (service : Record) :
    (updateHeader s service).2 = [] ↔
      (s.pressed .serviceAutoconnect = service (.updatable .autoconnect) ∨
        s.handlers .serviceAutoconnect = 0) ∧
      (s.pressed .serviceFavorite = false ∨ service (.updatable .favorite) = true ∨
        s.handlers .serviceFavorite = 0) := by
  have favorite := setButtonToggle_requests
    (updateButton s .serviceAutoconnect (service (.updatable .autoconnect))
      (service (.updatable .favorite))).1 .serviceFavorite (service (.updatable .favorite))
  have autoconnect :=
    setButtonToggle_requests s .serviceAutoconnect (service (.updatable .autoconnect))
  have kept : ∀ favorite : Bool, (if favorite then Function.update s.handlers .serviceAutoconnect
      (s.handlers .serviceAutoconnect + 1) else s.handlers) .serviceFavorite =
        s.handlers .serviceFavorite := by
    intro favorite
    cases favorite <;> simp
  rw [updateButton_state] at favorite
  show (setButtonToggle s _ _).2 ++ (setButtonToggle (updateButton s _ _ _).1 _ _).2 = [] ↔ _
  rw [List.append_eq_nil_iff, updateButton_state, autoconnect, favorite]
  simp only [kept, Function.update_of_ne (show Button.serviceFavorite ≠ .serviceAutoconnect by decide)]
  cases service (.updatable .favorite) <;> simp

/-- The calls of the handlers of a button that is clicked. -/
theorem click_requests (s : State) (button : Button) :
    (setButtonToggle s button (!s.pressed button)).2 =
      (List.replicate (s.handlers button)
        (button.toggled { s with pressed := Function.update s.pressed button !s.pressed button })).flatten := by
  unfold setButtonToggle
  rw [if_neg (by simp)]

theorem replicate_eq_singleton {α : Type*} (n : Nat) (x : α) : List.replicate n x = [x] ↔ n = 1 := by
  rw [show [x] = List.replicate 1 x from rfl, List.replicate_inj]
  simp

/-- Each button has as many handlers as there were updates with Favorite TRUE. -/
def Counted (w : Watched State Nat) : Prop := ∀ button, w.state.handlers button = w.ghost

theorem counted_step {w w' : Watched State Nat} {e : Event} (counted : Counted w)
    (ran : watchFavorite w e = some w') : Counted w' := by
  obtain ⟨out, acted, rfl⟩ := watch_eq_some ran
  intro button
  have before := counted button
  cases act_does acted with
  | popup closed =>
    next selectedPath service =>
    obtain ⟨opened, popup, frame, -⟩ := cuiSettingsPopup_eq w.state selectedPath service
    have fresh : opened.handlers button = 0 := congrFun (congrArg Frame.handlers frame) button
    show (cuiSettingsPopup w.state selectedPath service).1.handlers button = _
    rw [popup, servicePropertySetCb_handlers, fresh, Nat.zero_add]
    rfl
  | cancel shown =>
    exact (congrFun (congrArg Frame.handlers (settingsCancelCallback_frame w.state)) button).trans before
  | ok shown =>
    have frame := setPropertyChangedCallback_frame w.state (some .servicePropertySetCb)
    exact (congrFun (congrArg Frame.handlers frame) button).trans before
  | pick shown =>
    exact (congrFun (congrArg Frame.handlers (toggleButton_frame w.state _)) button).trans before
  | typed shown =>
    exact (congrFun (congrArg Frame.handlers (keyReleased_frame w.state _ _)) button).trans before
  | click shown =>
    show (setButtonToggle w.state _ _).1.handlers button = w.ghost
    rw [setButtonToggle_state]
    exact before
  | changed cb =>
    show (updateHeader w.state _).1.handlers button = w.ghost + _
    rw [updateHeader_handlers, before]
  | set cb =>
    show (servicePropertySetCb w.state true _).1.handlers button = w.ghost + _
    rw [servicePropertySetCb_handlers, before]
  | error cb =>
    show (servicePropertySetCb w.state false _).1.handlers button = w.ghost + _
    rw [servicePropertySetCb_handlers, before]

/-- An update of the header asks for nothing if and only if the step is
settled. -/
theorem updateHeader_settled {w : Watched State Nat} (counted : Counted w) (service : Record) :
    (updateHeader w.state service).2 = [] ↔ Settled w (.propertyChanged service) := by
  rw [updateHeader_requests, counted, counted, Settled]
  cases w.state.pressed .serviceFavorite <;> cases service (.updatable .favorite) <;> simp <;> tauto

theorem asksOnce_step {w w' : Watched State Nat} {e : Event} (counted : Counted w)
    (ran : watchFavorite w e = some w') : AsksOnce w e ↔ Settled w e := by
  obtain ⟨out, acted, rfl⟩ := watch_eq_some ran
  simp only [AsksOnce, acted, Option.some.injEq, forall_eq']
  cases act_does acted with
  | popup closed =>
    next selectedPath service =>
    obtain ⟨opened, popup, frame, -⟩ := cuiSettingsPopup_eq w.state selectedPath service
    have fresh : ∀ button, opened.handlers button = 0 := congrFun (congrArg Frame.handlers frame)
    refine iff_of_true ?_ trivial
    rw [popup]
    exact (updateHeader_requests opened _).mpr ⟨.inr (fresh _), .inr (.inr (fresh _))⟩
  | cancel shown | ok shown | pick shown | typed shown => exact iff_of_true trivial trivial
  | click shown =>
    next button =>
    cases button with
    | serviceAutoconnect =>
      show (setButtonToggle _ _ _).2 = _ ↔ w.ghost = 1
      rw [click_requests, counted]
      simp [Button.toggled, autoconnectButtonToggled, replicate_eq_singleton]
    | serviceFavorite =>
      show (setButtonToggle _ _ _).2 = _ ↔ (_ → w.ghost = 1)
      rw [click_requests, counted]
      cases pressed : w.state.pressed .serviceFavorite <;>
        simp [Button.toggled, favoriteButtonToggled, replicate_eq_singleton]
  | changed cb | set cb | error cb => exact updateHeader_settled counted _

/-- In every run of the dialog, the buttons of the header ask once, and only
when the user clicks them, if and only if every step is settled. -/
theorem asksOnce_iff (events : List Event) :
    AllSteps watchFavorite AsksOnce ⟨{}, 0⟩ events ↔ AllSteps watchFavorite Settled ⟨{}, 0⟩ events :=
  AllSteps.iff (I := Counted) (fun _ _ _ counted ran => asksOnce_step counted ran)
    (fun _ _ _ counted ran _ _ => counted_step counted ran) (fun _ => rfl) events

/-- What a service is displayed with. -/
def header (autoconnect favorite : Bool) : Record :=
  Function.update (Function.update default (.updatable .autoconnect) autoconnect)
    (.updatable .favorite) favorite

/-- The dialog of a favorite service turns AutoConnect back on when ConnMan says
that it is off. -/
theorem not_always_asksOnce : ¬ ∀ events, AllSteps watchFavorite AsksOnce ⟨{}, 0⟩ events := by
  intro always
  have asked := AllSteps.last [.popup "/net/connman/service/ethernet" (some (header true true))]
    (.propertyChanged (header false true)) (always _) rfl rfl
  have silent := asked _ rfl
  revert silent
  decide

/-! ## The methods -/

/-- What an observer of the radio groups notes: the variables as the last
opening found them, and the groups whose active button has changed since. -/
structure Opening where
  kept : Group → Option String := fun _ => none
  moved : Group → Bool := fun _ => false

def noteMoves (s : State) (e : Event) (out : State × List Request) (opening : Opening) : Opening :=
  match e with
  | .popup _ _ => { kept := s.method, moved := fun g => decide (out.1.active g ≠ Radio.first g) }
  | _ => { opening with moved := fun g => opening.moved g || decide (out.1.active g ≠ s.active g) }

abbrev watchMoves := watch act noteMoves

/-- The string `get_*_configuration` sends for a group. -/
def State.sends (s : State) : Group → Option String
  | .ipv4Method => (getIpv4Configuration s).method
  | .ipv6Method => (getIpv6Configuration s).method
  | .ipv6Privacy => (getIpv6Configuration s).privacy
  | .proxyMethod => (getProxyConfiguration s).method

/-- When OK is pressed, the variable of each group names the active button, and
so does what is sent. -/
def SendsShown (w : Watched State Opening) (e : Event) : Prop :=
  match e with
  | .ok => ∀ g, w.state.method g = some (w.state.active g).name ∧
      w.state.sends g = some (w.state.active g).name
  | _ => True

/-- When OK is pressed, the active button of each group has changed since the
dialog was opened, or the variable named the first one already. -/
def Named (w : Watched State Opening) (e : Event) : Prop :=
  match e with
  | .ok => ∀ g, w.ghost.moved g = true ∨ w.ghost.kept g = some (Radio.first g).name
  | _ => True

theorem sends_eq (s : State) (g : Group) : s.sends g = s.method g := by
  cases g <;> rfl

/-- A choice stays, or another button becomes active and is stored. -/
def Follows {g : Group} (old new : Radio g × Option String) : Prop :=
  new = old ∨ new.1 ≠ old.1 ∧ new.2 = some new.1.name

theorem follows_press (old : Radio g × Option String) (button : Radio g) :
    Follows old (button, if old.1 = button then old.2 else some button.name) := by
  by_cases same : old.1 = button
  · exact .inl (by rw [if_pos same, ← same])
  · exact .inr ⟨fun back => same back.symm, if_neg same⟩

theorem toggleButton_follows {h : Group} (s : State) (button : Radio h) (g : Group) :
    Follows (s.choices g) ((toggleButton s button).choices g) := by
  rw [toggleButton_choices]
  by_cases same : g = h
  · subst same
    rw [press_self]
    exact follows_press (s.choices g) button
  · exact .inl (press_other s.choices button same)

theorem servicePropertySetCb_follows (s : State) (named : Bool) (service : Record) (g : Group) :
    Follows (s.choices g) ((servicePropertySetCb s named service).1.choices g) := by
  rw [servicePropertySetCb_choices]
  cases buttonOf service g with
  | none => exact .inl rfl
  | some button => exact follows_press (s.choices g) button

/-- What every event but an opening makes of the choices. -/
theorem act_follows {e : Event} {out : State × List Request} (acted : act s e = some out)
    (stays : ∀ selectedPath service, e ≠ .popup selectedPath service) (g : Group) :
    Follows (s.choices g) (out.1.choices g) := by
  cases act_does acted with
  | popup closed => exact absurd rfl (stays _ _)
  | cancel shown =>
    refine .inl ?_
    simp only [settingsCancelCallback, setPropertyChangedCallback, setPropertyErrorCallback]
    split_ifs <;> rfl
  | ok shown =>
    refine .inl ?_
    simp only [settingsOkCallback, setPropertyChangedCallback]
    split_ifs <;> rfl
  | pick shown => exact toggleButton_follows s _ g
  | typed shown =>
    refine .inl ?_
    simp only [keyReleased]
    split <;> rfl
  | click shown =>
    rw [setButtonToggle_state]
    exact .inl rfl
  | changed cb =>
    obtain ⟨pressed, sensitive, handlers, header⟩ := updateHeader_state s _
    rw [header]
    exact .inl rfl
  | set cb | error cb => exact servicePropertySetCb_follows s _ _ g

/-- A choice that has not moved since the opening, or names its button. -/
def ChosenAs {g : Group} (kept : Option String) (moved : Bool) (choice : Radio g × Option String) : Prop :=
  if moved then choice.2 = some choice.1.name else choice = (Radio.first g, kept)

theorem ChosenAs.follows {g : Group} {kept : Option String} {moved : Bool}
    {old new : Radio g × Option String} (chosen : ChosenAs kept moved old) (follows : Follows old new) :
    ChosenAs kept (moved || decide (new.1 ≠ old.1)) new := by
  rcases follows with rfl | ⟨moves, named⟩
  · simpa using chosen
  · simpa [ChosenAs, moves] using named

/-- Each group's choice is that of the opening, or was named when it moved. -/
def Chosen (w : Watched State Opening) : Prop :=
  ∀ g, ChosenAs (w.ghost.kept g) (w.ghost.moved g) (w.state.choices g)

theorem chosen_boot : Chosen ⟨{}, {}⟩ := fun _ => rfl

theorem chosen_step {w w' : Watched State Opening} {e : Event} (chosen : Chosen w)
    (ran : watchMoves w e = some w') : Chosen w' := by
  obtain ⟨out, acted, rfl⟩ := watch_eq_some ran
  intro g
  cases e with
  | popup selectedPath service =>
    obtain ⟨opened, popup, -, choices⟩ := cuiSettingsPopup_eq w.state selectedPath service
    have fresh : ChosenAs (w.state.method g) false (opened.choices g) := congrFun choices g
    have follows := servicePropertySetCb_follows opened false (service.getD default) g
    rw [← popup] at follows
    cases act_does acted
    have done := fresh.follows follows
    rw [choices] at done
    exact done
  | _ => exact (chosen g).follows (act_follows acted (by simp) g)

theorem sendsShown_step {w : Watched State Opening} (chosen : Chosen w) (e : Event) :
    SendsShown w e ↔ Named w e := by
  cases e with
  | ok =>
    refine forall_congr' fun g => ?_
    have choice := chosen g
    rw [sends_eq, and_self]
    cases moved : w.ghost.moved g with
    | true =>
      rw [moved] at choice
      exact iff_of_true choice (.inl rfl)
    | false =>
      rw [moved] at choice
      obtain ⟨active, method⟩ := Prod.mk.inj choice
      rw [active, method]
      simp
  | _ => rfl

/-- In every run of the dialog, OK sends the methods that are shown if and only
if each of them was named when OK was pressed. -/
theorem sendsShown_iff (events : List Event) :
    AllSteps watchMoves SendsShown ⟨{}, {}⟩ events ↔ AllSteps watchMoves Named ⟨{}, {}⟩ events :=
  AllSteps.iff (I := Chosen) (fun _ e _ chosen _ => sendsShown_step chosen e)
    (fun _ _ _ chosen ran _ _ => chosen_step chosen ran) chosen_boot events

/-- The first dialog of all, on a service that uses DHCP: OK finds no method. -/
theorem not_always_sendsShown : ¬ ∀ events, AllSteps watchMoves SendsShown ⟨{}, {}⟩ events := by
  intro always
  let service : Record := Function.update default (.updatable .ipv4) (some { method := some "dhcp" })
  have sent := AllSteps.last [.popup "/net/connman/service/ethernet" (some service)] .ok (always _) rfl rfl
  exact absurd (sent .ipv4Method).1 (by decide)

/-! ## The edits -/

/-- The section an entry belongs to. -/
def Entry.section : Entry → Section
  | .ipv4ConfAddress | .ipv4ConfNetmask | .ipv4ConfGateway => .ipv4
  | .ipv6ConfAddress | .ipv6ConfPrefixLength | .ipv6ConfGateway => .ipv6
  | .nameserversConf => .nameservers
  | .domainsConf => .domains
  | .proxyConfUrl | .proxyConfServers | .proxyConfExcludes => .proxy
  | .timeserversConf => .timeservers

/-- The section whose flag an edit of the user sets. -/
def flagged (s : State) : Event → Option Section
  | .pick (g := g) button => if s.active g = button then none else some g.section
  | .typed entry _ => entrySignals.lookup entry.id
  | _ => none

/-- What an observer of the edits notes: the sections edited since their setter
was last called with what they show, and whether there was an edit since OK was
last pressed. -/
structure Edits where
  unsent : Section → Bool := fun _ => false
  edited : Bool := false

def noteEdits (s : State) (e : Event) (out : State × List Request) (edits : Edits) : Edits :=
  match e with
  | .popup _ _ => {}
  | _ =>
    { unsent := fun x => decide (flagged s e = some x) || edits.unsent x && decide (x.request s ∉ out.2)
      edited := match e with
        | .ok => false
        | _ => edits.edited || (flagged s e).isSome }

abbrev watchEdits := watch act noteEdits

/-- While the dialog stays open: OK calls the setter of every section that is
flagged, and a flag is reset, or an entry overwritten, only where the setter has
been called since the last edit. -/
def Unlost (w : Watched State Edits) (e : Event) : Prop :=
  ∀ out, act w.state e = some out → w.state.shown = true → out.1.shown = true →
    (e = .ok → ∀ x, w.state.changed x = true → x.request w.state ∈ out.2) ∧
    (∀ x, w.state.changed x = true → out.1.changed x = false → w.ghost.unsent x = false) ∧
    ∀ entry, (∀ text, e ≠ .typed entry text) → out.1.text entry ≠ w.state.text entry →
      w.ghost.unsent entry.section = false

/-- OK is pressed with one section flagged at most, and what resets the dialog
(an error reply, or a notification while OK's callback is registered) comes
before any further edit. -/
def Careful (w : Watched State Edits) (e : Event) : Prop :=
  match e with
  | .ok => ∀ x y, w.state.changed x = true → w.state.changed y = true → x = y
  | .propertyChanged _ => w.state.changedCb = some .servicePropertySetCb → w.ghost.edited = false
  | .propertyError _ => w.ghost.edited = false
  | _ => True

/-- The events that reset every flag. -/
def Resets (s : State) : Event → Prop
  | .popup _ _ => True
  | .propertyChanged _ => s.changedCb = some .servicePropertySetCb
  | .propertyError _ => True
  | _ => False

/-- An event that does not reset the flags sets at most the one of the section
edited, and leaves the entries to the user. -/
structure Edited (s : State) (e : Event) (t : State) : Prop where
  changed : ∀ x, t.changed x = (s.changed x || decide (flagged s e = some x))
  text : ∀ entry, (∀ text, e ≠ .typed entry text) → t.text entry = s.text entry

theorem toggleButton_edited {g : Group} (s : State) (button : Radio g) :
    Edited s (.pick button) (toggleButton s button) := by
  rcases toggleButton_state s button with ⟨same, kept⟩ | ⟨differs, sensitive, toggled⟩
  · rw [kept]
    exact ⟨fun x => by simp [flagged, same], fun _ _ => rfl⟩
  · rw [toggled]
    refine ⟨fun x => ?_, fun _ _ => rfl⟩
    by_cases here : x = g.section
    · subst here
      simp [flagged, differs]
    · simp [flagged, differs, here, Ne.symm here]

theorem keyReleased_edited (s : State) (entry : Entry) (text : String) :
    Edited s (.typed entry text) (keyReleased s entry text) := by
  have elsewhere : ∀ other, (∀ text', Event.typed entry text ≠ .typed other text') → other ≠ entry := by
    rintro other not rfl
    exact not text rfl
  unfold keyReleased
  dsimp only
  split
  · next deaf => exact ⟨fun x => by simp [flagged, deaf], fun other not => by simp [elsewhere other not]⟩
  · next y heard =>
    refine ⟨fun x => ?_, fun other not => by simp [elsewhere other not]⟩
    by_cases here : x = y
    · subst here
      simp [flagged, heard]
    · simp [flagged, heard, here, Ne.symm here]

theorem act_edits {e : Event} {out : State × List Request} (acted : act s e = some out) :
    Resets s e ∧ (∀ x, out.1.changed x = false) ∨ ¬Resets s e ∧ Edited s e out.1 := by
  cases act_does acted with
  | popup closed => exact .inl ⟨trivial, fun x => servicePropertySetCb_changed _ _ _ x⟩
  | cancel shown =>
    refine .inr ⟨id, ?_⟩
    simp only [settingsCancelCallback, setPropertyChangedCallback, setPropertyErrorCallback]
    split_ifs <;> exact ⟨fun x => by simp [flagged], fun _ _ => rfl⟩
  | ok shown =>
    refine .inr ⟨id, ?_⟩
    simp only [settingsOkCallback, setPropertyChangedCallback]
    split_ifs <;> exact ⟨fun x => by simp [flagged], fun _ _ => rfl⟩
  | pick shown => exact .inr ⟨id, toggleButton_edited s _⟩
  | typed shown => exact .inr ⟨id, keyReleased_edited s _ _⟩
  | click shown =>
    refine .inr ⟨id, ?_⟩
    rw [setButtonToggle_state]
    exact ⟨fun x => by simp [flagged], fun _ _ => rfl⟩
  | changed cb =>
    obtain ⟨pressed, sensitive, handlers, header⟩ := updateHeader_state s _
    refine .inr ⟨fun resets => ?_, ?_⟩
    · rw [Resets, cb] at resets
      cases resets
    · rw [header]
      exact ⟨fun x => by simp [flagged], fun _ _ => rfl⟩
  | set cb => exact .inl ⟨cb, fun x => servicePropertySetCb_changed _ _ _ x⟩
  | error cb => exact .inl ⟨trivial, fun x => servicePropertySetCb_changed _ _ _ x⟩

/-- Only OK calls the setters of the sections. -/
theorem act_requests {e : Event} {out : State × List Request} (acted : act s e = some out) (x : Section)
    (sent : x.request s ∈ out.2) : e = .ok := by
  cases act_does acted with
  | ok shown => rfl
  | popup closed => exact absurd sent (request_not_updateHeader _ s _ x)
  | cancel shown | pick shown | typed shown => cases sent
  | click shown => exact absurd sent (request_not_setButtonToggle s s x _ _)
  | changed cb | set cb | error cb => exact absurd sent (request_not_updateHeader s s _ x)

/-- The callbacks are there only while the dialog is, and its service. -/
def Frame.Registered (f : Frame) : Prop :=
  f.changedCb ≠ none ∨ f.errorCb = true → f.shown = true ∧ f.known = true

theorem act_registered {e : Event} {out : State × List Request} (acted : act s e = some out)
    (registered : s.frame.Registered) : out.1.frame.Registered := by
  cases act_does acted with
  | popup closed =>
    next selectedPath service =>
    have silent : s.changedCb = none ∧ s.errorCb = false := by
      by_contra set
      have set : s.frame.changedCb ≠ none ∨ s.frame.errorCb = true := by
        simpa [State.frame, imp_iff_not_or] using set
      exact absurd closed (by simp [show s.shown = true from (registered set).1])
    obtain ⟨opened, popup, frame, -⟩ := cuiSettingsPopup_eq s selectedPath service
    obtain ⟨pressed, sensitive, handlers, header⟩ := updateHeader_state opened (service.getD default)
    have known : opened.known = service.isSome := congrArg Frame.known frame
    have shown : opened.shown = true := congrArg Frame.shown frame
    have changedCb : opened.changedCb = _ := congrArg Frame.changedCb frame
    have errorCb : opened.errorCb = (service.isSome || s.errorCb) := congrArg Frame.errorCb frame
    rw [popup, servicePropertySetCb_frame, header]
    cases service with
    | some service => exact fun _ => ⟨shown, known⟩
    | none =>
      rintro (set | set)
      · exact absurd (changedCb.trans silent.1) set
      · exact absurd (errorCb.symm.trans set) (by simp [silent.2])
  | cancel shown =>
    rw [settingsCancelCallback_frame]
    cases known : s.known with
    | true => simp [Frame.Registered]
    | false =>
      intro set
      exact absurd (registered set).2 (by simp [State.frame, known])
  | ok shown =>
    show (setPropertyChangedCallback s _).frame.Registered
    rw [setPropertyChangedCallback_frame]
    cases known : s.frame.known with
    | true => exact fun _ => ⟨shown, known⟩
    | false => exact registered
  | pick shown =>
    rw [toggleButton_frame]
    exact registered
  | typed shown =>
    rw [keyReleased_frame]
    exact registered
  | click shown =>
    rw [setButtonToggle_state]
    exact registered
  | changed cb =>
    obtain ⟨pressed, sensitive, handlers, header⟩ := updateHeader_state s _
    rw [header]
    exact registered
  | set cb =>
    obtain ⟨pressed, sensitive, handlers, header⟩ := updateHeader_state s _
    rw [servicePropertySetCb_frame, header]
    exact fun _ => registered (.inl (by simp [State.frame, cb]))
  | error cb =>
    obtain ⟨pressed, sensitive, handlers, header⟩ := updateHeader_state s _
    rw [servicePropertySetCb_frame, header]
    exact fun _ => registered (.inr cb)

/-- What the notes and the flags have to do with each other, and the callbacks
with the dialog. -/
structure Tracked (w : Watched State Edits) : Prop where
  flagged : ∀ x, w.ghost.unsent x = true → w.state.changed x = true
  edited : w.ghost.edited = true ↔ ∃ x, w.ghost.unsent x = true
  registered : w.state.frame.Registered

/-- The order in which `settings_ok_callback` looks at the flags. -/
def Section.order : List Section := [.ipv4, .ipv6, .proxy, .nameservers, .domains, .timeservers]

theorem Section.mem_order (x : Section) : x ∈ order := by
  cases x <;> decide

/-- OK calls the setter of the first section that is flagged. -/
theorem settingsOkCallback_requests (s : State) :
    (settingsOkCallback s).2 = ((Section.order.find? s.changed).map (·.request s)).toList := by
  have same : setPropertyChangedCallback s (some .servicePropertySetCb) =
      { s with changedCb := (setPropertyChangedCallback s (some .servicePropertySetCb)).changedCb } := by
    unfold setPropertyChangedCallback
    split <;> rfl
  simp only [settingsOkCallback]
  rw [same]
  simp only [Section.order, List.find?_cons, List.find?_nil]
  cases s.changed .ipv4 <;> cases s.changed .ipv6 <;> cases s.changed .proxy <;>
    cases s.changed .nameservers <;> cases s.changed .domains <;> cases s.changed .timeservers <;> rfl

theorem request_inj {x y : Section} (same : x.request s = y.request s) : x = y := by
  cases x <;> cases y <;> first | rfl | cases same

/-- OK calls every setter it should if and only if one section at most is
flagged. -/
theorem settingsOkCallback_complete (s : State) :
    (∀ x, s.changed x = true → x.request s ∈ (settingsOkCallback s).2) ↔
      ∀ x y, s.changed x = true → s.changed y = true → x = y := by
  rw [settingsOkCallback_requests]
  cases found : Section.order.find? s.changed with
  | none =>
    have none_ : ∀ x, ¬s.changed x = true := fun x =>
      List.find?_eq_none.mp found x x.mem_order
    exact iff_of_true (fun x set => absurd set (none_ x)) (fun x _ set => absurd set (none_ x))
  | some first =>
    have set : s.changed first = true := List.find?_some found
    simp only [Option.map_some, Option.toList_some, List.mem_singleton]
    constructor
    · intro called x y setX setY
      exact (request_inj (called x setX)).trans (request_inj (called y setY)).symm
    · intro one x setX
      rw [one x first setX set]

/-- The notes of an event that neither resets nor sends. -/
theorem noteEdits_edit {e : Event} {out : State × List Request} (acted : act s e = some out)
    (keeps : ¬Resets s e) (ok : e ≠ .ok) (edits : Edits) :
    noteEdits s e out edits =
      { unsent := fun x => decide (flagged s e = some x) || edits.unsent x
        edited := edits.edited || (flagged s e).isSome } := by
  have unsent : ∀ x, (edits.unsent x && decide (x.request s ∉ out.2)) = edits.unsent x := by
    intro x
    have kept : x.request s ∉ out.2 := fun sent => ok (act_requests acted x sent)
    rw [decide_eq_true kept, Bool.and_true]
  cases e with
  | popup selectedPath service => exact absurd trivial keeps
  | ok => exact absurd rfl ok
  | _ => simp only [noteEdits, unsent]

/-- Nothing is unsent where nothing was edited. -/
theorem Tracked.sent {w : Watched State Edits} (tracked : Tracked w) (quiet : w.ghost.edited = false)
    (x : Section) : w.ghost.unsent x = false := by
  cases unsent : w.ghost.unsent x with
  | false => rfl
  | true => exact absurd (tracked.edited.mpr ⟨x, unsent⟩) (by simp [quiet])

/-- A reset loses nothing if and only if there was no edit since OK. -/
theorem Tracked.reset_iff {w : Watched State Edits} (tracked : Tracked w) {e : Event}
    {out : State × List Request} (acted : act w.state e = some out) (reset : ∀ x, out.1.changed x = false)
    (shown : w.state.shown = true) (shown' : out.1.shown = true) (notOk : e ≠ .ok) :
    Unlost w e ↔ w.ghost.edited = false := by
  constructor
  · intro unlost
    cases edited : w.ghost.edited with
    | false => rfl
    | true =>
      obtain ⟨x, unsent⟩ := tracked.edited.mp edited
      have lost := (unlost out acted shown shown').2.1 x (tracked.flagged x unsent) (reset x)
      exact absurd unsent (by simp [lost])
  · intro quiet out' acted' _ _
    exact ⟨fun ok => absurd ok notOk, fun x _ _ => tracked.sent quiet x, fun entry _ _ => tracked.sent quiet _⟩

theorem servicePropertySetCb_shown (s : State) (named : Bool) (service : Record) :
    (servicePropertySetCb s named service).1.shown = s.shown := by
  obtain ⟨pressed, sensitive, handlers, header⟩ := updateHeader_state s service
  have frame := congrArg Frame.shown (servicePropertySetCb_frame s named service)
  rw [header] at frame
  exact frame

/-- An event that resets nothing loses nothing, if it sends what it should. -/
theorem unlost_of_edited {w : Watched State Edits} {e : Event} {out : State × List Request}
    (acted : act w.state e = some out) (edited : Edited w.state e out.1)
    (sends : e = .ok → ∀ x, w.state.changed x = true → x.request w.state ∈ out.2) : Unlost w e := by
  intro out' acted' _ _
  cases acted.symm.trans acted'
  refine ⟨sends, fun x set unset => ?_, fun entry not moved => ?_⟩
  · rw [edited.changed x, set, Bool.true_or] at unset
    cases unset
  · exact absurd (edited.text entry not) moved

theorem unlost_step {w w' : Watched State Edits} {e : Event} (tracked : Tracked w)
    (ran : watchEdits w e = some w') : Unlost w e ↔ Careful w e := by
  obtain ⟨out, acted, rfl⟩ := watch_eq_some ran
  rcases act_edits acted with ⟨resets, reset⟩ | ⟨keeps, edited⟩
  · cases act_does acted with
    | popup closed =>
      exact iff_of_true (fun _ _ shown => absurd shown (by simp [closed])) trivial
    | set cb =>
      have shown := (tracked.registered (.inl (by simp [State.frame, cb]))).1
      have iff := tracked.reset_iff acted reset shown ((servicePropertySetCb_shown _ _ _).trans shown) (by simp)
      exact iff.trans ⟨fun quiet _ => quiet, fun quiet => quiet cb⟩
    | error cb =>
      have shown := (tracked.registered (.inr cb)).1
      exact tracked.reset_iff acted reset shown ((servicePropertySetCb_shown _ _ _).trans shown) (by simp)
    | changed cb => exact absurd (cb.symm.trans resets) (by simp)
    | _ => exact resets.elim
  · cases act_does acted with
    | ok shown =>
      have shown' := congrArg Frame.shown (setPropertyChangedCallback_frame w.state (some .servicePropertySetCb))
      constructor
      · intro unlost
        exact (settingsOkCallback_complete w.state).mp ((unlost _ acted shown (shown'.trans shown)).1 rfl)
      · intro one
        exact unlost_of_edited acted edited fun _ => (settingsOkCallback_complete w.state).mpr one
    | popup closed => exact absurd trivial keeps
    | set cb => exact absurd cb keeps
    | error cb => exact absurd trivial keeps
    | changed cb =>
      exact iff_of_true (unlost_of_edited acted edited (by simp)) fun set => absurd (cb.symm.trans set) (by simp)
    | _ => exact iff_of_true (unlost_of_edited acted edited (by simp)) trivial

theorem tracked_step {w w' : Watched State Edits} {e : Event} (tracked : Tracked w)
    (ran : watchEdits w e = some w') (careful : Careful w e) : Tracked w' := by
  obtain ⟨out, acted, rfl⟩ := watch_eq_some ran
  have registered := act_registered acted tracked.registered
  rcases act_edits acted with ⟨resets, reset⟩ | ⟨keeps, edited⟩
  · cases act_does acted with
    | popup closed => exact ⟨by simp [noteEdits], by simp [noteEdits], registered⟩
    | set cb =>
      have quiet := careful cb
      have sent := tracked.sent quiet
      exact ⟨by simp [noteEdits, flagged, sent], by simp [noteEdits, flagged, sent, quiet], registered⟩
    | error cb =>
      have quiet : w.ghost.edited = false := careful
      have sent := tracked.sent quiet
      exact ⟨by simp [noteEdits, flagged, sent], by simp [noteEdits, flagged, sent, quiet], registered⟩
    | changed cb => exact absurd (cb.symm.trans resets) (by simp)
    | _ => exact resets.elim
  · by_cases ok : e = .ok
    · subst ok
      cases act_does acted
      have sends := (settingsOkCallback_complete w.state).mpr careful
      have sent : ∀ x, ¬(noteEdits w.state .ok (settingsOkCallback w.state) w.ghost).unsent x = true := by
        intro x unsent
        simp only [noteEdits, flagged, reduceCtorEq, decide_false, Bool.false_or, Bool.and_eq_true,
          decide_eq_true_eq] at unsent
        exact unsent.2 (sends x (tracked.flagged x unsent.1))
      exact ⟨fun x unsent => absurd unsent (sent x),
        iff_of_false Bool.false_ne_true fun ⟨x, unsent⟩ => sent x unsent, registered⟩
    · have noted := noteEdits_edit acted keeps ok w.ghost
      refine ⟨fun x unsent => ?_, ?_, registered⟩
      · rw [noted, Bool.or_eq_true, decide_eq_true_eq] at unsent
        rw [edited.changed x, Bool.or_eq_true, decide_eq_true_eq]
        exact unsent.symm.imp_left (tracked.flagged x)
      · rw [noted]
        simp only [Bool.or_eq_true, decide_eq_true_eq, exists_or, ← tracked.edited, Option.isSome_iff_exists]
        exact or_comm

/-- In every run of the dialog, no edit is lost if and only if every step is
careful. -/
theorem unlost_iff (events : List Event) :
    AllSteps watchEdits Unlost ⟨{}, {}⟩ events ↔ AllSteps watchEdits Careful ⟨{}, {}⟩ events :=
  AllSteps.iff (I := Tracked) (fun _ _ _ tracked ran => unlost_step tracked ran)
    (fun _ _ _ tracked ran _ careful => tracked_step tracked ran careful)
    ⟨by simp, by simp, by simp [Frame.Registered, State.frame]⟩ events

/-- Two sections are edited and OK is pressed: the second is not sent. -/
theorem not_always_unlost : ¬ ∀ events, AllSteps watchEdits Unlost ⟨{}, {}⟩ events := by
  intro always
  have kept := AllSteps.last [.popup "/net/connman/service/ethernet" (some default),
    .typed .nameserversConf "192.0.2.1", .typed .domainsConf "example"] .ok (always _) rfl rfl
  exact absurd ((kept _ rfl rfl rfl).1 rfl .domains rfl) (by decide)

/-- The handler of the timeservers is connected to no entry of `settings.ui`. -/
theorem flagged_ne_timeservers (s : State) (e : Event) : flagged s e ≠ some .timeservers := by
  cases e with
  | pick button =>
    simp only [flagged]
    split
    · simp
    · cases button <;> simp [Group.section]
  | typed entry text =>
    show entrySignals.lookup entry.id ≠ some .timeservers
    cases entry <;> decide
  | _ => simp [flagged]

/-- So no edit of them is ever sent: their flag stays as the program starts with
it. -/
theorem timeservers_unflagged (reached : Reaches step Always Boot s) : s.changed .timeservers = false := by
  refine reached.invariant (I := fun s => s.changed .timeservers = false) ?_ ?_
  · rintro s rfl
    rfl
  · intro s e s' unset _ ran
    obtain ⟨out, acted, rfl⟩ := Option.map_eq_some_iff.mp ran
    rcases act_edits acted with ⟨-, reset⟩ | ⟨-, edited⟩
    · exact reset _
    · rw [edited.changed, unset, decide_eq_false (flagged_ne_timeservers s e), Bool.false_or]

end ConnmanUi.Settings
