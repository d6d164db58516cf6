import ConnmanUi.RegistryNotices
import ConnmanUi.ServiceOwnership
import ConnmanUi.TechnologySteps

/-!
The timers of both modules.

Update timers are booked exactly, and every change is passed on, in all runs
that do not select a service over another (`update_timers`).  Error timers are
not: `set_property_cb` leaves `property->index` zero, so the timer of any
property but the first empties the wrong slot when it is destroyed
(`not_always_booked`).  `error_timers` says which steps go well.
-/

namespace ConnmanUi

open Registry Run

section Empty

variable {ι ρ : Type}
  {sources : HandleSupply} (calls scans watches : HandleSupply)

theorem empty_exact [DecidableEq ι] [PropertyIndex ι] [Inhabited ρ] (k : TimerSlot ι) :
    Exact (Registry.empty sources calls scans watches : Registry ι ρ) k := by
  refine ⟨fun _ used => ?_, fun _ _ _ found => by cases found⟩
  cases k <;> exact absurd rfl used

theorem empty_recorded [PropertyIndex ι] [Inhabited ρ] (numbers : sources.Numbers) :
    Recorded (Registry.empty sources calls scans watches : Registry ι ρ) where
  numbers := numbers
  records := ⟨fun k used => by cases k <;> exact absurd rfl used, fun _ _ found => by cases found⟩
  formed := fun _ _ found => by cases found
  empty := fun _ _ _ => ⟨rfl, rfl⟩

theorem empty_timed [DecidableEq ι] [PropertyIndex ι] [Inhabited ρ] (numbers : sources.Numbers) :
    Timed (Registry.empty sources calls scans watches : Registry ι ρ) where
  held := empty_held sources calls scans watches
  recorded := empty_recorded calls scans watches numbers
  updates := fun o i => empty_exact calls scans watches (.update o i)

theorem empty_sound [DecidableEq ι] [PropertyIndex ι] [Inhabited ρ] (numbers : sources.Numbers) :
    Sound (Registry.empty sources calls scans watches : Registry ι ρ) where
  timed := empty_timed calls scans watches numbers
  errors := fun o i => empty_exact calls scans watches (.error o i)
  stray := rfl

theorem empty_announced [PropertyIndex ι] [Inhabited ρ]
    : Announced (Registry.empty sources calls scans watches : Registry ι ρ) :=
  ⟨nofun, fun o _ live => absurd live.1 (Nat.not_lt_zero o), nofun⟩

end Empty

/-! ## Services -/

namespace Service

variable {s s' : State} {e : Event} {guard : State → Event → Prop}

/-- The main loop numbers its sources. -/
def Start (s : State) : Prop := Boot s ∧ s.reg.sources.supply.Numbers

/-- `connman_service_select` is not called while another service is selected. -/
def Unchallenged (s : State) (e : Event) : Prop := ∀ o, s.reg.selected = some o → ¬ overwrites s o e

instance : Decidable (Unchallenged s e) :=
  inferInstanceAs (Decidable (∀ o ∈ s.reg.selected, ¬ overwrites s o e))

theorem Unchallenged.handover (unchallenged : Unchallenged s e) : Handover s e :=
  fun o sel chosen => absurd chosen (unchallenged o sel)

/-- Error timers go well in this step. -/
def ErrorsFine (s : State) (e : Event) : Prop := s.reg.ErrorsFine (act s e)

instance : Decidable (ErrorsFine s e) := inferInstanceAs (Decidable (s.reg.ErrorsFine _))

/-- All timers go well in this step. -/
def TimersFine (s : State) (e : Event) : Prop :=
  ErrorsFine s e ∧ s.reg.RefreshFine (act s e) ∧ Handover s e

instance : Decidable (TimersFine s e) := inferInstanceAs (Decidable (_ ∧ _ ∧ _))

/-- A step changes the registry, or leaves it alone, or selects a service. -/
theorem step_shape (owned : Owned s.reg) (ran : step s e = some s') :
    Change s.reg (act s e) s'.reg ∨ s'.reg = s.reg ∨ ∃ o, s'.reg = s.reg.select o := by
  by_cases selecting : ∃ path, e = .select path
  · obtain ⟨path, rfl⟩ := selecting
    right
    cases ran
    unfold connmanServiceSelect
    split
    · exact .inl rfl
    · exact .inr ⟨_, rfl⟩
  · exact .inl (step_change owned ran fun path eq => selecting ⟨path, eq⟩)

theorem select_sameTimers (r : Registry Property Record) (o : ObjId) : SameTimers r (r.select o) :=
  ⟨rfl, fun k => .inl (by cases k <;> rfl), rfl⟩

theorem Timed.step (timed : Timed s.reg) (owned : Owned s.reg) (handover : Handover s e)
    (ran : step s e = some s') : Timed s'.reg := by
  have held := held_step owned timed.held handover ran
  rcases step_shape owned ran with change | same | ⟨o, same⟩
  · exact timed.change owned change
  · rw [same]
    exact timed
  · rw [same] at held ⊢
    have kept := select_sameTimers s.reg o
    exact ⟨held, timed.recorded.same kept fun _ alive => alive, timed.updates.same kept⟩

theorem Announced.step (announced : Announced s.reg) (timed : Timed s.reg) (owned : Owned s.reg)
    (ran : step s e = some s') : Announced s'.reg := by
  rcases step_shape owned ran with change | same | ⟨o, same⟩
  · exact announced.change timed owned change
  · rw [same]
    exact announced
  · rw [same]
    exact ⟨announced.known, announced.told, announced.running⟩

theorem Recorded.step (recorded : Recorded s.reg) (owned : Owned s.reg) (ran : step s e = some s') :
    Recorded s'.reg := by
  rcases step_shape owned ran with change | same | ⟨o, same⟩
  · exact recorded.change owned change
  · rw [same]
    exact recorded
  · rw [same]
    exact recorded.same (select_sameTimers s.reg o) fun _ alive => alive

theorem Errors.step (errors : Errors s.reg) (recorded : Recorded s.reg) (owned : Owned s.reg)
    (fine : ErrorsFine s e) (ran : step s e = some s') : Errors s'.reg := by
  rcases step_shape owned ran with change | same | ⟨o, same⟩
  · exact errors.change recorded owned fine change
  · rw [same]
    exact errors
  · rw [same]
    exact errors.same (select_sameTimers s.reg o)

theorem Sound.step (sound : Sound s.reg) (owned : Owned s.reg) (fine : TimersFine s e)
    (ran : step s e = some s') : Sound s'.reg := by
  have timed := Timed.step sound.timed owned fine.2.2 ran
  rcases step_shape owned ran with change | same | ⟨o, same⟩
  · exact sound.change owned fine.1 fine.2.1 change
  · rw [same]
    exact sound
  · rw [same] at timed ⊢
    exact ⟨timed, sound.errors.same (select_sameTimers s.reg o), sound.stray⟩

theorem reaches_announced (reached : Reaches step Unchallenged Start s) :
    Owned s.reg ∧ Timed s.reg ∧ Announced s.reg := by
  refine reached.invariant (I := fun s => Owned s.reg ∧ Timed s.reg ∧ Announced s.reg)
    (fun s start => ?_) fun s e s' inv unchallenged ran => ?_
  · obtain ⟨⟨sources, calls, scans, watches, rfl⟩, numbers⟩ := start
    exact ⟨empty_owned sources calls scans watches, empty_timed calls scans watches numbers,
      empty_announced calls scans watches⟩
  · obtain ⟨owned, timed, announced⟩ := inv
    exact ⟨owned_step owned ran, Timed.step timed owned unchallenged.handover ran,
      Announced.step announced timed owned ran⟩

theorem reaches_recorded {guard : State → Event → Prop} (reached : Reaches step guard Start s) :
    Recorded s.reg := by
  refine (reached.invariant (I := fun s => Owned s.reg ∧ Recorded s.reg)
    (fun s start => ?_) fun s e s' inv _ ran => ?_).2
  · obtain ⟨⟨sources, calls, scans, watches, rfl⟩, numbers⟩ := start
    exact ⟨empty_owned sources calls scans watches, empty_recorded calls scans watches numbers⟩
  · exact ⟨owned_step inv.1 ran, Recorded.step inv.2 inv.1 ran⟩

theorem reaches_errors (reached : Reaches step ErrorsFine Start s) : ErrorsBooked s.reg := by
  have inv : Owned s.reg ∧ Recorded s.reg ∧ Errors s.reg := by
    refine reached.invariant (I := fun s => Owned s.reg ∧ Recorded s.reg ∧ Errors s.reg)
      (fun s start => ?_) fun s e s' inv fine ran => ?_
    · obtain ⟨⟨sources, calls, scans, watches, rfl⟩, numbers⟩ := start
      have sound : Sound (Registry.empty sources calls scans watches : Registry Property Record) :=
        empty_sound calls scans watches numbers
      exact ⟨empty_owned sources calls scans watches, sound.timed.recorded, sound.errors⟩
    · obtain ⟨owned, recorded, errors⟩ := inv
      exact ⟨owned_step owned ran, Recorded.step recorded owned ran,
        Errors.step errors recorded owned fine ran⟩
  exact inv.2.2.booked inv.2.1

theorem reaches_sound (reached : Reaches step TimersFine Start s) : Sound s.reg := by
  have inv : Owned s.reg ∧ Sound s.reg := by
    refine reached.invariant (I := fun s => Owned s.reg ∧ Sound s.reg)
      (fun s start => ?_) fun s e s' inv fine ran => ?_
    · obtain ⟨⟨sources, calls, scans, watches, rfl⟩, numbers⟩ := start
      exact ⟨empty_owned sources calls scans watches, empty_sound calls scans watches numbers⟩
    · exact ⟨owned_step inv.1 ran, Sound.step inv.2 inv.1 fine ran⟩
  exact inv.2

end Service

/-! ## Technologies -/

namespace Technology

variable {s s' : State} {e : Event}

/-- The main loop numbers its sources. -/
def Start (s : State) : Prop := Boot s ∧ s.reg.sources.supply.Numbers

/-- Error timers go well in this step. -/
def ErrorsFine (s : State) (e : Event) : Prop := s.reg.ErrorsFine (act e)

instance : Decidable (ErrorsFine s e) := inferInstanceAs (Decidable (s.reg.ErrorsFine _))

theorem reaches_announced (reached : Reaches step Always Start s) :
    Tidy s ∧ Timed s.reg ∧ Announced s.reg := by
  refine reached.invariant (I := fun s => Tidy s ∧ Timed s.reg ∧ Announced s.reg)
    (fun s start => ?_) fun s e s' inv _ ran => ?_
  · obtain ⟨boot, numbers⟩ := start
    refine ⟨boot_tidy boot, ?_⟩
    obtain ⟨sources, calls, scans, watches, rfl⟩ := boot
    exact ⟨empty_timed calls scans watches numbers, empty_announced calls scans watches⟩
  · obtain ⟨tidy, timed, announced⟩ := inv
    have change := step_change tidy ran
    exact ⟨tidy_step tidy ran, timed.change tidy.owned change, announced.change timed tidy.owned change⟩

theorem reaches_sound (reached : Reaches step ErrorsFine Start s) : Sound s.reg := by
  have inv : Tidy s ∧ Sound s.reg := by
    refine reached.invariant (I := fun s => Tidy s ∧ Sound s.reg)
      (fun s start => ?_) fun s e s' inv fine ran => ?_
    · obtain ⟨boot, numbers⟩ := start
      refine ⟨boot_tidy boot, ?_⟩
      obtain ⟨sources, calls, scans, watches, rfl⟩ := boot
      exact empty_sound calls scans watches numbers
    · have change := step_change inv.1 ran
      have unscheduled : s.reg.RefreshFine (act e) := by cases e <;> trivial
      exact ⟨tidy_step inv.1 ran, inv.2.change inv.1.owned fine unscheduled change⟩
  exact inv.2

theorem started_start : Start started := ⟨started_boot, HandleSupply.counting_numbers⟩

end Technology

/-! ## Update timers -/

namespace Manager

variable {s : State}

/-- A slot is nonzero exactly while one timer for its property is pending,
whose id it holds; and no timer outlives the manager. -/
structure SourcesBooked (s : State) : Prop where
  slot : ∀ i, s.source i ≠ 0 ↔ ∃! id, s.sources.find id = some i
  id : ∀ i id, s.sources.find id = some i → s.source i = id
  live : ∀ i id, s.sources.find id = some i → s.up = true

theorem Booked.sources (booked : Booked s) : SourcesBooked s := by
  have stored : ∀ i id, s.sources.find id = some i → s.source i = id :=
    fun i id found => booked.tracks.stored id i i found rfl
  refine ⟨fun i => ⟨fun used => ?_, ?_⟩, stored, fun i id found => booked.up_of_find found⟩
  · obtain ⟨j, found, own⟩ := booked.tracks.holds i used
    cases own
    exact ⟨s.source i, found, fun id there => (stored i id there).symm⟩
  · rintro ⟨id, found, _⟩
    rw [stored i id found]
    exact Pool.ne_zero_of_find found

end Manager

/-- Every update timer is booked in the slot of its object and property, dies
with its object, and passes every change on. -/
theorem update_timers (s : Service.State) (t : Technology.State) (m : Manager.State)
    (services : Reaches Service.step Service.Unchallenged Service.Start s)
    (technologies : Reaches Technology.step Always Technology.Start t)
    (manager : Reaches Manager.step Always Manager.Boot m) :
    UpdatesBooked s.reg ∧ UpdatesBooked t.reg ∧ Manager.SourcesBooked m := by
  obtain ⟨_, timed, announced⟩ := Service.reaches_announced services
  obtain ⟨_, timed', announced'⟩ := Technology.reaches_announced technologies
  exact ⟨announced.booked timed, announced'.booked timed', (Manager.reaches_booked manager).sources⟩

/-- A property of a service changes twice; the first change has been passed on. -/
def Service.noticed : List Service.Event :=
  Service.opening [("/a", [])] ++
    [.setPropertyChangedCallback "/a" (some 1), .propertyChanged 1 Service.zeroed "State" (.variant (.string "ready")),
      .timer 1, .timerDone, .propertyChanged 1 Service.zeroed "State" (.variant (.string "online"))]

def Service.afterNoticed : Service.State :=
  (play Service.step Service.Unchallenged Service.started Service.noticed).get (by decide +kernel)

/-- A property of a technology changes. -/
def Technology.noticed : List Technology.Event :=
  Technology.listing ++
    [.setPropertyChangedCallback "/t" (some 2), .propertyChanged 1 none "Powered" (.variant (.boolean true))]

def Technology.afterNoticed : Technology.State :=
  (play Technology.step Always Technology.started Technology.noticed).get (by decide +kernel)

/-- The manager's state changes. -/
def Manager.noticed : List Manager.Event :=
  [.init (some 3), .propertyChanged "State" (.variant (.string "idle"))]

def Manager.afterNoticed : Manager.State :=
  (play Manager.step Always { sources := .ofSupply .counting } Manager.noticed).get (by decide +kernel)

theorem update_timers_noticed :
    UpdatesBooked Service.afterNoticed.reg ∧ UpdatesBooked Technology.afterNoticed.reg ∧
      Manager.SourcesBooked Manager.afterNoticed := by
  have started : Service.Start Service.started := ⟨Service.started_boot, HandleSupply.counting_numbers⟩
  have manager : Manager.Boot { sources := .ofSupply .counting } := ⟨.counting, rfl⟩
  exact update_timers _ _ _
    ((Reaches.here started).play Service.noticed (Option.some_get _).symm)
    ((Reaches.here Technology.started_start).play Technology.noticed (Option.some_get _).symm)
    ((Reaches.here manager).play Manager.noticed (Option.some_get _).symm)

/-! ## Error timers -/

/-- Error timers are booked as long as none empties another property's slot;
and as long as no other timer is forgotten, every id removed names a timer of
the module. -/
theorem error_timers (s : Service.State) (t : Technology.State)
    (services : Reaches Service.step Service.ErrorsFine Service.Start s)
    (technologies : Reaches Technology.step Technology.ErrorsFine Technology.Start t) :
    ErrorsBooked s.reg ∧
      (Reaches Service.step Service.TimersFine Service.Start s → s.reg.stray = []) ∧
      ErrorsBooked t.reg ∧ t.reg.stray = [] := by
  have sound := Technology.reaches_sound technologies
  exact ⟨Service.reaches_errors services, fun careful => (Service.reaches_sound careful).stray,
    sound.errors.booked sound.timed.recorded, sound.stray⟩

/-- Tethering cannot be set, and the client is told. -/
def Technology.refused (setting : Technology.Setting) : List Technology.Event :=
  Technology.listing ++
    [.setPropertyErrorCallback "/t" (some 1), .set "/t" setting .sent, .setPropertyReply 1 true,
      .timer 1, .timerDone]

def Technology.afterRefused : Technology.State :=
  (play Technology.step Always Technology.started (Technology.refused (.tether true))).get (by decide +kernel)

/-- The slot of Tethering keeps the id of a timer that is gone. -/
theorem not_always_booked : ¬ ∀ t, Reaches Technology.step Always Technology.Start t → ErrorsBooked t.reg := by
  intro always
  have booked := always Technology.afterRefused
    ((Reaches.here Technology.started_start).play _ (Option.some_get _).symm)
  have gone : Technology.afterRefused.reg.sources.live = [] := by decide +kernel
  obtain ⟨id, c, found, _⟩ := (booked.slot 0 .tethering).mp (by decide +kernel)
  rw [Pool.find, gone] at found
  cases found

/-- Powered cannot be set. -/
def Technology.afterPowered : Technology.State :=
  (play Technology.step Technology.ErrorsFine Technology.started (Technology.refused (.enable true))).get
    (by decide +kernel)

/-- Autoconnect cannot be set; the client has yet to be told. -/
def Service.refused : List Service.Event :=
  Service.opening [("/a", [])] ++
    [.setPropertyErrorCallback "/a" (some 1), .set "/a" (.autoconnectable true) .sent,
      .setPropertyReply 1 true]

def Service.afterRefused : Service.State :=
  (play Service.step Service.TimersFine Service.started Service.refused).get (by decide +kernel)

theorem error_timers_refused :
    ErrorsBooked Service.afterRefused.reg ∧ Service.afterRefused.reg.stray = [] ∧
      ErrorsBooked Technology.afterPowered.reg ∧ Technology.afterPowered.reg.stray = [] := by
  have started : Service.Start Service.started := ⟨Service.started_boot, HandleSupply.counting_numbers⟩
  have careful : Reaches Service.step Service.TimersFine Service.Start Service.afterRefused :=
    (Reaches.here started).play Service.refused (Option.some_get _).symm
  obtain ⟨booked, sound, rest⟩ := error_timers Service.afterRefused Technology.afterPowered
    (careful.weaken fun _ _ fine => fine.1)
    ((Reaches.here Technology.started_start).play _ (Option.some_get _).symm)
  exact ⟨booked, sound careful, rest⟩

end ConnmanUi
