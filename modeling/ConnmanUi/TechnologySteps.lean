import ConnmanUi.RegistryOps
import ConnmanUi.Technology

/-!
The steps of the technology module as changes of its objects (`step_change`),
and what a step does to the table: `Lists` for the handlers that list
technologies, `quiet_step` for all that do not touch it.
-/

namespace ConnmanUi.Technology

open Registry

variable {uninit : Option String} {s s' : State} {e : Event} {o : ObjId} {path : String}

/-! ## Properties -/

/-- A stored property changes an object's data and nothing else. -/
theorem storeProperty_data (obj : Object Property Record) (name : String) (arg : Value) :
    storeProperty uninit obj name arg =
      { obj with rest := (storeProperty uninit obj name arg).rest
                 updateIndex := (storeProperty uninit obj name arg).updateIndex } := by
  unfold storeProperty
  split <;> rfl

/-- The index a PropertyChanged signal leaves is that of the property named. -/
theorem storeProperty_index (obj : Object Property Record) (name : String) (arg : Value) :
    (storeProperty uninit { obj with updateIndex := none } name arg).updateIndex =
      Property.ofName name := by
  unfold storeProperty
  split
  case h_8 => unfold Property.ofName; split <;> first | rfl | contradiction
  all_goals rfl

theorem modify_storeProperty (r : Registry Property Record) (name : String) (arg : Value) :
    r.modify o (fun obj => storeProperty uninit obj name arg) =
      r.setData o (storeProperty uninit (r.heap o) name arg).rest
        (storeProperty uninit (r.heap o) name arg).updateIndex := by
  apply modify_congr (r := r)
  exact storeProperty_data _ _ _

theorem updateTechnologyProperty_reg (uninit : Option String) (s : State) (o : ObjId)
    (entry : String × Value) :
    ∃ rest, (updateTechnologyProperty uninit s o entry).reg =
      match (storeProperty uninit (s.reg.heap o) entry.1 entry.2).updateIndex with
      | some i => (s.reg.setData o rest (some i)).propertyUpdate o i
      | none => s.reg.setData o rest none := by
  refine ⟨(storeProperty uninit (s.reg.heap o) entry.1 entry.2).rest, ?_⟩
  unfold updateTechnologyProperty
  dsimp only
  rw [modify_storeProperty]
  cases index : (storeProperty uninit (s.reg.heap o) entry.1 entry.2).updateIndex with
  | none => simp [setData, heap_modify]
  | some i => simp [setData, heap_modify]

theorem updateTechnologyProperty_spec (uninit : Option String) (entry : String × Value)
    (live : s.reg.Live o) :
    QuietOps s.reg (updateTechnologyProperty uninit s o entry).reg ∧
      updateTechnologyProperty uninit s o entry =
        { s with reg := (updateTechnologyProperty uninit s o entry).reg } := by
  constructor
  · obtain ⟨rest, handled⟩ := updateTechnologyProperty_reg uninit s o entry
    rw [handled]
    have data : ∀ index, QuietOp s.reg (s.reg.setData o rest index) := .data o rest
    split
    · exact (QuietOps.one (data _)).then (.updated o _ (((data _).place.live o).mpr live))
    · exact .one (data none)
  · unfold updateTechnologyProperty
    dsimp only
    split
    · rfl
    · rfl

theorem updateProperties_spec (uninit : Option String) (dict : Dict) (live : s.reg.Live o) :
    let s' := dict.foldl (fun s entry => updateTechnologyProperty uninit s o entry) s
    QuietOps s.reg s'.reg ∧ s' = { s with reg := s'.reg } := by
  induction dict generalizing s with
  | nil => exact ⟨.refl _, rfl⟩
  | cons entry dict ih =>
    obtain ⟨first, frame⟩ := updateTechnologyProperty_spec uninit entry live
    obtain ⟨ops, rest⟩ := ih ((first.place.live o).mpr live)
    refine ⟨first.trans ops, ?_⟩
    rw [List.foldl_cons, rest]
    rw [frame]

theorem noteChanged_eq (r : Registry Property Record) (o : ObjId) (name : String) :
    noteChanged r o name =
      match Property.ofName name, (r.heap o).propertyChangedCb with
      | some i, some _ => r.note (.changed o i)
      | _, _ => r := rfl

/-- The handler of PropertyChanged: the object takes in the property, and an
updatable one is passed on by a timer. -/
theorem propertyChangedSignalCb_reg (uninit : Option String) (s : State) (o : ObjId) (name : String)
    (value : Value) :
    (propertyChangedSignalCb uninit s o name value).reg =
      match Property.ofName name with
      | some i => (s.reg.setData o (storeProperty uninit { s.reg.heap o with updateIndex := none } name value).rest
          (some i)).propertyUpdate o i
      | none => s.reg.setData o (storeProperty uninit { s.reg.heap o with updateIndex := none } name value).rest none := by
  have stored : (s.reg.modify o fun obj => { obj with updateIndex := none }).modify o
      (fun obj => storeProperty uninit obj name value) = s.reg.setData o
        (storeProperty uninit { s.reg.heap o with updateIndex := none } name value).rest (Property.ofName name) := by
    rw [modify_modify]
    apply modify_congr
    rw [storeProperty_data, storeProperty_index]
  unfold propertyChangedSignalCb updateTechnologyProperty
  dsimp only
  rw [stored]
  cases Property.ofName name with
  | none => simp [setData, heap_modify]
  | some i => simp [setData, heap_modify]

theorem propertyChangedSignalCb_frame (uninit : Option String) (s : State) (o : ObjId) (name : String)
    (value : Value) :
    propertyChangedSignalCb uninit s o name value =
      { s with reg := (propertyChangedSignalCb uninit s o name value).reg } := by
  unfold propertyChangedSignalCb updateTechnologyProperty
  dsimp only
  split
  · rfl
  · rfl

theorem propertyChangedSignalCb_spec (uninit : Option String) (name : String) (value : Value)
    (live : s.reg.Live o) (idle : s.reg.dispatching = none) :
    QuietOps s.reg
        (propertyChangedSignalCb uninit { s with reg := noteChanged s.reg o name } o name value).reg ∧
      propertyChangedSignalCb uninit { s with reg := noteChanged s.reg o name } o name value =
        { s with reg := (propertyChangedSignalCb uninit
          { s with reg := noteChanged s.reg o name } o name value).reg } := by
  constructor
  · have data : ∀ rest index, QuietOp s.reg (s.reg.setData o rest index) := .data o
    rw [propertyChangedSignalCb_reg, noteChanged_eq]
    cases listed : Property.ofName name with
    | none => exact .one (data _ none)
    | some i =>
      cases registered : (s.reg.heap o).propertyChangedCb with
      | none => exact (QuietOps.one (data _ (some i))).then (.updated o i (((data _ _).place.live o).mpr live))
      | some cb => exact .one (.signalled o i _ live idle (by simp [registered]))
  · rw [propertyChangedSignalCb_frame]

/-! ## Listing technologies -/

/-- `s'` is `s` after technologies with these paths were listed. -/
structure Lists (s s' : State) (paths : List String) : Prop where
  grow : GrowOps s.reg s'.reg
  rest : s' = { s with reg := s'.reg }
  known : ∀ path, path ∈ s'.reg.table.map Prod.fst ↔ path ∈ s.reg.table.map Prod.fst ∨ path ∈ paths
  selected : s'.reg.selected = s.reg.selected

theorem Lists.ops {paths : List String} (lists : Lists s s' paths) : Ops s.reg s'.reg := lists.grow.ops

theorem Lists.refl (s : State) : Lists s s [] := ⟨.refl, rfl, by simp, rfl⟩

theorem Lists.trans {s'' : State} {paths paths' : List String} (first : Lists s s' paths)
    (then_ : Lists s' s'' paths') : Lists s s'' (paths ++ paths') where
  grow := first.grow.trans then_.grow
  rest := by rw [then_.rest, first.rest]
  known path := by
    rw [then_.known, first.known, List.mem_append]
    exact or_assoc
  selected := then_.selected.trans first.selected

theorem mem_keys_of_get {r : Registry Property Record} (owned : Owned r) (unselected : r.selected = none)
    (found : r.get path = some o) : path ∈ r.table.map Prod.fst := by
  obtain ⟨_, _, mem | sel⟩ := owned.get_spec found
  · exact List.mem_map.mpr ⟨_, mem, rfl⟩
  · rw [unselected] at sel
    cases sel

theorem updateOrCreateTechnology_lists (uninit : Option String) (owned : Owned s.reg)
    (unselected : s.reg.selected = none) (up : s.up = true) (technology : String × Dict) :
    Lists s (updateOrCreateTechnology uninit s technology) [technology.1] := by
  unfold updateOrCreateTechnology getOrCreate
  rw [if_pos up]
  cases found : s.reg.get technology.1 with
  | some o =>
    obtain ⟨quiet, frame⟩ := updateProperties_spec (s := s) uninit technology.2 (owned.get_spec found).1
    dsimp only at quiet frame ⊢
    refine ⟨quiet.grow, frame, fun path => ?_, quiet.place.selected⟩
    have known := mem_keys_of_get owned unselected found
    rw [quiet.place.table, List.mem_singleton]
    refine ⟨.inl, ?_⟩
    rintro (mem | rfl)
    · exact mem
    · exact known
  | none =>
    have live : (s.reg.create technology.1).Live s.reg.next := (found_created owned technology.1).1
    obtain ⟨quiet, frame⟩ := updateProperties_spec
      (s := { s with reg := s.reg.create technology.1 }) uninit technology.2 live
    dsimp only at quiet frame ⊢
    refine ⟨quiet.grow.head (.created technology.1 found), frame, fun path => ?_,
      quiet.place.selected⟩
    rw [quiet.place.table, List.mem_singleton]
    simp only [Registry.create, List.map_cons, List.mem_cons]
    exact or_comm

theorem updateOrCreateTechnologies_lists (uninit : Option String) (technologies : List (String × Dict))
    (owned : Owned s.reg) (unselected : s.reg.selected = none) (up : s.up = true) :
    Lists s (technologies.foldl (updateOrCreateTechnology uninit) s) (technologies.map Prod.fst) := by
  induction technologies generalizing s with
  | nil => exact .refl s
  | cons technology technologies ih =>
    have first := updateOrCreateTechnology_lists uninit owned unselected up technology
    have up' : (updateOrCreateTechnology uninit s technology).up = true := by
      rw [first.rest]
      exact up
    exact first.trans (ih (owned.ops first.ops) (first.selected.trans unselected) up')

/-! ## Handlers -/

theorem callAddedCb_spec (s : State) (path : String) :
    QuietOps s.reg (callAddedCb s path).reg ∧
      callAddedCb s path = { s with reg := (callAddedCb s path).reg } := by
  unfold callAddedCb
  split
  · exact ⟨.refl _, rfl⟩
  · exact ⟨.one (.noted _ nofun), rfl⟩

theorem callRemovedCb_spec (s : State) (path : String) :
    QuietOps s.reg (callRemovedCb s path).reg ∧
      callRemovedCb s path = { s with reg := (callRemovedCb s path).reg } := by
  unfold callRemovedCb
  split
  · exact ⟨.refl _, rfl⟩
  · exact ⟨.one (.noted _ nofun), rfl⟩

/-- A TechnologyAdded signal lists the technology and, once the signals are
registered, asks for all of them. -/
theorem technologyAddedCb_spec (uninit : Option String) (owned : Owned s.reg)
    (unselected : s.reg.selected = none) (up : s.up = true) (technology : String × Dict) :
    ∃ listed, Lists s listed [technology.1] ∧
      technologyAddedCb uninit s technology =
        if s.set then connmanManagerGetTechnologies listed else listed := by
  have lists := updateOrCreateTechnology_lists uninit owned unselected up technology
  obtain ⟨quiet, frame⟩ := callAddedCb_spec (updateOrCreateTechnology uninit s technology) technology.1
  have set : (callAddedCb (updateOrCreateTechnology uninit s technology) technology.1).set = s.set := by
    rw [frame, lists.rest]
  refine ⟨_, ⟨lists.grow.trans quiet.grow, by rw [frame, lists.rest], fun path => ?_,
    quiet.place.selected.trans lists.selected⟩, ?_⟩
  · rw [quiet.place.table]
    exact lists.known path
  · unfold technologyAddedCb
    dsimp only
    rw [set]

theorem technologyAddedCb_ops (owned : Owned s.reg) (unselected : s.reg.selected = none)
    (technology : String × Dict) : Ops s.reg (technologyAddedCb uninit s technology).reg := by
  cases up : s.up with
  | true =>
    obtain ⟨listed, lists, handled⟩ := technologyAddedCb_spec uninit owned unselected up technology
    rw [handled]
    split
    · exact lists.ops
    · exact lists.ops
  | false =>
    have same : updateOrCreateTechnology uninit s technology = s := by
      unfold updateOrCreateTechnology
      rw [if_neg (by simp [up])]
    have quiet := (callAddedCb_spec s technology.1).1
    unfold technologyAddedCb
    dsimp only
    rw [same]
    split
    · exact quiet.ops
    · exact quiet.ops

theorem technologyRemovedCb_spec (s : State) (path : String) :
    Ops s.reg (technologyRemovedCb s path).reg ∧
      technologyRemovedCb s path = { s with reg := (technologyRemovedCb s path).reg } ∧
      (technologyRemovedCb s path).reg.table = s.reg.table.filter (·.1 ≠ path) := by
  obtain ⟨quiet, frame⟩ := callRemovedCb_spec s path
  unfold technologyRemovedCb
  dsimp only
  refine ⟨quiet.ops.then (.removed path), by rw [frame], ?_⟩
  rw [hashRemove_table, quiet.place.table]

theorem getTechnologiesCb_spec (uninit : Option String) (owned : Owned s.reg)
    (unselected : s.reg.selected = none) (up : s.up = true) (technologies : List (String × Dict)) :
    ∃ listed, Lists s listed (technologies.map Prod.fst) ∧
      getTechnologiesCb uninit s (.technologies technologies) =
        if s.set then listed
        else connmanManagerGetTechnologies
          { connmanManagerRegisterTechnologySignals listed true with set := true } := by
  have lists := updateOrCreateTechnologies_lists uninit technologies owned unselected up
  refine ⟨_, lists, ?_⟩
  unfold getTechnologiesCb
  rw [if_pos up]
  dsimp only
  have set : (technologies.foldl (updateOrCreateTechnology uninit) s).set = s.set := by rw [lists.rest]
  rw [set]

theorem getTechnologiesCb_ops (owned : Owned s.reg) (unselected : s.reg.selected = none)
    (reply : TechnologiesReply) : Ops s.reg (getTechnologiesCb uninit s reply).reg := by
  cases up : s.up with
  | false => simpa [getTechnologiesCb, up] using Ops.refl s.reg
  | true =>
    cases reply with
    | noArguments => simpa [getTechnologiesCb, up] using Ops.refl s.reg
    | notArray => simpa [getTechnologiesCb, up] using Ops.refl s.reg
    | technologies technologies =>
      obtain ⟨listed, lists, handled⟩ := getTechnologiesCb_spec uninit owned unselected up technologies
      rw [handled]
      split
      · exact lists.ops
      · exact lists.ops

theorem getTechnologiesCallback_ops (owned : Owned s.reg) (unselected : s.reg.selected = none)
    (reply : TechnologiesReply) : Ops s.reg (getTechnologiesCallback uninit s reply).reg := by
  unfold getTechnologiesCallback
  have handled : ∀ reply, Ops s.reg (getTechnologiesCb uninit { s with getTechnologiesCall := none } reply).reg :=
    getTechnologiesCb_ops (s := { s with getTechnologiesCall := none }) owned unselected
  cases reply with
  | noArguments => exact .refl _
  | notArray => exact handled _
  | technologies technologies => exact handled _

theorem connmanTechnologySet_spec (owned : Owned s.reg) (path : String) (setting : Setting)
    (outcome : SendOutcome) :
    QuietOps s.reg (connmanTechnologySet s path setting outcome).1.reg ∧
      (connmanTechnologySet s path setting outcome).1 =
        { s with reg := (connmanTechnologySet s path setting outcome).1.reg } := by
  have send : ∀ {o} i, s.reg.get path = some o →
      QuietOps s.reg (setTechnologyProperty s o i outcome).1.reg :=
    fun i known => .one (.sent _ i outcome (owned.get_spec known).1)
  cases setting with
  | enable enable =>
    unfold connmanTechnologySet connmanTechnologyEnable
    dsimp only
    split
    · exact ⟨.refl _, rfl⟩
    case h_2 known =>
      split
      · exact ⟨.refl _, rfl⟩
      · exact ⟨send .powered known, rfl⟩
  | tether tethering =>
    unfold connmanTechnologySet connmanTechnologyTether
    dsimp only
    split
    · exact ⟨.refl _, rfl⟩
    case h_2 known =>
      split
      · exact ⟨.refl _, rfl⟩
      · exact ⟨send .tethering known, rfl⟩
  | tetheringIdentifier identifier =>
    unfold connmanTechnologySet connmanTechnologySetTetheringIdentifier
    dsimp only
    split
    · exact ⟨.refl _, rfl⟩
    case h_2 known => exact ⟨send .tetheringIdentifier known, rfl⟩
  | tetheringPassphrase passphrase =>
    unfold connmanTechnologySet connmanTechnologySetTetheringPassphrase
    dsimp only
    split
    · exact ⟨.refl _, rfl⟩
    case h_2 known => exact ⟨send .tetheringPassphrase known, rfl⟩

theorem connmanTechnologyScan_spec (owned : Owned s.reg) (path : String) (callback : Option Callback)
    (outcome : SendOutcome) :
    QuietOps s.reg (connmanTechnologyScan s path callback outcome).1.reg ∧
      (connmanTechnologyScan s path callback outcome).1 =
        { s with reg := (connmanTechnologyScan s path callback outcome).1.reg } := by
  unfold connmanTechnologyScan
  split
  · exact ⟨.refl _, rfl⟩
  case h_2 known => exact ⟨.one (.scanned _ callback outcome (owned.get_spec known).1), rfl⟩

/-! ## Steps -/

/-- What a step does to the registry besides moving objects. -/
def act : Event → Act
  | .setPropertyReply call failed => .reply call failed
  | .timerDone => .timerDone
  | _ => .move

/-- The events that list technologies or drop them, or start or end the module. -/
def Moving : Event → Prop
  | .technologyAdded .. => True
  | .technologyRemoved _ => True
  | .getTechnologiesReply .. => True
  | .init => True
  | .finalize => True
  | _ => False

/-- Every other step leaves the table alone, and what the module has asked the
manager for. -/
structure Quiet (a : Act) (s s' : State) : Prop where
  did : QuietOps s.reg s'.reg ∨ Acts s.reg a s'.reg
  up : s'.up = s.up
  set : s'.set = s.set
  call : s'.getTechnologiesCall = s.getTechnologiesCall
  sent : s'.sent = s.sent
  signals : s'.technologySignals = s.technologySignals

theorem Quiet.change {a : Act} (quiet : Quiet a s s') : Change s.reg a s'.reg := by
  rcases quiet.did with ops | acts
  · exact .ops ops.ops
  · exact .acted acts (.refl _)

theorem Quiet.place {a : Act} (quiet : Quiet a s s') : SamePlace s.reg s'.reg := by
  rcases quiet.did with ops | acts
  · exact ops.place
  · exact acts.place

theorem Quiet.of_ops {a : Act} (ops : QuietOps s.reg s'.reg) (rest : s' = { s with reg := s'.reg }) :
    Quiet a s s' := by
  refine ⟨.inl ops, ?_, ?_, ?_, ?_, ?_⟩ <;> rw [rest]

theorem Quiet.of_same {a : Act} (reg : s'.reg = s.reg) (up : s'.up = s.up) (set : s'.set = s.set)
    (call : s'.getTechnologiesCall = s.getTechnologiesCall) (sent : s'.sent = s.sent)
    (signals : s'.technologySignals = s.technologySignals) : Quiet a s s' := by
  refine ⟨.inl ?_, up, set, call, sent, signals⟩
  rw [reg]
  exact .refl _

/-- What the main loop hands over reaches the module while no timer's callback
is running. -/
theorem handed (ran : (if s.reg.dispatching = none then dispatch s e else none) = some s') :
    s.reg.dispatching = none ∧ dispatch s e = some s' := Option.ite_none_right_eq_some.mp ran

theorem quiet_step (owned : Owned s.reg) (ran : step s e = some s') (still : ¬ Moving e) :
    Quiet (act e) s s' := by
  cases e with
  | setGlobalPropertyCallback cb =>
    cases ran
    unfold connmanTechnologySetGlobalPropertyCallback
    split <;> exact .of_same rfl rfl rfl rfl rfl rfl
  | setRemovedCallback cb =>
    cases ran
    unfold connmanTechnologySetRemovedCallback
    split <;> exact .of_same rfl rfl rfl rfl rfl rfl
  | setAddedCallback cb =>
    cases ran
    unfold connmanTechnologySetAddedCallback
    split <;> exact .of_same rfl rfl rfl rfl rfl rfl
  | setPropertyChangedCallback path cb =>
    cases ran
    unfold connmanTechnologySetPropertyChangedCallback
    split
    · exact .of_ops (.refl _) rfl
    case h_2 o _ =>
      exact .of_ops (.one (.callbacks o cb (s.reg.heap o).propertySetErrorCb)) rfl
  | setPropertyErrorCallback path cb =>
    cases ran
    unfold connmanTechnologySetPropertyErrorCallback
    split
    · exact .of_ops (.refl _) rfl
    case h_2 o _ =>
      exact .of_ops (.one (.callbacks o (s.reg.heap o).propertyChangedCb cb)) rfl
  | scan path callback outcome =>
    cases ran
    obtain ⟨ops, rest⟩ := connmanTechnologyScan_spec owned path callback outcome
    exact .of_ops ops rest
  | set path setting outcome =>
    cases ran
    obtain ⟨ops, rest⟩ := connmanTechnologySet_spec owned path setting outcome
    exact .of_ops ops rest
  | timerDone =>
    obtain ⟨reg, ended, rfl⟩ := Option.map_eq_some_iff.mp ran
    exact ⟨.inr (.timerDone ended), rfl, rfl, rfl, rfl, rfl⟩
  | propertyChanged wid uninit name value =>
    obtain ⟨idle, ran⟩ := handed ran
    obtain ⟨o, watched, rfl⟩ := Option.map_eq_some_iff.mp ran
    obtain ⟨ops, rest⟩ := propertyChangedSignalCb_spec uninit name value (owned.watch_live watched) idle
    exact .of_ops ops rest
  | setPropertyReply call failed =>
    obtain ⟨reg, replied, rfl⟩ := Option.map_eq_some_iff.mp (handed ran).2
    exact ⟨.inr (.replied call failed replied), rfl, rfl, rfl, rfl, rfl⟩
  | scanReply call =>
    obtain ⟨reg, replied, rfl⟩ := Option.map_eq_some_iff.mp (handed ran).2
    exact .of_ops (.one (.scanReplied call replied)) rfl
  | timer id =>
    obtain ⟨idle, ran⟩ := handed ran
    obtain ⟨reg, fired, rfl⟩ := Option.map_eq_some_iff.mp ran
    exact .of_ops (.one (.timerRun s.propertyChangedCb id idle fired)) rfl
  | _ => exact absurd trivial still

/-- What holds of every run: objects are owned and found, none is ever selected,
and the signals are registered only while the module is up. -/
structure Tidy (s : State) : Prop where
  owned : Owned s.reg
  held : Held s.reg
  unselected : s.reg.selected = none
  signals : s.technologySignals = true → s.up = true

/-- Every step is a change of the registry. -/
theorem step_change (tidy : Tidy s) (ran : step s e = some s') : Change s.reg (act e) s'.reg := by
  by_cases moving : Moving e
  · cases e with
    | technologyAdded uninit technology =>
      obtain ⟨_, ran⟩ := Option.ite_none_right_eq_some.mp (handed ran).2
      cases ran
      exact .ops (technologyAddedCb_ops tidy.owned tidy.unselected technology)
    | technologyRemoved path =>
      obtain ⟨_, ran⟩ := Option.ite_none_right_eq_some.mp (handed ran).2
      cases ran
      exact .ops (technologyRemovedCb_spec s path).1
    | getTechnologiesReply call uninit reply =>
      obtain ⟨_, ran⟩ := Option.ite_none_right_eq_some.mp (handed ran).2
      cases ran
      exact .ops (getTechnologiesCallback_ops tidy.owned tidy.unselected reply)
    | init =>
      cases ran
      unfold connmanTechnologyInit
      split
      · exact .ops (.refl _)
      · exact .ops (.refl _)
    | finalize =>
      cases ran
      unfold connmanTechnologyFinalize
      split
      · exact .ops (.one .removedAll)
      · exact .ops (.refl _)
    | _ => exact moving.elim
  · exact (quiet_step tidy.owned ran moving).change

theorem signals_step (tidy : Tidy s) (ran : step s e = some s') :
    s'.technologySignals = true → s'.up = true := by
  by_cases moving : Moving e
  · cases e with
    | technologyAdded uninit technology =>
      obtain ⟨there, ran⟩ := Option.ite_none_right_eq_some.mp (handed ran).2
      cases ran
      have up := tidy.signals there
      obtain ⟨listed, lists, handled⟩ := technologyAddedCb_spec uninit tidy.owned tidy.unselected up technology
      have stays : listed.up = true := by
        rw [lists.rest]
        exact up
      rw [handled]
      split
      · exact fun _ => stays
      · exact fun _ => stays
    | technologyRemoved path =>
      obtain ⟨there, ran⟩ := Option.ite_none_right_eq_some.mp (handed ran).2
      cases ran
      rw [(technologyRemovedCb_spec s path).2.1]
      exact fun _ => tidy.signals there
    | getTechnologiesReply call uninit reply =>
      obtain ⟨_, ran⟩ := Option.ite_none_right_eq_some.mp (handed ran).2
      cases ran
      unfold getTechnologiesCallback
      cases reply with
      | noArguments => exact tidy.signals
      | notArray =>
        cases up : s.up with
        | false => simpa [getTechnologiesCb, up] using tidy.signals
        | true => simp [getTechnologiesCb]
      | technologies technologies =>
        cases up : s.up with
        | false => simpa [getTechnologiesCb, up] using tidy.signals
        | true =>
          obtain ⟨listed, lists, handled⟩ := getTechnologiesCb_spec uninit
            (s := { s with getTechnologiesCall := none }) tidy.owned tidy.unselected up technologies
          have stays : listed.up = true := by
            rw [lists.rest]
            exact up
          dsimp only at handled ⊢
          rw [up] at handled
          rw [handled]
          split
          · exact fun _ => stays
          · exact fun _ => stays
    | init =>
      cases ran
      unfold connmanTechnologyInit
      split
      · exact tidy.signals
      · exact fun _ => rfl
    | finalize =>
      cases ran
      unfold connmanTechnologyFinalize
      split
      · exact nofun
      · exact tidy.signals
    | _ => exact moving.elim
  · have quiet := quiet_step tidy.owned ran moving
    rw [quiet.signals, quiet.up]
    exact tidy.signals

theorem tidy_step (tidy : Tidy s) (ran : step s e = some s') : Tidy s' where
  owned := tidy.owned.change (step_change tidy ran)
  held := tidy.held.change tidy.owned (step_change tidy ran)
  unselected := (step_change tidy ran).unselected tidy.owned tidy.unselected
  signals := signals_step tidy ran

theorem boot_tidy (boot : Boot s) : Tidy s := by
  obtain ⟨sources, calls, scans, watches, rfl⟩ := boot
  exact ⟨empty_owned sources calls scans watches, empty_held sources calls scans watches, rfl, nofun⟩

theorem reaches_tidy {guard : State → Event → Prop} (reached : Run.Reaches step guard Boot s) : Tidy s :=
  reached.invariant (fun _ => boot_tidy) fun _ _ _ tidy _ ran => tidy_step tidy ran

/-- A program that has just been started. -/
def started : State := { reg := Registry.empty .counting .counting .counting .counting }

theorem started_boot : Boot started := ⟨.counting, .counting, .counting, .counting, rfl⟩

/-- A technology is known. -/
def listing : List Event := [.init, .getTechnologiesReply 0 none (.technologies [("/t", [])])]

end ConnmanUi.Technology
