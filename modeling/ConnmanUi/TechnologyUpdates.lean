import ConnmanUi.TimerBookkeeping

/-!
Which notifications a message about a technology schedules.

`update_technology_property` schedules a notification for whatever
`update_index` says, and only a PropertyChanged signal resets that field first.
A dictionary so schedules the properties it names and, while its entries name
none, the one an earlier message named last (`handled_dictionary`).
-/

namespace ConnmanUi

open Registry Run

namespace Registry

variable {ι ρ : Type} {r r' r'' : Registry ι ρ}
  {o o' : ObjId} {i i' : ι}

/-- A notification for the property was scheduled between `r` and `r'`. -/
def Scheduled (r r' : Registry ι ρ) (o : ObjId) (i : ι) : Prop :=
  ∃ id, r'.PendingUpdate o i id ∧ id ∉ r.sources.issued

theorem Timed.pendingUpdate_iff [DecidableEq ι] [PropertyIndex ι] (timed : Timed r) {id : Nat} :
    r.PendingUpdate o i id ↔ r.timerSlot (.update o i) = id ∧ id ≠ 0 := by
  constructor
  · rintro ⟨c, found, error, rfl, rfl⟩
    have own : (Source.property c).slot = .update c.path c.index := by simp [Source.slot, error]
    exact ⟨(timed.updates _ _).id_eq found own, Pool.ne_zero_of_find found⟩
  · rintro ⟨rfl, used⟩
    obtain ⟨s, found, slot⟩ := (timed.updates o i).filled used
    obtain ⟨c, rfl, error, path, index⟩ := slot_update slot
    exact ⟨c, found, error, path, index⟩

/-- The slot holds an id that had not been given out. -/
def Renewed (r r' : Registry ι ρ) (o : ObjId) (i : ι) : Prop :=
  r'.timerSlot (.update o i) ≠ 0 ∧ r'.timerSlot (.update o i) ∉ r.sources.issued

theorem Timed.scheduled_iff [DecidableEq ι] [PropertyIndex ι]
    (timed : Timed r') : Scheduled r r' o i ↔ Renewed r r' o i := by
  constructor
  · rintro ⟨id, pending, new⟩
    obtain ⟨rfl, used⟩ := timed.pendingUpdate_iff.mp pending
    exact ⟨used, new⟩
  · rintro ⟨used, new⟩
    exact ⟨_, timed.pendingUpdate_iff.mpr ⟨rfl, used⟩, new⟩

/-- A slot left alone is not renewed. -/
theorem Timed.not_renewed [DecidableEq ι] [PropertyIndex ι]
    (timed : Timed r) (same : r'.timerSlot (.update o i) = r.timerSlot (.update o i)) :
    ¬ Renewed r r' o i := by
  rintro ⟨used, new⟩
  rw [same] at used new
  exact new (timed.recorded.records.issued _ used)

/-- `property_update` touches no other slot. -/
theorem Timed.propertyUpdate_other [DecidableEq ι] [PropertyIndex ι]
    (timed : Timed r) (other : TimerSlot.update o' i' ≠ .update o i) :
    (r.propertyUpdate o i).timerSlot (.update o' i') = r.timerSlot (.update o' i') := by
  rw [propertyUpdate_eq]
  split
  · rfl
  · rw [timerSlot_attachChange, attachSlot_updateChange, Function.update_of_ne other]
    exact timed.removeSlot_slot (Ne.symm other)

/-- `property_update` gives the slot of its own property a new id, if the object
has a callback. -/
theorem Recorded.propertyUpdate_own [DecidableEq ι] [PropertyIndex ι]
    (recorded : Recorded r) (registered : (r.heap o).propertyChangedCb ≠ none) :
    Renewed r (r.propertyUpdate o i) o i := by
  rw [propertyUpdate_eq]
  split
  case h_1 unregistered => exact absurd unregistered registered
  case h_2 =>
    unfold Renewed
    rw [timerSlot_attachChange, attachSlot_updateChange, Function.update_self, removeSlot_sources]
    exact ⟨Pool.fresh_ne_zero _, recorded.numbers _ _⟩

theorem propertyUpdate_issued [DecidableEq ι] (r : Registry ι ρ) (o : ObjId) (i : ι) :
    ∀ id ∈ r.sources.issued, id ∈ (r.propertyUpdate o i).sources.issued := by
  intro id given
  rw [propertyUpdate_eq]
  split
  · exact given
  · rw [attachChange_sources, removeSlot_sources]
    exact List.mem_cons_of_mem _ given

/-- Exactly the properties in `P` were scheduled for `o`, and nothing else was. -/
structure Passes (r r' : Registry ι ρ) (o : ObjId) (P : ι → Prop) : Prop where
  issued : ∀ id ∈ r.sources.issued, id ∈ r'.sources.issued
  renewed : ∀ i, P i → Renewed r r' o i
  kept : ∀ o' i, ¬ (o' = o ∧ P i) → r'.timerSlot (.update o' i) = r.timerSlot (.update o' i)

theorem Passes.none (same : SameTimers r r') {P : ι → Prop} (never : ∀ i, ¬ P i) : Passes r r' o P where
  issued _ given := same.sources ▸ given
  renewed i passed := absurd passed (never i)
  kept o' i _ := (same.slots (.update o' i)).resolve_right nofun

theorem Passes.trans {P Q : ι → Prop} (first : Passes r r' o P) (rest : Passes r' r'' o Q) :
    Passes r r'' o fun i => P i ∨ Q i where
  issued id given := rest.issued id (first.issued id given)
  renewed i passed := by
    by_cases again : Q i
    · obtain ⟨used, new⟩ := rest.renewed i again
      exact ⟨used, fun given => new (first.issued _ given)⟩
    · have stays := rest.kept o i fun both => again both.2
      unfold Renewed
      rw [stays]
      exact first.renewed i (passed.resolve_right again)
  kept o' i out := by
    rw [rest.kept o' i fun both => out ⟨both.1, .inr both.2⟩]
    exact first.kept o' i fun both => out ⟨both.1, .inl both.2⟩

theorem Passes.scheduled_iff [DecidableEq ι] [PropertyIndex ι]
    {P : ι → Prop} (passes : Passes r r' o P) (timed : Timed r) (timed' : Timed r') :
    Scheduled r r' o' i ↔ o' = o ∧ P i := by
  rw [timed'.scheduled_iff]
  constructor
  · intro renewed
    by_contra out
    exact timed.not_renewed (passes.kept o' i out) renewed
  · rintro ⟨rfl, passed⟩
    exact passes.renewed i passed

/-- `property_update` schedules its property, if the object has a callback. -/
theorem Timed.propertyUpdate_passes [DecidableEq ι] [PropertyIndex ι] (timed : Timed r) (o : ObjId) (i : ι) :
    Passes r (r.propertyUpdate o i) o fun i' => (r.heap o).propertyChangedCb ≠ none ∧ i = i' where
  issued := propertyUpdate_issued r o i
  renewed i' passed := by
    obtain ⟨registered, rfl⟩ := passed
    exact timed.recorded.propertyUpdate_own registered
  kept o' i' out := by
    by_cases same : TimerSlot.update o' i' = .update o i
    · cases same
      rw [propertyUpdate_eq]
      split
      · rfl
      case h_2 registered => exact absurd ⟨rfl, by simp [registered], rfl⟩ out
    · exact timed.propertyUpdate_other same

end Registry

namespace Technology

variable {uninit : Option String} {s s' : State} {e : Event} {o o' : ObjId} {i i' : Property}

/-! ## Entries of a dictionary -/

/-- `update_index` after an entry. -/
def nextIndex (index : Option Property) (entry : String × Value) : Option Property :=
  (Property.ofName entry.1).or index

theorem storeProperty_nextIndex (obj : Object Property Record) (entry : String × Value) :
    (storeProperty uninit obj entry.1 entry.2).updateIndex = nextIndex obj.updateIndex entry := by
  unfold storeProperty nextIndex
  split
  case h_8 =>
    unfold Property.ofName
    split <;> first | rfl | contradiction
  all_goals simp [*, Property.ofName]

/-- The properties the entries of a dictionary schedule, if `update_index` says
`index` before. -/
def Passed (index : Option Property) : Dict → Property → Prop
  | [], _ => False
  | entry :: dict, i => nextIndex index entry = some i ∨ Passed (nextIndex index entry) dict i

/-- The property is named by one of the keys. -/
def Names (keys : List String) (i : Property) : Prop := ∃ key ∈ keys, Property.ofName key = some i

/-- The property `update_index` passes on to a dictionary: its first key names
none that is updatable. -/
def carried (index : Option Property) (dict : Dict) : Option Property :=
  match dict with
  | [] => none
  | entry :: _ => if Property.ofName entry.1 = none then index else none

/-- A dictionary schedules what it names, and what was carried over to it. -/
theorem passed_iff (index : Option Property) (dict : Dict) (i : Property) :
    Passed index dict i ↔ Names (dict.map Prod.fst) i ∨ carried index dict = some i := by
  induction dict generalizing index with
  | nil => simp [Passed, Names, carried]
  | cons entry dict ih =>
    rw [Passed, ih]
    cases own : Property.ofName entry.1 with
    | some j =>
      have next : nextIndex index entry = some j := by simp [nextIndex, own]
      have rest : carried (some j) dict = some i → j = i := by
        unfold carried
        split
        · nofun
        · split
          · exact Option.some.inj
          · nofun
      rw [next]
      constructor
      · rintro (same | ⟨key, mem, named⟩ | carry)
        · exact .inl ⟨entry.1, List.mem_cons_self, own.trans same⟩
        · exact .inl ⟨key, List.mem_cons_of_mem _ mem, named⟩
        · exact .inl ⟨entry.1, List.mem_cons_self, own.trans (congrArg some (rest carry))⟩
      · rintro (⟨key, mem, named⟩ | carry)
        · rcases List.mem_cons.mp mem with rfl | later
          · exact .inl (own.symm.trans named)
          · exact .inr (.inl ⟨key, later, named⟩)
        · simp [carried, own] at carry
    | none =>
      have next : nextIndex index entry = index := by simp [nextIndex, own]
      rw [next]
      constructor
      · rintro (same | ⟨key, mem, named⟩ | carry)
        · exact .inr (by simpa [carried, own] using same)
        · exact .inl ⟨key, List.mem_cons_of_mem _ mem, named⟩
        · refine .inr ?_
          unfold carried at carry
          split at carry
          · cases carry
          · split at carry
            · simpa [carried, own] using carry
            · cases carry
      · rintro (⟨key, mem, named⟩ | carry)
        · rcases List.mem_cons.mp mem with rfl | later
          · rw [own] at named
            cases named
          · exact .inr (.inl ⟨key, later, named⟩)
        · exact .inl (by simpa [carried, own] using carry)

/-- An entry schedules the property `update_index` says after it. -/
theorem updateTechnologyProperty_passes (uninit : Option String) (o : ObjId) (timed : Timed s.reg) (entry : String × Value) :
    Passes s.reg (updateTechnologyProperty uninit s o entry).reg o (fun i =>
        (s.reg.heap o).propertyChangedCb ≠ none ∧ nextIndex (s.reg.heap o).updateIndex entry = some i) ∧
      ((updateTechnologyProperty uninit s o entry).reg.heap o).updateIndex =
        nextIndex (s.reg.heap o).updateIndex entry ∧
      ((updateTechnologyProperty uninit s o entry).reg.heap o).propertyChangedCb =
        (s.reg.heap o).propertyChangedCb := by
  obtain ⟨rest, handled⟩ := updateTechnologyProperty_reg uninit s o entry
  rw [storeProperty_nextIndex] at handled
  rw [handled]
  have same := fun index => setData_sameTimers s.reg o rest index
  cases next : nextIndex (s.reg.heap o).updateIndex entry with
  | none => exact ⟨.none (same none) nofun, by simp [setData, heap_modify], by simp [setData, heap_modify]⟩
  | some j =>
    have kept := (propertyUpdate_upkeep (s.reg.setData o rest (some j)) o j).object o
    refine ⟨?_, ?_, ?_⟩
    · have updated := (timed.same (same (some j)) (modify_place rfl)).propertyUpdate_passes o j
      have passes := (Passes.none (o := o) (same (some j)) (P := fun _ => False) fun _ => id).trans updated
      simpa [setData, heap_modify] using passes
    · rw [kept.updateIndex]
      simp [setData, heap_modify]
    · rw [kept.propertyChangedCb]
      simp [setData, heap_modify]

/-- A dictionary schedules the properties its entries pass. -/
theorem dictionary_passes (uninit : Option String) (dict : Dict) (owned : Owned s.reg) (timed : Timed s.reg) (live : s.reg.Live o) :
    Passes s.reg (dict.foldl (fun s entry => updateTechnologyProperty uninit s o entry) s).reg o fun i =>
      (s.reg.heap o).propertyChangedCb ≠ none ∧ Passed (s.reg.heap o).updateIndex dict i := by
  induction dict generalizing s with
  | nil => exact .none ⟨rfl, fun _ => .inl rfl, rfl⟩ fun _ passed => passed.2
  | cons entry dict ih =>
    obtain ⟨first, index, cb⟩ := updateTechnologyProperty_passes uninit o timed entry
    have ops := (updateTechnologyProperty_spec (s := s) uninit entry live).1
    have after := ops.ops.invariant owned timed fun _ _ owned timed op => timed.op owned op
    have rest := ih after.1 after.2 ((ops.place.live o).mpr live)
    rw [index, cb] at rest
    simpa only [List.foldl_cons, Passed, and_or_left] using first.trans rest

/-! ## Messages -/

/-- A message that carries properties of a technology: a PropertyChanged signal
for an object, or a dictionary. -/
inductive Message where
  | signal (o : ObjId) (name : String) (value : Value)
  | dictionary (technology : String × Dict)

namespace Message

/-- What the module does with the message. -/
def handle (uninit : Option String) (s : State) : Message → State
  | signal o name value =>
    propertyChangedSignalCb uninit { s with reg := noteChanged s.reg o name } o name value
  | dictionary technology => updateOrCreateTechnology uninit s technology

/-- The names that occur in the message. -/
def keys : Message → List String
  | signal _ name _ => [name]
  | dictionary technology => technology.2.map Prod.fst

/-- The technology it is about. -/
def technology (s : State) : Message → ObjId
  | signal o _ _ => o
  | dictionary technology => (getOrCreate s technology.1).2

/-- The technology is known and has a callback. -/
def Listens (s : State) : Message → Prop
  | signal o _ _ => (s.reg.heap o).propertyChangedCb ≠ none
  | dictionary technology => ∃ o ∈ s.reg.get technology.1, (s.reg.heap o).propertyChangedCb ≠ none

/-- The property `update_index` passes on to the message. -/
def passedOn (s : State) : Message → Option Property
  | signal .. => none
  | dictionary technology =>
    (s.reg.get technology.1).bind fun o => carried (s.reg.heap o).updateIndex technology.2

end Message

/-- A message being handled, with the state it meets. -/
structure Handling where
  before : State
  uninit : Option String
  message : Message

def Handling.after (h : Handling) : State := h.message.handle h.uninit h.before

/-- The dictionaries of a list, each of which meets what those before it left. -/
def dictionaries (uninit : Option String) : State → List (String × Dict) → List Handling
  | _, [] => []
  | s, technology :: rest =>
    ⟨s, uninit, .dictionary technology⟩ :: dictionaries uninit (updateOrCreateTechnology uninit s technology) rest

/-- The messages handled in a step. -/
def handlings (s : State) : Event → List Handling
  | .propertyChanged wid uninit name value =>
    match s.reg.watches.find wid with
    | some o => [⟨s, uninit, .signal o name value⟩]
    | none => []
  | .technologyAdded uninit technology => [⟨s, uninit, .dictionary technology⟩]
  | .getTechnologiesReply _ uninit (.technologies technologies) =>
    if s.up then dictionaries uninit { s with getTechnologiesCall := none } technologies else []
  | _ => []

/-- The message schedules notifications of its own technology only, and of
properties whose names occur in it. -/
def NoSpurious (h : Handling) : Prop :=
  ∀ o i, Scheduled h.before.reg h.after.reg o i →
    o = h.message.technology h.before ∧ Names h.message.keys i

/-- What is passed on to the message it names itself, if anybody listens. -/
def Attributed (h : Handling) : Prop :=
  h.message.Listens h.before → ∀ i ∈ h.message.passedOn h.before, Names h.message.keys i

/-- A signal schedules the property it names, if anybody listens. -/
theorem signal_passes (uninit : Option String) (name : String) (value : Value) (timed : Timed s.reg) (live : s.reg.Live o) :
    Passes s.reg ((Message.signal o name value).handle uninit s).reg o (fun i =>
        (s.reg.heap o).propertyChangedCb ≠ none ∧ Property.ofName name = some i) ∧
      Timed ((Message.signal o name value).handle uninit s).reg := by
  have noted : SameTimers s.reg (noteChanged s.reg o name) ∧ SamePlace s.reg (noteChanged s.reg o name) ∧
      (noteChanged s.reg o name).heap o = s.reg.heap o := by
    rw [noteChanged_eq]
    split
    · exact ⟨note_sameTimers _ _, (note_upkeep _ _).toSameObjects.place, rfl⟩
    · exact ⟨⟨rfl, fun _ => .inl rfl, rfl⟩, ⟨rfl, rfl, rfl, rfl, fun _ => rfl⟩, rfl⟩
  unfold Message.handle
  dsimp only
  rw [propertyChangedSignalCb_reg]
  dsimp only
  generalize (storeProperty uninit _ name value).rest = rest
  have same := fun index => noted.1.trans (setData_sameTimers (noteChanged s.reg o name) o rest index)
  have place : ∀ index, SamePlace s.reg ((noteChanged s.reg o name).setData o rest index) :=
    fun index => noted.2.1.trans (modify_place rfl)
  have timed' := fun index => timed.same (same index) (place index)
  cases Property.ofName name with
  | none => exact ⟨.none (same none) nofun, timed' none⟩
  | some i =>
    have updated := (timed' (some i)).propertyUpdate_passes o i
    have registered : (((noteChanged s.reg o name).setData o rest (some i)).heap o).propertyChangedCb =
        (s.reg.heap o).propertyChangedCb := by simp [setData, heap_modify, noted.2.2]
    rw [registered] at updated
    refine ⟨?_, ?_⟩
    · simpa using (Passes.none (o := o) (same (some i)) (P := fun _ => False) fun _ => id).trans updated
    · exact (timed' (some i)).propertyUpdate (((place _).live o).mpr live) i

/-- What dictionaries meet, and leave to the next. -/
structure Meets (s : State) : Prop where
  owned : Owned s.reg
  timed : Timed s.reg
  unselected : s.reg.selected = none
  up : s.up = true

theorem Meets.next (meets : Meets s) (uninit : Option String) (technology : String × Dict) :
    Meets (updateOrCreateTechnology uninit s technology) := by
  have lists := updateOrCreateTechnology_lists uninit meets.owned meets.unselected meets.up technology
  have after := lists.ops.invariant meets.owned meets.timed fun _ _ owned timed op => timed.op owned op
  refine ⟨after.1, after.2, lists.selected.trans meets.unselected, ?_⟩
  rw [lists.rest]
  exact meets.up

/-- A dictionary schedules what it names and what is passed on to it, if anybody
listens. -/
theorem dictionary_message_passes (meets : Meets s) (technology : String × Dict) :
    Passes s.reg (updateOrCreateTechnology uninit s technology).reg (getOrCreate s technology.1).2 fun i =>
      (Message.dictionary technology).Listens s ∧
        (Names (technology.2.map Prod.fst) i ∨ (Message.dictionary technology).passedOn s = some i) := by
  unfold updateOrCreateTechnology getOrCreate Message.Listens Message.passedOn
  rw [if_pos meets.up]
  cases found : s.reg.get technology.1 with
  | some o =>
    have passes := dictionary_passes uninit technology.2 meets.owned meets.timed
      (meets.owned.get_spec found).1
    simpa [passed_iff, found] using passes
  | none =>
    have created := create_sameTimers meets.timed.recorded technology.1
    have owned := meets.owned.create found
    have live := (found_created meets.owned technology.1).1
    have timed : Timed (s.reg.create technology.1) := meets.timed.op meets.owned (.created technology.1 found)
    have passes := dictionary_passes (s := { s with reg := s.reg.create technology.1 }) uninit
      technology.2 owned timed live
    have silent : ((s.reg.create technology.1).heap s.reg.next).propertyChangedCb = none := by
      simp [Registry.create, Object.blank]
    have unchanged := Passes.none (o := s.reg.next) created (P := fun _ => False) fun _ => id
    simpa [silent, found] using unchanged.trans passes

theorem dictionaries_meet (meets : Meets s) (technologies : List (String × Dict)) :
    ∀ h ∈ dictionaries uninit s technologies, Meets h.before ∧ ∃ technology, h.message = .dictionary technology := by
  induction technologies generalizing s with
  | nil =>
    intro h mem
    exact absurd mem List.not_mem_nil
  | cons technology technologies ih =>
    intro h mem
    rcases List.mem_cons.mp mem with rfl | later
    · exact ⟨meets, technology, rfl⟩
    · exact ih (meets.next uninit technology) h later

/-- What a message that is handled in a step schedules. -/
theorem handling_scheduled (tidy : Tidy s) (timed : Timed s.reg) (ran : step s e = some s') {h : Handling}
    (mem : h ∈ handlings s e) :
    Scheduled h.before.reg h.after.reg o i ↔ o = h.message.technology h.before ∧
      h.message.Listens h.before ∧ (Names h.message.keys i ∨ h.message.passedOn h.before = some i) := by
  have dictionary : ∀ s technology, Meets s → (Scheduled s.reg (updateOrCreateTechnology h.uninit s technology).reg o i ↔
      o = (getOrCreate s technology.1).2 ∧ (Message.dictionary technology).Listens s ∧
        (Names (technology.2.map Prod.fst) i ∨ (Message.dictionary technology).passedOn s = some i)) :=
    fun s technology meets => (dictionary_message_passes meets technology).scheduled_iff meets.timed
      (meets.next h.uninit technology).timed
  cases e with
  | propertyChanged wid uninit name value =>
    obtain ⟨o', watched, _⟩ := Option.map_eq_some_iff.mp (handed ran).2
    simp only [handlings, watched, List.mem_singleton] at mem
    subst mem
    obtain ⟨passes, timed'⟩ := signal_passes uninit name value timed
      (tidy.owned.watch_live watched)
    have scheduled : Scheduled s.reg _ o i ↔ _ := passes.scheduled_iff timed timed'
    simpa [Handling.after, Message.technology, Message.Listens, Message.keys, Message.passedOn, Names] using scheduled
  | technologyAdded uninit technology =>
    obtain ⟨there, _⟩ := Option.ite_none_right_eq_some.mp (handed ran).2
    simp only [handlings, List.mem_singleton] at mem
    subst mem
    exact dictionary s technology ⟨tidy.owned, timed, tidy.unselected, tidy.signals there⟩
  | getTechnologiesReply call uninit reply =>
    cases reply with
    | notArray => cases mem
    | noArguments => cases mem
    | technologies technologies =>
      simp only [handlings] at mem
      split at mem
      case isFalse => cases mem
      case isTrue up =>
        have meets : Meets { s with getTechnologiesCall := none } := ⟨tidy.owned, timed, tidy.unselected, up⟩
        obtain ⟨there, technology, about⟩ := dictionaries_meet meets technologies h mem
        obtain ⟨before, uninit', message⟩ := h
        cases about
        exact dictionary before technology there
  | _ => cases mem

/-- A message schedules no notification of a property it does not name exactly
if it names what is passed on to it. -/
theorem no_spurious_iff (s s' : State) (e : Event) (reached : Reaches step Always Start s)
    (ran : step s e = some s') (h : Handling) (mem : h ∈ handlings s e) : NoSpurious h ↔ Attributed h := by
  obtain ⟨tidy, timed, _⟩ := reaches_announced reached
  constructor
  · intro none_ listens i passed
    exact (none_ _ i ((handling_scheduled tidy timed ran mem).mpr ⟨rfl, listens, .inr passed⟩)).2
  · intro attributed o i scheduled
    obtain ⟨same, listens, named | passed⟩ := (handling_scheduled tidy timed ran mem).mp scheduled
    · exact ⟨same, named⟩
    · exact ⟨same, attributed listens i passed⟩

/-- A reply that tells a technology's name, and whatever else. -/
def renamed (rest : Dict) : Event :=
  .getTechnologiesReply 1 none (.technologies [("/t", ("Name", .variant (.string "WiFi")) :: rest)])

/-- The name is followed by the property passed on. -/
theorem no_spurious_powered :
    NoSpurious ⟨{ afterNoticed with getTechnologiesCall := none }, none,
      .dictionary ("/t", [("Name", .variant (.string "WiFi")), ("Powered", .variant (.boolean true))])⟩ := by
  have ran : (step afterNoticed (renamed [("Powered", .variant (.boolean true))])).isSome := by decide +kernel
  refine (no_spurious_iff afterNoticed _ (renamed [("Powered", .variant (.boolean true))])
    ((Reaches.here started_start).play noticed (Option.some_get _).symm) (Option.some_get ran).symm _ ?_).mpr ?_
  · exact List.mem_singleton.mpr rfl
  · intro _ i passed
    have same : some Property.powered = some i := passed
    cases same
    exact ⟨"Powered", by decide, rfl⟩

/-- A technology's name alone says that it was switched on or off. -/
theorem not_always_noSpurious : ¬ ∀ s s' e, Reaches step Always Start s → step s e = some s' →
    ∀ h ∈ handlings s e, NoSpurious h := by
  intro always
  have ran : (step afterNoticed (renamed [])).isSome := by decide +kernel
  have none_ := always afterNoticed _ (renamed [])
    ((Reaches.here started_start).play noticed (Option.some_get _).symm) (Option.some_get ran).symm
    ⟨{ afterNoticed with getTechnologiesCall := none }, none, .dictionary ("/t", [("Name", .variant (.string "WiFi"))])⟩
    (List.mem_singleton.mpr rfl)
  obtain ⟨_, key, mem, named⟩ := none_ 0 .powered ⟨2, ⟨updateChange 0 .powered, by decide +kernel, rfl, rfl, rfl⟩,
    by decide +kernel⟩
  rw [List.mem_singleton.mp mem] at named
  cases named

end Technology

end ConnmanUi
