import Mathlib.Data.Set.Insert
import ConnmanUi.Subscription
import ConnmanUi.TechnologySteps

/-!
The table of technologies against ConnMan's own set of them.

ConnMan's technologies come and go, each announced by a signal that the bus
delivers if the client was watching when it was sent.  The client lists them,
registers for both signals and lists them again.  Nothing it does takes a
technology out of the table but TechnologyRemoved, so a technology that leaves
after the first listing and before the registration stays in it
(`not_always_converged`); `converged` says the table is right in all other runs.
-/

namespace ConnmanUi.Technology

open Registry Run Subscription

/-! ## The system -/

inductive Signal where
  | added (technology : String × Dict)
  | removed (path : String)

/-- ConnMan, the bus and the client. -/
structure Bus where
  technologies : List String
  /-- What is in flight to the client, oldest first. -/
  queue : List (Message Signal (List (String × Dict))) := []
  /-- How many GetTechnologies calls ConnMan has answered. -/
  answered : Nat := 0
  client : State

inductive BusEvent where
  /-- A technology appears. -/
  | add (path : String) (dict : Dict)
  /-- A technology disappears. -/
  | remove (path : String)
  /-- ConnMan answers the next call; the technologies have these properties. -/
  | answer (properties : String → Dict)
  /-- The oldest message reaches the client. -/
  | deliver (uninit : Option String)
  /-- The client does something on its own. -/
  | own (e : Event)

/-- The steps of the client besides those a message of the manager's makes. -/
def Own : Event → Bool
  | .technologyAdded .. => false
  | .technologyRemoved _ => false
  | .getTechnologiesReply .. => false
  | .finalize => false
  | _ => true

/-- What the client does with a message: one without a watch, or an answer to a
call that was cancelled, is dropped. -/
def receive (uninit : Option String) (s : State) : Message Signal (List (String × Dict)) → Option State
  | .event (.added technology) =>
    if s.technologySignals then step s (.technologyAdded uninit technology) else some s
  | .event (.removed path) =>
    if s.technologySignals then step s (.technologyRemoved path) else some s
  | .reply call technologies =>
    if s.getTechnologiesCall = some call then
      step s (.getTechnologiesReply call uninit (.technologies technologies))
    else some s

/-- A signal is sent to a client that watches. -/
def Bus.announce (b : Bus) (signal : Signal) : Bus :=
  if b.client.technologySignals then { b with queue := b.queue ++ [.event signal] } else b

/-- One step of the system. -/
def busStep (b : Bus) : BusEvent → Option Bus
  | .add path dict =>
    if path ∈ b.technologies then none
    else some (Bus.announce { b with technologies := path :: b.technologies } (.added (path, dict)))
  | .remove path =>
    if path ∈ b.technologies then
      some (Bus.announce { b with technologies := b.technologies.filter (· ≠ path) } (.removed path))
    else none
  | .answer properties =>
    if b.answered < b.client.sent then
      some { b with
        queue := b.queue ++ [.reply b.answered (b.technologies.map fun path => (path, properties path))]
        answered := b.answered + 1 }
    else none
  | .deliver uninit =>
    match b.queue with
    | [] => none
    | m :: queue => (receive uninit b.client m).map fun client => { b with queue := queue, client := client }
  | .own e => if Own e then (step b.client e).map fun client => { b with client := client } else none

/-- Any technologies, and a client that has not been started. -/
def BusStart (b : Bus) : Prop := b.queue = [] ∧ b.answered = 0 ∧ Boot b.client

/-- Nothing is in flight, the signals are registered and every call has been
answered. -/
def Rested (b : Bus) : Prop :=
  b.queue = [] ∧ b.client.technologySignals = true ∧ b.answered = b.client.sent

/-- The keys of the table are ConnMan's technologies. -/
def Converged (b : Bus) : Prop :=
  ∀ path, path ∈ connmanTechnologyGetTechnologies b.client ↔ path ∈ b.technologies

/-- The message lists the technology. -/
def names (path : String) : Message Signal (List (String × Dict)) → Prop
  | .event (.added technology) => technology.1 = path
  | .event (.removed _) => False
  | .reply _ technologies => path ∈ technologies.map Prod.fst

instance (path : String) (m : Message Signal (List (String × Dict))) : Decidable (names path m) :=
  match m with
  | .event (.added _) => inferInstanceAs (Decidable (_ = _))
  | .event (.removed _) => inferInstanceAs (Decidable False)
  | .reply .. => inferInstanceAs (Decidable (_ ∈ _))

/-- No technology leaves unannounced while a message in flight lists it. -/
def Witnessed (b : Bus) : BusEvent → Prop
  | .remove path => b.client.technologySignals = true ∨ ∀ m ∈ b.queue, ¬ names path m
  | _ => True

instance (b : Bus) (e : BusEvent) : Decidable (Witnessed b e) :=
  match e with
  | .remove _ => inferInstanceAs (Decidable (_ ∨ _))
  | .add .. => isTrue trivial
  | .answer _ => isTrue trivial
  | .deliver _ => isTrue trivial
  | .own _ => isTrue trivial

/-! ## The client as a subscriber -/

/-- The table as a set, and whether the signals are heard. -/
structure Table where
  heard : Bool
  known : Set String

/-- How the table takes signals and listings in. -/
def protocol : Protocol Table Signal (List (String × Dict)) where
  apply t signal :=
    if t.heard then
      match signal with
      | .added technology => { t with known := insert technology.1 t.known }
      | .removed path => { t with known := t.known \ {path} }
    else t
  absorb t technologies := { heard := true, known := t.known ∪ {path | path ∈ technologies.map Prod.fst} }
  renews signal :=
    match signal with
    | .added _ => true
    | .removed _ => false

/-- The client's side of the protocol. -/
def view (s : State) : Subscriber Table where
  data := { heard := s.technologySignals, known := {path | path ∈ s.reg.table.map Prod.fst} }
  calls := { again := s.set, call := s.getTechnologiesCall, sent := s.sent }

variable {uninit : Option String} {s s' : State} {e : Event} {b b' : Bus} {path : String}

theorem view_listed {listed : State} {paths : List String} (lists : Lists s listed paths) :
    view listed = { view s with
      data := { (view s).data with known := (view s).data.known ∪ {path | path ∈ paths} } } := by
  have known : {path | path ∈ listed.reg.table.map Prod.fst} =
      {path | path ∈ s.reg.table.map Prod.fst} ∪ {path | path ∈ paths} :=
    Set.ext lists.known
  unfold view
  rw [lists.rest]
  simp only [known]

theorem view_added (tidy : Tidy s) (heard : s.technologySignals = true) (technology : String × Dict) :
    view (technologyAddedCb uninit s technology) = protocol.take (view s) (.event (.added technology)) := by
  obtain ⟨listed, lists, handled⟩ :=
    technologyAddedCb_spec uninit tidy.owned tidy.unselected (tidy.signals heard) technology
  have data : (view s).data.known ∪ {path | path ∈ [technology.1]} = insert technology.1 (view s).data.known := by
    ext path
    simp [or_comm]
  have same := view_listed lists
  rw [data] at same
  rw [handled]
  cases set : s.set with
  | true =>
    have asked : view (connmanManagerGetTechnologies listed) = { view listed with calls := (view listed).calls.ask } :=
      rfl
    simp only [if_true]
    rw [asked, same]
    simp [Protocol.take, Calls.take, protocol, view, heard, set]
  | false =>
    simp only [Bool.false_eq_true, if_false]
    rw [same]
    simp [Protocol.take, Calls.take, protocol, view, heard, set]

theorem view_removed (heard : s.technologySignals = true) (path : String) :
    view (technologyRemovedCb s path) = protocol.take (view s) (.event (.removed path)) := by
  obtain ⟨_, rest, table⟩ := technologyRemovedCb_spec s path
  have known : {other | other ∈ (technologyRemovedCb s path).reg.table.map Prod.fst} =
      {other | other ∈ s.reg.table.map Prod.fst} \ {path} := by
    ext other
    rw [table]
    simp only [List.mem_map, List.mem_filter, decide_eq_true_eq, Set.mem_ofPred_eq, Set.mem_sdiff,
      Set.mem_singleton_iff]
    constructor
    · rintro ⟨entry, ⟨mem, ne⟩, rfl⟩
      exact ⟨⟨entry, mem, rfl⟩, ne⟩
    · rintro ⟨⟨entry, mem, rfl⟩, ne⟩
      exact ⟨entry, ⟨mem, ne⟩, rfl⟩
  unfold view
  rw [known, rest]
  simp [Protocol.take, Calls.take, protocol, heard]

theorem view_reply (tidy : Tidy s) (up : s.up = true) (registered : s.set = true → s.technologySignals = true)
    {call : Nat} (awaited : s.getTechnologiesCall = some call) (technologies : List (String × Dict)) :
    view (getTechnologiesCallback uninit s (.technologies technologies)) =
      protocol.take (view s) (.reply call technologies) := by
  obtain ⟨listed, lists, handled⟩ := getTechnologiesCb_spec uninit
    (s := { s with getTechnologiesCall := none }) tidy.owned tidy.unselected up technologies
  have same := view_listed lists
  unfold getTechnologiesCallback
  dsimp only at handled ⊢
  rw [handled]
  cases set : s.set with
  | true =>
    simp only [if_true]
    rw [same]
    simp [Protocol.take, Calls.take, protocol, view, awaited, set, registered set]
  | false =>
    have second : view (connmanManagerGetTechnologies
        { connmanManagerRegisterTechnologySignals listed true with set := true }) =
        { data := { (view listed).data with heard := true }
          calls := { (view listed).calls with again := true }.ask } := rfl
    simp only [Bool.false_eq_true, if_false]
    rw [second, same]
    simp [Protocol.take, Calls.take, Calls.ask, protocol, view, awaited, set]

/-- A message does to the client what the protocol says. -/
theorem view_receive (tidy : Tidy s) (registered : s.set = true → s.technologySignals = true)
    (asked : s.getTechnologiesCall ≠ none → s.up = true) (m : Message Signal (List (String × Dict)))
    (ran : receive uninit s m = some s') : view s' = protocol.take (view s) m := by
  have deaf : s.technologySignals = false → s.set = false := fun off => by
    cases set : s.set with
    | false => rfl
    | true => rw [registered set] at off; cases off
  cases m with
  | event signal =>
    cases signal with
    | added technology =>
      simp only [receive] at ran
      split at ran
      case isTrue heard =>
        cases (Option.ite_none_right_eq_some.mp (Option.ite_none_right_eq_some.mp ran).2).2
        exact view_added tidy heard technology
      case isFalse off =>
        cases ran
        have off := Bool.eq_false_iff.mpr off
        simp [Protocol.take, Calls.take, protocol, view, off, deaf off]
    | removed path =>
      simp only [receive] at ran
      split at ran
      case isTrue heard =>
        cases (Option.ite_none_right_eq_some.mp (Option.ite_none_right_eq_some.mp ran).2).2
        exact view_removed heard path
      case isFalse off =>
        cases ran
        have off := Bool.eq_false_iff.mpr off
        simp [Protocol.take, Calls.take, protocol, view, off]
  | reply call technologies =>
    simp only [receive] at ran
    split at ran
    case isTrue awaited =>
      cases (Option.ite_none_right_eq_some.mp (Option.ite_none_right_eq_some.mp ran).2).2
      exact view_reply tidy (asked (by simp [awaited])) registered awaited technologies
    case isFalse other =>
      cases ran
      simp [Protocol.take, Calls.take, view, other]


/-- No message takes the module down. -/
theorem up_receive (tidy : Tidy s) (up : s.up = true) (m : Message Signal (List (String × Dict)))
    (ran : receive uninit s m = some s') : s'.up = true := by
  have stays : ∀ {listed : State} {paths : List String}, Lists s listed paths → listed.up = true := by
    intro listed paths lists
    rw [lists.rest]
    exact up
  cases m with
  | event signal =>
    cases signal with
    | added technology =>
      simp only [receive] at ran
      split at ran
      case isTrue heard =>
        cases (Option.ite_none_right_eq_some.mp (Option.ite_none_right_eq_some.mp ran).2).2
        obtain ⟨listed, lists, handled⟩ := technologyAddedCb_spec uninit tidy.owned tidy.unselected up technology
        have same := stays lists
        rw [handled]
        split
        · exact same
        · exact same
      case isFalse =>
        cases ran
        exact up
    | removed path =>
      simp only [receive] at ran
      split at ran
      case isTrue heard =>
        cases (Option.ite_none_right_eq_some.mp (Option.ite_none_right_eq_some.mp ran).2).2
        rw [(technologyRemovedCb_spec s path).2.1]
        exact up
      case isFalse =>
        cases ran
        exact up
  | reply call technologies =>
    simp only [receive] at ran
    split at ran
    case isTrue awaited =>
      cases (Option.ite_none_right_eq_some.mp (Option.ite_none_right_eq_some.mp ran).2).2
      obtain ⟨listed, lists, handled⟩ := getTechnologiesCb_spec uninit
        (s := { s with getTechnologiesCall := none }) tidy.owned tidy.unselected up technologies
      unfold getTechnologiesCallback
      dsimp only at handled ⊢
      rw [handled]
      have same : listed.up = true := by
        rw [lists.rest]
        exact up
      split
      · exact same
      · exact same
    case isFalse =>
      cases ran
      exact up

theorem tidy_receive (tidy : Tidy s) (m : Message Signal (List (String × Dict)))
    (ran : receive uninit s m = some s') : Tidy s' := by
  cases m with
  | event signal =>
    cases signal with
    | added technology =>
      simp only [receive] at ran
      split at ran
      · exact tidy_step tidy ran
      · cases ran
        exact tidy
    | removed path =>
      simp only [receive] at ran
      split at ran
      · exact tidy_step tidy ran
      · cases ran
        exact tidy
  | reply call technologies =>
    simp only [receive] at ran
    split at ran
    · exact tidy_step tidy ran
    · cases ran
      exact tidy

/-- On its own the client only asks, when it starts. -/
theorem view_own (tidy : Tidy s) (own : Own e = true) (ran : step s e = some s') :
    (view s' = view s ∧ s'.up = s.up) ∨
      (s.up = false ∧ s'.up = true ∧ view s' = { view s with calls := (view s).calls.ask }) := by
  by_cases moving : Moving e
  · cases e with
    | init =>
      cases ran
      unfold connmanTechnologyInit
      split
      case isTrue => exact .inl ⟨rfl, rfl⟩
      case isFalse down => exact .inr ⟨Bool.eq_false_iff.mpr down, rfl, rfl⟩
    | technologyAdded => cases own
    | technologyRemoved => cases own
    | getTechnologiesReply => cases own
    | finalize => cases own
    | _ => exact moving.elim
  · have quiet := quiet_step tidy.owned ran moving
    left
    unfold view
    rw [quiet.place.table, quiet.set, quiet.call, quiet.sent, quiet.signals, quiet.up]
    exact ⟨rfl, rfl⟩

/-! ## The invariant -/

/-- The signals are registered with the second call, and until then the table
is empty. -/
structure Registered (v : Subscriber Table) : Prop where
  heard : v.data.heard = v.calls.again
  blank : v.data.heard = false → v.data.known = ∅

theorem Registered.take {v : Subscriber Table} (registered : Registered v)
    (m : Message Signal (List (String × Dict))) : Registered (protocol.take v m) := by
  have heard := registered.heard
  cases m with
  | event signal =>
    cases hears : v.data.heard with
    | true =>
      have again : v.calls.again = true := heard.symm.trans hears
      have still : (protocol.apply v.data signal).heard = true := by
        cases signal <;> simp [protocol, hears]
      have later : (protocol.take v (.event signal)).calls.again = true :=
        Calls.again_take (π := List (String × Dict)) protocol.renews (.event signal) again
      exact ⟨still.trans later.symm, fun off => absurd (still.symm.trans off) nofun⟩
    | false =>
      have first : v.calls.again = false := heard.symm.trans hears
      have same : protocol.take v (.event signal) = v := by
        simp [Protocol.take, Calls.take, protocol, hears, first]
      rw [same]
      exact registered
  | reply call technologies =>
    by_cases awaited : v.calls.call = some call
    · have hears : (protocol.take v (.reply call technologies)).data.heard = true := by
        simp [Protocol.take, awaited, protocol]
      have again : (protocol.take v (.reply call technologies)).calls.again = true := by
        simp only [Protocol.take, Calls.take, awaited, if_true]
        split
        case isTrue again => exact again
        case isFalse => rfl
      exact ⟨hears.trans again.symm, fun off => absurd (hears.symm.trans off) nofun⟩
    · have same : protocol.take v (.reply call technologies) = v := by
        simp [Protocol.take, Calls.take, awaited]
      rw [same]
      exact registered

/-- Everything ConnMan has is known, or will be. -/
def Complete (technologies : List String) (t : Table) : Prop := ∀ path ∈ technologies, path ∈ t.known

/-- The client once everything in flight has arrived. -/
abbrev Bus.settled (b : Bus) : Subscriber Table := protocol.settled b.queue (view b.client)

/-- The table will hold nothing ConnMan has not, and once the client has asked
again it will hold all that ConnMan has, or there is an answer still to be
given. -/
structure Synced (b : Bus) : Prop where
  tidy : Tidy b.client
  registered : Registered (view b.client)
  down : b.client.up = false → b.queue = [] ∧ b.client.getTechnologiesCall = none ∧ b.client.sent = 0 ∧
    b.client.set = false
  orderly : Orderly protocol.renews b.queue b.answered (view b.client).calls
  sound : ∀ path ∈ b.settled.data.known, path ∈ b.technologies
  complete : b.settled.calls.again = true → Current Complete b.technologies b.answered b.settled

theorem start_synced (start : BusStart b) : Synced b := by
  obtain ⟨empty, none_, boot⟩ := start
  have tidy := boot_tidy boot
  obtain ⟨technologies, queue, answered, client⟩ := b
  obtain ⟨sources, calls, scans, watches, rfl⟩ := boot
  cases empty
  cases none_
  exact {
    tidy := tidy
    registered := ⟨rfl, fun _ => by simp [view, Registry.empty]⟩
    down := fun _ => ⟨rfl, rfl, rfl, rfl⟩
    orderly := orderly_start _
    sound := nofun
    complete := nofun }

theorem heard_settled (heard : b.client.technologySignals = true) : b.settled.data.heard = true := by
  refine protocol.settled_data (I := fun t => t.heard = true) heard ?_ fun _ _ _ => rfl
  intro t signal heard
  simp only [protocol, heard, if_true]
  cases signal with
  | added technology => rfl
  | removed path => rfl

/-- What will be known is known now, or a message in flight lists it. -/
theorem known_settled (queue : List (Message Signal (List (String × Dict)))) (v : Subscriber Table)
    (mem : path ∈ (protocol.settled queue v).data.known) : path ∈ v.data.known ∨ ∃ m ∈ queue, names path m := by
  induction queue generalizing v with
  | nil => exact .inl mem
  | cons m queue ih =>
    rcases ih (protocol.take v m) mem with taken | ⟨late, there, listed⟩
    · have step : path ∈ v.data.known ∨ names path m := by
        cases m with
        | event signal =>
          simp only [Protocol.take, protocol] at taken
          split at taken
          · cases signal with
            | added technology => exact taken.symm.imp_right Eq.symm
            | removed other => exact .inl taken.1
          · exact .inl taken
        | reply call technologies =>
          simp only [Protocol.take, protocol] at taken
          split at taken
          · exact taken
          · exact .inl taken
      exact step.imp_right fun listed => ⟨m, List.mem_cons_self, listed⟩
    · exact .inr ⟨late, List.mem_cons_of_mem _ there, listed⟩

/-- Without the signals the second call may still be to come; else its answer
is. -/
theorem Synced.awaiting (synced : Synced b) (off : b.client.technologySignals = false)
    (again : b.settled.calls.again = true) : b.settled.calls.Awaiting b.answered := by
  have first : (view b.client).calls.again = false := synced.registered.heard.symm.trans off
  rw [settled_calls] at again ⊢
  obtain ⟨n, waits, le⟩ := synced.orderly.renewed first again
  exact ⟨n, waits, Nat.le_trans synced.orderly.bound le⟩

/-- ConnMan's technologies change, and the change is announced to a client that
watches. -/
theorem Synced.announce (synced : Synced b) (technologies : List String) (signal : Signal)
    (sound : b.settled.data.heard = true → ∀ path ∈ (protocol.apply b.settled.data signal).known, path ∈ technologies)
    (complete : b.settled.data.heard = true → Complete b.technologies b.settled.data →
      Complete technologies (protocol.apply b.settled.data signal))
    (quiet : b.client.technologySignals = false → ∀ path ∈ b.settled.data.known, path ∈ technologies) :
    Synced (Bus.announce { b with technologies := technologies } signal) := by
  unfold Bus.announce
  dsimp only
  cases heard : b.client.technologySignals with
  | true =>
    rw [if_pos rfl]
    exact {
      tidy := synced.tidy
      registered := synced.registered
      down := fun down => absurd (down.symm.trans (synced.tidy.signals heard)) nofun
      orderly := synced.orderly.event signal
      sound := fun path mem => by
        unfold Bus.settled at mem
        rw [settled_concat] at mem
        exact sound (heard_settled heard) path mem
      complete := fun again => by
        unfold Bus.settled at again ⊢
        rw [settled_concat] at again ⊢
        cases before : b.settled.calls.again with
        | true => exact (synced.complete before).event synced.orderly.bound_settled (complete (heard_settled heard))
        | false =>
          have same : (protocol.take b.settled (.event signal)).calls = b.settled.calls := by
            simp [Protocol.take, Calls.take, before]
          exact absurd ((congrArg Calls.again same).symm.trans again) (by simp [before]) }
  | false =>
    rw [if_neg (by simp)]
    exact {
      tidy := synced.tidy
      registered := synced.registered
      down := synced.down
      orderly := synced.orderly
      sound := quiet heard
      complete := fun again => .inl (synced.awaiting heard again) }


/-- ConnMan answers a call. -/
theorem Synced.answer (synced : Synced b) (asked : b.answered < b.client.sent) (technologies : List (String × Dict))
    (listed : technologies.map Prod.fst = b.technologies) :
    Synced { b with queue := b.queue ++ [.reply b.answered technologies], answered := b.answered + 1 } where
  tidy := synced.tidy
  registered := synced.registered
  down down := by
    obtain ⟨_, _, none_, _⟩ := synced.down down
    omega
  orderly := synced.orderly.answer asked technologies
  sound path mem := by
    unfold Bus.settled at mem
    rw [settled_concat] at mem
    by_cases awaited : b.settled.calls.call = some b.answered
    · simp only [Protocol.take, if_pos awaited] at mem
      rcases mem with known | there
      · exact synced.sound path known
      · exact listed ▸ there
    · simp only [Protocol.take, if_neg awaited] at mem
      exact synced.sound path mem
  complete again := by
    unfold Bus.settled at again ⊢
    rw [settled_concat] at again ⊢
    have full : Complete b.technologies (protocol.absorb b.settled.data technologies) :=
      fun path mem => .inr (listed.symm ▸ mem)
    cases before : b.settled.calls.again with
    | true => exact (synced.complete before).answer full
    | false =>
      by_cases awaited : b.settled.calls.call = some b.answered
      · right
        simp only [Protocol.take, if_pos awaited]
        exact full
      · have same : (protocol.take b.settled (.reply b.answered technologies)).calls = b.settled.calls :=
          Calls.take_other protocol.renews technologies awaited
        exact absurd ((congrArg Calls.again same).symm.trans again) (by simp [before])

/-- A message reaches the client. -/
theorem Synced.deliver (synced : Synced b) {m : Message Signal (List (String × Dict))}
    {queue : List (Message Signal (List (String × Dict)))} (first : b.queue = m :: queue)
    (ran : receive uninit b.client m = some s') : Synced { b with queue := queue, client := s' } := by
  have up : b.client.up = true := by
    cases up : b.client.up with
    | true => rfl
    | false => rw [(synced.down up).1] at first; cases first
  have same := view_receive synced.tidy synced.registered.heard.trans (fun _ => up) m ran
  have settled : Bus.settled { b with queue := queue, client := s' } = b.settled := by
    unfold Bus.settled
    rw [first, settled_cons, same]
  have orderly := synced.orderly
  rw [first] at orderly
  exact {
    tidy := tidy_receive synced.tidy m ran
    registered := same ▸ synced.registered.take m
    down := fun down => absurd (down.symm.trans (up_receive synced.tidy up m ran)) nofun
    orderly := by
      have arrived := orderly.arrive
      rw [show (view b.client).calls.take protocol.renews m = (view s').calls by rw [same]; rfl] at arrived
      exact arrived
    sound := settled ▸ synced.sound
    complete := settled ▸ synced.complete }

/-- The client does something on its own. -/
theorem Synced.own (synced : Synced b) (own : Own e = true) (ran : step b.client e = some s') :
    Synced { b with client := s' } := by
  have tidy := tidy_step synced.tidy ran
  rcases view_own synced.tidy own ran with ⟨same, up⟩ | ⟨down, up, asked⟩
  · have settled : Bus.settled { b with client := s' } = b.settled := by
      unfold Bus.settled
      rw [same]
    exact {
      tidy := tidy
      registered := same ▸ synced.registered
      down := fun down => by
        have calls := congrArg (·.calls) same
        obtain ⟨empty, call, none_, set⟩ := synced.down (up ▸ down)
        exact ⟨empty, (congrArg Calls.call calls).trans call, (congrArg Calls.sent calls).trans none_,
          (congrArg Calls.again calls).trans set⟩
      orderly := same ▸ synced.orderly
      sound := settled ▸ synced.sound
      complete := settled ▸ synced.complete }
  · obtain ⟨empty, _, _, set⟩ := synced.down down
    have first : (view b.client).calls = { (view b.client).calls with again := false } := by
      simp [view, set]
    have calls : (view s').calls = { (view b.client).calls with again := false }.ask := by
      rw [asked, ← first]
    have data : (view s').data = (view b.client).data := by rw [asked]
    have settled : Bus.settled { b with client := s' } = view s' := by simp [Bus.settled, empty, Protocol.settled]
    have before : b.settled = view b.client := by simp [Bus.settled, empty, Protocol.settled]
    have sound := synced.sound
    rw [before, ← data] at sound
    exact {
      tidy := tidy
      registered := {
        heard := by
          rw [data, calls, synced.registered.heard]
          exact set
        blank := data ▸ synced.registered.blank }
      down := fun down => absurd (down.symm.trans up) Bool.false_ne_true
      orderly := calls ▸ synced.orderly.restart
      sound := settled ▸ sound
      complete := fun again => by
        rw [settled, calls] at again
        cases again }

/-! ## Runs -/

theorem synced_step {event : BusEvent} (synced : Synced b) (witnessed : Witnessed b event)
    (ran : busStep b event = some b') : Synced b' := by
  cases event with
  | add path dict =>
    simp only [busStep] at ran
    split at ran
    case isTrue => cases ran
    case isFalse =>
      cases ran
      refine synced.announce _ _ (fun heard other mem => ?_) (fun heard complete other mem => ?_)
        fun _ other mem => List.mem_cons_of_mem _ (synced.sound other mem)
      · simp only [protocol, heard, if_true] at mem
        rcases mem with rfl | known
        · exact List.mem_cons_self
        · exact List.mem_cons_of_mem _ (synced.sound other known)
      · simp only [protocol, heard, if_true]
        rcases List.mem_cons.mp mem with rfl | old
        · exact .inl rfl
        · exact .inr (complete other old)
  | remove path =>
    obtain ⟨_, ran⟩ := Option.ite_none_right_eq_some.mp ran
    cases ran
    have stays : ∀ other, other ∈ b.technologies → other ≠ path →
        other ∈ b.technologies.filter (· ≠ path) := fun other mem ne =>
      List.mem_filter.mpr ⟨mem, by simpa using ne⟩
    refine synced.announce _ _ (fun heard other mem => ?_) (fun heard complete other mem => ?_)
      fun off other mem => ?_
    · simp only [protocol, heard, if_true] at mem
      exact stays other (synced.sound other mem.1) mem.2
    · simp only [protocol, heard, if_true]
      obtain ⟨old, ne⟩ := List.mem_filter.mp mem
      exact ⟨complete other old, by simpa using ne⟩
    · apply stays other (synced.sound other mem)
      rintro rfl
      -- it would be known from a message in flight: the table is still empty
      rcases known_settled _ _ mem with known | ⟨m, there, listed⟩
      · rw [synced.registered.blank off] at known
        exact known
      · rcases witnessed with heard | unnamed
        · exact absurd (heard.symm.trans off) nofun
        · exact unnamed m there listed
  | answer properties =>
    obtain ⟨asked, ran⟩ := Option.ite_none_right_eq_some.mp ran
    cases ran
    apply synced.answer asked _
    rw [List.map_map]
    exact List.map_id _
  | deliver uninit =>
    simp only [busStep] at ran
    split at ran
    case h_1 => cases ran
    case h_2 m queue first =>
      obtain ⟨client, received, rfl⟩ := Option.map_eq_some_iff.mp ran
      exact synced.deliver first received
  | own e =>
    obtain ⟨own, ran⟩ := Option.ite_none_right_eq_some.mp ran
    obtain ⟨client, stepped, rfl⟩ := Option.map_eq_some_iff.mp ran
    exact synced.own own stepped


theorem reaches_synced (reached : Reaches busStep Witnessed BusStart b) : Synced b :=
  reached.invariant (fun _ => start_synced) fun _ _ _ synced witnessed ran => synced_step synced witnessed ran

/-- Runs in which no technology leaves unannounced while a message in flight
lists it end with the right table whenever they rest. -/
theorem converged (b : Bus) (reached : Reaches busStep Witnessed BusStart b) (rested : Rested b) : Converged b := by
  have synced := reaches_synced reached
  obtain ⟨empty, signals, answered⟩ := rested
  have settled : b.settled = view b.client := by simp [Bus.settled, empty, Protocol.settled]
  have again : b.settled.calls.again = true := by
    rw [settled, ← synced.registered.heard]
    exact signals
  have complete := (synced.complete again).good fun n waits => by
    rw [settled] at waits
    exact answered ▸ synced.orderly.asked n waits
  have sound := synced.sound
  rw [settled] at complete sound
  exact fun path => ⟨sound path, complete path⟩


/-- One technology, and a client about to start. -/
def fresh : Bus := { technologies := ["/a"], client := started }

theorem fresh_start : BusStart fresh := ⟨rfl, rfl, started_boot⟩

/-- The technology leaves after it was listed and before the client registers
for the signals. -/
def unannounced : List BusEvent :=
  [.own .init, .answer fun _ => [], .remove "/a", .deliver none, .answer fun _ => [], .deliver none]

def afterUnannounced : Bus := (play busStep Always fresh unannounced).get (by decide +kernel)

theorem not_always_converged : ¬ ∀ b, Reaches busStep Always BusStart b → Rested b → Converged b := by
  intro always
  have ran : play busStep Always fresh unannounced = some afterUnannounced := (Option.some_get _).symm
  have converged := always afterUnannounced ((Reaches.here fresh_start).play unannounced ran)
    ⟨by decide +kernel, by decide +kernel, by decide +kernel⟩
  exact absurd ((converged "/a").mp (by decide +kernel)) (by decide +kernel)

/-- A technology comes and another leaves once the client watches. -/
def announced : List BusEvent :=
  [.own .init, .answer fun _ => [], .deliver none, .add "/b" [], .remove "/a", .deliver none, .deliver none,
    .answer fun _ => [], .answer fun _ => [], .deliver none, .deliver none]

def afterAnnounced : Bus := (play busStep Witnessed fresh announced).get (by decide +kernel)

theorem converged_announced :
    Rested afterAnnounced ∧ afterAnnounced.technologies = ["/b"] ∧ Converged afterAnnounced := by
  have ran : play busStep Witnessed fresh announced = some afterAnnounced := (Option.some_get _).symm
  have rested : Rested afterAnnounced := ⟨by decide +kernel, by decide +kernel, by decide +kernel⟩
  exact ⟨rested, by decide +kernel, converged _ ((Reaches.here fresh_start).play announced ran) rested⟩

end ConnmanUi.Technology
