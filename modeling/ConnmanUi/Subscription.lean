import Mathlib.Data.List.Basic

/-!
Keeping a copy of what someone else owns, over a queue that loses nothing and
reorders nothing.

A source answers numbered calls with a snapshot of what it owns and announces
its changes as events.  A subscriber keeps data: it takes in the snapshot of
the one call it waits for, and the events it hears.  It asks twice: the first
answer is followed by a second call, and so may an event be.  Every new call
replaces the one waited for, whose answer is then ignored.

What the subscriber will hold once everything in flight has arrived
(`settled`) does not change when a message arrives, so an invariant about it
only has to look at what the source does and at what the subscriber asks for.
`Orderly` is what the numbering of the calls guarantees; `Current` is the shape
the invariants take: the copy will be right, or there is an answer still to be
given.
-/

namespace ConnmanUi.Subscription

/-- What is on its way to the subscriber: an event, or the answer to a call. -/
inductive Message (ε π : Type) where
  | event (e : ε)
  | reply (call : Nat) (snapshot : π)

/-- The calls of a subscriber: whether it has asked for the second time, the
call it waits for and how many it has sent. -/
structure Calls where
  again : Bool := false
  call : Option Nat := none
  sent : Nat := 0

@[ext] structure Subscriber (δ : Type) where
  data : δ
  calls : Calls

/-- How a subscriber takes things in, and which events make it ask anew. -/
structure Protocol (δ ε π : Type) where
  apply : δ → ε → δ
  absorb : δ → π → δ
  renews : ε → Bool

variable {δ ε π σ : Type} {p : Protocol δ ε π} {queue : List (Message ε π)} {m : Message ε π}
  {c : Calls} {v : Subscriber δ} {answered n : Nat}

/-! ## Calls -/

/-- A new call replaces the one waited for. -/
def Calls.ask (c : Calls) : Calls := { c with call := some c.sent, sent := c.sent + 1 }

/-- What a message does to the calls. -/
def Calls.take (renews : ε → Bool) (c : Calls) : Message ε π → Calls
  | .event e => if renews e && c.again then c.ask else c
  | .reply n _ =>
    if c.call = some n then
      if c.again then { c with call := none } else { c with again := true }.ask
    else c

/-- The call waited for has yet to be answered. -/
def Calls.Awaiting (answered : Nat) (c : Calls) : Prop := ∃ n, c.call = some n ∧ answered ≤ n

instance (answered : Nat) (c : Calls) : Decidable (c.Awaiting answered) :=
  decidable_of_iff (∃ n ∈ c.call, answered ≤ n) Iff.rfl

theorem Calls.sent_take (renews : ε → Bool) (c : Calls) (m : Message ε π) : c.sent ≤ (c.take renews m).sent := by
  cases m with
  | event e =>
    simp only [take]
    split
    · exact Nat.le_succ _
    · exact Nat.le_refl _
  | reply n snapshot =>
    simp only [take]
    split
    · split
      · exact Nat.le_refl _
      · exact Nat.le_succ _
    · exact Nat.le_refl _

/-- A subscriber that has asked again stays so. -/
theorem Calls.again_take (renews : ε → Bool) (m : Message ε π) (again : c.again = true) :
    (c.take renews m).again = true := by
  cases m with
  | event e =>
    simp only [take]
    split
    · exact again
    · exact again
  | reply n snapshot =>
    simp only [take, again, if_true]
    split
    · rfl
    · exact again

theorem Calls.asked_take (renews : ε → Bool) (m : Message ε π) (asked : ∀ n, c.call = some n → n < c.sent) :
    ∀ n, (c.take renews m).call = some n → n < (c.take renews m).sent := by
  have anew : ∀ c : Calls, ∀ n, c.ask.call = some n → n < c.ask.sent := by
    intro c n call
    cases call
    exact Nat.lt_succ_self _
  cases m with
  | event e =>
    simp only [take]
    split
    · exact anew c
    · exact asked
  | reply n snapshot =>
    simp only [take]
    split
    · split
      · nofun
      · exact anew _
    · exact asked

/-- Until the second call is sent, messages change nothing about the first. -/
theorem Calls.take_first (renews : ε → Bool) (m : Message ε π) (first : (c.take renews m).again = false) :
    c.take renews m = c := by
  have before : c.again = false := by
    cases again : c.again with
    | false => rfl
    | true => rw [Calls.again_take renews m again] at first; cases first
  cases m with
  | event e => simp [take, before]
  | reply n snapshot =>
    simp only [take] at first ⊢
    rw [before] at first ⊢
    split
    case isTrue awaited =>
      rw [if_pos awaited] at first
      cases first
    case isFalse => rfl

/-- An answer other than the one waited for changes nothing. -/
theorem Calls.take_other (renews : ε → Bool) (snapshot : π) (other : c.call ≠ some n) :
    c.take renews (.reply n snapshot : Message ε π) = c := if_neg other

/-- What is waited for after an event was waited for before, or is a new call. -/
theorem Calls.awaiting_event (renews : ε → Bool) (e : ε) (bound : answered ≤ c.sent)
    (awaiting : c.Awaiting answered) : (c.take renews (.event e : Message ε π)).Awaiting answered := by
  simp only [take]
  split
  · exact ⟨c.sent, rfl, bound⟩
  · exact awaiting

/-! ## What will have arrived -/

/-- The calls once everything in flight has arrived. -/
def Calls.settled (renews : ε → Bool) (queue : List (Message ε π)) (c : Calls) : Calls :=
  queue.foldl (Calls.take renews) c

/-- A message arrives. -/
def Protocol.take (p : Protocol δ ε π) (v : Subscriber δ) (m : Message ε π) : Subscriber δ where
  data := match m with
    | .event e => p.apply v.data e
    | .reply n snapshot => if v.calls.call = some n then p.absorb v.data snapshot else v.data
  calls := v.calls.take p.renews m

/-- The subscriber once everything in flight has arrived. -/
def Protocol.settled (p : Protocol δ ε π) (queue : List (Message ε π)) (v : Subscriber δ) : Subscriber δ :=
  queue.foldl p.take v

theorem settled_cons (p : Protocol δ ε π) (m : Message ε π) (queue : List (Message ε π)) (v : Subscriber δ) :
    p.settled (m :: queue) v = p.settled queue (p.take v m) := rfl

theorem settled_concat (p : Protocol δ ε π) (queue : List (Message ε π)) (m : Message ε π) (v : Subscriber δ) :
    p.settled (queue ++ [m]) v = p.take (p.settled queue v) m := by simp [Protocol.settled]

/-- Where the calls are headed does not depend on the data. -/
theorem settled_calls (p : Protocol δ ε π) (queue : List (Message ε π)) (v : Subscriber δ) :
    (p.settled queue v).calls = v.calls.settled p.renews queue := by
  induction queue generalizing v with
  | nil => rfl
  | cons m queue ih =>
    rw [settled_cons, ih]
    rfl

theorem Calls.settled_concat (renews : ε → Bool) (queue : List (Message ε π)) (m : Message ε π) (c : Calls) :
    c.settled renews (queue ++ [m]) = (c.settled renews queue).take renews m := by simp [Calls.settled]

theorem Calls.sent_settled (renews : ε → Bool) (queue : List (Message ε π)) (c : Calls) :
    c.sent ≤ (c.settled renews queue).sent := by
  induction queue generalizing c with
  | nil => exact Nat.le_refl _
  | cons m queue ih => exact Nat.le_trans (c.sent_take renews m) (ih (c.take renews m))

/-- What a subscriber's data keeps under every message it keeps once settled. -/
theorem Protocol.settled_data (p : Protocol δ ε π) {I : δ → Prop} (initial : I v.data)
    (applied : ∀ d e, I d → I (p.apply d e)) (absorbed : ∀ d snapshot, I d → I (p.absorb d snapshot)) :
    I (p.settled queue v).data := by
  induction queue generalizing v with
  | nil => exact initial
  | cons m queue ih =>
    apply ih
    cases m with
    | event e => exact applied _ e initial
    | reply n snapshot =>
      simp only [take]
      split
      · exact absorbed _ snapshot initial
      · exact initial

/-! ## The numbering of the calls -/

/-- Calls are answered in the order they were sent; what is in flight answers
earlier ones.  As long as the second call has not been sent, the first is
waited for: either its answer is not in flight, and still to be given, or it is
in flight and the second call will be a new one. -/
structure Orderly (renews : ε → Bool) (queue : List (Message ε π)) (answered : Nat) (c : Calls) : Prop where
  bound : answered ≤ c.sent
  asked : ∀ n, c.call = some n → n < c.sent
  numbered : ∀ n snapshot, .reply n snapshot ∈ queue → n < answered
  waiting : c.again = false → (c.settled renews queue).again = false → ∀ n, c.call = some n →
    (c.settled renews queue).call = some n ∧ answered ≤ n
  renewed : c.again = false → (c.settled renews queue).again = true →
    ∃ n, (c.settled renews queue).call = some n ∧ c.sent ≤ n

variable {renews : ε → Bool}

theorem orderly_start (renews : ε → Bool) : Orderly (π := π) renews [] 0 {} where
  bound := Nat.le_refl _
  numbered := nofun
  asked _ asked := nomatch asked
  waiting _ _ _ asked := nomatch asked
  renewed _ again := nomatch again

/-- An event is announced. -/
theorem Orderly.event (orderly : Orderly renews queue answered c) (e : ε) :
    Orderly renews (queue ++ [.event e]) answered c where
  bound := orderly.bound
  asked := orderly.asked
  numbered n snapshot mem := by
    rcases List.mem_append.mp mem with old | new
    · exact orderly.numbered n snapshot old
    · cases List.mem_singleton.mp new
  waiting first later n asked := by
    rw [Calls.settled_concat] at later ⊢
    have same := Calls.take_first renews (.event e) later
    rw [same] at later ⊢
    exact orderly.waiting first later n asked
  renewed first later := by
    rw [Calls.settled_concat] at later ⊢
    simp only [Calls.take] at later ⊢
    split
    case isTrue renews => exact ⟨_, rfl, Calls.sent_settled _ _ _⟩
    case isFalse still =>
      rw [if_neg still] at later
      exact orderly.renewed first later

/-- The next call is answered. -/
theorem Orderly.answer (orderly : Orderly renews queue answered c) (asked : answered < c.sent) (snapshot : π) :
    Orderly renews (queue ++ [.reply answered snapshot]) (answered + 1) c where
  bound := asked
  asked := orderly.asked
  numbered n other mem := by
    rcases List.mem_append.mp mem with old | new
    · exact Nat.lt_succ_of_lt (orderly.numbered n other old)
    · cases List.mem_singleton.mp new
      exact Nat.lt_succ_self _
  waiting first later n called := by
    rw [Calls.settled_concat] at later ⊢
    have same := Calls.take_first renews (.reply answered snapshot) later
    rw [same] at later ⊢
    obtain ⟨waits, le⟩ := orderly.waiting first later n called
    refine ⟨waits, Nat.lt_of_le_of_ne le ?_⟩
    -- had it been this call's answer, the second would have been sent
    rintro rfl
    have again := congrArg Calls.again same
    simp only [Calls.take, waits, if_true, later, Bool.false_eq_true, if_false, Calls.ask] at again
    cases again
  renewed first later := by
    have sent := Calls.sent_settled renews queue c
    rw [Calls.settled_concat] at later ⊢
    cases already : (c.settled renews queue).again with
    | true =>
      obtain ⟨n, waits, le⟩ := orderly.renewed first already
      have other : (c.settled renews queue).call ≠ some answered := by
        rw [waits]
        simp only [ne_eq, Option.some.injEq]
        omega
      rw [Calls.take_other renews snapshot other]
      exact ⟨n, waits, le⟩
    | false =>
      by_cases awaited : (c.settled renews queue).call = some answered
      · simp only [Calls.take, if_pos awaited, already, Bool.false_eq_true, if_false]
        exact ⟨_, rfl, sent⟩
      · rw [Calls.take_other renews snapshot awaited, already] at later
        cases later

/-- A message arrives. -/
theorem Orderly.arrive (orderly : Orderly renews (m :: queue) answered c) :
    Orderly renews queue answered (c.take renews m) where
  bound := Nat.le_trans orderly.bound (c.sent_take renews m)
  asked := Calls.asked_take renews m orderly.asked
  numbered n snapshot mem := orderly.numbered n snapshot (List.mem_cons_of_mem _ mem)
  waiting first later n asked := by
    have same := Calls.take_first renews m first
    rw [same] at first asked
    exact orderly.waiting first later n asked
  renewed first later := by
    have same := Calls.take_first renews m first
    rw [same] at first
    obtain ⟨n, waits, le⟩ := orderly.renewed first later
    refine ⟨n, waits, ?_⟩
    rw [same]
    exact le

/-- No more calls are answered than will have been sent. -/
theorem Orderly.bound_settled (orderly : Orderly p.renews queue answered v.calls) :
    answered ≤ (p.settled queue v).calls.sent := by
  rw [settled_calls]
  exact Nat.le_trans orderly.bound (Calls.sent_settled _ _ _)

/-- Answers to other calls change nothing, and events nothing before the second
call. -/
theorem Calls.settled_first (renews : ε → Bool) (first : c.again = false)
    (other : ∀ n snapshot, .reply n snapshot ∈ queue → c.call ≠ some n) : c.settled renews queue = c := by
  induction queue with
  | nil => rfl
  | cons m queue ih =>
    have same : c.take renews m = c := by
      cases m with
      | event e => simp [take, first]
      | reply n snapshot => exact take_other renews snapshot (other n snapshot List.mem_cons_self)
    unfold settled at ih ⊢
    rw [List.foldl_cons, same]
    exact ih fun n snapshot mem => other n snapshot (List.mem_cons_of_mem _ mem)

/-- The subscriber starts over: none of the answers in flight is waited for. -/
theorem Orderly.settled_restart (orderly : Orderly renews queue answered c) :
    ({ c with again := false }.ask).settled renews queue = { c with again := false }.ask := by
  refine Calls.settled_first renews rfl fun n snapshot mem same => ?_
  have early := orderly.numbered n snapshot mem
  have bound := orderly.bound
  cases same
  exact absurd early (Nat.not_lt.mpr bound)

theorem Orderly.restart (orderly : Orderly renews queue answered c) :
    Orderly renews queue answered { c with again := false }.ask where
  bound := Nat.le_trans orderly.bound (Nat.le_succ _)
  asked n asked := by
    cases asked
    exact Nat.lt_succ_self _
  numbered := orderly.numbered
  waiting _ _ n asked := by
    rw [orderly.settled_restart]
    cases asked
    exact ⟨rfl, orderly.bound⟩
  renewed _ later := by
    rw [orderly.settled_restart] at later
    cases later

/-- Before the second call, an answer is still to be given. -/
theorem Orderly.awaiting_first (orderly : Orderly renews queue answered c) (first : c.again = false)
    (asked : c.call ≠ none) : (c.settled renews queue).Awaiting answered := by
  cases later : (c.settled renews queue).again with
  | true =>
    obtain ⟨n, waits, le⟩ := orderly.renewed first later
    exact ⟨n, waits, Nat.le_trans orderly.bound le⟩
  | false =>
    obtain ⟨n, call⟩ := Option.ne_none_iff_exists'.mp asked
    exact ⟨n, orderly.waiting first later n call⟩

/-- So it is while the call waited for is not answered. -/
theorem Orderly.awaiting_settled (orderly : Orderly renews queue answered c) (awaiting : c.Awaiting answered) :
    (c.settled renews queue).Awaiting answered := by
  have bound := orderly.bound
  have numbered := orderly.numbered
  clear orderly
  induction queue generalizing c with
  | nil => exact awaiting
  | cons m queue ih =>
    refine ih (c := c.take renews m) ?_ (Nat.le_trans bound (c.sent_take renews m))
      fun n snapshot mem => numbered n snapshot (List.mem_cons_of_mem _ mem)
    cases m with
    | event e => exact Calls.awaiting_event renews e bound awaiting
    | reply n snapshot =>
      obtain ⟨waited, call, le⟩ := awaiting
      have early := numbered n snapshot List.mem_cons_self
      have other : c.call ≠ some n := by
        rw [call]
        simp only [ne_eq, Option.some.injEq]
        omega
      rw [Calls.take_other renews snapshot other]
      exact ⟨waited, call, le⟩

/-! ## Being current -/

/-- What the subscriber holds agrees with the source, or there is an answer
still to be given. -/
def Current (Good : σ → δ → Prop) (source : σ) (answered : Nat) (v : Subscriber δ) : Prop :=
  v.calls.Awaiting answered ∨ Good source v.data

variable {Good : σ → δ → Prop} {source source' : σ}

/-- The source changes and announces it. -/
theorem Current.event {e : ε} (current : Current Good source answered v) (bound : answered ≤ v.calls.sent)
    (good : Good source v.data → Good source' (p.apply v.data e)) :
    Current Good source' answered (p.take v (.event e)) :=
  current.imp (Calls.awaiting_event (π := π) p.renews e bound) good

/-- The source answers the next call with what it has. -/
theorem Current.answer {snapshot : π} (current : Current Good source answered v)
    (good : Good source (p.absorb v.data snapshot)) :
    Current Good source (answered + 1) (p.take v (.reply answered snapshot)) := by
  by_cases awaited : v.calls.call = some answered
  · right
    simp only [Protocol.take, if_pos awaited]
    exact good
  · have same : p.take v (.reply answered snapshot) = v := by
      simp only [Protocol.take, if_neg awaited, Calls.take_other p.renews snapshot awaited]
    rw [same]
    refine current.imp_left fun ⟨n, waits, le⟩ => ⟨n, waits, ?_⟩
    rw [waits] at awaited
    simp only [Option.some.injEq] at awaited
    omega

/-- The subscriber starts over, and waits for a new call. -/
theorem Current.restart (orderly : Orderly p.renews queue answered c)
    (restarted : v.calls = { c with again := false }.ask) : Current Good source answered (p.settled queue v) := by
  left
  rw [settled_calls, restarted, orderly.settled_restart]
  exact ⟨_, rfl, orderly.bound⟩

/-- Once every call is answered and nothing is in flight, the data agrees. -/
theorem Current.good (current : Current Good source answered v)
    (done : ∀ n, v.calls.call = some n → n < answered) : Good source v.data := by
  rcases current with ⟨n, waits, le⟩ | held
  · exact absurd (done n waits) (Nat.not_lt.mpr le)
  · exact held

end ConnmanUi.Subscription
