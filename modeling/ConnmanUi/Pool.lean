import Mathlib.Data.List.Basic
import Mathlib.Data.List.MinMax
import Mathlib.Logic.Function.Basic

/-!
Pools of handles, and slots that record them.

A main loop hands out source ids, a connection hands out pending calls, a bus
hands out watch ids: each is a `Pool` of live handles that name a payload.  A
handle is never zero and never one that is live, but it may be one that has
been released (`HandleSupply`).

Programs keep handles in slots, with zero for none.  `Tracks` is the
bookkeeping invariant such a program needs: a slot holds a nonzero handle
exactly when the pool has a payload for that slot, under that handle.  The
lemmas below say how attaching, detaching and releasing a whole set of slots
keep it.
-/

namespace ConnmanUi

/-- Dropping a key from an association list. -/
theorem lookup_filter_ne {κ β : Type} [DecidableEq κ] (table : List (κ × β)) (h k : κ) :
    (table.filter (·.1 ≠ h)).lookup k = if k = h then none else table.lookup k := by
  induction table with
  | nil => simp
  | cons entry rest ih =>
    rw [List.filter_cons]
    by_cases dropped : entry.1 = h
    · rw [if_neg (by simp [dropped]), ih, List.lookup_cons]
      by_cases same : k = h
      · simp [same]
      · simp [same, dropped, beq_eq_false_iff_ne.mpr same]
    · rw [if_pos (by simp [dropped]), List.lookup_cons, List.lookup_cons, ih]
      by_cases same : k = entry.1
      · simp [same, dropped]
      · simp [beq_eq_false_iff_ne.mpr same]

/-- Whoever chooses handles: any choice, as long as it is not zero and not one
of the handles in use.  It may depend on the handles in use and on all those
given out so far. -/
structure HandleSupply where
  pick : (used issued : List Nat) → Nat
  pick_ne_zero : ∀ used issued, pick used issued ≠ 0
  pick_fresh : ∀ used issued, pick used issued ∉ used

/-- A supply that numbers: what it gave out once it never gives out again. -/
def HandleSupply.Numbers (supply : HandleSupply) : Prop :=
  ∀ used issued, supply.pick used issued ∉ issued

/-- The supply that counts up. -/
def HandleSupply.counting : HandleSupply where
  pick used issued := (used ++ issued).foldr max 0 + 1
  pick_ne_zero _ _ := Nat.succ_ne_zero _
  pick_fresh _ issued mem :=
    Nat.not_succ_le_self _ (List.le_max_of_le' 0 (List.mem_append_left issued mem) (Nat.le_refl _))

theorem HandleSupply.counting_numbers : counting.Numbers := fun used _ mem =>
  Nat.not_succ_le_self _ (List.le_max_of_le' 0 (List.mem_append_right used mem) (Nat.le_refl _))

/-- The live handles, with what each of them names, and the handles given out
so far. -/
structure Pool (α : Type) where
  supply : HandleSupply
  issued : List Nat := []
  live : List (Nat × α) := []
  nonzero : ∀ entry ∈ live, entry.1 ≠ 0 := by simp
  given : ∀ entry ∈ live, entry.1 ∈ issued := by simp

namespace Pool

variable {α κ : Type} {p : Pool α} {a : α} {h k : Nat}

/-- Nothing has been given out. -/
def ofSupply (supply : HandleSupply) : Pool α := { supply := supply }

/-- What a handle names, if it is live. -/
def find (p : Pool α) (h : Nat) : Option α := p.live.lookup h

/-- The handle the next payload gets. -/
def fresh (p : Pool α) : Nat := p.supply.pick (p.live.map Prod.fst) p.issued

/-- A new payload under the next handle. -/
def attach (p : Pool α) (a : α) : Pool α where
  supply := p.supply
  issued := p.fresh :: p.issued
  live := (p.fresh, a) :: p.live
  nonzero entry mem := by
    rcases List.mem_cons.mp mem with rfl | old
    · exact p.supply.pick_ne_zero _ _
    · exact p.nonzero entry old
  given entry mem := by
    rcases List.mem_cons.mp mem with rfl | old
    · exact List.mem_cons_self
    · exact List.mem_cons_of_mem _ (p.given entry old)

/-- The handle is released. -/
def detach (p : Pool α) (h : Nat) : Pool α where
  supply := p.supply
  issued := p.issued
  live := p.live.filter (·.1 ≠ h)
  nonzero entry mem := p.nonzero entry (List.mem_of_mem_filter mem)
  given entry mem := p.given entry (List.mem_of_mem_filter mem)

theorem fresh_ne_zero (p : Pool α) : p.fresh ≠ 0 := p.supply.pick_ne_zero _ _

theorem find_eq_none_of_not_mem (absent : h ∉ p.live.map Prod.fst) : p.find h = none := by
  rw [find, List.lookup_eq_none_iff]
  intro entry mem
  simpa using fun same : h = entry.1 => absent (same ▸ List.mem_map_of_mem mem)

@[simp] theorem find_fresh (p : Pool α) : p.find p.fresh = none :=
  find_eq_none_of_not_mem (p.supply.pick_fresh _ _)

@[simp] theorem find_zero (p : Pool α) : p.find 0 = none := by
  refine find_eq_none_of_not_mem fun mem => ?_
  obtain ⟨entry, member, zero⟩ := List.mem_map.mp mem
  exact p.nonzero entry member zero

theorem find_attach (p : Pool α) (a : α) (h : Nat) :
    (p.attach a).find h = if h = p.fresh then some a else p.find h := by
  simp only [find, attach, List.lookup_cons]
  by_cases same : h = p.fresh
  · simp [same]
  · simp [same, beq_eq_false_iff_ne.mpr same]

theorem find_detach (p : Pool α) (h k : Nat) :
    (p.detach h).find k = if k = h then none else p.find k := lookup_filter_ne p.live h k

theorem ne_zero_of_find (found : p.find h = some a) : h ≠ 0 := by
  rintro rfl
  simp at found

theorem detach_of_find_none (absent : p.find h = none) : p.detach h = p := by
  have kept : p.live.filter (·.1 ≠ h) = p.live := by
    refine List.filter_eq_self.mpr fun entry mem => ?_
    have other := List.lookup_eq_none_iff.mp absent entry mem
    exact decide_eq_true (bne_iff_ne.mp other).symm
  cases p
  simp only [detach, Pool.mk.injEq, true_and] at kept ⊢
  exact kept

@[simp] theorem detach_zero (p : Pool α) : p.detach 0 = p := detach_of_find_none (find_zero p)

/-- Releasing a list of handles, zeros standing for none. -/
def releaseAll (p : Pool α) (handles : List Nat) : Pool α := handles.foldl detach p

theorem find_releaseAll (handles : List Nat) (p : Pool α) (k : Nat) :
    (p.releaseAll handles).find k = if k ∈ handles then none else p.find k := by
  induction handles generalizing p with
  | nil => simp [releaseAll]
  | cons h handles ih =>
    rw [releaseAll, List.foldl_cons, ← releaseAll, ih, find_detach]
    by_cases here : k = h
    · simp [here]
    · simp [here]

/-! ### Slots -/

/-- `slot` records exactly the live handles whose payload has a `key`: a slot
holds zero or the handle of a payload of its own, and every such payload's
handle is in its slot. -/
structure Tracks (p : Pool α) (key : α → Option κ) (slot : κ → Nat) : Prop where
  holds : ∀ k, slot k ≠ 0 → ∃ a, p.find (slot k) = some a ∧ key a = some k
  stored : ∀ h a k, p.find h = some a → key a = some k → slot k = h

variable {key : α → Option κ} {slot slot' : κ → Nat} {i : κ}

namespace Tracks

theorem congr (t : Tracks p key slot) (same : ∀ i, slot' i = slot i) : Tracks p key slot' := by
  have : slot' = slot := funext same
  exact this ▸ t

/-- A payload for an empty slot goes in under a new handle. -/
theorem attach [DecidableEq κ] (t : Tracks p key slot) (own : key a = some i) (free : slot i = 0) :
    Tracks (p.attach a) key (Function.update slot i p.fresh) where
  holds j used := by
    by_cases same : j = i
    · subst same
      exact ⟨a, by simp [find_attach], own⟩
    · rw [Function.update_of_ne same] at used ⊢
      obtain ⟨b, found, mine⟩ := t.holds j used
      refine ⟨b, ?_, mine⟩
      rw [find_attach, if_neg]
      · exact found
      · intro clash
        rw [clash, find_fresh] at found
        cases found
  stored h b j found mine := by
    rw [find_attach] at found
    split at found
    case isTrue here =>
      cases found
      rw [own] at mine
      cases mine
      simp [here]
    case isFalse other =>
      by_cases same : j = i
      · subst same
        have := t.stored h b j found mine
        rw [free] at this
        exact absurd this.symm (ne_zero_of_find found)
      · rw [Function.update_of_ne same]
        exact t.stored h b j found mine

/-- A payload without a key leaves the slots alone. -/
theorem attach_other (t : Tracks p key slot) (other : key a = none) :
    Tracks (p.attach a) key slot where
  holds j used := by
    obtain ⟨b, found, mine⟩ := t.holds j used
    refine ⟨b, ?_, mine⟩
    rw [find_attach, if_neg]
    · exact found
    · intro clash
      rw [clash, find_fresh] at found
      cases found
  stored h b j found mine := by
    rw [find_attach] at found
    split at found
    · cases found
      rw [other] at mine
      cases mine
    · exact t.stored h b j found mine

/-- Releasing handles that include those of a set of slots, and none of any
other slot, empties the set. -/
theorem release [DecidableEq κ] (t : Tracks p key slot) (slots : List κ) (handles : List Nat)
    (covers : ∀ k ∈ slots, slot k ∈ handles)
    (only : ∀ h ∈ handles, ∀ a k, p.find h = some a → key a = some k → k ∈ slots) :
    Tracks (p.releaseAll handles) key (fun j => if j ∈ slots then 0 else slot j) where
  holds j used := by
    by_cases mem : j ∈ slots
    · simp [mem] at used
    · simp only [mem, ↓reduceIte] at used ⊢
      obtain ⟨b, found, mine⟩ := t.holds j used
      refine ⟨b, ?_, mine⟩
      rw [find_releaseAll, if_neg fun clash => mem (only _ clash b j found mine)]
      exact found
  stored h b j found mine := by
    rw [find_releaseAll] at found
    split at found
    case isTrue => cases found
    case isFalse other =>
      have here := t.stored h b j found mine
      rw [if_neg, here]
      intro mem
      apply other
      rw [← here]
      exact covers j mem

/-- Releasing exactly the handles of a set of slots empties them. -/
theorem releaseAll [DecidableEq κ] (t : Tracks p key slot) (slots : List κ) :
    Tracks (p.releaseAll (slots.map slot)) key (fun j => if j ∈ slots then 0 else slot j) := by
  refine t.release slots _ (fun k mem => List.mem_map_of_mem mem) fun h mem a k found own => ?_
  obtain ⟨i, member, rfl⟩ := List.mem_map.mp mem
  obtain ⟨b, found', own'⟩ := t.holds i (ne_zero_of_find found)
  rw [found] at found'
  cases found'
  rw [own] at own'
  cases own'
  exact member

/-- Releasing the handle in one slot empties it. -/
theorem detach [DecidableEq κ] (t : Tracks p key slot) (i : κ) :
    Tracks (p.detach (slot i)) key (Function.update slot i 0) := by
  refine (t.releaseAll [i]).congr fun j => ?_
  by_cases same : j = i
  · simp [same]
  · simp [same]

/-- Releasing a handle that is in no slot leaves the slots alone. -/
theorem detach_other [DecidableEq κ] (t : Tracks p key slot)
    (other : ∀ a, p.find h = some a → key a = none) : Tracks (p.detach h) key slot := by
  refine (t.release [] [h] nofun fun h' mem a k found own => ?_).congr fun j => by simp
  rw [List.mem_singleton.mp mem] at found
  rw [other a found] at own
  cases own

end Tracks

/-- Every slot holds zero or a handle given out, and where that handle is still
live it names the slot's own payload.  Unlike `Tracks` this survives payloads
that are released behind the slot's back. -/
structure Records (p : Pool α) (key : α → κ) (slot : κ → Nat) : Prop where
  issued : ∀ k, slot k ≠ 0 → slot k ∈ p.issued
  own : ∀ k a, p.find (slot k) = some a → key a = k

theorem find_of_find_detach (found : (p.detach h).find k = some a) : p.find k = some a := by
  rw [find_detach] at found
  split at found
  · cases found
  · exact found

namespace Records

variable {keyOf : α → κ}

theorem congr (r : Records p keyOf slot) (same : ∀ k, slot' k = slot k) : Records p keyOf slot' := by
  have : slot' = slot := funext same
  exact this ▸ r

/-- Slots may be emptied, and handles released, at any time. -/
theorem mono {q : Pool α} (r : Records p keyOf slot) (issued : ∀ k ∈ p.issued, k ∈ q.issued)
    (live : ∀ k b, q.find k = some b → p.find k = some b)
    (slots : ∀ k, slot' k = slot k ∨ slot' k = 0) : Records q keyOf slot' where
  issued k used := by
    rcases slots k with same | empty
    · rw [same] at used ⊢
      exact issued _ (r.issued k used)
    · exact absurd empty used
  own k b found := by
    rcases slots k with same | empty
    · rw [same] at found
      exact r.own k b (live _ _ found)
    · rw [empty, find_zero] at found
      cases found

theorem detach (r : Records p keyOf slot) (h : Nat) : Records (p.detach h) keyOf slot :=
  r.mono (fun _ mem => mem) (fun _ _ => find_of_find_detach) fun _ => .inl rfl

/-- A payload goes in under a new number, which may overwrite its slot. -/
theorem attach [DecidableEq κ] (r : Records p keyOf slot) (numbers : p.supply.Numbers) (a : α) :
    Records (p.attach a) keyOf (Function.update slot (keyOf a) p.fresh) where
  issued k used := by
    by_cases same : k = keyOf a
    · subst same
      simp [Pool.attach]
    · rw [Function.update_of_ne same] at used ⊢
      exact List.mem_cons_of_mem _ (r.issued k used)
  own k b found := by
    rw [find_attach] at found
    by_cases same : k = keyOf a
    · subst same
      rw [Function.update_self, if_pos rfl] at found
      cases found
      rfl
    · rw [Function.update_of_ne same] at found
      split at found
      case isTrue here =>
        have used : slot k ≠ 0 := here ▸ p.fresh_ne_zero
        exact absurd (here ▸ r.issued k used) (numbers _ _)
      case isFalse => exact r.own k b found

end Records

end Pool

end ConnmanUi
