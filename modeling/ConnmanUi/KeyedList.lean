import Mathlib.Data.List.Basic
import Mathlib.Order.Lattice

/-!
Lists in the order of their keys.

Records appended under growing keys, replaced in place and taken out stay in the
order of their keys, each key being there once.  So a key finds its record, a
record that is replaced splits the list in two that stay as they are, and the
record that follows another has the least of the greater keys: whoever goes
through such a list while it changes meets the records in the order of the keys.
-/

namespace ConnmanUi.Keyed

variable {α β κ : Type*} [LinearOrder κ] {key : α → κ} {l : List α} {a b : α} {k k' : κ}

/-- In the order of the keys, each of them there once. -/
def Ordered (key : α → κ) (l : List α) : Prop := l.Pairwise fun a b => key a < key b

theorem find_spec (found : l.find? (key · = k) = some a) : a ∈ l ∧ key a = k :=
  ⟨List.mem_of_find?_eq_some found, by simpa using List.find?_some found⟩

theorem Ordered.find (ordered : Ordered key l) (mem : a ∈ l) : l.find? (key · = key a) = some a := by
  induction l with
  | nil => cases mem
  | cons b l ih =>
    obtain ⟨before, rest⟩ := List.pairwise_cons.mp ordered
    rcases List.mem_cons.mp mem with rfl | later
    · exact List.find?_cons_of_pos (decide_eq_true rfl)
    · rw [List.find?_cons_of_neg (by simpa using (before a later).ne)]
      exact ih rest later

theorem Ordered.eq (ordered : Ordered key l) (left : a ∈ l) (right : b ∈ l) (same : key a = key b) : a = b := by
  have found := ordered.find left
  rw [same, ordered.find right] at found
  exact (Option.some.inj found).symm

theorem Ordered.concat (ordered : Ordered key l) (above : ∀ b ∈ l, key b < key a) : Ordered key (l ++ [a]) :=
  List.pairwise_append.mpr ⟨ordered, List.pairwise_singleton _ _, fun b mem c last => by
    rw [List.mem_singleton.mp last]
    exact above b mem⟩

theorem Ordered.filter (ordered : Ordered key l) (p : α → Bool) : Ordered key (l.filter p) :=
  List.Pairwise.filter p ordered

/-- Records change, and keep their keys. -/
theorem Ordered.map (ordered : Ordered key l) {f : α → α} (keeps : ∀ a ∈ l, key (f a) = key a) :
    Ordered key (l.map f) := by
  refine List.pairwise_map.mpr (List.Pairwise.imp_of_mem (fun {a b} left right before => ?_) ordered)
  rw [keeps a left, keeps b right]
  exact before

/-- A record is replaced, and what is before and behind it stays. -/
theorem Ordered.replace (ordered : Ordered key l) (mem : a ∈ l) (same : key b = key a) :
    ∃ front back, l = front ++ a :: back ∧
      (l.map fun old => if key old = key b then b else old) = front ++ b :: back := by
  obtain ⟨front, back, rfl⟩ := List.append_of_mem mem
  refine ⟨front, back, rfl, ?_⟩
  obtain ⟨_, rest, apart⟩ := List.pairwise_append.mp ordered
  obtain ⟨behind, _⟩ := List.pairwise_cons.mp rest
  have fronts : ∀ c ∈ front, (if key c = key b then b else c) = c := fun c inFront =>
    if_neg (by rw [same]; exact (apart c inFront a List.mem_cons_self).ne)
  have backs : ∀ c ∈ back, (if key c = key b then b else c) = c := fun c inBack =>
    if_neg (by rw [same]; exact (behind c inBack).ne')
  rw [List.map_append, List.map_cons, if_pos same.symm, List.map_congr_left fronts, List.map_congr_left backs,
    List.map_id', List.map_id']

/-- A record is taken out, and what is before and behind it stays. -/
theorem Ordered.remove (ordered : Ordered key l) (mem : a ∈ l) :
    ∃ front back, l = front ++ a :: back ∧ l.filter (key · ≠ key a) = front ++ back := by
  obtain ⟨front, back, rfl⟩ := List.append_of_mem mem
  refine ⟨front, back, rfl, ?_⟩
  obtain ⟨_, rest, apart⟩ := List.pairwise_append.mp ordered
  obtain ⟨behind, _⟩ := List.pairwise_cons.mp rest
  have fronts : front.filter (key · ≠ key a) = front := List.filter_eq_self.mpr fun c inFront =>
    decide_eq_true (apart c inFront a List.mem_cons_self).ne
  have backs : back.filter (key · ≠ key a) = back := List.filter_eq_self.mpr fun c inBack =>
    decide_eq_true (behind c inBack).ne'
  rw [List.filter_append, List.filter_cons_of_neg (by simp), fronts, backs]

/-- A record is found with all that is behind it. -/
theorem Ordered.dropWhile {front back : List α} (ordered : Ordered key (front ++ a :: back)) :
    (front ++ a :: back).dropWhile (key · ≠ key a) = a :: back := by
  obtain ⟨_, _, apart⟩ := List.pairwise_append.mp ordered
  rw [List.dropWhile_append_of_pos fun c inFront => decide_eq_true (apart c inFront a List.mem_cons_self).ne]
  exact List.dropWhile_cons_of_neg (by simp)

/-- What follows a record: nothing, if no key is greater, and otherwise the record
with the least of the greater keys. -/
theorem Ordered.successor (ordered : Ordered key l) (mem : a ∈ l) :
    match (l.dropWhile (key · ≠ key a)).tail.head? with
    | none => ∀ b ∈ l, key b ≤ key a
    | some c => c ∈ l ∧ key a < key c ∧ ∀ b ∈ l, key a < key b → key c ≤ key b := by
  obtain ⟨front, back, rfl⟩ := List.append_of_mem mem
  obtain ⟨_, rest, apart⟩ := List.pairwise_append.mp ordered
  obtain ⟨behind, later⟩ := List.pairwise_cons.mp rest
  have notAfter : ∀ b ∈ front ++ [a], key b ≤ key a := by
    intro b inFront
    rcases List.mem_append.mp inFront with before | last
    · exact (apart b before a List.mem_cons_self).le
    · rw [List.mem_singleton.mp last]
  rw [ordered.dropWhile, List.tail_cons]
  cases back with
  | nil => exact notAfter
  | cons c back =>
    obtain ⟨least, _⟩ := List.pairwise_cons.mp later
    refine ⟨by simp, behind c List.mem_cons_self, fun b inside above => ?_⟩
    rw [List.append_cons] at inside
    rcases List.mem_append.mp inside with before | after
    · exact absurd above (notAfter b before).not_gt
    · rcases List.mem_cons.mp after with rfl | later
      · exact le_rfl
      · exact (least b later).le

end ConnmanUi.Keyed
