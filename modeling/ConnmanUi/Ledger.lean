import Mathlib.Algebra.Order.Group.Multiset
import Mathlib.Data.List.AList

/-!
Books of references.

A program that counts references by hand acquires and releases them one by one;
a `Ledger` is what it holds at a moment, and what it has released without
holding it.  The books are `Balanced` against a multiset of stored references
if the program holds just these and has released none too many.

Stored references live in named slots, each of which holds one or none: an
association list, whose `contents` are what the books are to agree with.
-/

namespace ConnmanUi

structure Ledger (ρ : Type*) where
  held : Multiset ρ := 0
  /-- Released while not held. -/
  overdrawn : Multiset ρ := 0

namespace Ledger

variable {ρ : Type*} {L : Ledger ρ} {stored : Multiset ρ} {r : ρ}

def acquire (L : Ledger ρ) (r : ρ) : Ledger ρ := { L with held := r ::ₘ L.held }

def release [DecidableEq ρ] (L : Ledger ρ) (r : ρ) : Ledger ρ :=
  if r ∈ L.held then { L with held := L.held.erase r } else { L with overdrawn := r ::ₘ L.overdrawn }

/-- Just what is stored is held, and nothing was released twice. -/
def Balanced (L : Ledger ρ) (stored : Multiset ρ) : Prop := L.held = stored ∧ L.overdrawn = 0

/-- A reference that is stored as it is acquired keeps the balance. -/
theorem Balanced.acquire (balanced : L.Balanced stored) : (L.acquire r).Balanced (r ::ₘ stored) :=
  ⟨congrArg (r ::ₘ ·) balanced.1, balanced.2⟩

/-- Against different references the same books do not balance. -/
theorem Balanced.unique {stored' : Multiset ρ} (balanced : L.Balanced stored) :
    L.Balanced stored' ↔ stored' = stored :=
  ⟨fun other => other.1.symm.trans balanced.1, fun same => same ▸ balanced⟩

/-- Books that balance with some references besides those stored balance if and
only if there are none besides. -/
theorem Balanced.extra_iff {extra : Multiset ρ} (balanced : L.Balanced (extra + stored)) :
    L.Balanced stored ↔ extra = 0 := by
  rw [balanced.unique, right_eq_add]

variable [DecidableEq ρ]

@[simp]
theorem release_acquire (L : Ledger ρ) (r : ρ) : (L.acquire r).release r = L := by
  simp [acquire, release]

/-- A reference that leaves its slot as it is released keeps it as well. -/
theorem Balanced.release (balanced : L.Balanced (r ::ₘ stored)) : (L.release r).Balanced stored := by
  have held : r ∈ L.held := balanced.1 ▸ Multiset.mem_cons_self r stored
  rw [Ledger.release, if_pos held]
  exact ⟨by simp [balanced.1], balanced.2⟩

/-- A release of what is not held is on the books for good. -/
theorem not_balanced_release (missing : r ∉ L.held) : ¬(L.release r).Balanced stored := by
  rw [Ledger.release, if_neg missing]
  exact fun balanced => Multiset.cons_ne_zero balanced.2

end Ledger

/-! ## Slots -/

/-- Slots that hold a reference or none. -/
abbrev Slots (κ ρ : Type*) := AList fun _ : κ => ρ

namespace Slots

variable {κ ρ : Type*} [DecidableEq κ] {slots : Slots κ ρ} {k : κ} {r : ρ}

/-- The references stored. -/
def contents (slots : Slots κ ρ) : Multiset ρ := slots.entries.map Sigma.snd

theorem erase_of_none (empty : slots.lookup k = none) : slots.erase k = slots := by
  apply AList.ext
  exact List.kerase_of_notMem_keys (AList.lookup_eq_none.mp empty)

/-- What a slot holds leaves the contents with it. -/
theorem contents_erase (full : slots.lookup k = some r) :
    slots.contents = r ::ₘ contents (slots.erase k) := by
  have key : k ∈ slots.entries.keys := by
    have : (slots.lookup k).isSome := by simp [full]
    exact AList.mem_keys.mp (AList.lookup_isSome.mp this)
  obtain ⟨r', before, after, -, entries, erased⟩ := List.exists_of_kerase key
  have same : r' = r := by
    have stored := List.mem_dlookup slots.nodupKeys (entries ▸ by simp : (⟨k, r'⟩ : Sigma _) ∈ slots.entries)
    exact Option.some.inj (stored.symm.trans full)
  subst same
  have erased' : (slots.erase k).entries = before ++ after := erased
  rw [contents, contents, entries, erased', List.map_append, List.map_cons, List.map_append]
  exact Multiset.coe_eq_coe.mpr List.perm_middle

/-- Storing a reference drops what the slot held. -/
theorem contents_insert_erase : contents (slots.insert k r) = r ::ₘ contents (slots.erase k) := rfl

/-- Storing in an empty slot. -/
theorem contents_insert (empty : slots.lookup k = none) :
    contents (slots.insert k r) = r ::ₘ slots.contents := by
  rw [contents_insert_erase, erase_of_none empty]

end Slots

end ConnmanUi
