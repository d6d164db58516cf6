import ConnmanUi.WatchRuns

/-!
What the rest of a step leaves of the listeners.

A callback may add and remove watches anywhere (`Calls`), so whoever looks at a
listener later has to know what can have become of it (`Calls.origin`): it is the
same or new, and so is each callback it has; what is new has a new id.
-/

namespace ConnmanUi.Watch

open Keyed Run

variable {s s' t : State} {d d' : FilterData} {cb cb' : FilterCallback} {gone : FilterCallback → Prop} {n next : Nat}

/-! ## What the program does to the listeners -/

/-- Where the callbacks of a list come from: they were there, or they are new. -/
def Grown (n : Nat) (free : Prop) (before after : List FilterCallback) : Prop :=
  ∀ cb' ∈ after, (∃ cb ∈ before, cb.bare = cb'.bare) ∨ free ∧ n < cb'.id

/-- What becomes of a listener while it does not have its turn, `n` being the
last id. -/
structure Follows (n : Nat) (d d' : FilterData) : Prop where
  key : d'.key = d.key
  handleFunc : d'.handleFunc = d.handleFunc
  connection : d'.connection = d.connection
  argument : d'.argument = d.argument
  lock : d'.lock = d.lock
  callbacks : Grown n (d.lock = false) d.callbacks d'.callbacks
  processed : Grown n (d.lock = true) d.processed d'.processed

theorem bare_id (same : cb.bare = cb'.bare) : cb.id = cb'.id := by
  change cb.bare.id = cb'.bare.id
  rw [same]

theorem Grown.of_subset {free : Prop} {before after : List FilterCallback} (subset : after ⊆ before) :
    Grown n free before after := fun cb mem => .inl ⟨cb, subset mem, rfl⟩

theorem Grown.of_bare {free : Prop} {before after : List FilterCallback}
    (same : after.map FilterCallback.bare = before.map FilterCallback.bare) : Grown n free before after := by
  intro cb' mem
  obtain ⟨cb, there, bare⟩ := List.mem_map.mp (same ▸ List.mem_map_of_mem mem)
  exact .inl ⟨cb, there, bare⟩

theorem Grown.trans {free : Prop} {a b c : List FilterCallback} (first : Grown n free a b) (second : Grown n free b c) :
    Grown n free a c := by
  intro cb'' mem
  rcases second cb'' mem with ⟨cb', there, same⟩ | new
  · rcases first cb' there with ⟨cb, old, same'⟩ | ⟨isFree, new⟩
    · exact .inl ⟨cb, old, same'.trans same⟩
    · exact .inr ⟨isFree, bare_id same ▸ new⟩
  · exact .inr new

theorem Follows.refl (d : FilterData) : Follows n d d :=
  ⟨rfl, rfl, rfl, rfl, rfl, .of_subset fun _ => id, .of_subset fun _ => id⟩

theorem Follows.trans {d'' : FilterData} (first : Follows n d d') (second : Follows n d' d'') : Follows n d d'' where
  key := second.key.trans first.key
  handleFunc := second.handleFunc.trans first.handleFunc
  connection := second.connection.trans first.connection
  argument := second.argument.trans first.argument
  lock := second.lock.trans first.lock
  callbacks := by
    have then_ := second.callbacks
    rw [first.lock] at then_
    exact first.callbacks.trans then_
  processed := by
    have then_ := second.processed
    rw [first.lock] at then_
    exact first.processed.trans then_

theorem follows_add (d : FilterData) (new : n < cb.id) : Follows n d (d.add cb) := by
  have grown : ∀ {free : Prop} (l : List FilterCallback), free → Grown n free l (l ++ [cb]) := by
    intro free l isFree cb' mem
    rcases List.mem_append.mp mem with old | last
    · exact .inl ⟨cb', old, rfl⟩
    · rw [List.mem_singleton.mp last]
      exact .inr ⟨isFree, new⟩
  unfold FilterData.add
  split
  case isTrue locked => exact ⟨rfl, rfl, rfl, rfl, rfl, .of_subset fun _ => id, grown _ locked⟩
  case isFalse free => exact ⟨rfl, rfl, rfl, rfl, rfl, grown _ (by simpa using free), .of_subset fun _ => id⟩

theorem follows_remove (d : FilterData) (id : Nat) : Follows n d (d.remove id) :=
  ⟨rfl, rfl, rfl, rfl, rfl, .of_subset (List.filter_subset_self _), .of_subset (List.filter_subset_self _)⟩

/-- A listener that is there afterwards was there, or is new and so is all it
has. -/
def Origin (n next : Nat) (s s' : State) : Prop :=
  ∀ d' ∈ s'.listeners, (∃ d ∈ s.listeners, Follows n d d') ∨
    next ≤ d'.key ∧ ∀ cb ∈ d'.callbacks ++ d'.processed, n < cb.id

theorem Op.origin (op : Op (.calling gone) s s') (ids : n ≤ s.listenerId) (keys : next ≤ s.next) :
    Origin n next s s' ∧ n ≤ s'.listenerId ∧ next ≤ s'.next := by
  have same : ∀ d ∈ s.listeners, ∃ c ∈ s.listeners, Follows n c d := fun d mem => ⟨d, mem, .refl d⟩
  have replace : ∀ {front back : List FilterData} {d d' : FilterData}, s.listeners = front ++ d :: back → Follows n d d' →
      ∀ c ∈ front ++ d' :: back, ∃ old ∈ s.listeners, Follows n old c := by
    intro front back d d' split follows c mem
    rw [split]
    rcases List.mem_append.mp mem with before | rest
    · exact ⟨c, List.mem_append_left _ before, .refl c⟩
    · rcases List.mem_cons.mp rest with rfl | after
      · exact ⟨d, by simp, follows⟩
      · exact ⟨c, by simp [after], .refl c⟩
  cases op with
  | bus filters rules => exact ⟨fun d mem => .inl (same d mem), ids, keys⟩
  | listen handle m shaped =>
    refine ⟨fun d' mem => ?_, ids, Nat.le_succ_of_le keys⟩
    rcases List.mem_append.mp mem with old | new
    · exact .inl (same d' old)
    · rw [List.mem_singleton.mp new]
      exact .inr ⟨keys, fun cb none => absurd none (List.not_mem_nil)⟩
  | unlisten d mem empty free => exact ⟨fun d' there => .inl (same d' (List.mem_of_mem_filter there)), ids, keys⟩
  | add front d back cb split own =>
    refine ⟨fun d' mem => .inl (replace split (follows_add d ?_) d' mem), Nat.le_succ_of_le ids, keys⟩
    rw [own]
    exact Nat.lt_succ_of_le ids
  | remove front d back cb split mem asked =>
    exact ⟨fun d' there => .inl (replace split (follows_remove d cb.id) d' there), ids, keys⟩
  | change listeners all named =>
    refine ⟨fun d' mem => ?_, ids, keys⟩
    obtain ⟨i, within, rfl⟩ := List.getElem_of_mem mem
    have within' : i < s.listeners.length := all.length_eq ▸ within
    have changed := all.get within' within
    obtain ⟨lock, callbacks, processed⟩ := changed.still id
    have connection := congrArg Match.connection changed.what
    have argument := congrArg Match.argument changed.what
    exact .inl ⟨_, List.getElem_mem _, changed.key, changed.handleFunc, connection, argument, lock, .of_bare callbacks,
      .of_bare processed⟩
  | lose front d back split dirty turn => exact turn.elim

theorem Calls.origin (ops : Calls gone s s') : Origin s.listenerId s.next s s' := by
  suffices all : Origin s.listenerId s.next s s' ∧ s.listenerId ≤ s'.listenerId ∧ s.next ≤ s'.next from all.1
  induction ops with
  | refl => exact ⟨fun d mem => .inl ⟨d, mem, .refl d⟩, Nat.le_refl _, Nat.le_refl _⟩
  | @tail t u before op ih =>
    obtain ⟨origin, ids, keys⟩ := ih
    obtain ⟨origin', ids', keys'⟩ := op.origin ids keys
    refine ⟨fun d'' mem => ?_, ids', keys'⟩
    rcases origin' d'' mem with ⟨d', there, follows'⟩ | new
    · rcases origin d' there with ⟨d, old, follows⟩ | ⟨key, fresh⟩
      · exact .inl ⟨d, old, follows.trans follows'⟩
      · refine .inr ⟨follows'.key ▸ key, fun cb own => ?_⟩
        have grown : (∃ old ∈ d'.callbacks ++ d'.processed, old.bare = cb.bare) ∨ s.listenerId < cb.id := by
          rcases List.mem_append.mp own with own | own
          · exact (follows'.callbacks cb own).imp (fun ⟨old, mem, same⟩ => ⟨old, List.mem_append_left _ mem, same⟩) And.right
          · exact (follows'.processed cb own).imp (fun ⟨old, mem, same⟩ => ⟨old, List.mem_append_right _ mem, same⟩) And.right
        rcases grown with ⟨old, mem, same⟩ | new
        · exact bare_id same ▸ fresh old mem
        · exact new
    · exact .inr new

theorem Grown.append {free free' : Prop} {a b a' b' : List FilterCallback} (first : Grown n free a a')
    (second : Grown n free' b b') : Grown n True (a ++ b) (a' ++ b') := by
  intro cb mem
  rcases List.mem_append.mp mem with mem | mem
  · rcases first cb mem with ⟨old, there, same⟩ | ⟨_, new⟩
    · exact .inl ⟨old, List.mem_append_left _ there, same⟩
    · exact .inr ⟨trivial, new⟩
  · rcases second cb mem with ⟨old, there, same⟩ | ⟨_, new⟩
    · exact .inl ⟨old, List.mem_append_right _ there, same⟩
    · exact .inr ⟨trivial, new⟩

/-! ## Other listeners -/

theorem Table.others (table : Table s) (mem : d ∈ s.listeners) :
    ∀ c ∈ s.listeners, c = d ∨ c ∈ s.listeners ∧ c.key ≠ d.key := by
  intro c there
  by_cases same : c.key = d.key
  · exact .inl (table.ordered.eq there mem same)
  · exact .inr ⟨there, same⟩

/-- The watches of two listeners have different ids. -/
theorem Numbered.apart (numbered : Numbered s) (mem : d ∈ s.listeners) (mem' : d' ∈ s.listeners) (other : d'.key ≠ d.key)
    (own : cb ∈ d.callbacks ++ d.processed) (own' : cb' ∈ d'.callbacks ++ d'.processed) : cb'.id ≠ cb.id := by
  intro same
  obtain ⟨front, back, split⟩ := List.append_of_mem mem
  have all := (((watches_split split).map FilterCallback.id).nodup_iff).mp numbered.nodup
  rw [List.map_append] at all
  refine (List.nodup_append.mp all).2.2 cb.bare.id (List.mem_map_of_mem (List.mem_map_of_mem own)) cb'.bare.id ?_ same.symm
  refine List.mem_map_of_mem (List.mem_flatMap.mpr ⟨d', ?_, List.mem_map_of_mem own'⟩)
  rw [split] at mem'
  rcases List.mem_append.mp mem' with before | rest
  · exact List.mem_append_left _ before
  · rcases List.mem_cons.mp rest with rfl | after
    · exact absurd rfl other
    · exact List.mem_append_right _ after

theorem calls_congr {m : Message} (handle : d'.handleFunc = d.handleFunc) (same : cb.bare = cb'.bare) :
    d'.calls cb' m = d.calls cb m := by
  have functions : cb.signalFunc = cb'.signalFunc ∧ cb.discFunc = cb'.discFunc ∧ cb.connFunc = cb'.connFunc := by
    have all : cb.bare = cb'.bare := same
    unfold FilterCallback.bare at all
    injection all with _ conn disc signal _ _
    exact ⟨signal, disc, conn⟩
  unfold FilterData.calls
  rw [handle, functions.1, functions.2.1, functions.2.2]

/-- A callback that is not removed is where it was. -/
theorem Calls.keeps (ops : Calls gone s s') (orderly : Orderly s) (mem : d ∈ s.listeners) (own : cb ∈ d.callbacks)
    (stays : cb.bare ∈ s'.watches) : ∃ d' ∈ s'.listeners, d'.key = d.key ∧ d'.handleFunc = d.handleFunc ∧
      d'.connection = d.connection ∧ ∃ cb' ∈ d'.callbacks, cb'.bare = cb.bare := by
  obtain ⟨d', there, held⟩ := List.mem_flatMap.mp stays
  obtain ⟨cb', inside, same⟩ := List.mem_map.mp held
  have given := (orderly.numbered.given _ (mem_watches mem (List.mem_append_left _ own))).2
  have old : ¬s.listenerId < cb'.id := by
    rw [bare_id same]
    exact Nat.not_lt_of_le given
  rcases ops.origin d' there with ⟨a, before, follows⟩ | ⟨_, fresh⟩
  · have here : ∀ w ∈ a.callbacks ++ a.processed, w.bare = cb'.bare → a = d ∧ w = cb := by
      intro w inside' same'
      have id : w.id = cb.id := bare_id (same'.trans same)
      have this : a = d := by
        by_contra other
        have apart : a.key ≠ d.key := fun key => other (orderly.table.ordered.eq before mem key)
        exact orderly.numbered.apart mem before apart (List.mem_append_left _ own) inside' id
      subst this
      exact ⟨rfl, List.inj_on_of_nodup_map (orderly.numbered.ids mem) inside' (List.mem_append_left _ own) id⟩
    rcases List.mem_append.mp inside with front | waiting
    · rcases follows.callbacks cb' front with ⟨w, inside', same'⟩ | ⟨_, new⟩
      · obtain ⟨rfl, rfl⟩ := here w (List.mem_append_left _ inside') same'
        exact ⟨d', there, follows.key, follows.handleFunc, follows.connection, cb', front, same⟩
      · exact absurd new old
    · rcases follows.processed cb' waiting with ⟨w, inside', same'⟩ | ⟨_, new⟩
      · obtain ⟨rfl, rfl⟩ := here w (List.mem_append_right _ inside') same'
        have ids := orderly.numbered.ids mem
        rw [List.map_append] at ids
        exact absurd rfl ((List.nodup_append.mp ids).2.2 _ (List.mem_map_of_mem own) _ (List.mem_map_of_mem inside'))
      · exact absurd new old
  · exact absurd (fresh cb' inside) old

end ConnmanUi.Watch
