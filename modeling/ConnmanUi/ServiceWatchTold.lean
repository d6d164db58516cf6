import ConnmanUi.ServiceWatchTurns

/-!
What the watches of a name know of its owner.

A watch with both functions, what is on its way to it, and the question that is on
its way to the bus together say who has the name (`Agrees`), in every order in
which signals, answers, callbacks and other watches come.  So once everything has
arrived it was told last what is the case (`told_owner`).
-/

namespace ConnmanUi.ServiceWatch

open Keyed Watch Run

variable {connection : Nat} {name : String} {s s' : State} {d d' : FilterData} {cb : FilterCallback} {f : Filtering}
  {stage : Stage} {m : Message} {id : Nat} {w w' : World} {all : List (Nat × Bool)}

/-! ## What is on its way -/

/-- What a watch knows when a packet has reached it. -/
def tells (name : String) (id : Nat) (b : Bool) : Packet → Bool
  | .signal m => if Owns name m then gained m else b
  | .reply i owner => if i = id then b || owner.isSome else b

theorem tells_reply {b : Bool} {i : Nat} {owner : Option String} (same : i = id) :
    tells name id b (.reply i owner) = (b || owner.isSome) := if_pos same

/-- What a watch knows when all has reached it. -/
def outcome (connection : Nat) (name : String) (w : World) (all : List (Nat × Bool)) (d : FilterData) (id : Nat) : Bool :=
  w.inbox.foldl (tells name id) ((due connection name w.watch d id).getD (last all id))

/-- It will know who has the name, unless its question is still to be answered. -/
structure Agrees (connection : Nat) (name : String) (w : World) (all : List (Nat × Bool)) (d : FilterData) (id : Nat) : Prop where
  asked : id ∈ w.asked → w.owner = "" → outcome connection name w all d id = false
  answered : id ∉ w.asked → outcome connection name w all d id = decide (w.owner ≠ "")

/-- What holds of the connection, of what is on its way and of what was told. -/
structure Inv (connection : Nat) (name : String) (w : World) (all : List (Nat × Bool)) : Prop where
  upright : Upright w.watch
  fits : Fits connection name w.watch
  typed : ∀ m, .signal m ∈ w.inbox → m.Typed
  nodup : w.waiting.Nodup
  given : ∀ id ∈ w.waiting, id ≤ w.watch.listenerId ∧ w.watch.phase ≠ .updating id
  noted : ∀ p ∈ all, p.1 ≤ w.watch.listenerId
  waits : ∀ d ∈ w.watch.listeners, d.toMatch = serviceMatch connection name → ∀ cb ∈ d.own, cb.connFunc = true →
    cb.id ∈ w.waiting → cb.data = .call
  agrees : ∀ d ∈ w.watch.listeners, d.toMatch = serviceMatch connection name → ∀ cb ∈ d.own, cb.connFunc = true →
    cb.discFunc = true → Agrees connection name w all d cb.id

theorem last_note (s s' : State) (all : List (Nat × Bool)) (id : Nat) :
    last ((told s s').toList ++ all) id = heard (told s s') id (last all id) := by
  cases told s s' with
  | none => rfl
  | some p =>
    obtain ⟨i, v⟩ := p
    by_cases same : id = i
    · subst same
      simp [last, heard]
    · have other : (id == i) = false := beq_eq_false_iff_ne.mpr same
      simp [last, heard, List.lookup_cons, other, Ne.symm same]

theorem outcome_congr (inbox : w'.inbox = w.inbox)
    (same : (due connection name w'.watch d' id).getD (heard (told w.watch w'.watch) id (last all id)) =
      (due connection name w.watch d id).getD (last all id)) :
    outcome connection name w' ((told w.watch w'.watch).toList ++ all) d' id = outcome connection name w all d id := by
  unfold outcome
  rw [inbox, last_note, same]

theorem outcome_due (inbox : w'.inbox = w.inbox) (same : due connection name w'.watch d id = due connection name w.watch d id) :
    outcome connection name w' all d id = outcome connection name w all d id := by
  unfold outcome
  rw [inbox, same]

theorem tells_other {packets : List Packet} {b : Bool} (signals : ∀ m, .signal m ∈ packets → ¬Owns name m)
    (replies : id ∉ packets.filterMap Packet.replyId) : packets.foldl (tells name id) b = b := by
  induction packets with
  | nil => rfl
  | cons packet packets ih =>
    have rest : id ∉ packets.filterMap Packet.replyId := fun there =>
      replies (List.filterMap_cons ▸ by split <;> simp [there])
    rw [List.foldl_cons]
    have first : tells name id b packet = b := by
      cases packet with
      | signal m => exact if_neg (signals m List.mem_cons_self)
      | reply i owner =>
        refine if_neg fun same => replies ?_
        simp [Packet.replyId, same]
    rw [first]
    exact ih (fun m there => signals m (List.mem_cons_of_mem _ there)) rest

/-! ## The bus -/

theorem inv_owns (inv : Inv connection name w all) (owner : String) {heard : Bool}
    (rule : (connection, formatRule (serviceMatch connection name)) ∈ w.watch.rules → heard = true) :
    Inv connection name { w with
      owner := owner
      inbox := if heard then w.inbox ++ [.signal (nameOwnerChanged name w.owner owner)] else w.inbox } all := by
  have same : World.waiting { w with
      owner := owner
      inbox := if heard then w.inbox ++ [.signal (nameOwnerChanged name w.owner owner)] else w.inbox } = w.waiting := by
    unfold World.waiting
    dsimp only
    split
    · rw [List.filterMap_append]
      exact congrArg (w.asked ++ ·) (List.append_nil _)
    · rfl
  refine ⟨inv.upright, inv.fits, fun m mem => ?_, ?_, ?_, inv.noted, ?_, fun d mem what cb own connects disconnects => ?_⟩
  · dsimp only at mem
    split at mem
    · rcases List.mem_append.mp mem with old | new
      · exact inv.typed m old
      · cases List.mem_singleton.mp new
        exact ⟨fun _ _ => Nat.le_refl 3, fun other => absurd other (by simp [nameOwnerChanged])⟩
    · exact inv.typed m mem
  · rw [same]
    exact inv.nodup
  · rw [same]
    exact inv.given
  · rw [same]
    exact inv.waits
  · -- the rule of the listener is there, so the signal is sent
    have sent : heard = true := by
      refine rule (inv.upright.tidy.rules.symm.subset (List.mem_map.mpr ⟨d, mem, ?_⟩))
      rw [what]
      rfl
    have owns : Owns name (nameOwnerChanged name w.owner owner) := ⟨rfl, rfl, rfl⟩
    have after : outcome connection name { w with
        owner := owner
        inbox := if heard then w.inbox ++ [.signal (nameOwnerChanged name w.owner owner)] else w.inbox } all d cb.id =
          decide (owner ≠ "") := by
      unfold outcome
      dsimp only
      rw [if_pos sent, List.foldl_append]
      exact if_pos owns
    exact ⟨fun _ gone => after.trans (decide_eq_false (not_not.mpr gone)), fun _ => after⟩

theorem inv_answer {first : Nat} {asked : List Nat} (inv : Inv connection name w all) (next : w.asked = first :: asked) :
    Inv connection name { w with
      asked := asked
      inbox := w.inbox ++ [.reply first (if w.owner = "" then none else some w.owner)] } all := by
  have same : (World.waiting { w with
      asked := asked
      inbox := w.inbox ++ [.reply first (if w.owner = "" then none else some w.owner)] }).Perm w.waiting := by
    unfold World.waiting
    dsimp only
    rw [List.filterMap_append, next, List.cons_append, ← List.append_assoc]
    exact List.perm_append_singleton _ _
  refine ⟨inv.upright, inv.fits, fun m mem => ?_, same.nodup_iff.mpr inv.nodup, fun id mem => inv.given id (same.subset mem),
    inv.noted, fun d mem what cb own connects waiting => inv.waits d mem what cb own connects (same.subset waiting),
    fun d mem what cb own connects disconnects => ?_⟩
  · rcases List.mem_append.mp mem with old | new
    · exact inv.typed m old
    · cases List.mem_singleton.mp new
  · have agrees := inv.agrees d mem what cb own connects disconnects
    have after : outcome connection name { w with
        asked := asked
        inbox := w.inbox ++ [.reply first (if w.owner = "" then none else some w.owner)] } all d cb.id =
          tells name cb.id (outcome connection name w all d cb.id) (.reply first (if w.owner = "" then none else some w.owner)) := by
      unfold outcome
      rw [List.foldl_append]
      rfl
    by_cases is : first = cb.id
    · have once : cb.id ∉ asked := by
        have nodup := inv.nodup
        rw [World.waiting, next, List.cons_append, is] at nodup
        exact fun there => (List.nodup_cons.mp nodup).1 (List.mem_append_left _ there)
      have known := agrees.asked (by rw [next, is]; exact List.mem_cons_self)
      refine ⟨fun there => absurd there once, fun _ => ?_⟩
      rw [after, tells_reply is]
      by_cases nobody : w.owner = ""
      · rw [known nobody, if_pos nobody]
        simp [nobody]
      · rw [if_neg nobody]
        simp [nobody]
    · have still : cb.id ∈ asked ↔ cb.id ∈ w.asked := by
        rw [next, List.mem_cons]
        exact (or_iff_right (Ne.symm is)).symm
      have untold : tells name cb.id (outcome connection name w all d cb.id)
          (.reply first (if w.owner = "" then none else some w.owner)) = outcome connection name w all d cb.id := if_neg is
      rw [untold] at after
      exact ⟨fun there gone => after.trans (agrees.asked (still.mp there) gone),
        fun there => after.trans (agrees.answered (mt still.mpr there))⟩

theorem inv_sends (inv : Inv connection name w all) (typed : m.Typed) (other : ¬Owns name m) :
    Inv connection name { w with inbox := w.inbox ++ [.signal m] } all := by
  have same : World.waiting { w with inbox := w.inbox ++ [.signal m] } = w.waiting := by
    unfold World.waiting
    rw [List.filterMap_append]
    exact congrArg (w.asked ++ ·) (List.append_nil _)
  refine ⟨inv.upright, inv.fits, fun m' mem => ?_, ?_, ?_, inv.noted, ?_, fun d mem what cb own connects disconnects => ?_⟩
  · rcases List.mem_append.mp mem with old | new
    · exact inv.typed m' old
    · cases List.mem_singleton.mp new
      exact typed
  · rw [same]
    exact inv.nodup
  · rw [same]
    exact inv.given
  · rw [same]
    exact inv.waits
  · have agrees := inv.agrees d mem what cb own connects disconnects
    have after : outcome connection name { w with inbox := w.inbox ++ [.signal m] } all d cb.id =
        outcome connection name w all d cb.id := by
      unfold outcome
      rw [List.foldl_append]
      exact if_neg other
    exact ⟨fun there gone => after.trans (agrees.asked there gone), fun there => after.trans (agrees.answered there)⟩

/-! ## The connection -/

/-- What a watch of the name will know is what it was to know. -/
def Knows (connection : Nat) (name : String) (w w' : World) (d' : FilterData) (cb : FilterCallback) : Prop :=
  ∃ d ∈ w.watch.listeners, d.toMatch = serviceMatch connection name ∧ (∃ v ∈ d.own, v.bare = cb.bare) ∧
    ∀ all, outcome connection name w' ((told w.watch w'.watch).toList ++ all) d' cb.id = outcome connection name w all d cb.id

/-- A watch of the name that has just been added asks, and has not been told. -/
structure New (connection : Nat) (name : String) (w w' : World) (asked : List Nat) (d' : FilterData) (cb : FilterCallback) :
    Prop where
  id : cb.id = w.watch.listenerId + 1
  asks : cb.id ∈ asked
  data : cb.data = .call
  untold : ∀ all, (∀ p ∈ all, p.1 ≤ w.watch.listenerId) →
    outcome connection name w' ((told w.watch w'.watch).toList ++ all) d' cb.id = false

/-- What a step of the connection does, `asked` being the watches that ask for the
owner in it. -/
structure Onward (connection : Nat) (name : String) (w : World) (asked : List Nat) (w' : World) : Prop where
  upright : Upright w'.watch
  fits : Fits connection name w'.watch
  ids : w.watch.listenerId ≤ w'.watch.listenerId
  noted : ∀ p ∈ told w.watch w'.watch, p.1 ≤ w.watch.listenerId
  owner : w'.owner = w.owner
  asks : w'.asked = w.asked ++ asked
  new : asked = [] ∨ asked = [w.watch.listenerId + 1] ∧ w.watch.listenerId + 1 ≤ w'.watch.listenerId
  inbox : w'.inbox <:+ w.inbox
  updating : ∀ id ∈ w'.waiting, w'.watch.phase ≠ .updating id
  ours : ∀ d' ∈ w'.watch.listeners, d'.toMatch = serviceMatch connection name → ∀ cb ∈ d'.own, cb.connFunc = true →
    cb.id ≤ w.watch.listenerId ∧ (cb.id ∈ w'.waiting → cb.data = .call) ∧
        (cb.discFunc = true → Knows connection name w w' d' cb) ∨
      New connection name w w' asked d' cb

theorem bare_functions {a b : FilterCallback} (same : a.bare = b.bare) : a.connFunc = b.connFunc ∧ a.discFunc = b.discFunc := by
  unfold FilterCallback.bare at same
  injection same with _ conn disc _ _ _
  exact ⟨conn, disc⟩

theorem Onward.inv {asked : List Nat} (onward : Onward connection name w asked w') (inv : Inv connection name w all) :
    Inv connection name w' ((told w.watch w'.watch).toList ++ all) := by
  have waiting : w'.waiting.Subperm (asked ++ w.waiting) := by
    unfold World.waiting
    rw [onward.asks, ← List.append_assoc]
    exact ((onward.inbox.sublist.filterMap _).append_left _).subperm.trans (List.perm_append_comm.append_right _).subperm
  have above : ∀ id ∈ asked, id = w.watch.listenerId + 1 ∧ id ≤ w'.watch.listenerId := by
    intro id mem
    rcases onward.new with none | ⟨one, below⟩
    · rw [none] at mem
      cases mem
    · rw [one] at mem
      cases List.mem_singleton.mp mem
      exact ⟨rfl, below⟩
  have nodup : (asked ++ w.waiting).Nodup := by
    refine List.nodup_append.mpr ⟨?_, inv.nodup, fun id mem id' mem' same => ?_⟩
    · rcases onward.new with none | ⟨one, _⟩
      · rw [none]
        exact .nil
      · rw [one]
        exact List.nodup_singleton _
    · have given := (inv.given id' mem').1
      have new := (above id mem).1
      omega
  refine ⟨onward.upright, onward.fits, fun m mem => inv.typed m (onward.inbox.subset mem), ?_, fun id mem => ?_, fun p mem => ?_,
    fun d' mem what cb own connects there => ?_, fun d' mem what cb own connects disconnects => ?_⟩
  · obtain ⟨l, perm, sublist⟩ := waiting
    exact perm.nodup_iff.mp (nodup.sublist sublist)
  · refine ⟨?_, onward.updating id mem⟩
    rcases List.mem_append.mp (waiting.subset mem) with new | old
    · exact (above id new).2
    · exact (inv.given id old).1.trans onward.ids
  · rcases List.mem_append.mp mem with new | old
    · exact (onward.noted p (Option.mem_toList.mp new)).trans onward.ids
    · exact (inv.noted p old).trans onward.ids
  · rcases onward.ours d' mem what cb own connects with ⟨_, data, _⟩ | new
    · exact data there
    · exact new.data
  · rcases onward.ours d' mem what cb own connects with ⟨old, _, knows⟩ | new
    · obtain ⟨d, inside, what', ⟨v, own', bare⟩, same⟩ := knows disconnects
      obtain ⟨conn, disc⟩ := bare_functions bare
      have agrees := inv.agrees d inside what' v own' (conn.trans connects) (disc.trans disconnects)
      rw [bare_id bare] at agrees
      have still : cb.id ∈ w'.asked ↔ cb.id ∈ w.asked := by
        rw [onward.asks, List.mem_append]
        refine or_iff_left fun fresh => ?_
        have given := (above _ fresh).1
        omega
      refine ⟨fun there gone => (same all).trans (agrees.asked (still.mp there) (onward.owner ▸ gone)), fun there => ?_⟩
      rw [same all, onward.owner]
      exact agrees.answered (mt still.mpr there)
    · refine ⟨fun _ _ => new.untold all inv.noted, fun there => absurd ?_ there⟩
      rw [onward.asks]
      exact List.mem_append_right _ new.asks

/-! ## What the program and the filter do -/

section Watch

variable {asked : List Nat} {e : Watch.Event} {gone : FilterCallback → Prop}

/-- Nothing is received. -/
def World.went (w : World) (s' : State) (asked : List Nat) : World := { w with watch := s', asked := w.asked ++ asked }

theorem Heard.knows (heard : Heard connection name w.watch s' d' cb) : Knows connection name w (w.went s' asked) d' cb := by
  obtain ⟨d, mem, what, same, all⟩ := heard
  exact ⟨d, mem, what, same, fun _ => outcome_congr rfl (all _)⟩

theorem updating_le {i : Nat} (upright : Upright s) (phase : s.phase = .updating i) : i ≤ s.listenerId := by
  have attended := upright.attended
  rw [phase] at attended
  obtain ⟨v, mem, rfl, _⟩ := attended
  exact (upright.numbered.given v mem).2

theorem mem_went {i : Nat} (mem : i ∈ (w.went s' asked).waiting) : i ∈ w.waiting ∨ i ∈ asked := by
  unfold World.waiting World.went at mem
  dsimp only at mem
  rcases List.mem_append.mp mem with question | reply
  · rcases List.mem_append.mp question with old | new
    · exact .inl (List.mem_append_left _ old)
    · exact .inr new
  · exact .inl (List.mem_append_right _ reply)

/-- The program adds and removes watches. -/
theorem asks_onward (inv : Inv connection name w all) (ops : Calls gone w.watch s') (upright : Upright s')
    (new : asked = [] ∨ asked = [w.watch.listenerId + 1] ∧ w.watch.listenerId + 1 ≤ s'.listenerId)
    (records : ∀ d' ∈ s'.listeners, d'.toMatch = serviceMatch connection name → ∀ cb ∈ d'.own, cb.connFunc = true →
      (∃ d ∈ w.watch.listeners, d.toMatch = serviceMatch connection name ∧ cb ∈ d.own) ∨
        cb.id = w.watch.listenerId + 1 ∧ cb.id ∈ asked ∧ cb.data = .call ∧ Fresh connection name w) :
    Onward connection name w asked (w.went s' asked) := by
  have orderly := inv.upright.toOrderly
  have above : ∀ id ∈ asked, id = w.watch.listenerId + 1 := by
    intro id mem
    rcases new with none | ⟨one, _⟩
    · rw [none] at mem
      cases mem
    · rw [one] at mem
      exact List.mem_singleton.mp mem
  have silent : told w.watch s' = none := calls_told ops orderly
  refine ⟨upright, asks_fits ops inv.upright.toSane inv.fits, (Ops.counters ops).1, fun p mem => ?_, rfl, rfl, new, List.suffix_rfl,
    fun id mem updating => ?_, fun d' mem what cb own connects => ?_⟩
  · rw [show told w.watch (w.went s' asked).watch = none from silent] at mem
    cases mem
  · have phase : w.watch.phase = .updating id := (Ops.phase_eq ops).symm.trans updating
    rcases mem_went mem with old | fresh
    · exact (inv.given id old).2 phase
    · have given := updating_le inv.upright phase
      have is := above id fresh
      omega
  · rcases records d' mem what cb own connects with ⟨d, there, what', own'⟩ | ⟨id, asks, data, signals, phase⟩
    · have old := (orderly.numbered.callbacks (mem_callbacks there own')).2
      refine .inl ⟨old, fun waits => inv.waits d there what' cb own' connects ?_, fun _ =>
        (asks_heard ops orderly mem what own old).knows⟩
      refine (mem_went waits).resolve_right fun fresh => ?_
      have is := above _ fresh
      omega
    · refine .inr ⟨id, asks, data, fun all noted => ?_⟩
      have nothing : due connection name s' d' cb.id = none := by
        unfold due
        rw [Ops.phase_eq ops]
        split
        case h_1 f stage filtering => exact if_neg fun ⟨connected, owns, _⟩ => phase f stage filtering connected owns
        case h_2 => rfl
      have fresh : w.watch.listenerId < cb.id := id ▸ Nat.lt_succ_self _
      have none : all.lookup cb.id = none := List.lookup_eq_none_iff.mpr fun p mem =>
        bne_iff_ne.mpr (Nat.ne_of_gt (Nat.lt_of_le_of_lt (noted p mem) fresh))
      have replies : cb.id ∉ w.inbox.filterMap Packet.replyId := fun there =>
        Nat.not_lt_of_le (inv.given cb.id (List.mem_append_right _ there)).1 fresh
      unfold outcome World.went
      dsimp only
      rw [nothing, silent, Option.toList_none, List.nil_append, last, none]
      exact tells_other signals replies

theorem Turn.filtering {d₀ : FilterData} (turn : Turn s e f d₀ stage s') : ∃ f' stage', s'.phase = .filtering f' stage' := by
  cases turn <;> exact ⟨_, _, rfl⟩

/-- The filter goes on. -/
theorem turn_onward {d₀ : FilterData} (inv : Inv connection name w all) (turn : Turn w.watch e f d₀ stage s') (upright : Upright s')
    (phase : w.watch.phase = .filtering f stage) (mem₀ : d₀ ∈ w.watch.listeners) (kept : ∀ answers, e ≠ .returned false answers) :
    Onward connection name w [] (w.went s' []) := by
  have orderly := inv.upright.toOrderly
  have holds := inv.upright.holds
  rw [phase] at holds
  obtain ⟨t, ops, alike, _⟩ := turn.ops (c := .free) orderly.table orderly.numbered mem₀ trivial False.elim (fun _ _ _ => trivial)
    fun handling => (holds.locked d₀ mem₀).mpr handling
  have ids := (Ops.counters ops).1
  rw [← alike.listenerId] at ids
  refine ⟨upright, turn_fits turn inv.upright inv.fits phase mem₀ kept, ids, fun p mem => ?_, rfl, rfl, .inl rfl, List.suffix_rfl,
    fun id mem updating => ?_, fun d' mem what cb own connects => ?_⟩
  · cases turn with
    | call cb rest first calls =>
      have front : cb ∈ d₀.own := by
        rw [FilterData.own, first]
        exact List.mem_append_left _ List.mem_cons_self
      have calls : told w.watch { w.watch.note (.called cb.id) with phase := .filtering f (.call d₀.key cb.id) } =
          some (cb.id, gained f.message) := if_pos rfl
      have is : some (cb.id, gained f.message) = some p := calls.symm.trans mem
      cases is
      exact (orderly.numbered.callbacks (mem_callbacks mem₀ front)).2
    | _ => cases mem
  · obtain ⟨f', stage', filtering⟩ := Turn.filtering turn
    exact Phase.noConfusion (filtering.symm.trans updating)
  · have same : Kept none w.watch s' := turn.kept mem₀
    obtain ⟨d, there, what', own'⟩ := same connection name d' mem what cb own (Option.some_ne_none _).symm
    have waits (waiting : cb.id ∈ (w.went s' []).waiting) : cb.id ∈ w.waiting :=
      (mem_went waiting).resolve_right List.not_mem_nil
    exact .inl ⟨(orderly.numbered.callbacks (mem_callbacks there own')).2, fun waiting => inv.waits d there what' cb own' connects
      (waits waiting), fun disconnects =>
        (turn_heard turn inv.upright inv.fits phase mem₀ kept mem what own connects disconnects).knows⟩

/-- A step that leaves the listeners, and calls nobody. -/
theorem still_onward (inv : Inv connection name w all) (upright : Upright w'.watch)
    (same : w'.watch.listeners = w.watch.listeners) (ids : w'.watch.listenerId = w.watch.listenerId)
    (silent : told w.watch w'.watch = none) (handles : w'.watch.phase.handling = none)
    (updating : ∀ id, w'.watch.phase ≠ .updating id) (owner : w'.owner = w.owner) (asks : w'.asked = w.asked)
    (inbox : w'.inbox <:+ w.inbox)
    (still : ∀ d ∈ w.watch.listeners, d.toMatch = serviceMatch connection name → ∀ v ∈ d.own, v.connFunc = true →
      ∀ all, outcome connection name w' all d v.id = outcome connection name w all d v.id) :
    Onward connection name w [] w' := by
  refine ⟨upright, fun f stage phase d _ handling => ?_, ids.ge, fun p mem => ?_, owner, ?_, .inl rfl, inbox,
    fun id _ => updating id, fun d mem what cb own connects => ?_⟩
  · rw [phase] at handles
    exact absurd (handles.symm.trans handling) (Option.some_ne_none _).symm
  · exact absurd (silent.symm.trans mem) (Option.some_ne_none _).symm
  · rw [asks, List.append_nil]
  · have there : d ∈ w.watch.listeners := same ▸ mem
    refine .inl ⟨(inv.upright.numbered.callbacks (mem_callbacks there own)).2, fun waiting => ?_, fun _ =>
      ⟨d, there, what, ⟨cb, own, rfl⟩, fun all => ?_⟩⟩
    · refine inv.waits d there what cb own connects ?_
      unfold World.waiting at waiting ⊢
      rw [asks] at waiting
      exact ((inbox.sublist.filterMap _).append_left _).subset waiting
    · rw [silent]
      exact still d there what cb own connects all

end Watch

/-- The owner of a name comes to the watch `i`, or the call that told it returns. -/
theorem owner_onward {i : Nat} {t : State} (inv : Inv connection name w all) (ops : Calls (fun _ => False) w.watch t)
    (kept : Kept (some i) w.watch t) (given : i ≤ w.watch.listenerId) (listeners : w'.watch.listeners = t.listeners)
    (ids : w'.watch.listenerId = t.listenerId) (upright : Upright w'.watch) (owner : w'.owner = w.owner)
    (asks : w'.asked = w.asked) (inbox : w'.inbox <:+ w.inbox)
    (phase : w'.watch.phase = .idle ∨ w'.watch.phase = .updating i) (other : i ∉ w'.waiting)
    (noted : ∀ p ∈ told w.watch w'.watch, p.1 = i)
    (knows : ∀ d ∈ w.watch.listeners, d.toMatch = serviceMatch connection name → ∀ v ∈ d.own, v.connFunc = true → ∀ d' all,
      outcome connection name w' ((told w.watch w'.watch).toList ++ all) d' v.id = outcome connection name w all d v.id) :
    Onward connection name w [] w' := by
  have orderly := inv.upright.toOrderly
  refine ⟨upright, fun f stage filtering => ?_, ids ▸ (Ops.counters ops).1, fun p mem => (noted p mem).le.trans given, owner, ?_,
    .inl rfl, inbox, fun id mem updating => ?_, fun d' mem what cb own connects => ?_⟩
  · rcases phase with idle | updating
    · exact Phase.noConfusion (idle.symm.trans filtering)
    · exact Phase.noConfusion (updating.symm.trans filtering)
  · rw [asks, List.append_nil]
  · rcases phase with idle | now
    · exact Phase.noConfusion (idle.symm.trans updating)
    · have same : i = id := Phase.updating.inj (now.symm.trans updating)
      exact other (same ▸ mem)
  · rw [listeners] at mem
    have before (apart : cb.id ≠ i) : ∃ d ∈ w.watch.listeners, d.toMatch = serviceMatch connection name ∧ cb ∈ d.own :=
      kept connection name d' mem what cb own fun same => apart (Option.some.inj same).symm
    have old : cb.id ≤ w.watch.listenerId := by
      by_cases same : cb.id = i
      · exact same ▸ given
      · obtain ⟨d, there, _, own'⟩ := before same
        exact (orderly.numbered.callbacks (mem_callbacks there own')).2
    obtain ⟨d, there, what', ⟨v, own', bare⟩, _⟩ := calls_ours ops orderly mem what own old
    refine .inl ⟨old, fun waiting => ?_, fun _ => ⟨d, there, what', ⟨v, own', bare⟩, fun all => ?_⟩⟩
    · obtain ⟨a, inside, what'', own''⟩ := before fun same => other (same ▸ waiting)
      refine inv.waits a inside what'' cb own'' connects ?_
      unfold World.waiting at waiting ⊢
      rw [asks] at waiting
      exact ((inbox.sublist.filterMap _).append_left _).subset waiting
    · rw [← bare_id bare]
      exact knows d there what' v own' ((bare_functions bare).1.trans connects) d' all

/-- A watch whose lookup is over is told the owner, if there is one and it has a
function for it. -/
theorem serviceReply_cases {s s' : State} {i : Nat} {owner : Option String} (ran : Watch.step s (.serviceReply i owner) = some s') :
    s.phase = .idle ∧ ∃ d cb t, s.findCallback i = some (d, cb) ∧ cb.data = .call ∧ Calls (fun _ => False) s t ∧ Kept (some i) s t ∧
      s'.listeners = t.listeners ∧ s'.listenerId = t.listenerId ∧
      (s'.phase = .idle ∧ told s s' = none ∧ (owner = none ∨ cb.connFunc = false) ∨
        s'.phase = .updating i ∧ told s s' = some (i, true) ∧ owner ≠ none) := by
  obtain ⟨idle, ran⟩ := Option.ite_none_right_eq_some.mp ran
  obtain ⟨⟨d, cb⟩, found, ran⟩ := Option.bind_eq_some_iff.mp ran
  obtain ⟨n, _, ran⟩ := Option.bind_eq_some_iff.mp ran
  obtain ⟨_, _, rfl⟩ := findCallback_spec found
  obtain ⟨call, ran⟩ := Option.ite_none_right_eq_some.mp ran
  refine ⟨idle, d, cb, ?_⟩
  have silent {u : State} (phase : u.phase = .idle) : told s u = none := by
    unfold told
    rw [phase]
  cases owner with
  | none =>
    cases ran
    exact ⟨_, found, call, (serviceDataFree_op cb.id).ops, kept_serviceDataFree cb.id, rfl, rfl, .inl ⟨idle, silent idle, .inl rfl⟩⟩
  | some owner =>
    cases ran
    have cached : Calls (fun _ => False) s (updateNameCache s n owner) := (updateNameCache_op n owner).ops
    unfold updateService
    dsimp only
    split
    case isTrue connects =>
      refine ⟨_, found, call, cached, kept_updateNameCache n owner, rfl, rfl, .inr ⟨rfl, if_pos rfl, Option.some_ne_none _⟩⟩
    case isFalse plain =>
      refine ⟨_, found, call, cached.tail (serviceDataFree_op cb.id),
        (kept_updateNameCache n owner).trans (kept_serviceDataFree cb.id), rfl, rfl, .inl ⟨idle, silent idle, .inr ?_⟩⟩
      simpa using plain

section Watch

variable {e : Watch.Event}

/-- In an upright state no step was faulty. -/
theorem settled_ok {outcome : Except Watch.Fault State} (upright : Upright s') (ran : settled s outcome = s') :
    outcome = .ok s' := by
  cases outcome with
  | error why =>
    subst ran
    exact upright.attended.elim
  | ok t => exact congrArg _ ran

theorem lookups_new (connection : Nat) (name : String) (room : s.listenerId + 1 < 2 ^ 32) {c : Nat} {n : String} {connect disconnect destroy : Bool}
    {answers : Answers} {lookup : Lookup} {e : Watch.Event} (is : e = .addServiceWatch c n connect disconnect destroy answers lookup)
    (ran : Watch.step s e = some s') (upright' : Upright s') : lookups connection name s e = [] ∨
      lookups connection name s e = [s.listenerId + 1] ∧ s.listenerId + 1 ≤ s'.listenerId := by
  subst is
  obtain ⟨_, ran⟩ := Option.ite_none_right_eq_some.mp ran
  cases ran
  unfold lookups
  dsimp only
  split
  case isTrue asks =>
    obtain ⟨_, _, ⟨d, cb⟩, found, _⟩ := asks
    obtain ⟨mem, own, same⟩ := findCallback_spec found
    rcases addServiceWatch_id answers room c n connect disconnect destroy lookup with none | ⟨next, below⟩
    · have positive := (upright'.numbered.callbacks (mem_callbacks mem own)).1
      omega
    · exact .inr ⟨by rw [next], below.ge⟩
  case isFalse => exact .inl rfl

/-- The watch that was just added with a connect function looks its name up. -/
theorem lookups_added {connect disconnect destroy : Bool} {answers : Answers} {lookup : Lookup} {d : FilterData}
    {cb : FilterCallback} (upright : Upright (gDbusAddServiceWatch s connection name connect disconnect destroy answers lookup).1)
    (mem : d ∈ (gDbusAddServiceWatch s connection name connect disconnect destroy answers lookup).1.listeners) (own : cb ∈ d.own)
    (id : cb.id = s.listenerId + 1)
    (next : (gDbusAddServiceWatch s connection name connect disconnect destroy answers lookup).2 = s.listenerId + 1)
    (data : cb.data = .call) :
    cb.id ∈ lookups connection name s (.addServiceWatch connection name connect disconnect destroy answers lookup) := by
  unfold lookups
  dsimp only
  rw [if_pos, next, id]
  · exact List.mem_singleton_self _
  · refine ⟨rfl, rfl, ?_⟩
    cases found : (gDbusAddServiceWatch s connection name connect disconnect destroy answers lookup).1.findCallback
        (gDbusAddServiceWatch s connection name connect disconnect destroy answers lookup).2 with
    | none => exact absurd (id.trans next.symm) (findCallback_none found cb.bare (mem_watches mem own))
    | some pair =>
      obtain ⟨a, v⟩ := pair
      obtain ⟨inside, own', same⟩ := findCallback_spec found
      obtain ⟨_, this⟩ := upright.numbered.record upright.table mem own inside own' (same.trans (next.trans id.symm))
      exact ⟨_, rfl, this ▸ data⟩

theorem addServiceWatch_onward {c : Nat} {n : String} {connect disconnect destroy : Bool} {answers : Answers} {lookup : Lookup}
    (inv : Inv connection name w all)
    (allowed : Allowed connection name w (.watch (.addServiceWatch c n connect disconnect destroy answers lookup)))
    (ran : Watch.step w.watch (.addServiceWatch c n connect disconnect destroy answers lookup) = some s') :
    Onward connection name w (lookups connection name w.watch (.addServiceWatch c n connect disconnect destroy answers lookup))
      (w.went s' (lookups connection name w.watch (.addServiceWatch c n connect disconnect destroy answers lookup))) := by
  obtain ⟨careful, begins⟩ := allowed
  have upright := inv.upright.step careful ran
  have below : w.watch.listenerId + 1 < 2 ^ 32 := Nat.lt_of_succ_lt careful.room
  have orderly := inv.upright.toOrderly
  have new := lookups_new connection name below rfl ran upright
  obtain ⟨_, ran⟩ := Option.ite_none_right_eq_some.mp ran
  cases ran
  refine asks_onward inv (orderly.addServiceWatch_ops (c := .calling fun _ => False) below c n connect disconnect destroy answers
    lookup) upright new fun d' mem what cb own connects => ?_
  obtain ⟨_, _, _, looked⟩ := careful
  have sent : c = connection → n = name → connect = true → lookup = .sent ∧ checkNameCache w.watch n = none ∧ Fresh connection name w := by
    intro same same' is
    subst is
    obtain ⟨sent, fresh⟩ := begins c n disconnect destroy answers lookup rfl same same'
    refine ⟨sent, ((looked rfl).resolve_left fun none => ?_).2, fresh⟩
    exact Lookup.noConfusion (sent.symm.trans none)
  rcases addServiceWatch_records (decide (c = connection ∧ n = name ∧ connect = true)) orderly below
    (fun is => by
      obtain ⟨same, same', is⟩ := of_decide_eq_true is
      exact ⟨is, (sent same same' is).1, (sent same same' is).2.1⟩) mem own with ⟨d, there, same, own'⟩ | ⟨added, next⟩
  · exact .inl ⟨d, there, same.trans what, own'⟩
  · have both := added.what.symm.trans what
    have same : c = connection := congrArg Match.connection both
    have same' : n = name := Option.some.inj (congrArg Match.argument both)
    have is : connect = true := added.connFunc.symm.trans connects
    have data := added.data (decide_eq_true ⟨same, same', is⟩)
    refine .inr ⟨added.id, ?_, data, (sent same same' is).2.2⟩
    subst same same'
    exact lookups_added upright mem own added.id next data

theorem proceed_onward {answers : Answers} (inv : Inv connection name w all)
    (allowed : Allowed connection name w (.watch (.proceed answers))) (ran : Watch.step w.watch (.proceed answers) = some s') :
    Onward connection name w [] (w.went s' []) := by
  have upright := inv.upright.step allowed.1 ran
  dsimp only [Watch.step] at ran
  split at ran
  case h_1 f stage phase =>
    obtain ⟨outcome, went, result⟩ := Option.map_eq_some_iff.mp ran
    by_cases last : stage = .scan none
    · subst last
      have ended : outcome = .ok { w.watch with phase := .idle } :=
        (Option.some.inj went).symm.trans (inv.upright.finish phase)
      subst ended
      cases result
      refine still_onward inv upright rfl rfl rfl rfl (fun _ => Phase.noConfusion) rfl (List.append_nil _) List.suffix_rfl
        fun d mem what v own _ all => outcome_due rfl ?_
      unfold due
      rw [phase]
      exact (if_neg fun ⟨_, _, still⟩ => still).symm
    · cases settled_ok upright result
      obtain ⟨d, mem, turn⟩ := inv.upright.proceed_turn phase last went
      exact turn_onward inv turn upright phase mem fun _ => Watch.Event.noConfusion
  case h_2 => cases ran

theorem returned_onward {keep : Bool} {answers : Answers} (inv : Inv connection name w all)
    (allowed : Allowed connection name w (.watch (.returned keep answers)))
    (ran : Watch.step w.watch (.returned keep answers) = some s') : Onward connection name w [] (w.went s' []) := by
  have careful := allowed.1
  have upright := inv.upright.step careful ran
  obtain ⟨_, rfl⟩ := careful
  dsimp only [Watch.step] at ran
  split at ran
  case h_1 f current id phase =>
    obtain ⟨outcome, went, result⟩ := Option.map_eq_some_iff.mp ran
    cases settled_ok upright result
    obtain ⟨d, mem, turn⟩ := inv.upright.returned_turn phase went
    refine turn_onward inv turn upright phase mem fun _ same => ?_
    injection same with keeps _
    exact Bool.noConfusion keeps
  case h_2 id phase =>
    have done := settled_ok upright (Option.some.inj ran)
    unfold updated at done
    split at done
    · cases done
    · cases done
      have quiet : ∀ p ∈ told w.watch { serviceDataFree w.watch id with phase := .idle }, p.1 = id := fun p mem => by cases mem
      refine owner_onward inv (serviceDataFree_op id).ops (kept_serviceDataFree id) (updating_le inv.upright phase) rfl rfl upright
        rfl (List.append_nil _) List.suffix_rfl (.inl rfl) (fun mem => ?_) quiet fun d mem what v own connects d' all => ?_
      · rcases mem_went mem with old | none
        · exact (inv.given id old).2 phase
        · cases none
      · refine outcome_congr rfl ?_
        have before : due connection name w.watch d v.id = none := by
          unfold due
          rw [phase]
        rw [before]
        rfl
  case h_3 => cases ran

theorem serviceReply_onward {i : Nat} {owner : Option String} (inv : Inv connection name w all)
    (allowed : Allowed connection name w (.watch (.serviceReply i owner))) (apart : Apart connection name w (.serviceReply i owner))
    (ran : Watch.step w.watch (.serviceReply i owner) = some s') : Onward connection name w [] (w.went s' []) := by
  have upright := inv.upright.step allowed.1 ran
  have orderly := inv.upright.toOrderly
  obtain ⟨idle, d₀, cb₀, t, found, _, ops, kept, listeners, ids, phases⟩ := serviceReply_cases ran
  obtain ⟨waiting, other⟩ := apart
  obtain ⟨mem₀, own₀, rfl⟩ := findCallback_spec found
  refine owner_onward inv ops kept (orderly.numbered.callbacks (mem_callbacks mem₀ own₀)).2 listeners ids upright rfl
    (List.append_nil _) List.suffix_rfl (phases.imp And.left And.left) (fun mem => ?_) (fun p mem => ?_)
    fun d mem what v own connects d' all => ?_
  · exact waiting ((mem_went mem).resolve_right List.not_mem_nil)
  · rcases phases with ⟨_, silent, _⟩ | ⟨_, calls, _⟩
    · cases silent.symm.trans mem
    · cases calls.symm.trans mem
      rfl
  · refine outcome_congr rfl ?_
    have before : due connection name w.watch d v.id = none := by
      unfold due
      rw [idle]
    have after : due connection name s' d' v.id = none := by
      unfold due
      rcases phases with ⟨now, _⟩ | ⟨now, _⟩
      · rw [now]
      · rw [now]
    have untold : heard (told w.watch s') v.id (last all v.id) = last all v.id := by
      rcases phases with ⟨_, silent, _⟩ | ⟨_, calls, _⟩
      · rw [silent]
        rfl
      · rw [calls]
        refine if_neg fun same => other _ found ?_
        rw [(orderly.numbered.record orderly.table mem own mem₀ own₀ same).1]
        exact what
    rw [before, show (w.went s' _).watch = s' from rfl, after, untold]

theorem watch_onward (inv : Inv connection name w all) (allowed : Allowed connection name w (.watch e))
    (apart : Apart connection name w e) (ran : Watch.step w.watch e = some s') :
    Onward connection name w (lookups connection name w.watch e) (w.went s' (lookups connection name w.watch e)) := by
  have upright := inv.upright.step allowed.1 ran
  have room := allowed.1.room
  have orderly := inv.upright.toOrderly
  cases e with
  | addSignalWatch c sender path interface member function destroy answers =>
    obtain ⟨_, ran⟩ := Option.ite_none_right_eq_some.mp ran
    cases ran
    refine asks_onward inv (orderly.addSignalWatch_ops (c := .calling fun _ => False) room (shaped_sentBy _ _ _ _ _) function
      destroy answers) upright (.inl rfl) fun d' mem what cb own connects => ?_
    rcases addSignalWatch_records orderly room (shaped_sentBy _ _ _ _ _) mem own with ⟨d, there, same, own'⟩ | none
    · exact .inl ⟨d, there, same.trans what, own'⟩
    · exact Bool.noConfusion (none.symm.trans connects)
  | addPropertiesWatch c sender path interface function destroy answers =>
    obtain ⟨_, ran⟩ := Option.ite_none_right_eq_some.mp ran
    cases ran
    refine asks_onward inv (orderly.addSignalWatch_ops (c := .calling fun _ => False) room (shaped_properties _ _ _ _ _) function
      destroy answers) upright (.inl rfl) fun d' mem what cb own connects => ?_
    rcases addSignalWatch_records orderly room (shaped_properties _ _ _ _ _) mem own with ⟨d, there, same, own'⟩ | none
    · exact .inl ⟨d, there, same.trans what, own'⟩
    · exact Bool.noConfusion (none.symm.trans connects)
  | addServiceWatch c n connect disconnect destroy answers lookup =>
    exact addServiceWatch_onward inv allowed ran
  | removeWatch id answers =>
    obtain ⟨_, ran⟩ := Option.ite_none_right_eq_some.mp ran
    have removed := settled_ok upright (Option.some.inj ran)
    refine asks_onward inv (orderly.removeWatch_ops (c := .calling (Asked w.watch (.removeWatch id answers) s')) _ (fun _ => .inr)
      (fun cb _ same => .inl ⟨answers, by rw [same]⟩) removed) upright (.inl rfl) fun d' mem what cb own _ => .inl ?_
    have kept : Kept none w.watch s' := kept_removeWatch _ removed
    exact kept connection name d' mem what cb own (Option.some_ne_none _).symm
  | message c m =>
    obtain ⟨⟨idle, _⟩, ran⟩ := Option.ite_none_right_eq_some.mp ran
    cases ran
    refine still_onward inv upright rfl rfl rfl rfl (fun _ => Phase.noConfusion) rfl (List.append_nil _) List.suffix_rfl
      fun d mem what v own _ all => outcome_due rfl ?_
    unfold due
    rw [idle]
    exact if_neg fun ⟨same, _⟩ => apart same
  | proceed answers => exact proceed_onward inv allowed ran
  | returned keep answers => exact returned_onward inv allowed ran
  | serviceReply id owner => exact serviceReply_onward inv allowed apart ran
  | updateService id owner =>
    obtain ⟨_, ran⟩ := Option.ite_none_right_eq_some.mp ran
    obtain ⟨outcome, went, _⟩ := Option.map_eq_some_iff.mp ran
    obtain ⟨⟨d, cb⟩, found, named⟩ := Option.bind_eq_some_iff.mp went
    obtain ⟨n, _, told⟩ := Option.bind_eq_some_iff.mp named
    obtain ⟨mem, own, _⟩ := findCallback_spec found
    obtain ⟨waits, _⟩ := Option.ite_none_right_eq_some.mp told
    -- no lookup was answered from the cache
    rcases inv.upright.tidy.clear d mem cb own with null | call
    · cases waits.symm.trans null
    · cases waits.symm.trans call

end Watch

/-! ## What arrives -/

theorem waiting_pop {packet : Packet} {rest : List Packet} (next : w.inbox = packet :: rest) (nodup : w.waiting.Nodup) {i : Nat}
    (reply : packet.replyId = some i) : i ∈ w.waiting ∧ ∀ s', i ∉ ({ w with watch := s', inbox := rest } : World).waiting := by
  have all : w.waiting = w.asked ++ i :: rest.filterMap Packet.replyId := by
    unfold World.waiting
    rw [next, List.filterMap_cons, reply]
  rw [all] at nodup ⊢
  exact ⟨List.mem_append_right _ List.mem_cons_self, fun _ => (List.nodup_cons.mp (List.nodup_middle.mp nodup)).1⟩

theorem outcome_pop {packet : Packet} {rest : List Packet} {all' : List (Nat × Bool)} (next : w.inbox = packet :: rest)
    (same : (due connection name s' d' id).getD (last all' id) =
      tells name id ((due connection name w.watch d id).getD (last all id)) packet) :
    outcome connection name { w with watch := s', inbox := rest } all' d' id = outcome connection name w all d id := by
  unfold outcome
  rw [next, List.foldl_cons, ← same]

theorem due_idle (idle : s.phase = .idle) : due connection name s d id = none := by
  unfold due
  rw [idle]

/-- A signal comes to the filter, or to nobody. -/
theorem signal_onward {rest : List Packet} (inv : Inv connection name w all) (room : Room w.watch) (idle : w.watch.phase = .idle)
    (next : w.inbox = .signal m :: rest) (ran : receive connection w (.signal m) = some s') :
    Onward connection name w [] { w with watch := s', inbox := rest } := by
  have suffix : rest <:+ w.inbox := next ▸ List.suffix_cons _ _
  have typed : m.Typed := inv.typed m (next ▸ List.mem_cons_self)
  unfold receive at ran
  dsimp only at ran
  split at ran
  case isTrue filtered =>
    have upright := inv.upright.step (e := .message connection m) ⟨room, typed⟩ ran
    obtain ⟨_, ran⟩ := Option.ite_none_right_eq_some.mp ran
    cases ran
    refine still_onward inv upright rfl rfl rfl rfl (fun _ => Phase.noConfusion) rfl rfl suffix
      fun d mem what v own _ all => outcome_pop next ?_
    -- every listener is ahead of the first one
    have first : ahead (.scan (w.watch.listeners.head?.map (·.key))) d v.id := by
      have ordered := inv.upright.table.ordered
      cases listeners : w.watch.listeners with
      | nil =>
        rw [listeners] at mem
        cases mem
      | cons a rest =>
        rw [listeners] at mem ordered
        rcases List.mem_cons.mp mem with rfl | behind
        · exact Nat.le_refl _
        · exact Nat.le_of_lt (List.rel_of_pairwise_cons ordered behind)
    rw [due_idle idle]
    unfold due tells
    dsimp only
    by_cases owns : Owns name m
    · rw [if_pos ⟨rfl, owns, first⟩, if_pos owns]
      rfl
    · rw [if_neg fun ⟨_, yes, _⟩ => owns yes, if_neg owns]
  case isFalse missing =>
    cases ran
    refine still_onward inv inv.upright rfl rfl ?_ ?_ ?_ rfl rfl suffix fun d mem what v own _ all => ?_
    · unfold told
      rw [idle]
    · rw [idle]
      rfl
    · rw [idle]
      exact fun _ => Phase.noConfusion
    · -- the filter is there as long as there is a listener
      have found : filterDataFind w.watch connection = true :=
        (filterDataFind_iff _ _).mpr ⟨d, mem, congrArg Match.connection what⟩
      have count := inv.upright.tidy.filters connection
      rw [if_pos found] at count
      exact absurd (List.count_pos_iff.mp (count ▸ Nat.one_pos)) missing

/-- An answer comes to the watch that asked, or to nobody. -/
theorem reply_onward {rest : List Packet} {i : Nat} {owner : Option String} (inv : Inv connection name w all) (room : Room w.watch)
    (idle : w.watch.phase = .idle) (next : w.inbox = .reply i owner :: rest)
    (ran : receive connection w (.reply i owner) = some s') :
    Onward connection name w [] { w with watch := s', inbox := rest } := by
  have orderly := inv.upright.toOrderly
  have suffix : rest <:+ w.inbox := next ▸ List.suffix_cons _ _
  obtain ⟨waiting, gone⟩ := waiting_pop next inv.nodup rfl
  cases answered : Watch.step w.watch (.serviceReply i owner) with
  | some t =>
    have same : t = s' := by
      unfold receive at ran
      dsimp only at ran
      rw [answered] at ran
      exact Option.some.inj ran
    subst same
    have upright := inv.upright.step (e := .serviceReply i owner) room answered
    obtain ⟨_, d₀, cb₀, u, found, _, ops, kept, listeners, ids, phases⟩ := serviceReply_cases answered
    obtain ⟨mem₀, own₀, rfl⟩ := findCallback_spec found
    refine owner_onward inv ops kept (orderly.numbered.callbacks (mem_callbacks mem₀ own₀)).2 listeners ids upright rfl rfl suffix
      (phases.imp And.left And.left) (gone t) (fun p mem => ?_) fun d mem what v own connects d' all => outcome_pop next ?_
    · rcases phases with ⟨_, silent, _⟩ | ⟨_, calls, _⟩
      · cases silent.symm.trans mem
      · cases calls.symm.trans mem
        rfl
    · have after : due connection name t d' v.id = none := by
        unfold due
        rcases phases with ⟨now, _⟩ | ⟨now, _⟩
        · rw [now]
        · rw [now]
      rw [due_idle idle, after, last_note]
      change heard _ _ (last all v.id) = tells name v.id (last all v.id) (.reply cb₀.id owner)
      by_cases is : cb₀.id = v.id
      · have this := (orderly.numbered.record orderly.table mem own mem₀ own₀ is).2
        rw [tells_reply is]
        rcases phases with ⟨_, silent, nobody | plain⟩ | ⟨_, calls, owner⟩
        · rw [silent, nobody]
          exact (Bool.or_false _).symm
        · exact Bool.noConfusion (plain.symm.trans (this ▸ connects))
        · rw [calls, Option.isSome_iff_ne_none.mpr owner, Bool.or_true]
          exact if_pos is
      · refine .trans ?_ (if_neg is).symm
        rcases phases with ⟨_, silent, _⟩ | ⟨_, calls, _⟩
        · rw [silent]
          rfl
        · rw [calls]
          exact if_neg is
  | none =>
    have same : w.watch = s' := by
      unfold receive at ran
      dsimp only at ran
      rw [answered] at ran
      exact Option.some.inj ran
    subst same
    refine still_onward inv inv.upright rfl rfl ?_ ?_ ?_ rfl rfl suffix fun d mem what v own connects all => outcome_pop next ?_
    · unfold told
      rw [idle]
    · rw [idle]
      rfl
    · rw [idle]
      exact fun _ => Phase.noConfusion
    · rw [due_idle idle]
      refine (if_neg fun is => ?_).symm
      -- a watch that waits for its answer is told it
      have data := inv.waits d mem what v own connects (is ▸ waiting)
      rw [Watch.step, if_pos idle] at answered
      unfold serviceReply at answered
      cases found : w.watch.findCallback i with
      | none => exact absurd is.symm (findCallback_none found v.bare (mem_watches mem own))
      | some pair =>
        obtain ⟨a, u⟩ := pair
        obtain ⟨inside, own', id⟩ := findCallback_spec found
        obtain ⟨rfl, rfl⟩ := orderly.numbered.record orderly.table mem own inside own' (id.trans is)
        have named : a.argument = some name := congrArg Match.argument what
        rw [found] at answered
        dsimp only [bind, Option.bind] at answered
        rw [named] at answered
        dsimp only at answered
        rw [if_pos data] at answered
        cases owner with
        | none => cases answered
        | some owner => cases answered

/-! ## Runs -/

theorem inv_start (start : Start w) : Inv connection name w [] := by
  obtain ⟨owner, rfl⟩ := start
  refine ⟨upright_start rfl, fun f stage phase => Phase.noConfusion phase, fun m mem => ?_, .nil, fun id mem => ?_, fun p mem => ?_,
    fun d mem => ?_, fun d mem => ?_⟩
  all_goals cases mem

theorem told_self (s : State) : told s s = none := by
  have longer (id : Nat) : s.log ≠ .called id :: s.log := (List.cons_ne_self _ _).symm
  unfold told
  split
  · exact if_neg (longer _)
  · exact if_neg (longer _)
  · rfl

theorem step_inv {e : Event} (inv : Inv connection name w all) (allowed : Allowed connection name w e)
    (ran : step connection name w e = some w') : Inv connection name w' (noteTold w e w' all) := by
  have untold (same : w'.watch = w.watch) : noteTold w e w' all = all := by
    unfold noteTold
    rw [same, told_self]
    rfl
  cases e with
  | owns owner heard =>
    obtain ⟨_, ran⟩ := Option.ite_none_left_eq_some.mp ran
    cases ran
    rw [untold rfl]
    exact inv_owns inv owner fun rule => Bool.or_eq_true_iff.mpr (.inr (List.contains_iff_mem.mpr rule))
  | answer =>
    dsimp only [step] at ran
    split at ran
    · cases ran
    case h_2 first asked next =>
      cases ran
      rw [untold rfl]
      exact inv_answer inv next
  | sends m =>
    obtain ⟨other, ran⟩ := Option.ite_none_left_eq_some.mp ran
    cases ran
    rw [untold rfl]
    exact inv_sends inv allowed other
  | receive =>
    dsimp only [step] at ran
    split at ran
    case h_1 packet rest idle next =>
      obtain ⟨s', received, rfl⟩ := Option.map_eq_some_iff.mp ran
      cases packet with
      | signal m => exact (signal_onward inv allowed idle next received).inv inv
      | reply i owner => exact (reply_onward inv allowed idle next received).inv inv
    case h_2 => cases ran
  | watch e =>
    obtain ⟨apart, ran⟩ := Option.ite_none_right_eq_some.mp ran
    obtain ⟨s', went, rfl⟩ := Option.map_eq_some_iff.mp ran
    exact (watch_onward inv allowed apart went).inv inv

theorem Inv.told (inv : Inv connection name w all) (idle : w.watch.phase = .idle) (asked : w.asked = []) (inbox : w.inbox = [])
    (mem : d ∈ w.watch.listeners) (what : d.toMatch = serviceMatch connection name) (own : cb ∈ d.own)
    (connects : cb.connFunc = true) (disconnects : cb.discFunc = true) : last all cb.id = decide (w.owner ≠ "") := by
  have answered := (inv.agrees d mem what cb own connects disconnects).answered (by simp [asked])
  unfold outcome at answered
  rw [inbox, due_idle idle] at answered
  exact answered

/-- Once nothing is on its way and nobody runs, a watch of the name was told last
whether it has an owner. -/
theorem told_owner {w : Seen} (reached : Reaches (observe (step connection name) noteTold)
      (fun w e => Allowed connection name w.state e) (fun w => Start w.state ∧ w.ghost = []) w)
    (idle : w.state.watch.phase = .idle) (asked : w.state.asked = []) (inbox : w.state.inbox = [])
    (mem : d ∈ w.state.watch.listeners) (what : d.toMatch = serviceMatch connection name) (own : cb ∈ d.own)
    (connects : cb.connFunc = true) (disconnects : cb.discFunc = true) :
    last w.ghost cb.id = decide (w.state.owner ≠ "") := by
  have inv : Inv connection name w.state w.ghost := by
    refine reached.invariant (I := fun w => Inv connection name w.state w.ghost) (fun w start => ?_)
      fun w e w' inv allowed ran => ?_
    · obtain ⟨start, none⟩ := start
      rw [none]
      exact inv_start start
    · obtain ⟨s', stepped, rfl⟩ := observe_eq_some ran
      exact step_inv inv allowed stepped
  exact inv.told idle asked inbox mem what own connects disconnects

/-- A watch asked for the owner of its name, and was told. -/
def answered : Seen where
  state.watch := { serviceDataFree (updateService
    (gDbusAddServiceWatch {} 1 "net.connman" true true false {} .sent).1 "net.connman" ":1.5"
      { id := 1, connFunc := true, discFunc := true, data := .call }) 1 with phase := .idle }
  state.owner := ":1.5"
  ghost := [(1, true)]

theorem answered_reached : Reaches (observe (step 1 "net.connman") noteTold) (fun w e => Allowed 1 "net.connman" w.state e)
    (fun w => Start w.state ∧ w.ghost = []) answered := by
  have good : ({} : Answers).Good := ⟨rfl, fun _ => rfl, fun _ => rfl⟩
  have owned : Reaches (observe (step 1 "net.connman") noteTold) (fun w e => Allowed 1 "net.connman" w.state e)
      (fun w => Start w.state ∧ w.ghost = []) ⟨{ owner := ":1.5" }, []⟩ := by
    exact .here ⟨⟨":1.5", rfl⟩, rfl⟩
  have fresh : Fresh 1 "net.connman" { owner := ":1.5" } := ⟨fun _ mem => absurd mem List.not_mem_nil, fun _ _ => Phase.noConfusion⟩
  have asks := owned.next (e := Event.watch (.addServiceWatch 1 "net.connman" true true false {} .sent))
    ⟨⟨by decide, good, by decide +kernel, fun _ => .inr ⟨rfl, rfl⟩⟩, fun _ _ _ _ _ _ same _ _ => by
      cases same
      exact ⟨rfl, fresh⟩⟩ rfl
  have answers := asks.next (e := Event.answer) trivial rfl
  have receives := answers.next (e := Event.receive) (show Room _ by decide +kernel) rfl
  exact receives.next (e := Event.watch (.returned true {})) ⟨⟨by decide +kernel, rfl⟩, fun _ _ _ _ _ _ same => by cases same⟩ rfl

theorem told_owner_answered : last answered.ghost 1 = decide (answered.state.owner ≠ "") := by
  have own : { id := 1, connFunc := true, discFunc := true } ∈ ((answered.state.watch.listeners.head?).get rfl).own := by decide +kernel
  exact told_owner answered_reached rfl rfl rfl (by decide +kernel) (by decide +kernel) own rfl rfl

end ConnmanUi.ServiceWatch
