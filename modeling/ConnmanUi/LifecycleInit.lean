import ConnmanUi.Lifecycle

/-!
What an init function leaves behind when it fails.

A failure is harmless when the module's pointer is NULL afterwards: finalizing
does nothing then, and a later init does the whole set-up.  Three functions have
a step whose failure leaves the pointer behind (`Slips`): `connman_interface_init`
and `connman_service_init` free the structure and keep the pointer, and
`connman_technology_init` does that too, or keeps the structure half built when
the manager cannot be asked.  `all_or_nothing_iff` says that these are all.
-/

namespace ConnmanUi.Lifecycle

open Run
open ManagerCalls (Method Sending)

/-- The modules with an init function. -/
inductive Module where
  | interface
  | manager
  | technology
  | service
  | agent
  deriving DecidableEq

variable {s : Library} {m : Module} {o : Outcome}

/-- The module's pointer is NULL. -/
def IsNull (s : Library) : Module → Prop
  | .interface => s.connman = .null
  | .manager => s.bus.manager = none
  | .technology => s.techIf = .null
  | .service => s.serviceIf = .null
  | .agent => s.agentIf = .null

def init (s : Library) (o : Outcome) : Module → Library × Int
  | .interface => connmanInterfaceInit s o
  | .manager => connmanManagerInit s o
  | .technology => connmanTechnologyInit s o
  | .service => connmanServiceInit s o
  | .agent => connmanAgentInit s o

def finalize (s : Library) : Module → Library
  | .interface => connmanInterfaceFinalize s
  | .manager => connmanManagerFinalize s
  | .technology => connmanTechnologyFinalize s
  | .service => connmanServiceFinalize s
  | .agent => connmanAgentFinalize s

/-- The module's full set-up. -/
def Complete (s : Library) : Module → Prop
  | .interface => s.connman = .built { interfaceWatch := true }
  | .manager => ManagerCalls.Calling s.bus .getProperties ∧ s.bus.watches.find (s.bus.wid .propertyChanged) = some .propertyChanged
  | .technology => s.techIf = .built { dbusCnx := true } ∧ ManagerCalls.Calling s.bus (.get .technologies) ∧
      s.bus.storedCb .technologies = some ()
  | .service => s.serviceIf = .built { dbusCnx := true }
  | .agent => s.agentIf = .built { dbusCnx := true }

/-- Nothing of the module is left: its pointer is NULL, finalizing does nothing,
and an init that reports success does the full set-up. -/
def Nothing (s : Library) (m : Module) : Prop :=
  IsNull s m ∧ finalize s m = s ∧ ∀ o, 0 ≤ (init s o m).2 → Complete (init s o m).1 m

/-- The step that fails is one whose failure leaves the pointer behind: the
watch of `connman_interface_init`, the table of `connman_technology_init` or
`connman_service_init`, or asking the manager in `connman_technology_init`. -/
def Slips (s : Library) (o : Outcome) : Module → Prop
  | .interface => (o.callbacks && o.systemBus && o.sessionBus && o.name && o.memory) = true ∧ o.watch = false
  | .manager => False
  | .technology => s.connman ≠ .null ∧ o.memory = true ∧
      (o.table = false ∨ s.bus.manager = none ∨ o.sending ≠ .sent)
  | .service => s.connman ≠ .null ∧ o.memory = true ∧ o.table = false
  | .agent => False

/-! ## The three ways an init ends -/

/-- How an init over a NULL pointer ends: it fails and leaves the pointer NULL,
it fails at one of those steps and leaves something behind, or it succeeds and
the set-up is full. -/
inductive Ends (s : Library) (o : Outcome) (m : Module) : Prop where
  | failed (ret : (init s o m).2 < 0) (null : IsNull (init s o m).1 m) (clean : ¬ Slips s o m)
  | slipped (ret : (init s o m).2 < 0) (left : ¬ IsNull (init s o m).1 m) (slips : Slips s o m)
  | done (ret : 0 ≤ (init s o m).2) (complete : Complete (init s o m).1 m)

theorem connman_connmanDown : (connmanDown s).connman = s.connman := by
  unfold connmanDown connmanTechnologyFinalize connmanServiceFinalize
  split <;> split <;> rfl

/-- The error code of a failed step. -/
theorem failed_code : (-22 : Int) < 0 ∧ (-12 : Int) < 0 ∧ (-114 : Int) < 0 := by decide

theorem interfaceInit_ends (null : s.connman = .null) : Ends s o .interface := by
  cases early : o.callbacks && o.systemBus && o.sessionBus && o.name && o.memory with
  | false =>
    have unchanged : (connmanInterfaceInit s o).2 < 0 ∧ (connmanInterfaceInit s o).1 = s := by
      unfold connmanInterfaceInit
      rw [if_neg (not_not.mpr null)]
      repeat' split
      all_goals simp_all
    refine .failed unchanged.1 (unchanged.2.symm ▸ null) fun slips => ?_
    exact Bool.false_ne_true (early.symm.trans slips.1)
  | true =>
    have steps := early
    simp only [Bool.and_eq_true] at steps
    cases watch : o.watch with
    | false =>
      have freed : init s o .interface = ({ s with connman := .freed }, -22) := by
        simp [init, connmanInterfaceInit, null, steps, watch]
      exact .slipped (freed ▸ failed_code.1) (by rw [freed]; exact nofun) ⟨early, watch⟩
    | true =>
      have built : init s o .interface = (connmanDown { s with connman := .built { interfaceWatch := true } }, 0) := by
        simp [init, connmanInterfaceInit, null, steps, watch]
      exact .done (by rw [built]) (by rw [built]; exact connman_connmanDown)

theorem managerInit_ends (null : s.bus.manager = none) : Ends s o .manager := by
  rcases ManagerCalls.connmanManagerInit_cases (s.connman ≠ .null) ⟨o.memory, o.sending, o.watch⟩ null with
    ⟨ret, still⟩ | ⟨ret, complete⟩
  · exact .failed ret still id
  · exact .done ret complete

theorem technologyInit_ends (null : s.techIf = .null) : Ends s o .technology := by
  by_cases connman : s.connman = .null
  · have unchanged : init s o .technology = (s, -22) := by simp [init, connmanTechnologyInit, connman]
    exact .failed (unchanged ▸ failed_code.1) (unchanged ▸ null) fun slips => slips.1 connman
  cases memory : o.memory with
  | false =>
    have unchanged : init s o .technology = (s, -12) := by simp [init, connmanTechnologyInit, connman, null, memory]
    refine .failed (unchanged ▸ failed_code.2.1) (unchanged ▸ null) fun slips => ?_
    exact Bool.false_ne_true (memory.symm.trans slips.2.1)
  | true =>
    cases table : o.table with
    | false =>
      have freed : init s o .technology = ({ s with techIf := .freed }, -12) := by
        simp [init, connmanTechnologyInit, connman, null, memory, table]
      exact .slipped (freed ▸ failed_code.2.1) (by rw [freed]; exact nofun) ⟨connman, memory, .inl table⟩
    | true =>
      have asked := ManagerCalls.managerGet_fails .technologies s.bus () o.sending
      by_cases refused : (ManagerCalls.connmanManagerGetTechnologies s.bus (some ()) o.sending).2 < 0
      · have half : init s o .technology =
            ({ s with
                bus := (ManagerCalls.connmanManagerGetTechnologies s.bus (some ()) o.sending).1
                techIf := .built {} },
              (ManagerCalls.connmanManagerGetTechnologies s.bus (some ()) o.sending).2) := by
          simp [init, connmanTechnologyInit, connman, null, memory, table, refused]
        exact .slipped (half ▸ refused) (by rw [half]; exact nofun) ⟨connman, memory, .inr (asked.mp refused)⟩
      · have built : init s o .technology =
            ({ s with
                bus := (ManagerCalls.connmanManagerGetTechnologies s.bus (some ()) o.sending).1
                techIf := .built { dbusCnx := true } }, 0) := by
          simp [init, connmanTechnologyInit, connman, null, memory, table, refused]
        have calling := ManagerCalls.managerGet_calling () (Int.not_lt.mp refused)
        exact .done (by rw [built]) (by rw [built]; exact ⟨rfl, calling⟩)

theorem serviceInit_ends (null : s.serviceIf = .null) : Ends s o .service := by
  by_cases connman : s.connman = .null
  · have unchanged : init s o .service = (s, -22) := by simp [init, connmanServiceInit, connman]
    exact .failed (unchanged ▸ failed_code.1) (unchanged ▸ null) fun slips => slips.1 connman
  cases memory : o.memory with
  | false =>
    have unchanged : init s o .service = (s, -12) := by simp [init, connmanServiceInit, connman, null, memory]
    refine .failed (unchanged ▸ failed_code.2.1) (unchanged ▸ null) fun slips => ?_
    exact Bool.false_ne_true (memory.symm.trans slips.2.1)
  | true =>
    cases table : o.table with
    | false =>
      have freed : init s o .service = ({ s with serviceIf := .freed }, -12) := by
        simp [init, connmanServiceInit, connman, null, memory, table]
      exact .slipped (freed ▸ failed_code.2.1) (by rw [freed]; exact nofun) ⟨connman, memory, table⟩
    | true =>
      have built : init s o .service = ({ s with serviceIf := .built { dbusCnx := true } }, 0) := by
        simp [init, connmanServiceInit, connman, null, memory, table]
      exact .done (by rw [built]) (by rw [built]; rfl)

theorem agentInit_ends (null : s.agentIf = .null) : Ends s o .agent := by
  by_cases connman : s.connman = .null
  · have unchanged : init s o .agent = (s, -22) := by simp [init, connmanAgentInit, connman]
    exact .failed (unchanged ▸ failed_code.1) (unchanged ▸ null) id
  cases memory : o.memory with
  | false =>
    have unchanged : init s o .agent = (s, -12) := by simp [init, connmanAgentInit, connman, null, memory]
    exact .failed (unchanged ▸ failed_code.2.1) (unchanged ▸ null) id
  | true =>
    have built : init s o .agent = ({ s with agentIf := .built { dbusCnx := true } }, 0) := by
      simp [init, connmanAgentInit, connman, null, memory]
    exact .done (by rw [built]) (by rw [built]; rfl)

theorem init_ends (null : IsNull s m) : Ends s o m := by
  cases m with
  | interface => exact interfaceInit_ends null
  | manager => exact managerInit_ends null
  | technology => exact technologyInit_ends null
  | service => exact serviceInit_ends null
  | agent => exact agentInit_ends null

/-- A module whose pointer is NULL has nothing left. -/
theorem nothing_iff_null : Nothing s m ↔ IsNull s m := by
  refine ⟨fun nothing => nothing.1, fun null => ⟨null, ?_, fun o done => ?_⟩⟩
  · cases m with
    | interface => exact if_pos null
    | manager =>
      have same : ManagerCalls.connmanManagerFinalize s.bus = s.bus := if_pos (Option.isNone_iff_eq_none.mpr null)
      simp only [finalize, connmanManagerFinalize, same]
    | technology => exact if_pos null
    | service => exact if_pos null
    | agent =>
      have same : s.agentIf = .null := null
      simp only [finalize, connmanAgentFinalize, ← same]
  · cases init_ends (o := o) null with
    | failed ret | slipped ret => exact absurd ret (Int.not_lt.mpr done)
    | done ret complete => exact complete

/-- **All or nothing.**  An init function that fails when its pointer was NULL
leaves nothing behind, unless the step that failed is one of those. -/
theorem all_or_nothing_iff (s : Library) (o : Outcome) (m : Module) (null : IsNull s m)
    (failed : (init s o m).2 < 0) : Nothing (init s o m).1 m ↔ ¬ Slips s o m := by
  rw [nothing_iff_null]
  cases init_ends (o := o) null with
  | failed ret still clean => exact ⟨fun _ => clean, fun _ => still⟩
  | slipped ret left slips => exact ⟨fun still => absurd still left, fun clean => absurd slips clean⟩
  | done ret complete => exact absurd failed (Int.not_lt.mpr ret)

/-- ConnMan comes up, and there is no memory for the manager's message: where
`connman_up` goes on to `connman_technology_init`. -/
def unmanaged : Library :=
  (connmanServiceInit (connmanManagerInit (connmanInterfaceInit started {}).1 { sending := .noMessage }).1 {}).1

/-- `connman_technology_init` then fails with a half built structure: the next
time it reports success and sets nothing up. -/
theorem not_all_or_nothing :
    ¬ ∀ s o m, IsNull s m → (init s o m).2 < 0 → Nothing (init s o m).1 m := by
  intro always
  have nothing := always unmanaged {} .technology rfl (by decide)
  have half : (init unmanaged {} .technology).1.techIf = .built {} := by decide
  exact nomatch half.symm.trans nothing.1

/-- Over the NULL manager the technologies are left half built; the services are
not, when there is no memory for them. -/
theorem all_or_nothing_unmanaged :
    ¬ Nothing (init unmanaged {} .technology).1 .technology ∧
      Nothing (init (connmanInterfaceInit started {}).1 { memory := false } .service).1 .service := by
  refine ⟨?_, ?_⟩
  · rw [all_or_nothing_iff unmanaged {} .technology rfl (by decide), not_not]
    exact ⟨nofun, rfl, .inr (.inl rfl)⟩
  · rw [all_or_nothing_iff (connmanInterfaceInit started {}).1 { memory := false } .service rfl (by decide)]
    exact fun slips => nomatch slips.2.1

end ConnmanUi.Lifecycle
