import ConnmanUi.AgentRouting

/-!
What becomes of a request the agent defers.

Here the library (`lib/agent.c`) runs under any client: a handler that defers
ends with a callback, and the calls the client makes in it are the next events,
since nothing of the handler is left to run.  `Ledger` adds the bookkeeping:
which calls were deferred, and which ended by Cancel, Release or finalize.
Deferred requests are accounted for as long as no second one arrives over a
pending one, and no reply fails for want of memory after the slot was given up
(`accounted_iff_careful`); careful or not, none is answered twice
(`answered_once`).  The program is one such client (`program_serves`).
-/

namespace ConnmanUi.Agent

open Run

variable {s t : State} {r : Serial} {mem : Memory}

/-! ## The library and its client -/

/-- The `connman_agent_reply_*` functions, with their arguments. -/
inductive Answer where
  | retry
  | canceled
  | launchBrowser
  | identity (user phrase : Option String)
  | passphrase (hiddenName phrase : Option String) (wps : Bool) (wpspin : Option String)
  | login (user phrase : Option String)

/-- A reply function runs. -/
def Answer.run (s : State) (mem : Memory) : Answer → State
  | .retry => connmanAgentReplyRetry s mem
  | .canceled => connmanAgentReplyCanceled s mem
  | .launchBrowser => connmanAgentReplyLaunchBrowser s mem
  | .identity user phrase => (connmanAgentReplyIdentity s mem user phrase).1
  | .passphrase hiddenName phrase wps wpspin =>
    (connmanAgentReplyPassphrase s mem hiddenName phrase wps wpspin).1
  | .login user phrase => (connmanAgentReplyLogin s mem user phrase).1

/-- The arguments are refused. -/
def Answer.refused : Answer → Bool
  | .identity user phrase => user.isNone || phrase.isNone
  | .passphrase hiddenName phrase wps _ => phrase.isNone && hiddenName.isNone && !wps
  | .login user phrase => user.isNone && phrase.isNone
  | _ => false

/-- The reply cannot be built, and the slot is emptied all the same. -/
def Answer.Lost (mem : Memory) : Answer → Prop
  | .retry => mem = .noMessage
  | .canceled => mem = .noMessage
  | .launchBrowser => mem = .noMessage
  | answer => answer.refused = false ∧ mem = .noDict

instance (answer : Answer) : Decidable (answer.Lost mem) := by
  unfold Answer.Lost
  split <;> infer_instance

/-- What the library is called for: a method of the agent object, whose
arguments may be missing or malformed, or a function of the client. -/
inductive Call where
  | reportError (args : Option (String × String))
  | requestBrowser (args : Option (String × String))
  | requestInput (args : Option (String × AgentInputData))
  | cancel
  | release
  | init
  | finalize
  | setCallbacks (error browser input cancel : Bool)
  | reply (answer : Answer) (mem : Memory)

variable {c : Call}

/-- The handler keeps the call and returns NULL. -/
def defers (s : State) : Call → Bool
  | .reportError args => s.agentIf.any (·.errorCb) && args.isSome
  | .requestBrowser args => s.agentIf.any (·.browserCb) && args.isSome
  | .requestInput args => s.agentIf.any (·.inputCb) &&
      args.any fun a => a.2.hidden || a.2.identity || a.2.passphrase || a.2.login
  | _ => false

/-- The asynchronous methods up to the callback: the call takes the slot,
whatever that held, or is answered at once. -/
def deferOr (s : State) (deferred : Bool) (refusal : Reply) : State :=
  if deferred then s.receive.setPending (some s.nextSerial) else s.receive.send s.nextSerial refusal

/-- One call, up to the callback it ends with. -/
def serve (s : State) (c : Call) : State :=
  match c with
  | .reportError _ => deferOr s (defers s c) .empty
  | .requestBrowser _ => deferOr s (defers s c) canceledError
  | .requestInput _ => deferOr s (defers s c) canceledError
  | .cancel => (s.receive.setPending none).send s.nextSerial .empty
  | .release => agentReleaseMethod s.receive s.nextSerial
  | .init => { s with agentIf := some (s.agentIf.getD {}) }
  | .finalize => connmanAgentFinalize s
  | .setCallbacks error browser input cancel =>
    { s with agentIf := s.agentIf.map fun a =>
      { a with errorCb := error, browserCb := browser, inputCb := input, cancelCb := cancel } }
  | .reply answer mem => answer.run s mem

/-- The request a call ends without an answer. -/
def ends (s : State) : Call → List Serial
  | .cancel => s.pending.toList
  | .release => s.pending.toList
  | .finalize => s.pending.toList
  | _ => []

/-- The call drops the pending request: its reply cannot be built. -/
def Drops (s : State) : Call → Prop
  | .reply answer mem => s.pending ≠ none ∧ answer.Lost mem
  | _ => False

instance : Decidable (Drops s c) := by
  unfold Drops
  split <;> infer_instance

/-- The library and what has become of the requests so far. -/
structure Ledger where
  agent : State := {}
  /-- The calls whose handler returned NULL. -/
  deferred : List Serial := []
  /-- The requests ended by Cancel, Release or finalize. -/
  ended : List Serial := []

variable {l l' : Ledger}

/-- How many replies to a call have been handed to the bus. -/
def Ledger.replies (l : Ledger) (r : Serial) : Nat := (l.agent.sent.map Prod.fst).count r

/-- One call, and what it does to the requests. -/
def Ledger.step (l : Ledger) (c : Call) : Option Ledger :=
  some {
    agent := serve l.agent c
    deferred := if defers l.agent c then l.agent.nextSerial :: l.deferred else l.deferred
    ended := ends l.agent c ++ l.ended }

/-- The program just started. -/
def Ledger.Start (l : Ledger) : Prop :=
  l.agent.agentIf = none ∧ l.agent.sent = [] ∧ l.deferred = [] ∧ l.ended = []

/-- Every deferred request is pending, answered by exactly one reply, or ended,
and only one of these. -/
def Accounted (l : Ledger) : Prop :=
  ∀ r ∈ l.deferred,
    l.agent.pending = some r ∧ l.replies r = 0 ∧ r ∉ l.ended ∨
    l.agent.pending ≠ some r ∧ l.replies r = 1 ∧ r ∉ l.ended ∨
    l.agent.pending ≠ some r ∧ l.replies r = 0 ∧ r ∈ l.ended

/-- A request is deferred only over an empty slot, and the reply to the pending
one can be built. -/
def Careful (l : Ledger) (c : Call) : Prop :=
  (defers l.agent c = true → l.agent.pending = none) ∧ ¬ Drops l.agent c

instance : Decidable (Careful l c) := inferInstanceAs (Decidable (_ ∧ _))

/-! ## What a call does -/

/-- What one call does to the slot, the serials and the replies. -/
inductive Effect (s : State) (c : Call) (s' : State) : Prop where
  | deferred (defers : defers s c = true) (ends : ends s c = []) (drops : ¬ Drops s c)
      (pending : s'.pending = some s.nextSerial) (sent : s'.sent = s.sent)
      (serial : s'.nextSerial = s.nextSerial + 1)
  | refused (reply : Reply) (defers : defers s c = false) (ends : ends s c = []) (drops : ¬ Drops s c)
      (pending : s'.pending = s.pending) (sent : s'.sent = (s.nextSerial, reply) :: s.sent)
      (serial : s'.nextSerial = s.nextSerial + 1)
  | ended (defers : defers s c = false) (ends : ends s c = s.pending.toList) (drops : ¬ Drops s c)
      (pending : s'.pending = none)
      (sent : s'.sent = s.sent ∧ s'.nextSerial = s.nextSerial ∨
        s'.sent = (s.nextSerial, .empty) :: s.sent ∧ s'.nextSerial = s.nextSerial + 1)
  | answered (r : Serial) (reply : Reply) (defers : defers s c = false) (ends : ends s c = [])
      (drops : ¬ Drops s c) (held : s.pending = some r) (pending : s'.pending = none)
      (sent : s'.sent = (r, reply) :: s.sent) (serial : s'.nextSerial = s.nextSerial)
  | dropped (defers : defers s c = false) (ends : ends s c = []) (drops : Drops s c)
      (pending : s'.pending = none) (sent : s'.sent = s.sent) (serial : s'.nextSerial = s.nextSerial)
  | idle (defers : defers s c = false) (ends : ends s c = []) (drops : ¬ Drops s c)
      (pending : s'.pending = s.pending) (sent : s'.sent = s.sent) (serial : s'.nextSerial = s.nextSerial)

theorem agentReplyError_effect (answer : Answer) (error text : String)
    (run : answer.run s mem = agentReplyError s mem error text) (lost : answer.Lost mem ↔ mem = .noMessage) :
    Effect s (.reply answer mem) (answer.run s mem) := by
  rw [run]
  unfold agentReplyError
  cases held : s.pending with
  | none => exact .idle rfl rfl (fun drops => drops.1 held) (by rw [held]) rfl rfl
  | some r =>
    dsimp only
    by_cases none_ : mem = .noMessage
    · rw [if_pos none_]
      exact .dropped rfl rfl ⟨by simp [held], lost.mpr none_⟩ (by simp [sendAgentReply]) rfl rfl
    · rw [if_neg none_]
      exact .answered r _ rfl rfl (fun drops => none_ (lost.mp drops.2)) held (by simp [sendAgentReply]) rfl rfl

theorem replyInputs_effect (answer : Answer) (entries : List (String × Option String)) (p q : Iter)
    (run : answer.run s mem = (replyInputs s mem answer.refused entries p q).1)
    (lost : answer.Lost mem ↔ answer.refused = false ∧ mem = .noDict) :
    Effect s (.reply answer mem) (answer.run s mem) := by
  rw [run]
  unfold replyInputs
  cases held : s.pending with
  | none => exact .idle rfl rfl (fun drops => drops.1 held) (by rw [held]) rfl rfl
  | some r =>
    dsimp only
    cases refused : answer.refused with
    | true =>
      refine .idle rfl rfl (fun drops => ?_) (by simp) rfl rfl
      have taken := (lost.mp drops.2).1
      rw [refused] at taken
      cases taken
    | false =>
      cases mem with
      | enough =>
        refine .answered r _ rfl rfl (fun drops => ?_) held (by simp [sendAgentReply]) rfl rfl
        cases (lost.mp drops.2).2
      | noMessage =>
        refine .idle rfl rfl (fun drops => ?_) (by simp) rfl rfl
        cases (lost.mp drops.2).2
      | noDict =>
        exact .dropped rfl rfl ⟨by simp [held], lost.mpr ⟨refused, rfl⟩⟩ (by simp) rfl rfl

theorem reply_effect (s : State) (answer : Answer) (mem : Memory) :
    Effect s (.reply answer mem) (answer.run s mem) := by
  cases answer with
  | retry => exact agentReplyError_effect .retry _ _ rfl Iff.rfl
  | canceled => exact agentReplyError_effect .canceled _ _ rfl Iff.rfl
  | launchBrowser => exact agentReplyError_effect .launchBrowser _ _ rfl Iff.rfl
  | identity user phrase => exact replyInputs_effect (.identity user phrase) _ _ _ rfl Iff.rfl
  | passphrase hiddenName phrase wps wpspin =>
    exact replyInputs_effect (.passphrase hiddenName phrase wps wpspin) _ _ _ rfl Iff.rfl
  | login user phrase => exact replyInputs_effect (.login user phrase) _ _ _ rfl Iff.rfl

theorem pending_setPending {a : ConnmanAgent} (agent : s.agentIf = some a) (value : Option Serial) :
    (s.setPending value).pending = value := by simp [State.pending, State.setPending, agent]

theorem deferOr_effect (refusal : Reply) (ends : ends s c = []) (drops : ¬ Drops s c)
    (there : defers s c = true → s.agentIf ≠ none) : Effect s c (deferOr s (defers s c) refusal) := by
  cases taken : defers s c with
  | true =>
    obtain ⟨a, agent⟩ := Option.ne_none_iff_exists'.mp (there taken)
    exact .deferred taken ends drops (pending_setPending (s := s.receive) agent _) rfl rfl
  | false => exact .refused refusal taken ends drops rfl rfl rfl

/-- Every call has one of these effects. -/
theorem serve_effect (s : State) (c : Call) : Effect s c (serve s c) := by
  cases c with
  | reportError args =>
    refine deferOr_effect _ rfl id fun taken none_ => ?_
    simp [defers, none_] at taken
  | requestBrowser args =>
    refine deferOr_effect _ rfl id fun taken none_ => ?_
    simp [defers, none_] at taken
  | requestInput args =>
    refine deferOr_effect _ rfl id fun taken none_ => ?_
    simp [defers, none_] at taken
  | cancel => exact .ended rfl rfl id (by simp [serve]) (.inr ⟨rfl, rfl⟩)
  | release => exact .ended rfl rfl id rfl (.inr ⟨rfl, rfl⟩)
  | finalize => exact .ended rfl rfl id rfl (.inl ⟨rfl, rfl⟩)
  | init =>
    refine .idle rfl rfl id ?_ rfl rfl
    cases agent : s.agentIf <;> simp [serve, State.pending, agent]
  | setCallbacks error browser input cancel =>
    refine .idle rfl rfl id ?_ rfl rfl
    cases agent : s.agentIf <;> simp [serve, State.pending, agent]
  | reply answer mem => exact reply_effect s answer mem

/-! ## Every run -/

/-- What holds of every run: a request is answered once at most, and neither
while it is pending nor after it was ended. -/
structure Sane (l : Ledger) : Prop where
  held : ∀ r, l.agent.pending = some r → r ∈ l.deferred ∧ l.replies r = 0 ∧ r ∉ l.ended
  once : ∀ r, l.replies r ≤ 1
  apart : ∀ r ∈ l.ended, l.replies r = 0
  known : ∀ r, r ∈ l.deferred ∨ r ∈ l.ended ∨ l.replies r ≠ 0 → r < l.agent.nextSerial

theorem start_sane (start : l.Start) : Sane l := by
  obtain ⟨agent, sent, deferred, ended⟩ := start
  have replies : ∀ r, l.replies r = 0 := by simp [Ledger.replies, sent]
  refine ⟨fun r held => ?_, fun r => ?_, fun r _ => replies r, fun r known => ?_⟩
  · simp [State.pending, agent] at held
  · rw [replies]
    exact Nat.zero_le 1
  · simp [deferred, ended, replies] at known

/-- The replies to `r`, after one more. -/
theorem replies_cons {reply : Reply} (sent : l'.agent.sent = (r, reply) :: l.agent.sent) (q : Serial) :
    l'.replies q = l.replies q + if r = q then 1 else 0 := by
  simp only [Ledger.replies, sent, List.map_cons, List.count_cons, beq_iff_eq]

theorem replies_same (sent : l'.agent.sent = l.agent.sent) (q : Serial) : l'.replies q = l.replies q := by
  rw [Ledger.replies, Ledger.replies, sent]

/-- A serial that has not been given out has no reply. -/
theorem Sane.fresh (sane : Sane l) : l.replies l.agent.nextSerial = 0 := by
  by_contra answered
  exact Nat.lt_irrefl _ (sane.known _ (.inr (.inr answered)))

theorem Sane.pending_lt (sane : Sane l) (held : l.agent.pending = some r) : r < l.agent.nextSerial :=
  sane.known r (.inl (sane.held r held).1)

/-- What a call does to the ledger beside the agent. -/
theorem step_spec (ran : l.step c = some l') :
    Effect l.agent c l'.agent ∧
      l'.deferred = (if defers l.agent c then l.agent.nextSerial :: l.deferred else l.deferred) ∧
      l'.ended = ends l.agent c ++ l.ended := by
  cases ran
  exact ⟨serve_effect l.agent c, rfl, rfl⟩

theorem sane_step (sane : Sane l) (ran : l.step c = some l') : Sane l' := by
  obtain ⟨effect, deferred', ended'⟩ := step_spec ran
  have fresh := sane.fresh
  obtain ⟨held, once, apart, known⟩ := sane
  cases effect with
  | deferred defers ends drops pending sent serial =>
    have replies := replies_same sent
    rw [defers, if_pos rfl] at deferred'
    rw [ends, List.nil_append] at ended'
    constructor <;> grind
  | refused reply defers ends drops pending sent serial =>
    have replies := replies_cons sent
    rw [defers, if_neg Bool.false_ne_true] at deferred'
    rw [ends, List.nil_append] at ended'
    constructor <;> grind
  | ended defers ends drops pending sent =>
    rw [defers, if_neg Bool.false_ne_true] at deferred'
    rw [ends] at ended'
    rcases sent with ⟨sent, serial⟩ | ⟨sent, serial⟩
    · have replies := replies_same sent
      constructor <;> grind
    · have replies := replies_cons sent
      constructor <;> grind
  | answered r reply defers ends drops pendingBefore pending sent serial =>
    have replies := replies_cons sent
    rw [defers, if_neg Bool.false_ne_true] at deferred'
    rw [ends, List.nil_append] at ended'
    constructor <;> grind
  | dropped defers ends drops pending sent serial =>
    have replies := replies_same sent
    rw [defers, if_neg Bool.false_ne_true] at deferred'
    rw [ends, List.nil_append] at ended'
    constructor <;> grind
  | idle defers ends drops pending sent serial =>
    have replies := replies_same sent
    rw [defers, if_neg Bool.false_ne_true] at deferred'
    rw [ends, List.nil_append] at ended'
    constructor <;> grind

/-- In a sane ledger the three states exclude each other, so what is left to
know of a deferred request is that one of them holds. -/
theorem accounted_iff (sane : Sane l) :
    Accounted l ↔ ∀ r ∈ l.deferred, l.agent.pending = some r ∨ l.replies r = 1 ∨ r ∈ l.ended := by
  refine forall₂_congr fun r _ => ⟨?_, ?_⟩
  · rintro (⟨held, _⟩ | ⟨_, answered, _⟩ | ⟨_, _, gone⟩)
    · exact .inl held
    · exact .inr (.inl answered)
    · exact .inr (.inr gone)
  · have held := sane.held r
    have apart := sane.apart r
    rintro (pending | answered | gone)
    · exact .inl ⟨pending, (held pending).2⟩
    · refine .inr (.inl ⟨fun pending => ?_, answered, fun gone => ?_⟩)
      · have unanswered := (held pending).2.1
        omega
      · have unanswered := apart gone
        omega
    · exact .inr (.inr ⟨fun pending => (held pending).2.2 gone, apart gone, gone⟩)

/-- A careful call leaves every request accounted for. -/
theorem careful_step (sane : Sane l) (accounted : Accounted l) (careful : Careful l c)
    (ran : l.step c = some l') : Accounted l' := by
  rw [accounted_iff (sane_step sane ran)]
  rw [accounted_iff sane] at accounted
  obtain ⟨effect, deferred', ended'⟩ := step_spec ran
  rw [ended']
  intro r isDeferred
  rw [deferred'] at isDeferred
  cases effect with
  | deferred defers ends drops pending sent serial =>
    rw [defers, if_pos rfl, List.mem_cons] at isDeferred
    rcases isDeferred with rfl | earlier
    · exact .inl pending
    · rcases accounted r earlier with held | answered | gone
      · rw [careful.1 defers] at held
        cases held
      · exact .inr (.inl (by rw [replies_same sent, answered]))
      · exact .inr (.inr (List.mem_append_right _ gone))
  | refused reply defers ends drops pending sent serial =>
    rw [defers, if_neg Bool.false_ne_true] at isDeferred
    rcases accounted r isDeferred with held | answered | gone
    · exact .inl (by rw [pending, held])
    · refine .inr (.inl ?_)
      have once := (sane_step sane ran).once r
      rw [replies_cons sent] at once ⊢
      omega
    · exact .inr (.inr (List.mem_append_right _ gone))
  | ended defers ends drops pending sent =>
    rw [defers, if_neg Bool.false_ne_true] at isDeferred
    rcases accounted r isDeferred with held | answered | gone
    · exact .inr (.inr (by simp [ends, held]))
    · refine .inr (.inl ?_)
      have once := (sane_step sane ran).once r
      rcases sent with ⟨sent, _⟩ | ⟨sent, _⟩
      · rw [replies_same sent, answered]
      · rw [replies_cons sent] at once ⊢
        omega
    · exact .inr (.inr (List.mem_append_right _ gone))
  | answered q reply defers ends drops pendingBefore pending sent serial =>
    rw [defers, if_neg Bool.false_ne_true] at isDeferred
    rcases accounted r isDeferred with held | answered | gone
    · rw [pendingBefore] at held
      cases held
      refine .inr (.inl ?_)
      rw [replies_cons sent, (sane.held r pendingBefore).2.1, if_pos rfl]
    · refine .inr (.inl ?_)
      have once := (sane_step sane ran).once r
      rw [replies_cons sent] at once ⊢
      omega
    · exact .inr (.inr (List.mem_append_right _ gone))
  | dropped defers ends drops pending sent serial => exact absurd drops careful.2
  | idle defers ends drops pending sent serial =>
    rw [defers, if_neg Bool.false_ne_true] at isDeferred
    rcases accounted r isDeferred with held | answered | gone
    · exact .inl (by rw [pending, held])
    · exact .inr (.inl (by rw [replies_same sent, answered]))
    · exact .inr (.inr (List.mem_append_right _ gone))

/-- A careless call loses the request that was pending: it is neither answered
nor ended, and nothing holds it any more. -/
theorem careless_step (sane : Sane l) (ran : l.step c = some l') (careless : ¬ Careful l c) :
    ¬ Accounted l' := by
  have sane' := sane_step sane ran
  obtain ⟨effect, deferred', ended'⟩ := step_spec ran
  obtain ⟨r, held, lost, kept⟩ : ∃ r, l.agent.pending = some r ∧ l'.agent.pending ≠ some r ∧
      l'.agent.sent = l.agent.sent ∧ ends l.agent c = [] := by
    rw [Careful, not_and_or, Classical.not_imp, not_not] at careless
    cases effect with
    | deferred defers ends drops pending sent serial =>
      rcases careless with ⟨_, taken⟩ | dropped
      · obtain ⟨r, held⟩ := Option.ne_none_iff_exists'.mp taken
        refine ⟨r, held, fun same => ?_, sent, ends⟩
        rw [pending, Option.some.injEq] at same
        exact Nat.lt_irrefl _ (same ▸ sane.pending_lt held)
      · exact absurd dropped drops
    | dropped defers ends drops pending sent serial =>
      cases c with
      | reply answer mem =>
        obtain ⟨r, held⟩ := Option.ne_none_iff_exists'.mp drops.1
        exact ⟨r, held, by rw [pending]; exact nofun, sent, ends⟩
      | _ => exact drops.elim
    | refused reply defers ends drops | ended defers ends drops | answered q reply defers ends drops
    | idle defers ends drops =>
      rcases careless with ⟨taken, _⟩ | dropped
      · rw [defers] at taken
        cases taken
      · exact absurd dropped drops
  obtain ⟨wasDeferred, unanswered, notEnded⟩ := sane.held r held
  rw [accounted_iff sane']
  intro accounted
  have stillDeferred : r ∈ l'.deferred := by
    rw [deferred']
    split
    · exact List.mem_cons_of_mem _ wasDeferred
    · exact wasDeferred
  rcases accounted r stillDeferred with pending | answered | gone
  · exact lost pending
  · rw [replies_same kept.1, unanswered] at answered
    cases answered
  · rw [ended', kept.2] at gone
    exact notEnded gone

theorem start_accounted (start : l.Start) : Accounted l := fun r isDeferred => by
  rw [start.2.2.1] at isDeferred
  cases isDeferred

/-- No request is answered twice, whatever the calls and their order. -/
theorem answered_once (reached : Reaches Ledger.step Always Ledger.Start l) (r : Serial) :
    l.replies r ≤ 1 :=
  (reached.invariant (fun _ => start_sane) fun _ _ _ sane _ ran => sane_step sane ran).once r

/-- **Accounting.**  In every run whose calls are careful, every deferred
request is pending, answered once, or ended; and the next call keeps that if
and only if it is careful. -/
theorem accounted_iff_careful (l : Ledger) (reached : Reaches Ledger.step Careful Ledger.Start l) :
    Accounted l ∧ ∀ c l', l.step c = some l' → (Accounted l' ↔ Careful l c) := by
  refine reached.exact (I := fun l => Sane l ∧ Accounted l) ?_ ?_ ?_ ?_
  · exact fun _ start => ⟨start_sane start, start_accounted start⟩
  · exact fun _ inv => inv.2
  · exact fun _ _ _ inv careful ran => ⟨sane_step inv.1 ran, careful_step inv.1 inv.2 careful ran⟩
  · exact fun _ _ _ inv ran careless => careless_step inv.1 ran careless

/-- Nothing was deferred yet. -/
def opened : Ledger := {}

theorem opened_start : opened.Start := ⟨rfl, rfl, rfl, rfl⟩

/-- ConnMan asks to open a browser, and before that is answered asks for a
passphrase. -/
def twoRequests : List Call :=
  [.init, .setCallbacks true true true true, .requestBrowser (some ("/service", "http://portal")),
    .requestInput (some ("/service", { passphrase := true }))]

/-- The second request takes the slot of the first, which nothing holds any
more and nobody answers. -/
theorem not_always_accounted : ¬ ∀ l, Reaches Ledger.step Always Ledger.Start l → Accounted l := by
  intro always
  obtain ⟨l, ran⟩ : ∃ l, play Ledger.step Always opened twoRequests = some l := ⟨_, rfl⟩
  have accounted := always l ((Reaches.here opened_start).play _ ran)
  cases ran
  rcases accounted 0 (by decide) with ⟨held, _⟩ | ⟨_, answered, _⟩ | ⟨_, _, gone⟩
  · exact absurd held (by decide)
  · exact absurd answered (by decide)
  · exact absurd gone (by decide)

/-- The same two requests, the first of them answered in between. -/
def inTurn : List Call :=
  [.init, .setCallbacks true true true true, .requestBrowser (some ("/service", "http://portal")),
    .reply .canceled .enough, .requestInput (some ("/service", { passphrase := true }))]

/-- Answered in turn, both are accounted for; a third over the second is not. -/
theorem accounted_iff_careful_inTurn : ∃ l, play Ledger.step Careful opened inTurn = some l ∧ Accounted l ∧
    l.deferred = [1, 0] ∧ ∀ l', l.step (.reportError (some ("/service", "error"))) = some l' → ¬ Accounted l' := by
  obtain ⟨l, ran⟩ : ∃ l, play Ledger.step Careful opened inTurn = some l := ⟨_, rfl⟩
  have accounting := accounted_iff_careful l ((Reaches.here opened_start).play _ ran)
  refine ⟨l, ran, accounting.1, ?_, fun l' next accounted => ?_⟩
  · cases ran
    rfl
  · have careful := (accounting.2 _ l' next).mp accounted
    cases ran
    exact absurd (careful.1 rfl) (by decide)

/-! ## The program is such a client -/

/-- What the library sees of the program's state. -/
def view (s : State) : Option ConnmanAgent × Serial × List (Serial × Reply) :=
  (s.agentIf, s.nextSerial, s.sent)

/-- The input dialogs do not take the request, and the program cancels it. -/
def turnedDown (s : State) (path : String) (data : AgentInputData) : Bool :=
  s.servicePath != some path || !(data.passphrase || data.hidden || data.login)

/-- What an event of the program asks of the library. -/
def calls (s : State) : Event → List Call
  | .reportError path error => [.reportError (some (path, error))]
  | .requestBrowser path url => [.requestBrowser (some (path, url))]
  | .requestInput path data mem =>
    .requestInput (some (path, data)) ::
      if defers s (.requestInput (some (path, data))) && turnedDown s path data then [.reply .canceled mem] else []
  | .cancel => [.cancel]
  | .release => [.release]
  | .init => [.init, .setCallbacks true true true true]
  | .finalize => [.finalize]
  | .selectService _ => []
  | .openTethering => []
  | .user _ (.okInput form) mem =>
    [.reply (.passphrase (nonEmpty form.hiddenEntry)
      (if form.passphraseButton then some form.secretEntry else none)
      (form.wpspbcButton || form.wpspinButton)
      (if form.wpspinButton then some form.secretEntry else if form.wpspbcButton then some "" else none)) mem]
  | .user _ (.okLogin username password) mem => [.reply (.login (nonEmpty username) (nonEmpty password)) mem]
  | .user _ .okTethering _ => []
  | .user _ .cancel mem => [.reply .canceled mem]
  | .user _ .close mem => [.reply .canceled mem]
  | .user _ .retry mem => [.reply .retry mem]

theorem view_requestInput (path : String) (data : AgentInputData) :
    view (agentRequestInputMethod s.receive mem s.nextSerial path data) =
      view ((calls s (.requestInput path data mem)).foldl serve s) := by
  unfold agentRequestInputMethod
  rw [agentIf_receive]
  cases agent : s.agentIf with
  | none => simp [view, calls, serve, deferOr, defers, agent]
  | some a =>
    cases cb : a.inputCb with
    | false => simp [view, calls, serve, deferOr, defers, agent, cb]
    | true =>
      cases asked : data.hidden || data.identity || data.passphrase || data.login with
      | false =>
        simp only [Bool.or_eq_false_iff] at asked
        simp [view, calls, serve, deferOr, defers, agent, cb, asked]
      | true =>
        have kept : defers s (.requestInput (some (path, data))) = true := by simp [defers, agent, cb, asked]
        have goesOn : (!data.hidden && !data.identity && !data.passphrase && !data.login) = false := by
          simpa [and_assoc, imp_iff_not_or, or_assoc] using asked
        have taken : serve s (.requestInput (some (path, data))) = s.receive.setPending (some s.nextSerial) := by
          simp only [serve, deferOr, kept, ↓reduceIte]
        simp only [cb, Bool.not_true, Bool.false_eq_true, ↓reduceIte, goesOn, calls, kept, Bool.true_and, List.foldl_cons,
          taken]
        unfold agentInputCb turnedDown
        by_cases service : s.servicePath = some path
        · cases shown : data.passphrase || data.hidden with
          | true => simp [service, view, State.widgetShow]
          | false => cases data.login <;> simp [service, view, State.widgetShow, serve, Answer.run]
        · simp [service, serve, Answer.run]

theorem view_agentReplyError_widgetHide (d : Dialog) (error text : String) :
    view (agentReplyError (s.widgetHide d) mem error text) = view (agentReplyError s mem error text) := by
  unfold agentReplyError
  rw [pending_widgetHide]
  cases s.pending with
  | none => rfl
  | some r => cases mem <;> rfl

theorem view_userAction {d : Dialog} {a : Action} {s' : State} (ran : userAction s mem d a = some s') :
    view s' = view ((calls s (.user d a mem)).foldl serve s) := by
  unfold userAction at ran
  split at ran
  case isFalse => cases ran
  case isTrue =>
    cases a with
    | okInput form =>
      cases d <;> cases ran
      rfl
    | okLogin username password =>
      cases d <;> cases ran
      rfl
    | okTethering =>
      cases d <;> cases ran
      rfl
    | retry =>
      cases d <;> cases ran
      exact view_agentReplyError_widgetHide ..
    | cancel =>
      cases ran
      exact view_agentReplyError_widgetHide ..
    | close =>
      cases ran
      rfl

/-- Every event of the program changes the slot, the serials and the replies as
the calls it makes do. -/
theorem program_serves {e : Event} {s' : State} (ran : step s e = some s') :
    view s' = view ((calls s e).foldl serve s) := by
  cases e with
  | reportError path error =>
    cases ran
    cases agent : s.agentIf with
    | none => simp [view, calls, serve, deferOr, defers, agentReportErrorMethod, agent]
    | some a => cases cb : a.errorCb <;>
        simp [view, calls, serve, deferOr, defers, agentReportErrorMethod, agentErrorCb, agent, cb, State.widgetShow]
  | requestBrowser path url =>
    cases ran
    cases agent : s.agentIf with
    | none => simp [view, calls, serve, deferOr, defers, agentRequestBrowserMethod, agent]
    | some a => cases cb : a.browserCb <;>
        simp [view, calls, serve, deferOr, defers, agentRequestBrowserMethod, agentBrowserCb, agent, cb]
  | requestInput path data mem =>
    cases ran
    exact view_requestInput path data
  | cancel =>
    cases ran
    cases agent : s.agentIf with
    | none => simp [view, calls, serve, agentCancelMethod, agent, State.setPending, State.send, State.receive]
    | some a => cases cb : a.cancelCb <;>
        simp [view, calls, serve, agentCancelMethod, agentCancelCb, agent, cb, State.send, State.receive, State.widgetHide]
  | release =>
    cases ran
    rfl
  | init =>
    cases ran
    cases agent : s.agentIf <;> simp [view, calls, serve, connmanAgentInit, agent]
  | finalize =>
    cases ran
    rfl
  | selectService path =>
    cases ran
    rfl
  | openTethering =>
    cases ran
    rfl
  | user d a mem => exact view_userAction ran

end ConnmanUi.Agent
