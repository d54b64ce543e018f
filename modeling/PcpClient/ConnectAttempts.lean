import PcpClient.ConnectionMachine
import Mathlib.Data.List.Count

/-!
Whole calls of connect(max_connect_attempts) with a positive bound, from any state of
the Connection and under any interleaving with handlers and close() calls: how many
attempts a call makes, and when it reports an open connection.
-/
namespace PcpConnectAttempts
open PcpTransitions PcpConnection

def FromNetwork : Action → Prop
  | .closeEnter _ | .closeEndpoint _ _ | .closeWrite _ => True
  | .onOpen _ | .onClose _ | .onFail _ | .onPong _ | .onPongTimeout _ => True
  | .onPreTCPInit _ | .onPostTCPInit _ | .tick => True
  | _ => False

def isCallConnect : Action → Bool
  | .callConnect _ => true
  | _ => false

/-- A call of connect(n) from c: its actions so far, with those of the other threads,
    and the state they lead to. -/
structure CallRun (c : Connection) (n : Int) (trace : List Action) (s : Connection) : Prop where
  free : c.pc = .idle
  body : run Connection.step (c.callConnect n) trace = some s
  single : ∀ a ∈ trace, isCallConnect a = false

/-- A whole call: the action that ends it, and the states before and after that one. -/
structure CompletedCall (c : Connection) (n : Int) (trace : List Action) (last : Action)
    (before after : Connection) : Prop where
  call : CallRun c n trace before
  running : before.pc ≠ .idle
  final : before.step last = some after
  ended : after.pc = .idle

def attempts (actions : List Action) : Nat := actions.count .beginAttempt

def polls (actions : List Action) : Nat := actions.count .poll

theorem network_keeps {c d : Connection} {a : Action} (network : FromNetwork a)
    (next : c.step a = some d) :
    d.pc = c.pc ∧ d.frame = c.frame ∧ d.result = c.result := by
  have moved := step_cases next
  cases a <;> simp only [FromNetwork] at network
  case closeEnter | closeEndpoint | closeWrite | onClose | onFail =>
    obtain ⟨_, rfl⟩ := moved
    exact ⟨rfl, rfl, rfl⟩
  all_goals
    obtain rfl := moved
    exact ⟨rfl, rfl, rfl⟩

structure Untouched (c d : Connection) : Prop where
  brokers : d.brokerWsUris = c.brokerWsUris
  limit : d.pongTimeoutsBeforeRetry = c.pongTimeoutsBeforeRetry
  timings : d.timings = c.timings
  state : d.connectionState = c.connectionState
  timeouts : d.consecutivePongTimeouts = c.consecutivePongTimeouts
  closeCall : d.closeCall = c.closeCall
  clock : d.clock = c.clock

theorem untouched_endPass (c : Connection) : Untouched c c.endPass := by
  unfold Connection.endPass
  split <;> exact ⟨rfl, rfl, rfl, rfl, rfl, rfl, rfl⟩

theorem untouched_pass (c : Connection) : Untouched c c.pass := by
  unfold Connection.pass
  repeat' split
  all_goals exact ⟨rfl, rfl, rfl, rfl, rfl, rfl, rfl⟩

theorem client_untouched {c d : Connection} {a : Action} (client : ¬FromNetwork a)
    (other : a ≠ .beginAttempt) (next : c.step a = some d) : Untouched c d := by
  have moved := step_cases next
  cases a with
  | callConnect n => obtain ⟨_, rfl⟩ := moved; exact ⟨rfl, rfl, rfl, rfl, rfl, rfl, rfl⟩
  | pass => obtain ⟨_, rfl⟩ := moved; exact untouched_pass c
  | poll => obtain ⟨_, rfl⟩ := moved; exact untouched_endPass c
  | retrySleep draw => obtain ⟨_, _, rfl⟩ := moved; exact ⟨rfl, rfl, rfl, rfl, rfl, rfl, rfl⟩
  | beginAttempt => exact absurd rfl other
  | getConnection reply =>
    obtain ⟨site, _, rfl⟩ := moved
    cases reply <;> exact ⟨rfl, rfl, rfl, rfl, rfl, rfl, rfl⟩
  | endpointConnect accepted =>
    obtain ⟨site, _, rfl⟩ := moved
    cases accepted <;> exact ⟨rfl, rfl, rfl, rfl, rfl, rfl, rfl⟩
  | waitEnds draw =>
    obtain ⟨site, _, _, rfl⟩ := moved
    cases site with
    | first => exact ⟨rfl, rfl, rfl, rfl, rfl, rfl, rfl⟩
    | again => exact untouched_endPass c
    | retry =>
      simp only [Connection.waitEnds]
      split
      · obtain ⟨brokers, limit, timings, state, timeouts, closeCall, clock⟩ :=
          untouched_endPass (c.doubleBackoff draw)
        exact ⟨brokers, limit, timings, state, timeouts, closeCall, clock⟩
      · exact untouched_endPass c
  | recheck =>
    obtain ⟨_, rfl⟩ := moved
    unfold Connection.recheck
    split
    · exact ⟨rfl, rfl, rfl, rfl, rfl, rfl, rfl⟩
    · exact untouched_endPass c
  | _ => exact absurd trivial client

theorem closeCall_cases {c d : Connection} {a : Action} (next : c.step a = some d) :
    match a with
    | .closeEnter caller =>
      c.closeCall = none ∧ (d.closeCall = none ∨ d.closeCall = some (caller, .endpointClose))
    | .closeEndpoint caller ok =>
      c.closeCall = some (caller, .endpointClose) ∧
        d.closeCall = if ok then some (caller, .writeState) else none
    | .closeWrite caller => c.closeCall = some (caller, .writeState) ∧ d.closeCall = none
    | _ => d.closeCall = c.closeCall := by
  have moved := step_cases next
  cases a with
  | closeEnter caller =>
    obtain ⟨free, rfl⟩ := moved
    refine ⟨free, ?_⟩
    simp only [Connection.closeEnter]
    split
    · exact .inr rfl
    · exact .inl rfl
  | closeEndpoint caller ok => obtain ⟨inside, rfl⟩ := moved; exact ⟨inside, rfl⟩
  | closeWrite caller => obtain ⟨inside, rfl⟩ := moved; exact ⟨inside, rfl⟩
  | beginAttempt => obtain ⟨_, _, rfl⟩ := moved; rfl
  | onClose hdl | onFail hdl => obtain ⟨_, rfl⟩ := moved; rfl
  | onOpen hdl | onPong hdl | onPongTimeout hdl | onPreTCPInit hdl | onPostTCPInit hdl | tick =>
    obtain rfl := moved
    rfl
  | _ => exact (client_untouched (by simp [FromNetwork]) (by simp) next).closeCall

theorem stamp_cases {c d : Connection} {a : Action} (next : c.step a = some d) :
    match a with
    | .beginAttempt => d.timings = .reset c.clock ∧ d.clock = c.clock
    | .closeEnter _ => d.timings = c.timings.setClosing c.clock ∧ d.clock = c.clock
    | .onOpen _ => d.timings = c.timings.setOpen c.clock ∧ d.clock = c.clock
    | .onClose _ => d.timings = c.timings.setClosed c.clock false ∧ d.clock = c.clock
    | .onFail _ => d.timings = c.timings.setClosed c.clock true ∧ d.clock = c.clock
    | .onPreTCPInit _ => d.timings = { c.timings with tcpPreInit := c.clock } ∧ d.clock = c.clock
    | .onPostTCPInit _ => d.timings = { c.timings with tcpPostInit := c.clock } ∧ d.clock = c.clock
    | .tick => d.timings = c.timings ∧ d.clock = c.clock + 1
    | _ => d.timings = c.timings ∧ d.clock = c.clock := by
  have moved := step_cases next
  cases a with
  | beginAttempt => obtain ⟨site, _, rfl⟩ := moved; exact ⟨rfl, rfl⟩
  | closeEnter caller | closeEndpoint caller ok | closeWrite caller | onClose hdl | onFail hdl =>
    obtain ⟨_, rfl⟩ := moved
    exact ⟨rfl, rfl⟩
  | onOpen hdl | onPong hdl | onPongTimeout hdl | onPreTCPInit hdl | onPostTCPInit hdl | tick =>
    obtain rfl := moved
    exact ⟨rfl, rfl⟩
  | _ =>
    have same := client_untouched (by simp [FromNetwork]) (by simp) next
    exact ⟨same.timings, same.clock⟩

theorem idle_network {c d : Connection} {a : Action} (idle : c.pc = .idle)
    (single : isCallConnect a = false) (next : c.step a = some d) : FromNetwork a := by
  have moved := step_cases next
  cases a with
  | callConnect n => cases single
  | pass | poll | retrySleep draw | recheck =>
    have busy := moved.1
    simp [idle] at busy
  | beginAttempt | getConnection reply | endpointConnect accepted | waitEnds draw =>
    obtain ⟨site, busy, _⟩ := moved
    simp [idle] at busy
  | _ => trivial

theorem pass_frame (c : Connection) :
    c.pass.frame.maxConnectAttempts = c.frame.maxConnectAttempts ∧
      c.pass.frame.idx = c.frame.idx + 1 ∧
      c.pass.frame.tryAgain = c.nextFrame.tryAgain := by
  unfold Connection.pass
  split
  · split <;> exact ⟨rfl, rfl, rfl⟩
  · exact ⟨rfl, rfl, rfl⟩
  · split <;> exact ⟨rfl, rfl, rfl⟩
  · exact ⟨rfl, rfl, rfl⟩
  · split <;> exact ⟨rfl, rfl, rfl⟩

theorem pass_state (c : Connection) : c.pass.connectionState = c.connectionState :=
  (untouched_pass c).state

theorem pass_branch (c : Connection) :
    match c.connectionState with
    | .initialized => c.pass.pc = .attempt .first .start ∨ c.pass.pc = .aborted
    | .connecting => c.pass.pc = .polling
    | .open => c.pass.pc = .idle ∧ c.pass.result = some .returned
    | .closing => c.pass.pc = .polling
    | .closed => c.pass.pc = .attempt .again .start ∨ c.pass.pc = .backoff := by
  cases state : c.connectionState with
  | initialized => simp only [Connection.pass, state]; split <;> simp
  | connecting => simp only [Connection.pass, state]
  | «open» => simp only [Connection.pass, state]; split <;> exact ⟨rfl, rfl⟩
  | closing => simp only [Connection.pass, state]
  | closed => simp only [Connection.pass, state]; split <;> simp

theorem endPass_again {c : Connection} (again : c.frame.tryAgain = true) :
    c.endPass = { c with pc := .head } := by
  simp [Connection.endPass, again]

theorem endPass_over {c : Connection} (finished : c.frame.tryAgain = false) :
    c.endPass.pc = .idle ∧ c.endPass.result = some (.fatalError c.frame.idx) := by
  simp [Connection.endPass, finished, Connection.finish]

theorem endPass_pc (c : Connection) : c.endPass.pc = .head ∨ c.endPass.pc = .idle := by
  unfold Connection.endPass
  split
  · exact .inl rfl
  · exact .inr rfl

theorem waitEnds_endPass (c : Connection) (draw : Int) {site : AttemptSite}
    (closed : site ≠ .first) :
    ∃ e : Connection, c.waitEnds draw site = e.endPass ∧ e.frame = c.frame ∧
      e.connectionState = c.connectionState := by
  cases site with
  | first => exact absurd rfl closed
  | again => exact ⟨c, rfl, rfl, rfl⟩
  | retry =>
    simp only [Connection.waitEnds]
    split
    · exact ⟨c.doubleBackoff draw, rfl, rfl, rfl⟩
    · exact ⟨c, rfl, rfl, rfl⟩

/-- The pass under way has not yet made its attempt or its poll. -/
def unspent : ConnectPc → Nat
  | .polling | .backoff | .attempt _ .start | .aborted => 1
  | _ => 0

/-- Every pass begun is an attempt, a poll or still unspent, and passes never exceed n. -/
structure Accounted (n : Int) (c : Connection) (started polled : Nat) : Prop where
  bounded : started ≤ n
  limit : c.pc ≠ .idle → c.frame.maxConnectAttempts = n
  within : c.pc ≠ .idle → c.frame.idx ≤ n
  spent : c.pc ≠ .idle → (started + polled + unspent c.pc : Int) = c.frame.idx
  more : c.pc = .head → c.frame.idx < n
  again : c.pc ≠ .head → c.pc ≠ .idle → c.frame.tryAgain = decide (c.frame.idx < n)
  fatal : ∀ k, c.pc = .idle → c.result = some (.fatalError k) → (started + polled : Int) = n

theorem attempts_snoc (past : List Action) (a : Action) :
    attempts (past ++ [a]) = attempts past + if a = .beginAttempt then 1 else 0 := by
  simp [attempts, List.count_append, List.count_singleton]

theorem polls_snoc (past : List Action) (a : Action) :
    polls (past ++ [a]) = polls past + if a = .poll then 1 else 0 := by
  simp [polls, List.count_append, List.count_singleton]

theorem accounted_start {c : Connection} {n : Int} (positive : 0 < n) :
    Accounted n (c.callConnect n) 0 0 where
  bounded := by omega
  limit _ := rfl
  within _ := by simp only [Connection.callConnect]; omega
  spent _ := by simp [unspent, Connection.callConnect]
  more _ := by simpa only [Connection.callConnect] using positive
  again notHead _ := absurd rfl notHead
  fatal k free _ := by simp [Connection.callConnect] at free

theorem accounted_finish {c : Connection} {n : Int} {started polled : Nat} {r : ConnectResult}
    (bounded : started ≤ n) (notFatal : ∀ k, r ≠ .fatalError k) :
    Accounted n (c.finish r) started polled where
  bounded := bounded
  limit running := absurd rfl running
  within running := absurd rfl running
  spent running := absurd rfl running
  more head := by simp [Connection.finish] at head
  again _ running := absurd rfl running
  fatal k _ result := by
    simp only [Connection.finish, Option.some.injEq] at result
    exact absurd result (notFatal k)

theorem accounted_endPass {c : Connection} {n : Int} {started polled : Nat}
    (limit : c.frame.maxConnectAttempts = n) (within : c.frame.idx ≤ n)
    (spent : (started + polled : Int) = c.frame.idx)
    (again : c.frame.tryAgain = decide (c.frame.idx < n)) :
    Accounted n c.endPass started polled := by
  by_cases more : c.frame.idx < n
  · rw [endPass_again (by simp [again, more])]
    constructor <;> intros <;> simp_all [unspent]
    omega
  · have finished := endPass_over (c := c) (by simp [again, more])
    constructor <;> intros <;> simp_all
    · omega
    · omega

theorem accounted_same {c d : Connection} {n : Int} {started polled : Nat}
    (account : Accounted n c started polled) (pc : d.pc = c.pc) (frame : d.frame = c.frame)
    (result : d.result = c.result) : Accounted n d started polled := by
  constructor
  · exact account.bounded
  · rw [pc, frame]; exact account.limit
  · rw [pc, frame]; exact account.within
  · rw [pc, frame]; exact account.spent
  · rw [pc, frame]; exact account.more
  · rw [pc, frame]; exact account.again
  · rw [pc, result]; exact account.fatal

theorem accounted_pass {c : Connection} {n : Int} {started polled : Nat} (positive : 0 < n)
    (account : Accounted n c started polled) (head : c.pc = .head) :
    Accounted n c.pass started polled := by
  have limit := account.limit (by simp [head])
  have spent := account.spent (by simp [head])
  have more := account.more head
  simp only [head, unspent] at spent
  obtain ⟨sameLimit, idx, tryAgain⟩ := pass_frame c
  have again : c.pass.frame.tryAgain = decide (c.pass.frame.idx < n) := by
    rw [tryAgain, idx]
    simp [Connection.nextFrame, limit, show n ≠ 0 by omega]
  have branch := pass_branch c
  have running : c.pass.pc ≠ .idle → c.pass.pc ≠ .head ∧ unspent c.pass.pc = 1 := by
    intro busy
    split at branch
    · rcases branch with pc | pc <;> simp [pc, unspent]
    · simp [branch, unspent]
    · exact absurd branch.1 busy
    · simp [branch, unspent]
    · rcases branch with pc | pc <;> simp [pc, unspent]
  refine ⟨account.bounded, fun _ => sameLimit.trans limit, fun _ => by omega, ?_, ?_,
    fun _ _ => again, ?_⟩
  · intro busy
    rw [(running busy).2, idx]
    omega
  · intro atHead
    exact absurd atHead (running (by simp [atHead])).1
  · intro k free result
    split at branch
    · rcases branch with pc | pc <;> simp [pc] at free
    · simp [branch] at free
    · simp [branch.2] at result
    · simp [branch] at free
    · rcases branch with pc | pc <;> simp [pc] at free

theorem accounted_move {c d : Connection} {n : Int} {started polled : Nat}
    (account : Accounted n c started polled) (frame : d.frame = c.frame)
    (busy : c.pc ≠ .idle) (later : c.pc ≠ .head) (running : d.pc ≠ .idle)
    (notHead : d.pc ≠ .head) (same : unspent d.pc = unspent c.pc) :
    Accounted n d started polled where
  bounded := account.bounded
  limit _ := by rw [frame]; exact account.limit busy
  within _ := by rw [frame]; exact account.within busy
  spent _ := by rw [frame, same]; exact account.spent busy
  more head := absurd head notHead
  again _ _ := by rw [frame]; exact account.again later busy
  fatal _ free _ := absurd free running

theorem accounted_step {c d : Connection} {n : Int} {past : List Action} {a : Action}
    (positive : 0 < n) (account : Accounted n c (attempts past) (polls past))
    (single : isCallConnect a = false) (next : c.step a = some d) :
    Accounted n d (attempts (past ++ [a])) (polls (past ++ [a])) := by
  rw [attempts_snoc, polls_snoc]
  have moved := step_cases next
  cases a with
  | callConnect m => cases single
  | pass =>
    obtain ⟨head, rfl⟩ := moved
    exact accounted_pass positive account head
  | poll =>
    obtain ⟨polling, rfl⟩ := moved
    have spent := account.spent (by simp [polling])
    simp only [polling, unspent] at spent
    exact accounted_endPass (account.limit (by simp [polling]))
      (account.within (by simp [polling])) (by simp; omega)
      (account.again (by simp [polling]) (by simp [polling]))
  | retrySleep draw =>
    obtain ⟨backoff, _, rfl⟩ := moved
    exact accounted_move account rfl (by simp [backoff]) (by simp [backoff]) (by simp) (by simp)
      (by simp [backoff, unspent])
  | beginAttempt =>
    obtain ⟨site, start, rfl⟩ := moved
    have within := account.within (by simp [start])
    have spent := account.spent (by simp [start])
    simp only [start, unspent] at spent
    refine ⟨by simp; omega, fun _ => account.limit (by simp [start]), fun _ => within,
      fun _ => ?_, by simp [Connection.beginAttempt],
      fun _ _ => account.again (by simp [start]) (by simp [start]),
      by simp [Connection.beginAttempt]⟩
    simp only [Connection.beginAttempt, unspent]
    simp
    omega
  | getConnection reply =>
    obtain ⟨site, stage, rfl⟩ := moved
    cases reply with
    | connection hdl =>
      exact accounted_move account rfl (by simp [stage]) (by simp [stage])
        (by simp [Connection.getConnection]) (by simp [Connection.getConnection])
        (by simp [Connection.getConnection, stage, unspent])
    | errorCode => exact accounted_finish account.bounded (by simp)
    | tlsInitError => exact accounted_finish account.bounded (by simp)
    | otherException => exact accounted_finish account.bounded (by simp)
  | endpointConnect accepted =>
    obtain ⟨site, stage, rfl⟩ := moved
    cases accepted with
    | true =>
      exact accounted_move account rfl (by simp [stage]) (by simp [stage])
        (by simp [Connection.endpointConnect]) (by simp [Connection.endpointConnect])
        (by simp [Connection.endpointConnect, stage, unspent])
    | false => exact accounted_finish account.bounded (by simp)
  | waitEnds draw =>
    obtain ⟨site, waiting, _, rfl⟩ := moved
    have limit := account.limit (by simp [waiting])
    have within := account.within (by simp [waiting])
    have spent : (attempts past + polls past : Int) = c.frame.idx := by
      simpa [waiting, unspent] using account.spent (by simp [waiting])
    have again := account.again (by simp [waiting]) (by simp [waiting])
    by_cases first : site = .first
    · subst first
      exact accounted_move account rfl (by simp [waiting]) (by simp [waiting])
        (by simp [Connection.waitEnds]) (by simp [Connection.waitEnds])
        (by simp [Connection.waitEnds, waiting, unspent])
    · obtain ⟨e, finished, frame, _⟩ := waitEnds_endPass c draw first
      rw [finished]
      exact accounted_endPass (by rw [frame]; exact limit) (by rw [frame]; exact within)
        (by rw [frame]; exact spent) (by rw [frame]; exact again)
  | recheck =>
    obtain ⟨recheck, rfl⟩ := moved
    have spent : (attempts past + polls past : Int) = c.frame.idx := by
      simpa [recheck, unspent] using account.spent (by simp [recheck])
    unfold Connection.recheck
    split
    · exact accounted_finish account.bounded (by simp)
    · exact accounted_endPass (account.limit (by simp [recheck]))
        (account.within (by simp [recheck])) spent
        (account.again (by simp [recheck]) (by simp [recheck]))
  | _ =>
    obtain ⟨pc, frame, result⟩ := network_keeps (by exact trivial) next
    exact accounted_same account pc frame result

theorem accounted_run {c s : Connection} {n : Int} {trace : List Action} (positive : 0 < n)
    (call : CallRun c n trace s) : Accounted n s (attempts trace) (polls trace) :=
  run_traced (fun m past => Accounted n m (attempts past) (polls past))
    (fun _ _ _ _ account single next => accounted_step positive account single next)
    trace (c.callConnect n) [] s (accounted_start positive)
    (throughout_of_forall trace _ call.single) call.body

/-- A pass that finds the connection connecting or closing sleeps instead of connecting. -/
def AttemptsAtOnce (s : Connection) (a : Action) : Prop :=
  a = .pass → s.connectionState ≠ .connecting ∧ s.connectionState ≠ .closing

instance (s : Connection) (a : Action) : Decidable (AttemptsAtOnce s a) :=
  inferInstanceAs (Decidable (_ → _))

theorem pass_polls_iff (c : Connection) :
    c.pass.pc = .polling ↔ c.connectionState = .connecting ∨ c.connectionState = .closing := by
  have branch := pass_branch c
  cases state : c.connectionState with
  | initialized =>
    simp only [state] at branch
    rcases branch with pc | pc <;> simp [pc]
  | connecting =>
    simp only [state] at branch
    simp [branch]
  | «open» =>
    simp only [state] at branch
    simp [branch.1]
  | closing =>
    simp only [state] at branch
    simp [branch]
  | closed =>
    simp only [state] at branch
    rcases branch with pc | pc <;> simp [pc]

theorem polling_entered {c d : Connection} {a : Action} (next : c.step a = some d)
    (polling : d.pc = .polling) : a = .pass ∨ c.pc = .polling := by
  have moved := step_cases next
  have notEnd : ∀ e : Connection, e.endPass.pc ≠ .polling := fun e bad => by
    rcases endPass_pc e with pc | pc <;> simp [pc] at bad
  cases a with
  | pass => exact .inl rfl
  | callConnect n => obtain ⟨_, rfl⟩ := moved; cases polling
  | poll => exact .inr moved.1
  | retrySleep draw => obtain ⟨_, _, rfl⟩ := moved; cases polling
  | beginAttempt => obtain ⟨site, _, rfl⟩ := moved; cases polling
  | getConnection reply =>
    obtain ⟨site, _, rfl⟩ := moved
    cases reply <;> cases polling
  | endpointConnect accepted =>
    obtain ⟨site, _, rfl⟩ := moved
    cases accepted <;> cases polling
  | waitEnds draw =>
    obtain ⟨site, _, _, rfl⟩ := moved
    by_cases first : site = .first
    · subst first
      cases polling
    · obtain ⟨e, finished, _⟩ := waitEnds_endPass c draw first
      exact absurd (finished ▸ polling) (notEnd e)
  | recheck =>
    obtain ⟨_, rfl⟩ := moved
    unfold Connection.recheck at polling
    split at polling
    · cases polling
    · exact absurd polling (notEnd _)
  | _ => exact .inr ((network_keeps (by exact trivial) next).1.symm.trans polling)

theorem polling_left {c d : Connection} {a : Action} (next : c.step a = some d)
    (polling : c.pc = .polling) (sleeping : a ≠ .poll) : d.pc = .polling := by
  have moved := step_cases next
  cases a with
  | poll => exact absurd rfl sleeping
  | callConnect n | pass | retrySleep draw | recheck =>
    have other := moved.1
    simp [polling] at other
  | beginAttempt | getConnection reply | endpointConnect accepted | waitEnds draw =>
    obtain ⟨site, other, _⟩ := moved
    simp [polling] at other
  | _ => exact (network_keeps (by exact trivial) next).1.trans polling

theorem atOnce_iff_no_polls {c s : Connection} {n : Int} {trace : List Action}
    (call : CallRun c n trace s) :
    Throughout Connection.step AttemptsAtOnce (c.callConnect n) trace ↔
      polls trace = 0 ∧ s.pc ≠ .polling := by
  have traced := run_traced (fun m past => run Connection.step (c.callConnect n) past = some m ∧
      (Throughout Connection.step AttemptsAtOnce (c.callConnect n) past ↔
        polls past = 0 ∧ m.pc ≠ .polling)) ?_ trace (c.callConnect n) [] s
      ⟨rfl, by simp [Throughout, polls, Connection.callConnect]⟩
      (throughout_of_forall trace _ call.single) call.body
  · exact traced.2
  · rintro m past a t ⟨path, same⟩ _ next
    refine ⟨run_snoc_iff.mpr ⟨m, path, next⟩, ?_⟩
    rw [throughout_snoc a path, same, polls_snoc]
    by_cases isPass : a = .pass
    · subst isPass
      obtain ⟨head, rfl⟩ := step_cases next
      simp [AttemptsAtOnce, pass_polls_iff, head]
    · by_cases isPoll : a = .poll
      · subst isPoll
        obtain ⟨polling, rfl⟩ := step_cases next
        simp [polling]
      · have kept : t.pc = .polling ↔ m.pc = .polling :=
          ⟨fun later => (polling_entered next later).resolve_left isPass,
            fun now => polling_left next now isPoll⟩
        simp [AttemptsAtOnce, isPass, isPoll, kept]

/-- A call makes at most n attempts, and one that ends with a fatal error made all of
    them if and only if none of its passes slept in wait of another event. -/
theorem fatal_after_all_attempts_iff {c s : Connection} {n : Int} {trace : List Action}
    (positive : 0 < n) (call : CallRun c n trace s) :
    attempts trace ≤ n ∧ ∀ k, s.pc = .idle → s.result = some (.fatalError k) →
      (attempts trace = n ↔
        Throughout Connection.step AttemptsAtOnce (c.callConnect n) trace) := by
  have account := accounted_run positive call
  refine ⟨account.bounded, fun k idle fatal => ?_⟩
  have total := account.fatal k idle fatal
  rw [atOnce_iff_no_polls call]
  constructor
  · intro all
    exact ⟨by omega, by simp [idle]⟩
  · rintro ⟨none, _⟩
    omega

def refusedAttempt : List Action :=
  [.pass, .beginAttempt, .getConnection (.connection 0), .endpointConnect true, .onFail 0,
    .waitEnds 0, .recheck]

theorem refused_attempt_is_counted :
    ∃ s, CallRun (Connection.create ["wss://localhost:8142/pcp/"] 3) 1 refusedAttempt s ∧
      s.result = some (.fatalError 1) ∧ attempts refusedAttempt = (1 : Int) := by
  have call : CallRun (Connection.create ["wss://localhost:8142/pcp/"] 3) 1 refusedAttempt _ :=
    ⟨rfl, rfl, by decide⟩
  exact ⟨_, call, rfl,
    ((fatal_after_all_attempts_iff (by decide) call).2 1 rfl rfl).mpr (by decide)⟩

def expiredAttempt : List Action :=
  [.callConnect 1, .pass, .beginAttempt, .getConnection (.connection 0), .endpointConnect true,
    .waitEnds 0, .recheck]

theorem fatal_without_attempt :
    ∃ c s, run Connection.step (Connection.create ["wss://localhost:8142/pcp/"] 3)
        expiredAttempt = some c ∧
      CallRun c 1 [.pass, .poll] s ∧ s.pc = .idle ∧ s.result = some (.fatalError 1) ∧
      attempts [.pass, .poll] = 0 :=
  ⟨_, _, rfl, ⟨rfl, rfl, by decide⟩, rfl, rfl, rfl⟩

end PcpConnectAttempts
