import PcpClient.ConnectTermination
import PcpClient.AttemptSpacing
import PcpClient.EndpointContract
import Mathlib.Data.Fintype.EquivFin

/-!
What max_connect_attempts means over its whole range: connect(n) has a bound on its steps for
every n but zero, and with zero there are networks that keep it going.
-/
namespace PcpAttemptBounds
open PcpTransitions PcpConnection PcpConnectAttempts PcpBackoff PcpEndpoint
open PcpConnectTermination PcpAttemptSpacing

/-- The number of passes that a bound other than zero allows; a negative one allows the first. -/
def allowed (n : Int) : Int := max n 1

structure InPass (f : ConnectFrame) : Prop where
  begun : 1 ≤ f.idx
  again : f.tryAgain = true → f.maxConnectAttempts ≠ 0 → f.idx < allowed f.maxConnectAttempts
  last : f.tryAgain = false →
    f.maxConnectAttempts ≠ 0 ∧ f.idx = allowed f.maxConnectAttempts

/-- connect() gives up after the passes that its bound allows, and never without one. -/
structure Persevering (c : Connection) : Prop where
  head : c.pc = .head → c.frame.tryAgain = true ∧ 0 ≤ c.frame.idx ∧
    (c.frame.maxConnectAttempts ≠ 0 → c.frame.idx < allowed c.frame.maxConnectAttempts)
  inside : c.pc ≠ .idle → c.pc ≠ .head → InPass c.frame
  gaveUp : c.pc = .idle → ∀ attempts, c.result = some (.fatalError attempts) →
    (c.frame.maxConnectAttempts ≠ 0 ∧ attempts = allowed c.frame.maxConnectAttempts) ∧
      c.frame.idx = attempts

theorem persevering_create (brokerWsUris : List String) (pongTimeoutsBeforeRetry : Nat) :
    Persevering (.create brokerWsUris pongTimeoutsBeforeRetry) where
  head := fun head => by cases head
  inside := fun running => absurd rfl running
  gaveUp := fun _ _ gaveUp => by cases gaveUp

theorem persevering_start (c : Connection) (n : Int) : Persevering (c.callConnect n) where
  head := fun _ => ⟨rfl, Int.le_refl 0, fun _ => by simp [Connection.callConnect, allowed]⟩
  inside := fun _ notHead => absurd rfl notHead
  gaveUp := fun idle => by cases idle

theorem inPass_next {c : Connection} (persevering : Persevering c) (head : c.pc = .head)
    {f : ConnectFrame} (bound : f.maxConnectAttempts = c.frame.maxConnectAttempts)
    (idx : f.idx = c.nextFrame.idx) (again : f.tryAgain = c.nextFrame.tryAgain) : InPass f := by
  obtain ⟨before, nonnegative, more⟩ := persevering.head head
  simp only [Connection.nextFrame, before] at idx again
  simp only [allowed] at more
  refine ⟨by omega, ?_, ?_⟩
  · intro goes nonzero
    rw [bound] at nonzero
    rw [if_pos nonzero, goes, eq_comm, decide_eq_true_eq] at again
    rw [bound, allowed]
    omega
  · intro ends
    by_cases zero : c.frame.maxConnectAttempts = 0
    · simp [zero, ends] at again
    · rw [if_pos zero, ends, eq_comm, decide_eq_false_iff_not] at again
      have less := more zero
      rw [bound, allowed]
      exact ⟨zero, by omega⟩

def Leaves (c d : Connection) : Prop :=
  d.pc ≠ .idle ∧ d.pc ≠ .head ∨
    d.pc = .head ∧ c.frame.tryAgain = true ∨
    d.pc = .idle ∧ (c.frame.tryAgain = false ∧ d.result = some (.fatalError c.frame.idx) ∨
      ∃ r, d.result = some r ∧ ∀ attempts, r ≠ .fatalError attempts)

theorem endPass_leaves {c e : Connection} (frame : e.frame = c.frame) : Leaves c e.endPass := by
  cases again : e.frame.tryAgain with
  | true =>
    rw [endPass_again again]
    exact .inr (.inl ⟨rfl, frame ▸ again⟩)
  | false =>
    obtain ⟨idle, result⟩ := endPass_over again
    exact .inr (.inr ⟨idle, .inl ⟨frame ▸ again, frame ▸ result⟩⟩)

theorem finish_leaves (c : Connection) {r : ConnectResult}
    (other : ∀ attempts, r ≠ .fatalError attempts) : Leaves c (c.finish r) :=
  .inr (.inr ⟨rfl, .inr ⟨r, rfl, other⟩⟩)

theorem place_step {c d : Connection} {a : Action} (other : a ≠ .pass)
    (single : isCallConnect a = false) (next : c.step a = some d) :
    (d.pc = c.pc ∧ d.result = c.result) ∨ (c.pc ≠ .idle ∧ c.pc ≠ .head) ∧ Leaves c d := by
  have moved := step_cases next
  cases a with
  | callConnect n => cases single
  | pass => exact absurd rfl other
  | poll =>
    obtain ⟨polling, rfl⟩ := moved
    exact .inr ⟨by simp [polling], endPass_leaves rfl⟩
  | retrySleep draw =>
    obtain ⟨backoff, _, rfl⟩ := moved
    exact .inr ⟨by simp [backoff], .inl (by simp)⟩
  | beginAttempt =>
    obtain ⟨site, stage, rfl⟩ := moved
    exact .inr ⟨by simp [stage], .inl (by simp [Connection.beginAttempt])⟩
  | getConnection reply =>
    obtain ⟨site, stage, rfl⟩ := moved
    refine .inr ⟨by simp [stage], ?_⟩
    cases reply with
    | connection hdl => exact .inl (by simp [Connection.getConnection])
    | errorCode | tlsInitError | otherException => exact finish_leaves c (by simp)
  | endpointConnect accepted =>
    obtain ⟨site, stage, rfl⟩ := moved
    refine .inr ⟨by simp [stage], ?_⟩
    cases accepted with
    | true => exact .inl (by simp [Connection.endpointConnect])
    | false => exact finish_leaves c (by simp)
  | waitEnds draw =>
    obtain ⟨site, stage, _, rfl⟩ := moved
    refine .inr ⟨by simp [stage], ?_⟩
    by_cases first : site = .first
    · subst first
      exact .inl (by simp [Connection.waitEnds])
    · obtain ⟨e, ended, frame, _⟩ := waitEnds_endPass c draw first
      rw [ended]
      exact endPass_leaves frame
  | recheck =>
    obtain ⟨recheck, rfl⟩ := moved
    refine .inr ⟨by simp [recheck], ?_⟩
    unfold Connection.recheck
    split
    · exact finish_leaves c (by simp)
    · exact endPass_leaves rfl
  | _ =>
    obtain ⟨pc, _, result⟩ := network_keeps (by exact trivial) next
    exact .inl ⟨pc, result⟩

theorem pass_place (c : Connection) :
    (c.pass.pc ≠ .idle ∧ c.pass.pc ≠ .head) ∨
      c.pass.pc = .idle ∧ c.pass.result = some .returned := by
  have branch := pass_branch c
  cases state : c.connectionState with
  | initialized | closed =>
    simp only [state] at branch
    rcases branch with pc | pc <;> simp [pc]
  | connecting | closing =>
    simp only [state] at branch
    simp [branch]
  | «open» =>
    simp only [state] at branch
    exact .inr branch

theorem persevering_step {c d : Connection} {a : Action} (persevering : Persevering c)
    (next : c.step a = some d) : Persevering d := by
  by_cases calls : isCallConnect a = true
  · cases a <;> simp only [isCallConnect, Bool.false_eq_true] at calls
    obtain ⟨_, rfl⟩ := step_cases next
    exact persevering_start c _
  simp only [Bool.not_eq_true] at calls
  by_cases own : a = .pass
  · subst own
    obtain ⟨head, rfl⟩ := step_cases next
    obtain ⟨bound, idx, again⟩ := pass_frame c
    rcases pass_place c with ⟨running, away⟩ | ⟨idle, returned⟩
    · exact ⟨fun head => absurd head away,
        fun _ _ => inPass_next persevering head bound idx again,
        fun idle => absurd idle running⟩
    · exact ⟨fun head => by simp [idle] at head, fun running => absurd idle running,
        fun _ attempts gaveUp => by simp [returned] at gaveUp⟩
  · have frame := frame_kept own calls next
    rcases place_step own calls next with ⟨pc, result⟩ | ⟨⟨running, away⟩, leaves⟩
    · refine ⟨?_, ?_, ?_⟩ <;> rw [pc, frame]
      · exact persevering.head
      · exact persevering.inside
      · rw [result]
        exact persevering.gaveUp
    · have inside := persevering.inside running away
      rcases leaves with ⟨going, apart⟩ | ⟨head, again⟩ | ⟨idle, ended⟩
      · exact ⟨fun head => absurd head apart, fun _ _ => frame ▸ inside,
          fun idle => absurd idle going⟩
      · refine ⟨fun _ => ?_, fun _ notHead => absurd head notHead,
          fun idle => by simp [head] at idle⟩
        rw [frame]
        exact ⟨again, by have := inside.begun; omega, inside.again again⟩
      · refine ⟨fun head => by simp [idle] at head, fun running => absurd idle running, ?_⟩
        intro _ attempts gaveUp
        rw [frame]
        rcases ended with ⟨last, fatal⟩ | ⟨r, result, notFatal⟩
        · obtain ⟨nonzero, passes⟩ := inside.last last
          rw [fatal, Option.some.injEq, ConnectResult.fatalError.injEq] at gaveUp
          exact ⟨⟨nonzero, gaveUp ▸ passes⟩, gaveUp⟩
        · rw [result, Option.some.injEq] at gaveUp
          exact absurd gaveUp (notFatal attempts)

/-- A run from the call of connect(n), with the endpoint, and with no other call in it. -/
structure SystemCall (p : System) (n : Int) (trace : List Action) (q : System) : Prop where
  free : p.1.pc = .idle
  body : run System.step (p.1.callConnect n, p.2) trace = some q
  single : ∀ a ∈ trace, isCallConnect a = false

theorem bound_kept {c d : Connection} {a : Action} (single : isCallConnect a = false)
    (next : c.step a = some d) : d.frame.maxConnectAttempts = c.frame.maxConnectAttempts := by
  by_cases own : a = .pass
  · subst own
    obtain ⟨_, rfl⟩ := step_cases next
    exact (pass_frame c).1
  · rw [frame_kept own single next]

def ownLeft (n : Int) (c : Connection) : Nat := Prices.potential ⟨1, 0, 0, 0⟩ (allowed n) c

theorem ownLeft_start (c : Connection) (n : Int) :
    ownLeft n (c.callConnect n) = 6 * (allowed n).toNat := by
  rw [ownLeft, potential_running _ _ (by simp [Connection.callConnect])]
  simp [Connection.callConnect, passesLeft, Prices.rest, Prices.pass]

theorem ownLeft_step {c d : Connection} {a : Action} {n : Int} (held : Persevering c)
    (bound : c.frame.maxConnectAttempts = n) (nonzero : n ≠ 0) (single : isCallConnect a = false)
    (next : c.step a = some d) : ownLeft n d + (ownStep a).toNat ≤ ownLeft n c := by
  have more : c.pc = .head → c.frame.idx < allowed n := fun head => by
    rw [← bound]
    exact (held.head head).2.2 (bound ▸ nonzero)
  have paid := paid_step ⟨1, 0, 0, 0⟩ more single next
  have price : (ownStep a).toNat ≤ Prices.price ⟨1, 0, 0, 0⟩ a := by
    cases a <;> simp [Prices.price, ownStep]
  unfold ownLeft
  omega

theorem ownLeft_bound {c : Connection} {n : Int} (held : Persevering c) :
    ownLeft n c ≤ 6 * (allowed n).toNat := by
  have pass : Prices.pass ⟨1, 0, 0, 0⟩ = 6 := rfl
  have positive : 1 ≤ allowed n := Int.le_max_right n 1
  by_cases idle : c.pc = .idle
  · rw [ownLeft, potential_idle _ _ idle]
    exact Nat.zero_le _
  · rw [ownLeft, potential_running _ _ idle, passesLeft, pass]
    by_cases head : c.pc = .head
    · have begun := (held.head head).2.1
      have rest : Prices.rest ⟨1, 0, 0, 0⟩ c.pc = 0 := by rw [head]; rfl
      omega
    · have begun := (held.inside idle head).begun
      have rest : Prices.rest ⟨1, 0, 0, 0⟩ c.pc ≤ 6 := by
        cases c.pc with
        | attempt site stage =>
          cases site <;> cases stage <;> simp [Prices.rest, stepsLeft, rechecks]
        | _ => simp [Prices.rest]
      omega

theorem call_bounded {p q : System} {n : Int} {trace : List Action} (nonzero : n ≠ 0)
    (call : SystemCall p n trace q) : trace.countP ownStep ≤ 6 * (allowed n).toNat := by
  have paid := run_paid_under (fun (_ : System) a => isCallConnect a = false)
    (fun m => Persevering m.1 ∧ m.1.frame.maxConnectAttempts = n) (fun m => ownLeft n m.1)
    (fun _ a => (ownStep a).toNat)
    (fun m a d ⟨held, bound⟩ single next => by
      have moved := (system_step_iff.mp next).1
      exact ⟨persevering_step held moved, (bound_kept single moved).trans bound⟩)
    (fun m a d ⟨held, bound⟩ single next =>
      ownLeft_step held bound nonzero single (system_step_iff.mp next).1)
    trace (p.1.callConnect n, p.2) q ⟨persevering_start p.1 n, rfl⟩
    (throughout_of_forall trace _ call.single) call.body
  rw [spent_countP ownStep trace call.body, ownLeft_start] at paid
  omega

structure Refusing (p : System) : Prop where
  head : p.1.pc = .head
  endless : p.1.frame.maxConnectAttempts = 0
  again : p.1.frame.tryAgain = true
  closed : p.1.connectionState = .closed
  entered : p.1.frame.previousCS ≠ .closed
  unlocked : p.1.closeCall = none

def refusedRound (hdl : Handle) : List Action :=
  [.pass, .retrySleep 0, .beginAttempt, .getConnection (.connection hdl), .endpointConnect true,
    .onFail hdl, .waitEnds 0]

theorem refused_endpoint (e : Endpoint) {hdl : Handle} (fresh : hdl ∉ e.created) :
    ∃ f, run Endpoint.step e (refusedRound hdl) = some f := by
  simp [refusedRound, run, Endpoint.step, fresh]

theorem refused_connection {c : Connection} (hdl : Handle) (head : c.pc = .head)
    (again : c.nextFrame.tryAgain = true) (closed : c.connectionState = .closed)
    (entered : c.frame.previousCS ≠ .closed) (unlocked : c.closeCall = none) :
    ∃ d, run Connection.step c (refusedRound hdl) = some d ∧ d.pc = .head ∧
      d.frame = c.nextFrame ∧ d.connectionState = .closed ∧ d.closeCall = none := by
  have draw : IsDraw 0 := by decide
  have pass : c.pass = { c.switchWsUri with frame := c.nextFrame, pc := .backoff } := by
    simp [Connection.pass, closed, entered]
  cases maximal : c.nextFrame.gotMaxBackoff <;>
    simp [refusedRound, run, Connection.step, head, pass, draw, Connection.switchWsUri,
      Connection.beginAttempt, Connection.getConnection, Connection.endpointConnect, unlocked,
      Connection.onFail, Connection.waitEnds, again, maximal, Connection.endPass,
      Connection.doubleBackoff]

theorem refused_round {p : System} (refusing : Refusing p) :
    ∃ hdl q, run System.step p (refusedRound hdl) = some q ∧ Refusing q := by
  obtain ⟨hdl, fresh⟩ := Infinite.exists_notMem_finset p.2.created.toFinset
  rw [List.mem_toFinset] at fresh
  obtain ⟨f, endpoint⟩ := refused_endpoint p.2 fresh
  have again : p.1.nextFrame.tryAgain = true := by
    simp [Connection.nextFrame, refusing.endless, refusing.again]
  obtain ⟨d, connection, head, frame, closed, unlocked⟩ :=
    refused_connection hdl refusing.head again refusing.closed refusing.entered refusing.unlocked
  exact ⟨hdl, (d, f), (run_sync_iff _).mpr ⟨connection, endpoint⟩, head,
    frame ▸ refusing.endless, frame ▸ again, closed, frame ▸ refusing.entered, unlocked⟩

def refusedStep : Action → Bool
  | .onFail _ => true
  | a => ownStep a

theorem refusedStep_single {a : Action} (refused : refusedStep a = true) :
    isCallConnect a = false := by
  cases a with
  | callConnect n => cases refused
  | _ => rfl

theorem refused_rounds (count : Nat) {p : System} (refusing : Refusing p) :
    ∃ actions q, run System.step p actions = some q ∧ Refusing q ∧
      (∀ a ∈ actions, refusedStep a = true) ∧ count ≤ actions.count .beginAttempt := by
  obtain ⟨actions, q, path, again, refused, more⟩ :=
    run_unbounded (fun a => refusedStep a = true) (fun _ a => (a == .beginAttempt).toNat) Refusing
      (fun p refusing => by
        obtain ⟨hdl, q, path, again⟩ := refused_round refusing
        refine ⟨refusedRound hdl, q, path, again, by simp [refusedRound, refusedStep, ownStep], ?_⟩
        rw [spent_countP (· == .beginAttempt) _ path]
        simp [refusedRound])
      count p refusing
  rw [spent_countP (· == .beginAttempt) _ path] at more
  exact ⟨actions, q, path, again, refused, more⟩

def refusedFirst : List Action :=
  [.pass, .beginAttempt, .getConnection (.connection 0), .endpointConnect true, .onFail 0,
    .waitEnds 0, .recheck]

theorem refused_first (brokerWsUris : List String) (pongTimeoutsBeforeRetry : Nat) :
    ∃ q, run System.step ((System.create brokerWsUris pongTimeoutsBeforeRetry).1.callConnect 0,
      (System.create brokerWsUris pongTimeoutsBeforeRetry).2) refusedFirst = some q ∧
      Refusing q := by
  have entered : ConnectionState.initialized ≠ .closed := by decide
  exact ⟨_, rfl, rfl, rfl, rfl, rfl, entered, rfl⟩

theorem refused_call (brokerWsUris : List String) (pongTimeoutsBeforeRetry count : Nat) :
    ∃ trace q, SystemCall (System.create brokerWsUris pongTimeoutsBeforeRetry) 0 trace q ∧
      (∀ a ∈ trace, refusedStep a = true) ∧ count ≤ trace.count .beginAttempt := by
  obtain ⟨m, first, refusing⟩ := refused_first brokerWsUris pongTimeoutsBeforeRetry
  obtain ⟨later, q, path, _, refused, more⟩ := refused_rounds count refusing
  have opening : ∀ a ∈ refusedFirst, refusedStep a = true := by
    simp [refusedFirst, refusedStep, ownStep]
  have every : ∀ a ∈ refusedFirst ++ later, refusedStep a = true := fun a mem =>
    (List.mem_append.mp mem).elim (opening a) (refused a)
  refine ⟨refusedFirst ++ later, q,
    ⟨rfl, run_append_iff.mpr ⟨m, first, path⟩, fun a mem => refusedStep_single (every a mem)⟩,
    every, ?_⟩
  rw [List.count_append]
  omega

structure Counted (n : Int) (c : Connection) (past : List Action) : Prop where
  persevering : Persevering c
  bound : c.frame.maxConnectAttempts = n
  passes : (past.count .pass : Int) = c.frame.idx
  within : c.frame.idx ≤ allowed n

theorem counted_step {c d : Connection} {a : Action} {n : Int} {past : List Action}
    (nonzero : n ≠ 0) (counted : Counted n c past) (single : isCallConnect a = false)
    (next : c.step a = some d) : Counted n d (past ++ [a]) := by
  obtain ⟨persevering, bound, passes, within⟩ := counted
  have later := persevering_step persevering next
  have kept := (bound_kept single next).trans bound
  by_cases own : a = .pass
  · subst own
    obtain ⟨head, rfl⟩ := step_cases next
    have idx := (pass_frame c).2.1
    have more := (persevering.head head).2.2 (bound ▸ nonzero)
    rw [bound] at more
    refine ⟨later, kept, ?_, by omega⟩
    rw [List.count_append, idx]
    simp [passes]
  · have frame := frame_kept own single next
    refine ⟨later, kept, ?_, frame ▸ within⟩
    rw [List.count_append, frame, ← passes]
    simp [own]

theorem passes_allowed {p q : System} {n : Int} {trace : List Action} (nonzero : n ≠ 0)
    (call : SystemCall p n trace q) :
    (trace.count .pass : Int) ≤ allowed n ∧
      ∀ attempts, q.1.pc = .idle → q.1.result = some (.fatalError attempts) →
        (trace.count .pass : Int) = allowed n := by
  have start : Counted n (p.1.callConnect n) [] :=
    ⟨persevering_start p.1 n, rfl, rfl, (by decide : (0 : Int) ≤ 1).trans (Int.le_max_right n 1)⟩
  have single : Throughout System.step (fun _ a => isCallConnect a = false)
      (p.1.callConnect n, p.2) trace := throughout_of_forall trace _ call.single
  have counted := run_traced (fun m past => Counted n m.1 past)
    (fun m past a d held single next =>
      counted_step nonzero held single (system_step_iff.mp next).1)
    trace (p.1.callConnect n, p.2) [] q start single call.body
  refine ⟨counted.passes.trans_le counted.within, fun attempts idle gaveUp => ?_⟩
  obtain ⟨⟨_, passes⟩, last⟩ := counted.persevering.gaveUp idle attempts gaveUp
  rw [counted.bound] at passes
  exact counted.passes.trans (last.trans passes)

/-- connect(n) has a bound on its steps, whatever the network does, if and only if n is not
    zero. With another n it makes at most n passes, or one for a negative n, to which a large
    unsigned bound is converted; with zero, refused attempts alone keep it going. -/
theorem connect_bounded_iff (brokerWsUris : List String) (pongTimeoutsBeforeRetry : Nat) (n : Int) :
    ((∃ bound, ∀ earlier p trace q,
      run System.step (System.create brokerWsUris pongTimeoutsBeforeRetry) earlier = some p →
      SystemCall p n trace q → trace.countP ownStep ≤ bound) ↔ n ≠ 0) ∧
    (n ≠ 0 → ∀ p trace q, SystemCall p n trace q →
      (trace.count .pass : Int) ≤ max n 1 ∧
        ∀ attempts, q.1.pc = .idle → q.1.result = some (.fatalError attempts) →
          (trace.count .pass : Int) = max n 1) ∧
    ∀ count, ∃ trace q,
      SystemCall (System.create brokerWsUris pongTimeoutsBeforeRetry) 0 trace q ∧
      (∀ a ∈ trace, refusedStep a = true) ∧ count ≤ trace.count .beginAttempt := by
  refine ⟨⟨?_, fun nonzero => ⟨_, fun _ _ _ _ _ call => call_bounded nonzero call⟩⟩,
    fun nonzero p trace q call => passes_allowed nonzero call,
    refused_call brokerWsUris pongTimeoutsBeforeRetry⟩
  rintro ⟨bound, bounded⟩ rfl
  obtain ⟨trace, q, call, _, more⟩ :=
    refused_call brokerWsUris pongTimeoutsBeforeRetry (bound + 1)
  have within := bounded [] _ trace q rfl call
  have own : trace.count .beginAttempt ≤ trace.countP ownStep :=
    List.countP_mono_left fun a _ begins => by rw [beq_iff_eq.mp begins]; rfl
  omega

end PcpAttemptBounds
