import PcpClient.BoundedSteps
import PcpClient.Backoff
import PcpClient.ConnectOutcome

/-!
connect(n) with a positive n comes to its end, whatever the network does: how many steps it
takes of its own, and how long they sleep and wait.
-/
namespace PcpConnectTermination
open PcpTransitions PcpConnection PcpConnectAttempts PcpConnectOutcome PcpBackoff

def ownStep : Action → Bool
  | .pass | .poll | .retrySleep _ | .beginAttempt | .getConnection _ => true
  | .endpointConnect _ | .waitEnds _ | .recheck => true
  | _ => false

/-- How long a step may block: the arguments of doSleep() and the timeout of the wait. -/
def blockedMs (wsConnectionTimeoutMs : Int) (c : Connection) : Action → Nat
  | .poll => connectionMinIntervalMs
  | .retrySleep draw => (c.retrySleepMs draw).toNat
  | .waitEnds _ => wsConnectionTimeoutMs.toNat
  | _ => 0

/-- What a step costs at most: every one of its own, and more for one that blocks. -/
structure Prices where
  own : Nat
  poll : Nat
  sleep : Nat
  wait : Nat

def Prices.price (p : Prices) (a : Action) : Nat :=
  (if ownStep a then p.own else 0) +
    match a with
    | .poll => p.poll
    | .retrySleep _ => p.sleep
    | .waitEnds _ => p.wait
    | _ => 0

def Prices.pass (p : Prices) : Nat := 6 * p.own + max p.poll (p.sleep + p.wait)

def stepsLeft : AttemptStage → Nat
  | .start => 4
  | .getConnection => 3
  | .endpointConnect => 2
  | .waiting => 1

def rechecks : AttemptSite → Nat
  | .first => 1
  | .again | .retry => 0

def Prices.rest (p : Prices) : ConnectPc → Nat
  | .idle | .head | .aborted => 0
  | .polling => p.own + p.poll
  | .backoff => 5 * p.own + (p.sleep + p.wait)
  | .attempt site stage => (stepsLeft stage + rechecks site) * p.own + p.wait
  | .recheck => p.own

def passesLeft (n : Int) (c : Connection) : Nat := (n - c.frame.idx).toNat

def Prices.potential (p : Prices) (n : Int) (c : Connection) : Nat :=
  if c.pc = .idle then 0 else p.pass * passesLeft n c + p.rest c.pc

theorem potential_idle (p : Prices) (n : Int) {c : Connection} (idle : c.pc = .idle) :
    p.potential n c = 0 := if_pos idle

theorem potential_running (p : Prices) (n : Int) {c : Connection} (running : c.pc ≠ .idle) :
    p.potential n c = p.pass * passesLeft n c + p.rest c.pc := if_neg running

theorem potential_endPass (p : Prices) (n : Int) (c : Connection) :
    p.potential n c.endPass ≤ p.pass * passesLeft n c := by
  unfold Connection.endPass
  split
  · exact Nat.le_of_eq (potential_running p n (by simp))
  · rw [potential_idle p n rfl]
    exact Nat.zero_le _

theorem rest_pass (p : Prices) {c : Connection} (running : c.pass.pc ≠ .idle) :
    p.rest c.pass.pc + p.own ≤ p.pass := by
  have branch := pass_branch c
  have poll : p.poll ≤ max p.poll (p.sleep + p.wait) := Nat.le_max_left _ _
  have retry : p.sleep + p.wait ≤ max p.poll (p.sleep + p.wait) := Nat.le_max_right _ _
  split at branch
  · rcases branch with pc | pc <;> simp only [pc, Prices.rest, Prices.pass, stepsLeft, rechecks] <;>
      omega
  · simp only [branch, Prices.rest, Prices.pass]
    omega
  · exact absurd branch.1 running
  · simp only [branch, Prices.rest, Prices.pass]
    omega
  · rcases branch with pc | pc <;> simp only [pc, Prices.rest, Prices.pass, stepsLeft, rechecks] <;>
      omega

theorem paid_pass (p : Prices) {n : Int} {c : Connection} (head : c.pc = .head)
    (more : c.frame.idx < n) : p.potential n c.pass + p.own ≤ p.potential n c := by
  rw [potential_running p n (c := c) (by simp [head]), head]
  have left : passesLeft n c = passesLeft n c.pass + 1 := by
    simp only [passesLeft, (pass_frame c).2.1]
    omega
  rw [left, Nat.mul_succ]
  by_cases idle : c.pass.pc = .idle
  · rw [potential_idle p n idle]
    simp only [Prices.pass, Prices.rest]
    omega
  · have := rest_pass p idle
    rw [potential_running p n idle]
    simp only [Prices.rest] at this ⊢
    omega

theorem paid_move (p : Prices) {n : Int} {c d : Connection} {cost : Nat} (running : c.pc ≠ .idle)
    (frame : d.frame = c.frame) (less : p.rest d.pc + cost ≤ p.rest c.pc) :
    p.potential n d + cost ≤ p.potential n c := by
  rw [potential_running p n running]
  by_cases idle : d.pc = .idle
  · rw [potential_idle p n idle]
    omega
  · rw [potential_running p n idle, passesLeft, frame, ← passesLeft]
    omega

theorem paid_finish (p : Prices) {n : Int} {c : Connection} {cost : Nat} {r : ConnectResult}
    (running : c.pc ≠ .idle) (less : cost ≤ p.rest c.pc) :
    p.potential n (c.finish r) + cost ≤ p.potential n c :=
  paid_move p running rfl (by simpa [Connection.finish, Prices.rest] using less)

theorem paid_endPass (p : Prices) {n : Int} {c e : Connection} {cost : Nat}
    (running : c.pc ≠ .idle) (frame : e.frame = c.frame) (less : cost ≤ p.rest c.pc) :
    p.potential n e.endPass + cost ≤ p.potential n c := by
  have ended := potential_endPass p n e
  rw [passesLeft, frame, ← passesLeft] at ended
  rw [potential_running p n running]
  omega

theorem price_network (p : Prices) {a : Action} (network : FromNetwork a) : p.price a = 0 := by
  cases a <;> first | rfl | exact network.elim

theorem paid_step (p : Prices) {n : Int} {c d : Connection} {a : Action}
    (more : c.pc = .head → c.frame.idx < n) (single : isCallConnect a = false)
    (next : c.step a = some d) : p.potential n d + p.price a ≤ p.potential n c := by
  have moved := step_cases next
  cases a with
  | callConnect m => cases single
  | pass =>
    obtain ⟨head, rfl⟩ := moved
    exact paid_pass p head (more head)
  | poll =>
    obtain ⟨polling, rfl⟩ := moved
    exact paid_endPass p (by simp [polling]) rfl
      (by simp [polling, Prices.rest, Prices.price, ownStep])
  | retrySleep draw =>
    obtain ⟨backoff, _, rfl⟩ := moved
    refine paid_move p (by simp [backoff]) rfl ?_
    simp only [backoff, Prices.rest, Prices.price, ownStep, stepsLeft, rechecks, if_true]
    omega
  | beginAttempt =>
    obtain ⟨site, stage, rfl⟩ := moved
    refine paid_move p (by simp [stage]) rfl ?_
    simp only [stage, Connection.beginAttempt, Prices.rest, Prices.price, ownStep, if_true]
    cases site <;> simp only [stepsLeft, rechecks] <;> omega
  | getConnection reply =>
    obtain ⟨site, stage, rfl⟩ := moved
    cases reply with
    | connection hdl =>
      refine paid_move p (by simp [stage]) rfl ?_
      simp only [stage, Connection.getConnection, Prices.rest, Prices.price, ownStep, if_true]
      cases site <;> simp only [stepsLeft, rechecks] <;> omega
    | errorCode | tlsInitError | otherException =>
      refine paid_finish p (by simp [stage]) ?_
      simp only [stage, Prices.rest, Prices.price, ownStep, if_true]
      cases site <;> simp only [stepsLeft, rechecks] <;> omega
  | endpointConnect accepted =>
    obtain ⟨site, stage, rfl⟩ := moved
    cases accepted with
    | true =>
      refine paid_move p (by simp [stage]) rfl ?_
      simp only [stage, Connection.endpointConnect, Prices.rest, Prices.price, ownStep, if_true]
      cases site <;> simp only [stepsLeft, rechecks] <;> omega
    | false =>
      refine paid_finish p (by simp [stage]) ?_
      simp only [stage, Prices.rest, Prices.price, ownStep, if_true]
      cases site <;> simp only [stepsLeft, rechecks] <;> omega
  | waitEnds draw =>
    obtain ⟨site, stage, _, rfl⟩ := moved
    have price : p.price (.waitEnds draw) = p.own + p.wait := rfl
    rw [price]
    by_cases first : site = .first
    · subst first
      refine paid_move p (by simp [stage]) rfl ?_
      simp only [stage, Connection.waitEnds, Prices.rest, stepsLeft, rechecks]
      omega
    · obtain ⟨e, ended, frame, _⟩ := waitEnds_endPass c draw first
      rw [ended]
      refine paid_endPass p (by simp [stage]) frame ?_
      have own : p.own ≤ (1 + rechecks site) * p.own := Nat.le_mul_of_pos_left _ (by omega)
      simp only [stage, Prices.rest, stepsLeft]
      omega
  | recheck =>
    obtain ⟨recheck, rfl⟩ := moved
    have running : c.pc ≠ .idle := by simp [recheck]
    have price : p.price .recheck ≤ p.rest c.pc := by
      simp [recheck, Prices.rest, Prices.price, ownStep]
    unfold Connection.recheck
    split
    · exact paid_finish p running price
    · exact paid_endPass p running rfl price
  | _ =>
    obtain ⟨pc, frame, _⟩ := network_keeps (by exact trivial) next
    rw [price_network p (by exact trivial), Prices.potential, Prices.potential, pc, passesLeft,
      frame]
    exact Nat.le_refl _

structure InCall (n : Int) (c : Connection) : Prop where
  accounted : ∃ past, Accounted n c (attempts past) (polls past)
  capped : Capped c

theorem inCall_step {n : Int} (positive : 0 < n) {c d : Connection} {a : Action}
    (holds : InCall n c) (single : isCallConnect a = false) (next : c.step a = some d) :
    InCall n d := by
  obtain ⟨past, account⟩ := holds.accounted
  exact ⟨⟨past ++ [a], accounted_step positive account single next⟩, capped_step holds.capped next⟩

theorem call_paid (p : Prices) {n : Int} (positive : 0 < n) {c s : Connection}
    {trace : List Action} (capped : Capped c) (call : CallRun c n trace s)
    (cost : Connection → Action → Nat)
    (covers : ∀ m a d, InCall n m → m.step a = some d → cost m a ≤ p.price a) :
    p.potential n s + spent Connection.step cost (c.callConnect n) trace ≤ p.pass * n.toNat := by
  have first : InCall n (c.callConnect n) :=
    ⟨⟨[], accounted_start positive⟩, ⟨capped.level, fun retries _ => by cases retries⟩⟩
  have paid := run_paid_under (fun _ a => isCallConnect a = false) (InCall n) (p.potential n) cost
    (fun _ _ _ holds single next => inCall_step positive holds single next)
    (fun m a d holds single next => by
      obtain ⟨past, account⟩ := holds.accounted
      have := paid_step p account.more single next
      have := covers m a d holds next
      omega)
    trace (c.callConnect n) s first (throughout_of_forall trace _ call.single) call.body
  have start : p.potential n (c.callConnect n) = p.pass * n.toNat := by
    rw [potential_running p n (by simp [Connection.callConnect])]
    simp [Connection.callConnect, passesLeft, Prices.rest]
  omega

def unconditional : Action → Bool
  | .getConnection (.connection _) | .endpointConnect true => false
  | _ => true

theorem own_enabled {c : Connection} (running : c.pc ≠ .idle) (asserted : c.pc ≠ .aborted) :
    ∃ a d, ownStep a = true ∧ unconditional a = true ∧ c.step a = some d := by
  have draw : IsDraw 0 := by decide
  cases pc : c.pc with
  | idle => exact absurd pc running
  | head => exact ⟨.pass, _, rfl, rfl, if_pos pc⟩
  | polling => exact ⟨.poll, _, rfl, rfl, if_pos pc⟩
  | backoff => exact ⟨.retrySleep 0, _, rfl, rfl, if_pos ⟨pc, draw⟩⟩
  | attempt site stage =>
    cases stage with
    | start =>
      exact ⟨.beginAttempt, c.beginAttempt site, rfl, rfl, by simp only [Connection.step, pc]⟩
    | getConnection =>
      exact ⟨.getConnection .errorCode, c.getConnection site .errorCode, rfl, rfl,
        by simp only [Connection.step, pc]⟩
    | endpointConnect =>
      exact ⟨.endpointConnect false, c.endpointConnect site false, rfl, rfl,
        by simp only [Connection.step, pc]⟩
    | waiting =>
      exact ⟨.waitEnds 0, c.waitEnds 0 site, rfl, rfl,
        by simp only [Connection.step, pc, draw, if_true]⟩
  | recheck => exact ⟨.recheck, _, rfl, rfl, if_pos pc⟩
  | aborted => exact absurd pc asserted

theorem capped_retrySleep {c : Connection} {draw : Int} (capped : Capped c)
    (isDraw : IsDraw draw) : (c.retrySleepMs draw).toNat ≤ 32500 := by
  obtain ⟨_, most⟩ := level_bounds capped.level
  rw [(unwrapped capped.level isDraw).sleep]
  obtain ⟨_, upper⟩ := isDraw
  omega

theorem blockedMs_price (wsConnectionTimeoutMs : Int) {c d : Connection} {a : Action}
    (capped : Capped c) (next : c.step a = some d) : blockedMs wsConnectionTimeoutMs c a ≤
      Prices.price ⟨0, 200, 32500, wsConnectionTimeoutMs.toNat⟩ a := by
  cases a with
  | retrySleep draw =>
    obtain ⟨_, isDraw, _⟩ := step_cases next
    exact (capped_retrySleep capped isDraw).trans (by simp [Prices.price])
  | _ => simp [Prices.price, blockedMs, connectionMinIntervalMs]

/-- connect(n) ends: it takes 6 n steps at most, it sleeps and waits n times 32.5 s and a
    connection timeout at most, and until it ends it can take a step, whatever happens. -/
theorem connect_terminates (brokerWsUris : List String) (pongTimeoutsBeforeRetry : Nat)
    (wsConnectionTimeoutMs : Int) {earlier trace : List Action} {c s : Connection} {n : Int}
    (reached : run Connection.step (.create brokerWsUris pongTimeoutsBeforeRetry) earlier = some c)
    (positive : 0 < n) (call : CallRun c n trace s) :
    trace.countP ownStep ≤ 6 * n.toNat ∧
      spent Connection.step (blockedMs wsConnectionTimeoutMs) (c.callConnect n) trace ≤
        (32500 + wsConnectionTimeoutMs.toNat) * n.toNat ∧
      (s.pc ≠ .idle → ∃ a d, ownStep a = true ∧ s.step a = some d) := by
  have capped := capped_reachable reached
  refine ⟨?_, ?_, fun running => ?_⟩
  · have paid := call_paid ⟨1, 0, 0, 0⟩ positive capped call (fun _ a => (ownStep a).toNat)
      fun m a d _ _ => by cases a <;> simp [Prices.price, ownStep]
    rw [spent_countP ownStep trace call.body] at paid
    have pass : Prices.pass ⟨1, 0, 0, 0⟩ = 6 := rfl
    rw [pass] at paid
    omega
  · have paid := call_paid ⟨0, 200, 32500, wsConnectionTimeoutMs.toNat⟩ positive capped call
      (blockedMs wsConnectionTimeoutMs)
      fun _ _ _ holds next => blockedMs_price wsConnectionTimeoutMs holds.capped next
    have pass : Prices.pass ⟨0, 200, 32500, wsConnectionTimeoutMs.toNat⟩ =
        32500 + wsConnectionTimeoutMs.toNat := by
      simp only [Prices.pass]
      omega
    rw [pass] at paid
    omega
  · obtain ⟨a, d, own, _, next⟩ := own_enabled running (assertion_holds call)
    exact ⟨a, d, own, next⟩

theorem refused_retry_terminates :
    ∃ s, CallRun (.create ["wss://localhost:8142/pcp/"] 3) 3 refusedRetry.tail s ∧
      refusedRetry.tail.countP ownStep ≤ 18 ∧ ∃ a d, ownStep a = true ∧ s.step a = some d := by
  have call : CallRun (.create ["wss://localhost:8142/pcp/"] 3) 3 refusedRetry.tail _ :=
    ⟨rfl, rfl, by simp [refusedRetry, isCallConnect]⟩
  have reached : run Connection.step (.create ["wss://localhost:8142/pcp/"] 3) [] = some _ := rfl
  have ends := connect_terminates _ _ 5000 reached (by decide) call
  exact ⟨_, call, ends.1, ends.2.2 (by decide)⟩

end PcpConnectTermination
