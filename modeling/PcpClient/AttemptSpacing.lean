import PcpClient.BoundedSteps
import PcpClient.Backoff

/-!
How far apart the attempts of one call of connect() are: all but the first come after a sleep,
and the sleeps grow with the backoff.
-/
namespace PcpAttemptSpacing
open PcpTransitions PcpConnection PcpConnectAttempts PcpBackoff

def sleepMs (c : Connection) : Action → Nat
  | .retrySleep draw => (c.retrySleepMs draw).toNat
  | _ => 0

def isRetrySleep : Action → Bool
  | .retrySleep _ => true
  | _ => false

/-- The backoff that a call has reached at least when it has slept k times. -/
def levelAt (k : Nat) : Nat := min (2000 * 2 ^ k) 32000

def leastSleepMs : Nat → Nat
  | 0 => 0
  | k + 1 => leastSleepMs k + (levelAt k - 500)

/-- An attempt that nothing but the call of connect_() keeps from beginning. -/
def due : ConnectPc → Nat
  | .attempt _ .start => 1
  | _ => 0

def unslept : ConnectPc → Nat
  | .backoff => 1
  | _ => 0

def inRetry : ConnectPc → Nat
  | .attempt .retry _ => 1
  | _ => 0

/-- What the attempts begun and the sleeps slept by a call say about its next one. -/
structure Spaced (c : Connection) (started slept : Nat) : Prop where
  capped : Capped c
  account : started + due c.pc ≤ slept + 1
  onEntry : c.frame.previousCS = .closed → started + due c.pc + unslept c.pc = 0
  initial : c.connectionState = .initialized → started = 0
  grown : c.pc ≠ .idle → levelAt (slept - inRetry c.pc) ≤ c.connectionBackoffMs
  maximal : c.pc ≠ .idle → c.frame.gotMaxBackoff = true → 16500 ≤ c.connectionBackoffMs

theorem levelAt_succ (k : Nat) : levelAt k ≤ 2 * levelAt (k - 1) := by
  cases k with
  | zero => decide
  | succ k =>
    simp only [levelAt, Nat.pow_succ, Nat.add_sub_cancel]
    omega

theorem levelAt_bounds (k : Nat) : 500 ≤ levelAt k ∧ levelAt k ≤ 32000 := by
  have positive : 1 ≤ 2 ^ k := Nat.one_le_two_pow
  simp only [levelAt]
  omega

theorem leastSleepMs_mono {j k : Nat} (less : j ≤ k) : leastSleepMs j ≤ leastSleepMs k := by
  induction less with
  | refl => exact Nat.le_refl _
  | step _ ih => exact ih.trans (Nat.le_add_right _ _)

theorem due_endPass (c : Connection) :
    due c.endPass.pc = 0 ∧ unslept c.endPass.pc = 0 ∧ inRetry c.endPass.pc = 0 := by
  rcases endPass_pc c with pc | pc <;> simp [pc, due, unslept, inRetry]

theorem endPass_kept {c : Connection} (running : c.endPass.pc ≠ .idle) :
    c.endPass.connectionBackoffMs = c.connectionBackoffMs ∧ c.endPass.frame = c.frame := by
  unfold Connection.endPass at running ⊢
  split
  · exact ⟨rfl, rfl⟩
  · rename_i finished
    simp [finished, Connection.finish] at running

theorem endPass_frame (c : Connection) : c.endPass.frame = c.frame := by
  unfold Connection.endPass
  split <;> rfl

theorem frame_kept {c d : Connection} {a : Action} (other : a ≠ .pass)
    (single : isCallConnect a = false) (next : c.step a = some d) : d.frame = c.frame := by
  have moved := step_cases next
  cases a with
  | callConnect n => cases single
  | pass => exact absurd rfl other
  | poll => obtain ⟨_, rfl⟩ := moved; exact endPass_frame c
  | retrySleep draw => obtain ⟨_, _, rfl⟩ := moved; rfl
  | beginAttempt => obtain ⟨site, _, rfl⟩ := moved; rfl
  | getConnection reply => obtain ⟨site, _, rfl⟩ := moved; cases reply <;> rfl
  | endpointConnect accepted => obtain ⟨site, _, rfl⟩ := moved; cases accepted <;> rfl
  | waitEnds draw =>
    obtain ⟨site, _, _, rfl⟩ := moved
    by_cases first : site = .first
    · subst first
      rfl
    · obtain ⟨e, ended, frame, _⟩ := waitEnds_endPass c draw first
      rw [ended, endPass_frame]
      exact frame
  | recheck =>
    obtain ⟨_, rfl⟩ := moved
    unfold Connection.recheck
    split
    · rfl
    · exact endPass_frame c
  | _ => exact (network_keeps (by exact trivial) next).2.1

theorem initialized_before {c d : Connection} {a : Action} (next : c.step a = some d)
    (initial : d.connectionState = .initialized) :
    c.connectionState = .initialized ∧ a ≠ .beginAttempt := by
  have moved := step_cases next
  cases a with
  | beginAttempt => obtain ⟨site, _, rfl⟩ := moved; cases initial
  | onOpen hdl => obtain rfl := moved; cases initial
  | onClose hdl | onFail hdl | closeWrite caller => obtain ⟨_, rfl⟩ := moved; cases initial
  | closeEnter caller | closeEndpoint caller ok =>
    obtain ⟨_, rfl⟩ := moved
    exact ⟨initial, by simp⟩
  | onPong hdl | onPongTimeout hdl | onPreTCPInit hdl | onPostTCPInit hdl | tick =>
    obtain rfl := moved
    exact ⟨initial, by simp⟩
  | _ =>
    have same := (client_untouched (by simp [FromNetwork]) (by simp) next).state
    exact ⟨same ▸ initial, by simp⟩

theorem due_step {c d : Connection} {a : Action} (other : a ≠ .pass)
    (single : isCallConnect a = false) (next : c.step a = some d) :
    due d.pc + (decide (a = .beginAttempt)).toNat = due c.pc + (isRetrySleep a).toNat ∧
      unslept d.pc + (isRetrySleep a).toNat = unslept c.pc := by
  have moved := step_cases next
  cases a with
  | callConnect n => cases single
  | pass => exact absurd rfl other
  | poll =>
    obtain ⟨polling, rfl⟩ := moved
    rw [(due_endPass c).1, (due_endPass c).2.1]
    simp [polling, due, unslept, isRetrySleep]
  | retrySleep draw => obtain ⟨backoff, _, rfl⟩ := moved; simp [backoff, due, unslept, isRetrySleep]
  | beginAttempt =>
    obtain ⟨site, stage, rfl⟩ := moved
    simp [stage, Connection.beginAttempt, due, unslept, isRetrySleep]
  | getConnection reply =>
    obtain ⟨site, stage, rfl⟩ := moved
    cases reply <;>
      simp [stage, Connection.getConnection, Connection.finish, due, unslept, isRetrySleep]
  | endpointConnect accepted =>
    obtain ⟨site, stage, rfl⟩ := moved
    cases accepted <;>
      simp [stage, Connection.endpointConnect, Connection.finish, due, unslept, isRetrySleep]
  | waitEnds draw =>
    obtain ⟨site, stage, _, rfl⟩ := moved
    by_cases first : site = .first
    · subst first
      simp [stage, Connection.waitEnds, due, unslept, isRetrySleep]
    · obtain ⟨e, ended, _⟩ := waitEnds_endPass c draw first
      rw [ended, (due_endPass e).1, (due_endPass e).2.1]
      simp [stage, due, unslept, isRetrySleep]
  | recheck =>
    obtain ⟨recheck, rfl⟩ := moved
    unfold Connection.recheck
    split
    · simp [Connection.finish, recheck, due, unslept, isRetrySleep]
    · rw [(due_endPass c).1, (due_endPass c).2.1]
      simp [recheck, due, unslept, isRetrySleep]
  | _ =>
    rw [(network_keeps (by exact trivial) next).1]
    simp [isRetrySleep]

theorem due_pass (c : Connection) :
    (due c.pass.pc = 0 ∨ due c.pass.pc = 1 ∧
      (c.connectionState = .initialized ∨ c.frame.previousCS = .closed)) ∧
    (c.pass.frame.previousCS = .closed →
      c.frame.previousCS = .closed ∧ due c.pass.pc = 0 ∧ unslept c.pass.pc = 0) ∧
    (c.pass.pc ≠ .idle → inRetry c.pass.pc = 0 ∧
      c.pass.connectionBackoffMs = c.connectionBackoffMs) := by
  cases state : c.connectionState with
  | initialized =>
    simp only [Connection.pass, state]
    split
    · rename_i previous
      simp [due, unslept, inRetry, Connection.nextFrame, previous]
    · simp [due, unslept, inRetry, Connection.nextFrame]
  | connecting | closing => simp [Connection.pass, state, due, unslept, inRetry]
  | «open» =>
    simp only [Connection.pass, state]
    split <;> simp [Connection.finish, due, unslept, Connection.nextFrame, Connection.resetBackoff]
  | closed =>
    simp only [Connection.pass, state]
    split
    · rename_i previous
      simp [due, unslept, inRetry, previous]
    · rename_i previous
      simp [due, unslept, inRetry, Connection.nextFrame, Connection.switchWsUri, previous]

theorem pass_gotMaxBackoff (c : Connection) :
    c.pass.frame.gotMaxBackoff = c.nextFrame.gotMaxBackoff := by
  unfold Connection.pass
  repeat' split
  all_goals rfl

theorem waitEnds_grown {c : Connection} {draw : Int} (capped : Capped c) (isDraw : IsDraw draw)
    (running : (c.waitEnds draw .retry).pc ≠ .idle) :
    (c.waitEnds draw .retry).connectionBackoffMs =
        (if c.frame.gotMaxBackoff then 1 else 2) * c.connectionBackoffMs := by
  simp only [Connection.waitEnds] at running ⊢
  split at running
  · rename_i doubles
    simp only [doubles, if_true]
    simp only [Bool.and_eq_true, Bool.not_eq_true'] at doubles
    rw [(endPass_kept running).1, doubleBackoff_level capped.level isDraw, doubles.2]
    simp only [connectionBackoffMultiplier]
    exact Nat.mul_comm _ _
  · rename_i keeps
    have again : c.frame.tryAgain = true := by
      by_contra ended
      simp only [Bool.not_eq_true] at ended
      exact running (endPass_over ended).1
    simp only [again, Bool.true_and, Bool.not_eq_true', Bool.not_eq_false] at keeps
    simp only [keeps, again, Bool.not_true, Bool.and_false, Bool.false_eq_true, if_false, if_true]
    rw [(endPass_kept running).1, Nat.one_mul]

theorem backoff_running {c d : Connection} {a : Action} (capped : Capped c)
    (single : isCallConnect a = false) (next : c.step a = some d) (running : d.pc ≠ .idle) :
    c.pc ≠ .idle ∧
      (inRetry d.pc = inRetry c.pc + (isRetrySleep a).toNat ∧
          d.connectionBackoffMs = c.connectionBackoffMs ∨
        (a ≠ .pass ∧ isRetrySleep a = false ∧ inRetry c.pc = 1 ∧ inRetry d.pc = 0) ∧
          d.connectionBackoffMs = (if c.frame.gotMaxBackoff then 1 else 2) *
            c.connectionBackoffMs) := by
  have moved := step_cases next
  cases a with
  | callConnect n => cases single
  | pass =>
    obtain ⟨head, rfl⟩ := moved
    obtain ⟨outside, same⟩ := (due_pass c).2.2 running
    refine ⟨by simp [head], .inl ⟨?_, same⟩⟩
    rw [outside]
    simp [head, inRetry, isRetrySleep]
  | poll =>
    obtain ⟨polling, rfl⟩ := moved
    refine ⟨by simp [polling], .inl ⟨?_, (endPass_kept running).1⟩⟩
    rw [(due_endPass c).2.2]
    simp [polling, inRetry, isRetrySleep]
  | retrySleep draw =>
    obtain ⟨backoff, _, rfl⟩ := moved
    exact ⟨by simp [backoff], .inl ⟨by simp [backoff, inRetry, isRetrySleep], rfl⟩⟩
  | beginAttempt =>
    obtain ⟨site, stage, rfl⟩ := moved
    refine ⟨by simp [stage], .inl ⟨?_, rfl⟩⟩
    cases site <;> simp [stage, Connection.beginAttempt, inRetry, isRetrySleep]
  | getConnection reply =>
    obtain ⟨site, stage, rfl⟩ := moved
    cases reply with
    | connection hdl =>
      refine ⟨by simp [stage], .inl ⟨?_, rfl⟩⟩
      cases site <;> simp [stage, Connection.getConnection, inRetry, isRetrySleep]
    | errorCode | tlsInitError | otherException => exact absurd rfl running
  | endpointConnect accepted =>
    obtain ⟨site, stage, rfl⟩ := moved
    cases accepted with
    | true =>
      refine ⟨by simp [stage], .inl ⟨?_, rfl⟩⟩
      cases site <;> simp [stage, Connection.endpointConnect, inRetry, isRetrySleep]
    | false => exact absurd rfl running
  | waitEnds draw =>
    obtain ⟨site, stage, isDraw, rfl⟩ := moved
    refine ⟨by simp [stage], ?_⟩
    cases site with
    | first => exact .inl ⟨by simp [stage, Connection.waitEnds, inRetry, isRetrySleep], rfl⟩
    | again =>
      refine .inl ⟨?_, (endPass_kept running).1⟩
      rw [Connection.waitEnds, (due_endPass c).2.2]
      simp [stage, inRetry, isRetrySleep]
    | retry =>
      have notFirst : AttemptSite.retry ≠ .first := by simp
      obtain ⟨e, ended, _⟩ := waitEnds_endPass c draw notFirst
      refine .inr ⟨⟨by simp, rfl, by simp [stage, inRetry], ?_⟩,
        waitEnds_grown capped isDraw running⟩
      rw [ended]
      exact (due_endPass e).2.2
  | recheck =>
    obtain ⟨recheck, rfl⟩ := moved
    refine ⟨by simp [recheck], ?_⟩
    unfold Connection.recheck at running ⊢
    split
    · rename_i up
      simp [up, Connection.finish] at running
    · rename_i down
      rw [if_neg down] at running
      refine .inl ⟨?_, (endPass_kept running).1⟩
      rw [(due_endPass c).2.2]
      simp [recheck, inRetry, isRetrySleep]
  | _ =>
    obtain ⟨pc, _⟩ := network_keeps (by exact trivial) next
    exact ⟨pc ▸ running, .inl ⟨by simp [pc, isRetrySleep], backoff_network (by exact trivial) next⟩⟩

section spacing
variable {c d : Connection} {a : Action} {started slept : Nat} (spaced : Spaced c started slept)
include spaced

theorem grown_step (single : isCallConnect a = false) (next : c.step a = some d)
    (running : d.pc ≠ .idle) :
    levelAt (slept + (isRetrySleep a).toNat - inRetry d.pc) ≤ d.connectionBackoffMs := by
  obtain ⟨went, ⟨place, same⟩ | ⟨⟨_, awake, within, place⟩, multiplied⟩⟩ :=
    backoff_running spaced.capped single next running
  · have before := spaced.grown went
    have again : slept + (isRetrySleep a).toNat - inRetry d.pc = slept - inRetry c.pc := by omega
    rwa [again, same]
  · have before := spaced.grown went
    rw [within] at before
    rw [multiplied, place, awake]
    cases maximal : c.frame.gotMaxBackoff with
    | true =>
      have least := spaced.maximal went maximal
      have last : c.connectionBackoffMs = 32000 := by
        have level := spaced.capped.level
        simp only [backoffLevels, List.mem_cons, List.not_mem_nil, or_false] at level
        omega
      rw [last]
      exact (levelAt_bounds slept).2
    | false => exact (levelAt_succ slept).trans (Nat.mul_le_mul_left 2 before)

theorem maximal_step (single : isCallConnect a = false) (next : c.step a = some d)
    (running : d.pc ≠ .idle) (maximal : d.frame.gotMaxBackoff = true) :
    16500 ≤ d.connectionBackoffMs := by
  obtain ⟨went, kept⟩ := backoff_running spaced.capped single next running
  by_cases own : a = .pass
  · subst own
    obtain ⟨_, rfl⟩ := step_cases next
    rcases kept with ⟨_, same⟩ | ⟨⟨other, _⟩, _⟩
    · rw [pass_gotMaxBackoff] at maximal
      rw [same]
      simp only [Connection.nextFrame, Bool.or_eq_true, decide_eq_true_eq] at maximal
      rcases maximal with before | reached
      · exact spaced.maximal went before
      · have zero : IsDraw 0 := by decide
        have head := (unwrapped spaced.capped.level zero).head
        simp only [connectionBackoffLimitMs, connectionBackoffMultiplier] at reached head
        omega
    · exact absurd rfl other
  · rw [frame_kept own single next] at maximal
    have before := spaced.maximal went maximal
    rcases kept with ⟨_, same⟩ | ⟨_, multiplied⟩
    · rwa [same]
    · rw [multiplied]
      split <;> omega

theorem account_step (single : isCallConnect a = false) (next : c.step a = some d) :
    started + (decide (a = .beginAttempt)).toNat + due d.pc ≤
      slept + (isRetrySleep a).toNat + 1 := by
  have account := spaced.account
  by_cases own : a = .pass
  · subst own
    obtain ⟨head, rfl⟩ := step_cases next
    rcases (due_pass c).1 with notDue | ⟨one, initial | entry⟩
    · simp [notDue, isRetrySleep]
      omega
    · simp [one, spaced.initial initial, isRetrySleep]
    · have first := spaced.onEntry entry
      simp [one, isRetrySleep]
      omega
  · have moved := (due_step own single next).1
    omega

theorem onEntry_step (single : isCallConnect a = false) (next : c.step a = some d)
    (entry : d.frame.previousCS = .closed) :
    started + (decide (a = .beginAttempt)).toNat + due d.pc + unslept d.pc = 0 := by
  by_cases own : a = .pass
  · subst own
    obtain ⟨head, rfl⟩ := step_cases next
    obtain ⟨before, notDue, asleep⟩ := (due_pass c).2.1 entry
    have first := spaced.onEntry before
    simp [notDue, asleep]
    omega
  · rw [frame_kept own single next] at entry
    have first := spaced.onEntry entry
    obtain ⟨begun, sleeps⟩ := due_step own single next
    omega

theorem spaced_step (single : isCallConnect a = false) (next : c.step a = some d) :
    Spaced d (started + (decide (a = .beginAttempt)).toNat)
      (slept + (isRetrySleep a).toNat) where
  capped := capped_step spaced.capped next
  account := account_step spaced single next
  onEntry := onEntry_step spaced single next
  initial := fun state => by
    obtain ⟨before, other⟩ := initialized_before next state
    simp [spaced.initial before, other]
  grown := grown_step spaced single next
  maximal := maximal_step spaced single next

end spacing

theorem spaced_start {c : Connection} (capped : Capped c) (n : Int) :
    Spaced (c.callConnect n) 0 0 where
  capped := ⟨capped.level, fun retries _ => by cases retries⟩
  account := by simp [Connection.callConnect, due]
  onEntry := fun _ => rfl
  initial := fun _ => rfl
  grown := fun _ => by
    have least := (level_bounds capped.level).1
    simpa [Connection.callConnect, levelAt] using least
  maximal := fun _ maximal => by cases maximal

theorem sleep_covers {c d : Connection} {a : Action} {started slept : Nat}
    (spaced : Spaced c started slept) (next : c.step a = some d) :
    leastSleepMs (slept + (isRetrySleep a).toNat) ≤ leastSleepMs slept + sleepMs c a := by
  cases a with
  | retrySleep draw =>
    obtain ⟨backoff, isDraw, _⟩ := step_cases next
    have grown := spaced.grown (by rw [backoff]; simp)
    have exactly := (unwrapped spaced.capped.level isDraw).sleep
    obtain ⟨lower, _⟩ := isDraw
    simp only [backoff, inRetry, Nat.sub_zero] at grown
    have covered : levelAt slept - 500 ≤ (c.retrySleepMs draw).toNat := by omega
    exact Nat.add_le_add_left covered _
  | _ => simp [isRetrySleep, sleepMs]

theorem spaced_run {c s : Connection} {n : Int} {trace : List Action} (capped : Capped c)
    (call : CallRun c n trace s) :
    Spaced s (attempts trace) (trace.countP isRetrySleep) ∧
      leastSleepMs (trace.countP isRetrySleep) ≤
        spent Connection.step sleepMs (c.callConnect n) trace := by
  have traced := run_traced
    (fun m past => run Connection.step (c.callConnect n) past = some m ∧
      Spaced m (attempts past) (past.countP isRetrySleep) ∧
      leastSleepMs (past.countP isRetrySleep) ≤
        spent Connection.step sleepMs (c.callConnect n) past)
    (fun m past a d ⟨path, spaced, covered⟩ single next => by
      have now := sleep_covers spaced next
      have counted : (past ++ [a]).countP isRetrySleep =
          past.countP isRetrySleep + (isRetrySleep a).toNat := by
        cases sleeps : isRetrySleep a <;> simp [sleeps]
      have begun : attempts (past ++ [a]) =
          attempts past + (decide (a = .beginAttempt)).toNat := by
        by_cases own : a = .beginAttempt <;> simp [attempts, own]
      refine ⟨run_snoc_iff.mpr ⟨m, path, next⟩, ?_, ?_⟩
      · rw [begun, counted]
        exact spaced_step spaced single next
      · rw [counted, spent_snoc path next]
        omega)
    trace (c.callConnect n) [] s ⟨rfl, spaced_start capped n, Nat.zero_le _⟩
    (throughout_of_forall trace _ call.single) call.body
  exact traced.2

/-- Every attempt of a call but the first comes after sleeps of its own, each as long as the
    backoff that as many attempts before it have led to: at any point of a call the attempts
    begun have cost at least the shortest sleeps before all of them but the first. -/
theorem retries_spaced (brokerWsUris : List String) (pongTimeoutsBeforeRetry : Nat)
    {earlier trace : List Action} {c s : Connection} {n : Int}
    (reached : run Connection.step (.create brokerWsUris pongTimeoutsBeforeRetry) earlier = some c)
    (call : CallRun c n trace s) :
    leastSleepMs (attempts trace - 1) ≤
      spent Connection.step sleepMs (c.callConnect n) trace := by
  obtain ⟨spaced, covered⟩ := spaced_run (capped_reachable reached) call
  have account := spaced.account
  exact (leastSleepMs_mono (by omega)).trans covered

theorem refused_retry_spaced :
    ∃ s, CallRun (.create ["wss://localhost:8142/pcp/"] 3) 3 refusedRetry.tail s ∧
      1500 ≤ spent Connection.step sleepMs
        (Connection.callConnect (.create ["wss://localhost:8142/pcp/"] 3) 3) refusedRetry.tail := by
  have call : CallRun (.create ["wss://localhost:8142/pcp/"] 3) 3 refusedRetry.tail _ :=
    ⟨rfl, rfl, by simp [refusedRetry, isCallConnect]⟩
  have reached : run Connection.step (.create ["wss://localhost:8142/pcp/"] 3) [] = some _ := rfl
  exact ⟨_, call, retries_spaced _ _ reached call⟩

end PcpAttemptSpacing
