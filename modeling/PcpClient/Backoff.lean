import PcpClient.ConnectAttempts

/-!
connection_backoff_ms_ over any number of connect() calls: its five values, the steps that
change it, and the intervals slept before a retry.
-/
namespace PcpBackoff
open PcpTransitions PcpConnection PcpConnectAttempts

def backoffLevels : List Nat := [2000, 4000, 8000, 16000, 32000]

def retrying : ConnectPc → Bool
  | .backoff | .attempt .retry _ => true
  | _ => false

/-- A retry that may double the backoff was let through by the test at the head of its pass. -/
structure Capped (c : Connection) : Prop where
  level : c.connectionBackoffMs ∈ backoffLevels
  below : retrying c.pc = true → c.frame.gotMaxBackoff = false →
    c.connectionBackoffMs * connectionBackoffMultiplier < connectionBackoffLimitMs

structure Doubled (c : Connection) (a : Action) (d : Connection) : Prop where
  afterRetry : ∃ draw, a = .waitEnds draw ∧ c.pc = .attempt .retry .waiting
  value : d.connectionBackoffMs = c.connectionBackoffMs * connectionBackoffMultiplier
  within : d.connectionBackoffMs ≤ connectionBackoffLimitMs

/-- The mixed arithmetic of connect() computes with the backoff as over the integers. -/
structure Unwrapped (c : Connection) (draw : Int) : Prop where
  head : (uint32 (c.connectionBackoffMs * connectionBackoffMultiplier) : Int) =
    c.connectionBackoffMs * connectionBackoffMultiplier
  factor : (uint32 (draw.tdiv 1000 + connectionBackoffMultiplier) : Int) =
    draw.tdiv 1000 + connectionBackoffMultiplier
  product : ((c.doubleBackoff draw).connectionBackoffMs : Int) =
    c.connectionBackoffMs * (draw.tdiv 1000 + connectionBackoffMultiplier)
  sum : (uint32 (c.connectionBackoffMs + draw) : Int) = c.connectionBackoffMs + draw
  sleep : c.retrySleepMs draw = c.connectionBackoffMs + draw

theorem level_bounds {backoff : Nat} (level : backoff ∈ backoffLevels) :
    2000 ≤ backoff ∧ backoff ≤ 32000 := by
  simp only [backoffLevels, List.mem_cons, List.not_mem_nil, or_false] at level
  omega

theorem level_doubled {backoff : Nat} (level : backoff ∈ backoffLevels)
    (below : backoff * connectionBackoffMultiplier < connectionBackoffLimitMs) :
    backoff * connectionBackoffMultiplier ∈ backoffLevels := by
  simp only [backoffLevels, List.mem_cons, List.not_mem_nil, or_false, connectionBackoffMultiplier,
    connectionBackoffLimitMs] at level below ⊢
  omega

theorem uint32_exact {n : Int} (nonnegative : 0 ≤ n) (below : n < 4294967296) :
    (uint32 n : Int) = n := by
  simp only [uint32]
  omega

/-- The random part of the multiplier is lost in the integer division. -/
theorem draw_tdiv {draw : Int} (isDraw : IsDraw draw) : draw.tdiv 1000 = 0 := by
  obtain ⟨lower, upper⟩ := isDraw
  rcases Int.le_total 0 draw with nonnegative | negative
  · exact Int.tdiv_eq_zero_of_lt nonnegative (by omega)
  · have small : (-draw).tdiv 1000 = 0 := Int.tdiv_eq_zero_of_lt (by omega) (by omega)
    rw [← Int.neg_neg draw, Int.neg_tdiv, small, Int.neg_zero]

theorem unwrapped {c : Connection} {draw : Int} (level : c.connectionBackoffMs ∈ backoffLevels)
    (isDraw : IsDraw draw) : Unwrapped c draw := by
  obtain ⟨least, most⟩ := level_bounds level
  have zero := draw_tdiv isDraw
  have factor : (uint32 (draw.tdiv 1000 + connectionBackoffMultiplier) : Int) =
      draw.tdiv 1000 + connectionBackoffMultiplier := by
    simp only [zero, connectionBackoffMultiplier]
    exact uint32_exact (by omega) (by omega)
  obtain ⟨lower, upper⟩ := isDraw
  have sum : (uint32 (c.connectionBackoffMs + draw) : Int) = c.connectionBackoffMs + draw :=
    uint32_exact (by omega) (by omega)
  refine ⟨?_, factor, ?_, sum, ?_⟩
  · simp only [connectionBackoffMultiplier]
    exact uint32_exact (by omega) (by omega)
  · simp only [Connection.doubleBackoff]
    rw [factor, zero]
    simp only [connectionBackoffMultiplier]
    exact uint32_exact (by omega) (by omega)
  · unfold Connection.retrySleepMs
    rw [sum]
    exact Int.bmod_eq_of_le (by omega) (by omega)

theorem doubleBackoff_level {c : Connection} {draw : Int}
    (level : c.connectionBackoffMs ∈ backoffLevels) (isDraw : IsDraw draw) :
    (c.doubleBackoff draw).connectionBackoffMs =
      c.connectionBackoffMs * connectionBackoffMultiplier := by
  have product := (unwrapped level isDraw).product
  rw [draw_tdiv isDraw, Int.zero_add] at product
  exact_mod_cast product

theorem backoff_endPass (c : Connection) :
    c.endPass.connectionBackoffMs = c.connectionBackoffMs ∨
      c.endPass.connectionBackoffMs = PcpConnection.connectionBackoffMs := by
  unfold Connection.endPass
  split
  · exact .inl rfl
  · exact .inr rfl

theorem backoff_pass (c : Connection) :
    c.pass.connectionBackoffMs = c.connectionBackoffMs ∨
      c.pass.connectionBackoffMs = PcpConnection.connectionBackoffMs := by
  unfold Connection.pass
  repeat' split
  all_goals first | exact .inl rfl | exact .inr rfl

theorem backoff_network {c d : Connection} {a : Action} (network : FromNetwork a)
    (next : c.step a = some d) : d.connectionBackoffMs = c.connectionBackoffMs := by
  have moved := step_cases next
  cases a <;> simp only [FromNetwork] at network
  case closeEnter | closeEndpoint | closeWrite | onClose | onFail =>
    obtain ⟨_, rfl⟩ := moved
    rfl
  all_goals
    obtain rfl := moved
    rfl

theorem backoff_cases {c d : Connection} {a : Action} (next : c.step a = some d) :
    d.connectionBackoffMs = c.connectionBackoffMs ∨
      d.connectionBackoffMs = PcpConnection.connectionBackoffMs ∨
      ∃ draw, a = .waitEnds draw ∧ IsDraw draw ∧ c.pc = .attempt .retry .waiting ∧
        c.frame.gotMaxBackoff = false ∧
        d.connectionBackoffMs = (c.doubleBackoff draw).connectionBackoffMs := by
  have moved := step_cases next
  cases a with
  | callConnect n => obtain ⟨_, rfl⟩ := moved; exact .inl rfl
  | pass =>
    obtain ⟨_, rfl⟩ := moved
    exact (backoff_pass c).imp id .inl
  | poll =>
    obtain ⟨_, rfl⟩ := moved
    exact (backoff_endPass c).imp id .inl
  | retrySleep draw => obtain ⟨_, _, rfl⟩ := moved; exact .inl rfl
  | beginAttempt => obtain ⟨site, _, rfl⟩ := moved; exact .inl rfl
  | getConnection reply =>
    obtain ⟨site, _, rfl⟩ := moved
    cases reply <;> exact .inl rfl
  | endpointConnect accepted =>
    obtain ⟨site, _, rfl⟩ := moved
    cases accepted <;> exact .inl rfl
  | waitEnds draw =>
    obtain ⟨site, waiting, isDraw, rfl⟩ := moved
    cases site with
    | first => exact .inl rfl
    | again => exact (backoff_endPass c).imp id .inl
    | retry =>
      simp only [Connection.waitEnds]
      split
      · -- a pass that doubles the backoff is not the last one, so the reset does not follow
        rename_i doubles
        simp only [Bool.and_eq_true, Bool.not_eq_true'] at doubles
        rw [endPass_again (c := c.doubleBackoff draw) doubles.1]
        exact .inr (.inr ⟨draw, rfl, isDraw, waiting, doubles.2, rfl⟩)
      · exact (backoff_endPass c).imp id .inl
  | recheck =>
    obtain ⟨_, rfl⟩ := moved
    unfold Connection.recheck
    split
    · exact .inl rfl
    · exact (backoff_endPass c).imp id .inl
  | _ => exact .inl (backoff_network (by exact trivial) next)

theorem retrying_endPass (c : Connection) : retrying c.endPass.pc = false := by
  rcases endPass_pc c with pc | pc <;> simp [pc, retrying]

theorem retrying_stage {c : Connection} {site : AttemptSite} {one other : AttemptStage}
    (stage : c.pc = .attempt site one) (retries : retrying (.attempt site other) = true) :
    retrying c.pc = true := by
  rw [stage]
  cases site <;> first | rfl | cases retries

theorem retrying_before {c d : Connection} {a : Action} (next : c.step a = some d)
    (retries : retrying d.pc = true) :
    d.connectionBackoffMs = c.connectionBackoffMs ∧
      (retrying c.pc = true ∧ d.frame = c.frame ∨ d.frame = c.nextFrame) := by
  have moved := step_cases next
  cases a with
  | callConnect n => obtain ⟨_, rfl⟩ := moved; cases retries
  | pass =>
    obtain ⟨_, rfl⟩ := moved
    cases state : c.connectionState with
    | initialized | «open» =>
      simp only [Connection.pass, state] at retries
      split at retries <;> cases retries
    | connecting | closing => simp [Connection.pass, state, retrying] at retries
    | closed =>
      simp only [Connection.pass, state] at retries ⊢
      split at retries
      · cases retries
      · rename_i previous
        simp [previous, Connection.switchWsUri]
  | poll => obtain ⟨_, rfl⟩ := moved; simp [retrying_endPass] at retries
  | retrySleep draw =>
    obtain ⟨backoff, _, rfl⟩ := moved
    exact ⟨rfl, .inl ⟨by simp [backoff, retrying], rfl⟩⟩
  | beginAttempt =>
    obtain ⟨site, stage, rfl⟩ := moved
    exact ⟨rfl, .inl ⟨retrying_stage stage retries, rfl⟩⟩
  | getConnection reply =>
    obtain ⟨site, stage, rfl⟩ := moved
    cases reply with
    | connection hdl => exact ⟨rfl, .inl ⟨retrying_stage stage retries, rfl⟩⟩
    | errorCode | tlsInitError | otherException => cases retries
  | endpointConnect accepted =>
    obtain ⟨site, stage, rfl⟩ := moved
    cases accepted with
    | true => exact ⟨rfl, .inl ⟨retrying_stage stage retries, rfl⟩⟩
    | false => cases retries
  | waitEnds draw =>
    obtain ⟨site, _, _, rfl⟩ := moved
    by_cases first : site = .first
    · subst first
      cases retries
    · obtain ⟨e, finished, _⟩ := waitEnds_endPass c draw first
      simp [finished, retrying_endPass] at retries
  | recheck =>
    obtain ⟨_, rfl⟩ := moved
    unfold Connection.recheck at retries
    split at retries
    · cases retries
    · simp [retrying_endPass] at retries
  | _ =>
    obtain ⟨pc, frame, _⟩ := network_keeps (by exact trivial) next
    exact ⟨backoff_network (by exact trivial) next, .inl ⟨pc ▸ retries, frame⟩⟩

theorem capped_step {c d : Connection} {a : Action} (capped : Capped c)
    (next : c.step a = some d) : Capped d := by
  refine ⟨?_, ?_⟩
  · rcases backoff_cases next with same | reset | ⟨draw, _, isDraw, waiting, uncapped, doubled⟩
    · rw [same]
      exact capped.level
    · rw [reset]
      decide
    · rw [doubled, doubleBackoff_level capped.level isDraw]
      exact level_doubled capped.level (capped.below (by simp [waiting, retrying]) uncapped)
  · intro retries uncapped
    obtain ⟨backoff, ⟨before, frame⟩ | entered⟩ := retrying_before next retries
    · rw [backoff]
      exact capped.below before (frame ▸ uncapped)
    · -- the flag is set in the pass that begins the retry, from the value the retry keeps
      have zero : IsDraw 0 := by decide
      have head := (unwrapped capped.level zero).head
      rw [entered] at uncapped
      simp only [Connection.nextFrame, Bool.or_eq_false_iff, decide_eq_false_iff_not,
        not_le] at uncapped
      rw [backoff]
      omega

theorem capped_reachable {brokerWsUris : List String} {pongTimeoutsBeforeRetry : Nat}
    {trace : List Action} {c : Connection}
    (path : run Connection.step (Connection.create brokerWsUris pongTimeoutsBeforeRetry) trace =
      some c) : Capped c :=
  run_keeps Capped (fun _ _ _ held next => capped_step held next)
    ⟨List.mem_cons_self, fun retries _ => by cases retries⟩ path

/-- In every run of connect() calls the backoff is one of five values, changes only by
    doubling after a retry or by going back to the first, and the sleep before a retry lies
    between 1500 and 32500 ms; none of the computations wraps. -/
theorem backoff_bounded (brokerWsUris : List String) (pongTimeoutsBeforeRetry : Nat)
    (trace : List Action) (c : Connection)
    (path : run Connection.step (Connection.create brokerWsUris pongTimeoutsBeforeRetry) trace =
      some c) :
    c.connectionBackoffMs ∈ backoffLevels ∧
      (∀ a d, c.step a = some d →
        d.connectionBackoffMs = c.connectionBackoffMs ∨ Doubled c a d ∨
          d.connectionBackoffMs = PcpConnection.connectionBackoffMs) ∧
      (∀ draw d, c.step (.retrySleep draw) = some d →
        1500 ≤ c.retrySleepMs draw ∧ c.retrySleepMs draw ≤ 32500) ∧
      ∀ draw, IsDraw draw → Unwrapped c draw := by
  have capped := capped_reachable path
  refine ⟨capped.level, fun a d next => ?_, fun draw d next => ?_,
    fun draw isDraw => unwrapped capped.level isDraw⟩
  · rcases backoff_cases next with same | reset | ⟨draw, act, isDraw, waiting, uncapped, doubled⟩
    · exact .inl same
    · exact .inr (.inr reset)
    · have below := capped.below (by simp [waiting, retrying]) uncapped
      have value := doubled.trans (doubleBackoff_level capped.level isDraw)
      exact .inr (.inl ⟨⟨draw, act, waiting⟩, value, by rw [value]; exact below.le⟩)
  · obtain ⟨_, isDraw, _⟩ := step_cases next
    obtain ⟨least, most⟩ := level_bounds capped.level
    rw [(unwrapped capped.level isDraw).sleep]
    obtain ⟨lower, upper⟩ := isDraw
    omega

def refusedRetry : List Action :=
  [.callConnect 3, .pass, .beginAttempt, .getConnection (.connection 0), .endpointConnect true,
    .onFail 0, .waitEnds 0, .recheck, .pass, .retrySleep (-500), .beginAttempt,
    .getConnection (.connection 1), .endpointConnect true, .onFail 1, .waitEnds 250]

theorem refused_retry_doubles :
    ∃ c, run Connection.step (Connection.create ["wss://localhost:8142/pcp/"] 3) refusedRetry =
        some c ∧ c.connectionBackoffMs = 4000 ∧ c.connectionBackoffMs ∈ backoffLevels :=
  ⟨_, rfl, rfl, (backoff_bounded ["wss://localhost:8142/pcp/"] 3 refusedRetry _ rfl).1⟩

end PcpBackoff
