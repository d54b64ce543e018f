import PcpClient.MonitoringStop
import PcpClient.MonitoringOutcome

/-!
How long a stop of the monitoring waits for a task that is inside connect(): that depends on
the max_connect_attempts of the task, since connect() never reads must_stop_monitoring_.
-/
namespace PcpStopBounds
open PcpTransitions PcpMonitor PcpErrorPolicy PcpMonitoringStop PcpMonitored PcpMonitoringOutcome
open PcpConnectTermination PcpAttemptBounds PcpBaseConnector PcpEndpoint

theorem toInt_nonzero {b : UInt32} (nonzero : b ≠ 0) : toInt b ≠ 0 := by
  intro zero
  have bound := b.toNat_lt
  have divides : ((2 ^ 32 : Nat) : Int) ∣ b.toNat := Int.dvd_of_bmod_eq_zero zero
  have none := Nat.eq_zero_of_dvd_of_lt (Int.natCast_dvd_natCast.mp divides) bound
  exact nonzero (UInt32.toNat_inj.mp none)

/-! The steps that are left to ConnectorBase::connect(). -/

def baseOwn : PcpBaseConnector.Action → Bool
  | .callConnect _ => false
  | .construct _ | .enterConnect | .connectEnds => true
  | .network a => ownStep a

/-- The most steps that connect(n) takes. -/
def connectSteps (n : Int) : Nat := 3 + 6 * (allowed n).toNat

def baseLeft (n : Int) (s : BaseConnector) : Nat :=
  match s.client with
  | .idle => 0
  | .construct => connectSteps n
  | .entering => 2 + 6 * (allowed n).toNat
  | .connecting => 1 + ownLeft n s.network.1

theorem baseLeft_bound {s : BaseConnector} {n : Int} (bounded : Bounded s) :
    baseLeft n s ≤ connectSteps n := by
  have inside := ownLeft_bound (n := n) bounded.persevering
  unfold baseLeft connectSteps
  split <;> omega

theorem baseLeft_called (s : BaseConnector) (n : Int) :
    baseLeft n (s.callConnect n) ≤ connectSteps n := by
  unfold baseLeft connectSteps BaseConnector.callConnect
  cases s.created <;> simp

theorem permits_own {s : BaseConnector} {a : PcpConnection.Action} (permitted : s.permits a = true)
    (own : ownStep a = true) : s.client = .connecting := by
  cases a <;> simp_all [BaseConnector.permits, ownStep]

theorem base_paid {s t : BaseConnector} {e : PcpBaseConnector.Action} {n : Int} (nonzero : n ≠ 0)
    (bounded : Bounded s) (bound : s.maxConnectAttempts = n) (single : isBaseCall e = false)
    (next : s.step e = some t) : baseLeft n t + (baseOwn e).toNat ≤ baseLeft n s := by
  have moved := base_cases next
  cases e with
  | callConnect m => cases single
  | construct ok =>
    obtain ⟨place, rfl⟩ := moved
    cases ok with
    | true =>
      simp only [BaseConnector.construct, baseLeft, place, baseOwn, connectSteps, if_true,
        Bool.toNat_true]
      omega
    | false =>
      simp only [BaseConnector.construct, BaseConnector.finish, baseLeft, place, baseOwn,
        connectSteps, Bool.false_eq_true, if_false, Bool.toNat_true]
      omega
  | enterConnect =>
    obtain ⟨place, m, inner, rfl⟩ := moved
    obtain ⟨_, entered⟩ := PcpConnection.step_cases (system_step_iff.mp inner).1
    simp only [baseLeft, place, baseOwn, entered, bound, ownLeft_start, Bool.toNat_true]
    omega
  | connectEnds =>
    obtain ⟨place, _, r, _, rfl⟩ := moved
    simp [BaseConnector.finish, baseLeft, place, baseOwn]
  | network a =>
    obtain ⟨permitted, m, inner, rfl⟩ := moved
    by_cases inside : s.client = .connecting
    · have paid := ownLeft_step bounded.persevering ((bounded.inside inside).trans bound) nonzero
        (permits_single permitted) (system_step_iff.mp inner).1
      simp only [baseLeft, inside, baseOwn]
      omega
    · have other : ownStep a = false := by
        by_contra own
        exact inside (permits_own permitted (by simpa using own))
      simp only [baseOwn, other]
      cases place : s.client with
      | connecting => exact absurd place inside
      | idle | construct | entering => simp [baseLeft, place]

/-! The steps that are left to a Monitoring Task and its round of the loop. -/

def Check.task : Check → Nat
  | .pinging k | .sleeping k | .connecting k => k

def ownCheck (k : Nat) (s : Monitored BaseConnector) : Option Check :=
  s.check.filter fun check => Check.task check = k

def moveOf (k : Nat) (s : Monitored BaseConnector) : Move PcpBaseConnector.Action → Bool
  | .go j | .spawn j _ | .readConnected j => j = k
  | .ping _ | .enterConnect | .connectEnds _ => (ownCheck k s).isSome
  | .connector e => s.check = some (.connecting k) ∧ baseOwn e = true
  | .call _ _ => false

def roundLeft (n : Int) (k : Nat) (s : Monitored BaseConnector) : Nat :=
  match ownCheck k s with
  | some (.pinging _) => 0
  | some (.sleeping _) => 1 + connectSteps n
  | some (.connecting _) => baseLeft n s.connector
  | none => (2 + connectSteps n) * leftTo checksLeft 0 k s.task.monitor

def movesLeft (n : Int) (k : Nat) (s : Monitored BaseConnector) : Nat :=
  leftTo toEnd 9 k s.task.monitor + roundLeft n k s

/-- The state of a connector once a stop has been requested; activation k has the bound b. -/
structure Stopping (b : UInt32) (k : Nat) (s : Monitored BaseConnector) : Prop where
  stop : s.task.monitor.mustStop = true
  bound : s.bounds[k]? = some b
  bounded : Bounded s.connector
  called : s.check = some (.connecting k) → s.connector.maxConnectAttempts = toInt b

theorem event_paid {s t : Task} {ev : PcpErrorPolicy.Event} (stop : s.monitor.mustStop = true)
    (next : s.step ev = some t) (k : Nat) :
    t.monitor.mustStop = true ∧
      leftTo toEnd 9 k t.monitor + (stepOf k ev.action).toNat ≤ leftTo toEnd 9 k s.monitor ∧
      leftTo checksLeft 0 k t.monitor + (checkOf k ev.action).toNat ≤
        leftTo checksLeft 0 k s.monitor := by
  have moved := step_monitor next
  exact ⟨mustStop_kept stop moved, steps_paid stop moved k, checks_paid stop moved k⟩

theorem checkEnds_event {t u : Task} {k : Nat} {result : CheckResult} {thrown : Option Exception}
    (ends : checkEnds t k result thrown = some u) :
    ∃ ev result, t.step ev = some u ∧ ev.action = .act k (.check result) := by
  cases thrown with
  | none => exact ⟨.other (.act k (.check result)), result, ends, rfl⟩
  | some e => exact ⟨.raise k e, _, ends, rfl⟩

theorem ownCheck_same {s t : Monitored BaseConnector} (check : t.check = s.check) (k : Nat) :
    ownCheck k t = ownCheck k s := by
  rw [ownCheck, check, ownCheck]

theorem ownCheck_some {s : Monitored BaseConnector} {check : Check} (here : s.check = some check)
    (k : Nat) : ownCheck k s = if Check.task check = k then some check else none := by
  rw [ownCheck, here]
  simp [Option.filter]

theorem roundLeft_connecting {s : Monitored BaseConnector} (n : Int) {k j : Nat}
    (own : ownCheck k s = some (.connecting j)) : roundLeft n k s = baseLeft n s.connector := by
  rw [roundLeft, own]

theorem round_kept {s t : Monitored BaseConnector} {n : Int} {k : Nat} (check : t.check = s.check)
    (connector : s.check = some (.connecting k) →
      baseLeft n t.connector ≤ baseLeft n s.connector)
    (less : leftTo checksLeft 0 k t.task.monitor ≤ leftTo checksLeft 0 k s.task.monitor) :
    roundLeft n k t ≤ roundLeft n k s := by
  unfold roundLeft
  rw [ownCheck_same check]
  split
  · exact Nat.le_refl _
  · exact Nat.le_refl _
  · rename_i j own
    obtain ⟨here, same⟩ := Option.filter_eq_some_iff.mp own
    obtain rfl : j = k := of_decide_eq_true same
    exact connector here
  · exact Nat.mul_le_mul_left _ less

theorem round_other {s t : Monitored BaseConnector} {n : Int} {k : Nat}
    (before : ownCheck k s = none) (after : ownCheck k t = none)
    (less : leftTo checksLeft 0 k t.task.monitor ≤ leftTo checksLeft 0 k s.task.monitor) :
    roundLeft n k t ≤ roundLeft n k s := by
  rw [roundLeft, roundLeft, before, after]
  exact Nat.mul_le_mul_left _ less

theorem checking_left {m : Monitor} {k : Nat} (checking : isChecking m.activations[k]? = true) :
    leftTo checksLeft 0 k m = 1 := by
  unfold isChecking at checking
  split at checking
  · rename_i here
    rw [leftTo, here]
    rfl
  · cases checking

theorem seen_paid {t u : Task} {created : Bool} (stop : t.monitor.mustStop = true)
    (sees : seen t created = some u) (k : Nat) :
    u.monitor.mustStop = true ∧ leftTo toEnd 9 k u.monitor ≤ leftTo toEnd 9 k t.monitor ∧
      leftTo checksLeft 0 k u.monitor ≤ leftTo checksLeft 0 k t.monitor := by
  unfold seen at sees
  split at sees
  · obtain ⟨still, steps, checks⟩ := event_paid stop sees k
    exact ⟨still, by omega, by omega⟩
  · obtain rfl := Option.some.inj sees
    exact ⟨stop, Nat.le_refl _, Nat.le_refl _⟩

section advances
variable {b : UInt32} {k : Nat} {s : Monitored BaseConnector}

/-- A step that costs so much keeps the watch on the stop, and what is left pays for it. -/
def Advances (b : UInt32) (k : Nat) (s t : Monitored BaseConnector) (cost : Bool) : Prop :=
  Stopping b k t ∧ movesLeft (toInt b) k t + cost.toNat ≤ movesLeft (toInt b) k s

theorem event_advances {u : Task} {ev : PcpErrorPolicy.Event} (stopping : Stopping b k s)
    (next : s.task.step ev = some u) (more : List UInt32) :
    Advances b k s { s with task := u, bounds := s.bounds ++ more } (stepOf k ev.action) := by
  obtain ⟨still, steps, checks⟩ := event_paid stopping.stop next k
  have round := round_kept (n := toInt b) (s := s)
    (t := { s with task := u, bounds := s.bounds ++ more }) rfl (fun _ => Nat.le_refl _)
    (Nat.le_trans (Nat.le_add_right _ _) checks)
  refine ⟨⟨still, bound_stays _ stopping.bound, stopping.bounded, stopping.called⟩, ?_⟩
  simp only [movesLeft]
  omega

theorem check_advances {u : Task} {j : Nat} {result : CheckResult} {thrown : Option Exception}
    {check : Check} (stopping : Stopping b k s) (here : s.check = some check)
    (task : Check.task check = j) (ends : checkEnds s.task j result thrown = some u) :
    Advances b k s { s with task := u, check := none } (ownCheck k s).isSome := by
  obtain ⟨ev, outcome, next, action⟩ := checkEnds_event ends
  obtain ⟨still, steps, checks⟩ := event_paid stopping.stop next k
  refine ⟨⟨still, stopping.bound, stopping.bounded, fun connecting => by cases connecting⟩, ?_⟩
  have none : ownCheck k { s with task := u, check := none } = none := rfl
  have own := ownCheck_some here k
  rw [task] at own
  simp only [action, stepOf, checkOf] at steps checks
  unfold movesLeft
  by_cases same : j = k
  · rw [if_pos same] at own
    have one := (leftTo_checks k s.task.monitor).1
    simp only [same, decide_true, Bool.toNat_true] at steps checks
    -- the check that has ended was the last one
    have last : leftTo checksLeft 0 k u.monitor = 0 := by omega
    rw [roundLeft, none, own]
    simp only [last, Option.isSome_some, Bool.toNat_true]
    omega
  · rw [if_neg same] at own
    simp only [same, decide_false, Bool.toNat_false, Nat.add_zero] at steps checks
    have round := round_other (n := toInt b) own none checks
    rw [own]
    simp only [Option.isSome_none, Bool.toNat_false]
    omega

theorem connector_advances {e : PcpBaseConnector.Action} {c : BaseConnector} {u : Task}
    (nonzero : b ≠ 0) (stopping : Stopping b k s)
    (alone : s.check = some (.connecting k) → isBaseCall e = false)
    (inner : s.connector.step e = some c) (sees : seen s.task c.created = some u) :
    Advances b k s { s with task := u, connector := c } (moveOf k s (.connector e)) := by
  obtain ⟨still, steps, checks⟩ := seen_paid stopping.stop sees k
  refine ⟨⟨still, stopping.bound, bounded_step stopping.bounded inner, fun check => ?_⟩, ?_⟩
  · exact (baseReconnecting.bound_kept (alone check) inner).trans (stopping.called check)
  by_cases check : s.check = some (.connecting k)
  · have paid := base_paid (toInt_nonzero nonzero) stopping.bounded (stopping.called check)
      (alone check) inner
    have own : ownCheck k s = some (.connecting k) := (ownCheck_some check k).trans (if_pos rfl)
    have before := roundLeft_connecting (toInt b) own
    have after : roundLeft (toInt b) k { s with task := u, connector := c } =
        baseLeft (toInt b) c := roundLeft_connecting _ own
    have cost : moveOf k s (.connector e) = baseOwn e := by simp [moveOf, check]
    simp only [movesLeft, before, after, cost]
    omega
  · have round := round_kept (n := toInt b) (s := s) (t := { s with task := u, connector := c }) rfl
      (fun here => absurd here check) checks
    have cost : moveOf k s (.connector e) = false := by simp [moveOf, check]
    simp only [movesLeft, cost, Bool.toNat_false]
    omega

theorem read_advances {j : Nat} {check : Check} (stopping : Stopping b k s) (free : s.check = none)
    (checking : isChecking s.task.monitor.activations[j]? = true)
    (round : check = .pinging j ∨ check = .sleeping j) :
    Advances b k s { s with check := some check } (j = k) := by
  refine ⟨⟨stopping.stop, stopping.bound, stopping.bounded, fun connecting => ?_⟩, ?_⟩
  · obtain rfl := Option.some.inj connecting
    simp at round
  have before : ownCheck k s = none := by rw [ownCheck, free]; rfl
  have after := ownCheck_some (s := { s with check := some check }) rfl k
  unfold movesLeft
  by_cases same : j = k
  · subst same
    have one := checking_left checking
    have begun : roundLeft (toInt b) j s = 2 + connectSteps (toInt b) := by
      rw [roundLeft, before]
      simp only [one, Nat.mul_one]
    have rest : roundLeft (toInt b) j { s with check := some check } ≤
        1 + connectSteps (toInt b) := by
      rcases round with rfl | rfl <;> simp [roundLeft, after, Check.task]
    simp only [decide_true, Bool.toNat_true]
    omega
  · have other : Check.task check ≠ k := by rcases round with rfl | rfl <;> exact same
    rw [if_neg other] at after
    have kept := round_other (n := toInt b) before after (Nat.le_refl _)
    simp only [same, decide_false, Bool.toNat_false]
    omega

theorem enter_advances {j : Nat} {m : UInt32} {c : BaseConnector} (stopping : Stopping b k s)
    (check : s.check = some (.sleeping j)) (bound : s.bounds[j]? = some m)
    (inner : s.connector.step (.callConnect (toInt m)) = some c) :
    Advances b k s { s with connector := c, check := some (.connecting j) }
      (ownCheck k s).isSome := by
  refine ⟨⟨stopping.stop, stopping.bound, bounded_step stopping.bounded inner, fun here => ?_⟩, ?_⟩
  · obtain rfl := Check.connecting.inj (Option.some.inj here)
    obtain rfl := Option.some.inj (bound.symm.trans stopping.bound)
    exact baseReconnecting.bound_call inner
  have before := ownCheck_some check k
  have after := ownCheck_some (s := { s with connector := c, check := some (.connecting j) }) rfl k
  unfold movesLeft
  by_cases same : j = k
  · subst same
    obtain rfl := Option.some.inj (bound.symm.trans stopping.bound)
    obtain ⟨_, rfl⟩ := base_cases inner
    have most := baseLeft_called s.connector (toInt m)
    have own := before.trans (if_pos rfl)
    have sleeping : roundLeft (toInt m) j s = 1 + connectSteps (toInt m) := by rw [roundLeft, own]
    have entered := roundLeft_connecting (toInt m) (after.trans (if_pos rfl))
    rw [sleeping, entered, own]
    simp only [Option.isSome_some, Bool.toNat_true]
    omega
  · have own := before.trans (if_neg same)
    have kept := round_other (n := toInt b) own (after.trans (if_neg same)) (Nat.le_refl _)
    rw [own]
    simp only [Option.isSome_none, Bool.toNat_false]
    omega

theorem stopping_step {t : Monitored BaseConnector} {a : Move PcpBaseConnector.Action}
    (nonzero : b ≠ 0) (stopping : Stopping b k s) (next : s.step baseReconnecting a = some t) :
    Advances b k s t (moveOf k s a) := by
  have moved := monitored_cases next
  cases a with
  | connector e =>
    obtain ⟨alone, c, u, inner, sees, rfl⟩ := moved
    exact connector_advances nonzero stopping
      (fun check => alone (by simp [show s.check = _ from check, Check.isConnecting])) inner sees
  | call c more =>
    obtain ⟨u, moves, rfl⟩ := moved
    exact event_advances stopping moves [more]
  | go j =>
    obtain ⟨u, moves, rfl⟩ := moved
    have advances := event_advances stopping moves []
    rw [List.append_nil] at advances
    exact advances
  | spawn j started =>
    obtain ⟨u, more, moves, _, rfl⟩ := moved
    exact event_advances stopping moves more
  | readConnected j =>
    obtain ⟨⟨free, checking⟩, check, round, rfl⟩ := moved
    exact read_advances stopping free checking round
  | ping thrown =>
    obtain ⟨j, u, check, _, ends, rfl⟩ := moved
    exact check_advances stopping check rfl ends
  | enterConnect =>
    obtain ⟨j, m, c, check, bound, inner, rfl⟩ := moved
    exact enter_advances stopping check bound inner
  | connectEnds thrown =>
    obtain ⟨j, o, u, check, _, _, ends, rfl⟩ := moved
    exact check_advances stopping check rfl ends

end advances

theorem movesLeft_bound {b : UInt32} {k : Nat} {s : Monitored BaseConnector}
    (stopping : Stopping b k s) : movesLeft (toInt b) k s ≤ 11 + connectSteps (toInt b) := by
  have steps : leftTo toEnd 9 k s.task.monitor ≤ 9 := by
    unfold leftTo
    cases s.task.monitor.activations[k]? with
    | none => exact Nat.le_refl _
    | some p => exact toEnd_bound p
  have round : roundLeft (toInt b) k s ≤ 2 + connectSteps (toInt b) := by
    have inside := baseLeft_bound (n := toInt b) stopping.bounded
    have one := Nat.mul_le_mul_left (2 + connectSteps (toInt b)) (leftTo_checks k s.task.monitor).1
    unfold roundLeft
    split <;> omega
  unfold movesLeft
  omega

theorem stop_bounded {brokerWsUris : List String} {clientType : String}
    {pongTimeoutsBeforeRetry : Nat} {pongTimeoutMs : Int} {b : UInt32} (nonzero : b ≠ 0)
    {earlier later : List (Move PcpBaseConnector.Action)} {s t : Monitored BaseConnector} {k : Nat}
    (reached : run (Monitored.step baseReconnecting)
      (.create pongTimeoutMs (.create brokerWsUris clientType pongTimeoutsBeforeRetry)) earlier =
        some s)
    (requested : s.task.monitor.mustStop = true) (bound : s.bounds[k]? = some b)
    (path : run (Monitored.step baseReconnecting) s later = some t) :
    spent (Monitored.step baseReconnecting) (fun s a => (moveOf k s a).toNat) s later ≤
      11 + connectSteps (toInt b) := by
  have watched := watched_run baseReconnecting pongTimeoutMs _ reached
  obtain ⟨trace, inner⟩ := watched.reached
  have stopping : Stopping b k s := by
    refine ⟨requested, bound, bounded_reachable inner, fun connecting => ?_⟩
    obtain ⟨m, here, called⟩ := watched.called k connecting
    obtain rfl := Option.some.inj (bound.symm.trans here)
    exact called
  have paid : movesLeft (toInt b) k t + spent (Monitored.step baseReconnecting)
      (fun s a => (moveOf k s a).toNat) s later ≤ movesLeft (toInt b) k s :=
    run_paid_under (fun _ _ => True) (Stopping b k) (movesLeft (toInt b) k)
      (fun s a => (moveOf k s a).toNat)
      (fun _ _ _ held _ next => (stopping_step nonzero held next).1)
      (fun _ _ _ held _ next => (stopping_step nonzero held next).2) later s t stopping
      (throughout_trivial later s) path
  have most := movesLeft_bound stopping
  omega

end PcpStopBounds
