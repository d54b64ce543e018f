import PcpClient.StopBounds

/-!
A stop of the monitoring while its task is inside connect(0): the broker may refuse one attempt
after the other, so the call that has requested the stop may wait for the thread for ever.
-/
namespace PcpStopInConnect
open PcpTransitions PcpMonitor PcpErrorPolicy PcpMonitored PcpMonitoringOutcome PcpStopBounds
open PcpConnectTermination PcpAttemptBounds PcpBaseConnector PcpEndpoint
open PcpConnection (Connection ConnectionState IsDraw)

/-- The task of activation k is inside a connect(0) whose attempts are refused. -/
structure Blocked (k : Nat) (s : Monitored BaseConnector) : Prop where
  check : s.check = some (.connecting k)
  inside : s.connector.client = .connecting
  created : s.connector.created = true
  seen : s.task.monitor.created = true
  refusing : Refusing s.connector.network

theorem network_run {k : Nat} (actions : List PcpConnection.Action) :
    ∀ {s : Monitored BaseConnector} {q : System}, s.check = some (.connecting k) →
      s.connector.client = .connecting → s.connector.created = true →
      s.task.monitor.created = true → (∀ a ∈ actions, s.connector.permits a = true) →
      run System.step s.connector.network actions = some q →
      run (Monitored.step baseReconnecting) s (baseNetwork actions) =
          some { s with connector := { s.connector with network := q } } ∧
        spent (Monitored.step baseReconnecting) (fun s a => (moveOf k s a).toNat) s
          (baseNetwork actions) = actions.countP ownStep := by
  induction actions with
  | nil =>
    intro s q _ _ _ _ _ path
    obtain rfl := Option.some.inj path
    exact ⟨rfl, rfl⟩
  | cons a rest ih =>
    intro s q check inside created known permits path
    obtain ⟨p, next, tail⟩ := run_cons_iff.mp path
    have permitted := permits a List.mem_cons_self
    have moves : s.step baseReconnecting (.connector (.network a)) =
        some { s with connector := { s.connector with network := p } } := by
      simp [Monitored.step, baseReconnecting, isBaseCall, BaseConnector.step, permitted, next,
        seen, created, known]
    obtain ⟨later, cost⟩ := ih (s := { s with connector := { s.connector with network := p } })
      check inside created known (fun b mem => permits b (List.mem_cons_of_mem _ mem)) tail
    refine ⟨run_cons_iff.mpr ⟨_, moves, later⟩, ?_⟩
    rw [baseNetwork, List.map_cons, spent_cons moves, ← baseNetwork, cost, List.countP_cons]
    simp only [moveOf, check, baseOwn, true_and]
    cases ownStep a <;> simp [Nat.add_comm]

theorem blocked_round {k : Nat} {s : Monitored BaseConnector} (blocked : Blocked k s) :
    ∃ moves t, run (Monitored.step baseReconnecting) s moves = some t ∧ Blocked k t ∧
      (∀ a ∈ moves, True) ∧
      0 < spent (Monitored.step baseReconnecting) (fun s a => (moveOf k s a).toNat) s moves := by
  obtain ⟨hdl, q, path, again⟩ := refused_round blocked.refusing
  obtain ⟨moves, cost⟩ := network_run (refusedRound hdl) blocked.check blocked.inside
    blocked.created blocked.seen (by simp [refusedRound, BaseConnector.permits, blocked.inside])
    path
  refine ⟨_, _, moves, ⟨blocked.check, blocked.inside, blocked.created, blocked.seen, again⟩,
    fun _ _ => trivial, ?_⟩
  rw [cost]
  simp [refusedRound, ownStep]

def refusedOnce : List (Move PcpBaseConnector.Action) :=
  [.connector (.callConnect 1), .connector (.construct true), .connector .enterConnect] ++
    baseNetwork (.pass :: refusedAttempt 0 ++ [.waitEnds 0, .recheck]) ++ [.connector .connectEnds]

def watching (pongTimeoutMs : Int) (c : BaseConnector) : Monitored BaseConnector :=
  ⟨⟨{ Monitor.create pongTimeoutMs with created := true }, none, none⟩, [], c, none⟩

structure Failed (c : BaseConnector) : Prop where
  client : c.client = .idle
  created : c.created = true
  idle : c.network.1.pc = .idle
  closed : c.network.1.connectionState = .closed
  unlocked : c.network.1.closeCall = none
  handles : c.network.2.created = [0]

theorem refused_once (brokerWsUris : List String) (clientType : String)
    (pongTimeoutsBeforeRetry : Nat) (pongTimeoutMs : Int) :
    ∃ c, run (Monitored.step baseReconnecting)
        (.create pongTimeoutMs (.create brokerWsUris clientType pongTimeoutsBeforeRetry))
        refusedOnce = some (watching pongTimeoutMs c) ∧ Failed c :=
  ⟨_, rfl, ⟨rfl, rfl, rfl, rfl, rfl, rfl⟩⟩

def acceptedAt (pongTimeoutMs : Int) (c : BaseConnector) : Monitored BaseConnector :=
  ⟨⟨{ Monitor.create pongTimeoutMs with created := true, activations := [.startCheck .joinable] },
      none, none⟩, [0], c, none⟩

def launchedAt (pongTimeoutMs : Int) (c : BaseConnector) (pc : TaskPc) (check : Option Check) :
    Monitored BaseConnector :=
  ⟨⟨{ Monitor.create pongTimeoutMs with
        created := true
        isMonitoring := true
        monitorThread := some 1
        activations := [.ended .startMonitoring .returned, .task .joinable pc] },
      none, none⟩, [0, 0], c, check⟩

def toReturn : List (Move PcpBaseConnector.Action) := [.go 0, .go 0, .spawn 0 true, .go 0]

def toChecking : List (Move PcpBaseConnector.Action) := [.go 1, .go 1, .go 1, .go 1, .go 1]

theorem start_accepted {pongTimeoutMs : Int} {interval : UInt32} (c : BaseConnector)
    (accepted : checkPingTimings (interval * 1000) (UInt32.ofInt pongTimeoutMs) = .ok ()) :
    (watching pongTimeoutMs c).step baseReconnecting (.call (.start .joinable interval) 0) =
      some (acceptedAt pongTimeoutMs c) := by
  have enters : Monitor.enter { Monitor.create pongTimeoutMs with created := true }
      (.start .joinable interval) = .startCheck .joinable := by
    have made : Monitor.checkConnectionInitialization
        { Monitor.create pongTimeoutMs with created := true } = .ok () := rfl
    simp only [Monitor.enter, Monitor.checkStart, made]
    simp [Monitor.create, accepted]
  rw [acceptedAt, ← enters]
  rfl

theorem checking_reached {pongTimeoutMs : Int} {interval : UInt32} (c : BaseConnector)
    (accepted : checkPingTimings (interval * 1000) (UInt32.ofInt pongTimeoutMs) = .ok ()) :
    run (Monitored.step baseReconnecting) (watching pongTimeoutMs c)
      (.call (.start .joinable interval) 0 :: (toReturn ++ toChecking)) =
        some (launchedAt pongTimeoutMs c .checking none) := by
  have returns : run (Monitored.step baseReconnecting) (acceptedAt pongTimeoutMs c) toReturn =
      some (launchedAt pongTimeoutMs c .reset none) := rfl
  have enters : run (Monitored.step baseReconnecting) (launchedAt pongTimeoutMs c .reset none)
      toChecking = some (launchedAt pongTimeoutMs c .checking none) := rfl
  exact run_cons_iff.mpr ⟨_, start_accepted c accepted, run_append_iff.mpr ⟨_, returns, enters⟩⟩

def toConnect : List (Move PcpBaseConnector.Action) :=
  [.readConnected 1, .enterConnect, .connector .enterConnect]

theorem failed_entered {c : BaseConnector} (failed : Failed c) (n : Int) :
    (c.callConnect n).step .enterConnect = some { c.callConnect n with
      network := (c.network.1.callConnect n, c.network.2), client := .connecting } := by
  have entering : (c.callConnect n).client = .entering := if_pos failed.created
  have network : c.network.step (.callConnect n) =
      some (c.network.1.callConnect n, c.network.2) := by
    simp [System.step, sync, Connection.step, Endpoint.step, failed.idle]
  simp only [BaseConnector.step, entering, if_true]
  exact congrArg (Option.map _) network

def firstPass : List PcpConnection.Action := .pass :: refusedAttempt 1 ++ [.waitEnds 0]

theorem first_connection {c : Connection} (closed : c.connectionState = .closed)
    (unlocked : c.closeCall = none) :
    ∃ d, run Connection.step (c.callConnect 0) firstPass = some d ∧ d.pc = .head ∧
      d.frame = { (c.callConnect 0).nextFrame with previousCS := .connecting } ∧
      d.connectionState = .closed ∧ d.closeCall = none := by
  have draw : IsDraw 0 := by decide
  have head : (c.callConnect 0).pc = .head := rfl
  have free : (c.callConnect 0).closeCall = none := unlocked
  have again : (c.callConnect 0).nextFrame.tryAgain = true := rfl
  have pass : (c.callConnect 0).pass = { c.callConnect 0 with
      frame := { (c.callConnect 0).nextFrame with previousCS := .connecting }
      pc := .attempt .again .start } := by
    simp [Connection.pass, Connection.callConnect, closed]
  simp [firstPass, refusedAttempt, run, Connection.step, head, pass, free, again, draw,
    Connection.beginAttempt, Connection.getConnection, Connection.endpointConnect,
    Connection.onFail, Connection.waitEnds, Connection.endPass]

theorem failed_refusing {c : BaseConnector} (failed : Failed c) :
    ∃ q, run System.step (c.network.1.callConnect 0, c.network.2) firstPass = some q ∧
      Refusing q := by
  have fresh : ∃ f, run Endpoint.step c.network.2 firstPass = some f := by
    simp [firstPass, refusedAttempt, run, Endpoint.step, failed.handles]
  obtain ⟨f, endpoint⟩ := fresh
  obtain ⟨d, connection, head, frame, closed, unlocked⟩ :=
    first_connection failed.closed failed.unlocked
  have entered : ConnectionState.connecting ≠ .closed := by decide
  refine ⟨(d, f), (run_sync_iff _).mpr ⟨connection, endpoint⟩, head, ?_, ?_, closed, ?_, unlocked⟩
  · rw [frame]
    rfl
  · rw [frame]
    rfl
  · rw [frame]
    exact entered

theorem connect_reached {c : BaseConnector} (failed : Failed c) (pongTimeoutMs : Int) :
    run (Monitored.step baseReconnecting) (launchedAt pongTimeoutMs c .checking none) toConnect =
      some (launchedAt pongTimeoutMs
        { c.callConnect 0 with
          network := (c.network.1.callConnect 0, c.network.2), client := .connecting }
        .checking (some (.connecting 1))) := by
  have zero : toInt 0 = 0 := by decide
  have down : baseReconnecting.isConnected c = false := by
    simp [baseReconnecting, failed.closed]
  have called : baseReconnecting.step c (.callConnect 0) = some (c.callConnect 0) :=
    if_pos failed.client
  have entered : baseReconnecting.step (c.callConnect 0) .enterConnect = _ :=
    failed_entered failed 0
  have created : (c.callConnect 0).created = true := failed.created
  refine run_cons_iff.mpr ⟨launchedAt pongTimeoutMs c .checking (some (.sleeping 1)), ?_, ?_⟩
  · simp only [Monitored.step, launchedAt, down]
    rfl
  refine run_cons_iff.mpr
    ⟨launchedAt pongTimeoutMs (c.callConnect 0) .checking (some (.connecting 1)), ?_, ?_⟩
  · have bound : [(0 : UInt32), 0][1]? = some 0 := rfl
    simp only [Monitored.step, launchedAt, bound, Option.bind_some, zero]
    exact congrArg (Option.map _) called
  · refine run_cons_iff.mpr ⟨_, ?_, rfl⟩
    simp only [Monitored.step, launchedAt, entered]
    simp [isBaseCall, baseReconnecting, seen, created]

def toRequest : List (Move PcpBaseConnector.Action) :=
  [.call (.stop .stopMonitoring) 0, .go 2, .go 2]

theorem request_reached (pongTimeoutMs : Int) (d : BaseConnector) :
    ∃ s, run (Monitored.step baseReconnecting)
        (launchedAt pongTimeoutMs d .checking (some (.connecting 1))) toRequest = some s ∧
      s.task.monitor.mustStop = true ∧ s.bounds[1]? = some 0 ∧
      s.check = some (.connecting 1) ∧ s.task.monitor.created = true ∧ s.connector = d :=
  ⟨_, rfl, rfl, rfl, rfl, rfl, rfl⟩

theorem blocked_reached (brokerWsUris : List String) (clientType : String)
    (pongTimeoutsBeforeRetry : Nat) {pongTimeoutMs : Int} {interval : UInt32}
    (accepted : checkPingTimings (interval * 1000) (UInt32.ofInt pongTimeoutMs) = .ok ()) :
    ∃ earlier s, run (Monitored.step baseReconnecting)
        (.create pongTimeoutMs (.create brokerWsUris clientType pongTimeoutsBeforeRetry)) earlier =
          some s ∧
      s.task.monitor.mustStop = true ∧ s.bounds[1]? = some 0 ∧ Blocked 1 s := by
  obtain ⟨c, once, failed⟩ := refused_once brokerWsUris clientType pongTimeoutsBeforeRetry
    pongTimeoutMs
  have checking := checking_reached c accepted
  have connect := connect_reached failed pongTimeoutMs
  obtain ⟨q, first, refusing⟩ := failed_refusing failed
  have pass := network_run (k := 1) firstPass
    (s := launchedAt pongTimeoutMs { c.callConnect 0 with
      network := (c.network.1.callConnect 0, c.network.2), client := .connecting }
      .checking (some (.connecting 1))) rfl rfl failed.created rfl
    (by simp [launchedAt, firstPass, refusedAttempt, BaseConnector.permits]) first
  obtain ⟨s, request, stop, bound, check, known, same⟩ := request_reached pongTimeoutMs
    { c.callConnect 0 with network := q, client := .connecting }
  refine ⟨_, s, run_append_iff.mpr ⟨_, once, run_append_iff.mpr ⟨_, checking, run_append_iff.mpr
    ⟨_, connect, run_append_iff.mpr ⟨_, pass.1, request⟩⟩⟩⟩, stop, bound, check, ?_, ?_, known, ?_⟩
  · rw [same]
  · rw [same]
    exact failed.created
  · rw [same]
    exact refusing

/-- The moves of a task after a stop has been requested have a bound: those of its own and of
    a connect() that it has called, whatever the network, other threads and other calls do. -/
def StopBounded (brokerWsUris : List String) (clientType : String) (pongTimeoutsBeforeRetry : Nat)
    (pongTimeoutMs : Int) (maxConnectAttempts : UInt32) : Prop :=
  ∃ most, ∀ earlier s later t k,
    run (Monitored.step baseReconnecting)
      (.create pongTimeoutMs (.create brokerWsUris clientType pongTimeoutsBeforeRetry)) earlier =
        some s →
    s.task.monitor.mustStop = true → s.bounds[k]? = some maxConnectAttempts →
    run (Monitored.step baseReconnecting) s later = some t →
    spent (Monitored.step baseReconnecting) (fun s a => (moveOf k s a).toNat) s later ≤ most

/-- Where startMonitoring() accepts some interval, a stop waits for a bounded number of moves of
    the task if and only if its max_connect_attempts is not zero; zero is the default. -/
theorem stop_bounded_iff (brokerWsUris : List String) (clientType : String)
    (pongTimeoutsBeforeRetry : Nat) (pongTimeoutMs : Int) (maxConnectAttempts interval : UInt32)
    (accepted : checkPingTimings (interval * 1000) (UInt32.ofInt pongTimeoutMs) = .ok ()) :
    StopBounded brokerWsUris clientType pongTimeoutsBeforeRetry pongTimeoutMs maxConnectAttempts ↔
      maxConnectAttempts ≠ 0 := by
  constructor
  · rintro ⟨most, bounded⟩ rfl
    obtain ⟨earlier, s, reached, requested, bound, blocked⟩ := blocked_reached brokerWsUris
      clientType pongTimeoutsBeforeRetry accepted
    obtain ⟨later, t, path, _, _, more⟩ := run_unbounded (fun _ => True)
      (fun s a => (moveOf 1 s a).toNat) (Blocked 1) (fun _ blocked => blocked_round blocked)
      (most + 1) s blocked
    have within := bounded earlier s later t 1 reached requested bound path
    omega
  · intro nonzero
    exact ⟨_, fun _ _ _ _ _ reached requested bound path =>
      stop_bounded nonzero reached requested bound path⟩

theorem default_stop_unbounded :
    checkPingTimings (15 * 1000) (UInt32.ofInt 5000) = .ok () ∧
      ¬StopBounded ["wss://localhost:8142/pcp2/"] "agent" 3 5000 0 :=
  ⟨rfl, fun bounded => (stop_bounded_iff _ _ _ _ 0 15 rfl).mp bounded rfl⟩

end PcpStopInConnect
