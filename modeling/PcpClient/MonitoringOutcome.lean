import PcpClient.MonitoredConnector
import PcpClient.AssociationTermination

/-!
Why a Monitoring Task ends, for connectors of both protocol versions: a stop was requested, or
a connect() of the task ended by an exception that is not retried. With max_connect_attempts
zero the network alone cannot end it.
-/
namespace PcpMonitoringOutcome
open PcpTransitions PcpMonitor PcpErrorPolicy PcpMonitored PcpAttemptBounds PcpBaseConnector
open PcpEndpoint PcpDispatch PcpConnectorInvariants PcpAssociationTermination
open PcpConnector (Connector connector_cases)
variable {State Event : Type}

/-- connect() has made as many passes as its bound allows, and the bound is not zero. -/
def GaveUp (b : UInt32) (e : Exception) : Prop :=
  b ≠ 0 ∧ e.cls = connectionFatalError ∧ e.what = fatalErrorText (allowed (toInt b))

def Refused (e : Exception) : Prop :=
  e.cls = connectionAssociationResponseFailure ∧
    (e.what = "Associate Session failure" ∨
      ∃ error, e.what = "Associate Session failure: " ++ error)

/-- An exception of none of the classes of the library that connect() throws. -/
def Unexpected (e : Exception) : Prop := clause e.cls = .other

/-- A connect() of the task of activation k threw e, for the given cause. -/
def StoppedFor (r : Reconnecting State Event) (first : Monitored State)
    (cause : UInt32 → Exception → Prop) (past : List (Move Event)) (k : Nat) (e : Exception) :
    Prop :=
  ∃ before after m b, past = before ++ .connectEnds (some e) :: after ∧
    run (Monitored.step r) first before = some m ∧ m.check = some (.connecting k) ∧
    m.bounds[k]? = some b ∧ cause b e

/-- Why the loops of a run have ended, and what a call that reads monitor_exception_ throws. -/
structure MonitoringEnds (r : Reconnecting State Event) (first : Monitored State)
    (cause : UInt32 → Exception → Prop) (past : List (Move Event)) (s : Monitored State) :
    Prop where
  left : ∀ (k : Nat) p, s.task.monitor.activations[k]? = some p → hasLeft p = true →
    s.task.monitor.mustStop = true ∨ ∃ e, StoppedFor r first cause past k e
  ended : ∀ e, s.task.endedBy = some e → ∃ k, StoppedFor r first cause past k e
  rethrown : ∀ (k : Nat) p, s.task.monitor.activations[k]? = some p → reads p = true →
    (∀ e, s.task.endedBy = some e → ¬Unexpected e) → Rethrows s.task k

theorem thrown_cases {o : PcpConnector.Outcome} {e : Exception} (thrown : throws o e = true)
    (fatal : isRetried e.cls = false) :
    (∃ text, o = .associationResponseFailure text ∧
        e.cls = connectionAssociationResponseFailure ∧ e.what = text) ∨
      (∃ idx, o = .fatalError idx ∧ e.cls = connectionFatalError ∧ e.what = fatalErrorText idx) ∨
      Unexpected e := by
  cases o with
  | returned => cases thrown
  | associationError text =>
    simp only [throws, decide_eq_true_eq] at thrown
    rw [thrown.1] at fatal
    cases fatal
  | configError =>
    simp only [throws, decide_eq_true_eq] at thrown
    rw [thrown] at fatal
    cases fatal
  | associationResponseFailure text =>
    simp only [throws, decide_eq_true_eq] at thrown
    exact .inl ⟨text, rfl, thrown⟩
  | fatalError idx =>
    simp only [throws, decide_eq_true_eq] at thrown
    exact .inr (.inl ⟨idx, rfl, thrown⟩)
  | otherException =>
    simp only [throws, decide_eq_true_eq] at thrown
    exact .inr (.inr thrown)

theorem thrown_whole {o : PcpConnector.Outcome} {e : Exception} (thrown : throws o e = true)
    (fatal : isRetried e.cls = false) (expected : ¬Unexpected e) : IsWhole e := by
  rcases thrown_cases thrown fatal with ⟨_, _, cls, _⟩ | ⟨_, _, cls, _⟩ | unexpected
  · rw [IsWhole, cls]
    decide
  · rw [IsWhole, cls]
    decide
  · exact absurd unexpected expected

theorem monitoring_ends {r : Reconnecting State Event} {pongTimeoutMs : Int} {start : State}
    {cause : UInt32 → Exception → Prop}
    (justified : ∀ trace c o b e, run r.step start trace = some c → r.ended c = some o →
      r.bound c = toInt b → throws o e = true → isRetried e.cls = false → cause b e)
    {past : List (Move Event)} {s : Monitored State}
    (path : run (Monitored.step r) (.create pongTimeoutMs start) past = some s) :
    MonitoringEnds r (.create pongTimeoutMs start) cause past s := by
  have watched := watched_run r pongTimeoutMs start path
  have caused : ∀ k e, StoppedBy r (.create pongTimeoutMs start) past k e →
      StoppedFor r (.create pongTimeoutMs start) cause past k e := by
    rintro k e ⟨fatal, before, after, m, b, o, split, reached, throwing⟩
    obtain ⟨trace, inner⟩ := (watched_run r pongTimeoutMs start reached).reached
    exact ⟨before, after, m, b, split, reached, throwing.check, throwing.bound,
      justified trace _ o b e inner throwing.ended throwing.called throwing.thrown fatal⟩
  refine ⟨fun k p here left => ?_, fun e ended => ?_, fun k p here reading expected => ?_⟩
  · exact (watched.left k p here left).imp id fun ⟨e, stopped⟩ => ⟨e, caused k e stopped⟩
  · obtain ⟨k, stopped⟩ := watched.ended e ended
    exact ⟨k, caused k e stopped⟩
  · refine (rethrows_iff watched.copied here reading).mpr fun e ended => ?_
    obtain ⟨_, fatal, _, _, _, _, _, _, _, throwing⟩ := watched.ended e ended
    exact thrown_whole throwing.thrown fatal (expected e ended)

/-! ConnectorBase, and with it v2::Connector. -/

def isBaseCall : PcpBaseConnector.Action → Bool
  | .callConnect _ => true
  | _ => false

def baseReconnecting : Reconnecting BaseConnector PcpBaseConnector.Action where
  step := BaseConnector.step
  callConnect := .callConnect
  isCall := isBaseCall
  bound s := s.maxConnectAttempts
  ended s := if s.client = .idle then s.outcome else none
  created s := s.created
  isConnected s := s.created && decide (s.network.1.connectionState = .open)
  bound_call next := by obtain ⟨_, rfl⟩ := base_cases next; rfl
  bound_kept {_ _ e} single next := by
    have moved := base_cases next
    cases e with
    | callConnect n => cases single
    | construct ok => obtain ⟨_, rfl⟩ := moved; cases ok <;> rfl
    | enterConnect | network => obtain ⟨_, _, _, rfl⟩ := moved; rfl
    | connectEnds => obtain ⟨_, _, _, _, rfl⟩ := moved; rfl

theorem nonzero_bound {b : UInt32} (nonzero : toInt b ≠ 0) : b ≠ 0 := by
  rintro rfl
  exact nonzero (by decide)

theorem fatal_gaveUp {n idx : Int} {b : UInt32} {e : Exception}
    (possible : n ≠ 0 ∧ idx = allowed n) (called : n = toInt b)
    (cls : e.cls = connectionFatalError) (what : e.what = fatalErrorText idx) : GaveUp b e := by
  obtain ⟨nonzero, passes⟩ := possible
  rw [passes, called] at what
  exact ⟨nonzero_bound (called ▸ nonzero), cls, what⟩

/-- In every run of a v2 connector with any monitoring calls, a Monitoring Task has left its
    loop only because a stop was requested, or because its connect() made as many passes as a
    bound other than zero allows, or threw an unexpected exception; the call that reads another
    exception than these rethrows it. -/
theorem base_monitoring_ends (brokerWsUris : List String) (clientType : String)
    (pongTimeoutsBeforeRetry : Nat) (pongTimeoutMs : Int) {past : List (Move _)}
    {s : Monitored BaseConnector}
    (path : run (Monitored.step baseReconnecting)
      (.create pongTimeoutMs (.create brokerWsUris clientType pongTimeoutsBeforeRetry)) past =
        some s) :
    MonitoringEnds baseReconnecting
      (.create pongTimeoutMs (.create brokerWsUris clientType pongTimeoutsBeforeRetry))
      (fun b e => GaveUp b e ∨ Unexpected e) past s := by
  refine monitoring_ends (fun trace c o b e inner ended called thrown fatal => ?_) path
  have bounded := bounded_reachable inner
  have outcome : c.outcome = some o := (Option.ite_none_right_eq_some.mp ended).2
  have possible := bounded.outcome o outcome
  rcases thrown_cases thrown fatal with ⟨_, rfl, _⟩ | ⟨idx, rfl, cls, what⟩ | unexpected
  · exact possible.elim
  · exact .inl (fatal_gaveUp possible called cls what)
  · exact .inr unexpected

def refusedAttempt (hdl : PcpConnection.Handle) : List PcpConnection.Action :=
  [.beginAttempt, .getConnection (.connection hdl), .endpointConnect true, .onFail hdl]

def exhausted : Exception :=
  ⟨connectionFatalError, "failed to establish a WebSocket connection after 2 attempts", by decide⟩

def toFirstCheck (connect : List (Move Event)) : List (Move Event) :=
  connect ++ [.call (.start .blocking 15) 2, .go 0, .go 0, .go 0, .go 0, .go 0, .go 0, .go 0,
    .readConnected 0, .enterConnect]

def toException (connect : List (Move Event)) : List (Move Event) :=
  connect ++ [.connectEnds (some exhausted), .go 0, .go 0, .go 0]

def twoRefused : List PcpConnection.Action :=
  .pass :: refusedAttempt 1 ++ [.waitEnds 0, .pass, .retrySleep 0] ++ refusedAttempt 2 ++
    [.waitEnds 0]

def baseNetwork (actions : List PcpConnection.Action) : List (Move PcpBaseConnector.Action) :=
  actions.map fun a => .connector (.network a)

def baseExhausted : List (Move PcpBaseConnector.Action) :=
  toFirstCheck ([.connector (.callConnect 1), .connector (.construct true),
      .connector .enterConnect] ++
    baseNetwork (.pass :: refusedAttempt 0 ++ [.waitEnds 0, .recheck]) ++
    [.connector .connectEnds]) ++
  toException (.connector .enterConnect :: baseNetwork twoRefused ++ [.connector .connectEnds])

theorem base_monitoring_exhausted : ∃ s,
    run (Monitored.step baseReconnecting)
        (.create 5000 (.create ["wss://localhost:8142/pcp2/"] "agent" 3)) baseExhausted = some s ∧
      s.task.monitor.activations[0]? = some .readException ∧ s.task.endedBy = some exhausted ∧
      MonitoringEnds baseReconnecting
        (.create 5000 (.create ["wss://localhost:8142/pcp2/"] "agent" 3))
        (fun b e => GaveUp b e ∨ Unexpected e) baseExhausted s :=
  ⟨_, rfl, rfl, rfl, base_monitoring_ends _ _ _ _ rfl⟩

/-! v1::Connector. -/

def isConnectorCall : PcpConnector.Action → Bool
  | .callConnect _ => true
  | _ => false

theorem not_call {a : PcpConnector.Action} (single : isConnectorCall a = false) :
    ∀ n, a ≠ .callConnect n := by
  rintro n rfl
  cases single

theorem attempts_kept {cfg : Setup} {s t : Connector} {a : PcpConnector.Action}
    (single : isConnectorCall a = false) (next : s.step cfg a = some t) :
    t.maxConnectAttempts = s.maxConnectAttempts := by
  rcases thread_cases a with ⟨b, rfl⟩ | own | own
  · obtain ⟨_, n, _, rfl⟩ := connector_cases next
    rfl
  · exact connect_attempts own (not_call single) next
  · exact eventLoop_attempts own next

def associatingReconnecting (cfg : Setup) : Reconnecting Connector PcpConnector.Action where
  step := Connector.step cfg
  callConnect := .callConnect
  isCall := isConnectorCall
  bound s := s.maxConnectAttempts
  ended s := if s.client = .idle then s.outcome else none
  created s := s.created
  isConnected s := s.created && decide (s.network.1.connectionState = .open)
  bound_call next := by obtain ⟨_, rfl⟩ := connector_cases next; rfl
  bound_kept := attempts_kept

def PossibleOutcome (n : Int) : PcpConnector.Outcome → Prop
  | .fatalError attempts => n ≠ 0 ∧ attempts = allowed n
  | .associationResponseFailure text =>
    text = "Associate Session failure" ∨ ∃ error, text = "Associate Session failure: " ++ error
  | .returned | .associationError _ | .configError | .otherException => True

structure Answering (s : Connector) : Prop where
  persevering : Persevering s.network.1
  inside : s.client = .connecting →
    s.network.1.frame.maxConnectAttempts = s.maxConnectAttempts
  outcome : ∀ o, s.outcome = some o → PossibleOutcome s.maxConnectAttempts o

theorem conclude_possible (s : Connector) (n : Int) :
    ∀ o, s.conclude.outcome = some o → PossibleOutcome n o := by
  intro o outcome
  unfold Connector.conclude at outcome
  split at outcome
  · obtain rfl := Option.some.inj outcome
    trivial
  · split at outcome
    · obtain rfl := Option.some.inj outcome
      trivial
    · split at outcome
      · obtain rfl := Option.some.inj outcome
        show _ ∨ _
        split
        · exact .inl rfl
        · exact .inr ⟨_, rfl⟩
      · obtain rfl := Option.some.inj outcome
        trivial

theorem connectEnds_possible {s : Connector} {n : Int} (r : PcpConnection.ConnectResult)
    (before : ∀ o, s.outcome = some o → PossibleOutcome n o)
    (gaveUp : ∀ idx, r = .fatalError idx → n ≠ 0 ∧ idx = allowed n) :
    ∀ o, (s.connectEnds r).outcome = some o → PossibleOutcome n o := by
  intro o outcome
  cases r with
  | returned =>
    simp only [Connector.connectEnds] at outcome
    split at outcome
    · exact conclude_possible s n o outcome
    · exact before o outcome
  | fatalError idx =>
    obtain rfl := Option.some.inj outcome
    exact gaveUp idx rfl
  | processingError | configError | otherException =>
    obtain rfl := Option.some.inj outcome
    trivial

theorem wake_possible {s : Connector} {n : Int} (timedOut : Bool)
    (before : ∀ o, s.outcome = some o → PossibleOutcome n o) :
    ∀ o, (s.wake timedOut).outcome = some o → PossibleOutcome n o := by
  unfold Connector.wake
  split
  · exact conclude_possible _ n
  · exact before

theorem answering_network {s : Connector} {n : System} {b : PcpConnection.Action}
    (answering : Answering s) (permitted : s.permits b = true) (inner : s.network.step b = some n) :
    Answering (s.afterNetwork n b) := by
  have moves := (system_step_iff.mp inner).1
  have single : PcpConnectAttempts.isCallConnect b = false := by
    cases b with
    | callConnect m => cases permitted
    | _ => rfl
  refine ⟨persevering_step answering.persevering moves, fun inside => ?_, answering.outcome⟩
  have before := clientAfter_same permitted inside (by simp)
  exact (bound_kept single moves).trans (answering.inside before)

theorem answering_connect {cfg : Setup} {s t : Connector} {a : PcpConnector.Action}
    (answering : Answering s) (own : FromConnect a) (next : s.step cfg a = some t) :
    Answering t := by
  have moved := connector_cases next
  cases a <;> simp only [FromConnect] at own
  case callConnect n =>
    obtain ⟨_, rfl⟩ := moved
    refine ⟨answering.persevering, fun inside => ?_, fun o outcome => by cases outcome⟩
    simp only [Connector.callConnect] at inside
    split at inside <;> cases inside
  case construct ok =>
    obtain ⟨_, rfl⟩ := moved
    cases ok with
    | true => exact ⟨answering.persevering, fun inside => (by cases inside), answering.outcome⟩
    | false =>
      refine ⟨answering.persevering, fun inside => (by cases inside), fun o outcome => ?_⟩
      obtain rfl := Option.some.inj outcome
      trivial
  case readState =>
    obtain ⟨_, rfl⟩ := moved
    unfold Connector.readState
    split <;> exact ⟨answering.persevering, fun inside => (by cases inside), answering.outcome⟩
  case lockSession =>
    obtain ⟨_, _, rfl⟩ := moved
    exact ⟨answering.persevering, fun inside => (by cases inside), answering.outcome⟩
  case enterConnect =>
    obtain ⟨_, n, inner, rfl⟩ := moved
    have calls := (system_step_iff.mp inner).1
    obtain ⟨_, entered⟩ := PcpConnection.step_cases calls
    exact ⟨persevering_step answering.persevering calls, fun _ => by rw [entered]; rfl,
      answering.outcome⟩
  case connectEnds =>
    have bound := connect_attempts (by trivial) (by simp) next
    obtain ⟨connecting, finished, r, result, rfl⟩ := moved
    obtain ⟨place, network, _⟩ := connectEnds_keeps s r
    refine ⟨network ▸ answering.persevering, fun inside => ?_, ?_⟩
    · rcases place with idle | blocked
      · simp [idle] at inside
      · simp [blocked] at inside
    · rw [bound]
      refine connectEnds_possible r answering.outcome fun idx fatal => ?_
      have gaveUp := (answering.persevering.gaveUp finished idx (fatal ▸ result)).1
      rwa [answering.inside connecting] at gaveUp
  case wake timedOut =>
    have bound := connect_attempts (by trivial) (by simp) next
    obtain ⟨blocked, _, rfl⟩ := moved
    obtain ⟨place, network, _⟩ := wake_keeps s timedOut
    refine ⟨network ▸ answering.persevering, fun inside => ?_, ?_⟩
    · rcases place with idle | same
      · simp [idle] at inside
      · simp [same, blocked] at inside
    · rw [bound]
      exact wake_possible timedOut answering.outcome
  all_goals
    obtain ⟨_, rfl⟩ := moved
    exact ⟨answering.persevering, fun inside => (by cases inside), answering.outcome⟩

theorem answering_step {cfg : Setup} {s t : Connector} {a : PcpConnector.Action}
    (answering : Answering s) (next : s.step cfg a = some t) : Answering t := by
  rcases thread_cases a with ⟨b, rfl⟩ | own | own
  · obtain ⟨permitted, n, inner, rfl⟩ := connector_cases next
    exact answering_network answering permitted inner
  · exact answering_connect answering own next
  · obtain ⟨client, network, _, outcome⟩ := eventLoop_keeps own next
    have bound := eventLoop_attempts own next
    refine ⟨network ▸ answering.persevering, ?_, ?_⟩
    · rw [client, network, bound]
      exact answering.inside
    · rw [outcome, bound]
      exact answering.outcome

theorem answering_reachable {cfg : Setup} {brokerWsUris : List String}
    {pongTimeoutsBeforeRetry : Nat} {trace : List PcpConnector.Action} {s : Connector}
    (path : run (Connector.step cfg) (.create brokerWsUris pongTimeoutsBeforeRetry) trace =
      some s) : Answering s :=
  run_keeps Answering (fun _ _ _ held next => answering_step held next)
    ⟨persevering_create brokerWsUris pongTimeoutsBeforeRetry, fun inside => (by cases inside),
      fun o outcome => (by cases outcome)⟩ path

/-- In every run of a v1 connector, with any messages, handlers and monitoring calls, the same
    holds, and a task may also end because the broker refused the association. -/
theorem associating_monitoring_ends (cfg : Setup) (brokerWsUris : List String)
    (pongTimeoutsBeforeRetry : Nat) (pongTimeoutMs : Int) {past : List (Move _)}
    {s : Monitored Connector}
    (path : run (Monitored.step (associatingReconnecting cfg))
      (.create pongTimeoutMs (.create brokerWsUris pongTimeoutsBeforeRetry)) past = some s) :
    MonitoringEnds (associatingReconnecting cfg)
      (.create pongTimeoutMs (.create brokerWsUris pongTimeoutsBeforeRetry))
      (fun b e => GaveUp b e ∨ Refused e ∨ Unexpected e) past s := by
  refine monitoring_ends (fun trace c o b e inner ended called thrown fatal => ?_) path
  have outcome : c.outcome = some o := (Option.ite_none_right_eq_some.mp ended).2
  have possible := (answering_reachable inner).outcome o outcome
  rcases thrown_cases thrown fatal with ⟨text, rfl, cls, what⟩ | ⟨idx, rfl, cls, what⟩ | unexpected
  · subst what
    exact .inr (.inl ⟨cls, possible⟩)
  · exact .inl (fatal_gaveUp possible called cls what)
  · exact .inr (.inr unexpected)

def connectorNetwork (actions : List PcpConnection.Action) : List (Move PcpConnector.Action) :=
  actions.flatMap fun a => match a with
    | .onFail hdl => [.connector (.network (.onFail hdl)), .connector .closeTimings]
    | a => [.connector (.network a)]

def entered : List (Move PcpConnector.Action) :=
  [.connector .readState, .connector .lockSession, .connector .resetSession,
    .connector .setInProgress, .connector .enterConnect]

def associatingExhausted : List (Move PcpConnector.Action) :=
  toFirstCheck ([.connector (.callConnect 1), .connector (.construct true)] ++ entered ++
    connectorNetwork (.pass :: refusedAttempt 0 ++ [.waitEnds 0, .recheck]) ++
    [.connector .connectEnds]) ++
  toException (entered ++ connectorNetwork twoRefused ++ [.connector .connectEnds])

theorem associating_monitoring_exhausted : ∃ s,
    run (Monitored.step (associatingReconnecting (plainSetup fun _ => none)))
        (.create 5000 (.create ["wss://localhost:8142/pcp/"] 3)) associatingExhausted = some s ∧
      s.task.monitor.activations[0]? = some .readException ∧ s.task.endedBy = some exhausted ∧
      MonitoringEnds (associatingReconnecting (plainSetup fun _ => none))
        (.create 5000 (.create ["wss://localhost:8142/pcp/"] 3))
        (fun b e => GaveUp b e ∨ Refused e ∨ Unexpected e) associatingExhausted s :=
  ⟨_, rfl, rfl, rfl, associating_monitoring_ends _ _ _ _ rfl⟩

end PcpMonitoringOutcome
