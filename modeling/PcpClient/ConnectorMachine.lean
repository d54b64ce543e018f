import PcpClient.EndpointCoherence
import PcpClient.MessageDispatch

/-!
v1::Connector as a transition system: one thread that calls connect(), the event-loop
thread with the WebSocket handlers and the callbacks they run, and the Connection with
its endpoint. Who holds session_association_.mtx follows from where the threads are; a
step that needs it is disabled while the other thread holds it.
-/
namespace PcpConnector
open PcpTransitions PcpTimings PcpOctets PcpJson PcpParsedChunks PcpDispatch
open PcpConnection hiding Action
open PcpEndpoint PcpEndpointCoherence

structure SessionAssociation where
  success : Bool := false
  inProgress : Bool := false
  gotMessagingFailure : Bool := false
  requestId : String := ""
  error : String := ""
  deriving DecidableEq, Repr

def SessionAssociation.reset (_ : SessionAssociation) : SessionAssociation := {}

/-- The predicate of the wait in connect(). -/
def SessionAssociation.settled (a : SessionAssociation) : Bool :=
  !a.inProgress || a.gotMessagingFailure

inductive Outcome where
  | returned
  | associationError (text : String)
  | associationResponseFailure (text : String)
  | configError
  | fatalError (attempts : Int)
  | otherException
  deriving DecidableEq, Repr

/-- The next thing connect() does. It holds the mutex of the session from resetting to
    connecting, releases it while it is blocked, and takes it back when it wakes up. -/
inductive ClientPc where
  | idle | construct | readState
  | closing | inClose | awaitClosed
  | wantLock | resetting | marking | entering | connecting | blocked
  deriving DecidableEq, Repr

inductive LoopPc where
  | idle
  | associating
  | closing | inClose
  | closeTimings
  | reporting (error : String)
  | reportLock (error : String)
  | response (chunks : ParsedChunks)
  | responseCallback
  | userCallback (next : Option Citation)
  | citing (c : Citation)
  | citingLock (c : Citation)
  | aborted | terminated

/-- What associateSession() and the message handlers did under the mutex. -/
inductive SessionEvent where
  | requested (id : String)
  | responded (id : String) (success : Bool)
  | corrupted
  | cited (id : String)
  deriving DecidableEq, Repr

/-- The members of the connector with its threads. No step reads the events handled
    since the last reset or the ids generated so far, except to draw a fresh id. -/
structure Connector where
  created : Bool
  network : System
  session : SessionAssociation
  associationTimings : AssociationTimings
  maxConnectAttempts : Int
  client : ClientPc
  outcome : Option Outcome
  loop : LoopPc
  wakePending : Bool
  notifications : Nat
  handled : List SessionEvent
  requestIds : List String

def Connector.create (brokerWsUris : List String) (pongTimeoutsBeforeRetry : Nat) :
    Connector where
  created := false
  network := System.create brokerWsUris pongTimeoutsBeforeRetry
  session := {}
  associationTimings := {}
  maxConnectAttempts := 0
  client := .idle
  outcome := none
  loop := .idle
  wakePending := false
  notifications := 0
  handled := []
  requestIds := []

def ClientPc.holdsSession : ClientPc → Bool
  | .resetting | .marking | .entering | .connecting => true
  | _ => false

def LoopPc.holdsSession : LoopPc → Bool
  | .responseCallback => true
  | _ => false

/-- The callbacks of onClose() and onFail() run under state_mutex_. -/
def LoopPc.holdsState : LoopPc → Bool
  | .closeTimings => true
  | _ => false

def LoopPc.isIdle : LoopPc → Bool
  | .idle => true
  | _ => false

def LoopPc.isAssociating : LoopPc → Bool
  | .associating => true
  | _ => false

def LoopPc.callsClose : LoopPc → Bool
  | .closing => true
  | _ => false

def LoopPc.insideClose : LoopPc → Bool
  | .inClose => true
  | _ => false

/-- The process has ended: a failed assertion, or an exception that entered the loop. -/
def LoopPc.isDead : LoopPc → Bool
  | .aborted | .terminated => true
  | _ => false

/-! connect(). -/

def Connector.finish (s : Connector) (o : Outcome) : Connector :=
  { s with client := .idle, outcome := some o }

def Connector.callConnect (s : Connector) (maxConnectAttempts : Int) : Connector :=
  { s with
    maxConnectAttempts
    client := if s.created then .readState else .construct
    outcome := none }

def Connector.construct (s : Connector) (ok : Bool) : Connector :=
  if ok then { s with created := true, client := .readState } else s.finish .configError

def Connector.readState (s : Connector) : Connector :=
  match s.network.1.connectionState with
  | .connecting | .open => { s with client := .closing }
  | _ => { s with client := .wantLock }

def Connector.resetSession (s : Connector) : Connector :=
  { s with session := s.session.reset, handled := [], client := .marking }

def Connector.setInProgress (s : Connector) : Connector :=
  { s with session := { s.session with inProgress := true }, client := .entering }

def Connector.setCompleted (s : Connector) (success : Bool) : Connector :=
  { s with associationTimings := s.associationTimings.setCompleted s.network.1.clock success }

/-- What follows the wait: the checks for failures, in their order. -/
def Connector.conclude (s : Connector) : Connector :=
  if s.session.gotMessagingFailure then
    { s.setCompleted false with session := s.session.reset }.finish
      (.associationError "invalid Associate Session response")
  else if s.session.inProgress then
    { s with session := s.session.reset }.finish (.associationError "operation timeout")
  else if !s.session.success then
    { s.setCompleted false with session := s.session.reset }.finish
      (.associationResponseFailure
        (if s.session.error.isEmpty then "Associate Session failure"
          else "Associate Session failure: " ++ s.session.error))
  else (s.setCompleted true).finish .returned

/-- Connection::connect() has returned or thrown; in the first case the predicate is
    tested before the wait. -/
def Connector.connectEnds (s : Connector) : ConnectResult → Connector
  | .returned =>
    if s.session.settled then s.conclude
    else { s with client := .blocked, wakePending := false }
  | .processingError => (s.setCompleted false).finish .configError
  | .configError => s.finish .configError
  | .fatalError attempts => s.finish (.fatalError attempts)
  | .otherException => s.finish .otherException

def Connector.wake (s : Connector) (timedOut : Bool) : Connector :=
  if timedOut || s.session.settled then { s with wakePending := false }.conclude
  else { s with wakePending := false }

/-! The handlers. -/

def Connector.record (s : Connector) (e : SessionEvent) : Connector :=
  { s with handled := s.handled ++ [e] }

def Connector.notifyOne (s : Connector) : Connector :=
  { s with
    notifications := s.notifications + 1
    wakePending := s.wakePending || decide (s.client = .blocked) }

/-- The whole of associateSession(); when the request could not be sent, onOpen() goes
    on to close the connection. -/
def Connector.associateSession (s : Connector) (id : String) (sent : Bool) : Connector :=
  { s.record (.requested id) with
    session := { s.session with gotMessagingFailure := false, error := "", requestId := id }
    associationTimings := .reset s.network.1.clock
    requestIds := id :: s.requestIds
    loop := if sent then .idle else .closing }

def Connector.closeAssociationTimings (s : Connector) : Connector :=
  { s with
    associationTimings :=
      if s.associationTimings.completed && !s.associationTimings.closed
        then s.associationTimings.setClosed s.network.1.clock else s.associationTimings
    loop := .idle }

/-- An error or ttl_expired message: an exception ends the handler, else the callback of
    the user comes next if it is set. -/
def citationPc (callbackSet : Bool) : Except Raised Citation → LoopPc
  | .ok c => if callbackSet then .userCallback (some c) else .citing c
  | .error _ => .idle

def onMessage (cfg : Setup) (msgTxt : Bytes) : LoopPc :=
  match cfg.processMessage msgTxt with
  | .rejected error => .reporting error
  | .callback (.registered _) _ => .userCallback none
  | .callback .associateResponse chunks =>
    if cfg.assertsHold chunks then .response chunks else .aborted
  | .callback .errorMessage chunks =>
    if cfg.assertsHold chunks then citationPc cfg.errorCallback (readErrorMessage chunks)
    else .aborted
  | .callback .ttlMessage chunks =>
    if cfg.assertsHold chunks then citationPc cfg.ttlExpiredCallback (readTTLMessage chunks)
    else .aborted
  | .ignored | .raised _ => .idle
  | .aborted => .aborted

/-- The unlocked test of in_progress in the report of an error and of a citation. -/
def Connector.testInProgress (s : Connector) (next : LoopPc) : Connector :=
  { s with loop := if s.session.inProgress then next else .idle }

def Connector.report (s : Connector) (error : String) : Connector :=
  { (s.record .corrupted).notifyOne with
    session := { s.session with gotMessagingFailure := true, error }
    loop := .idle }

/-- The end of associateResponseCallback(): the session is written, and the callback of
    the user runs before the notification if it is set. -/
def Connector.settle (s : Connector) (cfg : Setup) (success : Bool) (error : String) : Connector :=
  if cfg.associateResponseCallback then
    { s with
      session := { s.session with success, inProgress := false, error }
      loop := .responseCallback }
  else
    { s.notifyOne with
      session := { s.session with success, inProgress := false, error }
      loop := .idle }

/-- The body of associateResponseCallback() under the mutex, up to the user's callback. -/
def Connector.respond (s : Connector) (cfg : Setup) (chunks : ParsedChunks) : Connector :=
  match readAssociateResponse chunks with
  | .error _ => { s with loop := .idle }
  | .ok r =>
    let heard := s.record (.responded r.requestId r.success)
    if !s.session.inProgress || r.requestId != s.session.requestId then
      { heard with loop := .idle }
    else if r.success then heard.settle cfg true s.session.error
    else
      match failureReason chunks.data with
      | .ok reason => heard.settle cfg false reason
      | .error _ => { s with loop := .idle }

def Connector.responseCallbackEnds (s : Connector) (throws : Bool) : Connector :=
  if throws then { s with loop := .idle } else { s.notifyOne with loop := .idle }

def Connector.userCallbackEnds (s : Connector) (next : Option Citation) (throws : Bool) :
    Connector :=
  match next, throws with
  | some c, false => { s with loop := .citing c }
  | _, _ => { s with loop := .idle }

def Connector.cite (s : Connector) (c : Citation) : Connector :=
  if !c.causeId.isEmpty && c.causeId == s.session.requestId then
    { (s.record (.cited c.causeId)).notifyOne with
      session := { s.session with gotMessagingFailure := true, error := c.error }
      loop := .idle }
  else { s.record (.cited c.causeId) with loop := .idle }

/-! The Connection inside the connector. -/

/-- Which thread a step of the Connection belongs to, and that it is there. -/
def Connector.permits (s : Connector) : PcpConnection.Action → Bool
  | .callConnect _ => false
  | .pass | .poll | .retrySleep _ | .beginAttempt | .getConnection _ | .endpointConnect _
  | .waitEnds _ | .recheck => decide (s.client = .connecting)
  | .closeEnter .client => decide (s.client = .closing) && !s.loop.holdsState
  | .closeEndpoint .client _ | .closeWrite .client => decide (s.client = .inClose)
  | .closeEnter .eventLoop => s.loop.callsClose
  | .closeEndpoint .eventLoop _ | .closeWrite .eventLoop => s.loop.insideClose
  | .closeEnter (.other _) | .closeEndpoint (.other _) _ | .closeWrite (.other _) => false
  | .onOpen _ | .onClose _ | .onFail _ | .onPong _ | .onPongTimeout _ | .onPreTCPInit _
  | .onPostTCPInit _ => s.loop.isIdle
  | .tick => true

/-- Where a step of the Connection leaves connect(); a close() that fails is logged. -/
def clientAfter (client : ClientPc) (n : System) : PcpConnection.Action → ClientPc
  | .closeEnter .client => if n.1.closeCall = none then .awaitClosed else .inClose
  | .closeEndpoint .client false => .wantLock
  | .closeWrite .client => .awaitClosed
  | _ => client

/-- Where it leaves the event loop; nothing catches what its own close() throws. -/
def loopAfter (loop : LoopPc) (n : System) : PcpConnection.Action → LoopPc
  | .closeEnter .eventLoop => if n.1.closeCall = none then .idle else .inClose
  | .closeEndpoint .eventLoop false => .terminated
  | .closeWrite .eventLoop => .idle
  | .onOpen _ => .associating
  | .onClose _ | .onFail _ => .closeTimings
  | .onPongTimeout _ => if n.1.pongTimeoutCloses then .closing else .idle
  | _ => loop

def Connector.afterNetwork (s : Connector) (n : System) (a : PcpConnection.Action) : Connector :=
  { s with network := n, client := clientAfter s.client n a, loop := loopAfter s.loop n a }

inductive Action where
  | callConnect (maxConnectAttempts : Int)
  | construct (ok : Bool)
  | readState
  | network (a : PcpConnection.Action)
  | awaitEnds
  | lockSession
  | resetSession
  | setInProgress
  | enterConnect
  | connectEnds
  | wake (timedOut : Bool)
  | associateSession (id : String) (sent : Bool)
  | closeTimings
  | message (hdl : Handle) (msgTxt : Bytes)
  | testInProgress
  | report
  | respond
  | responseCallbackEnds (throws : Bool)
  | userCallbackEnds (throws : Bool)
  | cite
  deriving DecidableEq, Repr

/-- A step of a live process. The wait for the closed state may expire at any moment. -/
def Connector.act (cfg : Setup) (s : Connector) : Action → Option Connector
  | .callConnect n => if s.client = .idle then some (s.callConnect n) else none
  | .construct ok => if s.client = .construct then some (s.construct ok) else none
  | .readState => if s.client = .readState then some s.readState else none
  | .network a =>
    if s.permits a then (s.network.step a).map fun n => s.afterNetwork n a else none
  | .awaitEnds => if s.client = .awaitClosed then some { s with client := .wantLock } else none
  | .lockSession =>
    if s.client = .wantLock ∧ s.loop.holdsSession = false then some { s with client := .resetting }
    else none
  | .resetSession => if s.client = .resetting then some s.resetSession else none
  | .setInProgress => if s.client = .marking then some s.setInProgress else none
  | .enterConnect =>
    if s.client = .entering then
      (s.network.step (.callConnect s.maxConnectAttempts)).map fun n =>
        { s with network := n, client := .connecting }
    else none
  | .connectEnds =>
    if s.client = .connecting ∧ s.network.1.pc = .idle then s.network.1.result.map s.connectEnds
    else none
  | .wake timedOut =>
    if s.client = .blocked ∧ s.loop.holdsSession = false then some (s.wake timedOut) else none
  | .associateSession id sent =>
    match s.loop with
    | .associating =>
      if s.client.holdsSession = false ∧ id ≠ "" ∧ id ∉ s.requestIds
        then some (s.associateSession id sent) else none
    | _ => none
  | .closeTimings =>
    match s.loop with
    | .closeTimings => some s.closeAssociationTimings
    | _ => none
  | .message hdl msgTxt =>
    if s.loop.isIdle ∧ hdl ∈ s.network.2.established then
      some { s with loop := onMessage cfg msgTxt }
    else none
  | .testInProgress =>
    match s.loop with
    | .reporting error => some (s.testInProgress (.reportLock error))
    | .citing c => some (s.testInProgress (.citingLock c))
    | _ => none
  | .report =>
    match s.loop with
    | .reportLock error => if s.client.holdsSession then none else some (s.report error)
    | _ => none
  | .respond =>
    match s.loop with
    | .response chunks => if s.client.holdsSession then none else some (s.respond cfg chunks)
    | _ => none
  | .responseCallbackEnds throws =>
    match s.loop with
    | .responseCallback => some (s.responseCallbackEnds throws)
    | _ => none
  | .userCallbackEnds throws =>
    match s.loop with
    | .userCallback next => some (s.userCallbackEnds next throws)
    | _ => none
  | .cite =>
    match s.loop with
    | .citingLock c => if s.client.holdsSession then none else some (s.cite c)
    | _ => none

def Connector.step (cfg : Setup) (s : Connector) (a : Action) : Option Connector :=
  if s.loop.isDead then none else s.act cfg a

theorem connector_cases {cfg : Setup} {s t : Connector} {a : Action} :
    s.step cfg a = some t →
    match a with
    | .callConnect n => s.client = .idle ∧ t = s.callConnect n
    | .construct ok => s.client = .construct ∧ t = s.construct ok
    | .readState => s.client = .readState ∧ t = s.readState
    | .network a => s.permits a = true ∧ ∃ n, s.network.step a = some n ∧ t = s.afterNetwork n a
    | .awaitEnds => s.client = .awaitClosed ∧ t = { s with client := .wantLock }
    | .lockSession =>
      s.client = .wantLock ∧ s.loop.holdsSession = false ∧ t = { s with client := .resetting }
    | .resetSession => s.client = .resetting ∧ t = s.resetSession
    | .setInProgress => s.client = .marking ∧ t = s.setInProgress
    | .enterConnect =>
      s.client = .entering ∧ ∃ n, s.network.step (.callConnect s.maxConnectAttempts) = some n ∧
        t = { s with network := n, client := .connecting }
    | .connectEnds =>
      s.client = .connecting ∧ s.network.1.pc = .idle ∧
        ∃ r, s.network.1.result = some r ∧ t = s.connectEnds r
    | .wake timedOut => s.client = .blocked ∧ s.loop.holdsSession = false ∧ t = s.wake timedOut
    | .associateSession id sent =>
      s.loop = .associating ∧ s.client.holdsSession = false ∧ id ≠ "" ∧ id ∉ s.requestIds ∧
        t = s.associateSession id sent
    | .closeTimings => s.loop = .closeTimings ∧ t = s.closeAssociationTimings
    | .message hdl msgTxt =>
      s.loop = .idle ∧ hdl ∈ s.network.2.established ∧ t = { s with loop := onMessage cfg msgTxt }
    | .testInProgress =>
      (∃ error, s.loop = .reporting error ∧ t = s.testInProgress (.reportLock error)) ∨
        ∃ c, s.loop = .citing c ∧ t = s.testInProgress (.citingLock c)
    | .report =>
      ∃ error, s.loop = .reportLock error ∧ s.client.holdsSession = false ∧ t = s.report error
    | .respond =>
      ∃ chunks, s.loop = .response chunks ∧ s.client.holdsSession = false ∧
        t = s.respond cfg chunks
    | .responseCallbackEnds throws =>
      s.loop = .responseCallback ∧ t = s.responseCallbackEnds throws
    | .userCallbackEnds throws =>
      ∃ next, s.loop = .userCallback next ∧ t = s.userCallbackEnds next throws
    | .cite => ∃ c, s.loop = .citingLock c ∧ s.client.holdsSession = false ∧ t = s.cite c := by
  intro next
  obtain ⟨_, acts⟩ := Option.ite_none_left_eq_some.mp next
  cases a <;> simp only [Connector.act] at acts
  case network a =>
    obtain ⟨permitted, moves⟩ := Option.ite_none_right_eq_some.mp acts
    obtain ⟨n, inner, same⟩ := Option.map_eq_some_iff.mp moves
    exact ⟨permitted, n, inner, same.symm⟩
  case enterConnect =>
    obtain ⟨entering, moves⟩ := Option.ite_none_right_eq_some.mp acts
    obtain ⟨n, inner, same⟩ := Option.map_eq_some_iff.mp moves
    exact ⟨entering, n, inner, same.symm⟩
  case connectEnds =>
    obtain ⟨⟨connecting, finished⟩, moves⟩ := Option.ite_none_right_eq_some.mp acts
    obtain ⟨r, result, same⟩ := Option.map_eq_some_iff.mp moves
    exact ⟨connecting, finished, r, result, same.symm⟩
  case lockSession | wake =>
    obtain ⟨⟨place, free⟩, same⟩ := Option.ite_none_right_eq_some.mp acts
    exact ⟨place, free, (Option.some.inj same).symm⟩
  case associateSession =>
    split at acts
    · obtain ⟨⟨free, nonempty, fresh⟩, same⟩ := Option.ite_none_right_eq_some.mp acts
      exact ⟨‹_›, free, nonempty, fresh, (Option.some.inj same).symm⟩
    · cases acts
  case message =>
    obtain ⟨⟨place, up⟩, same⟩ := Option.ite_none_right_eq_some.mp acts
    refine ⟨?_, up, (Option.some.inj same).symm⟩
    cases here : s.loop <;> simp [here, LoopPc.isIdle] at place
    rfl
  case testInProgress =>
    split at acts
    · exact .inl ⟨_, ‹_›, (Option.some.inj acts).symm⟩
    · exact .inr ⟨_, ‹_›, (Option.some.inj acts).symm⟩
    · cases acts
  case closeTimings | responseCallbackEnds =>
    split at acts
    · exact ⟨‹_›, (Option.some.inj acts).symm⟩
    · cases acts
  case userCallbackEnds =>
    split at acts
    · exact ⟨_, ‹_›, (Option.some.inj acts).symm⟩
    · cases acts
  case report | respond | cite =>
    split at acts
    · obtain ⟨free, same⟩ := Option.ite_none_left_eq_some.mp acts
      exact ⟨_, ‹_›, by simpa using free, (Option.some.inj same).symm⟩
    · cases acts
  all_goals
    obtain ⟨place, same⟩ := Option.ite_none_right_eq_some.mp acts
    exact ⟨place, (Option.some.inj same).symm⟩

def sessionRequested : List Action :=
  [.callConnect 1, .construct true, .readState, .lockSession, .resetSession, .setInProgress,
    .enterConnect, .network .pass, .network .beginAttempt,
    .network (.getConnection (.connection 0)), .network (.endpointConnect true),
    .network (.onOpen 0), .network (.waitEnds 0), .network .recheck, .connectEnds,
    .associateSession "1" true]

theorem sessionRequested_waits (cfg : Setup) :
    ∃ s, run (Connector.step cfg) (.create ["wss://localhost:8142/pcp/"] 3) sessionRequested =
        some s ∧ s.loop = .idle ∧ 0 ∈ s.network.2.established ∧ s.client = .blocked ∧
      s.session = { inProgress := true, requestId := "1" } :=
  ⟨_, rfl, rfl, List.mem_singleton.mpr rfl, rfl, rfl⟩

end PcpConnector
