import PcpClient.Transitions
import PcpClient.Timings
import Mathlib.Algebra.Order.Ring.Int

/-!
The Connection class as a transition system over its members. One thread runs
connect(), any thread may run close(), and the event loop runs the handlers; a step
is one access to the shared members, so every interleaving is a run. The network is
not constrained here: a handler may run at any time.
-/
namespace PcpConnection
open PcpTransitions PcpTimings

inductive ConnectionState where
  | initialized | connecting | open | closing | closed
  deriving DecidableEq, Repr

def connectionMinIntervalMs : Nat := 200
def connectionBackoffMs : Nat := 2000
def connectionBackoffLimitMs : Nat := 33000
def connectionBackoffMultiplier : Nat := 2

def uint32 (n : Int) : Nat := (n % 2 ^ 32).toNat

/-- WS_Connection_Handle: which attempt of the endpoint an event belongs to. -/
abbrev Handle := Nat

/-- The thread that runs close(): the one that runs connect(), the event loop, or another. -/
inductive Caller where
  | client | eventLoop | other (thread : Nat)
  deriving DecidableEq, Repr

/-- close() past its state check: before endpoint_->close(), and after it succeeded. -/
inductive CloseStage where
  | endpointClose | writeState
  deriving DecidableEq, Repr

/-- The three calls of connectAndWait(): in the initialized branch, in the closed branch
    when the state was already closed on entry, and in the retry of the closed branch. -/
inductive AttemptSite where
  | first | again | retry
  deriving DecidableEq, Repr

/-- connectAndWait() from the call of connect_() to the wait for the open state. -/
inductive AttemptStage where
  | start | getConnection | endpointConnect | waiting
  deriving DecidableEq, Repr

/-- The next thing connect() does; idle when no call is running. -/
inductive ConnectPc where
  | idle | head | polling | backoff
  | attempt (site : AttemptSite) (stage : AttemptStage)
  | recheck | aborted
  deriving DecidableEq, Repr

structure ConnectFrame where
  maxConnectAttempts : Int
  previousCS : ConnectionState
  idx : Int
  tryAgain : Bool
  gotMaxBackoff : Bool
  deriving DecidableEq, Repr

inductive ConnectResult where
  | returned
  | fatalError (attempts : Int)
  | processingError
  | configError
  | otherException
  deriving DecidableEq, Repr

structure Connection where
  brokerWsUris : List String
  pongTimeoutsBeforeRetry : Nat
  timings : ConnectionTimings
  connectionHandle : Option Handle
  connectionState : ConnectionState
  connectionTargetIndex : Nat
  consecutivePongTimeouts : Nat
  connectionBackoffMs : Nat
  closeCall : Option (Caller × CloseStage)
  clock : Nat
  frame : ConnectFrame
  pc : ConnectPc
  result : Option ConnectResult

def Connection.create (brokerWsUris : List String) (pongTimeoutsBeforeRetry : Nat) :
    Connection where
  brokerWsUris := brokerWsUris
  pongTimeoutsBeforeRetry := pongTimeoutsBeforeRetry
  timings := {}
  connectionHandle := none
  connectionState := .initialized
  connectionTargetIndex := 0
  consecutivePongTimeouts := 0
  connectionBackoffMs := PcpConnection.connectionBackoffMs
  closeCall := none
  clock := 0
  frame := ⟨0, .initialized, 0, true, false⟩
  pc := .idle
  result := none

def Connection.getWsUri (c : Connection) : Option String :=
  c.brokerWsUris[c.connectionTargetIndex % c.brokerWsUris.length]?

def Connection.switchWsUri (c : Connection) : Connection :=
  { c with connectionTargetIndex := (c.connectionTargetIndex + 1) % 2 ^ 64 }

/-! connect() and what it calls. -/

def Connection.finish (c : Connection) (r : ConnectResult) : Connection :=
  { c with pc := .idle, result := some r }

def Connection.callConnect (c : Connection) (maxConnectAttempts : Int) : Connection :=
  { c with
    frame := ⟨maxConnectAttempts, c.connectionState, 0, true, false⟩
    pc := .head
    result := none }

def Connection.resetBackoff (c : Connection) : Connection :=
  { c with connectionBackoffMs := PcpConnection.connectionBackoffMs }

/-- `while (try_again)`, and what follows the loop. -/
def Connection.endPass (c : Connection) : Connection :=
  if c.frame.tryAgain then { c with pc := .head }
  else c.resetBackoff.finish (.fatalError c.frame.idx)

/-- What a pass does to the local variables before it looks at the state. -/
def Connection.nextFrame (c : Connection) : ConnectFrame where
  maxConnectAttempts := c.frame.maxConnectAttempts
  previousCS := c.frame.previousCS
  idx := c.frame.idx + 1
  tryAgain := if c.frame.maxConnectAttempts ≠ 0
    then decide (c.frame.idx + 1 < c.frame.maxConnectAttempts) else c.frame.tryAgain
  gotMaxBackoff := c.frame.gotMaxBackoff ||
    decide (connectionBackoffLimitMs ≤ uint32 (c.connectionBackoffMs * connectionBackoffMultiplier))

/-- A pass of the loop: the state is read once and decides the branch. The first branch
    asserts that the previous state was initialized too. -/
def Connection.pass (c : Connection) : Connection :=
  match c.connectionState with
  | .initialized =>
    if c.frame.previousCS = .initialized
      then { c with frame := c.nextFrame, pc := .attempt .first .start }
      else { c with frame := c.nextFrame, pc := .aborted }
  | .connecting =>
    { c with frame := { c.nextFrame with previousCS := .connecting }, pc := .polling }
  | .open =>
    if c.frame.previousCS = .open then { c with frame := c.nextFrame }.finish .returned
    else { c.resetBackoff with frame := c.nextFrame }.finish .returned
  | .closing =>
    { c with frame := { c.nextFrame with previousCS := .closing }, pc := .polling }
  | .closed =>
    if c.frame.previousCS = .closed
      then { c with
        frame := { c.nextFrame with previousCS := .connecting }
        pc := .attempt .again .start }
      else { c.switchWsUri with frame := c.nextFrame, pc := .backoff }

/-- A draw of std::uniform_int_distribution<int> { -500, 500 }. -/
def IsDraw (draw : Int) : Prop := -500 ≤ draw ∧ draw ≤ 500

instance (draw : Int) : Decidable (IsDraw draw) :=
  inferInstanceAs (Decidable (_ ∧ _))

def Connection.retrySleepMs (c : Connection) (draw : Int) : Int :=
  Int.bmod (uint32 (c.connectionBackoffMs + draw)) (2 ^ 32)

/-- `connection_backoff_ms_ *= static_cast<int>(draw / 1000 + MULTIPLIER)`. -/
def Connection.doubleBackoff (c : Connection) (draw : Int) : Connection :=
  { c with connectionBackoffMs :=
      uint32 (c.connectionBackoffMs * uint32 (draw.tdiv 1000 + connectionBackoffMultiplier)) }

/-- connect_(), up to the call of get_connection(). -/
def Connection.beginAttempt (c : Connection) (site : AttemptSite) : Connection :=
  { c with
    connectionState := .connecting
    timings := .reset c.clock
    pc := .attempt site .getConnection }

/-- What get_connection() does: it gives a connection, sets an error code, or lets an
    exception through, of onTlsInit() or another. -/
inductive ConnectionReply where
  | connection (hdl : Handle)
  | errorCode
  | tlsInitError
  | otherException
  deriving DecidableEq, Repr

def Connection.getConnection (c : Connection) (site : AttemptSite) :
    ConnectionReply → Connection
  | .connection hdl =>
    { c with connectionHandle := some hdl, pc := .attempt site .endpointConnect }
  | .errorCode => c.finish .processingError
  | .tlsInitError => c.finish .configError
  | .otherException => c.finish .otherException

def Connection.endpointConnect (c : Connection) (site : AttemptSite) (accepted : Bool) :
    Connection :=
  if accepted then { c with pc := .attempt site .waiting } else c.finish .processingError

/-- The wait of connectAndWait() ends, by its predicate or its timeout, and the branch
    that made the attempt goes on. -/
def Connection.waitEnds (c : Connection) (draw : Int) : AttemptSite → Connection
  | .first => { c with pc := .recheck }
  | .again => c.endPass
  | .retry =>
    if c.frame.tryAgain && !c.frame.gotMaxBackoff then (c.doubleBackoff draw).endPass
    else c.endPass

def Connection.recheck (c : Connection) : Connection :=
  if c.connectionState = .open then c.finish .returned else c.endPass

/-! close(). Its body runs under state_mutex_, which is held while closeCall is set. -/

def Connection.closeEnter (c : Connection) (caller : Caller) : Connection :=
  { c with
    timings := c.timings.setClosing c.clock
    closeCall := if c.connectionState ≠ .closed then some (caller, .endpointClose) else none }

def Connection.closeEndpoint (c : Connection) (caller : Caller) (ok : Bool) : Connection :=
  { c with closeCall := if ok then some (caller, .writeState) else none }

def Connection.closeWrite (c : Connection) : Connection :=
  { c with connectionState := .closing, closeCall := none }

/-! The event handlers; onClose() and onFail() take state_mutex_. The callbacks they
    run belong to the connector. -/

def Connection.onOpen (c : Connection) : Connection :=
  { c with timings := c.timings.setOpen c.clock, connectionState := .open }

def Connection.onClose (c : Connection) : Connection :=
  { c with timings := c.timings.setClosed c.clock false, connectionState := .closed }

def Connection.onFail (c : Connection) : Connection :=
  { c with timings := c.timings.setClosed c.clock true, connectionState := .closed }

def Connection.onPong (c : Connection) : Connection :=
  { c with consecutivePongTimeouts := 0 }

/-- The counter is advanced; the handler then calls close() if `pongTimeoutCloses`. -/
def Connection.onPongTimeout (c : Connection) : Connection :=
  { c with consecutivePongTimeouts := uint32 (c.consecutivePongTimeouts + 1) }

def Connection.pongTimeoutCloses (c : Connection) : Bool :=
  decide (c.pongTimeoutsBeforeRetry ≤ c.consecutivePongTimeouts)

def Connection.onPreTCPInit (c : Connection) : Connection :=
  { c with timings := { c.timings with tcpPreInit := c.clock } }

def Connection.onPostTCPInit (c : Connection) : Connection :=
  { c with timings := { c.timings with tcpPostInit := c.clock } }

inductive Action where
  | callConnect (maxConnectAttempts : Int)
  | pass
  | poll
  | retrySleep (draw : Int)
  | beginAttempt
  | getConnection (reply : ConnectionReply)
  | endpointConnect (accepted : Bool)
  | waitEnds (draw : Int)
  | recheck
  | closeEnter (caller : Caller)
  | closeEndpoint (caller : Caller) (ok : Bool)
  | closeWrite (caller : Caller)
  | onOpen (hdl : Handle)
  | onClose (hdl : Handle)
  | onFail (hdl : Handle)
  | onPong (hdl : Handle)
  | onPongTimeout (hdl : Handle)
  | onPreTCPInit (hdl : Handle)
  | onPostTCPInit (hdl : Handle)
  | tick
  deriving DecidableEq, Repr

def Connection.step (c : Connection) : Action → Option Connection
  | .callConnect n => if c.pc = .idle then some (c.callConnect n) else none
  | .pass => if c.pc = .head then some c.pass else none
  | .poll => if c.pc = .polling then some c.endPass else none
  | .retrySleep draw =>
    if c.pc = .backoff ∧ IsDraw draw then some { c with pc := .attempt .retry .start } else none
  | .beginAttempt =>
    match c.pc with
    | .attempt site .start => some (c.beginAttempt site)
    | _ => none
  | .getConnection reply =>
    match c.pc with
    | .attempt site .getConnection => some (c.getConnection site reply)
    | _ => none
  | .endpointConnect accepted =>
    match c.pc with
    | .attempt site .endpointConnect => some (c.endpointConnect site accepted)
    | _ => none
  | .waitEnds draw =>
    match c.pc with
    | .attempt site .waiting => if IsDraw draw then some (c.waitEnds draw site) else none
    | _ => none
  | .recheck => if c.pc = .recheck then some c.recheck else none
  | .closeEnter caller => if c.closeCall = none then some (c.closeEnter caller) else none
  | .closeEndpoint caller ok =>
    if c.closeCall = some (caller, .endpointClose) then some (c.closeEndpoint caller ok) else none
  | .closeWrite caller =>
    if c.closeCall = some (caller, .writeState) then some c.closeWrite else none
  | .onOpen _ => some c.onOpen
  | .onClose _ => if c.closeCall = none then some c.onClose else none
  | .onFail _ => if c.closeCall = none then some c.onFail else none
  | .onPong _ => some c.onPong
  | .onPongTimeout _ => some c.onPongTimeout
  | .onPreTCPInit _ => some c.onPreTCPInit
  | .onPostTCPInit _ => some c.onPostTCPInit
  | .tick => some { c with clock := c.clock + 1 }

theorem step_cases {c d : Connection} {a : Action} : c.step a = some d →
    match a with
    | .callConnect n => c.pc = .idle ∧ d = c.callConnect n
    | .pass => c.pc = .head ∧ d = c.pass
    | .poll => c.pc = .polling ∧ d = c.endPass
    | .retrySleep draw =>
      c.pc = .backoff ∧ IsDraw draw ∧ d = { c with pc := .attempt .retry .start }
    | .beginAttempt => ∃ site, c.pc = .attempt site .start ∧ d = c.beginAttempt site
    | .getConnection reply =>
      ∃ site, c.pc = .attempt site .getConnection ∧ d = c.getConnection site reply
    | .endpointConnect accepted =>
      ∃ site, c.pc = .attempt site .endpointConnect ∧ d = c.endpointConnect site accepted
    | .waitEnds draw =>
      ∃ site, c.pc = .attempt site .waiting ∧ IsDraw draw ∧ d = c.waitEnds draw site
    | .recheck => c.pc = .recheck ∧ d = c.recheck
    | .closeEnter caller => c.closeCall = none ∧ d = c.closeEnter caller
    | .closeEndpoint caller ok =>
      c.closeCall = some (caller, .endpointClose) ∧ d = c.closeEndpoint caller ok
    | .closeWrite caller => c.closeCall = some (caller, .writeState) ∧ d = c.closeWrite
    | .onOpen _ => d = c.onOpen
    | .onClose _ => c.closeCall = none ∧ d = c.onClose
    | .onFail _ => c.closeCall = none ∧ d = c.onFail
    | .onPong _ => d = c.onPong
    | .onPongTimeout _ => d = c.onPongTimeout
    | .onPreTCPInit _ => d = c.onPreTCPInit
    | .onPostTCPInit _ => d = c.onPostTCPInit
    | .tick => d = { c with clock := c.clock + 1 } := by
  intro next
  cases a <;> simp only [Connection.step] at next
  case beginAttempt | getConnection | endpointConnect =>
    split at next
    · exact ⟨_, ‹_›, (Option.some.inj next).symm⟩
    · cases next
  case waitEnds =>
    split at next
    · obtain ⟨draw, same⟩ := Option.ite_none_right_eq_some.mp next
      exact ⟨_, ‹_›, draw, (Option.some.inj same).symm⟩
    · cases next
  case retrySleep =>
    obtain ⟨⟨backoff, draw⟩, same⟩ := Option.ite_none_right_eq_some.mp next
    exact ⟨backoff, draw, (Option.some.inj same).symm⟩
  case onOpen | onPong | onPongTimeout | onPreTCPInit | onPostTCPInit | tick =>
    exact (Option.some.inj next).symm
  all_goals
    obtain ⟨enabled, same⟩ := Option.ite_none_right_eq_some.mp next
    exact ⟨enabled, (Option.some.inj same).symm⟩

end PcpConnection
