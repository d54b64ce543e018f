import PcpClient.AttemptBounds
import PcpClient.ConnectorMachine

/-!
ConnectorBase::connect(), which v2::Connector inherits: one thread that calls it, and the
Connection with its endpoint. The callbacks of a v2 connector write none of these members.
-/
namespace PcpBaseConnector
open PcpTransitions PcpConnectAttempts PcpEndpoint PcpAttemptBounds
open PcpConnection hiding Action
open PcpConnector (Outcome)

inductive BasePc where
  | idle | construct | entering | connecting
  deriving DecidableEq, Repr

structure BaseConnector where
  created : Bool
  network : System
  maxConnectAttempts : Int
  client : BasePc
  outcome : Option Outcome

/-- What the constructor of v2::Connector makes of the URI of a broker, which is not empty. -/
def brokerWsUri (clientType broker : String) : String :=
  broker ++ ((if broker.endsWith "/" then "" else "/") ++ clientType)

def BaseConnector.create (brokerWsUris : List String) (clientType : String)
    (pongTimeoutsBeforeRetry : Nat) : BaseConnector where
  created := false
  network := System.create (brokerWsUris.map (brokerWsUri clientType)) pongTimeoutsBeforeRetry
  maxConnectAttempts := 0
  client := .idle
  outcome := none

def BaseConnector.finish (s : BaseConnector) (o : Outcome) : BaseConnector :=
  { s with client := .idle, outcome := some o }

def BaseConnector.callConnect (s : BaseConnector) (maxConnectAttempts : Int) : BaseConnector :=
  { s with
    maxConnectAttempts
    client := if s.created then .entering else .construct
    outcome := none }

/-- The constructor of Connection and the setters of its callbacks. -/
def BaseConnector.construct (s : BaseConnector) (ok : Bool) : BaseConnector :=
  if ok then { s with created := true, client := .entering } else s.finish .configError

def converted : ConnectResult → Outcome
  | .returned => .returned
  | .processingError | .configError => .configError
  | .fatalError attempts => .fatalError attempts
  | .otherException => .otherException

/-- Which steps of the Connection are taken where connect() is: its own inside
    Connection::connect(), those of the other threads everywhere. -/
def BaseConnector.permits (s : BaseConnector) : PcpConnection.Action → Bool
  | .callConnect _ => false
  | .pass | .poll | .retrySleep _ | .beginAttempt | .getConnection _ | .endpointConnect _
  | .waitEnds _ | .recheck => decide (s.client = .connecting)
  | .closeEnter .client | .closeEndpoint .client _ | .closeWrite .client => false
  | _ => true

inductive Action where
  | callConnect (maxConnectAttempts : Int)
  | construct (ok : Bool)
  | enterConnect
  | connectEnds
  | network (a : PcpConnection.Action)
  deriving DecidableEq, Repr

def BaseConnector.step (s : BaseConnector) : Action → Option BaseConnector
  | .callConnect n => if s.client = .idle then some (s.callConnect n) else none
  | .construct ok => if s.client = .construct then some (s.construct ok) else none
  | .enterConnect =>
    if s.client = .entering then
      (s.network.step (.callConnect s.maxConnectAttempts)).map fun n =>
        { s with network := n, client := .connecting }
    else none
  | .connectEnds =>
    if s.client = .connecting ∧ s.network.1.pc = .idle then
      s.network.1.result.map fun r => s.finish (converted r)
    else none
  | .network a =>
    if s.permits a then (s.network.step a).map fun n => { s with network := n } else none

theorem base_cases {s t : BaseConnector} {a : Action} : s.step a = some t →
    match a with
    | .callConnect n => s.client = .idle ∧ t = s.callConnect n
    | .construct ok => s.client = .construct ∧ t = s.construct ok
    | .enterConnect =>
      s.client = .entering ∧ ∃ n, s.network.step (.callConnect s.maxConnectAttempts) = some n ∧
        t = { s with network := n, client := .connecting }
    | .connectEnds =>
      s.client = .connecting ∧ s.network.1.pc = .idle ∧
        ∃ r, s.network.1.result = some r ∧ t = s.finish (converted r)
    | .network a =>
      s.permits a = true ∧ ∃ n, s.network.step a = some n ∧ t = { s with network := n } := by
  intro next
  cases a <;> simp only [BaseConnector.step] at next
  case enterConnect =>
    obtain ⟨entering, moves⟩ := Option.ite_none_right_eq_some.mp next
    obtain ⟨n, inner, same⟩ := Option.map_eq_some_iff.mp moves
    exact ⟨entering, n, inner, same.symm⟩
  case connectEnds =>
    obtain ⟨⟨connecting, finished⟩, moves⟩ := Option.ite_none_right_eq_some.mp next
    obtain ⟨r, result, same⟩ := Option.map_eq_some_iff.mp moves
    exact ⟨connecting, finished, r, result, same.symm⟩
  case network a =>
    obtain ⟨permitted, moves⟩ := Option.ite_none_right_eq_some.mp next
    obtain ⟨n, inner, same⟩ := Option.map_eq_some_iff.mp moves
    exact ⟨permitted, n, inner, same.symm⟩
  all_goals
    obtain ⟨place, same⟩ := Option.ite_none_right_eq_some.mp next
    exact ⟨place, (Option.some.inj same).symm⟩

def Possible (n : Int) : Outcome → Prop
  | .returned | .configError | .otherException => True
  | .fatalError attempts => n ≠ 0 ∧ attempts = allowed n
  | .associationError _ | .associationResponseFailure _ => False

structure Bounded (s : BaseConnector) : Prop where
  persevering : Persevering s.network.1
  inside : s.client = .connecting →
    s.network.1.frame.maxConnectAttempts = s.maxConnectAttempts
  outcome : ∀ o, s.outcome = some o → Possible s.maxConnectAttempts o

theorem permits_single {s : BaseConnector} {a : PcpConnection.Action}
    (permitted : s.permits a = true) : isCallConnect a = false := by
  cases a with
  | callConnect n => cases permitted
  | _ => rfl

theorem bounded_step {s t : BaseConnector} {a : Action} (bounded : Bounded s)
    (next : s.step a = some t) : Bounded t := by
  have moved := base_cases next
  cases a with
  | callConnect n =>
    obtain ⟨_, rfl⟩ := moved
    refine ⟨bounded.persevering, fun inside => ?_, fun o outcome => by cases outcome⟩
    simp only [BaseConnector.callConnect] at inside
    split at inside <;> cases inside
  | construct ok =>
    obtain ⟨_, rfl⟩ := moved
    cases ok with
    | true => exact ⟨bounded.persevering, fun inside => (by cases inside), bounded.outcome⟩
    | false =>
      refine ⟨bounded.persevering, fun inside => (by cases inside), fun o outcome => ?_⟩
      obtain rfl := Option.some.inj outcome
      trivial
  | enterConnect =>
    obtain ⟨_, n, inner, rfl⟩ := moved
    have calls := (system_step_iff.mp inner).1
    obtain ⟨_, entered⟩ := step_cases calls
    exact ⟨persevering_step bounded.persevering calls, fun _ => by rw [entered]; rfl,
      bounded.outcome⟩
  | connectEnds =>
    obtain ⟨connecting, finished, r, result, rfl⟩ := moved
    refine ⟨bounded.persevering, fun inside => (by cases inside), fun o outcome => ?_⟩
    obtain rfl := Option.some.inj outcome
    cases r with
    | fatalError attempts =>
      have gaveUp := (bounded.persevering.gaveUp finished attempts result).1
      rwa [bounded.inside connecting] at gaveUp
    | returned | processingError | configError | otherException => trivial
  | network a =>
    obtain ⟨permitted, n, inner, rfl⟩ := moved
    have moves := (system_step_iff.mp inner).1
    exact ⟨persevering_step bounded.persevering moves,
      fun inside => (bound_kept (permits_single permitted) moves).trans (bounded.inside inside),
      bounded.outcome⟩

theorem bounded_reachable {brokerWsUris : List String} {clientType : String}
    {pongTimeoutsBeforeRetry : Nat} {trace : List Action} {s : BaseConnector}
    (path : run BaseConnector.step (.create brokerWsUris clientType pongTimeoutsBeforeRetry) trace =
      some s) : Bounded s :=
  run_keeps Bounded (fun _ _ _ held next => bounded_step held next)
    ⟨persevering_create _ pongTimeoutsBeforeRetry, fun inside => (by cases inside),
      fun o outcome => (by cases outcome)⟩ path

end PcpBaseConnector
