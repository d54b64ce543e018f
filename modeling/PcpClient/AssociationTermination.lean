import PcpClient.ThreadProgress

/-!
v1::Connector::connect(n) with a positive n comes to its end, whatever the network, the broker
and the handlers do. A connect(0) that waits inside the Connection for the close event of an
older connection, while its mutex keeps a handler from ending, may wait for good; a connect(n)
gives up after n passes and releases the mutex.
-/
namespace PcpAssociationTermination
open PcpTransitions PcpConnector PcpConnectorInvariants PcpEndpoint PcpEndpointCoherence
open PcpConnectAttempts PcpBackoff PcpDispatch PcpThreadProgress
open PcpConnectTermination hiding ownStep stepsLeft
open PcpConnection hiding Action

/-- The longest wait for the closed state: the timer is read between two sleeps of 100 ms. -/
def closeWaitMs : Nat := 5100

def waitMs (associationTimeoutMs : Nat) (s : Connector) : Action → Nat
  | .awaitEnds => closeWaitMs
  | .wake timedOut => if timedOut || s.session.settled then associationTimeoutMs else 0
  | _ => 0

def innerBlockedMs (wsConnectionTimeoutMs : Int) (s : Connector) : Action → Nat
  | .network b => blockedMs wsConnectionTimeoutMs s.network.1 b
  | _ => 0

/-- A run that begins with the call of connect(n) and has no other call in it. -/
structure ConnectorCall (cfg : Setup) (s : Connector) (n : Int) (trace : List Action)
    (t : Connector) : Prop where
  body : run (Connector.step cfg) s (.callConnect n :: trace) = some t
  single : ∀ a ∈ trace, ∀ m, a ≠ .callConnect m

def stepsLeft (s : Connector) : Nat :=
  match s.client with
  | .construct => 12
  | .readState => 11
  | .closing => 10
  | .inClose => 7 + closeLeft .client s.network.1.closeCall
  | .awaitClosed => 7
  | .wantLock => 6
  | .resetting => 5
  | .marking => 4
  | .entering => 3
  | .connecting => 2
  | .blocked => 1
  | .idle => 0

def waitsLeft (associationTimeoutMs : Nat) : ClientPc → Nat
  | .construct | .readState | .closing | .inClose | .awaitClosed =>
    closeWaitMs + associationTimeoutMs
  | .wantLock | .resetting | .marking | .entering | .connecting | .blocked => associationTimeoutMs
  | .idle => 0

def innerLeft (p : Prices) (n : Int) (s : Connector) : Nat :=
  match s.client with
  | .idle | .blocked => 0
  | .connecting => p.potential n s.network.1
  | _ => p.pass * n.toNat

section costs
variable {cfg : Setup} {s t : Connector} {a : Action}

theorem stepsLeft_same (client : t.client = s.client)
    (close : closeLeft .client t.network.1.closeCall = closeLeft .client s.network.1.closeCall) :
    stepsLeft t = stepsLeft s := by
  unfold stepsLeft
  rw [client, close]

theorem stepsLeft_connect (own : FromConnect a) (single : ∀ n, a ≠ .callConnect n)
    (next : s.step cfg a = some t) : stepsLeft t + (ownStep s a).toNat ≤ stepsLeft s := by
  have places := connect_places next
  cases a <;> simp only [FromConnect] at own
  case callConnect n => exact absurd rfl (single n)
  case construct | readState | connectEnds =>
    obtain ⟨here, there | there⟩ := places <;> simp [stepsLeft, here, there, ownStep]
  case wake timedOut =>
    obtain ⟨here, there⟩ := places
    cases concludes : timedOut || s.session.settled <;>
      simp [stepsLeft, here, there, ownStep, concludes]
  all_goals
    obtain ⟨here, there⟩ := places
    simp [stepsLeft, here, there, ownStep]

theorem waitsLeft_connect (associationTimeoutMs : Nat) (own : FromConnect a)
    (single : ∀ n, a ≠ .callConnect n) (next : s.step cfg a = some t) :
    waitsLeft associationTimeoutMs t.client + waitMs associationTimeoutMs s a ≤
      waitsLeft associationTimeoutMs s.client := by
  have places := connect_places next
  cases a <;> simp only [FromConnect] at own
  case callConnect n => exact absurd rfl (single n)
  case construct | readState | connectEnds =>
    obtain ⟨here, there | there⟩ := places <;> simp [here, there, waitsLeft, waitMs]
  case wake timedOut =>
    obtain ⟨here, there⟩ := places
    cases concludes : timedOut || s.session.settled <;>
      simp [here, there, waitsLeft, waitMs, concludes]
  all_goals
    obtain ⟨here, there⟩ := places
    simp [here, there, waitsLeft, waitMs, Nat.add_comm]

theorem stepsLeft_network {b : PcpConnection.Action} {n : System} (permitted : s.permits b = true)
    (next : s.network.step b = some n) :
    stepsLeft (s.afterNetwork n b) + (ownStep s (.network b)).toNat ≤ stepsLeft s := by
  have inner := (system_step_iff.mp next).1
  cases b with
  | closeEnter caller =>
    cases caller with
    | client =>
      simp only [Connector.permits, Bool.and_eq_true, decide_eq_true_eq] at permitted
      rcases closeLeft_enter inner with free | left
      · simp [stepsLeft, Connector.afterNetwork, clientAfter, free, permitted.1, ownStep]
      · have inside : n.1.closeCall ≠ none := fun free => by simp [free, closeLeft] at left
        simp [stepsLeft, Connector.afterNetwork, clientAfter, inside, permitted.1, ownStep, left]
    | eventLoop => exact Nat.le_of_eq (stepsLeft_same rfl (closeLeft_other inner (by simp)))
    | other thread => cases permitted
  | closeEndpoint caller ok =>
    cases caller with
    | client =>
      have here := of_decide_eq_true permitted
      obtain ⟨before, after⟩ := closeLeft_endpoint inner
      cases ok <;> simp [stepsLeft, Connector.afterNetwork, clientAfter, here, ownStep, before,
        after]
    | eventLoop => exact Nat.le_of_eq (stepsLeft_same rfl (closeLeft_other inner (by simp)))
    | other thread => cases permitted
  | closeWrite caller =>
    cases caller with
    | client =>
      have here := of_decide_eq_true permitted
      simp [stepsLeft, Connector.afterNetwork, clientAfter, here, ownStep, closeLeft_write inner]
    | eventLoop => exact Nat.le_of_eq (stepsLeft_same rfl (closeLeft_other inner (by simp)))
    | other thread => cases permitted
  | _ => exact Nat.le_of_eq (stepsLeft_same rfl (closeLeft_other inner (by simp)))

theorem waitsLeft_network (associationTimeoutMs : Nat) {b : PcpConnection.Action} (n : System)
    (permitted : s.permits b = true) :
    waitsLeft associationTimeoutMs (s.afterNetwork n b).client ≤
      waitsLeft associationTimeoutMs s.client := by
  change waitsLeft associationTimeoutMs (clientAfter s.client n b) ≤ _
  rcases clientAfter_cases n permitted with same | ⟨here | here, there | there | there⟩
  · rw [same]
  all_goals
    rw [there]
    simp [here, waitsLeft]

theorem innerLeft_connect (p : Prices) (own : FromConnect a) (single : ∀ n, a ≠ .callConnect n)
    (next : s.step cfg a = some t) : innerLeft p s.maxConnectAttempts t ≤
      innerLeft p s.maxConnectAttempts s := by
  have places := connect_places next
  cases a <;> simp only [FromConnect] at own
  case callConnect n => exact absurd rfl (single n)
  case construct | readState | connectEnds =>
    obtain ⟨here, there | there⟩ := places <;> simp [innerLeft, here, there]
  case wake timedOut =>
    obtain ⟨here, there⟩ := places
    cases concludes : timedOut || s.session.settled <;> simp [innerLeft, here, there, concludes]
  case enterConnect =>
    obtain ⟨here, n, inner, rfl⟩ := connector_cases next
    obtain ⟨_, calls⟩ := step_cases (system_step_iff.mp inner).1
    simp only [innerLeft, here, calls]
    rw [potential_running p _ (by simp [Connection.callConnect])]
    simp [Connection.callConnect, passesLeft, Prices.rest]
  all_goals
    obtain ⟨here, there⟩ := places
    simp [innerLeft, here, there]

theorem innerLeft_network (p : Prices) {n : Int} {b : PcpConnection.Action} {q : System}
    (inCall : s.client = .connecting → InCall n s.network.1) (permitted : s.permits b = true)
    (next : s.network.step b = some q) :
    innerLeft p n (s.afterNetwork q b) + p.price b ≤ innerLeft p n s := by
  have inner := (system_step_iff.mp next).1
  by_cases connecting : s.client = .connecting
  · have there : (s.afterNetwork q b).client = .connecting := by
      rcases clientAfter_cases q permitted with same | ⟨here | here, _⟩
      · exact same.trans connecting
      · simp [connecting] at here
      · simp [connecting] at here
    obtain ⟨past, account⟩ := (inCall connecting).accounted
    have single : isCallConnect b = false := by
      cases b with
      | callConnect m => cases permitted
      | _ => rfl
    have paid := paid_step p account.more single inner
    simp only [innerLeft, connecting, there]
    exact paid
  · have network := (network_or_client permitted).resolve_right connecting
    rw [price_network p network, Nat.add_zero]
    rcases clientAfter_cases q permitted with same | ⟨here | here, there | there | there⟩
    · have kept : (s.afterNetwork q b).client = s.client := same
      unfold innerLeft
      rw [kept]
      split
      · exact Nat.le_refl _
      · exact Nat.le_refl _
      · exact absurd ‹_› connecting
      · exact Nat.le_refl _
    all_goals
      have moved : (s.afterNetwork q b).client = _ := there
      simp [innerLeft, here, moved]

end costs

structure Calling (n : Int) (s : Connector) : Prop where
  attempts : s.maxConnectAttempts = n
  capped : Capped s.network.1
  inCall : s.client = .connecting → InCall n s.network.1

theorem conclude_attempts (s : Connector) :
    s.conclude.maxConnectAttempts = s.maxConnectAttempts := by
  unfold Connector.conclude
  split
  · rfl
  · split
    · rfl
    · split <;> rfl

theorem connect_attempts {cfg : Setup} {s t : Connector} {a : Action} (own : FromConnect a)
    (single : ∀ n, a ≠ .callConnect n) (next : s.step cfg a = some t) :
    t.maxConnectAttempts = s.maxConnectAttempts := by
  have moved := connector_cases next
  cases a <;> simp only [FromConnect] at own
  case callConnect n => exact absurd rfl (single n)
  case construct ok => obtain ⟨_, rfl⟩ := moved; cases ok <;> rfl
  case readState => obtain ⟨_, rfl⟩ := moved; unfold Connector.readState; split <;> rfl
  case lockSession => obtain ⟨_, _, rfl⟩ := moved; rfl
  case enterConnect => obtain ⟨_, n, _, rfl⟩ := moved; rfl
  case connectEnds =>
    obtain ⟨_, _, r, _, rfl⟩ := moved
    cases r with
    | returned =>
      simp only [Connector.connectEnds]
      split
      · exact conclude_attempts s
      · rfl
    | _ => rfl
  case wake timedOut =>
    obtain ⟨_, _, rfl⟩ := moved
    unfold Connector.wake
    split
    · exact conclude_attempts _
    · rfl
  all_goals
    obtain ⟨_, rfl⟩ := moved
    rfl

theorem settle_attempts (s : Connector) (cfg : Setup) (success : Bool) (error : String) :
    (s.settle cfg success error).maxConnectAttempts = s.maxConnectAttempts := by
  unfold Connector.settle
  split <;> rfl

theorem respond_attempts (s : Connector) (cfg : Setup) (chunks : PcpParsedChunks.ParsedChunks) :
    (s.respond cfg chunks).maxConnectAttempts = s.maxConnectAttempts := by
  unfold Connector.respond
  split
  · rfl
  · dsimp only
    split
    · rfl
    · split
      · exact settle_attempts _ cfg true _
      · split
        · exact settle_attempts _ cfg false _
        · rfl

theorem eventLoop_attempts {cfg : Setup} {s t : Connector} {a : Action} (own : FromEventLoop a)
    (next : s.step cfg a = some t) : t.maxConnectAttempts = s.maxConnectAttempts := by
  have moved := connector_cases next
  cases a <;> simp only [FromEventLoop] at own
  case associateSession => obtain ⟨_, _, _, _, rfl⟩ := moved; rfl
  case closeTimings => obtain ⟨_, rfl⟩ := moved; rfl
  case message => obtain ⟨_, _, rfl⟩ := moved; rfl
  case testInProgress => obtain ⟨_, _, rfl⟩ | ⟨_, _, rfl⟩ := moved <;> rfl
  case report => obtain ⟨_, _, _, rfl⟩ := moved; rfl
  case respond =>
    obtain ⟨chunks, _, _, rfl⟩ := moved
    exact respond_attempts s cfg chunks
  case responseCallbackEnds throws => obtain ⟨_, rfl⟩ := moved; cases throws <;> rfl
  case userCallbackEnds throws =>
    obtain ⟨called, _, rfl⟩ := moved
    unfold Connector.userCallbackEnds
    split <;> rfl
  case cite =>
    obtain ⟨c, _, _, rfl⟩ := moved
    unfold Connector.cite
    split <;> rfl

section call
variable {cfg : Setup} {n : Int} (positive : 0 < n) {s t : Connector} {a : Action}
include positive

theorem calling_step (calling : Calling n s) (single : ∀ m, a ≠ .callConnect m)
    (next : s.step cfg a = some t) : Calling n t := by
  rcases thread_cases a with ⟨b, rfl⟩ | own | own
  · obtain ⟨permitted, q, inner, rfl⟩ := connector_cases next
    have moved := (system_step_iff.mp inner).1
    refine ⟨calling.attempts, capped_step calling.capped moved, fun there => ?_⟩
    have here := clientAfter_same permitted there (by simp)
    refine inCall_step positive (calling.inCall here) ?_ moved
    cases b with
    | callConnect m => cases permitted
    | _ => rfl
  · have attempts := (connect_attempts own single next).trans calling.attempts
    by_cases enters : a = .enterConnect
    · subst enters
      obtain ⟨_, q, inner, rfl⟩ := connector_cases next
      obtain ⟨_, entered⟩ := step_cases (system_step_iff.mp inner).1
      rw [calling.attempts] at entered
      have capped := capped_step calling.capped (system_step_iff.mp inner).1
      exact ⟨attempts, capped, fun _ => ⟨⟨[], entered ▸ accounted_start positive⟩, capped⟩⟩
    · have same := (connect_network own next).resolve_right fun calls => enters calls.1
      exact ⟨attempts, same ▸ calling.capped,
        fun there => absurd (connect_enters own next there) enters⟩
  · obtain ⟨client, network, _⟩ := eventLoop_keeps own next
    refine ⟨(eventLoop_attempts own next).trans calling.attempts, ?_, ?_⟩
    · rw [network]
      exact calling.capped
    · rw [client, network]
      exact calling.inCall

end call

theorem left_eventLoop {cfg : Setup} {s t : Connector} {a : Action} (own : FromEventLoop a)
    (next : s.step cfg a = some t) :
    stepsLeft t = stepsLeft s ∧ ∀ (p : Prices) (n : Int), innerLeft p n t = innerLeft p n s := by
  obtain ⟨client, network, _⟩ := eventLoop_keeps own next
  exact ⟨stepsLeft_same client (by rw [network]), fun p n => by
    unfold innerLeft
    rw [client, network]⟩

def totalSteps (s : Connector) (a : Action) : Nat := (ownStep s a || innerStep a).toNat

def totalMs (wsConnectionTimeoutMs : Int) (associationTimeoutMs : Nat) (s : Connector)
    (a : Action) : Nat :=
  innerBlockedMs wsConnectionTimeoutMs s a + waitMs associationTimeoutMs s a

theorem steps_paid {cfg : Setup} {n : Int} {s t : Connector} {a : Action} (calling : Calling n s)
    (single : ∀ m, a ≠ .callConnect m) (next : s.step cfg a = some t) :
    stepsLeft t + innerLeft ⟨1, 0, 0, 0⟩ n t + totalSteps s a ≤
      stepsLeft s + innerLeft ⟨1, 0, 0, 0⟩ n s := by
  rcases thread_cases a with ⟨b, rfl⟩ | own | own
  · obtain ⟨permitted, q, inner, rfl⟩ := connector_cases next
    have steps := stepsLeft_network permitted inner
    have inside := innerLeft_network ⟨1, 0, 0, 0⟩ calling.inCall permitted inner
    have price : (innerStep (.network b)).toNat ≤ Prices.price ⟨1, 0, 0, 0⟩ b := by
      cases b <;> simp [innerStep, Prices.price, PcpConnectTermination.ownStep]
    have total : totalSteps s (.network b) ≤
        (ownStep s (.network b)).toNat + (innerStep (.network b)).toNat := by
      unfold totalSteps
      cases ownStep s (.network b) <;> cases innerStep (.network b) <;> decide
    omega
  · have steps := stepsLeft_connect own single next
    have inside := innerLeft_connect ⟨1, 0, 0, 0⟩ own single next
    have outer : innerStep a = false := by cases a <;> first | rfl | exact own.elim
    rw [calling.attempts] at inside
    simp only [totalSteps, outer, Bool.or_false]
    omega
  · obtain ⟨steps, inside⟩ := left_eventLoop own next
    have other : totalSteps s a = 0 := by cases a <;> first | rfl | exact own.elim
    rw [steps, inside, other]
    exact Nat.le_refl _

theorem ms_paid (wsConnectionTimeoutMs : Int) (associationTimeoutMs : Nat) {cfg : Setup} {n : Int}
    {s t : Connector} {a : Action} (calling : Calling n s) (single : ∀ m, a ≠ .callConnect m)
    (next : s.step cfg a = some t) :
    waitsLeft associationTimeoutMs t.client +
        innerLeft ⟨0, 200, 32500, wsConnectionTimeoutMs.toNat⟩ n t +
        totalMs wsConnectionTimeoutMs associationTimeoutMs s a ≤
      waitsLeft associationTimeoutMs s.client +
        innerLeft ⟨0, 200, 32500, wsConnectionTimeoutMs.toNat⟩ n s := by
  rcases thread_cases a with ⟨b, rfl⟩ | own | own
  · obtain ⟨permitted, q, inner, rfl⟩ := connector_cases next
    have waits := waitsLeft_network associationTimeoutMs q permitted
    have inside := innerLeft_network ⟨0, 200, 32500, wsConnectionTimeoutMs.toNat⟩ calling.inCall
      permitted inner
    have price := blockedMs_price wsConnectionTimeoutMs calling.capped
      (system_step_iff.mp inner).1
    simp only [totalMs, innerBlockedMs, waitMs]
    omega
  · have waits := waitsLeft_connect associationTimeoutMs own single next
    have inside := innerLeft_connect ⟨0, 200, 32500, wsConnectionTimeoutMs.toNat⟩ own single next
    have outer : innerBlockedMs wsConnectionTimeoutMs s a = 0 := by
      cases a <;> first | rfl | exact own.elim
    rw [calling.attempts] at inside
    simp only [totalMs, outer, Nat.zero_add]
    omega
  · obtain ⟨client, _⟩ := eventLoop_keeps own next
    obtain ⟨_, inside⟩ := left_eventLoop own next
    have other : totalMs wsConnectionTimeoutMs associationTimeoutMs s a = 0 := by
      cases a <;> first | rfl | exact own.elim
    rw [client, inside, other]
    exact Nat.le_refl _

theorem capped_network {cfg : Setup} {s t : Connector} {a : Action} (capped : Capped s.network.1)
    (next : s.step cfg a = some t) : Capped t.network.1 := by
  rcases thread_cases a with ⟨b, rfl⟩ | own | own
  · obtain ⟨_, q, inner, rfl⟩ := connector_cases next
    exact capped_step capped (system_step_iff.mp inner).1
  · rcases connect_network own next with same | ⟨_, calls⟩
    · rw [same]
      exact capped
    · exact capped_step capped (system_step_iff.mp calls).1
  · rw [(eventLoop_keeps own next).2.1]
    exact capped

theorem calling_start {cfg : Setup} {brokerWsUris : List String} {pongTimeoutsBeforeRetry : Nat}
    {earlier : List Action} {s m : Connector} {n : Int}
    (reached : run (Connector.step cfg) (.create brokerWsUris pongTimeoutsBeforeRetry) earlier =
      some s) (calls : s.step cfg (.callConnect n) = some m) : Calling n m := by
  have capped : Capped s.network.1 := run_keeps (fun s => Capped s.network.1)
    (fun _ _ _ capped next => capped_network capped next)
    ⟨List.mem_cons_self, fun retries _ => by cases retries⟩ reached
  refine ⟨?_, capped_network capped calls, fun there => ?_⟩
  · obtain ⟨_, rfl⟩ := connector_cases calls
    rfl
  · cases connect_enters (by exact trivial) calls there

theorem calling_left {cfg : Setup} {s m : Connector} {n : Int}
    (calls : s.step cfg (.callConnect n) = some m) (p : Prices) (associationTimeoutMs : Nat) :
    stepsLeft m ≤ 12 ∧ innerLeft p n m = p.pass * n.toNat ∧
      waitsLeft associationTimeoutMs m.client = closeWaitMs + associationTimeoutMs := by
  obtain ⟨_, client | client⟩ := connect_places calls <;>
    simp [stepsLeft, innerLeft, waitsLeft, client]

theorem call_spends {cfg : Setup} {n : Int} (positive : 0 < n) {m t : Connector}
    {trace : List Action} (first : Calling n m) (single : ∀ a ∈ trace, ∀ k, a ≠ .callConnect k)
    (body : run (Connector.step cfg) m trace = some t) (potential : Connector → Nat)
    (cost : Connector → Action → Nat)
    (pays : ∀ s a u, Calling n s → (∀ k, a ≠ .callConnect k) → s.step cfg a = some u →
      potential u + cost s a ≤ potential s) :
    potential t + spent (Connector.step cfg) cost m trace ≤ potential m :=
  run_paid_under (fun _ a => ∀ k, a ≠ .callConnect k) (Calling n) potential cost
    (fun _ _ _ calling single next => calling_step positive calling single next) pays trace m t
    first (throughout_of_forall trace m single) body

/-- connect(n) ends: it takes 12 steps at most besides those of n passes of Connection::connect(),
    it sleeps and waits as long as these, the close and the association may last, and until it
    ends it can go on, unless the process has ended, or a handler holds the mutex that it takes
    next, and can go on. -/
theorem associating_connect_ends (cfg : Setup) (brokerWsUris : List String)
    (pongTimeoutsBeforeRetry : Nat) (wsConnectionTimeoutMs : Int) (associationTimeoutMs : Nat)
    {earlier trace : List Action} {s t : Connector} {n : Int}
    (reached : run (Connector.step cfg) (.create brokerWsUris pongTimeoutsBeforeRetry) earlier =
      some s) (positive : 0 < n) (call : ConnectorCall cfg s n trace t) :
    spent (Connector.step cfg) totalSteps s (.callConnect n :: trace) ≤ 6 * n.toNat + 12 ∧
      spent (Connector.step cfg) (totalMs wsConnectionTimeoutMs associationTimeoutMs) s
          (.callConnect n :: trace) ≤
        (32500 + wsConnectionTimeoutMs.toNat) * n.toNat + (closeWaitMs + associationTimeoutMs) ∧
      (t.client ≠ .idle → t.loop.isDead = false →
        ∃ a u, t.step cfg a = some u ∧ ((ownStep t a || innerStep a) = true ∨
          handlerHolds t = true ∧ handlerStep a = true)) := by
  obtain ⟨m, calls, body⟩ := run_cons_iff.mp call.body
  have first := calling_start reached calls
  refine ⟨?_, ?_, fun active alive => ?_⟩
  · have paid := call_spends positive first call.single body
      (fun s => stepsLeft s + innerLeft ⟨1, 0, 0, 0⟩ n s) totalSteps
      fun _ _ _ calling single next => steps_paid calling single next
    obtain ⟨steps, inner, _⟩ := calling_left calls ⟨1, 0, 0, 0⟩ 0
    have pass : Prices.pass ⟨1, 0, 0, 0⟩ = 6 := rfl
    have entry : totalSteps s (.callConnect n) = 0 := rfl
    rw [pass] at inner
    rw [spent_cons calls, entry]
    omega
  · have paid := call_spends positive first call.single body
      (fun s => waitsLeft associationTimeoutMs s.client +
        innerLeft ⟨0, 200, 32500, wsConnectionTimeoutMs.toNat⟩ n s)
      (totalMs wsConnectionTimeoutMs associationTimeoutMs)
      fun _ _ _ calling single next =>
        ms_paid wsConnectionTimeoutMs associationTimeoutMs calling single next
    obtain ⟨_, inner, waits⟩ := calling_left calls
      ⟨0, 200, 32500, wsConnectionTimeoutMs.toNat⟩ associationTimeoutMs
    have pass : Prices.pass ⟨0, 200, 32500, wsConnectionTimeoutMs.toNat⟩ =
        32500 + wsConnectionTimeoutMs.toNat := by
      simp only [Prices.pass]
      omega
    have entry : totalMs wsConnectionTimeoutMs associationTimeoutMs s (.callConnect n) = 0 := rfl
    rw [pass] at inner
    rw [spent_cons calls, entry]
    omega
  · have running := running_reachable (run_append_iff.mpr ⟨s, reached, call.body⟩)
    exact call_enabled alive cfg running active

theorem requested_session_ends : ∃ t,
    ConnectorCall (plainSetup fun _ => none) (.create ["wss://localhost:8142/pcp/"] 3) 1
        sessionRequested.tail t ∧
      spent (Connector.step (plainSetup fun _ => none)) totalSteps
        (.create ["wss://localhost:8142/pcp/"] 3) sessionRequested ≤ 18 ∧
      ∃ a u, t.step (plainSetup fun _ => none) a = some u ∧
        (ownStep t a || innerStep a) = true := by
  obtain ⟨t, path, idle, _, blocked, _⟩ := sessionRequested_waits (plainSetup fun _ => none)
  have call : ConnectorCall (plainSetup fun _ => none) (.create ["wss://localhost:8142/pcp/"] 3) 1
      sessionRequested.tail t := ⟨path, by simp [sessionRequested]⟩
  have reached : run (Connector.step (plainSetup fun _ => none))
      (.create ["wss://localhost:8142/pcp/"] 3) [] = some _ := rfl
  have ends := associating_connect_ends (plainSetup fun _ => none) ["wss://localhost:8142/pcp/"] 3
    5000 15000 reached (by decide) call
  obtain ⟨a, u, next, own | ⟨holds, _⟩⟩ := ends.2.2 (by simp [blocked]) (by rw [idle]; rfl)
  · exact ⟨t, call, ends.1, a, u, next, own⟩
  · simp [handlerHolds, blocked, idle, LoopPc.holdsSession] at holds

end PcpAssociationTermination
