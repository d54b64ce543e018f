import Mathlib.Data.Fintype.EquivFin
import PcpClient.ConnectTermination
import PcpClient.ConnectorInvariants

/-!
The two threads of v1::Connector, connect() and the event loop: in every reachable state of a
live process each can go on, or the other holds a mutex and can go on. A handler gives it back
in its next steps; connect() may go on polling.
-/
namespace PcpThreadProgress
open PcpTransitions PcpConnector PcpConnectorInvariants PcpEndpoint PcpEndpointCoherence
open PcpConnectAttempts PcpConnectOutcome PcpDispatch
open PcpConnectTermination hiding ownStep stepsLeft
open PcpConnection hiding Action

/-- The steps of connect() outside Connection::connect(). A wake-up that finds the predicate
    false belongs to the wait. -/
def ownStep (s : Connector) : Action → Bool
  | .construct _ | .readState | .awaitEnds | .lockSession | .resetSession | .setInProgress => true
  | .enterConnect | .connectEnds => true
  | .network (.closeEnter .client) | .network (.closeEndpoint .client _) => true
  | .network (.closeWrite .client) => true
  | .wake timedOut => timedOut || s.session.settled
  | _ => false

def innerStep : Action → Bool
  | .network b => PcpConnectTermination.ownStep b
  | _ => false

theorem connect_places {cfg : Setup} {s t : Connector} {a : Action} (next : s.step cfg a = some t) :
    match a with
    | .callConnect _ => s.client = .idle ∧ (t.client = .readState ∨ t.client = .construct)
    | .construct _ => s.client = .construct ∧ (t.client = .readState ∨ t.client = .idle)
    | .readState => s.client = .readState ∧ (t.client = .closing ∨ t.client = .wantLock)
    | .awaitEnds => s.client = .awaitClosed ∧ t.client = .wantLock
    | .lockSession => s.client = .wantLock ∧ t.client = .resetting
    | .resetSession => s.client = .resetting ∧ t.client = .marking
    | .setInProgress => s.client = .marking ∧ t.client = .entering
    | .enterConnect => s.client = .entering ∧ t.client = .connecting
    | .connectEnds => s.client = .connecting ∧ (t.client = .idle ∨ t.client = .blocked)
    | .wake timedOut =>
      s.client = .blocked ∧
        t.client = if timedOut || s.session.settled then .idle else .blocked
    | _ => True := by
  have moved := connector_cases next
  cases a with
  | callConnect n =>
    obtain ⟨here, rfl⟩ := moved
    refine ⟨here, ?_⟩
    simp only [Connector.callConnect]
    split
    · exact .inl rfl
    · exact .inr rfl
  | construct ok =>
    obtain ⟨here, rfl⟩ := moved
    cases ok with
    | true => exact ⟨here, .inl rfl⟩
    | false => exact ⟨here, .inr rfl⟩
  | readState =>
    obtain ⟨here, rfl⟩ := moved
    refine ⟨here, ?_⟩
    unfold Connector.readState
    split
    · exact .inl rfl
    · exact .inl rfl
    · exact .inr rfl
  | awaitEnds | resetSession | setInProgress => obtain ⟨here, rfl⟩ := moved; exact ⟨here, rfl⟩
  | lockSession => obtain ⟨here, _, rfl⟩ := moved; exact ⟨here, rfl⟩
  | enterConnect => obtain ⟨here, n, _, rfl⟩ := moved; exact ⟨here, rfl⟩
  | connectEnds =>
    obtain ⟨here, _, r, _, rfl⟩ := moved
    exact ⟨here, (connectEnds_keeps s r).1⟩
  | wake timedOut =>
    obtain ⟨here, _, rfl⟩ := moved
    refine ⟨here, ?_⟩
    unfold Connector.wake
    split
    · exact (conclude_keeps _).1
    · exact here
  | _ => trivial

theorem connect_network {cfg : Setup} {s t : Connector} {a : Action} (own : FromConnect a)
    (next : s.step cfg a = some t) : t.network = s.network ∨
      a = .enterConnect ∧ s.network.step (.callConnect s.maxConnectAttempts) = some t.network := by
  have moved := connector_cases next
  cases a <;> simp only [FromConnect] at own
  case construct ok => obtain ⟨_, rfl⟩ := moved; cases ok <;> exact .inl rfl
  case readState =>
    obtain ⟨_, rfl⟩ := moved
    unfold Connector.readState
    split <;> exact .inl rfl
  case lockSession => obtain ⟨_, _, rfl⟩ := moved; exact .inl rfl
  case enterConnect => obtain ⟨_, n, inner, rfl⟩ := moved; exact .inr ⟨rfl, inner⟩
  case connectEnds => obtain ⟨_, _, r, _, rfl⟩ := moved; exact .inl (connectEnds_keeps s r).2.1
  case wake timedOut => obtain ⟨_, _, rfl⟩ := moved; exact .inl (wake_keeps s timedOut).2.1
  all_goals
    obtain ⟨_, rfl⟩ := moved
    exact .inl rfl

theorem connect_outside {cfg : Setup} {s t : Connector} {a : Action} (own : FromConnect a)
    (next : s.step cfg a = some t) : t.client = .inClose ↔ s.client = .inClose := by
  have places := connect_places next
  cases a <;> simp only [FromConnect] at own
  case callConnect | construct | readState | connectEnds =>
    obtain ⟨here, there | there⟩ := places <;> simp [here, there]
  case wake timedOut =>
    rw [places.1, places.2]
    split <;> simp
  all_goals
    obtain ⟨here, there⟩ := places
    simp [here, there]

theorem connect_enters {cfg : Setup} {s t : Connector} {a : Action} (own : FromConnect a)
    (next : s.step cfg a = some t) (there : t.client = .connecting) : a = .enterConnect := by
  have places := connect_places next
  cases a <;> simp only [FromConnect] at own
  case enterConnect => rfl
  case wake timedOut =>
    have client := places.2
    rw [there] at client
    split at client <;> cases client
  all_goals simp [there] at places

/-! The handlers. -/

def handlerStep : Action → Bool
  | .associateSession _ _ | .closeTimings | .testInProgress | .report | .respond => true
  | .responseCallbackEnds _ | .userCallbackEnds _ | .cite => true
  | .network (.closeEnter .eventLoop) | .network (.closeEndpoint .eventLoop _) => true
  | .network (.closeWrite .eventLoop) => true
  | _ => false

def handlerBegins : Action → Bool
  | .message _ _ | .network (.onOpen _) | .network (.onClose _) | .network (.onFail _) => true
  | .network (.onPongTimeout _) => true
  | _ => false

def closeLeft (caller : Caller) : Option (Caller × CloseStage) → Nat
  | some (holder, .endpointClose) => if holder = caller then 2 else 0
  | some (holder, .writeState) => if holder = caller then 1 else 0
  | none => 0

def handlerLeft (lock : Option (Caller × CloseStage)) : LoopPc → Nat
  | .idle | .aborted | .terminated => 0
  | .closeTimings | .reportLock _ | .responseCallback | .citingLock _ => 1
  | .reporting _ | .response _ | .citing _ => 2
  | .userCallback _ | .closing => 3
  | .associating => 4
  | .inClose => closeLeft .eventLoop lock

theorem closeLeft_other {caller : Caller} {c d : Connection} {a : PcpConnection.Action}
    (next : c.step a = some d) (other : a ≠ .closeEnter caller ∧
      (∀ ok, a ≠ .closeEndpoint caller ok) ∧ a ≠ .closeWrite caller) :
    closeLeft caller d.closeCall = closeLeft caller c.closeCall := by
  have lock := closeCall_cases next
  cases a with
  | closeEnter k =>
    have different : k ≠ caller := fun same => other.1 (by rw [same])
    rcases lock.2 with free | inside
    · rw [lock.1, free]
    · simp [lock.1, inside, closeLeft, different]
  | closeEndpoint k ok =>
    have different : k ≠ caller := fun same => other.2.1 ok (by rw [same])
    cases ok <;> simp [lock, closeLeft, different]
  | closeWrite k =>
    have different : k ≠ caller := fun same => other.2.2 (by rw [same])
    simp [lock, closeLeft, different]
  | _ => exact congrArg (closeLeft caller) lock

theorem handlesMessage_left {l : LoopPc} (handles : handlesMessage l = true)
    (lock : Option (Caller × CloseStage)) : l ≠ .inClose ∧ handlerLeft lock l ≤ 3 := by
  cases l <;> simp [handlesMessage] at handles <;> simp [handlerLeft]

theorem eventLoop_left {cfg : Setup} {s t : Connector} {a : Action} (own : FromEventLoop a)
    (next : s.step cfg a = some t) (lock : Option (Caller × CloseStage)) :
    s.loop ≠ .inClose ∧ t.loop ≠ .inClose ∧
      handlerLeft lock t.loop + (handlerStep a).toNat ≤
        handlerLeft lock s.loop + 4 * (handlerBegins a).toNat := by
  have moved := connector_cases next
  cases a <;> simp only [FromEventLoop] at own
  case associateSession id sent =>
    obtain ⟨here, _, _, _, rfl⟩ := moved
    cases sent <;> simp [here, Connector.associateSession, handlerLeft, handlerStep, handlerBegins]
  case closeTimings =>
    obtain ⟨here, rfl⟩ := moved
    simp [here, Connector.closeAssociationTimings, handlerLeft, handlerStep, handlerBegins]
  case message hdl msgTxt =>
    obtain ⟨here, _, rfl⟩ := moved
    rcases onMessage_place cfg msgTxt with place | place | handles
    · simp [here, place, handlerLeft, handlerStep, handlerBegins]
    · simp [here, place, handlerLeft, handlerStep, handlerBegins]
    · obtain ⟨outside, left⟩ := handlesMessage_left handles lock
      refine ⟨by simp [here], outside, ?_⟩
      simp only [handlerStep, handlerBegins, Bool.toNat_true, Bool.toNat_false]
      omega
  case testInProgress =>
    rcases moved with ⟨error, here, rfl⟩ | ⟨c, here, rfl⟩ <;>
      simp only [Connector.testInProgress] <;> split <;>
      simp [here, handlerLeft, handlerStep, handlerBegins]
  case report =>
    obtain ⟨error, here, _, rfl⟩ := moved
    simp [here, Connector.report, handlerLeft, handlerStep, handlerBegins]
  case respond =>
    obtain ⟨chunks, here, _, rfl⟩ := moved
    rcases respond_place s cfg chunks with place | place <;>
      simp [here, place, handlerLeft, handlerStep, handlerBegins]
  case responseCallbackEnds throws =>
    obtain ⟨here, rfl⟩ := moved
    cases throws <;>
      simp [here, Connector.responseCallbackEnds, handlerLeft, handlerStep, handlerBegins]
  case userCallbackEnds throws =>
    obtain ⟨called, here, rfl⟩ := moved
    cases called <;> cases throws <;>
      simp [here, Connector.userCallbackEnds, handlerLeft, handlerStep, handlerBegins]
  case cite =>
    obtain ⟨c, here, _, rfl⟩ := moved
    unfold Connector.cite
    split <;> simp [here, handlerLeft, handlerStep, handlerBegins]

theorem closeLeft_enter {caller : Caller} {c d : Connection}
    (next : c.step (.closeEnter caller) = some d) :
    d.closeCall = none ∨ closeLeft caller d.closeCall = 2 := by
  refine (closeCall_cases next).2.imp_right fun inside => ?_
  simp [inside, closeLeft]

theorem closeLeft_endpoint {caller : Caller} {c d : Connection} {ok : Bool}
    (next : c.step (.closeEndpoint caller ok) = some d) :
    closeLeft caller c.closeCall = 2 ∧ closeLeft caller d.closeCall = ok.toNat := by
  obtain ⟨before, after⟩ := closeCall_cases next
  cases ok <;> simp [before, after, closeLeft]

theorem closeLeft_write {caller : Caller} {c d : Connection}
    (next : c.step (.closeWrite caller) = some d) : closeLeft caller c.closeCall = 1 := by
  simp [(closeCall_cases next).1, closeLeft]

theorem network_left {s : Connector} {b : PcpConnection.Action} {n : System}
    (permitted : s.permits b = true) (next : s.network.step b = some n) :
    handlerLeft n.1.closeCall (s.afterNetwork n b).loop + (handlerStep (.network b)).toNat ≤
      handlerLeft s.network.1.closeCall s.loop + 4 * (handlerBegins (.network b)).toNat := by
  have inner := (system_step_iff.mp next).1
  have same : (s.afterNetwork n b).loop = s.loop →
      closeLeft .eventLoop n.1.closeCall = closeLeft .eventLoop s.network.1.closeCall →
      handlerLeft n.1.closeCall (s.afterNetwork n b).loop =
        handlerLeft s.network.1.closeCall s.loop := by
    intro loop close
    rw [loop]
    cases s.loop with
    | inClose => exact close
    | _ => rfl
  cases b with
  | closeEnter caller =>
    cases caller with
    | eventLoop =>
      have here : s.loop = .closing := by
        cases place : s.loop <;> simp [Connector.permits, place, LoopPc.callsClose] at permitted
        rfl
      rcases closeLeft_enter inner with free | left
      · simp [Connector.afterNetwork, loopAfter, free, here, handlerLeft, handlerStep,
          handlerBegins]
      · have inside : n.1.closeCall ≠ none := fun free => by simp [free, closeLeft] at left
        simp [Connector.afterNetwork, loopAfter, inside, here, handlerLeft, handlerStep,
          handlerBegins, left]
    | client => exact Nat.le_of_eq (same rfl (closeLeft_other inner (by simp)))
    | other thread => cases permitted
  | closeEndpoint caller ok =>
    cases caller with
    | eventLoop =>
      have here : s.loop = .inClose := by
        cases place : s.loop <;> simp [Connector.permits, place, LoopPc.insideClose] at permitted
        rfl
      obtain ⟨before, after⟩ := closeLeft_endpoint inner
      cases ok <;> simp [Connector.afterNetwork, loopAfter, here, handlerLeft, handlerStep,
        handlerBegins, before, after]
    | client => exact Nat.le_of_eq (same rfl (closeLeft_other inner (by simp)))
    | other thread => cases permitted
  | closeWrite caller =>
    cases caller with
    | eventLoop =>
      have here : s.loop = .inClose := by
        cases place : s.loop <;> simp [Connector.permits, place, LoopPc.insideClose] at permitted
        rfl
      simp [Connector.afterNetwork, loopAfter, here, handlerLeft, handlerStep, handlerBegins,
        closeLeft_write inner]
    | client => exact Nat.le_of_eq (same rfl (closeLeft_other inner (by simp)))
    | other thread => cases permitted
  | onOpen hdl | onClose hdl | onFail hdl =>
    simp only [Connector.afterNetwork, loopAfter, handlerLeft, handlerStep, handlerBegins,
      Bool.toNat_true, Bool.toNat_false]
    omega
  | onPongTimeout hdl =>
    simp only [Connector.afterNetwork, loopAfter, handlerStep, handlerBegins, Bool.toNat_true,
      Bool.toNat_false]
    split <;> simp only [handlerLeft] <;> omega
  | _ => exact Nat.le_of_eq (same rfl (closeLeft_other inner (by simp)))

/-- state_mutex_ is held by connect() or by the event loop inside their close(), or by nobody. -/
structure CloseHeld (s : Connector) : Prop where
  client : s.client = .inClose → ∃ stage, s.network.1.closeCall = some (.client, stage)
  loop : s.loop = .inClose → ∃ stage, s.network.1.closeCall = some (.eventLoop, stage)
  held : ∀ caller stage, s.network.1.closeCall = some (caller, stage) →
    caller = .client ∧ s.client = .inClose ∨ caller = .eventLoop ∧ s.loop = .inClose

theorem closeHeld_same {s t : Connector} (held : CloseHeld s)
    (lock : t.network.1.closeCall = s.network.1.closeCall)
    (client : t.client = .inClose ↔ s.client = .inClose)
    (loop : t.loop = .inClose ↔ s.loop = .inClose) : CloseHeld t where
  client inside := by
    rw [lock]
    exact held.client (client.mp inside)
  loop inside := by
    rw [lock]
    exact held.loop (loop.mp inside)
  held caller stage inside := by
    rw [lock] at inside
    exact (held.held caller stage inside).imp (fun mine => ⟨mine.1, client.mpr mine.2⟩)
      (fun mine => ⟨mine.1, loop.mpr mine.2⟩)

theorem closeHeld_taken {s : Connector} {caller : Caller} {stage : CloseStage}
    (lock : s.network.1.closeCall = some (caller, stage))
    (client : s.client = .inClose ↔ caller = .client)
    (loop : s.loop = .inClose ↔ caller = .eventLoop)
    (known : caller = .client ∨ caller = .eventLoop) : CloseHeld s where
  client inside := by
    obtain rfl := client.mp inside
    exact ⟨stage, lock⟩
  loop inside := by
    obtain rfl := loop.mp inside
    exact ⟨stage, lock⟩
  held other later taken := by
    obtain ⟨rfl, rfl⟩ := Prod.mk.inj (Option.some.inj (lock.symm.trans taken))
    exact known.imp (fun mine => ⟨mine, client.mpr mine⟩) (fun mine => ⟨mine, loop.mpr mine⟩)

theorem closeHeld_free {s : Connector} (lock : s.network.1.closeCall = none)
    (client : s.client ≠ .inClose) (loop : s.loop ≠ .inClose) : CloseHeld s where
  client inside := absurd inside client
  loop inside := absurd inside loop
  held caller stage taken := by cases lock.symm.trans taken

theorem free_outside {s : Connector} (held : CloseHeld s) (lock : s.network.1.closeCall = none) :
    s.client ≠ .inClose ∧ s.loop ≠ .inClose := by
  refine ⟨fun inside => ?_, fun inside => ?_⟩
  · obtain ⟨stage, taken⟩ := held.client inside
    cases lock.symm.trans taken
  · obtain ⟨stage, taken⟩ := held.loop inside
    cases lock.symm.trans taken

theorem client_excludes {s : Connector} (held : CloseHeld s) (here : s.client = .inClose) :
    s.loop ≠ .inClose := fun inside => by
  obtain ⟨_, mine⟩ := held.client here
  obtain ⟨_, taken⟩ := held.loop inside
  cases mine.symm.trans taken

theorem closeHeld_network {s : Connector} {b : PcpConnection.Action} {n : System}
    (held : CloseHeld s) (permitted : s.permits b = true) (next : s.network.step b = some n) :
    CloseHeld (s.afterNetwork n b) := by
  have lock := closeCall_cases (system_step_iff.mp next).1
  cases b with
  | closeEnter caller =>
    obtain ⟨client, loop⟩ := free_outside held lock.1
    cases caller with
    | client =>
      rcases lock.2 with free | inside
      · exact closeHeld_free free (by simp [Connector.afterNetwork, clientAfter, free]) loop
      · exact closeHeld_taken inside (by simp [Connector.afterNetwork, clientAfter, inside])
          (by simp [Connector.afterNetwork, loopAfter, loop]) (.inl rfl)
    | eventLoop =>
      rcases lock.2 with free | inside
      · exact closeHeld_free free client (by simp [Connector.afterNetwork, loopAfter, free])
      · exact closeHeld_taken inside (by simp [Connector.afterNetwork, clientAfter, client])
          (by simp [Connector.afterNetwork, loopAfter, inside]) (.inr rfl)
    | other thread => cases permitted
  | closeEndpoint caller ok =>
    cases caller with
    | client =>
      have here : s.client = .inClose := of_decide_eq_true permitted
      have loop := client_excludes held here
      cases ok with
      | true =>
        exact closeHeld_taken lock.2 (by simp [Connector.afterNetwork, clientAfter, here])
          (by simp [Connector.afterNetwork, loopAfter, loop]) (.inl rfl)
      | false =>
        exact closeHeld_free lock.2 (by simp [Connector.afterNetwork, clientAfter]) loop
    | eventLoop =>
      have client : s.client ≠ .inClose := fun here => by
        obtain ⟨_, mine⟩ := held.client here
        cases mine.symm.trans lock.1
      obtain ⟨_, here⟩ := (held.held _ _ lock.1).resolve_left fun mine => by cases mine.1
      cases ok with
      | true =>
        exact closeHeld_taken lock.2 (by simp [Connector.afterNetwork, clientAfter, client])
          (by simp [Connector.afterNetwork, loopAfter, here]) (.inr rfl)
      | false =>
        exact closeHeld_free lock.2 client (by simp [Connector.afterNetwork, loopAfter])
    | other thread => cases permitted
  | closeWrite caller =>
    cases caller with
    | client =>
      have here : s.client = .inClose := of_decide_eq_true permitted
      have loop := client_excludes held here
      exact closeHeld_free lock.2 (by simp [Connector.afterNetwork, clientAfter]) loop
    | eventLoop =>
      have client : s.client ≠ .inClose := fun here => by
        obtain ⟨_, mine⟩ := held.client here
        cases mine.symm.trans lock.1
      exact closeHeld_free lock.2 client (by simp [Connector.afterNetwork, loopAfter])
    | other thread => cases permitted
  | onOpen hdl | onClose hdl | onFail hdl | onPongTimeout hdl =>
    have here : s.loop ≠ .inClose := fun inside => by
      simp [Connector.permits, inside, LoopPc.isIdle] at permitted
    refine closeHeld_same held lock Iff.rfl (iff_of_false ?_ here)
    simp only [Connector.afterNetwork, loopAfter]
    first | (split <;> simp) | simp
  | _ => exact closeHeld_same held lock Iff.rfl Iff.rfl

theorem connect_closeCall {cfg : Setup} {s t : Connector} {a : Action} (own : FromConnect a)
    (next : s.step cfg a = some t) : t.network.1.closeCall = s.network.1.closeCall := by
  rcases connect_network own next with same | ⟨_, calls⟩
  · rw [same]
  · exact closeCall_cases (system_step_iff.mp calls).1

theorem closeHeld_connect {cfg : Setup} {s t : Connector} {a : Action} (held : CloseHeld s)
    (own : FromConnect a) (next : s.step cfg a = some t) : CloseHeld t := by
  have loop := (connect_leaves own next).loop
  exact closeHeld_same held (connect_closeCall own next) (connect_outside own next) (by rw [loop])

theorem closeHeld_step {cfg : Setup} {s t : Connector} {a : Action} (held : CloseHeld s)
    (next : s.step cfg a = some t) : CloseHeld t := by
  rcases thread_cases a with ⟨b, rfl⟩ | own | own
  · obtain ⟨permitted, n, inner, rfl⟩ := connector_cases next
    exact closeHeld_network held permitted inner
  · exact closeHeld_connect held own next
  · obtain ⟨client, network, _⟩ := eventLoop_keeps own next
    obtain ⟨before, after, _⟩ := eventLoop_left own next none
    exact closeHeld_same held (by rw [network]) (by rw [client]) (iff_of_false after before)

theorem ended_endPass (c : Connection) : c.endPass.pc = .idle → c.endPass.result ≠ none := by
  unfold Connection.endPass
  split <;> simp [Connection.finish]

theorem ended_step {c d : Connection} {a : PcpConnection.Action}
    (ended : c.pc = .idle → c.result ≠ none) (single : isCallConnect a = false)
    (next : c.step a = some d) : d.pc = .idle → d.result ≠ none := by
  have moved := step_cases next
  cases a with
  | callConnect n => cases single
  | pass =>
    obtain ⟨_, rfl⟩ := moved
    have branch := pass_branch c
    intro idle
    split at branch
    · rcases branch with pc | pc <;> simp [pc] at idle
    · simp [branch] at idle
    · simp [branch.2]
    · simp [branch] at idle
    · rcases branch with pc | pc <;> simp [pc] at idle
  | poll => obtain ⟨_, rfl⟩ := moved; exact ended_endPass c
  | retrySleep draw => obtain ⟨_, _, rfl⟩ := moved; simp
  | beginAttempt => obtain ⟨site, _, rfl⟩ := moved; simp [Connection.beginAttempt]
  | getConnection reply =>
    obtain ⟨site, _, rfl⟩ := moved
    cases reply <;> simp [Connection.getConnection, Connection.finish]
  | endpointConnect accepted =>
    obtain ⟨site, _, rfl⟩ := moved
    cases accepted <;> simp [Connection.endpointConnect, Connection.finish]
  | waitEnds draw =>
    obtain ⟨site, _, _, rfl⟩ := moved
    by_cases first : site = .first
    · subst first
      simp [Connection.waitEnds]
    · obtain ⟨e, same, _⟩ := waitEnds_endPass c draw first
      rw [same]
      exact ended_endPass e
  | recheck =>
    obtain ⟨_, rfl⟩ := moved
    unfold Connection.recheck
    split
    · simp [Connection.finish]
    · exact ended_endPass c
  | _ =>
    obtain ⟨pc, _, result⟩ := network_keeps (by exact trivial) next
    rw [pc, result]
    exact ended

/-- What the progress of connect() rests on. -/
structure Running (s : Connector) : Prop where
  placed : Placed s
  held : CloseHeld s
  asserted : s.client = .connecting → InitializedFirst s.network.1
  ended : s.client = .connecting → s.network.1.pc = .idle → s.network.1.result ≠ none

theorem running_create (brokerWsUris : List String) (pongTimeoutsBeforeRetry : Nat) :
    Running (Connector.create brokerWsUris pongTimeoutsBeforeRetry) := by
  refine ⟨placed_create brokerWsUris pongTimeoutsBeforeRetry,
    closeHeld_free rfl (by simp [Connector.create]) (by simp [Connector.create]),
    fun there => ?_, fun there => ?_⟩
  · cases there
  · cases there

theorem running_step {cfg : Setup} {s t : Connector} {a : Action} (running : Running s)
    (next : s.step cfg a = some t) : Running t := by
  have placed := placed_step running.placed next
  have held := closeHeld_step running.held next
  rcases thread_cases a with ⟨b, rfl⟩ | own | own
  · obtain ⟨permitted, q, inner, rfl⟩ := connector_cases next
    have moved := (system_step_iff.mp inner).1
    have single : isCallConnect b = false := by
      cases b with
      | callConnect m => cases permitted
      | _ => rfl
    refine ⟨placed, held, fun there => ?_, fun there => ?_⟩
    · have here := clientAfter_same permitted there (by simp)
      exact initializedFirst_step (running.asserted here) single moved
    · have here := clientAfter_same permitted there (by simp)
      exact ended_step (running.ended here) single moved
  · by_cases enters : a = .enterConnect
    · subst enters
      obtain ⟨_, q, inner, rfl⟩ := connector_cases next
      obtain ⟨_, entered⟩ := step_cases (system_step_iff.mp inner).1
      refine ⟨placed, held, fun _ => ?_, fun _ idle => ?_⟩
      · simp [entered, InitializedFirst, Connection.callConnect]
      · simp [entered, Connection.callConnect] at idle
    · exact ⟨placed, held, fun there => absurd (connect_enters own next there) enters,
        fun there => absurd (connect_enters own next there) enters⟩
  · obtain ⟨client, network, _⟩ := eventLoop_keeps own next
    refine ⟨placed, held, ?_, ?_⟩
    · rw [client, network]
      exact running.asserted
    · rw [client, network]
      exact running.ended

theorem running_reachable {cfg : Setup} {brokerWsUris : List String}
    {pongTimeoutsBeforeRetry : Nat} {trace : List Action} {s : Connector}
    (path : run (Connector.step cfg) (.create brokerWsUris pongTimeoutsBeforeRetry) trace =
      some s) : Running s :=
  run_keeps Running (fun _ _ _ running next => running_step running next)
    (running_create brokerWsUris pongTimeoutsBeforeRetry) path

/-- A handler holds the mutex that connect() takes next. -/
def handlerHolds (s : Connector) : Bool :=
  match s.client with
  | .closing => s.loop.holdsState || s.loop.insideClose
  | .wantLock | .blocked => s.loop.holdsSession
  | _ => false

theorem inner_enabled {p : System} (running : p.1.pc ≠ .idle) (asserted : p.1.pc ≠ .aborted) :
    ∃ b q, PcpConnectTermination.ownStep b = true ∧ p.step b = some q := by
  obtain ⟨b, d, own, free, next⟩ := own_enabled running asserted
  have endpoint : ∃ e, p.2.step b = some e := by
    cases b with
    | getConnection reply => cases reply <;> first | exact ⟨_, rfl⟩ | cases free
    | endpointConnect accepted => cases accepted <;> first | exact ⟨_, rfl⟩ | cases free
    | _ => first | exact ⟨_, rfl⟩ | cases own
  obtain ⟨e, taken⟩ := endpoint
  exact ⟨b, (d, e), own, system_step_iff.mpr ⟨next, taken⟩⟩

section progress
variable {s : Connector} (alive : s.loop.isDead = false)
include alive

theorem act_enabled {cfg : Setup} {a : Action} {t : Connector} (acts : s.act cfg a = some t) :
    s.step cfg a = some t := by
  simp only [Connector.step, alive]
  exact acts

theorem network_enabled {cfg : Setup} {b : PcpConnection.Action} {q : System}
    (permitted : s.permits b = true) (next : s.network.step b = some q) :
    s.step cfg (.network b) = some (s.afterNetwork q b) :=
  act_enabled alive (by simp only [Connector.act, permitted, if_true, next, Option.map_some])

theorem session_enabled (cfg : Setup) : s.loop.holdsSession = false ∨
    s.loop.holdsSession = true ∧ ∃ t, s.step cfg (.responseCallbackEnds false) = some t := by
  cases here : s.loop with
  | responseCallback =>
    exact .inr ⟨rfl, s.responseCallbackEnds false,
      act_enabled alive (by simp only [Connector.act, here])⟩
  | _ => exact .inl rfl

theorem close_enabled (cfg : Setup) {stage : CloseStage} (inside : s.loop = .inClose)
    (lock : s.network.1.closeCall = some (.eventLoop, stage)) :
    ∃ a t, handlerStep a = true ∧ s.step cfg a = some t := by
  have within : s.loop.insideClose = true := by rw [inside]; rfl
  cases stage with
  | endpointClose =>
    have permitted : s.permits (.closeEndpoint .eventLoop true) = true := within
    have stepped : s.network.step (.closeEndpoint .eventLoop true) =
        some (s.network.1.closeEndpoint .eventLoop true, s.network.2) :=
      system_step_iff.mpr ⟨if_pos lock, rfl⟩
    exact ⟨_, _, rfl, network_enabled alive permitted stepped⟩
  | writeState =>
    have permitted : s.permits (.closeWrite .eventLoop) = true := within
    have stepped : s.network.step (.closeWrite .eventLoop) =
        some (s.network.1.closeWrite, s.network.2) := system_step_iff.mpr ⟨if_pos lock, rfl⟩
    exact ⟨_, _, rfl, network_enabled alive permitted stepped⟩

theorem state_enabled (cfg : Setup) (held : CloseHeld s) (outside : s.client ≠ .inClose) :
    (s.loop.holdsState = false ∧ s.network.1.closeCall = none) ∨
      (s.loop.holdsState || s.loop.insideClose) = true ∧
        ∃ a t, handlerStep a = true ∧ s.step cfg a = some t := by
  cases lock : s.network.1.closeCall with
  | some call =>
    obtain ⟨caller, stage⟩ := call
    rcases held.held caller stage lock with ⟨_, inside⟩ | ⟨rfl, inside⟩
    · exact absurd inside outside
    · exact .inr ⟨by rw [inside]; rfl, close_enabled alive cfg inside lock⟩
  | none =>
    cases here : s.loop with
    | closeTimings =>
      exact .inr ⟨rfl, .closeTimings, s.closeAssociationTimings, rfl,
        act_enabled alive (by simp only [Connector.act, here])⟩
    | _ => exact .inl ⟨rfl, rfl⟩

theorem call_enabled (cfg : Setup) (running : Running s) (active : s.client ≠ .idle) :
    ∃ a t, s.step cfg a = some t ∧ ((ownStep s a || innerStep a) = true ∨
      handlerHolds s = true ∧ handlerStep a = true) := by
  cases here : s.client with
  | idle => exact absurd here active
  | construct => exact ⟨.construct true, _, act_enabled alive (if_pos here), .inl rfl⟩
  | readState => exact ⟨.readState, _, act_enabled alive (if_pos here), .inl rfl⟩
  | closing =>
    rcases state_enabled alive cfg running.held (by simp [here]) with
      ⟨noCallback, free⟩ | ⟨holds, a, t, leaves, next⟩
    · have permitted : s.permits (.closeEnter .client) = true := by
        simp [Connector.permits, here, noCallback]
      have stepped : s.network.step (.closeEnter .client) =
          some (s.network.1.closeEnter .client, s.network.2) :=
        system_step_iff.mpr ⟨if_pos free, rfl⟩
      exact ⟨_, _, network_enabled alive permitted stepped, .inl rfl⟩
    · exact ⟨a, t, next, .inr ⟨by simpa only [handlerHolds, here] using holds, leaves⟩⟩
  | inClose =>
    obtain ⟨stage, lock⟩ := running.held.client here
    cases stage with
    | endpointClose =>
      have permitted : s.permits (.closeEndpoint .client true) = true := decide_eq_true here
      have stepped : s.network.step (.closeEndpoint .client true) =
          some (s.network.1.closeEndpoint .client true, s.network.2) :=
        system_step_iff.mpr ⟨if_pos lock, rfl⟩
      exact ⟨_, _, network_enabled alive permitted stepped, .inl rfl⟩
    | writeState =>
      have permitted : s.permits (.closeWrite .client) = true := decide_eq_true here
      have stepped : s.network.step (.closeWrite .client) =
          some (s.network.1.closeWrite, s.network.2) := system_step_iff.mpr ⟨if_pos lock, rfl⟩
      exact ⟨_, _, network_enabled alive permitted stepped, .inl rfl⟩
  | awaitClosed => exact ⟨.awaitEnds, _, act_enabled alive (if_pos here), .inl rfl⟩
  | wantLock =>
    rcases session_enabled alive cfg with free | ⟨holds, t, next⟩
    · exact ⟨.lockSession, _, act_enabled alive (if_pos ⟨here, free⟩), .inl rfl⟩
    · exact ⟨_, t, next, .inr ⟨by simpa only [handlerHolds, here] using holds, rfl⟩⟩
  | resetting => exact ⟨.resetSession, _, act_enabled alive (if_pos here), .inl rfl⟩
  | marking => exact ⟨.setInProgress, _, act_enabled alive (if_pos here), .inl rfl⟩
  | entering =>
    have idle : s.network.1.pc = .idle := by
      by_contra busy
      simp [running.placed.caller busy] at here
    have stepped : s.network.step (.callConnect s.maxConnectAttempts) =
        some (s.network.1.callConnect s.maxConnectAttempts, s.network.2) :=
      system_step_iff.mpr ⟨if_pos idle, rfl⟩
    have acts : s.act cfg .enterConnect = some { s with
        network := (s.network.1.callConnect s.maxConnectAttempts, s.network.2)
        client := .connecting } := by
      simp only [Connector.act, here, if_true, stepped, Option.map_some]
    exact ⟨_, _, act_enabled alive acts, .inl rfl⟩
  | connecting =>
    by_cases idle : s.network.1.pc = .idle
    · obtain ⟨r, result⟩ := Option.ne_none_iff_exists'.mp (running.ended here idle)
      refine ⟨.connectEnds, s.connectEnds r, act_enabled alive ?_, .inl rfl⟩
      simp only [Connector.act, here, idle, and_self, if_true, result, Option.map_some]
    · obtain ⟨b, q, own, stepped⟩ := inner_enabled idle (running.asserted here).2
      have permitted : s.permits b = true := by
        cases b <;> first | exact decide_eq_true here | cases own
      exact ⟨_, _, network_enabled alive permitted stepped, .inl (by simp [innerStep, own])⟩
  | blocked =>
    rcases session_enabled alive cfg with free | ⟨holds, t, next⟩
    · exact ⟨.wake true, _, act_enabled alive (if_pos ⟨here, free⟩), .inl rfl⟩
    · exact ⟨_, t, next, .inr ⟨by simpa only [handlerHolds, here] using holds, rfl⟩⟩

end progress

theorem handler_step {cfg : Setup} {s t : Connector} {a : Action} (next : s.step cfg a = some t) :
    handlerLeft t.network.1.closeCall t.loop + (handlerStep a).toNat ≤
      handlerLeft s.network.1.closeCall s.loop + 4 * (handlerBegins a).toNat := by
  rcases thread_cases a with ⟨b, rfl⟩ | own | own
  · obtain ⟨permitted, n, inner, rfl⟩ := connector_cases next
    exact network_left permitted inner
  · have lock := connect_closeCall own next
    have other : handlerStep a = false := by cases a <;> first | rfl | exact own.elim
    rw [(connect_leaves own next).loop, lock, other]
    exact Nat.le_add_right _ _
  · obtain ⟨_, network, _⟩ := eventLoop_keeps own next
    rw [network]
    exact (eventLoop_left own next _).2.2

def holdsMutex (client : ClientPc) : Bool := client.holdsSession || decide (client = .inClose)

/-- While connect() holds a mutex it waits for none. -/
theorem holder_enabled {s : Connector} (alive : s.loop.isDead = false) (cfg : Setup)
    (running : Running s) (holds : holdsMutex s.client = true) :
    ∃ a t, s.step cfg a = some t ∧ (ownStep s a || innerStep a) = true := by
  have active : s.client ≠ .idle := fun idle => by
    simp [idle, holdsMutex, ClientPc.holdsSession] at holds
  obtain ⟨a, t, next, own | ⟨waits, _⟩⟩ := call_enabled alive cfg running active
  · exact ⟨a, t, next, own⟩
  · cases place : s.client <;>
      simp [place, holdsMutex, handlerHolds, ClientPc.holdsSession] at holds waits

theorem fresh_id (ids : List String) : ∃ id, id ≠ "" ∧ id ∉ ids := by
  obtain ⟨id, fresh⟩ := Infinite.exists_notMem_finset ("" :: ids).toFinset
  simp only [List.mem_toFinset, List.mem_cons, not_or] at fresh
  exact ⟨id, fresh.1, fresh.2⟩

theorem handler_enabled {cfg : Setup} {s : Connector} (alive : s.loop.isDead = false)
    (running : Running s) (active : s.loop ≠ .idle) :
    ∃ a t, s.step cfg a = some t ∧ (handlerStep a = true ∨
      holdsMutex s.client = true ∧ (ownStep s a || innerStep a) = true) := by
  by_cases holds : holdsMutex s.client = true
  · obtain ⟨a, t, next, own⟩ := holder_enabled alive cfg running holds
    exact ⟨a, t, next, .inr ⟨holds, own⟩⟩
  simp only [holdsMutex, Bool.or_eq_true, decide_eq_true_eq, not_or, Bool.not_eq_true] at holds
  obtain ⟨session, outside⟩ := holds
  cases here : s.loop with
  | idle => exact absurd here active
  | aborted | terminated => simp [here, LoopPc.isDead] at alive
  | associating =>
    obtain ⟨id, nonempty, unused⟩ := fresh_id s.requestIds
    have acts : s.act cfg (.associateSession id true) = some (s.associateSession id true) := by
      simp only [Connector.act, here]
      exact if_pos ⟨session, nonempty, unused⟩
    exact ⟨_, _, act_enabled alive acts, .inl rfl⟩
  | closing =>
    have free : s.network.1.closeCall = none := by
      cases lock : s.network.1.closeCall with
      | none => rfl
      | some call =>
        rcases running.held.held call.1 call.2 lock with ⟨_, inside⟩ | ⟨_, inside⟩
        · exact absurd inside outside
        · simp [here] at inside
    have permitted : s.permits (.closeEnter .eventLoop) = true := by
      simp only [Connector.permits, here]
      rfl
    have stepped : s.network.step (.closeEnter .eventLoop) =
        some (s.network.1.closeEnter .eventLoop, s.network.2) :=
      system_step_iff.mpr ⟨if_pos free, rfl⟩
    exact ⟨_, _, network_enabled alive permitted stepped, .inl rfl⟩
  | inClose =>
    obtain ⟨stage, lock⟩ := running.held.loop here
    obtain ⟨a, t, own, next⟩ := close_enabled alive cfg here lock
    exact ⟨a, t, next, .inl own⟩
  | closeTimings =>
    exact ⟨.closeTimings, s.closeAssociationTimings,
      act_enabled alive (by simp only [Connector.act, here]), .inl rfl⟩
  | reporting error =>
    exact ⟨.testInProgress, s.testInProgress (.reportLock error),
      act_enabled alive (by simp only [Connector.act, here]), .inl rfl⟩
  | citing c =>
    exact ⟨.testInProgress, s.testInProgress (.citingLock c),
      act_enabled alive (by simp only [Connector.act, here]), .inl rfl⟩
  | reportLock error =>
    exact ⟨.report, s.report error,
      act_enabled alive (by simp [Connector.act, here, session]), .inl rfl⟩
  | response chunks =>
    exact ⟨.respond, s.respond cfg chunks,
      act_enabled alive (by simp [Connector.act, here, session]), .inl rfl⟩
  | citingLock c =>
    exact ⟨.cite, s.cite c, act_enabled alive (by simp [Connector.act, here, session]), .inl rfl⟩
  | responseCallback =>
    exact ⟨.responseCallbackEnds false, s.responseCallbackEnds false,
      act_enabled alive (by simp only [Connector.act, here]), .inl rfl⟩
  | userCallback called =>
    exact ⟨.userCallbackEnds false, s.userCallbackEnds called false,
      act_enabled alive (by simp only [Connector.act, here]), .inl rfl⟩

theorem handlerLeft_bound (lock : Option (Caller × CloseStage)) (l : LoopPc) :
    handlerLeft lock l ≤ 4 := by
  have inside : closeLeft .eventLoop lock ≤ 2 := by
    unfold closeLeft
    split
    · split <;> omega
    · split <;> omega
    · omega
  cases l with
  | inClose => exact inside.trans (by decide)
  | _ => simp [handlerLeft]

/-- A handler takes four steps at most after its first, whatever it was called with and however
    connect() interleaves. While it has not ended it can go on, or connect() holds a mutex and
    can go on, which may be polling for ever. -/
theorem handlers_go_on (cfg : Setup) (brokerWsUris : List String) (pongTimeoutsBeforeRetry : Nat)
    {trace : List Action} {s : Connector}
    (path : run (Connector.step cfg) (.create brokerWsUris pongTimeoutsBeforeRetry) trace =
      some s) :
    trace.countP handlerStep ≤ 4 * trace.countP handlerBegins ∧
      (∀ more t, run (Connector.step cfg) s more = some t →
        (∀ a ∈ more, handlerBegins a = false) → more.countP handlerStep ≤ 4) ∧
      (s.loop ≠ .idle → s.loop.isDead = false →
        ∃ a t, s.step cfg a = some t ∧ (handlerStep a = true ∨
          holdsMutex s.client = true ∧ (ownStep s a || innerStep a) = true)) := by
  have paid : ∀ actions {m t : Connector}, run (Connector.step cfg) m actions = some t →
      handlerLeft t.network.1.closeCall t.loop + actions.countP handlerStep ≤
        handlerLeft m.network.1.closeCall m.loop + 4 * actions.countP handlerBegins :=
    run_credited (fun s : Connector => handlerLeft s.network.1.closeCall s.loop) handlerStep
      handlerBegins 4 (fun _ _ _ next => handler_step next)
  refine ⟨?_, fun more t later none => ?_,
    fun active alive => handler_enabled alive (running_reachable path) active⟩
  · exact (Nat.le_add_left _ _).trans ((paid trace path).trans (Nat.le_of_eq (Nat.zero_add _)))
  · have within := paid more later
    have bound := handlerLeft_bound s.network.1.closeCall s.loop
    have begins : more.countP handlerBegins = 0 :=
      List.countP_eq_zero.mpr fun a mem => by simp [none a mem]
    omega

def emptyMessage : List Action := sessionRequested ++ [.message 0 []]

theorem empty_message_goes_on : ∃ s,
    run (Connector.step (plainSetup fun _ => none)) (.create ["wss://localhost:8142/pcp/"] 3)
        emptyMessage = some s ∧ s.loop ≠ .idle ∧ emptyMessage.countP handlerStep ≤ 8 ∧
      ∃ a t, s.step (plainSetup fun _ => none) a = some t ∧ (handlerStep a = true ∨
        holdsMutex s.client = true ∧ (ownStep s a || innerStep a) = true) := by
  obtain ⟨s, path, idle, up, _⟩ := sessionRequested_waits (plainSetup fun _ => none)
  have received : s.step (plainSetup fun _ => none) (.message 0 []) =
      some { s with loop := onMessage (plainSetup fun _ => none) [] } := by
    simp [Connector.step, Connector.act, idle, LoopPc.isIdle, LoopPc.isDead, up]
  obtain ⟨error, place⟩ : ∃ error, onMessage (plainSetup fun _ => none) [] = .reporting error :=
    ⟨_, rfl⟩
  rw [place] at received
  have whole := run_snoc_iff.mpr ⟨s, path, received⟩
  have goesOn := handlers_go_on (plainSetup fun _ => none) ["wss://localhost:8142/pcp/"] 3 whole
  exact ⟨_, whole, by simp, goesOn.1, goesOn.2.2 (by simp) rfl⟩

end PcpThreadProgress
