import PcpClient.ConnectorInvariants

/-!
Whether connect() and the event loop can wait for each other: connect() keeps the mutex
of the session while it waits inside Connection::connect(), and the handlers of the
messages of an older connection may want it before the close event is handled.
-/
namespace PcpProgress
open PcpTransitions PcpConnector PcpConnectorInvariants PcpEndpoint PcpEndpointCoherence
open PcpConnectAttempts PcpDispatch
open PcpConnection hiding Action

def wantsSession : LoopPc → Bool
  | .reportLock _ | .response _ | .citingLock _ => true
  | _ => false

/-- connect() waits for the connecting or closing state to end and holds the mutex that
    the handler of a message waits for. -/
structure Deadlock (s : Connector) : Prop where
  inside : s.client = .connecting
  waiting : s.network.1.pc = .polling
  blocked : wantsSession s.loop = true

/-- A pass of Connection::connect() reads closing while the connection is established and
    its open event has been handled. -/
structure PassesClosing (s : Connector) (a : Action) : Prop where
  pass : a = .network .pass
  state : s.network.1.connectionState = .closing
  established : s.network.2.established ≠ []
  handled : s.loop ≠ .associating

theorem isAssociating_iff {l : LoopPc} : l.isAssociating = true ↔ l = .associating := by
  cases l <;> simp [LoopPc.isAssociating]

instance (s : Connector) (a : Action) : Decidable (PassesClosing s a) :=
  decidable_of_iff (a = .network .pass ∧ s.network.1.connectionState = .closing ∧
      s.network.2.established ≠ [] ∧ s.loop.isAssociating = false)
    ⟨fun ⟨pass, state, up, handled⟩ =>
      ⟨pass, state, up, fun same => by simp [same, LoopPc.isAssociating] at handled⟩,
    fun ⟨pass, state, up, handled⟩ =>
      ⟨pass, state, up, Bool.eq_false_iff.mpr (mt isAssociating_iff.mp handled)⟩⟩

def insidePass : ConnectPc → Bool
  | .idle | .head => false
  | _ => true

/-- Past the first read of the state, an established connection is one whose open event
    waits for the mutex. -/
def Following (s : Connector) : Prop :=
  s.client = .connecting → insidePass s.network.1.pc = true → s.network.2.established ≠ [] →
    s.loop = .associating

theorem insidePass_entered {c d : Connection} {a : PcpConnection.Action} (next : c.step a = some d)
    (inside : insidePass d.pc = true) : insidePass c.pc = true ∨ a = .pass := by
  have moved := step_cases next
  cases a with
  | pass => exact .inr rfl
  | callConnect n => obtain ⟨_, rfl⟩ := moved; cases inside
  | poll => exact .inl (by rw [moved.1]; rfl)
  | retrySleep draw => exact .inl (by rw [moved.1]; rfl)
  | recheck => exact .inl (by rw [moved.1]; rfl)
  | beginAttempt | getConnection reply | endpointConnect accepted | waitEnds draw =>
    obtain ⟨site, stage, _⟩ := moved
    exact .inl (by rw [stage]; rfl)
  | _ => exact .inl ((network_keeps (by exact trivial) next).1 ▸ inside)

theorem pass_quiet {s : Connector} {d : Connection} (placed : Placed s)
    (guarded : ¬PassesClosing s (.network .pass)) (next : s.network.1.step .pass = some d)
    (inside : insidePass d.pc = true) (up : s.network.2.established ≠ []) :
    s.loop = .associating := by
  obtain ⟨hdl, mem⟩ := List.exists_mem_of_ne_nil _ up
  obtain ⟨_, rfl⟩ := step_cases next
  rcases established_state placed.coherent mem with state | state
  · have branch := pass_branch s.network.1
    rw [state] at branch
    rw [branch.1] at inside
    cases inside
  · by_contra handled
    exact guarded ⟨rfl, state, up, handled⟩

theorem following_network {s : Connector} {n : System} {a : PcpConnection.Action}
    (placed : Placed s) (following : Following s) (guarded : ¬PassesClosing s (.network a))
    (permitted : s.permits a = true) (next : s.network.step a = some n) :
    Following (s.afterNetwork n a) := by
  intro client inside up
  have connecting : s.client = .connecting := clientAfter_same permitted client (by simp)
  obtain ⟨inner, endpoint⟩ := system_step_iff.mp next
  change loopAfter s.loop n a = .associating
  by_cases opens : ∃ hdl, a = .onOpen hdl
  · obtain ⟨hdl, rfl⟩ := opens
    rfl
  have before : s.network.2.established ≠ [] := by
    by_cases closes : ∃ hdl, a = .onClose hdl
    · obtain ⟨hdl, rfl⟩ := closes
      have target := endpoint_cases endpoint
      exact List.ne_nil_of_mem target.1
    · rw [← established_kept next (fun hdl same => opens ⟨hdl, same⟩)
        (fun hdl same => closes ⟨hdl, same⟩)]
      exact up
  have associating : s.loop = .associating := by
    rcases insidePass_entered inner inside with earlier | rfl
    · exact following connecting earlier before
    · exact pass_quiet placed guarded inner inside before
  rcases loopAfter_cases n permitted with same | ⟨idle, _⟩ | ⟨closing, _⟩
  · exact same.trans associating
  · simp [associating] at idle
  · simp [associating] at closing

theorem following_step {cfg : Setup} {s t : Connector} {a : Action} (placed : Placed s)
    (following : Following s) (guarded : ¬PassesClosing s a) (next : s.step cfg a = some t) :
    Following t := by
  have moved := connector_cases next
  cases a with
  | network a =>
    obtain ⟨permitted, n, inner, rfl⟩ := moved
    exact following_network placed following guarded permitted inner
  | enterConnect =>
    obtain ⟨_, n, inner, rfl⟩ := moved
    intro _ inside
    obtain ⟨_, head⟩ := step_cases (system_step_iff.mp inner).1
    rw [head] at inside
    cases inside
  | connectEnds =>
    obtain ⟨_, _, r, _, rfl⟩ := moved
    intro client
    obtain ⟨finished, _⟩ := connectEnds_keeps s r
    simp [client] at finished
  | wake timedOut =>
    obtain ⟨here, _, rfl⟩ := moved
    intro client
    obtain ⟨finished, _⟩ := wake_keeps s timedOut
    simp [client, here] at finished
  | callConnect n =>
    obtain ⟨_, rfl⟩ := moved
    intro client
    simp only [Connector.callConnect] at client
    split at client <;> cases client
  | construct ok => obtain ⟨_, rfl⟩ := moved; cases ok <;> (intro client; cases client)
  | readState =>
    obtain ⟨_, rfl⟩ := moved
    intro client
    unfold Connector.readState at client
    split at client <;> cases client
  | awaitEnds | resetSession | setInProgress => obtain ⟨_, rfl⟩ := moved; intro client; cases client
  | lockSession => obtain ⟨_, _, rfl⟩ := moved; intro client; cases client
  | _ =>
    obtain ⟨client, network, _⟩ := eventLoop_keeps (by exact trivial) next
    intro connecting inside up
    rw [client] at connecting
    rw [network] at inside up
    have associating := following connecting inside up
    have moved := connector_cases next
    simp [associating, connecting, ClientPc.holdsSession] at moved

theorem following_excludes {s : Connector} (placed : Placed s) (following : Following s) :
    ¬Deadlock s := by
  rintro ⟨inside, waiting, blocked⟩
  have up : s.network.2.established ≠ [] := placed.handler (by
    cases here : s.loop <;> simp [here, wantsSession] at blocked <;> rfl)
  have associating := following inside (by rw [waiting]; rfl) up
  simp [associating, wantsSession] at blocked

/-! What follows a pass that reads closing. -/

/-- A handler that is going to wait for the mutex if in_progress is set. -/
def comesToLock : LoopPc → Bool
  | .reporting _ | .userCallback (some _) | .citing _ => true
  | place => wantsSession place

theorem tested_waits {cfg : Setup} {s : Connector} (inside : s.client = .connecting)
    (waiting : s.network.1.pc = .polling) (set : s.session.inProgress = true)
    (tests : (∃ error, s.loop = .reporting error) ∨ ∃ c, s.loop = .citing c) :
    ∃ t, s.step cfg .testInProgress = some t ∧ Deadlock t := by
  rcases tests with ⟨error, place⟩ | ⟨c, place⟩
  · exact ⟨s.testInProgress (.reportLock error),
      by simp [Connector.step, Connector.act, place, LoopPc.isDead],
      inside, waiting, by simp [Connector.testInProgress, set, wantsSession]⟩
  · exact ⟨s.testInProgress (.citingLock c),
      by simp [Connector.step, Connector.act, place, LoopPc.isDead],
      inside, waiting, by simp [Connector.testInProgress, set, wantsSession]⟩

theorem handler_deadlocks (cfg : Setup) {s : Connector} (inside : s.client = .connecting)
    (waiting : s.network.1.pc = .polling) (set : s.session.inProgress = true)
    (comes : comesToLock s.loop = true) :
    ∃ more t, run (Connector.step cfg) s more = some t ∧ Deadlock t := by
  have now : wantsSession s.loop = true → ∃ more t, run (Connector.step cfg) s more = some t ∧
      Deadlock t := fun blocked => ⟨[], s, rfl, inside, waiting, blocked⟩
  cases place : s.loop with
  | reporting error =>
    obtain ⟨t, next, deadlock⟩ := tested_waits inside waiting set (.inl ⟨error, place⟩)
    exact ⟨[.testInProgress], t, run_cons_iff.mpr ⟨t, next, rfl⟩, deadlock⟩
  | citing c =>
    obtain ⟨t, next, deadlock⟩ := tested_waits inside waiting set (.inr ⟨c, place⟩)
    exact ⟨[.testInProgress], t, run_cons_iff.mpr ⟨t, next, rfl⟩, deadlock⟩
  | userCallback callbackNext =>
    cases callbackNext with
    | none => simp [place, comesToLock, wantsSession] at comes
    | some c =>
      have ends : s.step cfg (.userCallbackEnds false) = some { s with loop := .citing c } := by
        simp [Connector.step, Connector.act, place, LoopPc.isDead, Connector.userCallbackEnds]
      obtain ⟨t, next, deadlock⟩ := tested_waits (s := { s with loop := .citing c }) inside waiting
        set (.inr ⟨c, rfl⟩)
      exact ⟨[.userCallbackEnds false, .testInProgress], t,
        run_cons_iff.mpr ⟨_, ends, run_cons_iff.mpr ⟨t, next, rfl⟩⟩, deadlock⟩
  | reportLock error | response chunks | citingLock c => exact now (by rw [place]; rfl)
  | _ => simp [place, comesToLock, wantsSession] at comes

theorem closing_pass_deadlocks {cfg : Setup} {s t : Connector} {a : Action} (placed : Placed s)
    (passes : PassesClosing s a) (comes : comesToLock s.loop = true)
    (next : s.step cfg a = some t) :
    ∃ more u, run (Connector.step cfg) s (a :: more) = some u ∧ Deadlock u := by
  obtain ⟨rfl, state, _, _⟩ := passes
  obtain ⟨permitted, n, inner, same⟩ := connector_cases next
  have inside : s.client = .connecting := of_decide_eq_true permitted
  obtain ⟨_, passed⟩ := step_cases (system_step_iff.mp inner).1
  have branch := pass_branch s.network.1
  rw [state] at branch
  have set : s.session.inProgress = true := by
    rw [placed.calling (by rw [inside]; rfl)]
  obtain ⟨more, u, path, deadlock⟩ := handler_deadlocks cfg (s := t) (by rw [same]; exact inside)
    (by rw [same]; exact passed ▸ branch) (by rw [same]; exact set) (by rw [same]; exact comes)
  exact ⟨more, u, run_cons_iff.mpr ⟨t, next, path⟩, deadlock⟩

/-- In a run in which no pass of Connection::connect() reads closing while the connection
    is established and its open event handled, connect() and the event loop never wait
    for each other. A pass that does, while the handler of a message has still to lock the mutex,
    can go on to where they do. -/
theorem no_deadlock (cfg : Setup) (brokerWsUris : List String) (pongTimeoutsBeforeRetry : Nat)
    (trace : List Action) :
    (Throughout (Connector.step cfg) (fun s a => ¬PassesClosing s a)
        (.create brokerWsUris pongTimeoutsBeforeRetry) trace →
      ∀ pre post s, trace = pre ++ post →
        run (Connector.step cfg) (.create brokerWsUris pongTimeoutsBeforeRetry) pre = some s →
          ¬Deadlock s) ∧
    ∀ s a, run (Connector.step cfg) (.create brokerWsUris pongTimeoutsBeforeRetry) trace = some s →
      PassesClosing s a → comesToLock s.loop = true → (s.step cfg a).isSome →
        ∃ more t, run (Connector.step cfg) (.create brokerWsUris pongTimeoutsBeforeRetry)
          (trace ++ a :: more) = some t ∧ Deadlock t := by
  constructor
  · rintro guarded pre post s rfl path
    have early := ((throughout_append pre _).mp guarded).1
    obtain ⟨placed, following⟩ := run_under (fun s a => ¬PassesClosing s a)
      (fun s => Placed s ∧ Following s)
      (fun _ _ _ held guard moves =>
        ⟨placed_step held.1 moves, following_step held.1 held.2 guard moves⟩)
      ⟨placed_create brokerWsUris pongTimeoutsBeforeRetry, fun connecting => by cases connecting⟩
      early path
    exact following_excludes placed following
  · intro s a path passes comes enabled
    have placed : Placed s := run_keeps Placed (fun _ _ _ held moves => placed_step held moves)
      (placed_create brokerWsUris pongTimeoutsBeforeRetry) path
    obtain ⟨t, next⟩ := Option.isSome_iff_exists.mp enabled
    obtain ⟨more, u, onward, deadlock⟩ := closing_pass_deadlocks placed passes comes next
    exact ⟨more, u, run_append_iff.mpr ⟨s, path, onward⟩, deadlock⟩

theorem first_connect_progresses :
    ∃ s, run (Connector.step (plainSetup fun _ => none)) (.create ["wss://localhost:8142/pcp/"] 3)
        sessionRequested = some s ∧ s.client = .blocked ∧ ¬Deadlock s :=
  ⟨_, rfl, rfl, (no_deadlock (plainSetup fun _ => none) ["wss://localhost:8142/pcp/"] 3
    sessionRequested).1 (by decide) sessionRequested [] _ (by simp) rfl⟩

/-- The session times out and connect(0) is called again while an empty message is being
    reported; the close handshake does not end in time. -/
def reportedWhileClosing : List Action :=
  sessionRequested ++
    [.wake true, .message 0 [], .callConnect 0, .readState, .network (.closeEnter .client),
      .network (.closeEndpoint .client true), .network (.closeWrite .client), .awaitEnds,
      .lockSession, .resetSession, .setInProgress, .testInProgress, .enterConnect,
      .network .pass]

theorem deadlock_while_closing :
    ∃ s, run (Connector.step (plainSetup fun _ => none)) (.create ["wss://localhost:8142/pcp/"] 3)
        reportedWhileClosing = some s ∧
      Deadlock s ∧ s.network.1.connectionState = .closing ∧ s.network.2.established = [0] :=
  ⟨_, rfl, ⟨rfl, rfl, rfl⟩, rfl, rfl⟩

structure Polls (c : Connection) : Prop where
  waiting : c.pc = .polling ∨ c.pc = .head
  state : c.connectionState = .connecting ∨ c.connectionState = .closing
  unlimited : c.frame.maxConnectAttempts = 0
  again : c.frame.tryAgain = true

structure Stuck (s : Connector) : Prop where
  inside : s.client = .connecting
  polls : Polls s.network.1
  blocked : wantsSession s.loop = true

theorem polls_pass {c : Connection} (polls : Polls c) : Polls c.pass := by
  obtain ⟨_, state, unlimited, again⟩ := polls
  rcases state with state | state <;>
    constructor <;> simp [Connection.pass, state, Connection.nextFrame, unlimited, again]

theorem polls_again {c : Connection} (polls : Polls c) : Polls c.endPass := by
  rw [endPass_again polls.again]
  exact ⟨.inr rfl, polls.state, polls.unlimited, polls.again⟩

theorem stuck_goes_on {s : Connector} {a : PcpConnection.Action} {n : System} (stuck : Stuck s)
    (permitted : s.permits a = true) (next : s.network.step a = some n) :
    a = .pass ∨ a = .poll ∨ a = .tick := by
  obtain ⟨inside, polls, blocked⟩ := stuck
  have moved := step_cases (system_step_iff.mp next).1
  cases a with
  | pass => exact .inl rfl
  | poll => exact .inr (.inl rfl)
  | tick => exact .inr (.inr rfl)
  | callConnect n => cases permitted
  | retrySleep draw | recheck | beginAttempt | getConnection reply | endpointConnect accepted
  | waitEnds draw =>
    rcases polls.waiting with pc | pc <;> simp [pc] at moved
  | closeEnter caller | closeEndpoint caller ok | closeWrite caller =>
    cases caller <;> simp [Connector.permits, inside] at permitted
    all_goals cases here : s.loop <;>
      simp [here, LoopPc.callsClose, LoopPc.insideClose, wantsSession] at permitted blocked
  | _ =>
    cases here : s.loop <;>
      simp [here, Connector.permits, LoopPc.isIdle, wantsSession] at permitted blocked

theorem stuck_network {s : Connector} {a : PcpConnection.Action} {n : System} (stuck : Stuck s)
    (permitted : s.permits a = true) (next : s.network.step a = some n) :
    Stuck (s.afterNetwork n a) := by
  have moved := step_cases (system_step_iff.mp next).1
  rcases stuck_goes_on stuck permitted next with rfl | rfl | rfl
  · obtain ⟨_, pass⟩ := moved
    exact ⟨stuck.inside, pass ▸ polls_pass stuck.polls, stuck.blocked⟩
  · obtain ⟨_, poll⟩ := moved
    exact ⟨stuck.inside, poll ▸ polls_again stuck.polls, stuck.blocked⟩
  · obtain ⟨waiting, state, unlimited, again⟩ := stuck.polls
    exact ⟨stuck.inside, moved ▸ ⟨waiting, state, unlimited, again⟩, stuck.blocked⟩

theorem stuck_step {cfg : Setup} {s t : Connector} {a : Action} (stuck : Stuck s)
    (next : s.step cfg a = some t) : Stuck t ∧ t.loop = s.loop := by
  have moved := connector_cases next
  obtain ⟨inside, polls, blocked⟩ := stuck
  cases a with
  | network a =>
    obtain ⟨permitted, n, inner, rfl⟩ := moved
    refine ⟨stuck_network ⟨inside, polls, blocked⟩ permitted inner, ?_⟩
    rcases stuck_goes_on ⟨inside, polls, blocked⟩ permitted inner with rfl | rfl | rfl <;> rfl
  | connectEnds => rcases polls.waiting with pc | pc <;> simp [pc] at moved
  | associateSession id sent | closeTimings | message hdl msgTxt | responseCallbackEnds throws =>
    simp [moved.1, wantsSession] at blocked
  | testInProgress =>
    obtain ⟨_, place, _⟩ | ⟨_, place, _⟩ := moved <;> simp [place, wantsSession] at blocked
  | userCallbackEnds throws =>
    obtain ⟨_, place, _⟩ := moved
    simp [place, wantsSession] at blocked
  | _ => simp [inside, ClientPc.holdsSession] at moved

/-- A deadlock of connect(0) lasts: in no run from it does the call end, or the handler
    that waits for the mutex go on. -/
theorem deadlock_lasts {cfg : Setup} {s t : Connector} {trace : List Action} (deadlock : Deadlock s)
    (state : s.network.1.connectionState = .connecting ∨ s.network.1.connectionState = .closing)
    (unlimited : s.network.1.frame.maxConnectAttempts = 0)
    (again : s.network.1.frame.tryAgain = true)
    (path : run (Connector.step cfg) s trace = some t) :
    t.client = .connecting ∧ t.loop = s.loop := by
  obtain ⟨inside, waiting, blocked⟩ := deadlock
  have kept := run_keeps (fun m => Stuck m ∧ m.loop = s.loop)
    (fun _ _ _ held moves =>
      ⟨(stuck_step held.1 moves).1, (stuck_step held.1 moves).2.trans held.2⟩)
    ⟨⟨inside, ⟨.inl waiting, state, unlimited, again⟩, blocked⟩, rfl⟩ path
  exact ⟨kept.1.inside, kept.2⟩

end PcpProgress
