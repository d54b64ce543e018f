import PcpClient.ConnectorMachine

/-!
What holds in every reachable state of the connector: where each thread can be, what the
endpoint owes to a handler that runs, and what the session holds while connect() keeps
its mutex.
-/
namespace PcpConnectorInvariants
open PcpTransitions PcpConnector PcpEndpoint PcpEndpointCoherence PcpConnectAttempts PcpDispatch
open PcpConnection hiding Action

def FromEventLoop : Action → Prop
  | .associateSession _ _ | .closeTimings | .message _ _ | .testInProgress | .report
  | .respond | .responseCallbackEnds _ | .userCallbackEnds _ | .cite => True
  | _ => False

def FromConnect : Action → Prop
  | .callConnect _ | .construct _ | .readState | .awaitEnds | .lockSession | .resetSession
  | .setInProgress | .enterConnect | .connectEnds | .wake _ => True
  | _ => False

theorem thread_cases (a : Action) : (∃ b, a = .network b) ∨ FromConnect a ∨ FromEventLoop a := by
  cases a with
  | network b => exact .inl ⟨b, rfl⟩
  | associateSession id sent | closeTimings | message hdl msgTxt | testInProgress | report
  | respond | responseCallbackEnds throws | userCallbackEnds throws | cite =>
    exact .inr (.inr trivial)
  | _ => exact .inr (.inl trivial)

/-- The handlers of an established connection; that of a pong timeout may come after it. -/
def serves : LoopPc → Bool
  | .idle | .closeTimings | .closing | .inClose | .aborted | .terminated => false
  | _ => true

def handlesMessage : LoopPc → Bool
  | .reporting _ | .reportLock _ | .response _ | .responseCallback | .userCallback _
  | .citing _ | .citingLock _ => true
  | _ => false

/-- connect() has set in_progress and still holds the mutex. -/
def calling : ClientPc → Bool
  | .entering | .connecting => true
  | _ => false

structure Untouched (s : Connector) : Prop where
  client : s.client = .idle ∨ s.client = .construct
  quiet : Quiet s.network.2
  loop : s.loop = .idle
  session : s.session = {}
  unopened : s.network.2.opened = []

structure Placed (s : Connector) : Prop where
  coherent : Coherent s.network
  caller : s.network.1.pc ≠ .idle → s.client = .connecting
  untouched : s.created = false → Untouched s
  handler : serves s.loop = true → s.network.2.established ≠ []
  marking : s.client = .marking → s.session = {}
  calling : calling s.client = true → s.session = { inProgress := true }
  constructing : s.client = .construct → s.created = false

theorem placed_create (brokerWsUris : List String) (pongTimeoutsBeforeRetry : Nat) :
    Placed (Connector.create brokerWsUris pongTimeoutsBeforeRetry) where
  coherent := coherent_create brokerWsUris pongTimeoutsBeforeRetry
  caller running := absurd rfl running
  untouched _ := ⟨.inl rfl, ⟨rfl, rfl⟩, rfl, rfl, rfl⟩
  handler serving := by cases serving
  marking place := by cases place
  calling place := by cases place
  constructing place := by cases place

theorem clientAfter_cases {s : Connector} {a : PcpConnection.Action} (n : System)
    (permitted : s.permits a = true) :
    clientAfter s.client n a = s.client ∨
      (s.client = .closing ∨ s.client = .inClose) ∧
        (clientAfter s.client n a = .awaitClosed ∨ clientAfter s.client n a = .inClose ∨
          clientAfter s.client n a = .wantLock) := by
  cases a with
  | closeEnter caller =>
    cases caller with
    | client =>
      simp only [Connector.permits, Bool.and_eq_true, decide_eq_true_eq] at permitted
      refine .inr ⟨.inl permitted.1, ?_⟩
      simp only [clientAfter]
      split <;> simp
    | eventLoop | other thread => exact .inl rfl
  | closeEndpoint caller ok =>
    cases caller with
    | client =>
      simp only [Connector.permits, decide_eq_true_eq] at permitted
      cases ok with
      | true => exact .inl rfl
      | false => exact .inr ⟨.inr permitted, .inr (.inr rfl)⟩
    | eventLoop | other thread => exact .inl rfl
  | closeWrite caller =>
    cases caller with
    | client =>
      simp only [Connector.permits, decide_eq_true_eq] at permitted
      exact .inr ⟨.inr permitted, .inl rfl⟩
    | eventLoop | other thread => exact .inl rfl
  | _ => exact .inl rfl

theorem clientAfter_same {s : Connector} {a : PcpConnection.Action} {n : System} {place : ClientPc}
    (permitted : s.permits a = true) (here : clientAfter s.client n a = place)
    (outside : place ≠ .awaitClosed ∧ place ≠ .inClose ∧ place ≠ .wantLock) :
    s.client = place := by
  rcases clientAfter_cases n permitted with same | ⟨_, moved⟩
  · exact same.symm.trans here
  · rw [here] at moved
    rcases moved with moved | moved | moved
    · exact absurd moved outside.1
    · exact absurd moved outside.2.1
    · exact absurd moved outside.2.2

theorem network_or_client {s : Connector} {a : PcpConnection.Action}
    (permitted : s.permits a = true) : FromNetwork a ∨ s.client = .connecting := by
  cases a with
  | callConnect n => cases permitted
  | pass | poll | retrySleep draw | beginAttempt | getConnection reply | endpointConnect accepted
  | waitEnds draw | recheck => exact .inr (by simpa [Connector.permits] using permitted)
  | _ => exact .inl trivial

theorem loopAfter_cases {s : Connector} {a : PcpConnection.Action} (n : System)
    (permitted : s.permits a = true) :
    loopAfter s.loop n a = s.loop ∨
      s.loop = .idle ∧ (loopAfter s.loop n a = .idle ∨ loopAfter s.loop n a = .associating ∧
          (∃ hdl, a = .onOpen hdl) ∨
        loopAfter s.loop n a = .closeTimings ∧ (∃ hdl, a = .onClose hdl ∨ a = .onFail hdl) ∨
        loopAfter s.loop n a = .closing ∧ ∃ hdl, a = .onPongTimeout hdl) ∨
      (s.loop = .closing ∨ s.loop = .inClose) ∧ (loopAfter s.loop n a = .idle ∨
        loopAfter s.loop n a = .inClose ∨ loopAfter s.loop n a = .terminated) := by
  have idle : s.loop.isIdle = true → s.loop = .idle := by
    cases s.loop <;> simp [LoopPc.isIdle]
  cases a with
  | closeEnter caller =>
    cases caller with
    | eventLoop =>
      have place : s.loop = .closing ∨ s.loop = .inClose := by
        revert permitted
        cases here : s.loop <;> simp [Connector.permits, here, LoopPc.callsClose]
      refine .inr (.inr ⟨place, ?_⟩)
      simp only [loopAfter]
      split <;> simp
    | client | other thread => exact .inl rfl
  | closeEndpoint caller ok =>
    cases caller with
    | eventLoop =>
      cases ok with
      | true => exact .inl rfl
      | false =>
        have place : s.loop = .closing ∨ s.loop = .inClose := by
          revert permitted
          cases here : s.loop <;> simp [Connector.permits, here, LoopPc.insideClose]
        exact .inr (.inr ⟨place, .inr (.inr rfl)⟩)
    | client | other thread => exact .inl rfl
  | closeWrite caller =>
    cases caller with
    | eventLoop =>
      have place : s.loop = .closing ∨ s.loop = .inClose := by
        revert permitted
        cases here : s.loop <;> simp [Connector.permits, here, LoopPc.insideClose]
      exact .inr (.inr ⟨place, .inl rfl⟩)
    | client | other thread => exact .inl rfl
  | onOpen hdl => exact .inr (.inl ⟨idle permitted, .inr (.inl ⟨rfl, hdl, rfl⟩)⟩)
  | onClose hdl =>
    exact .inr (.inl ⟨idle permitted, .inr (.inr (.inl ⟨rfl, hdl, .inl rfl⟩))⟩)
  | onFail hdl =>
    exact .inr (.inl ⟨idle permitted, .inr (.inr (.inl ⟨rfl, hdl, .inr rfl⟩))⟩)
  | onPongTimeout hdl =>
    refine .inr (.inl ⟨idle permitted, ?_⟩)
    simp only [loopAfter]
    split <;> simp
  | _ => exact .inl rfl

theorem established_kept {p q : System} {a : PcpConnection.Action} (next : p.step a = some q)
    (opens : ∀ hdl, a ≠ .onOpen hdl) (closes : ∀ hdl, a ≠ .onClose hdl) :
    q.2.established = p.2.established := by
  obtain ⟨_, endpoint⟩ := system_step_iff.mp next
  have target := endpoint_cases endpoint
  cases a with
  | onOpen hdl => exact absurd rfl (opens hdl)
  | onClose hdl => exact absurd rfl (closes hdl)
  | onFail hdl => obtain ⟨_, later⟩ := target; rw [later]
  | endpointConnect accepted =>
    cases accepted with
    | true => obtain ⟨_, _, later⟩ := target; rw [later]
    | false => exact (live_kept endpoint rfl).2
  | _ => exact (live_kept endpoint rfl).2

theorem citationPc_place (callbackSet : Bool) (read : Except PcpJson.Raised Citation) :
    citationPc callbackSet read = .idle ∨ handlesMessage (citationPc callbackSet read) = true := by
  cases read with
  | ok c => cases callbackSet <;> exact .inr rfl
  | error e => exact .inl rfl

theorem onMessage_place (cfg : Setup) (msgTxt : PcpOctets.Bytes) :
    onMessage cfg msgTxt = .idle ∨ onMessage cfg msgTxt = .aborted ∨
      handlesMessage (onMessage cfg msgTxt) = true := by
  have citation : ∀ callbackSet read,
      citationPc callbackSet read = .idle ∨ citationPc callbackSet read = .aborted ∨
        handlesMessage (citationPc callbackSet read) = true := fun callbackSet read =>
    (citationPc_place callbackSet read).imp id .inr
  unfold onMessage
  cases cfg.processMessage msgTxt with
  | rejected error => exact .inr (.inr rfl)
  | ignored | raised e => exact .inl rfl
  | aborted => exact .inr (.inl rfl)
  | callback c chunks =>
    cases c with
    | registered index => exact .inr (.inr rfl)
    | associateResponse =>
      dsimp only
      split
      · exact .inr (.inr rfl)
      · exact .inr (.inl rfl)
    | errorMessage | ttlMessage =>
      dsimp only
      split
      · exact citation _ _
      · exact .inr (.inl rfl)

theorem settle_place (s : Connector) (cfg : Setup) (success : Bool) (error : String) :
    (s.settle cfg success error).loop = .idle ∨
      (s.settle cfg success error).loop = .responseCallback := by
  unfold Connector.settle
  split
  · exact .inr rfl
  · exact .inl rfl

theorem respond_place (s : Connector) (cfg : Setup) (chunks : PcpParsedChunks.ParsedChunks) :
    (s.respond cfg chunks).loop = .idle ∨ (s.respond cfg chunks).loop = .responseCallback := by
  unfold Connector.respond
  split
  · exact .inl rfl
  · dsimp only
    split
    · exact .inl rfl
    · split
      · exact settle_place _ cfg true _
      · split
        · exact settle_place _ cfg false _
        · exact .inl rfl

theorem settle_keeps (s : Connector) (cfg : Setup) (success : Bool) (error : String) :
    (s.settle cfg success error).client = s.client ∧
      (s.settle cfg success error).network = s.network ∧
      (s.settle cfg success error).created = s.created ∧
      (s.settle cfg success error).outcome = s.outcome ∧
      (s.settle cfg success error).associationTimings = s.associationTimings := by
  unfold Connector.settle
  split <;> exact ⟨rfl, rfl, rfl, rfl, rfl⟩

theorem respond_keeps (s : Connector) (cfg : Setup) (chunks : PcpParsedChunks.ParsedChunks) :
    (s.respond cfg chunks).client = s.client ∧ (s.respond cfg chunks).network = s.network ∧
      (s.respond cfg chunks).created = s.created ∧
      (s.respond cfg chunks).outcome = s.outcome ∧
      (s.respond cfg chunks).associationTimings = s.associationTimings := by
  unfold Connector.respond
  split
  · exact ⟨rfl, rfl, rfl, rfl, rfl⟩
  · dsimp only
    split
    · exact ⟨rfl, rfl, rfl, rfl, rfl⟩
    · split
      · exact settle_keeps _ cfg true _
      · split
        · exact settle_keeps _ cfg false _
        · exact ⟨rfl, rfl, rfl, rfl, rfl⟩

theorem eventLoop_keeps {cfg : Setup} {s t : Connector} {a : Action} (own : FromEventLoop a)
    (next : s.step cfg a = some t) :
    t.client = s.client ∧ t.network = s.network ∧ t.created = s.created ∧
      t.outcome = s.outcome := by
  have moved := connector_cases next
  cases a <;> simp only [FromEventLoop] at own
  case associateSession =>
    obtain ⟨_, _, _, _, rfl⟩ := moved
    exact ⟨rfl, rfl, rfl, rfl⟩
  case closeTimings => obtain ⟨_, rfl⟩ := moved; exact ⟨rfl, rfl, rfl, rfl⟩
  case message => obtain ⟨_, _, rfl⟩ := moved; exact ⟨rfl, rfl, rfl, rfl⟩
  case testInProgress =>
    obtain ⟨_, _, rfl⟩ | ⟨_, _, rfl⟩ := moved <;> exact ⟨rfl, rfl, rfl, rfl⟩
  case report => obtain ⟨_, _, _, rfl⟩ := moved; exact ⟨rfl, rfl, rfl, rfl⟩
  case respond =>
    obtain ⟨chunks, _, _, rfl⟩ := moved
    obtain ⟨client, network, created, outcome, _⟩ := respond_keeps s cfg chunks
    exact ⟨client, network, created, outcome⟩
  case responseCallbackEnds throws =>
    obtain ⟨_, rfl⟩ := moved
    cases throws <;> exact ⟨rfl, rfl, rfl, rfl⟩
  case userCallbackEnds throws =>
    obtain ⟨callbackNext, _, rfl⟩ := moved
    cases callbackNext <;> cases throws <;> exact ⟨rfl, rfl, rfl, rfl⟩
  case cite =>
    obtain ⟨c, _, _, rfl⟩ := moved
    unfold Connector.cite
    split <;> exact ⟨rfl, rfl, rfl, rfl⟩

theorem eventLoop_session {cfg : Setup} {s t : Connector} {a : Action} (own : FromEventLoop a)
    (held : s.client.holdsSession = true) (next : s.step cfg a = some t) :
    t.session = s.session ∧ t.handled = s.handled := by
  have moved := connector_cases next
  cases a <;> simp only [FromEventLoop] at own
  case associateSession => obtain ⟨_, free, _⟩ := moved; simp [held] at free
  case closeTimings => obtain ⟨_, rfl⟩ := moved; exact ⟨rfl, rfl⟩
  case message => obtain ⟨_, _, rfl⟩ := moved; exact ⟨rfl, rfl⟩
  case testInProgress => obtain ⟨_, _, rfl⟩ | ⟨_, _, rfl⟩ := moved <;> exact ⟨rfl, rfl⟩
  case report | respond | cite => obtain ⟨_, _, free, _⟩ := moved; simp [held] at free
  case responseCallbackEnds throws =>
    obtain ⟨_, rfl⟩ := moved
    cases throws <;> exact ⟨rfl, rfl⟩
  case userCallbackEnds throws =>
    obtain ⟨callbackNext, _, rfl⟩ := moved
    cases callbackNext <;> cases throws <;> exact ⟨rfl, rfl⟩

theorem eventLoop_serves {cfg : Setup} {s t : Connector} {a : Action} (own : FromEventLoop a)
    (next : s.step cfg a = some t) (later : serves t.loop = true) :
    serves s.loop = true ∨ s.network.2.established ≠ [] := by
  have moved := connector_cases next
  cases a <;> simp only [FromEventLoop] at own
  case associateSession => exact .inl (by rw [moved.1]; rfl)
  case closeTimings => obtain ⟨_, rfl⟩ := moved; cases later
  case message hdl msgTxt => exact .inr (List.ne_nil_of_mem moved.2.1)
  case testInProgress =>
    obtain ⟨_, here, _⟩ | ⟨_, here, _⟩ := moved <;> exact .inl (by rw [here]; rfl)
  case report | respond | cite => obtain ⟨_, here, _⟩ := moved; exact .inl (by rw [here]; rfl)
  case responseCallbackEnds => exact .inl (by rw [moved.1]; rfl)
  case userCallbackEnds => obtain ⟨_, here, _⟩ := moved; exact .inl (by rw [here]; rfl)

theorem placed_eventLoop {cfg : Setup} {s t : Connector} {a : Action} (placed : Placed s)
    (own : FromEventLoop a) (next : s.step cfg a = some t) : Placed t := by
  obtain ⟨client, network, created, _⟩ := eventLoop_keeps own next
  refine ⟨network ▸ placed.coherent, ?_, ?_, ?_, ?_, ?_, ?_⟩
  · rw [network, client]
    exact placed.caller
  · intro fresh
    obtain ⟨_, quiet, idle, _⟩ := placed.untouched (created ▸ fresh)
    have moved := connector_cases next
    cases a <;> simp only [FromEventLoop] at own
    case message hdl msgTxt => simp [quiet.established] at moved
    case testInProgress => simp [idle] at moved
    all_goals simp [idle] at moved
  · intro later
    rw [network]
    rcases eventLoop_serves own next later with serving | up
    · exact placed.handler serving
    · exact up
  · intro place
    have held : s.client.holdsSession = true := by rw [← client, place]; rfl
    rw [(eventLoop_session own held next).1]
    exact placed.marking (client ▸ place)
  · intro place
    have held : s.client.holdsSession = true := by
      rw [client] at place
      cases here : s.client <;> simp [here, calling] at place <;> rfl
    rw [(eventLoop_session own held next).1]
    exact placed.calling (client ▸ place)
  · rw [client, created]
    exact placed.constructing

theorem untouched_ticks {s : Connector} {n : System} {a : PcpConnection.Action} (placed : Placed s)
    (fresh : s.created = false) (permitted : s.permits a = true)
    (next : s.network.step a = some n) : a = .tick := by
  obtain ⟨client, quiet, idle, _, unopened⟩ := placed.untouched fresh
  have target := endpoint_cases (system_step_iff.mp next).2
  cases a with
  | tick => rfl
  | onOpen hdl | onFail hdl | onPreTCPInit hdl | onPostTCPInit hdl =>
    simp [quiet.owed] at target
  | onClose hdl | onPong hdl => simp [quiet.established] at target
  | onPongTimeout hdl => simp [unopened] at target
  | closeEnter caller | closeEndpoint caller ok | closeWrite caller =>
    cases caller <;>
      simp [Connector.permits, idle, LoopPc.callsClose, LoopPc.insideClose] at permitted
    all_goals simp [permitted] at client
  | callConnect n => cases permitted
  | _ =>
    simp only [Connector.permits, decide_eq_true_eq] at permitted
    simp [permitted] at client

theorem serves_network {s : Connector} {n : System} {a : PcpConnection.Action} (placed : Placed s)
    (permitted : s.permits a = true) (next : s.network.step a = some n)
    (serving : serves (loopAfter s.loop n a) = true) : n.2.established ≠ [] := by
  have target := endpoint_cases (system_step_iff.mp next).2
  cases a with
  | onOpen hdl => simp [target.2]
  | onClose hdl => cases serving
  | _ =>
    rw [established_kept next (by simp) (by simp)]
    refine placed.handler ?_
    rcases loopAfter_cases n permitted with same | ⟨_, moved⟩ | ⟨_, moved⟩
    · exact same ▸ serving
    · rcases moved with moved | ⟨_, hdl, other⟩ | ⟨moved, _⟩ | ⟨moved, _⟩
      · simp [moved, serves] at serving
      · cases other
      · simp [moved, serves] at serving
      · simp [moved, serves] at serving
    · rcases moved with moved | moved | moved <;> simp [moved, serves] at serving

theorem placed_network {s : Connector} {n : System} {a : PcpConnection.Action} (placed : Placed s)
    (permitted : s.permits a = true) (next : s.network.step a = some n) :
    Placed (s.afterNetwork n a) := by
  have inner := (system_step_iff.mp next).1
  refine ⟨coherent_step placed.coherent next, ?_, ?_, ?_, ?_, ?_, ?_⟩
  · intro running
    have calls : s.client = .connecting := by
      rcases network_or_client permitted with network | calls
      · exact placed.caller ((network_keeps network inner).1 ▸ running)
      · exact calls
    rcases clientAfter_cases n permitted with same | ⟨closes, _⟩
    · exact same.trans calls
    · simp [calls] at closes
  · intro fresh
    obtain ⟨client, quiet, idle, session, unopened⟩ := placed.untouched fresh
    obtain rfl := untouched_ticks placed fresh permitted next
    have same : n.2 = s.network.2 := endpoint_cases (system_step_iff.mp next).2
    exact ⟨client, same ▸ quiet, idle, session, same ▸ unopened⟩
  · exact serves_network placed permitted next
  · intro place
    exact placed.marking (clientAfter_same permitted place (by simp))
  · intro place
    refine placed.calling ?_
    rcases clientAfter_cases n permitted with same | ⟨_, moved⟩
    · exact same ▸ place
    · change calling (clientAfter s.client n a) = true at place
      rcases moved with moved | moved | moved <;> rw [moved] at place <;> cases place
  · intro place
    exact placed.constructing (clientAfter_same permitted place (by simp))

theorem created_inside {s : Connector} (placed : Placed s)
    (inside : s.client ≠ .idle ∧ s.client ≠ .construct) : s.created = true := by
  cases created : s.created with
  | true => rfl
  | false =>
    rcases (placed.untouched created).client with client | client
    · exact absurd client inside.1
    · exact absurd client inside.2

theorem conclude_keeps (s : Connector) :
    s.conclude.client = .idle ∧ s.conclude.network = s.network ∧ s.conclude.loop = s.loop ∧
      s.conclude.created = s.created := by
  unfold Connector.conclude
  split
  · exact ⟨rfl, rfl, rfl, rfl⟩
  · split
    · exact ⟨rfl, rfl, rfl, rfl⟩
    · split <;> exact ⟨rfl, rfl, rfl, rfl⟩

theorem connectEnds_keeps (s : Connector) (r : ConnectResult) :
    ((s.connectEnds r).client = .idle ∨ (s.connectEnds r).client = .blocked) ∧
      (s.connectEnds r).network = s.network ∧ (s.connectEnds r).loop = s.loop ∧
      (s.connectEnds r).created = s.created := by
  cases r with
  | returned =>
    simp only [Connector.connectEnds]
    split
    · obtain ⟨client, rest⟩ := conclude_keeps s
      exact ⟨.inl client, rest⟩
    · exact ⟨.inr rfl, rfl, rfl, rfl⟩
  | _ => exact ⟨.inl rfl, rfl, rfl, rfl⟩

theorem wake_keeps (s : Connector) (timedOut : Bool) :
    ((s.wake timedOut).client = .idle ∨ (s.wake timedOut).client = s.client) ∧
      (s.wake timedOut).network = s.network ∧ (s.wake timedOut).loop = s.loop ∧
      (s.wake timedOut).created = s.created := by
  unfold Connector.wake
  split
  · obtain ⟨client, rest⟩ := conclude_keeps { s with wakePending := false }
    exact ⟨.inl client, rest⟩
  · exact ⟨.inr rfl, rfl, rfl, rfl⟩

theorem conclude_notifications (s : Connector) : s.conclude.notifications = s.notifications := by
  unfold Connector.conclude
  split
  · rfl
  · split
    · rfl
    · split <;> rfl

theorem connectEnds_notifications (s : Connector) (r : ConnectResult) :
    (s.connectEnds r).notifications = s.notifications := by
  cases r with
  | returned =>
    simp only [Connector.connectEnds]
    split
    · exact conclude_notifications s
    · rfl
  | _ => rfl

theorem wake_notifications (s : Connector) (timedOut : Bool) :
    (s.wake timedOut).notifications = s.notifications := by
  unfold Connector.wake
  split
  · exact conclude_notifications _
  · rfl

/-- What connect() reads and never writes: it belongs to the event loop and to the Connection. -/
structure LeftAlone (s t : Connector) : Prop where
  loop : t.loop = s.loop
  endpoint : t.network.2 = s.network.2
  state : t.network.1.connectionState = s.network.1.connectionState
  clock : t.network.1.clock = s.network.1.clock
  notifications : t.notifications = s.notifications

theorem connect_leaves {cfg : Setup} {s t : Connector} {a : Action} (own : FromConnect a)
    (next : s.step cfg a = some t) : LeftAlone s t := by
  have moved := connector_cases next
  cases a <;> simp only [FromConnect] at own
  case callConnect | awaitEnds | resetSession | setInProgress =>
    obtain ⟨_, rfl⟩ := moved
    exact ⟨rfl, rfl, rfl, rfl, rfl⟩
  case construct ok => obtain ⟨_, rfl⟩ := moved; cases ok <;> exact ⟨rfl, rfl, rfl, rfl, rfl⟩
  case readState =>
    obtain ⟨_, rfl⟩ := moved
    unfold Connector.readState
    split <;> exact ⟨rfl, rfl, rfl, rfl, rfl⟩
  case lockSession => obtain ⟨_, _, rfl⟩ := moved; exact ⟨rfl, rfl, rfl, rfl, rfl⟩
  case enterConnect =>
    obtain ⟨_, n, inner, rfl⟩ := moved
    obtain ⟨calls, endpoint⟩ := system_step_iff.mp inner
    have untouched := client_untouched (by simp [FromNetwork]) (by simp) calls
    exact ⟨rfl, endpoint_cases endpoint, untouched.state, untouched.clock, rfl⟩
  case connectEnds =>
    obtain ⟨_, _, r, _, rfl⟩ := moved
    obtain ⟨_, network, loop, _⟩ := connectEnds_keeps s r
    exact ⟨loop, by rw [network], by rw [network], by rw [network], connectEnds_notifications s r⟩
  case wake timedOut =>
    obtain ⟨_, _, rfl⟩ := moved
    obtain ⟨_, network, loop, _⟩ := wake_keeps s timedOut
    exact ⟨loop, by rw [network], by rw [network], by rw [network], wake_notifications s timedOut⟩

theorem placed_pause {s t : Connector} (placed : Placed s) (created : s.created = true)
    (finished : s.network.1.pc = .idle) (client : t.client = .idle ∨ t.client = .blocked)
    (network : t.network = s.network) (loop : t.loop = s.loop) (same : t.created = s.created) :
    Placed t := by
  refine ⟨network ▸ placed.coherent, ?_, ?_, ?_, ?_, ?_, ?_⟩
  · intro running
    exact absurd finished (network ▸ running)
  · intro fresh
    simp [same, created] at fresh
  · rw [loop, network]
    exact placed.handler
  · intro place
    rcases client with client | client <;> simp [client] at place
  · intro place
    rcases client with client | client <;> simp [client, PcpConnectorInvariants.calling] at place
  · intro place
    rcases client with client | client <;> simp [client] at place

theorem placed_move {s : Connector} (placed : Placed s) (created : s.created = true)
    (finished : s.client ≠ .connecting) (place : ClientPc)
    (marking : place ≠ .marking ∧ place ≠ .construct) (outside : calling place = false)
    (max : Int) (outcome : Option Outcome) :
    Placed { s with client := place, maxConnectAttempts := max, outcome := outcome } where
  coherent := placed.coherent
  caller running := absurd (placed.caller running) finished
  untouched fresh := by simp [created] at fresh
  handler := placed.handler
  marking here := absurd here marking.1
  calling here := by simp [outside] at here
  constructing here := absurd here marking.2

theorem placed_step {cfg : Setup} {s t : Connector} {a : Action} (placed : Placed s)
    (next : s.step cfg a = some t) : Placed t := by
  have moved := connector_cases next
  cases a with
  | network a =>
    obtain ⟨permitted, n, inner, rfl⟩ := moved
    exact placed_network placed permitted inner
  | callConnect n =>
    obtain ⟨idle, rfl⟩ := moved
    cases created : s.created with
    | true =>
      have later := placed_move placed created (by simp [idle]) .readState (by simp) rfl n none
      simpa [Connector.callConnect, created] using later
    | false =>
      obtain ⟨_, quiet, loop, session, unopened⟩ := placed.untouched created
      refine ⟨placed.coherent, ?_, ?_, placed.handler, ?_, ?_, fun _ => created⟩
      · intro running
        simp [placed.caller running] at idle
      · intro _
        exact ⟨by simp [Connector.callConnect, created], quiet, loop, session, unopened⟩
      · simp [Connector.callConnect, created]
      · simp [Connector.callConnect, created, calling]
  | construct ok =>
    obtain ⟨here, rfl⟩ := moved
    cases ok with
    | true =>
      refine ⟨placed.coherent, ?_, by simp [Connector.construct], placed.handler,
        by simp [Connector.construct], by simp [Connector.construct, calling],
        by simp [Connector.construct]⟩
      intro running
      simp [placed.caller running] at here
    | false =>
      refine ⟨placed.coherent, ?_, ?_, placed.handler, by simp [Connector.construct,
        Connector.finish], by simp [Connector.construct, Connector.finish, calling],
        by simp [Connector.construct, Connector.finish]⟩
      · intro running
        simp [placed.caller running] at here
      · intro fresh
        obtain ⟨_, quiet, loop, session, unopened⟩ := placed.untouched fresh
        exact ⟨.inl rfl, quiet, loop, session, unopened⟩
  | readState =>
    obtain ⟨here, rfl⟩ := moved
    have created := created_inside placed (by simp [here])
    unfold Connector.readState
    split <;> exact placed_move placed created (by simp [here]) _ (by simp) rfl _ _
  | awaitEnds =>
    obtain ⟨here, rfl⟩ := moved
    exact placed_move placed (created_inside placed (by simp [here])) (by simp [here]) _ (by simp)
      rfl _ _
  | lockSession =>
    obtain ⟨here, _, rfl⟩ := moved
    exact placed_move placed (created_inside placed (by simp [here])) (by simp [here]) _ (by simp)
      rfl _ _
  | resetSession =>
    obtain ⟨here, rfl⟩ := moved
    have created := created_inside placed (by simp [here])
    refine ⟨placed.coherent, ?_, by simp [Connector.resetSession, created], placed.handler,
      fun _ => rfl, by simp [Connector.resetSession, calling],
      by simp [Connector.resetSession]⟩
    intro running
    simp [placed.caller running] at here
  | setInProgress =>
    obtain ⟨here, rfl⟩ := moved
    have created := created_inside placed (by simp [here])
    refine ⟨placed.coherent, ?_, by simp [Connector.setInProgress, created], placed.handler,
      by simp [Connector.setInProgress], ?_, by simp [Connector.setInProgress]⟩
    · intro running
      simp [placed.caller running] at here
    · intro _
      simp [Connector.setInProgress, placed.marking here]
  | enterConnect =>
    obtain ⟨here, n, inner, rfl⟩ := moved
    have created := created_inside placed (by simp [here])
    refine ⟨coherent_step placed.coherent inner, fun _ => rfl, by simp [created], ?_, by simp, ?_,
      by simp⟩
    · intro serving
      rw [established_kept inner (by simp) (by simp)]
      exact placed.handler serving
    · intro _
      exact placed.calling (by rw [here]; rfl)
  | connectEnds =>
    obtain ⟨here, finished, r, _, rfl⟩ := moved
    obtain ⟨client, network, loop, same⟩ := connectEnds_keeps s r
    exact placed_pause placed (created_inside placed (by simp [here])) finished client network loop
      same
  | wake timedOut =>
    obtain ⟨here, _, rfl⟩ := moved
    obtain ⟨client, network, loop, same⟩ := wake_keeps s timedOut
    refine placed_pause placed (created_inside placed (by simp [here])) ?_
      (by rwa [here] at client) network loop same
    by_contra running
    simp [placed.caller running] at here
  | _ => exact placed_eventLoop placed (by exact trivial) next

theorem placed_reachable {cfg : Setup} {brokerWsUris : List String} {pongTimeoutsBeforeRetry : Nat}
    {trace : List Action} {s : Connector} (path : run (Connector.step cfg)
      (.create brokerWsUris pongTimeoutsBeforeRetry) trace = some s) : Placed s :=
  run_keeps Placed (fun _ _ _ placed next => placed_step placed next)
    (placed_create brokerWsUris pongTimeoutsBeforeRetry) path

end PcpConnectorInvariants
