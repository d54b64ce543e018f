import PcpClient.AssociationOutcome

/-!
isAssociated(): the open event, the request and the response that a true value of it comes
from, in any run of the connector.
-/
namespace PcpSoundness
open PcpTransitions PcpConnector PcpConnectorInvariants PcpEndpoint PcpEndpointCoherence
open PcpConnectAttempts PcpDispatch PcpAssociation PcpReceived PcpOctets
open PcpConnection hiding Action

def isAssociated (s : Connector) : Bool :=
  s.created && decide (s.network.1.connectionState = .open) && s.session.success

def isConnectionEvent : Action → Bool
  | .network (.onOpen _) | .network (.onClose _) | .network (.onFail _) => true
  | _ => false

def Eventless (trace : List Action) : Prop := ∀ a ∈ trace, isConnectionEvent a = false

def Opened (past : List Action) : Prop :=
  ∃ before hdl after, past = before ++ .network (.onOpen hdl) :: after ∧ Eventless after ∧
    ∀ a ∈ after, ¬FromEventLoop a

def Requested (past : List Action) (id : String) : Prop :=
  ∃ opening sent after, past = opening ++ .associateSession id sent :: after ∧ Opened opening ∧
    Eventless after

def Succeeded (cfg : Setup) (start : Connector) (past : List Action) (id : String) : Prop :=
  ∃ earlier m chunks after, past = earlier ++ .respond :: after ∧ Requested earlier id ∧
    Eventless after ∧ run (Connector.step cfg) start earlier = some m ∧
    m.loop = .response chunks ∧ readAssociateResponse chunks = .ok ⟨id, true⟩

/-- On an open connection, a response without an id and with success true is taken for the
    answer to a request that was not made. -/
structure AcceptsNoRequest (s : Connector) (a : Action) : Prop where
  handler : a = .respond
  expected : s.session.inProgress = true
  noRequest : s.session.requestId = ""
  noId : ∃ chunks, s.loop = .response chunks ∧ readAssociateResponse chunks = .ok ⟨"", true⟩
  isOpen : s.created = true ∧ s.network.1.connectionState = .open

theorem eventless_snoc {trace : List Action} {a : Action} (before : Eventless trace)
    (other : isConnectionEvent a = false) : Eventless (trace ++ [a]) := by
  intro b mem
  rcases List.mem_append.mp mem with earlier | latest
  · exact before b earlier
  · rw [List.mem_singleton.mp latest]
    exact other

theorem opened_snoc {past : List Action} {a : Action} (opened : Opened past)
    (other : isConnectionEvent a = false) (elsewhere : ¬FromEventLoop a) :
    Opened (past ++ [a]) := by
  obtain ⟨before, hdl, after, rfl, quiet, idle⟩ := opened
  refine ⟨before, hdl, after ++ [a], by simp, eventless_snoc quiet other, fun b mem => ?_⟩
  rcases List.mem_append.mp mem with earlier | latest
  · exact idle b earlier
  · rw [List.mem_singleton.mp latest]
    exact elsewhere

theorem requested_snoc {past : List Action} {a : Action} {id : String}
    (requested : Requested past id) (other : isConnectionEvent a = false) :
    Requested (past ++ [a]) id := by
  obtain ⟨opening, sent, after, rfl, opened, quiet⟩ := requested
  exact ⟨opening, sent, after ++ [a], by simp, opened, eventless_snoc quiet other⟩

theorem succeeded_snoc {cfg : Setup} {start : Connector} {past : List Action} {a : Action}
    {id : String} (succeeded : Succeeded cfg start past id) (other : isConnectionEvent a = false) :
    Succeeded cfg start (past ++ [a]) id := by
  obtain ⟨earlier, m, chunks, after, rfl, requested, quiet, rest⟩ := succeeded
  exact ⟨earlier, m, chunks, after ++ [a], by simp, requested, eventless_snoc quiet other, rest⟩

/-- While the connection is established or the attempt under way, the session goes back to
    the latest open event. -/
structure Sound (cfg : Setup) (start s : Connector) (past : List Action) : Prop where
  reached : run (Connector.step cfg) start past = some s
  placed : Placed s
  opening : s.loop = .associating → Opened past
  request : s.session.requestId ≠ "" → s.network.2.established ≠ [] → s.loop ≠ .associating →
    Requested past s.session.requestId
  attempt : s.network.2.owed ≠ [] → s.session.success = false
  success : isAssociated s = true → ∃ id, Succeeded cfg start past id

theorem isAssociated_iff {s : Connector} : isAssociated s = true ↔
    s.created = true ∧ s.network.1.connectionState = .open ∧ s.session.success = true := by
  simp [isAssociated, and_assoc]

theorem associating_step {cfg : Setup} {s t : Connector} {a : Action} (own : FromEventLoop a)
    (here : s.loop = .associating) (next : s.step cfg a = some t) :
    ∃ id sent, a = .associateSession id sent := by
  have moved := connector_cases next
  cases a <;> simp only [FromEventLoop] at own
  case associateSession id sent => exact ⟨id, sent, rfl⟩
  all_goals simp [here] at moved

theorem sound_same {cfg : Setup} {start s t : Connector} {past : List Action} {a : Action}
    (sound : Sound cfg start s past) (next : s.step cfg a = some t)
    (other : isConnectionEvent a = false) (elsewhere : ¬FromEventLoop a) (loop : t.loop = s.loop)
    (endpoint : t.network.2 = s.network.2)
    (state : t.network.1.connectionState = s.network.1.connectionState)
    (session : t.session = s.session ∧ t.created = s.created ∨
      t.session.success = false ∧ t.session.requestId = "") :
    Sound cfg start t (past ++ [a]) := by
  refine ⟨run_snoc_iff.mpr ⟨s, sound.reached, next⟩, placed_step sound.placed next, ?_, ?_, ?_, ?_⟩
  · rw [loop]
    exact fun here => opened_snoc (sound.opening here) other elsewhere
  · rw [loop, endpoint]
    intro nonempty up outside
    rcases session with ⟨same, _⟩ | ⟨_, empty⟩
    · rw [same] at nonempty ⊢
      exact requested_snoc (sound.request nonempty up outside) other
    · exact absurd empty nonempty
  · rw [endpoint]
    intro owed
    rcases session with ⟨same, _⟩ | ⟨failed, _⟩
    · rw [same]
      exact sound.attempt owed
    · exact failed
  · rw [isAssociated_iff, state]
    rintro ⟨created, opened, succeeded⟩
    rcases session with ⟨same, kept⟩ | ⟨failed, _⟩
    · rw [kept] at created
      rw [same] at succeeded
      obtain ⟨id, before⟩ := sound.success (isAssociated_iff.mpr ⟨created, opened, succeeded⟩)
      exact ⟨id, succeeded_snoc before other⟩
    · simp [failed] at succeeded

theorem open_before {p q : System} {a : PcpConnection.Action} (next : p.step a = some q)
    (isOpen : q.1.connectionState = .open) :
    p.1.connectionState = .open ∧ isConnectionEvent (.network a) = false ∨
      ∃ hdl, a = .onOpen hdl := by
  obtain ⟨client, _⟩ := system_step_iff.mp next
  cases writes : writesState a with
  | false =>
    refine .inl ⟨(state_kept client writes).symm.trans isOpen, ?_⟩
    cases a <;> first | rfl | cases writes
  | true =>
    have moved := step_cases client
    cases a <;> simp only [writesState, Bool.false_eq_true] at writes
    case onOpen => exact .inr ⟨_, rfl⟩
    case beginAttempt => obtain ⟨_, _, later⟩ := moved; rw [later] at isOpen; cases isOpen
    case closeWrite => obtain ⟨_, later⟩ := moved; rw [later] at isOpen; cases isOpen
    case onClose => obtain ⟨_, later⟩ := moved; rw [later] at isOpen; cases isOpen
    case onFail => obtain ⟨_, later⟩ := moved; rw [later] at isOpen; cases isOpen

theorem established_before {p q : System} {a : PcpConnection.Action} (coherent : Coherent p)
    (next : p.step a = some q) (up : q.2.established ≠ []) :
    p.2.established ≠ [] ∧ isConnectionEvent (.network a) = false ∨ ∃ hdl, a = .onOpen hdl := by
  have target := endpoint_cases (system_step_iff.mp next).2
  cases a with
  | onOpen hdl => exact .inr ⟨hdl, rfl⟩
  | onClose hdl =>
    obtain ⟨mem, closes⟩ := target
    simp [closes, (established_alone coherent mem).1] at up
  | onFail hdl =>
    obtain ⟨mem, fails⟩ := target
    simp [fails, (owed_alone coherent mem).2.1] at up
  | _ =>
    rw [established_kept next (by simp) (by simp)] at up
    exact .inl ⟨up, rfl⟩

theorem sound_network {cfg : Setup} {start s : Connector} {past : List Action} {n : System}
    {a : PcpConnection.Action} (sound : Sound cfg start s past) (permitted : s.permits a = true)
    (inner : s.network.step a = some n)
    (next : s.step cfg (.network a) = some (s.afterNetwork n a)) :
    Sound cfg start (s.afterNetwork n a) (past ++ [.network a]) := by
  have coherent := sound.placed.coherent
  have endpoint := (system_step_iff.mp inner).2
  refine ⟨run_snoc_iff.mpr ⟨s, sound.reached, next⟩, placed_step sound.placed next, ?_, ?_, ?_, ?_⟩
  · intro here
    rcases loopAfter_cases n permitted with same | ⟨idle, moved⟩ | ⟨_, moved⟩
    · have before : s.loop = .associating := same.symm.trans here
      refine opened_snoc (sound.opening before) ?_ (by simp [FromEventLoop])
      cases a <;> simp [isConnectionEvent, Connector.permits, before, LoopPc.isIdle] at permitted ⊢
    · rcases moved with moved | ⟨_, hdl, rfl⟩ | ⟨moved, _⟩ | ⟨moved, _⟩
      · simp [show loopAfter s.loop n a = _ from here] at moved
      · exact ⟨past, hdl, [], rfl, by simp [Eventless], by simp⟩
      · simp [show loopAfter s.loop n a = _ from here] at moved
      · simp [show loopAfter s.loop n a = _ from here] at moved
    · simp [show loopAfter s.loop n a = _ from here] at moved
  · intro nonempty up outside
    rcases established_before coherent inner up with ⟨before, other⟩ | ⟨hdl, rfl⟩
    · refine requested_snoc (sound.request nonempty before fun here => outside ?_) other
      rcases loopAfter_cases n permitted with same | ⟨idle, _⟩ | ⟨closing, _⟩
      · exact same.trans here
      · simp [here] at idle
      · simp [here] at closing
    · exact absurd rfl outside
  · intro owed
    rcases network_or_client permitted with network | connecting
    · refine sound.attempt fun none => owed (List.eq_nil_iff_forall_not_mem.mpr fun hdl mem => ?_)
      have before := (network_endpoint network endpoint).2.2 hdl mem
      simp [none] at before
    · have session := sound.placed.calling (by rw [connecting]; rfl)
      simp [Connector.afterNetwork, session]
  · rw [isAssociated_iff]
    rintro ⟨created, isOpen, succeeded⟩
    rcases open_before inner isOpen with ⟨before, other⟩ | ⟨hdl, rfl⟩
    · obtain ⟨id, earlier⟩ := sound.success (isAssociated_iff.mpr ⟨created, before, succeeded⟩)
      exact ⟨id, succeeded_snoc earlier other⟩
    · have owed : s.network.2.owed ≠ [] := List.ne_nil_of_mem (endpoint_cases endpoint).1
      have failed : s.session.success = false := sound.attempt owed
      simp [show s.session.success = true from succeeded] at failed

theorem handler_success {s t : Connector} {a : Action} (effect : Effect s t a)
    (elsewhere : s.loop ≠ .associating) :
    t.session.requestId = s.session.requestId ∧
      (t.session.success = s.session.success ∨ ∃ chunks success, a = .respond ∧
        s.loop = .response chunks ∧ s.session.inProgress = true ∧
        readAssociateResponse chunks = .ok ⟨s.session.requestId, success⟩ ∧
        t.session.success = success) := by
  cases effect with
  | none session | discarded _ _ _ session | unrelated _ session =>
    exact ⟨by rw [session], .inl (by rw [session])⟩
  | requested _ place => exact absurd place elsewhere
  | corrupted _ session | failed _ _ session => exact ⟨by rw [session], .inl (by rw [session])⟩
  | settled chunks success _ handler place read expected session =>
    refine ⟨by rw [session], .inr ⟨chunks, success, handler, place, expected, read, ?_⟩⟩
    rw [session]

theorem sound_request {cfg : Setup} {start s t : Connector} {past : List Action} {id : String}
    {sent : Bool} (sound : Sound cfg start s past)
    (next : s.step cfg (.associateSession id sent) = some t) :
    Sound cfg start t (past ++ [.associateSession id sent]) := by
  have kept := next
  obtain ⟨place, _, _, _, rfl⟩ := connector_cases next
  refine ⟨run_snoc_iff.mpr ⟨s, sound.reached, next⟩, placed_step sound.placed next, ?_, ?_,
    sound.attempt, ?_⟩
  · intro here
    cases sent <;> cases here
  · intro _ _ _
    exact ⟨past, sent, [], rfl, sound.opening place, by simp [Eventless]⟩
  · rw [isAssociated_iff]
    rintro associated
    obtain ⟨id, before⟩ := sound.success (isAssociated_iff.mpr associated)
    exact ⟨id, succeeded_snoc before rfl⟩

theorem sound_eventLoop {cfg : Setup} {start s t : Connector} {past : List Action} {a : Action}
    (sound : Sound cfg start s past) (guarded : ¬AcceptsNoRequest s a) (own : FromEventLoop a)
    (next : s.step cfg a = some t) : Sound cfg start t (past ++ [a]) := by
  by_cases here : s.loop = .associating
  · obtain ⟨id, sent, rfl⟩ := associating_step own here next
    exact sound_request sound next
  · obtain ⟨_, network, created, _⟩ := eventLoop_keeps own next
    obtain ⟨request, success⟩ := handler_success (eventLoop_effect own next) here
    have other : isConnectionEvent a = false := by cases a <;> first | rfl | cases own
    refine ⟨run_snoc_iff.mpr ⟨s, sound.reached, next⟩, placed_step sound.placed next, ?_, ?_, ?_,
      ?_⟩
    · exact fun later => absurd later (not_associating own next)
    · rw [request, network]
      exact fun nonempty up _ => requested_snoc (sound.request nonempty up here) other
    · rw [network]
      intro owed
      rcases success with same | ⟨chunks, _, _, place, _⟩
      · rw [same]
        exact sound.attempt owed
      · obtain ⟨hdl, mem⟩ := List.exists_mem_of_ne_nil _ owed
        have up := sound.placed.handler (by rw [place]; rfl)
        exact absurd (owed_alone sound.placed.coherent mem).2.1 up
    · rw [isAssociated_iff, network, created]
      rintro ⟨exists', isOpen, succeeded⟩
      rcases success with same | ⟨chunks, success, rfl, place, expected, read, set⟩
      · rw [same] at succeeded
        obtain ⟨id, before⟩ := sound.success (isAssociated_iff.mpr ⟨exists', isOpen, succeeded⟩)
        exact ⟨id, succeeded_snoc before other⟩
      · obtain rfl : success = true := set.symm.trans succeeded
        have nonempty : s.session.requestId ≠ "" := fun empty =>
          guarded ⟨rfl, expected, empty, ⟨chunks, place, empty ▸ read⟩, exists', isOpen⟩
        have up := sound.placed.handler (by rw [place]; rfl)
        exact ⟨s.session.requestId, past, s, chunks, [], rfl, sound.request nonempty up here,
          by simp [Eventless], sound.reached, place, read⟩

theorem connectEnds_session {s : Connector} (placed : Placed s) (here : s.client = .connecting)
    (r : ConnectResult) : (s.connectEnds r).session = s.session := by
  rcases connectEnds_cases placed here r with ⟨_, waits⟩ | ⟨_, _, session, _⟩
  · rw [waits]
  · exact session

theorem wake_session (s : Connector) (timedOut : Bool) :
    (s.wake timedOut).session = s.session ∨ (s.wake timedOut).session = {} := by
  unfold Connector.wake
  split
  · exact (conclude_session { s with wakePending := false }).1
  · exact .inl rfl

theorem connect_session {cfg : Setup} {s t : Connector} {a : Action} (placed : Placed s)
    (own : FromConnect a) (next : s.step cfg a = some t) :
    t.session = s.session ∧ t.created = s.created ∨
      t.session.success = false ∧ t.session.requestId = "" := by
  have moved := connector_cases next
  cases a <;> simp only [FromConnect] at own
  case callConnect | awaitEnds => obtain ⟨_, rfl⟩ := moved; exact .inl ⟨rfl, rfl⟩
  case construct ok =>
    obtain ⟨here, rfl⟩ := moved
    have session := (placed.untouched (placed.constructing here)).session
    cases ok with
    | false => exact .inl ⟨rfl, rfl⟩
    | true => exact .inr (by simp [Connector.construct, session])
  case readState =>
    obtain ⟨_, rfl⟩ := moved
    unfold Connector.readState
    split <;> exact .inl ⟨rfl, rfl⟩
  case lockSession => obtain ⟨_, _, rfl⟩ := moved; exact .inl ⟨rfl, rfl⟩
  case resetSession => obtain ⟨_, rfl⟩ := moved; exact .inr ⟨rfl, rfl⟩
  case setInProgress =>
    obtain ⟨here, rfl⟩ := moved
    exact .inr (by simp [Connector.setInProgress, placed.marking here])
  case enterConnect => obtain ⟨_, n, _, rfl⟩ := moved; exact .inl ⟨rfl, rfl⟩
  case connectEnds =>
    obtain ⟨here, _, r, _, rfl⟩ := moved
    exact .inl ⟨connectEnds_session placed here r, (connectEnds_keeps s r).2.2.2⟩
  case wake timedOut =>
    obtain ⟨_, _, rfl⟩ := moved
    rcases wake_session s timedOut with session | session
    · exact .inl ⟨session, (wake_keeps s timedOut).2.2.2⟩
    · exact .inr (by simp [session])

theorem sound_step {cfg : Setup} {start s t : Connector} {past : List Action} {a : Action}
    (sound : Sound cfg start s past) (guarded : ¬AcceptsNoRequest s a)
    (next : s.step cfg a = some t) : Sound cfg start t (past ++ [a]) := by
  rcases thread_cases a with ⟨b, rfl⟩ | own | own
  · obtain ⟨permitted, n, inner, rfl⟩ := connector_cases next
    exact sound_network sound permitted inner next
  · have left := connect_leaves own next
    have session := connect_session sound.placed own next
    refine sound_same sound next ?_ ?_ left.loop left.endpoint left.state session <;>
      cases a <;> simp_all [FromConnect, FromEventLoop, isConnectionEvent]
  · exact sound_eventLoop sound guarded own next

theorem sound_create (cfg : Setup) (brokerWsUris : List String) (pongTimeoutsBeforeRetry : Nat) :
    Sound cfg (.create brokerWsUris pongTimeoutsBeforeRetry)
      (.create brokerWsUris pongTimeoutsBeforeRetry) [] where
  reached := rfl
  placed := placed_create brokerWsUris pongTimeoutsBeforeRetry
  opening here := by cases here
  request nonempty := absurd rfl nonempty
  attempt owed := absurd rfl owed
  success associated := by simp [isAssociated, Connector.create] at associated

theorem requested_nonempty {cfg : Setup} {start s : Connector} {past : List Action} {id : String}
    (path : run (Connector.step cfg) start past = some s) (requested : Requested past id) :
    id ≠ "" := by
  obtain ⟨opening, sent, after, rfl, _, _⟩ := requested
  obtain ⟨m, _, rest⟩ := run_append_iff.mp path
  obtain ⟨_, next, _⟩ := run_cons_iff.mp rest
  obtain ⟨_, _, nonempty, _⟩ := connector_cases next
  exact nonempty

theorem succeeded_before {cfg : Setup} {start s : Connector} {past : List Action} {id : String}
    (path : run (Connector.step cfg) start past = some s) (accepts : AcceptsNoRequest s .respond)
    (succeeded : Succeeded cfg start (past ++ [.respond]) id) : Succeeded cfg start past id := by
  obtain ⟨earlier, m, chunks, after, split, requested, quiet, reached, place, read⟩ := succeeded
  rcases snoc_split split with ⟨rfl, _, rfl⟩ | ⟨rest, rfl, rfl⟩
  · obtain rfl := Option.some.inj (path.symm.trans reached)
    obtain ⟨others, here, anonymous⟩ := accepts.noId
    obtain rfl := LoopPc.response.inj (place.symm.trans here)
    rw [read] at anonymous
    obtain ⟨empty, _⟩ := AssociateResponse.mk.inj (Except.ok.inj anonymous)
    exact absurd empty (requested_nonempty path requested)
  · refine ⟨earlier, m, chunks, rest, rfl, requested, fun a mem => quiet a ?_, reached, place, read⟩
    exact List.mem_append_left _ mem

theorem accepts_associated {cfg : Setup} {s t : Connector} {a : Action}
    (accepts : AcceptsNoRequest s a) (next : s.step cfg a = some t) : isAssociated t = true := by
  obtain ⟨rfl, expected, noRequest, ⟨chunks, place, read⟩, created, isOpen⟩ := accepts
  obtain ⟨other, here, _, rfl⟩ := connector_cases next
  obtain rfl := LoopPc.response.inj (place.symm.trans here)
  obtain ⟨_, network, kept, _⟩ := respond_keeps s cfg chunks
  rw [isAssociated_iff, network, kept]
  have answers : s.respond cfg chunks =
      (s.record (.responded "" true)).settle cfg true s.session.error := by
    simp [Connector.respond, read, expected, noRequest]
  rw [answers]
  refine ⟨created, isOpen, ?_⟩
  unfold Connector.settle
  split <;> rfl

/-- In a run that accepts no response for a request that was not made on an open connection,
    isAssociated() is true only since the request of the latest open event was answered. A run
    that goes on with such a response is associated, and the request is not answered by it. -/
theorem associated_sound (cfg : Setup) (brokerWsUris : List String) (pongTimeoutsBeforeRetry : Nat)
    (trace : List Action) (s : Connector)
    (path : run (Connector.step cfg) (.create brokerWsUris pongTimeoutsBeforeRetry) trace = some s)
    (guarded : Throughout (Connector.step cfg) (fun s a => ¬AcceptsNoRequest s a)
      (.create brokerWsUris pongTimeoutsBeforeRetry) trace) :
    (isAssociated s = true →
      ∃ id, Succeeded cfg (.create brokerWsUris pongTimeoutsBeforeRetry) trace id) ∧
    ∀ a t, AcceptsNoRequest s a → s.step cfg a = some t → isAssociated t = true ∧
      ∀ id, Succeeded cfg (.create brokerWsUris pongTimeoutsBeforeRetry) (trace ++ [a]) id →
        Succeeded cfg (.create brokerWsUris pongTimeoutsBeforeRetry) trace id := by
  constructor
  · have sound := run_traced
      (fun s past => Sound cfg (.create brokerWsUris pongTimeoutsBeforeRetry) s past)
      (fun _ _ _ _ sound guard next => sound_step sound guard next) trace _ [] s
      (sound_create cfg brokerWsUris pongTimeoutsBeforeRetry) guarded path
    exact sound.success
  · intro a t accepts next
    refine ⟨accepts_associated accepts next, fun id succeeded => ?_⟩
    obtain rfl := accepts.handler
    exact succeeded_before path accepts succeeded

theorem accepted_response_associated :
    ∃ s, run (Connector.step acceptedSetup) (.create ["wss://localhost:8142/pcp/"] 3)
        acceptedTrace = some s ∧ isAssociated s = true ∧
      ∃ id, Succeeded acceptedSetup (.create ["wss://localhost:8142/pcp/"] 3) acceptedTrace id := by
  obtain ⟨chunks, received, read⟩ := accepted_read
  obtain ⟨s, reached, idle, up, blocked, session, associated⟩ : ∃ s,
      run (Connector.step acceptedSetup) (.create ["wss://localhost:8142/pcp/"] 3)
        sessionRequested = some s ∧ s.loop = .idle ∧ 0 ∈ s.network.2.established ∧
        s.client = .blocked ∧ s.session = { inProgress := true, requestId := "1" } ∧
        s.created = true ∧ s.network.1.connectionState = .open :=
    ⟨_, rfl, rfl, List.mem_singleton.mpr rfl, rfl, rfl, rfl, rfl⟩
  obtain ⟨receives, responds⟩ := response_steps rfl idle up blocked received
  have path : run (Connector.step acceptedSetup) (.create ["wss://localhost:8142/pcp/"] 3)
      acceptedTrace = some ({ s with loop := .response chunks }.respond acceptedSetup chunks) := by
    refine run_append_iff.mpr ⟨s, reached, ?_⟩
    simp only [run_cons_iff, run_nil]
    exact ⟨_, receives, _, responds, rfl⟩
  have succeeds : isAssociated ({ s with loop := .response chunks }.respond acceptedSetup chunks) =
      true := by
    rw [isAssociated_iff]
    simp [Connector.respond, read, session, Connector.settle, acceptedSetup, plainSetup,
      Connector.record, Connector.notifyOne, associated]
  have guarded : Throughout (Connector.step acceptedSetup) (fun s a => ¬AcceptsNoRequest s a)
      (.create ["wss://localhost:8142/pcp/"] 3) acceptedTrace := by
    refine (throughout_append _ _).mpr ⟨?_, fun m other => ?_⟩
    · have quiet : ∀ a ∈ sessionRequested, a ≠ .respond := by decide
      exact throughout_mono (fun _ _ differs wrong => differs wrong.handler) _ _
        (throughout_of_forall _ _ quiet)
    · obtain rfl := Option.some.inj (reached.symm.trans other)
      refine ⟨fun wrong => ?_, fun m next => ⟨fun wrong => ?_, fun _ _ => trivial⟩⟩
      · cases wrong.handler
      · obtain ⟨_, _, rfl⟩ := connector_cases next
        exact absurd wrong.noRequest (by simp [session])
  exact ⟨_, path, succeeds, (associated_sound acceptedSetup ["wss://localhost:8142/pcp/"] 3
    acceptedTrace _ path guarded).1 succeeds⟩

/-- The first request has had no response, and none was made since the reset; a response
    without an id makes the connector associated. -/
theorem associated_without_answer :
    ∃ s, run (Connector.step anonymousSetup) (.create ["wss://localhost:8142/pcp/"] 3)
        (unrequestedTrace ++
          [.message 0 (dataMessage responseEnvelopeText anonymousText)] ++ [.respond]) = some s ∧
      isAssociated s = true ∧
      ∀ id, ¬Succeeded anonymousSetup (.create ["wss://localhost:8142/pcp/"] 3) (unrequestedTrace ++
        [.message 0 (dataMessage responseEnvelopeText anonymousText)] ++ [.respond]) id := by
  obtain ⟨chunks, received, read⟩ := anonymous_read
  obtain ⟨s, reached, idle, up, blocked, session, associated⟩ : ∃ s,
      run (Connector.step anonymousSetup) (.create ["wss://localhost:8142/pcp/"] 3)
        unrequestedTrace = some s ∧ s.loop = .idle ∧ 0 ∈ s.network.2.established ∧
        s.client = .blocked ∧ s.session = { inProgress := true } ∧
        s.created = true ∧ s.network.1.connectionState = .open :=
    ⟨_, rfl, rfl, List.mem_singleton.mpr rfl, rfl, rfl, rfl, rfl⟩
  obtain ⟨receives, responds⟩ := response_steps rfl idle up blocked received
  have path := run_snoc_iff.mpr ⟨s, reached, receives⟩
  have accepts : AcceptsNoRequest { s with loop := .response chunks } .respond :=
    ⟨rfl, by simp [session], by simp [session], ⟨chunks, rfl, read⟩, associated⟩
  refine ⟨_, run_snoc_iff.mpr ⟨_, path, responds⟩, accepts_associated accepts responds, ?_⟩
  intro id succeeded
  obtain ⟨earlier, _, _, after, split, _⟩ := succeeded_before path accepts succeeded
  have mem : Action.respond ∈ unrequestedTrace ++
      [.message 0 (dataMessage responseEnvelopeText anonymousText)] := by
    rw [split]
    simp
  rcases List.mem_append.mp mem with before | latest
  · exact absurd before (by decide)
  · simp at latest

end PcpSoundness
