import PcpClient.AssociationOutcome

/-!
The notifications of session_association_.cond_var: a handler that settles the session while
connect() waits also notifies it, unless a callback of the user throws in between.
-/
namespace PcpWakeUp
open PcpTransitions PcpConnector PcpConnectorInvariants PcpDispatch PcpAssociation PcpReceived
open PcpConnection hiding Action

def callbackReturns (s : Connector) : Action → Bool
  | .responseCallbackEnds true => !s.loop.holdsSession
  | _ => true

/-- The handler has finished, the predicate of the wait is true, and connect() is blocked with
    no notification on its way. -/
structure LostWakeUp (s : Connector) : Prop where
  finished : s.loop = .idle
  blocked : s.client = .blocked
  settled : s.session.settled = true
  quiet : s.wakePending = false

/-- A handler that makes the predicate true notifies at once, or runs the callback of the user
    before; it notifies then when that ends. -/
structure Announces (s : Connector) (a : Action) (t : Connector) : Prop where
  raised : FromEventLoop a → s.session.settled = false → t.session.settled = true →
    t.notifications = s.notifications + 1 ∨ t.loop.holdsSession = true
  finished : s.loop.holdsSession = true → t.loop.holdsSession = false →
    t.notifications = s.notifications + 1

def WellNotified (cfg : Setup) (s : Connector) (a : Action) : Prop :=
  ∀ t, s.step cfg a = some t → Announces s a t ∧ ¬LostWakeUp t

def Woken (s : Connector) : Prop :=
  s.client = .blocked → s.session.settled = true →
    s.wakePending = true ∨ s.loop.holdsSession = true

inductive Notice (s t : Connector) : Prop where
  | none (outside : s.loop.holdsSession = false)
      (settled : t.session.settled = true → s.session.settled = true)
      (wakePending : t.wakePending = s.wakePending)
  | postponed (outside : s.loop.holdsSession = false) (holds : t.loop.holdsSession = true)
  | notified (counted : t.notifications = s.notifications + 1)
      (wakePending : s.client = .blocked → t.wakePending = true)

theorem settle_notice {s : Connector} {cfg : Setup} {success : Bool} {error : String}
    (e : SessionEvent) (outside : s.loop.holdsSession = false) :
    Notice s ((s.record e).settle cfg success error) := by
  unfold Connector.settle
  split
  · exact .postponed outside rfl
  · refine .notified rfl fun blocked => ?_
    simp [Connector.notifyOne, Connector.record, blocked]

theorem respond_notice {s : Connector} {cfg : Setup} {chunks : PcpParsedChunks.ParsedChunks}
    (place : s.loop = .response chunks) : Notice s (s.respond cfg chunks) := by
  have outside : s.loop.holdsSession = false := by rw [place]; rfl
  unfold Connector.respond
  split
  · exact .none outside id rfl
  · dsimp only
    split
    · exact .none outside id rfl
    · split
      · exact settle_notice _ outside
      · split
        · exact settle_notice _ outside
        · exact .none outside id rfl

theorem eventLoop_notice {cfg : Setup} {s t : Connector} {a : Action} (own : FromEventLoop a)
    (returns : callbackReturns s a = true) (next : s.step cfg a = some t) : Notice s t := by
  have moved := connector_cases next
  cases a <;> simp only [FromEventLoop] at own
  case associateSession id sent =>
    obtain ⟨place, _, _, _, rfl⟩ := moved
    refine .none (by rw [place]; rfl) (fun settled => ?_) rfl
    simp only [Connector.associateSession, SessionAssociation.settled, Bool.or_false] at settled
    simp [SessionAssociation.settled, settled]
  case closeTimings => obtain ⟨place, rfl⟩ := moved; exact .none (by rw [place]; rfl) id rfl
  case message => obtain ⟨place, _, rfl⟩ := moved; exact .none (by rw [place]; rfl) id rfl
  case testInProgress =>
    obtain ⟨_, place, rfl⟩ | ⟨_, place, rfl⟩ := moved <;>
      exact .none (by rw [place]; rfl) id rfl
  case report =>
    obtain ⟨error, _, _, rfl⟩ := moved
    refine .notified rfl fun blocked => ?_
    simp [Connector.report, Connector.notifyOne, Connector.record, blocked]
  case respond => obtain ⟨chunks, place, _, rfl⟩ := moved; exact respond_notice place
  case responseCallbackEnds throws =>
    obtain ⟨place, rfl⟩ := moved
    cases throws with
    | true => simp [callbackReturns, place, LoopPc.holdsSession] at returns
    | false =>
      refine .notified rfl fun blocked => ?_
      simp [Connector.responseCallbackEnds, Connector.notifyOne, blocked]
  case userCallbackEnds throws =>
    obtain ⟨callbackNext, place, rfl⟩ := moved
    cases callbackNext <;> cases throws <;> exact .none (by rw [place]; rfl) id rfl
  case cite =>
    obtain ⟨c, place, _, rfl⟩ := moved
    unfold Connector.cite
    split
    · refine .notified rfl fun blocked => ?_
      simp [Connector.notifyOne, Connector.record, blocked]
    · exact .none (by rw [place]; rfl) id rfl

theorem holds_through {s : Connector} {a : PcpConnection.Action} (n : PcpEndpoint.System)
    (permitted : s.permits a = true) (holds : s.loop.holdsSession = true) :
    (loopAfter s.loop n a).holdsSession = true := by
  rcases loopAfter_cases n permitted with same | ⟨idle, _⟩ | ⟨closing | inClose, _⟩
  · rw [same]
    exact holds
  · rw [idle] at holds
    cases holds
  · rw [closing] at holds
    cases holds
  · rw [inClose] at holds
    cases holds

theorem connect_blocks {cfg : Setup} {s t : Connector} {a : Action} (own : FromConnect a)
    (next : s.step cfg a = some t) (blocked : t.client = .blocked) :
    t.session.settled = false := by
  have moved := connector_cases next
  cases a <;> simp only [FromConnect] at own
  case callConnect n =>
    obtain ⟨_, rfl⟩ := moved
    unfold Connector.callConnect at blocked
    dsimp only at blocked
    split at blocked <;> cases blocked
  case construct ok => obtain ⟨_, rfl⟩ := moved; cases ok <;> cases blocked
  case readState =>
    obtain ⟨_, rfl⟩ := moved
    unfold Connector.readState at blocked
    split at blocked <;> cases blocked
  case awaitEnds | resetSession | setInProgress => obtain ⟨_, rfl⟩ := moved; cases blocked
  case lockSession => obtain ⟨_, _, rfl⟩ := moved; cases blocked
  case enterConnect => obtain ⟨_, n, _, rfl⟩ := moved; cases blocked
  case connectEnds =>
    obtain ⟨_, _, r, _, rfl⟩ := moved
    cases r with
    | returned =>
      simp only [Connector.connectEnds] at blocked ⊢
      split
      · rename_i settled
        simp [settled, (conclude_keeps _).1] at blocked
      · rename_i unsettled
        simpa using unsettled
    | _ => cases blocked
  case wake timedOut =>
    obtain ⟨_, _, rfl⟩ := moved
    unfold Connector.wake at blocked ⊢
    split
    · rename_i ends
      simp [ends, (conclude_keeps _).1] at blocked
    · rename_i stays
      simp only [Bool.or_eq_true, not_or, Bool.not_eq_true] at stays
      exact stays.2

theorem woken_step {cfg : Setup} {s t : Connector} {a : Action} (woken : Woken s)
    (returns : callbackReturns s a = true) (next : s.step cfg a = some t) : Woken t := by
  intro blocked settled
  rcases thread_cases a with ⟨b, rfl⟩ | own | own
  · obtain ⟨permitted, n, _, rfl⟩ := connector_cases next
    have before : s.client = .blocked := clientAfter_same permitted blocked (by simp)
    exact (woken before settled).imp id (holds_through n permitted)
  · simp [connect_blocks own next blocked] at settled
  · have before : s.client = .blocked := (eventLoop_keeps own next).1 ▸ blocked
    cases eventLoop_notice own returns next with
    | none outside earlier wakePending =>
      rcases woken before (earlier settled) with pending | holds
      · exact .inl (wakePending.trans pending)
      · simp [outside] at holds
    | postponed _ holds => exact .inr holds
    | notified _ wakePending => exact .inl (wakePending before)

theorem announces_step {cfg : Setup} {s t : Connector} {a : Action}
    (returns : callbackReturns s a = true) (next : s.step cfg a = some t) : Announces s a t := by
  refine ⟨fun own unsettled settled => ?_, fun holds released => ?_⟩
  · cases eventLoop_notice own returns next with
    | none _ earlier => simp [earlier settled] at unsettled
    | postponed _ holds => exact .inr holds
    | notified counted => exact .inl counted
  · rcases thread_cases a with ⟨b, rfl⟩ | own | own
    · obtain ⟨permitted, n, _, rfl⟩ := connector_cases next
      have still : (s.afterNetwork n b).loop.holdsSession = true := holds_through n permitted holds
      rw [still] at released
      cases released
    · rw [(connect_leaves own next).loop, holds] at released
      cases released
    · cases eventLoop_notice own returns next with
      | none outside => simp [outside] at holds
      | postponed outside => simp [outside] at holds
      | notified counted => exact counted

theorem throwing_callback_unannounced (cfg : Setup) {s : Connector} {a : Action}
    (throws : callbackReturns s a = false) :
    ∃ t, s.step cfg a = some t ∧ ¬Announces s a t := by
  cases a with
  | responseCallbackEnds throws' =>
    cases throws' with
    | false => cases throws
    | true =>
      have place : s.loop = .responseCallback := by
        cases here : s.loop <;> simp_all [callbackReturns, LoopPc.holdsSession]
      refine ⟨s.responseCallbackEnds true, ?_, fun announces => ?_⟩
      · simp [Connector.step, Connector.act, place, LoopPc.isDead]
      · have counted := announces.finished (by rw [place]; rfl) rfl
        simp [Connector.responseCallbackEnds] at counted
  | _ => cases throws

/-- Along every run, the handlers notify and no wake-up is lost if and only if no callback of
    the user for Associate Session responses throws. -/
theorem association_notified_iff (cfg : Setup) (brokerWsUris : List String)
    (pongTimeoutsBeforeRetry : Nat) (trace : List Action) :
    Throughout (Connector.step cfg) (WellNotified cfg)
        (.create brokerWsUris pongTimeoutsBeforeRetry) trace ↔
      Throughout (Connector.step cfg) (fun s a => callbackReturns s a = true)
        (.create brokerWsUris pongTimeoutsBeforeRetry) trace := by
  constructor
  · refine throughout_mono (fun s a notified => ?_) trace _
    by_contra throws
    obtain ⟨t, next, silent⟩ := throwing_callback_unannounced cfg (Bool.eq_false_iff.mpr throws)
    exact silent (notified t next).1
  · intro returns
    refine throughout_of_prefixes trace _ fun before a after m split path t next => ?_
    rw [split, throughout_append] at returns
    have here := (returns.2 m path).1
    have woken : Woken m := run_under (fun s a => callbackReturns s a = true) Woken
      (fun _ _ _ held returns next => woken_step held returns next)
      (fun blocked => by (cases blocked)) returns.1 path
    refine ⟨announces_step here next, fun lost => ?_⟩
    rcases woken_step woken here next lost.blocked lost.settled with pending | holds
    · simp [lost.quiet] at pending
    · simp [lost.finished, LoopPc.holdsSession] at holds

theorem processMessage_callback (cfg : Setup) (set : Bool) (msgTxt : PcpOctets.Bytes) :
    { cfg with associateResponseCallback := set }.processMessage msgTxt =
      cfg.processMessage msgTxt := rfl

def callbackSetup : Setup := { acceptedSetup with associateResponseCallback := true }

def thrownTrace : List Action :=
  sessionRequested ++ [.message 0 (dataMessage responseEnvelopeText acceptedText), .respond,
    .responseCallbackEnds true]

theorem thrown_callback_loses :
    ∃ s, run (Connector.step callbackSetup) (.create ["wss://localhost:8142/pcp/"] 3)
        thrownTrace = some s ∧ LostWakeUp s ∧ s.session.success = true ∧ s.notifications = 0 := by
  obtain ⟨chunks, received, read⟩ := accepted_read
  obtain ⟨s, reached, idle, up, blocked, session, silent⟩ : ∃ s,
      run (Connector.step callbackSetup) (.create ["wss://localhost:8142/pcp/"] 3)
        sessionRequested = some s ∧ s.loop = .idle ∧ 0 ∈ s.network.2.established ∧
        s.client = .blocked ∧ s.session = { inProgress := true, requestId := "1" } ∧
        s.notifications = 0 ∧ s.wakePending = false :=
    ⟨_, rfl, rfl, List.mem_singleton.mpr rfl, rfl, rfl, rfl, rfl⟩
  have same : callbackSetup.processMessage (dataMessage responseEnvelopeText acceptedText) =
      .callback .associateResponse chunks :=
    (processMessage_callback acceptedSetup true _).trans received
  obtain ⟨receives, responds⟩ := response_steps rfl idle up blocked same
  have settles : { s with loop := .response chunks }.respond callbackSetup chunks =
      { s.record (.responded "1" true) with
        session := { s.session with success := true, inProgress := false }
        loop := .responseCallback } := by
    simp [Connector.respond, read, session, Connector.record, Connector.settle, callbackSetup]
  rw [settles] at responds
  obtain ⟨t, throws, idle', blocked', session', quiet, unnotified⟩ : ∃ t,
      { s.record (.responded "1" true) with
        session := { s.session with success := true, inProgress := false }
        loop := .responseCallback }.step callbackSetup (.responseCallbackEnds true) = some t ∧
      t.loop = .idle ∧ t.client = .blocked ∧
      t.session = { s.session with success := true, inProgress := false } ∧
      t.wakePending = false ∧ t.notifications = 0 :=
    ⟨_, rfl, rfl, blocked, rfl, silent.2, silent.1⟩
  have path : run (Connector.step callbackSetup) s
      [.message 0 (dataMessage responseEnvelopeText acceptedText), .respond,
        .responseCallbackEnds true] = some t := by
    simp only [run_cons_iff, run_nil]
    exact ⟨_, receives, _, responds, _, throws, rfl⟩
  refine ⟨t, run_append_iff.mpr ⟨s, reached, path⟩, ⟨idle', blocked', ?_, quiet⟩, ?_, unnotified⟩
  · rw [session']
    rfl
  · rw [session']

end PcpWakeUp
