import PcpClient.AssociationOutcome
import PcpClient.HandlerOutcome

/-!
Invalid messages received while a Session Association is in progress: which of them
reach the connect() that waits for the association.
-/
namespace PcpInvalidMessages
open PcpTransitions PcpOctets PcpJson PcpSchema PcpProtocol PcpMessageV1 PcpDispatch PcpReceived
open PcpParsedChunks PcpHandler PcpConnector PcpConnectorInvariants PcpAssociation
open PcpConnection hiding Action

def RejectedEarly (cfg : Setup) (msgTxt : Bytes) : Prop :=
  Undeserializable msgTxt ∨ BadEnvelope cfg msgTxt

/-- An Associate Session response whose data is missing, is not JSON or does not match. -/
def BadResponse (cfg : Setup) (msgTxt : Bytes) : Prop :=
  ∃ m envelope, parseMessage 64 msgTxt = .ok m ∧
    cfg.parser m.envelopeChunk.content = some envelope ∧
    V1.envelopeSchema.accepts envelope = true ∧
    envelope.getString "message_type" = .ok V1.associateRespType ∧
    (m.hasData = true → ∀ data, cfg.parser m.dataChunk.content = some data →
      V1.associateResponseSchema.accepts data = false)

def InvalidMessage (cfg : Setup) (msgTxt : Bytes) : Prop :=
  RejectedEarly cfg msgTxt ∨ BadResponse cfg msgTxt

/-- The handling of a message from its reception in s to the end of onMessage() in t, with
    the steps of connect() that fall in between. -/
structure Handling (cfg : Setup) (s : Connector) (hdl : Handle) (msgTxt : Bytes)
    (trace : List Action) (t : Connector) : Prop where
  received : run (Connector.step cfg) s (.message hdl msgTxt :: trace) = some t
  busy : ∀ m, s.step cfg (.message hdl msgTxt) = some m →
    Throughout (Connector.step cfg) (fun m _ => handlesMessage m.loop = true) m trace
  done : handlesMessage t.loop = false

def InProgressWhenTested (cfg : Setup) (s : Connector) (trace : List Action) : Prop :=
  Throughout (Connector.step cfg)
    (fun m a => a = .testInProgress → m.session.inProgress = true) s trace

structure Reported (s t : Connector) : Prop where
  failure : t.session.gotMessagingFailure = true
  notified : s.notifications < t.notifications

theorem rejectedEarly_rejected {cfg : Setup} {msgTxt : Bytes} (early : RejectedEarly cfg msgTxt) :
    ∃ error, cfg.processMessage msgTxt = .rejected error :=
  early.elim undeserializable_rejected badEnvelope_rejected

theorem badResponse_not_early {cfg : Setup} {msgTxt : Bytes} (bad : BadResponse cfg msgTxt) :
    ¬RejectedEarly cfg msgTxt := by
  obtain ⟨m, envelope, parse, parsed, accepted, _⟩ := bad
  rintro (undeserializable | ⟨other, reparse, rejects⟩)
  · exact undeserializable m parse
  · obtain rfl := Except.ok.inj (parse.symm.trans reparse)
    rw [rejects envelope parsed] at accepted
    cases accepted

/-- The handler of such a response never returns: an assertion fails in it, or the state
    stays as it is. -/
theorem badResponse_unread {cfg : Setup} {msgTxt : Bytes} (bad : BadResponse cfg msgTxt) :
    onMessage cfg msgTxt = .aborted ∨ ∃ chunks, onMessage cfg msgTxt = .response chunks ∧
      ∀ s : Connector, s.respond cfg chunks = { s with loop := .idle } := by
  obtain ⟨m, envelope, parse, parsed, accepted, type, noData⟩ := bad
  have listed : (V1.associateResponseSchema, Callback.associateResponse) ∈ protocolCallbacks :=
    List.mem_cons_self ..
  have badData : BadData cfg.parser msgTxt :=
    ⟨m, envelope, _, listed, parse, parsed, accepted, type, noData⟩
  obtain ⟨chunks, received, _⟩ := protocol_received listed parse parsed accepted type
  by_cases asserted : cfg.assertsHold chunks = true
  · have place : onMessage cfg msgTxt = .response chunks := by simp [onMessage, received, asserted]
    refine .inr ⟨chunks, place, fun s => ?_⟩
    cases ended : handleMessage cfg s.session msgTxt with
    | returned => exact absurd ended (badData_not_returned cfg badData s.session)
    | raised e => exact (handler_steps cfg s msgTxt).2 chunks e place ended
    | aborted =>
      have fails := (handler_steps cfg s msgTxt).1.mpr ended
      rw [place] at fails
      cases fails
  · exact .inl (by simp [onMessage, received, asserted])

theorem others_keep {cfg : Setup} {s t : Connector} {a : Action} (other : ¬FromEventLoop a)
    (busy : handlesMessage s.loop = true) (next : s.step cfg a = some t) :
    t.loop = s.loop ∧ t.notifications = s.notifications ∧ a ≠ .testInProgress := by
  have tests : a ≠ .testInProgress := by
    rintro rfl
    exact other trivial
  rcases thread_cases a with ⟨b, rfl⟩ | own | own
  · obtain ⟨permitted, n, _, rfl⟩ := connector_cases next
    refine ⟨?_, rfl, tests⟩
    rcases loopAfter_cases n permitted with same | ⟨idle, _⟩ | ⟨closing | closing, _⟩
    · exact same
    · simp [idle, handlesMessage] at busy
    · simp [closing, handlesMessage] at busy
    · simp [closing, handlesMessage] at busy
  · have left := connect_leaves own next
    exact ⟨left.loop, left.notifications, tests⟩
  · exact absurd own other

/-- How far the report of a rejected message is: before the test, waiting for the mutex,
    recorded, or given up because no association was in progress. -/
inductive Reporting (cfg : Setup) (s : Connector) (error : String) (m : Connector)
    (past : List Action) : Prop where
  | untested (place : m.loop = .reporting error) (silent : m.notifications = s.notifications)
      (tested : InProgressWhenTested cfg s past)
  | waiting (place : m.loop = .reportLock error) (silent : m.notifications = s.notifications)
      (tested : InProgressWhenTested cfg s past)
  | recorded (place : m.loop = .idle) (reported : Reported s m)
      (wakes : m.client = .blocked → m.wakePending = true)
      (tested : InProgressWhenTested cfg s past)
  | dropped (place : m.loop = .idle) (silent : m.notifications = s.notifications)
      (tested : ¬InProgressWhenTested cfg s past)

theorem tested_snoc {cfg : Setup} {s m : Connector} {past : List Action} {a : Action}
    (path : run (Connector.step cfg) s past = some m) (other : a ≠ .testInProgress) :
    InProgressWhenTested cfg s (past ++ [a]) ↔ InProgressWhenTested cfg s past := by
  rw [InProgressWhenTested, throughout_snoc a path]
  exact ⟨fun tested => tested.1, fun tested => ⟨tested, fun same => absurd same other⟩⟩

theorem reporting_step {cfg : Setup} {s m t : Connector} {error : String} {past : List Action}
    {a : Action} (path : run (Connector.step cfg) s past = some m)
    (reporting : Reporting cfg s error m past) (busy : handlesMessage m.loop = true)
    (next : m.step cfg a = some t) : Reporting cfg s error t (past ++ [a]) := by
  by_cases own : FromEventLoop a
  · have moved := connector_cases next
    cases reporting with
    | untested place silent tested =>
      have test : a = .testInProgress := by
        cases a <;> simp only [FromEventLoop] at own <;> simp [place] at moved
        rfl
      subst test
      have later : t = m.testInProgress (.reportLock error) := by simpa [place] using moved
      subst later
      cases progress : m.session.inProgress with
      | true =>
        refine .waiting (by simp [Connector.testInProgress, progress]) silent ?_
        exact (throughout_snoc _ path).mpr ⟨tested, fun _ => progress⟩
      | false =>
        refine .dropped (by simp [Connector.testInProgress, progress]) silent fun every => ?_
        have now := ((throughout_snoc _ path).mp every).2 rfl
        simp [progress] at now
    | waiting place silent tested =>
      have report : a = .report := by
        cases a <;> simp only [FromEventLoop] at own <;> simp [place] at moved
        rfl
      subst report
      obtain ⟨other, here, _, rfl⟩ := moved
      refine .recorded rfl ⟨rfl, ?_⟩ ?_ ((tested_snoc path (by simp)).mpr tested)
      · simp [Connector.report, Connector.notifyOne, Connector.record, silent]
      · intro blocked
        have before : m.client = .blocked := blocked
        simp [Connector.report, Connector.notifyOne, Connector.record, before]
    | recorded place | dropped place => simp [place, handlesMessage] at busy
  · obtain ⟨loop, notifications, other⟩ := others_keep own busy next
    cases reporting with
    | untested place silent tested =>
      exact .untested (loop.trans place) (notifications.trans silent)
        ((tested_snoc path other).mpr tested)
    | waiting place silent tested =>
      exact .waiting (loop.trans place) (notifications.trans silent)
        ((tested_snoc path other).mpr tested)
    | recorded place | dropped place => simp [place, handlesMessage] at busy

theorem rejected_handled {cfg : Setup} {s t : Connector} {hdl : Handle} {msgTxt : Bytes}
    {trace : List Action} {error : String} (rejected : cfg.processMessage msgTxt = .rejected error)
    (handling : Handling cfg s hdl msgTxt trace t) :
    Reporting cfg s error t (.message hdl msgTxt :: trace) := by
  obtain ⟨received, busy, _⟩ := handling
  obtain ⟨m, first, rest⟩ := run_cons_iff.mp received
  obtain ⟨_, _, rfl⟩ := connector_cases first
  have start : Reporting cfg s error { s with loop := onMessage cfg msgTxt }
      [.message hdl msgTxt] := by
    refine .untested (by simp [onMessage, rejected]) rfl ⟨fun same => ?_, fun _ _ => trivial⟩
    cases same
  have whole := run_traced
    (fun m past => run (Connector.step cfg) s past = some m ∧ Reporting cfg s error m past)
    (fun m past a t held busy next =>
      ⟨run_snoc_iff.mpr ⟨m, held.1, next⟩, reporting_step held.1 held.2 busy next⟩)
    trace _ [.message hdl msgTxt] t ⟨run_cons_iff.mpr ⟨_, first, rfl⟩, start⟩ (busy _ first) rest
  exact whole.2

theorem unread_handled {cfg : Setup} {s t : Connector} {hdl : Handle} {msgTxt : Bytes}
    {trace : List Action} (bad : BadResponse cfg msgTxt)
    (handling : Handling cfg s hdl msgTxt trace t) : t.notifications = s.notifications := by
  obtain ⟨received, busy, _⟩ := handling
  obtain ⟨m, first, rest⟩ := run_cons_iff.mp received
  obtain ⟨_, _, rfl⟩ := connector_cases first
  have busy := busy _ first
  rcases badResponse_unread bad with aborted | ⟨chunks, place, dropped⟩
  · cases trace with
    | nil =>
      obtain rfl := Option.some.inj rest
      rfl
    | cons a trace =>
      have wrong := busy.1
      simp [aborted, handlesMessage] at wrong
  · have whole := run_under (fun m _ => handlesMessage m.loop = true)
      (fun m => m.notifications = s.notifications ∧ (m.loop = .response chunks ∨ m.loop = .idle))
      (fun m a t held busy next => by
        obtain ⟨silent, place | idle⟩ := held
        · by_cases own : FromEventLoop a
          · have moved := connector_cases next
            have respond : a = .respond := by
              cases a <;> simp only [FromEventLoop] at own <;> simp [place] at moved
              rfl
            subst respond
            obtain ⟨other, here, _, rfl⟩ := moved
            obtain rfl := LoopPc.response.inj (here.symm.trans place)
            rw [dropped]
            exact ⟨silent, .inr rfl⟩
          · obtain ⟨loop, notifications, _⟩ := others_keep own busy next
            exact ⟨notifications.trans silent, .inl (loop.trans place)⟩
        · simp [idle, handlesMessage] at busy)
      ⟨rfl, .inl place⟩ busy rest
    exact whole.1

theorem reported_wakes {cfg : Setup} {t : Connector} (idle : t.loop = .idle)
    (failure : t.session.gotMessagingFailure = true) (blocked : t.client = .blocked) :
    ∃ u, t.step cfg (.wake false) = some u ∧ u.client = .idle ∧
      u.outcome = some (.associationError "invalid Associate Session response") := by
  refine ⟨t.wake false, ?_, ?_⟩
  · simp [Connector.step, Connector.act, idle, blocked, LoopPc.isDead, LoopPc.holdsSession]
  · simp [Connector.wake, SessionAssociation.settled, failure, Connector.conclude,
      Connector.finish]

/-- An invalid message is recorded and notified if and only if it is rejected before its
    data is looked at and an association is still in progress when processMessage() tests
    that; a connect() that waits for the association is then woken and reports an error. -/
theorem invalid_reported_iff (cfg : Setup) (s t : Connector) (hdl : Handle) (msgTxt : Bytes)
    (trace : List Action) (invalid : InvalidMessage cfg msgTxt)
    (handling : Handling cfg s hdl msgTxt trace t) :
    (Reported s t ↔ RejectedEarly cfg msgTxt ∧
      InProgressWhenTested cfg s (.message hdl msgTxt :: trace)) ∧
    (Reported s t → t.client = .blocked → t.wakePending = true ∧
      ∃ u, t.step cfg (.wake false) = some u ∧ u.client = .idle ∧
        u.outcome = some (.associationError "invalid Associate Session response")) := by
  rcases invalid with early | bad
  · obtain ⟨error, rejected⟩ := rejectedEarly_rejected early
    cases rejected_handled rejected handling with
    | untested place | waiting place =>
      have finished := handling.done
      simp [place, handlesMessage] at finished
    | recorded place reported wakes tested =>
      exact ⟨⟨fun _ => ⟨early, tested⟩, fun _ => reported⟩, fun _ blocked =>
        ⟨wakes blocked, reported_wakes place reported.failure blocked⟩⟩
    | dropped place silent tested =>
      have unreported : ¬Reported s t := fun reported => by
        have notified := reported.notified
        omega
      exact ⟨⟨fun reported => absurd reported unreported, fun both => absurd both.2 tested⟩,
        fun reported => absurd reported unreported⟩
  · have unreported : ¬Reported s t := fun reported => by
      have notified := reported.notified
      have silent := unread_handled bad handling
      omega
    exact ⟨⟨fun reported => absurd reported unreported,
      fun both => absurd both.1 (badResponse_not_early bad)⟩,
      fun reported => absurd reported unreported⟩

theorem rejected_handling {cfg : Setup} {s : Connector} {hdl : Handle} {msgTxt : Bytes}
    {error : String} (rejected : cfg.processMessage msgTxt = .rejected error)
    (idle : s.loop = .idle) (up : hdl ∈ s.network.2.established) (blocked : s.client = .blocked)
    (progress : s.session.inProgress = true) :
    ∃ t, Handling cfg s hdl msgTxt [.testInProgress, .report] t ∧
      InProgressWhenTested cfg s [.message hdl msgTxt, .testInProgress, .report] := by
  have receives : s.step cfg (.message hdl msgTxt) = some { s with loop := .reporting error } := by
    simp [Connector.step, Connector.act, idle, up, LoopPc.isDead, LoopPc.isIdle, onMessage,
      rejected]
  have tests : { s with loop := .reporting error }.step cfg .testInProgress =
      some { s with loop := .reportLock error } := by
    simp [Connector.step, Connector.act, LoopPc.isDead, Connector.testInProgress, progress]
  have reports : { s with loop := .reportLock error }.step cfg .report =
      some ({ s with loop := .reportLock error }.report error) := by
    simp [Connector.step, Connector.act, LoopPc.isDead, blocked, ClientPc.holdsSession]
  refine ⟨{ s with loop := .reportLock error }.report error, ⟨?_, fun m first => ?_, rfl⟩, ?_⟩
  · simp only [run_cons_iff, run_nil]
    exact ⟨_, receives, _, tests, _, reports, rfl⟩
  · obtain rfl := Option.some.inj (receives.symm.trans first)
    rw [throughout_cons tests, throughout_cons reports]
    exact ⟨rfl, rfl, trivial⟩
  · rw [InProgressWhenTested, throughout_cons receives, throughout_cons tests,
      throughout_cons reports]
    exact ⟨by simp, fun _ => progress, by simp, trivial⟩

theorem empty_message_rejected (cfg : Setup) : RejectedEarly cfg [] :=
  .inl fun m parsed => by cases parsed

theorem empty_message_reported :
    ∃ s t, run (Connector.step (plainSetup fun _ => none))
        (.create ["wss://localhost:8142/pcp/"] 3) sessionRequested = some s ∧
      s.session.inProgress = true ∧
      Handling (plainSetup fun _ => none) s 0 [] [.testInProgress, .report] t ∧ Reported s t := by
  obtain ⟨s, reached, idle, up, blocked, session⟩ :=
    sessionRequested_waits (plainSetup fun _ => none)
  have early : RejectedEarly (plainSetup fun _ => none) [] := empty_message_rejected _
  obtain ⟨error, rejected⟩ := rejectedEarly_rejected early
  obtain ⟨t, handling, tested⟩ :=
    rejected_handling rejected idle up blocked (by rw [session])
  exact ⟨s, t, reached, by rw [session], handling,
    (invalid_reported_iff _ s t 0 [] _ (.inl early) handling).1.mpr ⟨early, tested⟩⟩

def nonsenseText : Bytes := asciiBytes "success"

def nonsenseSetup : Setup := plainSetup (responseParser nonsenseText none)

theorem nonsense_badResponse :
    BadResponse nonsenseSetup (dataMessage responseEnvelopeText nonsenseText) := by
  have length := responseEnvelopeText_length
  have short : nonsenseText.length = 7 := by simp [nonsenseText, asciiBytes]
  have parsed : responseParser nonsenseText none responseEnvelopeText = some responseEnvelope :=
    responseEnvelope_parsed (by omega)
  refine ⟨_, responseEnvelope, dataMessage_parsed (by omega) (by omega)
    (by simp [nonsenseText, asciiBytes]), ?_, responseEnvelope_accepted, rfl, ?_⟩
  · simpa only [nonsenseSetup, plainSetup, MessageChunk.ofContent] using parsed
  · intro _ data read
    simp [nonsenseSetup, plainSetup, responseParser, MessageChunk.ofContent] at read

/-- The data of the response is not JSON; connect() goes on waiting. -/
theorem nonsense_response_unreported :
    ∃ s t, run (Connector.step nonsenseSetup) (.create ["wss://localhost:8142/pcp/"] 3)
        sessionRequested = some s ∧ s.session.inProgress = true ∧
      InvalidMessage nonsenseSetup (dataMessage responseEnvelopeText nonsenseText) ∧
      Handling nonsenseSetup s 0 (dataMessage responseEnvelopeText nonsenseText) [.respond] t ∧
      t.session.gotMessagingFailure = false ∧ t.notifications = s.notifications ∧
      t.client = .blocked := by
  obtain ⟨s, reached, idle, up, blocked, session⟩ := sessionRequested_waits nonsenseSetup
  obtain ⟨chunks, received, read⟩ : ∃ chunks, nonsenseSetup.processMessage
      (dataMessage responseEnvelopeText nonsenseText) = .callback .associateResponse chunks ∧
        readAssociateResponse chunks = .error (.dataKeyError "success") :=
    response_unreadable (by simp [nonsenseText, asciiBytes]) (by simp [nonsenseText, asciiBytes])
  obtain ⟨receives, responds⟩ := response_steps rfl idle up blocked received
  have unread : ({ s with loop := .response chunks }).respond nonsenseSetup chunks =
      { s with loop := .idle } := by
    simp [Connector.respond, read]
  rw [unread] at responds
  refine ⟨s, { s with loop := .idle }, reached, by rw [session], .inr nonsense_badResponse,
    ⟨?_, fun m first => ?_, rfl⟩, by rw [session], rfl, blocked⟩
  · simp only [run_cons_iff, run_nil]
    exact ⟨_, receives, _, responds, rfl⟩
  · obtain rfl := Option.some.inj (receives.symm.trans first)
    rw [throughout_cons responds]
    exact ⟨rfl, trivial⟩

end PcpInvalidMessages
