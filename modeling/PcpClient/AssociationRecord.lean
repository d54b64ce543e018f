import PcpClient.SessionTimings

/-!
What a call of connect() does to association_timings_: the request that a completion is for,
and what is left of the record by a call in which no request was made.
-/
namespace PcpAssociationRecord
open PcpTransitions PcpTimings PcpConnector PcpConnectorInvariants PcpAssociation PcpSessionTimings
open PcpDispatch
open PcpConnection hiding Action

/-- The connector with the time of the last associateSession() since connect() was called, and
    the record as the event loop alone would have left it. -/
structure CallRecord where
  connector : Connector
  requestedAt : Option Nat := none
  left : AssociationTimings := {}

def closedTimings (s : Connector) (timings : AssociationTimings) : AssociationTimings :=
  { s with associationTimings := timings }.closeAssociationTimings.associationTimings

def CallRecord.observe (w : CallRecord) (t : Connector) : Action → CallRecord
  | .callConnect _ => { connector := t, left := t.associationTimings }
  | .associateSession _ _ =>
    { connector := t
      requestedAt := some w.connector.network.1.clock
      left := .reset w.connector.network.1.clock }
  | .closeTimings => { w with connector := t, left := closedTimings w.connector w.left }
  | _ => { w with connector := t }

def CallRecord.step (cfg : Setup) (w : CallRecord) (a : Action) : Option CallRecord :=
  (w.connector.step cfg a).map fun t => w.observe t a

def CallRecord.create (brokerWsUris : List String) (pongTimeoutsBeforeRetry : Nat) :
    CallRecord where
  connector := .create brokerWsUris pongTimeoutsBeforeRetry

/-- connect() reaches setCompleted(): Connection::connect() has thrown a processing error, or
    the wait ends with the session settled. -/
def completes (s : Connector) : Action → Bool
  | .connectEnds => decide (s.network.1.result = some .processingError)
  | .wake _ => s.session.settled
  | _ => false

def completesUnrequested (cfg : Setup) (w : CallRecord) (a : Action) : Bool :=
  (w.connector.step cfg a).isSome && w.requestedAt.isNone && completes w.connector a

def ForRequest (w : CallRecord) (t : Connector) : Prop :=
  ∃ requested, w.requestedAt = some requested ∧ t.associationTimings.completed = true ∧
    t.associationTimings.start = requested ∧ requested ≤ t.associationTimings.association

/-- completed becomes true, and connect() completes the record, for a request of the call only;
    a call that fails without one leaves what the event loop has recorded. -/
structure Genuine (w : CallRecord) (a : Action) (t : Connector) : Prop where
  becomes : w.connector.associationTimings.completed = false →
    t.associationTimings.completed = true → ForRequest w t
  completion : completes w.connector a = true → ForRequest w t
  failed : w.connector.client ≠ .idle → t.client = .idle → t.outcome ≠ some .returned →
    w.requestedAt = none → t.associationTimings = w.left

def KeepsRecord (cfg : Setup) (w : CallRecord) (a : Action) : Prop :=
  ∀ t, w.connector.step cfg a = some t → Genuine w a t

/-- During a call, the record is what the event loop has made of it, and that of a request of
    the call is neither completed nor closed. -/
structure Pending (w : CallRecord) : Prop where
  placed : Placed w.connector
  left : w.connector.client ≠ .idle → w.connector.associationTimings = w.left
  requested : w.connector.client ≠ .idle → ∀ requested, w.requestedAt = some requested →
    w.connector.associationTimings = .reset requested ∧ requested ≤ w.connector.network.1.clock

theorem record_step_iff {cfg : Setup} {w v : CallRecord} {a : Action} :
    w.step cfg a = some v ↔ ∃ t, w.connector.step cfg a = some t ∧ w.observe t a = v :=
  Option.map_eq_some_iff

@[simp] theorem observe_connector (w : CallRecord) (t : Connector) (a : Action) :
    (w.observe t a).connector = t := by
  cases a <;> rfl

theorem conclude_settled {s : Connector} (settled : s.session.settled = true) :
    ∃ success, s.conclude.associationTimings =
      s.associationTimings.setCompleted s.network.1.clock success := by
  unfold Connector.conclude
  split
  · exact ⟨false, rfl⟩
  · rename_i intact
    split
    · rename_i progress
      simp [SessionAssociation.settled, progress, intact] at settled
    · split
      · exact ⟨false, rfl⟩
      · exact ⟨true, rfl⟩

theorem conclude_unsettled {s : Connector} (unsettled : s.session.settled = false) :
    s.conclude.associationTimings = s.associationTimings := by
  simp only [SessionAssociation.settled, Bool.or_eq_false_iff, Bool.not_eq_false'] at unsettled
  simp [Connector.conclude, unsettled, Connector.finish]

theorem connect_writes {cfg : Setup} {s t : Connector} {a : Action} (placed : Placed s)
    (own : FromConnect a) (next : s.step cfg a = some t) :
    t.associationTimings = s.associationTimings ∨
      completes s a = true ∧ s.client ≠ .idle ∧ t.client = .idle ∧
        ∃ success, t.associationTimings =
          s.associationTimings.setCompleted s.network.1.clock success := by
  have moved := connector_cases next
  cases a with
  | connectEnds =>
    obtain ⟨here, _, r, result, rfl⟩ := moved
    cases r with
    | returned =>
      -- connect() still holds the mutex, so no handler has settled the session
      have session := placed.calling (by rw [here]; rfl)
      simp [Connector.connectEnds, session, SessionAssociation.settled]
    | processingError =>
      exact .inr ⟨by simp [completes, result], by simp [here], rfl, false, rfl⟩
    | configError | fatalError attempts | otherException => exact .inl rfl
  | wake timedOut =>
    obtain ⟨here, _, rfl⟩ := moved
    cases settled : s.session.settled with
    | true =>
      simp only [Connector.wake, settled, Bool.or_true, if_true]
      exact .inr ⟨settled, by simp [here], (conclude_keeps _).1,
        conclude_settled (s := { s with wakePending := false }) settled⟩
    | false =>
      unfold Connector.wake
      split
      · exact .inl (conclude_unsettled (s := { s with wakePending := false }) settled)
      · exact .inl rfl
  | _ => exact .inl (connect_keeps_timings own (by simp) (by simp) next)

theorem connect_running {cfg : Setup} {s t : Connector} {a : Action} (own : FromConnect a)
    (other : ∀ n, a ≠ .callConnect n) (next : s.step cfg a = some t) : s.client ≠ .idle := by
  have moved := connector_cases next
  cases a <;> simp only [FromConnect] at own
  case callConnect n => exact absurd rfl (other n)
  all_goals simp [moved.1]

theorem network_running {s : Connector} {n : PcpEndpoint.System} {b : PcpConnection.Action}
    (permitted : s.permits b = true) :
    (s.afterNetwork n b).client = .idle ↔ s.client = .idle := by
  show clientAfter s.client n b = .idle ↔ s.client = .idle
  rcases clientAfter_cases n permitted with same | ⟨inside | inside, later | later | later⟩
  · rw [same]
  all_goals
    rw [later]
    simp [inside]

theorem closedTimings_same (s : Connector) :
    closedTimings s s.associationTimings = s.closeAssociationTimings.associationTimings := rfl

theorem closed_reset {s : Connector} {start : Nat} (fresh : s.associationTimings = .reset start) :
    s.closeAssociationTimings.associationTimings = .reset start := by
  simp [Connector.closeAssociationTimings, fresh, AssociationTimings.reset]

theorem pending_step {cfg : Setup} {w v : CallRecord} {a : Action} (pending : Pending w)
    (next : w.step cfg a = some v) : Pending v := by
  obtain ⟨t, moves, rfl⟩ := record_step_iff.mp next
  have placed := placed_step pending.placed moves
  have clock := clock_grows moves
  rcases thread_cases a with ⟨b, rfl⟩ | own | own
  · obtain ⟨permitted, n, _, rfl⟩ := connector_cases moves
    have running : (w.connector.afterNetwork n b).client ≠ .idle → w.connector.client ≠ .idle :=
      fun later now => later ((network_running permitted).mpr now)
    refine ⟨placed, fun later => pending.left (running later), fun later requested at' => ?_⟩
    obtain ⟨fresh, past⟩ := pending.requested (running later) requested at'
    exact ⟨fresh, past.trans clock⟩
  · cases a with
    | callConnect n =>
      exact ⟨by simpa using placed, fun _ => by simp [CallRecord.observe],
        fun _ _ none => by cases none⟩
    | construct ok | readState | awaitEnds | lockSession | resetSession | setInProgress
    | enterConnect | connectEnds | wake timedOut =>
      have running := connect_running own (by simp) moves
      refine ⟨placed, fun later => ?_, fun later requested at' => ?_⟩
      all_goals
        rcases connect_writes pending.placed own moves with same | ⟨_, _, ended, _⟩
      · exact same.trans (pending.left running)
      · exact absurd ended later
      · obtain ⟨fresh, past⟩ := pending.requested running requested at'
        exact ⟨same.trans fresh, past.trans clock⟩
      · exact absurd ended later
    | _ => cases own
  · obtain ⟨client, _⟩ := eventLoop_keeps own moves
    cases a with
    | associateSession id sent =>
      obtain ⟨_, _, _, _, rfl⟩ := connector_cases moves
      refine ⟨placed, fun _ => rfl, fun _ requested at' => ?_⟩
      obtain rfl := Option.some.inj at'
      exact ⟨rfl, Nat.le_refl _⟩
    | closeTimings =>
      obtain ⟨_, rfl⟩ := connector_cases moves
      refine ⟨placed, fun later => ?_, fun later requested at' => ?_⟩
      · have left := pending.left later
        simp only [CallRecord.observe]
        rw [← left, closedTimings_same]
      · obtain ⟨fresh, past⟩ := pending.requested later requested at'
        exact ⟨closed_reset fresh, past⟩
    | message hdl msgTxt | testInProgress | report | respond | responseCallbackEnds throws
    | userCallbackEnds throws | cite =>
      have same := eventLoop_timings own (by simp) (by simp) moves
      refine ⟨placed, fun later => ?_, fun later requested at' => ?_⟩
      · exact same.trans (pending.left (client ▸ later))
      · obtain ⟨fresh, past⟩ := pending.requested (client ▸ later) requested at'
        exact ⟨same.trans fresh, past.trans clock⟩
    | _ => cases own

theorem completes_writes {cfg : Setup} {s t : Connector} {a : Action}
    (completing : completes s a = true) (next : s.step cfg a = some t) :
    FromConnect a ∧ s.client ≠ .idle ∧ ∃ success, t.associationTimings =
      s.associationTimings.setCompleted s.network.1.clock success := by
  have moved := connector_cases next
  cases a with
  | connectEnds =>
    obtain ⟨here, _, r, result, rfl⟩ := moved
    simp only [completes, decide_eq_true_eq] at completing
    obtain rfl := Option.some.inj (result.symm.trans completing)
    exact ⟨trivial, by simp [here], false, rfl⟩
  | wake timedOut =>
    obtain ⟨here, _, rfl⟩ := moved
    have settled : s.session.settled = true := completing
    simp only [Connector.wake, settled, Bool.or_true, if_true]
    exact ⟨trivial, by simp [here],
      conclude_settled (s := { s with wakePending := false }) settled⟩
  | _ => cases completing

theorem eventLoop_completed {cfg : Setup} {s t : Connector} {a : Action} (own : FromEventLoop a)
    (next : s.step cfg a = some t) (done : t.associationTimings.completed = true) :
    s.associationTimings.completed = true := by
  cases a with
  | associateSession id sent =>
    obtain ⟨_, _, _, _, rfl⟩ := connector_cases next
    cases done
  | closeTimings =>
    obtain ⟨_, rfl⟩ := connector_cases next
    rcases closeTimings_cases s with ⟨before, _⟩ | ⟨_, same⟩
    · exact before
    · rwa [same] at done
  | message hdl msgTxt | testInProgress | report | respond | responseCallbackEnds throws
  | userCallbackEnds throws | cite =>
    rwa [eventLoop_timings own (by simp) (by simp) next] at done
  | _ => cases own

theorem forRequest {w : CallRecord} {t : Connector} {requested : Nat} {success : Bool}
    (pending : Pending w) (running : w.connector.client ≠ .idle)
    (request : w.requestedAt = some requested)
    (writes : t.associationTimings =
      w.connector.associationTimings.setCompleted w.connector.network.1.clock success) :
    ForRequest w t := by
  obtain ⟨fresh, past⟩ := pending.requested running requested request
  rw [fresh] at writes
  refine ⟨requested, request, ?_⟩
  rw [writes]
  exact ⟨rfl, rfl, past⟩

theorem genuine_step {cfg : Setup} {w : CallRecord} {t : Connector} {a : Action}
    (pending : Pending w) (guarded : completesUnrequested cfg w a = false)
    (next : w.connector.step cfg a = some t) : Genuine w a t := by
  have request : completes w.connector a = true → ∃ requested, w.requestedAt = some requested := by
    intro completing
    rw [← Option.isSome_iff_exists, ← Option.not_isNone, Bool.not_eq_true']
    simpa [completesUnrequested, next, completing] using guarded
  have completion : completes w.connector a = true → ForRequest w t := by
    intro completing
    obtain ⟨requested, at'⟩ := request completing
    obtain ⟨_, running, success, writes⟩ := completes_writes completing next
    exact forRequest pending running at' writes
  refine ⟨fun before done => ?_, completion, fun running ended _ none => ?_⟩
  · rcases thread_cases a with ⟨b, rfl⟩ | own | own
    · obtain ⟨_, n, _, rfl⟩ := connector_cases next
      cases before.symm.trans done
    · rcases connect_writes pending.placed own next with same | ⟨completing, _⟩
      · rw [same, before] at done
        cases done
      · exact completion completing
    · cases before.symm.trans (eventLoop_completed own next done)
  · rcases thread_cases a with ⟨b, rfl⟩ | own | own
    · obtain ⟨permitted, n, _, rfl⟩ := connector_cases next
      exact absurd ((network_running permitted).mp ended) running
    · rcases connect_writes pending.placed own next with same | ⟨completing, _⟩
      · exact same.trans (pending.left running)
      · obtain ⟨requested, at'⟩ := request completing
        simp [none] at at'
    · exact absurd ((eventLoop_keeps own next).1.symm.trans ended) running

/-- Along every run, the association timings are completed only for a request of the call, and
    kept by a call that fails without one, if and only if no call reaches setCompleted() before
    associateSession() has run. -/
theorem record_kept_iff (cfg : Setup) (brokerWsUris : List String)
    (pongTimeoutsBeforeRetry : Nat) (trace : List Action) :
    Throughout (CallRecord.step cfg) (KeepsRecord cfg)
        (.create brokerWsUris pongTimeoutsBeforeRetry) trace ↔
      Throughout (CallRecord.step cfg) (fun w a => completesUnrequested cfg w a = false)
        (.create brokerWsUris pongTimeoutsBeforeRetry) trace := by
  constructor
  · refine throughout_mono (fun w a keeps => ?_) trace _
    rw [Bool.eq_false_iff]
    intro unrequested
    simp only [completesUnrequested, Bool.and_eq_true, Option.isNone_iff_eq_none,
      Option.isSome_iff_exists] at unrequested
    obtain ⟨⟨⟨t, next⟩, none⟩, completing⟩ := unrequested
    obtain ⟨requested, at', _⟩ := (keeps t next).completion completing
    simp [none] at at'
  · intro guarded
    refine throughout_of_prefixes trace _ fun before a after m split path t next => ?_
    rw [split, throughout_append] at guarded
    have pending : Pending m := run_keeps Pending (fun _ _ _ held moves => pending_step held moves)
      ⟨placed_create brokerWsUris pongTimeoutsBeforeRetry, fun running => absurd rfl running,
        fun running => absurd rfl running⟩ path
    exact genuine_step pending (guarded.2 m path).1 next

/-- The first connect(1) with a URI that cannot be parsed, up to the error of get_connection(). -/
def refusedAttempt : List Action :=
  [.callConnect 1, .construct true, .readState, .lockSession, .resetSession, .setInProgress,
    .enterConnect, .network .pass, .network .beginAttempt, .network (.getConnection .errorCode)]

/-- The call fails before any request, and its record says that an association completed. -/
theorem refused_attempt_completes :
    ∃ w v, run (CallRecord.step (plainSetup fun _ => none)) (.create ["foo"] 3) refusedAttempt =
        some w ∧
      w.requestedAt = none ∧ w.connector.associationTimings = {} ∧
      w.step (plainSetup fun _ => none) .connectEnds = some v ∧
      v.connector.outcome = some .configError ∧
      v.connector.associationTimings.completed = true ∧
      ¬KeepsRecord (plainSetup fun _ => none) w .connectEnds := by
  refine ⟨_, _, rfl, rfl, rfl, rfl, rfl, rfl, fun keeps => ?_⟩
  obtain ⟨requested, request, _⟩ := (keeps _ rfl).completion rfl
  cases request

end PcpAssociationRecord
