import PcpClient.AssociationSoundness
import PcpClient.ClosedState

/-!
The end of a session as association_timings_ records it. setCompleted() runs on the thread
of connect() and closeAssociationTimings() on the event loop, without a common lock: first
their accesses interleave, then the calls in the runs of the connector.
-/
namespace PcpSessionTimings
open PcpTransitions PcpTimings PcpConnector PcpConnectorInvariants PcpEndpointCoherence
open PcpConnectAttempts PcpClosedState PcpAssociation PcpSoundness PcpEndpoint PcpDispatch
open PcpOctets PcpReceived
open PcpConnection hiding Action

/-! The accesses of the two calls. -/

/-- The next access of setCompleted(); it has read closed before it takes the time point. -/
inductive CompletePc where
  | testClosed | stamp (closed : Bool) | flag | setSuccess | done
  deriving DecidableEq, Repr

inductive ClosePc where
  | testCompleted | testClosed | stamp | flag | done
  deriving DecidableEq, Repr

structure Updates where
  timings : AssociationTimings
  clock : Nat
  complete : CompletePc
  close : ClosePc
  deriving DecidableEq, Repr

inductive Access where
  | complete | close | tick
  deriving DecidableEq, Repr

def Updates.completeAccess (u : Updates) : Option Updates :=
  match u.complete with
  | .testClosed => some { u with complete := .stamp u.timings.closed }
  | .stamp closed =>
    let association := if closed then u.timings.close else u.clock
    some { u with timings := { u.timings with association }, complete := .flag }
  | .flag =>
    some { u with timings := { u.timings with completed := true }, complete := .setSuccess }
  | .setSuccess => some { u with timings := { u.timings with success := true }, complete := .done }
  | .done => none

def Updates.closeAccess (u : Updates) : Option Updates :=
  match u.close with
  | .testCompleted => some { u with close := if u.timings.completed then .testClosed else .done }
  | .testClosed => some { u with close := if u.timings.closed then .done else .stamp }
  | .stamp => some { u with timings := { u.timings with close := u.clock }, close := .flag }
  | .flag => some { u with timings := { u.timings with closed := true }, close := .done }
  | .done => none

def Updates.step (u : Updates) : Access → Option Updates
  | .complete => u.completeAccess
  | .close => u.closeAccess
  | .tick => some { u with clock := u.clock + 1 }

def Updates.start (timings : AssociationTimings) (clock : Nat) : Updates where
  timings
  clock
  complete := .testClosed
  close := .testCompleted

def EndRecorded (t : AssociationTimings) : Prop :=
  t.closed = true ∧ t.completed = true ∧ t.association ≤ t.close

/-- closeAssociationTimings() tests completed before setCompleted() has flagged it. -/
def testsTooEarly (u : Updates) : Access → Bool
  | .close => u.close = .testCompleted && !u.timings.completed
  | _ => false

theorem complete_alone (timings : AssociationTimings) (clock : Nat) (close : ClosePc) :
    run Updates.step ⟨timings, clock, .testClosed, close⟩ (List.replicate 4 .complete) =
      some ⟨timings.setCompleted clock true, clock, .done, close⟩ := rfl

theorem close_alone (s : Connector) (complete : CompletePc) :
    ∃ count, run Updates.step ⟨s.associationTimings, s.network.1.clock, complete, .testCompleted⟩
        (List.replicate count .close) =
      some ⟨s.closeAssociationTimings.associationTimings, s.network.1.clock, complete, .done⟩ := by
  cases completed : s.associationTimings.completed with
  | false =>
    exact ⟨1, by simp [run, Updates.step, Updates.closeAccess, completed,
      Connector.closeAssociationTimings]⟩
  | true =>
    cases closed : s.associationTimings.closed with
    | true =>
      exact ⟨2, by simp [run, Updates.step, Updates.closeAccess, completed, closed,
        Connector.closeAssociationTimings]⟩
    | false =>
      refine ⟨4, ?_⟩
      simp [run, List.replicate, Updates.step, Updates.closeAccess, completed, closed,
        Connector.closeAssociationTimings, AssociationTimings.setClosed]

/-- closed is flagged after completed only, so setCompleted() never finds it. -/
structure Interleaved (u : Updates) : Prop where
  completed : u.timings.completed = true ↔ u.complete = .setSuccess ∨ u.complete = .done
  read : ∀ closed, u.complete = .stamp closed → closed = false
  passed : u.close = .testClosed ∨ u.close = .stamp ∨ u.close = .flag →
    u.timings.completed = true ∧ u.timings.closed = false
  closed : u.timings.closed = true → u.close = .done ∧ u.timings.completed = true
  stamped : u.complete = .flag ∨ u.timings.completed = true → u.timings.association ≤ u.clock
  ordered : u.close = .flag ∨ u.timings.closed = true → u.timings.association ≤ u.timings.close

theorem interleaved_start {timings : AssociationTimings} (clock : Nat)
    (running : timings.completed = false) (opened : timings.closed = false) :
    Interleaved (.start timings clock) where
  completed := by simp [Updates.start, running]
  read := by simp [Updates.start]
  passed := by simp [Updates.start]
  closed := by simp [Updates.start, opened]
  stamped := by simp [Updates.start, running]
  ordered := by simp [Updates.start, opened]

theorem updates_cases {u v : Updates} {a : Access} (next : u.step a = some v) :
    match a with
    | .complete =>
      (u.complete = .testClosed ∧ v = { u with complete := .stamp u.timings.closed }) ∨
      (∃ closed, u.complete = .stamp closed ∧
        v = { u with
          timings := { u.timings with association := if closed then u.timings.close else u.clock }
          complete := .flag }) ∨
      (u.complete = .flag ∧
        v = { u with timings := { u.timings with completed := true }, complete := .setSuccess }) ∨
      (u.complete = .setSuccess ∧
        v = { u with timings := { u.timings with success := true }, complete := .done })
    | .close =>
      (u.close = .testCompleted ∧ u.timings.completed = false ∧ v = { u with close := .done }) ∨
      (u.close = .testCompleted ∧ u.timings.completed = true ∧
        v = { u with close := .testClosed }) ∨
      (u.close = .testClosed ∧
        v = { u with close := if u.timings.closed then .done else .stamp }) ∨
      (u.close = .stamp ∧
        v = { u with timings := { u.timings with close := u.clock }, close := .flag }) ∨
      (u.close = .flag ∧
        v = { u with timings := { u.timings with closed := true }, close := .done })
    | .tick => v = { u with clock := u.clock + 1 } := by
  cases a with
  | complete =>
    simp only [Updates.step, Updates.completeAccess] at next
    split at next <;> simp_all
  | close =>
    simp only [Updates.step, Updates.closeAccess] at next
    split at next
    · cases completed : u.timings.completed <;> simp_all
    all_goals simp_all
  | tick => exact (Option.some.inj next).symm

theorem interleaved_step {u v : Updates} {a : Access} (held : Interleaved u)
    (next : u.step a = some v) : Interleaved v := by
  obtain ⟨completed, read, passed, closed, stamped, ordered⟩ := held
  have moved := updates_cases next
  cases a with
  | complete =>
    rcases moved with ⟨here, rfl⟩ | ⟨found, here, rfl⟩ | ⟨here, rfl⟩ | ⟨here, rfl⟩
    · have running : u.timings.completed = false := by simpa [here] using completed
      have opened : u.timings.closed = false := by simpa [running] using closed
      exact ⟨by simp [running], by simp [opened], passed, closed, by simp [running], ordered⟩
    · obtain rfl := read found here
      have running : u.timings.completed = false := by simpa [here] using completed
      refine ⟨by simp [running], by simp, passed, closed, fun _ => Nat.le_refl _, fun place => ?_⟩
      have finished : u.timings.completed = true :=
        place.elim (fun flag => (passed (.inr (.inr flag))).1) (fun flagged => (closed flagged).2)
      simp [running] at finished
    · refine ⟨by simp, by simp, fun place => ⟨rfl, (passed place).2⟩,
        fun flagged => ⟨(closed flagged).1, rfl⟩, fun _ => stamped (.inl here), ordered⟩
    · refine ⟨by simp [completed, here], by simp, passed, closed, ?_, ordered⟩
      exact fun _ => stamped (.inr (completed.mpr (.inl here)))
  | close =>
    rcases moved with ⟨here, running, rfl⟩ | ⟨here, finished, rfl⟩ | ⟨here, rfl⟩ | ⟨here, rfl⟩ |
      ⟨here, rfl⟩
    · exact ⟨completed, read, by simp, fun flagged => ⟨rfl, (closed flagged).2⟩, stamped,
        fun place => ordered (place.imp (by simp) id)⟩
    · have opened : u.timings.closed = false := by simpa [here] using closed
      exact ⟨completed, read, fun _ => ⟨finished, opened⟩, by simp [opened], stamped,
        by simp [opened]⟩
    · obtain ⟨finished, opened⟩ := passed (.inl here)
      refine ⟨completed, read, fun _ => ⟨finished, opened⟩, by simp [opened], stamped, ?_⟩
      simp [opened]
    · obtain ⟨finished, opened⟩ := passed (.inr (.inl here))
      exact ⟨completed, read, fun _ => ⟨finished, opened⟩, by simp [opened], stamped,
        fun _ => stamped (.inr finished)⟩
    · obtain ⟨finished, opened⟩ := passed (.inr (.inr here))
      exact ⟨completed, read, by simp, fun _ => ⟨rfl, finished⟩, stamped,
        fun _ => ordered (.inl here)⟩
  | tick =>
    obtain rfl : v = _ := moved
    exact ⟨completed, read, passed, closed, fun done => Nat.le_succ_of_le (stamped done), ordered⟩

def Lost (u : Updates) : Prop := u.close = .done ∧ u.timings.closed = false

theorem lost_step {u v : Updates} {a : Access} (lost : Lost u) (next : u.step a = some v) :
    Lost v := by
  obtain ⟨handled, opened⟩ := lost
  have moved := updates_cases next
  cases a with
  | complete =>
    rcases moved with ⟨_, rfl⟩ | ⟨_, _, rfl⟩ | ⟨_, rfl⟩ | ⟨_, rfl⟩ <;> exact ⟨handled, opened⟩
  | close => simp [handled] at moved
  | tick => obtain rfl : v = _ := moved; exact ⟨handled, opened⟩

theorem lost_of_early {u v : Updates} {a : Access} (held : Interleaved u)
    (early : testsTooEarly u a = true) (next : u.step a = some v) : Lost v := by
  have moved := updates_cases next
  cases a with
  | complete | tick => cases early
  | close =>
    simp only [testsTooEarly, Bool.and_eq_true, decide_eq_true_eq, Bool.not_eq_true'] at early
    obtain ⟨here, running⟩ := early
    simp only [here, running, reduceCtorEq, false_and, or_false, Bool.false_eq_true, true_and,
      and_false] at moved
    obtain rfl := moved
    exact ⟨rfl, Bool.eq_false_iff.mpr fun flagged => by simp [(held.closed flagged).2] at running⟩

theorem handled_step {u v : Updates} {a : Access} (held : Interleaved u)
    (recorded : u.close = .done → u.timings.closed = true) (timely : testsTooEarly u a = false)
    (next : u.step a = some v) : v.close = .done → v.timings.closed = true := by
  have moved := updates_cases next
  cases a with
  | complete =>
    rcases moved with ⟨_, rfl⟩ | ⟨_, _, rfl⟩ | ⟨_, rfl⟩ | ⟨_, rfl⟩ <;> exact recorded
  | close =>
    rcases moved with ⟨here, running, rfl⟩ | ⟨_, _, rfl⟩ | ⟨here, rfl⟩ | ⟨_, rfl⟩ | ⟨_, rfl⟩
    · simp [testsTooEarly, here, running] at timely
    · simp
    · simp [(held.passed (.inl here)).2]
    · simp
    · simp
  | tick => obtain rfl : v = _ := moved; exact recorded

theorem end_recorded_iff {timings : AssociationTimings} {clock : Nat} {accesses : List Access}
    {u : Updates} (running : timings.completed = false) (opened : timings.closed = false)
    (path : run Updates.step (.start timings clock) accesses = some u)
    (completes : u.complete = .done) (closes : u.close = .done) :
    EndRecorded u.timings ↔
      Throughout Updates.step (fun v a => testsTooEarly v a = false) (.start timings clock)
        accesses := by
  have start := interleaved_start clock running opened
  have held : Interleaved u := run_keeps Interleaved (fun _ _ _ => interleaved_step) start path
  constructor
  · rintro ⟨closed, _⟩
    refine throughout_of_prefixes accesses _ fun before a after m split reached => ?_
    refine Bool.eq_false_iff.mpr fun early => ?_
    rw [split] at path
    obtain ⟨m', reached', rest⟩ := run_append_iff.mp path
    obtain rfl := Option.some.inj (reached.symm.trans reached')
    obtain ⟨n, next, later⟩ := run_cons_iff.mp rest
    have before := run_keeps Interleaved (fun _ _ _ => interleaved_step) start reached
    have lost : Lost u :=
      run_keeps Lost (fun _ _ _ => lost_step) (lost_of_early before early next) later
    simp [lost.2] at closed
  · intro timely
    have recorded := run_under (fun v a => testsTooEarly v a = false)
      (fun v => Interleaved v ∧ (v.close = .done → v.timings.closed = true))
      (fun _ _ _ held guarded next =>
        ⟨interleaved_step held.1 next, handled_step held.1 held.2 guarded next⟩)
      ⟨start, by simp [Updates.start]⟩ timely path
    have closed := recorded.2 closes
    exact ⟨closed, held.completed.mpr (.inr completes), held.ordered (.inr closed)⟩

/-! The two calls in the runs of the connector. -/

/-- The connector with what has run since its last Associate Session request: the handling
    of the close or fail event, and a connect() that returned. -/
structure Tracked where
  connector : Connector
  closeRan : Bool := false
  completeRan : Bool := false

def Tracked.observe (w : Tracked) (t : Connector) : Action → Tracked
  | .associateSession _ _ => { connector := t }
  | .closeTimings => { w with connector := t, closeRan := true }
  | .connectEnds | .wake _ =>
    { w with
      connector := t
      completeRan := w.completeRan || t.client = .idle && t.outcome = some .returned }
  | _ => { w with connector := t }

def Tracked.step (cfg : Setup) (w : Tracked) (a : Action) : Option Tracked :=
  (w.connector.step cfg a).map fun t => w.observe t a

def Tracked.create (brokerWsUris : List String) (pongTimeoutsBeforeRetry : Nat) : Tracked where
  connector := .create brokerWsUris pongTimeoutsBeforeRetry

/-- A successful response has been handled and connect() has not woken up yet. -/
def successPending (s : Connector) : Bool :=
  s.client = .blocked && s.session.success && !s.session.inProgress &&
    !s.session.gotMessagingFailure

/-- The end of the session is handled between its response and setCompleted(). -/
def losesEnd (s : Connector) : Action → Bool
  | .closeTimings => successPending s && !s.associationTimings.completed
  | _ => false

theorem tracked_step_iff {cfg : Setup} {w v : Tracked} {a : Action} :
    w.step cfg a = some v ↔ ∃ t, w.connector.step cfg a = some t ∧ w.observe t a = v :=
  Option.map_eq_some_iff

@[simp] theorem observe_connector (w : Tracked) (t : Connector) (a : Action) :
    (w.observe t a).connector = t := by
  cases a <;> rfl

theorem observe_close {w : Tracked} {t : Connector} {a : Action}
    (ran : (w.observe t a).closeRan = true) :
    (∀ id sent, a ≠ .associateSession id sent) ∧ (a = .closeTimings ∨ w.closeRan = true) := by
  cases a with
  | associateSession id sent => cases ran
  | closeTimings => exact ⟨by simp, .inl rfl⟩
  | _ => exact ⟨by simp, .inr ran⟩

theorem observe_complete {w : Tracked} {t : Connector} {a : Action}
    (ran : (w.observe t a).completeRan = true) :
    (∀ id sent, a ≠ .associateSession id sent) ∧ (w.completeRan = true ∨
      (a = .connectEnds ∨ ∃ timedOut, a = .wake timedOut) ∧ t.client = .idle ∧
        t.outcome = some .returned) := by
  cases a with
  | associateSession id sent => cases ran
  | connectEnds => exact ⟨by simp, by simpa [Tracked.observe] using ran⟩
  | wake timedOut => exact ⟨by simp, by simpa [Tracked.observe] using ran⟩
  | _ => exact ⟨by simp, .inl ran⟩

theorem conclude_timings (s : Connector) :
    s.conclude.associationTimings = s.associationTimings ∨
      ∃ success, s.conclude.associationTimings =
        s.associationTimings.setCompleted s.network.1.clock success := by
  unfold Connector.conclude
  split
  · exact .inr ⟨false, rfl⟩
  · split
    · exact .inl rfl
    · split
      · exact .inr ⟨false, rfl⟩
      · exact .inr ⟨true, rfl⟩

theorem eventLoop_timings {cfg : Setup} {s t : Connector} {a : Action} (own : FromEventLoop a)
    (requests : ∀ id sent, a ≠ .associateSession id sent) (ends : a ≠ .closeTimings)
    (next : s.step cfg a = some t) : t.associationTimings = s.associationTimings := by
  have moved := connector_cases next
  cases a <;> simp only [FromEventLoop] at own
  case associateSession id sent => exact absurd rfl (requests id sent)
  case closeTimings => exact absurd rfl ends
  case message => obtain ⟨_, _, rfl⟩ := moved; rfl
  case testInProgress => obtain ⟨_, _, rfl⟩ | ⟨_, _, rfl⟩ := moved <;> rfl
  case report => obtain ⟨_, _, _, rfl⟩ := moved; rfl
  case respond =>
    obtain ⟨chunks, _, _, rfl⟩ := moved
    exact (respond_keeps s cfg chunks).2.2.2.2
  case responseCallbackEnds throws => obtain ⟨_, rfl⟩ := moved; cases throws <;> rfl
  case userCallbackEnds throws =>
    obtain ⟨callbackNext, _, rfl⟩ := moved
    cases callbackNext <;> cases throws <;> rfl
  case cite =>
    obtain ⟨c, _, _, rfl⟩ := moved
    unfold Connector.cite
    split <;> rfl

theorem closeTimings_cases (s : Connector) :
    (s.associationTimings.completed = true ∧ s.associationTimings.closed = false ∧
      s.closeAssociationTimings.associationTimings =
        s.associationTimings.setClosed s.network.1.clock) ∨
    ((s.associationTimings.completed = true → s.associationTimings.closed = true) ∧
      s.closeAssociationTimings.associationTimings = s.associationTimings) := by
  unfold Connector.closeAssociationTimings
  cases completed : s.associationTimings.completed with
  | false => exact .inr ⟨by simp, by simp⟩
  | true =>
    cases closed : s.associationTimings.closed with
    | false => exact .inl ⟨rfl, rfl, by simp⟩
    | true => exact .inr ⟨by simp, by simp⟩

theorem connect_keeps_timings {cfg : Setup} {s t : Connector} {a : Action} (own : FromConnect a)
    (ends : a ≠ .connectEnds) (wakes : ∀ timedOut, a ≠ .wake timedOut)
    (next : s.step cfg a = some t) : t.associationTimings = s.associationTimings := by
  have moved := connector_cases next
  cases a <;> simp only [FromConnect] at own
  case callConnect | awaitEnds | resetSession | setInProgress => obtain ⟨_, rfl⟩ := moved; rfl
  case construct ok => obtain ⟨_, rfl⟩ := moved; cases ok <;> rfl
  case readState =>
    obtain ⟨_, rfl⟩ := moved
    unfold Connector.readState
    split <;> rfl
  case lockSession => obtain ⟨_, _, rfl⟩ := moved; rfl
  case enterConnect => obtain ⟨_, n, _, rfl⟩ := moved; rfl
  case connectEnds => exact absurd rfl ends
  case wake timedOut => exact absurd rfl (wakes timedOut)

theorem connect_timings {cfg : Setup} {s t : Connector} {a : Action} (own : FromConnect a)
    (next : s.step cfg a = some t) :
    t.associationTimings = s.associationTimings ∨ ∃ success, t.associationTimings =
      s.associationTimings.setCompleted s.network.1.clock success := by
  have moved := connector_cases next
  cases a with
  | connectEnds =>
    obtain ⟨_, _, r, _, rfl⟩ := moved
    cases r with
    | returned =>
      unfold Connector.connectEnds
      dsimp only
      split
      · exact conclude_timings s
      · exact .inl rfl
    | processingError => exact .inr ⟨false, rfl⟩
    | configError | fatalError attempts | otherException => exact .inl rfl
  | wake timedOut =>
    obtain ⟨_, _, rfl⟩ := moved
    unfold Connector.wake
    split
    · exact conclude_timings { s with wakePending := false }
    · exact .inl rfl
  | _ => exact .inl (connect_keeps_timings own (by simp) (by simp) next)

theorem timings_cases {cfg : Setup} {s t : Connector} {a : Action} (next : s.step cfg a = some t) :
    t.associationTimings = s.associationTimings ∨
      (∃ success, t.associationTimings =
        s.associationTimings.setCompleted s.network.1.clock success) ∨
      (∃ id sent, a = .associateSession id sent ∧
        t.associationTimings = .reset s.network.1.clock) ∨
      a = .closeTimings ∧ t = s.closeAssociationTimings := by
  rcases thread_cases a with ⟨b, rfl⟩ | own | own
  · obtain ⟨_, n, _, rfl⟩ := connector_cases next
    exact .inl rfl
  · exact (connect_timings own next).imp_right .inl
  · by_cases requests : ∃ id sent, a = .associateSession id sent
    · obtain ⟨id, sent, rfl⟩ := requests
      obtain ⟨_, _, _, _, rfl⟩ := connector_cases next
      exact .inr (.inr (.inl ⟨id, sent, rfl, rfl⟩))
    · by_cases ends : a = .closeTimings
      · obtain rfl := ends
        exact .inr (.inr (.inr ⟨rfl, (connector_cases next).2⟩))
      · exact .inl (eventLoop_timings own (by simpa using requests) ends next)

theorem inner_clock {c d : Connection} {a : PcpConnection.Action} (next : c.step a = some d) :
    c.clock ≤ d.clock := by
  have moved := stamp_cases next
  cases a with
  | tick => exact moved.2 ▸ Nat.le_succ _
  | _ => exact moved.2.ge

theorem clock_grows {cfg : Setup} {s t : Connector} {a : Action} (next : s.step cfg a = some t) :
    s.network.1.clock ≤ t.network.1.clock := by
  rcases thread_cases a with ⟨b, rfl⟩ | own | own
  · obtain ⟨_, n, inner, rfl⟩ := connector_cases next
    exact inner_clock (system_step_iff.mp inner).1
  · exact (connect_leaves own next).clock.ge
  · rw [(eventLoop_keeps own next).2.1]

structure Ordered (s : Connector) : Prop where
  closed : s.associationTimings.closed = true → s.associationTimings.completed = true ∧
    s.associationTimings.association ≤ s.associationTimings.close ∧
    s.associationTimings.close ≤ s.network.1.clock
  completed : s.associationTimings.completed = true →
    s.associationTimings.association ≤ s.network.1.clock

theorem ordered_step {cfg : Setup} {s t : Connector} {a : Action} (ordered : Ordered s)
    (next : s.step cfg a = some t) : Ordered t := by
  have grows := clock_grows next
  have kept : ∀ timings : AssociationTimings,
      (timings.closed = true → timings.completed = true ∧ timings.association ≤ timings.close ∧
        timings.close ≤ s.network.1.clock) →
      (timings.completed = true → timings.association ≤ s.network.1.clock) →
      t.associationTimings = timings → Ordered t := by
    rintro timings closed completed rfl
    refine ⟨fun flagged => ?_, fun done => (completed done).trans grows⟩
    obtain ⟨done, before, recent⟩ := closed flagged
    exact ⟨done, before, recent.trans grows⟩
  rcases timings_cases next with same | ⟨success, same⟩ | ⟨_, _, _, same⟩ | ⟨_, rfl⟩
  · exact kept _ ordered.closed ordered.completed same
  · refine kept _ (fun flagged => ?_) (fun _ => ?_) same
    · have flagged : s.associationTimings.closed = true := flagged
      simp [AssociationTimings.setCompleted, flagged, (ordered.closed flagged).2.2]
    · simp only [AssociationTimings.setCompleted]
      split
      · exact (ordered.closed ‹_›).2.2
      · exact Nat.le_refl _
  · exact kept _ (by simp [AssociationTimings.reset]) (by simp [AssociationTimings.reset]) same
  · rcases closeTimings_cases s with ⟨done, _, same⟩ | ⟨_, same⟩
    · exact kept (s.associationTimings.setClosed s.network.1.clock)
        (fun _ => ⟨done, ordered.completed done, Nat.le_refl _⟩) ordered.completed same
    · exact kept _ ordered.closed ordered.completed same

def handlesNothing : LoopPc → Bool
  | .idle | .closing | .inClose | .terminated => true
  | _ => false

/-- Where the event loop can be once the close or fail event of a session has been handled:
    nothing is received until the next connection opens. -/
def Silent (s : Connector) : Prop :=
  handlesNothing s.loop = true ∧ s.network.2.established = [] ∨
    s.loop = .closeTimings ∨ s.loop = .associating

structure Timed (s : Connector) : Prop where
  placed : Placed s
  ordered : Ordered s
  ending : s.loop = .closeTimings → s.network.2.established = []

/-- What a tracked run records. A handled event is flagged, or the session it ended is not
    going to be completed. -/
structure Records (w : Tracked) : Prop where
  timed : Timed w.connector
  completed : w.completeRan = true → w.connector.associationTimings.completed = true
  closed : w.closeRan = true → w.connector.associationTimings.closed = true ∨
    w.completeRan = false ∧ successPending w.connector = false ∧ Silent w.connector

theorem ending_step {cfg : Setup} {s t : Connector} {a : Action} (placed : Placed s)
    (ending : s.loop = .closeTimings → s.network.2.established = [])
    (next : s.step cfg a = some t) (place : t.loop = .closeTimings) :
    t.network.2.established = [] := by
  rcases thread_cases a with ⟨b, rfl⟩ | own | own
  · obtain ⟨permitted, n, inner, rfl⟩ := connector_cases next
    have place : loopAfter s.loop n b = .closeTimings := place
    have finished : EndsAttempt b → n.2.established = [] := fun ends =>
      have down := down_after_end placed.coherent ends inner
      (down.coherent.down (by simp [down.closed, isDown])).established
    rcases loopAfter_cases n permitted with same | ⟨_, moved⟩ | ⟨_, moved⟩
    · have here := same.symm.trans place
      have busy : s.loop.isIdle = false := by simp [here, LoopPc.isIdle]
      refine (established_kept inner ?_ ?_).trans (ending here) <;> rintro hdl rfl <;>
        simp [Connector.permits, busy] at permitted
    · rcases moved with moved | ⟨moved, _⟩ | ⟨_, hdl, rfl | rfl⟩ | ⟨moved, _⟩
      · simp [moved] at place
      · simp [moved] at place
      · exact finished trivial
      · exact finished trivial
      · simp [moved] at place
    · simp [place] at moved
  · have left := connect_leaves own next
    rw [left.endpoint]
    exact ending (left.loop.symm.trans place)
  · rcases eventLoop_place own next with later | later | later | later <;>
      simp [place, handlesMessage] at later

theorem silent_handlers {cfg : Setup} {s t : Connector} {a : Action} (silent : Silent s)
    (own : FromEventLoop a) (next : s.step cfg a = some t) :
    a = .closeTimings ∨ ∃ id sent, a = .associateSession id sent := by
  have moved := connector_cases next
  rcases silent with ⟨idle, none⟩ | ending | opening
  · cases a <;> simp only [FromEventLoop] at own
    case message hdl msgTxt => simp [none] at moved
    case testInProgress =>
      obtain ⟨_, place, _⟩ | ⟨_, place, _⟩ := moved <;> simp [place, handlesNothing] at idle
    case report | respond | cite | userCallbackEnds =>
      obtain ⟨_, place, _⟩ := moved
      simp [place, handlesNothing] at idle
    all_goals simp [moved.1, handlesNothing] at idle
  · cases a <;> simp only [FromEventLoop] at own
    case closeTimings => exact .inl rfl
    all_goals simp [ending] at moved
  · exact .inr (associating_step own opening next)

theorem silent_network {s : Connector} {n : System} {b : PcpConnection.Action}
    (silent : Silent s) (permitted : s.permits b = true) (inner : s.network.step b = some n) :
    Silent (s.afterNetwork n b) := by
  have cases := loopAfter_cases n permitted
  rcases silent with ⟨idle, none⟩ | ending | opening
  · have still : handlesNothing (loopAfter s.loop n b) = true →
        Silent (s.afterNetwork n b) := fun place => by
      refine .inl ⟨place, (established_kept inner ?_ ?_).trans none⟩ <;> rintro hdl rfl <;>
        cases place
    rcases cases with same | ⟨_, moved | ⟨moved, _⟩ | ⟨moved, _⟩ | ⟨moved, _⟩⟩ | ⟨_, moved⟩
    · exact still (by rw [same, idle])
    · exact still (by rw [moved]; rfl)
    · exact .inr (.inr moved)
    · exact .inr (.inl moved)
    · exact still (by rw [moved]; rfl)
    · exact still (by rcases moved with moved | moved | moved <;> rw [moved] <;> rfl)
  · rcases cases with same | ⟨elsewhere, _⟩ | ⟨elsewhere, _⟩
    · exact .inr (.inl (same.trans ending))
    · simp [ending] at elsewhere
    · simp [ending] at elsewhere
  · rcases cases with same | ⟨elsewhere, _⟩ | ⟨elsewhere, _⟩
    · exact .inr (.inr (same.trans opening))
    · simp [opening] at elsewhere
    · simp [opening] at elsewhere

theorem silent_step {cfg : Setup} {s t : Connector} {a : Action}
    (ending : s.loop = .closeTimings → s.network.2.established = []) (silent : Silent s)
    (other : ∀ id sent, a ≠ .associateSession id sent) (next : s.step cfg a = some t) :
    Silent t := by
  rcases thread_cases a with ⟨b, rfl⟩ | own | own
  · obtain ⟨permitted, n, inner, rfl⟩ := connector_cases next
    exact silent_network silent permitted inner
  · have left := connect_leaves own next
    unfold Silent
    rwa [left.loop, left.endpoint]
  · rcases silent_handlers silent own next with rfl | ⟨id, sent, rfl⟩
    · obtain ⟨here, rfl⟩ := connector_cases next
      exact .inl ⟨rfl, ending here⟩
    · exact absurd rfl (other id sent)

theorem pending_before {cfg : Setup} {s t : Connector} {a : Action} (placed : Placed s)
    (silent : Silent s) (other : ∀ id sent, a ≠ .associateSession id sent)
    (next : s.step cfg a = some t) (pending : successPending t = true) :
    successPending s = true := by
  have moved := connector_cases next
  simp only [successPending, Bool.and_eq_true, decide_eq_true_eq, Bool.not_eq_true'] at pending ⊢
  obtain ⟨⟨⟨blocked, success⟩, finished⟩, intact⟩ := pending
  rcases thread_cases a with ⟨b, rfl⟩ | own | own
  · obtain ⟨permitted, n, inner, rfl⟩ := moved
    exact ⟨⟨⟨clientAfter_same permitted blocked (by simp), success⟩, finished⟩, intact⟩
  · cases a <;> simp only [FromConnect] at own
    case connectEnds =>
      obtain ⟨here, _, r, _, rfl⟩ := moved
      rcases connectEnds_cases placed here r with ⟨_, waits⟩ | ⟨_, idle, _⟩
      · simp [waits, placed.calling (by rw [here]; rfl)] at finished
      · simp [idle] at blocked
    case wake timedOut =>
      obtain ⟨here, _, rfl⟩ := moved
      unfold Connector.wake at blocked success finished intact
      split at blocked
      · simp [(conclude_keeps _).1] at blocked
      · simp_all
    case construct ok =>
      obtain ⟨_, rfl⟩ := moved
      cases ok <;> cases blocked
    case readState =>
      obtain ⟨_, rfl⟩ := moved
      unfold Connector.readState at blocked
      split at blocked <;> cases blocked
    case callConnect n =>
      obtain ⟨_, rfl⟩ := moved
      unfold Connector.callConnect at blocked
      dsimp only at blocked
      split at blocked <;> cases blocked
    case lockSession => obtain ⟨_, _, rfl⟩ := moved; cases blocked
    case enterConnect => obtain ⟨_, n, _, rfl⟩ := moved; cases blocked
    case awaitEnds | resetSession | setInProgress => obtain ⟨_, rfl⟩ := moved; cases blocked
  · rcases silent_handlers silent own next with rfl | ⟨id, sent, rfl⟩
    · obtain ⟨_, rfl⟩ := moved
      exact ⟨⟨⟨blocked, success⟩, finished⟩, intact⟩
    · exact absurd rfl (other id sent)

theorem conclude_returned {s : Connector} (returned : s.conclude.outcome = some .returned) :
    s.session.gotMessagingFailure = false ∧ s.session.inProgress = false ∧
      s.session.success = true ∧ s.conclude = (s.setCompleted true).finish .returned := by
  unfold Connector.conclude at returned ⊢
  split at returned
  · cases returned
  · rename_i intact
    split at returned
    · cases returned
    · rename_i finished
      split at returned
      · cases returned
      · rename_i success
        refine ⟨by simpa using intact, by simpa using finished, by simpa using success, ?_⟩
        rw [if_neg intact, if_neg finished, if_neg success]

theorem returned_pending {cfg : Setup} {s t : Connector} {a : Action} (placed : Placed s)
    (next : s.step cfg a = some t) (call : a = .connectEnds ∨ ∃ timedOut, a = .wake timedOut)
    (idle : t.client = .idle) (returned : t.outcome = some .returned) :
    successPending s = true ∧ t.associationTimings.completed = true := by
  have moved := connector_cases next
  rcases call with rfl | ⟨timedOut, rfl⟩
  · obtain ⟨here, _, r, _, rfl⟩ := moved
    rcases connectEnds_cases placed here r with ⟨_, waits⟩ | ⟨thrown, _⟩
    · simp [waits] at idle
    · cases r <;> simp [Connector.connectEnds, Connector.finish] at returned thrown
  · obtain ⟨here, _, rfl⟩ := moved
    unfold Connector.wake at idle returned ⊢
    split at idle
    · rename_i ends
      rw [if_pos ends] at returned ⊢
      obtain ⟨intact, finished, success, concludes⟩ := conclude_returned returned
      exact ⟨by simp_all [successPending], by rw [concludes]; rfl⟩
    · simp [here] at idle

theorem wake_step (cfg : Setup) {w : Tracked} (idle : w.connector.loop = .idle)
    (pending : successPending w.connector = true) :
    ∃ v, w.step cfg (.wake false) = some v ∧ v.closeRan = w.closeRan ∧ v.completeRan = true ∧
      v.connector =
        ({ w.connector with wakePending := false }.setCompleted true).finish .returned := by
  simp only [successPending, Bool.and_eq_true, decide_eq_true_eq, Bool.not_eq_true'] at pending
  obtain ⟨⟨⟨blocked, success⟩, finished⟩, intact⟩ := pending
  have wakes : w.connector.wake false =
      ({ w.connector with wakePending := false }.setCompleted true).finish .returned := by
    simp [Connector.wake, SessionAssociation.settled, finished, Connector.conclude, intact, success]
  refine ⟨_, tracked_step_iff.mpr ⟨w.connector.wake false, ?_, rfl⟩, rfl, ?_, ?_⟩
  · simp [Connector.step, Connector.act, idle, LoopPc.isDead, LoopPc.holdsSession, blocked]
  · simp [Tracked.observe, wakes, Connector.finish]
  · rw [observe_connector, wakes]

theorem timed_create (brokerWsUris : List String) (pongTimeoutsBeforeRetry : Nat) :
    Timed (.create brokerWsUris pongTimeoutsBeforeRetry) where
  placed := placed_create brokerWsUris pongTimeoutsBeforeRetry
  ordered := ⟨by simp [Connector.create], by simp [Connector.create]⟩
  ending place := by cases place

theorem timed_step {cfg : Setup} {s t : Connector} {a : Action} (timed : Timed s)
    (next : s.step cfg a = some t) : Timed t where
  placed := placed_step timed.placed next
  ordered := ordered_step timed.ordered next
  ending := ending_step timed.placed timed.ending next

theorem timed_reachable {cfg : Setup} {brokerWsUris : List String} {pongTimeoutsBeforeRetry : Nat}
    {trace : List Action} {w : Tracked} (path : run (Tracked.step cfg)
      (.create brokerWsUris pongTimeoutsBeforeRetry) trace = some w) : Timed w.connector := by
  refine run_keeps (fun v => Timed v.connector) (fun _ _ _ timed next => ?_)
    (timed_create brokerWsUris pongTimeoutsBeforeRetry) path
  obtain ⟨t, moves, rfl⟩ := tracked_step_iff.mp next
  rw [observe_connector]
  exact timed_step timed moves

theorem flags_kept {cfg : Setup} {s t : Connector} {a : Action}
    (other : ∀ id sent, a ≠ .associateSession id sent) (next : s.step cfg a = some t) :
    (s.associationTimings.completed = true → t.associationTimings.completed = true) ∧
      (s.associationTimings.closed = true → t.associationTimings.closed = true) := by
  rcases timings_cases next with same | ⟨success, same⟩ | ⟨id, sent, rfl, _⟩ | ⟨_, rfl⟩
  · rw [same]
    exact ⟨id, id⟩
  · rw [same]
    exact ⟨fun _ => rfl, id⟩
  · exact absurd rfl (other id sent)
  · rcases closeTimings_cases s with ⟨done, _, same⟩ | ⟨_, same⟩ <;> rw [same]
    · exact ⟨fun _ => done, fun _ => rfl⟩
    · exact ⟨id, id⟩

theorem ended_recorded {cfg : Setup} {w v : Tracked} (records : Records w)
    (timely : losesEnd w.connector .closeTimings = false)
    (next : w.step cfg .closeTimings = some v) :
    v.connector.associationTimings.closed = true ∨
      v.completeRan = false ∧ successPending v.connector = false ∧ Silent v.connector := by
  obtain ⟨t, moves, rfl⟩ := tracked_step_iff.mp next
  obtain ⟨here, rfl⟩ := connector_cases moves
  rw [observe_connector]
  rcases closeTimings_cases w.connector with ⟨_, _, same⟩ | ⟨already, same⟩
  · rw [same]
    exact .inl rfl
  · rw [same]
    cases completed : w.connector.associationTimings.completed with
    | true => exact .inl (already completed)
    | false =>
      have never : w.completeRan = false :=
        Bool.eq_false_iff.mpr fun ran => by simp [records.completed ran] at completed
      simp only [losesEnd, completed, Bool.not_false, Bool.and_true] at timely
      exact .inr ⟨never, timely, .inl ⟨rfl, records.timed.ending here⟩⟩

theorem records_step {cfg : Setup} {w v : Tracked} {a : Action} (records : Records w)
    (timely : losesEnd w.connector a = false) (next : w.step cfg a = some v) : Records v := by
  obtain ⟨t, moves, rfl⟩ := tracked_step_iff.mp next
  have placed := records.timed.placed
  refine ⟨?_, fun ran => ?_, fun ran => ?_⟩
  · rw [observe_connector]
    exact timed_step records.timed moves
  · rw [observe_connector]
    obtain ⟨other, before | ⟨call, idle, returned⟩⟩ := observe_complete ran
    · exact (flags_kept other moves).1 (records.completed before)
    · exact (returned_pending placed moves call idle returned).2
  · obtain ⟨other, rfl | before⟩ := observe_close ran
    · exact ended_recorded records timely next
    · rw [observe_connector]
      rcases records.closed before with closed | ⟨never, unseen, silent⟩
      · exact .inl ((flags_kept other moves).2 closed)
      · refine .inr ⟨Bool.eq_false_iff.mpr fun completes => ?_,
          Bool.eq_false_iff.mpr fun made => ?_,
          silent_step records.timed.ending silent other moves⟩
        · obtain ⟨_, earlier | ⟨call, idle, returned⟩⟩ := observe_complete completes
          · simp [never] at earlier
          · simp [(returned_pending placed moves call idle returned).1] at unseen
        · simp [pending_before placed silent other moves made] at unseen

theorem end_recorded {cfg : Setup} {brokerWsUris : List String} {pongTimeoutsBeforeRetry : Nat}
    {trace : List Action} {w : Tracked}
    (path : run (Tracked.step cfg) (.create brokerWsUris pongTimeoutsBeforeRetry) trace = some w)
    (timely : Throughout (Tracked.step cfg) (fun v a => losesEnd v.connector a = false)
      (.create brokerWsUris pongTimeoutsBeforeRetry) trace)
    (closes : w.closeRan = true) (completes : w.completeRan = true) :
    EndRecorded w.connector.associationTimings := by
  have records := run_under (fun v a => losesEnd v.connector a = false) Records
    (fun _ _ _ held guarded next => records_step held guarded next)
    ⟨timed_create brokerWsUris pongTimeoutsBeforeRetry, by simp [Tracked.create],
      by simp [Tracked.create]⟩ timely path
  rcases records.closed closes with closed | ⟨never, _⟩
  · obtain ⟨completed, before, _⟩ := records.timed.ordered.closed closed
    exact ⟨closed, completed, before⟩
  · simp [completes] at never

theorem end_lost {cfg : Setup} {w v : Tracked} (timed : Timed w.connector)
    (loses : losesEnd w.connector .closeTimings = true)
    (next : w.step cfg .closeTimings = some v) :
    ∃ u, v.step cfg (.wake false) = some u ∧ u.closeRan = true ∧ u.completeRan = true ∧
      u.connector.network.2.established = [] ∧
      u.connector.associationTimings.completed = true ∧
      u.connector.associationTimings.closed = false := by
  obtain ⟨t, moves, rfl⟩ := tracked_step_iff.mp next
  obtain ⟨here, rfl⟩ := connector_cases moves
  simp only [losesEnd, Bool.and_eq_true, Bool.not_eq_true'] at loses
  obtain ⟨pending, running⟩ := loses
  have opened : w.connector.associationTimings.closed = false :=
    Bool.eq_false_iff.mpr fun closed => by simp [(timed.ordered.closed closed).1] at running
  have same : w.connector.closeAssociationTimings.associationTimings =
      w.connector.associationTimings := by
    simp [Connector.closeAssociationTimings, running]
  obtain ⟨u, wakes, closed, completed, reached⟩ := wake_step cfg
    (w := w.observe w.connector.closeAssociationTimings .closeTimings) rfl pending
  refine ⟨u, wakes, closed, completed, ?_⟩
  rw [reached]
  exact ⟨timed.ending here, rfl, (congrArg AssociationTimings.closed same).trans opened⟩

/-- The end of a v1 session is recorded once both calls have run: among their accesses,
    which one after the other are the calls, exactly if the event loop does not test completed
    before it is flagged; in a run of the connector, if no end is handled between a response and its completion. Each such end can
    be followed by connect() waking up to a completed, open session without a connection. -/
theorem session_end_recorded_iff (cfg : Setup) (brokerWsUris : List String)
    (pongTimeoutsBeforeRetry : Nat) :
    (∀ (timings : AssociationTimings) (clock : Nat) (accesses : List Access) (u : Updates),
      timings.completed = false → timings.closed = false →
      run Updates.step (.start timings clock) accesses = some u →
      u.complete = .done → u.close = .done →
      (EndRecorded u.timings ↔
        Throughout Updates.step (fun v a => testsTooEarly v a = false) (.start timings clock)
          accesses)) ∧
    (∀ (s : Connector) (complete : CompletePc) (close : ClosePc),
      run Updates.step ⟨s.associationTimings, s.network.1.clock, .testClosed, close⟩
          (List.replicate 4 .complete) =
        some ⟨(s.setCompleted true).associationTimings, s.network.1.clock, .done, close⟩ ∧
      ∃ count, run Updates.step ⟨s.associationTimings, s.network.1.clock, complete, .testCompleted⟩
          (List.replicate count .close) =
        some ⟨s.closeAssociationTimings.associationTimings, s.network.1.clock, complete,
          .done⟩) ∧
    ∀ (trace : List Action) (w : Tracked),
      run (Tracked.step cfg) (.create brokerWsUris pongTimeoutsBeforeRetry) trace = some w →
      (Throughout (Tracked.step cfg) (fun v a => losesEnd v.connector a = false)
          (.create brokerWsUris pongTimeoutsBeforeRetry) trace →
        w.closeRan = true → w.completeRan = true →
        EndRecorded w.connector.associationTimings) ∧
      (losesEnd w.connector .closeTimings = true → ∀ v, w.step cfg .closeTimings = some v →
        ∃ u, v.step cfg (.wake false) = some u ∧ u.closeRan = true ∧ u.completeRan = true ∧
          u.connector.network.2.established = [] ∧
          u.connector.associationTimings.completed = true ∧
          u.connector.associationTimings.closed = false) := by
  refine ⟨fun timings clock accesses u running opened path completes closes =>
    end_recorded_iff running opened path completes closes,
    fun s complete close => ⟨complete_alone _ _ close, close_alone s complete⟩,
    fun trace w path =>
      ⟨fun timely closes completes => end_recorded path timely closes completes,
        fun loses v next => end_lost ?_ loses next⟩⟩
  exact timed_reachable path

theorem tracked_path {cfg : Setup} {t : Connector} {trace : List Action} :
    ∀ {s : Connector} (w : Tracked), w.connector = s →
      run (Connector.step cfg) s trace = some t →
      ∃ v, run (Tracked.step cfg) w trace = some v ∧ v.connector = t := by
  induction trace with
  | nil =>
    rintro s w rfl path
    exact ⟨w, rfl, Option.some.inj path⟩
  | cons a rest ih =>
    rintro s w rfl path
    obtain ⟨m, next, later⟩ := run_cons_iff.mp path
    obtain ⟨v, tail, same⟩ := ih (w.observe m a) (observe_connector w m a) later
    exact ⟨v, run_cons_iff.mpr ⟨_, tracked_step_iff.mpr ⟨m, next, rfl⟩, tail⟩, same⟩

theorem accepted_waits :
    ∃ s, run (Connector.step acceptedSetup) (.create ["wss://localhost:8142/pcp/"] 3)
        acceptedTrace = some s ∧ s.loop = .idle ∧ successPending s = true ∧
      0 ∈ s.network.2.established ∧ s.network.1.closeCall = none ∧
      s.associationTimings.completed = false := by
  obtain ⟨chunks, received, read⟩ := accepted_read
  obtain ⟨s, reached, idle, up, blocked, session, free, running⟩ : ∃ s,
      run (Connector.step acceptedSetup) (.create ["wss://localhost:8142/pcp/"] 3)
        sessionRequested = some s ∧ s.loop = .idle ∧ 0 ∈ s.network.2.established ∧
        s.client = .blocked ∧ s.session = { inProgress := true, requestId := "1" } ∧
        s.network.1.closeCall = none ∧ s.associationTimings.completed = false :=
    ⟨_, rfl, rfl, List.mem_singleton.mpr rfl, rfl, rfl, rfl, rfl⟩
  obtain ⟨receives, responds⟩ := response_steps rfl idle up blocked received
  refine ⟨{ s with loop := .response chunks }.respond acceptedSetup chunks, ?_, ?_⟩
  · refine run_append_iff.mpr ⟨s, reached, ?_⟩
    simp only [run_cons_iff, run_nil]
    exact ⟨_, receives, _, responds, rfl⟩
  · simp [Connector.respond, read, session, Connector.settle, acceptedSetup, plainSetup,
      Connector.record, Connector.notifyOne, successPending, blocked, up, free, running]

theorem close_step (cfg : Setup) {w : Tracked} {hdl : Handle} (idle : w.connector.loop = .idle)
    (up : hdl ∈ w.connector.network.2.established)
    (free : w.connector.network.1.closeCall = none) :
    ∃ v, w.step cfg (.network (.onClose hdl)) = some v ∧ v.closeRan = w.closeRan ∧
      v.completeRan = w.completeRan ∧ v.connector.loop = .closeTimings ∧
      v.connector.client = w.connector.client ∧ v.connector.session = w.connector.session ∧
      v.connector.associationTimings = w.connector.associationTimings := by
  obtain ⟨n, inner⟩ : ∃ n, w.connector.network.step (.onClose hdl) = some n := by
    simp [System.step, sync, Connection.step, free, Endpoint.step, up]
  refine ⟨_, tracked_step_iff.mpr ⟨w.connector.afterNetwork n (.onClose hdl), ?_, rfl⟩,
    rfl, rfl, rfl, rfl, rfl, rfl⟩
  simp [Connector.step, Connector.act, idle, LoopPc.isDead, Connector.permits, LoopPc.isIdle, inner]

theorem end_step (cfg : Setup) {w : Tracked} (here : w.connector.loop = .closeTimings) :
    w.step cfg .closeTimings =
      some (w.observe w.connector.closeAssociationTimings .closeTimings) := by
  simp [Tracked.step, Connector.step, Connector.act, here, LoopPc.isDead]

def completedFirst : List Access :=
  [.complete, .complete, .tick, .complete, .close, .close, .tick, .close, .complete, .close]

theorem woken_session_recorded :
    (∃ u, run Updates.step (.start {} 0) completedFirst = some u ∧ EndRecorded u.timings) ∧
    ∃ w, run (Tracked.step acceptedSetup) (.create ["wss://localhost:8142/pcp/"] 3)
        (acceptedTrace ++ [.wake false, .network (.onClose 0), .closeTimings]) = some w ∧
      EndRecorded w.connector.associationTimings := by
  refine ⟨⟨⟨⟨0, 0, 2, true, true, true⟩, 2, .done, .done⟩, rfl, ?_⟩, ?_⟩
  · exact ((session_end_recorded_iff acceptedSetup [] 3).1 {} 0 completedFirst _ rfl rfl rfl rfl
      rfl).mpr (by decide)
  obtain ⟨s, reached, idle, pending, up, free, _⟩ := accepted_waits
  obtain ⟨w, tracked, rfl⟩ := tracked_path (.create ["wss://localhost:8142/pcp/"] 3) rfl reached
  obtain ⟨x, wakes, _, completes, woken⟩ := wake_step acceptedSetup idle pending
  have still : x.connector.loop = .idle ∧ 0 ∈ x.connector.network.2.established ∧
      x.connector.network.1.closeCall = none := by
    rw [woken]
    exact ⟨idle, up, free⟩
  obtain ⟨v, closes, _, kept, here, client, _⟩ :=
    close_step acceptedSetup still.1 still.2.1 still.2.2
  have ends := end_step acceptedSetup here
  have awake : v.connector.client = .idle := by rw [client, woken]; rfl
  have path := run_append_iff.mpr ⟨w, tracked, run_cons_iff.mpr ⟨x, wakes, run_cons_iff.mpr
    ⟨v, closes, run_cons_iff.mpr ⟨_, ends, run_nil _ _⟩⟩⟩⟩
  refine ⟨_, path, ((session_end_recorded_iff acceptedSetup _ 3).2.2 _ _ path).1 ?_ rfl
    (kept.trans completes)⟩
  rw [throughout_append]
  refine ⟨?_, fun m other => ?_⟩
  · have quiet : ∀ a ∈ acceptedTrace, a ≠ .closeTimings := by
      simp [acceptedTrace, sessionRequested]
    refine throughout_mono (fun v a differs => ?_) _ _ (throughout_of_forall _ _ quiet)
    cases a <;> first | rfl | exact absurd rfl differs
  · obtain rfl := Option.some.inj (tracked.symm.trans other)
    rw [throughout_cons wakes, throughout_cons closes, throughout_cons ends]
    exact ⟨rfl, rfl, by simp [losesEnd, successPending, awake], trivial⟩

/-- The broker closes the connection after its response and before connect() wakes up. -/
theorem early_end_lost :
    (∃ u, run Updates.step (.start {} 0)
        [.complete, .complete, .close, .complete, .complete] = some u ∧
      u.complete = .done ∧ u.close = .done ∧ ¬EndRecorded u.timings) ∧
    ∃ w, run (Tracked.step acceptedSetup) (.create ["wss://localhost:8142/pcp/"] 3)
        (acceptedTrace ++ [.network (.onClose 0), .closeTimings, .wake false]) = some w ∧
      w.closeRan = true ∧ w.completeRan = true ∧ w.connector.network.2.established = [] ∧
      ¬EndRecorded w.connector.associationTimings := by
  refine ⟨⟨_, rfl, rfl, rfl, by simp [EndRecorded, Updates.start]⟩, ?_⟩
  obtain ⟨s, reached, idle, pending, up, free, running⟩ := accepted_waits
  obtain ⟨w, tracked, rfl⟩ := tracked_path (.create ["wss://localhost:8142/pcp/"] 3) rfl reached
  obtain ⟨v, closes, _, _, here, client, session, timings⟩ :=
    close_step acceptedSetup idle up free
  have ends := end_step acceptedSetup here
  have loses : losesEnd v.connector .closeTimings = true := by
    simp only [losesEnd, successPending, client, session, timings, running] at pending ⊢
    simp [pending]
  have path := run_append_iff.mpr ⟨w, tracked, run_cons_iff.mpr ⟨v, closes, run_nil _ _⟩⟩
  obtain ⟨u, wakes, closed, completed, down, _, opened⟩ :=
    end_lost (timed_reachable path) loses ends
  refine ⟨u, ?_, closed, completed, down, fun recorded => by simp [recorded.1] at opened⟩
  refine run_append_iff.mpr ⟨w, tracked, ?_⟩
  simp only [run_cons_iff, run_nil]
  exact ⟨v, closes, _, ends, u, wakes, rfl⟩

end PcpSessionTimings
