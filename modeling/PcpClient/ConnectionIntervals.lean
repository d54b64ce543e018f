import PcpClient.ConnectAttempts

/-!
The intervals between the time points of a connection. The handlers stamp whatever event
arrives and close() stamps before it looks at the state, so what a getter returns depends on
the order in which the time points were written.
-/
namespace PcpIntervals
open PcpTransitions PcpTimings PcpConnection PcpConnectAttempts

inductive Getter where
  | tcp | openingHandshake | webSocket | closingHandshake | overall
  deriving DecidableEq, Repr

def interval (c : Connection) : Getter → Int
  | .tcp => c.timings.tcpInterval
  | .openingHandshake => c.timings.openingHandshakeInterval
  | .webSocket => c.timings.webSocketInterval
  | .closingHandshake => c.timings.closingHandshakeInterval
  | .overall => c.timings.overallConnectionInterval c.clock

/-- A Connection with what has happened since its last connect_(): the handle of the attempt,
    the TCP events still to come, and whether the attempt has opened, its closing handshake was
    started by close() before any close event, and completed. -/
structure Observed where
  connection : Connection
  handle : Option Handle := none
  awaitsTcp : Bool := false
  awaitsPost : Bool := false
  opened : Bool := false
  started : Bool := false
  completed : Bool := false

def Observed.onCurrent (w : Observed) : Bool :=
  w.handle.isSome && decide (w.connection.connectionHandle = w.handle)

def Observed.observe (w : Observed) (d : Connection) : Action → Observed
  | .beginAttempt => { connection := d, awaitsTcp := true }
  | .getConnection (.connection hdl) => { w with connection := d, handle := some hdl }
  | .onPreTCPInit _ => { w with connection := d, awaitsTcp := false, awaitsPost := true }
  | .onPostTCPInit _ => { w with connection := d, awaitsPost := false }
  | .onOpen hdl => { w with connection := d, opened := w.opened || decide (w.handle = some hdl) }
  | .closeEndpoint _ ok =>
    { w with
      connection := d
      started := w.started || ok && w.onCurrent && !w.connection.timings.isClosed }
  | .onClose hdl =>
    { w with
      connection := d
      completed := w.completed || w.started && decide (w.handle = some hdl) }
  | _ => { w with connection := d }

inductive Step where
  | act (a : Action)
  | read (g : Getter)
  deriving DecidableEq, Repr

def Observed.step (w : Observed) : Step → Option Observed
  | .act a => (w.connection.step a).map fun d => w.observe d a
  | .read _ => some w

def Observed.create (brokerWsUris : List String) (pongTimeoutsBeforeRetry : Nat) : Observed where
  connection := .create brokerWsUris pongTimeoutsBeforeRetry

/-- An interval is not negative, and one of a closing handshake is that of a handshake which
    this client has started on its open connection and which has completed. -/
def ReadsMeaningful (w : Observed) : Step → Prop
  | .act _ => True
  | .read g =>
    0 ≤ interval w.connection g ∧ (g = .closingHandshake → interval w.connection g ≠ 0 →
      w.opened = true ∧ w.started = true ∧ w.completed = true)

def isClosing (c : Connection) : Bool := c.timings.isOpen && c.timings.isClosingStarted

/-- The steps that the getters rely on. close() comes before the close event; an open event is
    the attempt's own, and does not come after both; the end of a connection on which close()
    was called is the end of a handshake that it has started. -/
def inOrder (w : Observed) : Step → Bool
  | .act (.closeEnter _) => !(w.connection.timings.isOpen && w.connection.timings.isClosed)
  | .act (.onOpen hdl) => decide (w.handle = some hdl) &&
      !(w.connection.timings.isClosingStarted && w.connection.timings.isClosed)
  | .act (.onClose hdl) => !isClosing w.connection || w.completed ||
      w.started && decide (w.handle = some hdl)
  | .act (.onFail _) => !isClosing w.connection || w.completed
  | .read .tcp => !w.awaitsTcp
  | .read .openingHandshake => !(w.connection.timings.isOpen && w.awaitsPost)
  | _ => true

structure Stamped (t : ConnectionTimings) (now : Nat) : Prop where
  start : t.start ≤ now
  tcpPreInit : t.tcpPreInit ≤ now
  opened : t.isOpen = true → t.start ≤ t.opened
  closing : t.closingHandshake ≤ now
  closed : t.isClosed = true → t.start ≤ t.close ∧ t.close ≤ now

theorem stamped_reset (now : Nat) : Stamped (.reset now) now :=
  ⟨Nat.le_refl _, Nat.zero_le _, nofun, Nat.zero_le _, nofun⟩

theorem stamped_open {t : ConnectionTimings} {now : Nat} (stamped : Stamped t now) :
    Stamped (t.setOpen now) now :=
  { stamped with opened := fun _ => stamped.start }

theorem stamped_closing {t : ConnectionTimings} {now : Nat} (stamped : Stamped t now) :
    Stamped (t.setClosing now) now :=
  { stamped with closing := Nat.le_refl _ }

theorem stamped_closed {t : ConnectionTimings} {now : Nat} (stamped : Stamped t now)
    (onFailEvent : Bool) : Stamped (t.setClosed now onFailEvent) now :=
  { stamped with closed := fun _ => ⟨stamped.start, Nat.le_refl _⟩ }

theorem stamped_later {t : ConnectionTimings} {now later : Nat} (stamped : Stamped t now)
    (order : now ≤ later) : Stamped t later where
  start := stamped.start.trans order
  tcpPreInit := stamped.tcpPreInit.trans order
  opened := stamped.opened
  closing := stamped.closing.trans order
  closed flagged := ⟨(stamped.closed flagged).1, (stamped.closed flagged).2.trans order⟩

theorem stamped_create (brokerWsUris : List String) (pongTimeoutsBeforeRetry : Nat) :
    Stamped (Connection.create brokerWsUris pongTimeoutsBeforeRetry).timings 0 :=
  stamped_reset 0

theorem stamped_step {c d : Connection} {a : Action} (stamped : Stamped c.timings c.clock)
    (next : c.step a = some d) : Stamped d.timings d.clock := by
  have moved := stamp_cases next
  cases a with
  | beginAttempt => rw [moved.1, moved.2]; exact stamped_reset c.clock
  | closeEnter caller => rw [moved.1, moved.2]; exact stamped_closing stamped
  | onOpen hdl => rw [moved.1, moved.2]; exact stamped_open stamped
  | onClose hdl | onFail hdl => rw [moved.1, moved.2]; exact stamped_closed stamped _
  | onPreTCPInit hdl =>
    rw [moved.1, moved.2]
    exact { stamped with tcpPreInit := Nat.le_refl _ }
  | onPostTCPInit hdl => rw [moved.1, moved.2]; exact { stamped with }
  | tick => rw [moved.1, moved.2]; exact stamped_later stamped (Nat.le_succ _)
  | _ => rw [moved.1, moved.2]; exact stamped

/-- What the getters rely on, for a run in order. -/
structure Orderly (w : Observed) : Prop where
  stamped : Stamped w.connection.timings w.connection.clock
  tcp : w.awaitsTcp = false → w.connection.timings.start ≤ w.connection.timings.tcpPreInit
  handshake : w.awaitsPost = false →
    w.connection.timings.tcpPreInit ≤ w.connection.timings.tcpPostInit
  opened : w.connection.timings.isOpen = true → w.opened = true
  completed : w.completed = true → w.started = true
  closing : isClosing w.connection = true → w.connection.timings.isClosed = true →
    w.connection.timings.closingHandshake ≤ w.connection.timings.close ∧ w.completed = true

theorem orderly_create (brokerWsUris : List String) (pongTimeoutsBeforeRetry : Nat) :
    Orderly (.create brokerWsUris pongTimeoutsBeforeRetry) :=
  ⟨stamped_create brokerWsUris pongTimeoutsBeforeRetry, fun _ => Nat.le_refl _,
    fun _ => Nat.le_refl _, nofun, nofun, nofun⟩

theorem observed_step_iff {w v : Observed} {a : Action} :
    w.step (.act a) = some v ↔ ∃ d, w.connection.step a = some d ∧ w.observe d a = v :=
  Option.map_eq_some_iff

theorem orderly_same {w : Observed} {d : Connection} (orderly : Orderly w)
    (stamped : Stamped d.timings d.clock) (same : d.timings = w.connection.timings)
    (handle : Option Handle) : Orderly { w with connection := d, handle } := by
  obtain ⟨_, tcp, handshake, opened, completed, closing⟩ := orderly
  refine ⟨stamped, ?_, ?_, ?_, completed, ?_⟩
  all_goals simp only [isClosing, same]
  exacts [tcp, handshake, opened, closing]

theorem orderly_step {w v : Observed} {a : Step} (orderly : Orderly w)
    (guarded : inOrder w a = true) (next : w.step a = some v) : Orderly v := by
  cases a with
  | read g =>
    obtain rfl := Option.some.inj next
    exact orderly
  | act a =>
    obtain ⟨d, moves, rfl⟩ := observed_step_iff.mp next
    have stamped := stamped_step orderly.stamped moves
    have moved := step_cases moves
    cases a with
    | beginAttempt =>
      obtain ⟨site, _, rfl⟩ := moved
      refine ⟨stamped, fun early => ?_, fun _ => Nat.le_refl _, fun isOpen => ?_, fun done => ?_,
        fun closing => ?_⟩
      · cases early
      · cases isOpen
      · cases done
      · cases closing
    | getConnection reply =>
      have same := client_untouched (by simp [FromNetwork]) (by simp) moves
      cases reply with
      | connection hdl => exact orderly_same orderly stamped same.timings (some hdl)
      | errorCode | tlsInitError | otherException =>
        exact orderly_same orderly stamped same.timings w.handle
    | closeEnter caller =>
      obtain ⟨_, rfl⟩ := moved
      refine { orderly with stamped, closing := fun closing closed => ?_ }
      have closed : w.connection.timings.isClosed = true := closed
      have isOpen : w.connection.timings.isOpen = true := (Bool.and_eq_true_iff.mp closing).1
      simp [inOrder, isOpen, closed] at guarded
    | closeEndpoint caller ok =>
      obtain ⟨_, rfl⟩ := moved
      refine { orderly with stamped, completed := fun done => ?_ }
      simp [Observed.observe, orderly.completed done]
    | onOpen hdl =>
      obtain rfl := moved
      simp only [inOrder, Bool.and_eq_true, decide_eq_true_eq, Bool.not_eq_true'] at guarded
      obtain ⟨current, early⟩ := guarded
      refine { orderly with
        stamped
        opened := fun _ => by simp [Observed.observe, current]
        closing := fun closing closed => ?_ }
      have closed : w.connection.timings.isClosed = true := closed
      have started : w.connection.timings.isClosingStarted = true :=
        (Bool.and_eq_true_iff.mp closing).2
      simp [started, closed] at early
    | onClose hdl =>
      obtain ⟨_, rfl⟩ := moved
      refine { orderly with
        stamped
        completed := fun done => ?_
        closing := fun closing _ => ⟨orderly.stamped.closing, ?_⟩ }
      · simp only [Observed.observe, Bool.or_eq_true, Bool.and_eq_true] at done
        exact done.elim orderly.completed And.left
      · have closing : isClosing w.connection = true := closing
        simpa [inOrder, closing, Observed.observe] using guarded
    | onFail hdl =>
      obtain ⟨_, rfl⟩ := moved
      refine { orderly with
        stamped
        closing := fun closing _ => ⟨orderly.stamped.closing, ?_⟩ }
      have closing : isClosing w.connection = true := closing
      simpa [inOrder, closing, Observed.observe] using guarded
    | onPreTCPInit hdl =>
      obtain rfl := moved
      refine { orderly with
        stamped
        tcp := fun _ => orderly.stamped.start
        handshake := fun early => ?_ }
      cases early
    | onPostTCPInit hdl =>
      obtain rfl := moved
      exact { orderly with stamped, handshake := fun _ => orderly.stamped.tcpPreInit }
    | closeWrite caller => obtain ⟨_, rfl⟩ := moved; exact { orderly with stamped }
    | onPong hdl | onPongTimeout hdl | tick => obtain rfl := moved; exact { orderly with stamped }
    | _ =>
      have same := client_untouched (by simp [FromNetwork]) (by simp) moves
      exact orderly_same orderly stamped same.timings w.handle

theorem flagged_nonneg {flag : Bool} {first last : Nat} (order : flag = true → first ≤ last) :
    0 ≤ if !flag then 0 else (last : Int) - first := by
  cases flag with
  | false => exact Int.le_refl 0
  | true => exact Int.sub_nonneg_of_le (Int.ofNat_le.mpr (order rfl))

theorem elapsed_nonneg {flag ended : Bool} {first last now : Nat}
    (order : flag = true → ended = true → first ≤ last) (running : flag = true → first ≤ now) :
    0 ≤ if !flag then 0 else if ended then (last : Int) - first else now - first := by
  cases ended with
  | false => exact flagged_nonneg running
  | true => exact flagged_nonneg fun flagged => order flagged rfl

theorem overall_nonneg {t : ConnectionTimings} {now : Nat} (stamped : Stamped t now) :
    0 ≤ t.overallConnectionInterval now :=
  elapsed_nonneg (fun _ closed => (stamped.closed closed).1) fun _ => stamped.start

theorem closingHandshake_cases (t : ConnectionTimings) :
    t.closingHandshakeInterval = 0 ∨ (t.isOpen && t.isClosingStarted) = true ∧
      t.isClosed = true ∧ t.closingHandshakeInterval = t.close - t.closingHandshake := by
  unfold ConnectionTimings.closingHandshakeInterval
  split
  · exact .inl rfl
  · rename_i flags
    exact .inr ⟨by simp_all, by simp_all, rfl⟩

theorem orderly_read {w : Observed} {g : Getter} (orderly : Orderly w)
    (guarded : inOrder w (.read g) = true) : ReadsMeaningful w (.read g) := by
  obtain ⟨stamped, tcp, handshake, opened, completed, closing⟩ := orderly
  cases g with
  | tcp =>
    have order := tcp (by simpa [inOrder] using guarded)
    exact ⟨Int.sub_nonneg_of_le (Int.ofNat_le.mpr order), nofun⟩
  | openingHandshake =>
    refine ⟨flagged_nonneg fun isOpen => handshake ?_, nofun⟩
    simpa [inOrder, isOpen] using guarded
  | webSocket => exact ⟨flagged_nonneg stamped.opened, nofun⟩
  | closingHandshake =>
    simp only [ReadsMeaningful, interval]
    rcases closingHandshake_cases w.connection.timings with none | ⟨closes, isClosed, elapsed⟩
    · exact ⟨none.ge, fun _ some => absurd none some⟩
    · obtain ⟨order, done⟩ := closing closes isClosed
      refine ⟨?_, fun _ _ => ⟨opened (Bool.and_eq_true_iff.mp closes).1, completed done, done⟩⟩
      rw [elapsed]
      exact Int.sub_nonneg_of_le (Int.ofNat_le.mpr order)
  | overall => exact ⟨overall_nonneg stamped, nofun⟩

theorem orderly_reachable {brokerWsUris : List String} {pongTimeoutsBeforeRetry : Nat}
    {trace : List Step} {w : Observed}
    (ordered : Throughout Observed.step (fun w a => inOrder w a = true)
      (.create brokerWsUris pongTimeoutsBeforeRetry) trace)
    (path : run Observed.step (.create brokerWsUris pongTimeoutsBeforeRetry) trace = some w) :
    Orderly w :=
  run_under (fun w a => inOrder w a = true) Orderly
    (fun _ _ _ held guarded next => orderly_step held guarded next)
    (orderly_create brokerWsUris pongTimeoutsBeforeRetry) ordered path

/-- In a run in order, every getter that is called returns a meaningful interval. -/
theorem intervals_meaningful (brokerWsUris : List String) (pongTimeoutsBeforeRetry : Nat)
    (trace : List Step)
    (ordered : Throughout Observed.step (fun w a => inOrder w a = true)
      (.create brokerWsUris pongTimeoutsBeforeRetry) trace) :
    Throughout Observed.step ReadsMeaningful (.create brokerWsUris pongTimeoutsBeforeRetry)
      trace := by
  refine throughout_of_prefixes trace _ fun before a after m split path => ?_
  rw [split, throughout_append] at ordered
  cases a with
  | act a => trivial
  | read g => exact orderly_read (orderly_reachable ordered.1 path) (ordered.2 m path).1

theorem interval_of_closing {t : ConnectionTimings} (now : Nat)
    (ended : (t.isOpen && t.isClosed) = true) :
    (t.setClosing now).closingHandshakeInterval = t.close - now := by
  simp only [Bool.and_eq_true] at ended
  simp [ConnectionTimings.closingHandshakeInterval, ConnectionTimings.setClosing, ended]

theorem interval_of_closed {t : ConnectionTimings} (now : Nat) (onFailEvent : Bool)
    (closes : (t.isOpen && t.isClosingStarted) = true) :
    (t.setClosed now onFailEvent).closingHandshakeInterval = now - t.closingHandshake := by
  simp only [Bool.and_eq_true] at closes
  simp [ConnectionTimings.closingHandshakeInterval, ConnectionTimings.setClosed, closes]

theorem misread_out_of_order {w v : Observed} {a : Action}
    (disorder : inOrder w (.act a) = false) (other : ∀ hdl, a ≠ .onOpen hdl)
    (closed : w.connection.timings.close < w.connection.clock)
    (closing : w.connection.timings.closingHandshake < w.connection.clock)
    (next : w.step (.act a) = some v) : ¬ReadsMeaningful v (.read .closingHandshake) := by
  obtain ⟨d, moves, rfl⟩ := observed_step_iff.mp next
  have moved := step_cases moves
  rintro ⟨nonneg, completed⟩
  cases a with
  | closeEnter caller =>
    obtain ⟨_, rfl⟩ := moved
    have negative : interval (w.connection.closeEnter caller) .closingHandshake = _ :=
      interval_of_closing w.connection.clock (by simpa [inOrder] using disorder)
    have nonneg : 0 ≤ interval (w.connection.closeEnter caller) .closingHandshake := nonneg
    omega
  | onOpen hdl => exact absurd rfl (other hdl)
  | onClose hdl =>
    obtain ⟨_, rfl⟩ := moved
    simp only [inOrder, Bool.or_eq_false_iff, Bool.not_eq_false'] at disorder
    obtain ⟨⟨closes, incomplete⟩, foreign⟩ := disorder
    have elapsed : interval w.connection.onClose .closingHandshake = _ :=
      interval_of_closed w.connection.clock false closes
    have done : (w.completed || w.started && decide (w.handle = some hdl)) = true :=
      (completed rfl (show interval w.connection.onClose .closingHandshake ≠ 0 by omega)).2.2
    simp [incomplete, foreign] at done
  | onFail hdl =>
    obtain ⟨_, rfl⟩ := moved
    simp only [inOrder, Bool.or_eq_false_iff, Bool.not_eq_false'] at disorder
    obtain ⟨closes, incomplete⟩ := disorder
    have elapsed : interval w.connection.onFail .closingHandshake = _ :=
      interval_of_closed w.connection.clock true closes
    have done : w.completed = true :=
      (completed rfl (show interval w.connection.onFail .closingHandshake ≠ 0 by omega)).2.2
    simp [incomplete] at done
  | _ => cases disorder

def toOpen : List Step :=
  [.act (.callConnect 1), .act .pass, .act .tick, .act .beginAttempt,
    .act (.getConnection (.connection 0)), .act (.endpointConnect true), .act (.onPreTCPInit 0),
    .act .tick, .act (.onPostTCPInit 0), .act (.onOpen 0)]

def closedInOrder : List Step :=
  toOpen ++ [.act (.closeEnter .client), .act (.closeEndpoint .client true),
    .act (.closeWrite .client), .act .tick, .act (.onClose 0), .read .closingHandshake]

theorem closing_handshake_read :
    ∃ w, run Observed.step (.create ["wss://localhost:8142/pcp/"] 3) closedInOrder = some w ∧
      interval w.connection .closingHandshake = 1 ∧
      Throughout Observed.step ReadsMeaningful (.create ["wss://localhost:8142/pcp/"] 3)
        closedInOrder :=
  ⟨_, rfl, rfl, intervals_meaningful ["wss://localhost:8142/pcp/"] 3 closedInOrder (by decide)⟩

/-- The broker closes the connection, and close() is called on it a tick later. -/
theorem close_after_closed :
    ∃ w, run Observed.step (.create ["wss://localhost:8142/pcp/"] 3)
        (toOpen ++ [.act (.onClose 0), .act .tick, .act (.closeEnter .client)]) = some w ∧
      w.connection.closeCall = none ∧ w.started = false ∧
      interval w.connection .closingHandshake = -1 ∧
      ¬ReadsMeaningful w (.read .closingHandshake) :=
  ⟨_, rfl, rfl, rfl, rfl, fun meaningful => absurd meaningful.1 (by decide)⟩

end PcpIntervals
