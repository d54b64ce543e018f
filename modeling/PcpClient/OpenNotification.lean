import PcpClient.EndpointContract

/-!
The wait of connectAndWait() and the part of onOpen() that ends it, lock by lock. Every
other step of the Connection is one step here too, so all interleavings are runs. The
lock_guard of onOpen() has no name, so it is destroyed before the state is written.
-/
namespace PcpOpenNotification
open PcpTransitions PcpConnection PcpConnectAttempts PcpEndpoint

/-- The next thing wait_for() does for the thread that connects. It holds onOpen_mtx in test,
    block and leave, and gives it up as it blocks. -/
inductive WaiterPc where
  | lock | test | block | blocked
  | relock (expired : Bool)
  | leave
  deriving DecidableEq, Repr

/-- Where onOpen() is: outside, with the lock, after the lock, or after the write. -/
inductive OpenerPc where
  | idle
  | locked (hdl : Handle)
  | unlocked (hdl : Handle)
  | written
  deriving DecidableEq, Repr

structure Waiting where
  connection : Connection
  waiter : WaiterPc
  opener : OpenerPc
  mutexHeld : Bool
  notified : Bool

def Waiting.create (brokerWsUris : List String) (pongTimeoutsBeforeRetry : Nat) : Waiting :=
  ⟨.create brokerWsUris pongTimeoutsBeforeRetry, .lock, .idle, false, false⟩

inductive Step where
  | other (a : Action)
  | openLock (hdl : Handle)
  | openUnlock
  | openWrite
  | openNotify
  | lock
  | test
  | block
  | wake
  | spurious
  | timeout
  | relock
  | leave (draw : Int)
  deriving DecidableEq, Repr

def isWaiting : ConnectPc → Bool
  | .attempt _ .waiting => true
  | _ => false

def isHandler : Action → Bool
  | .onClose _ | .onFail _ | .onPong _ | .onPongTimeout _ => true
  | .onPreTCPInit _ | .onPostTCPInit _ => true
  | _ => false

def isSplit : Action → Bool
  | .onOpen _ | .waitEnds _ => true
  | _ => false

def Waiting.step (s : Waiting) : Step → Option Waiting
  | .other a =>
    if isSplit a || (isHandler a && decide (s.opener ≠ .idle)) then none
    else (s.connection.step a).map fun c => { s with connection := c }
  | .openLock hdl =>
    if s.opener = .idle ∧ s.mutexHeld = false
      then some { s with opener := .locked hdl, mutexHeld := true } else none
  | .openUnlock =>
    match s.opener with
    | .locked hdl => some { s with opener := .unlocked hdl, mutexHeld := false }
    | _ => none
  | .openWrite =>
    match s.opener with
    | .unlocked hdl =>
      (s.connection.step (.onOpen hdl)).map fun c => { s with connection := c, opener := .written }
    | _ => none
  | .openNotify =>
    if s.opener = .written
      then some { s with opener := .idle, notified := s.notified || decide (s.waiter = .blocked) }
      else none
  | .lock =>
    if isWaiting s.connection.pc = true ∧ s.waiter = .lock ∧ s.mutexHeld = false
      then some { s with waiter := .test, mutexHeld := true } else none
  | .test =>
    if s.waiter = .test
      then some { s with
        waiter := if s.connection.connectionState = .open then .leave else .block }
      else none
  | .block =>
    if s.waiter = .block
      then some { s with waiter := .blocked, mutexHeld := false, notified := false } else none
  | .wake =>
    if s.waiter = .blocked ∧ s.notified = true
      then some { s with waiter := .relock false, notified := false } else none
  | .spurious =>
    if s.waiter = .blocked then some { s with waiter := .relock false } else none
  | .timeout =>
    if s.waiter = .blocked then some { s with waiter := .relock true } else none
  | .relock =>
    match s.waiter with
    | .relock expired =>
      if s.mutexHeld then none
      else some { s with waiter := if expired then .leave else .test, mutexHeld := true }
    | _ => none
  | .leave draw =>
    if s.waiter = .leave
      then (s.connection.step (.waitEnds draw)).map fun c =>
        { s with connection := c, waiter := .lock, mutexHeld := false }
      else none

/-- onOpen() has made its notify_one(), the state reads open, and the thread that connects is
    blocked with no notification on its way. -/
def LostWakeUp (s : Waiting) : Prop :=
  s.opener = .idle ∧ s.connection.connectionState = .open ∧ s.waiter = .blocked ∧
    s.notified = false

/-- notify_one() does not find the thread between its test of the state, which was not open,
    and its block, with the state now written. -/
def notifiesInTime (s : Waiting) (a : Step) : Bool :=
  !decide (a = .openNotify ∧ s.waiter = .block ∧ s.connection.connectionState = .open)

/-- Where the thread will not test the state again by itself, an open state is still to be
    notified. -/
structure Notifying (s : Waiting) : Prop where
  beforeBlock : s.waiter = .block → s.connection.connectionState = .open → s.opener = .written
  blocked : s.waiter = .blocked → s.connection.connectionState = .open → s.notified = false →
    s.opener = .written

theorem step_cases {s t : Waiting} {a : Step} : s.step a = some t →
    match a with
    | .other a => isSplit a = false ∧ (isHandler a = true → s.opener = .idle) ∧
        ∃ c, s.connection.step a = some c ∧ t = { s with connection := c }
    | .openLock hdl => s.opener = .idle ∧ s.mutexHeld = false ∧
        t = { s with opener := .locked hdl, mutexHeld := true }
    | .openUnlock => ∃ hdl, s.opener = .locked hdl ∧
        t = { s with opener := .unlocked hdl, mutexHeld := false }
    | .openWrite => ∃ hdl, s.opener = .unlocked hdl ∧
        t = { s with connection := s.connection.onOpen, opener := .written }
    | .openNotify => s.opener = .written ∧
        t = { s with opener := .idle, notified := s.notified || decide (s.waiter = .blocked) }
    | .lock => isWaiting s.connection.pc = true ∧ s.waiter = .lock ∧ s.mutexHeld = false ∧
        t = { s with waiter := .test, mutexHeld := true }
    | .test => s.waiter = .test ∧ t = { s with
        waiter := if s.connection.connectionState = .open then .leave else .block }
    | .block => s.waiter = .block ∧
        t = { s with waiter := .blocked, mutexHeld := false, notified := false }
    | .wake => s.waiter = .blocked ∧ s.notified = true ∧
        t = { s with waiter := .relock false, notified := false }
    | .spurious => s.waiter = .blocked ∧ t = { s with waiter := .relock false }
    | .timeout => s.waiter = .blocked ∧ t = { s with waiter := .relock true }
    | .relock => ∃ expired, s.waiter = .relock expired ∧ s.mutexHeld = false ∧
        t = { s with waiter := if expired then .leave else .test, mutexHeld := true }
    | .leave draw => s.waiter = .leave ∧ ∃ c, s.connection.step (.waitEnds draw) = some c ∧
        t = { s with connection := c, waiter := .lock, mutexHeld := false } := by
  intro next
  cases a <;> simp only [Waiting.step] at next
  case other a =>
    obtain ⟨enabled, moves⟩ := Option.ite_none_left_eq_some.mp next
    obtain ⟨c, moved, same⟩ := Option.map_eq_some_iff.mp moves
    simp only [Bool.or_eq_true, Bool.and_eq_true, decide_eq_true_eq, not_or, not_and,
      not_not, Bool.not_eq_true] at enabled
    exact ⟨enabled.1, enabled.2, c, moved, same.symm⟩
  case openUnlock =>
    split at next
    · exact ⟨_, ‹_›, (Option.some.inj next).symm⟩
    · cases next
  case openWrite =>
    split at next
    · exact ⟨_, ‹_›, (Option.some.inj next).symm⟩
    · cases next
  case relock =>
    split at next
    · obtain ⟨free, same⟩ := Option.ite_none_left_eq_some.mp next
      exact ⟨_, ‹_›, by simpa using free, (Option.some.inj same).symm⟩
    · cases next
  case leave draw =>
    obtain ⟨leaves, moves⟩ := Option.ite_none_right_eq_some.mp next
    obtain ⟨c, moved, same⟩ := Option.map_eq_some_iff.mp moves
    exact ⟨leaves, c, moved, same.symm⟩
  case openNotify | test | block | spurious | timeout =>
    obtain ⟨enabled, same⟩ := Option.ite_none_right_eq_some.mp next
    exact ⟨enabled, (Option.some.inj same).symm⟩
  case openLock | wake =>
    obtain ⟨⟨one, two⟩, same⟩ := Option.ite_none_right_eq_some.mp next
    exact ⟨one, two, (Option.some.inj same).symm⟩
  case lock =>
    obtain ⟨⟨one, two, three⟩, same⟩ := Option.ite_none_right_eq_some.mp next
    exact ⟨one, two, three, (Option.some.inj same).symm⟩

theorem open_before {c d : Connection} {a : Action} (next : c.step a = some d)
    (other : isSplit a = false) (opened : d.connectionState = .open) :
    c.connectionState = .open := by
  cases writes : writesState a with
  | false => exact (state_kept next writes).symm.trans opened
  | true =>
    have moved := PcpConnection.step_cases next
    cases a <;> simp only [writesState, Bool.false_eq_true] at writes
    case beginAttempt => obtain ⟨site, _, rfl⟩ := moved; cases opened
    case closeWrite | onClose | onFail => obtain ⟨_, rfl⟩ := moved; cases opened
    case onOpen => cases other

theorem notifying_elsewhere {s : Waiting} (tested : s.waiter ≠ .block)
    (awake : s.waiter ≠ .blocked) : Notifying s :=
  ⟨fun block => absurd block tested, fun blocked => absurd blocked awake⟩

theorem notifying_step {s t : Waiting} {a : Step} (notifying : Notifying s)
    (inTime : notifiesInTime s a = true) (next : s.step a = some t) : Notifying t := by
  have moved := step_cases next
  cases a with
  | other a =>
    obtain ⟨other, _, c, steps, rfl⟩ := moved
    exact ⟨fun block opened => notifying.beforeBlock block (open_before steps other opened),
      fun blocked opened => notifying.blocked blocked (open_before steps other opened)⟩
  | openLock hdl =>
    obtain ⟨idle, _, rfl⟩ := moved
    refine ⟨fun block opened => ?_, fun blocked opened quiet => ?_⟩
    · cases idle.symm.trans (notifying.beforeBlock block opened)
    · cases idle.symm.trans (notifying.blocked blocked opened quiet)
  | openUnlock =>
    obtain ⟨hdl, locked, rfl⟩ := moved
    refine ⟨fun block opened => ?_, fun blocked opened quiet => ?_⟩
    · cases locked.symm.trans (notifying.beforeBlock block opened)
    · cases locked.symm.trans (notifying.blocked blocked opened quiet)
  | openWrite =>
    obtain ⟨hdl, _, rfl⟩ := moved
    exact ⟨fun _ _ => rfl, fun _ _ _ => rfl⟩
  | openNotify =>
    obtain ⟨_, rfl⟩ := moved
    refine ⟨fun block opened => ?_, fun blocked _ quiet => ?_⟩
    · simp [notifiesInTime, show s.waiter = .block from block,
        show s.connection.connectionState = .open from opened] at inTime
    · simp [show s.waiter = .blocked from blocked] at quiet
  | test =>
    obtain ⟨_, rfl⟩ := moved
    refine ⟨fun block opened => ?_, fun blocked _ _ => ?_⟩
    · simp [show s.connection.connectionState = .open from opened] at block
    · simp only at blocked
      split at blocked <;> cases blocked
  | block =>
    obtain ⟨block, rfl⟩ := moved
    exact ⟨fun blocked => by (cases blocked), fun _ opened _ => notifying.beforeBlock block opened⟩
  | relock =>
    obtain ⟨expired, _, _, rfl⟩ := moved
    cases expired <;> exact notifying_elsewhere (by simp) (by simp)
  | lock =>
    obtain ⟨_, _, _, rfl⟩ := moved
    exact notifying_elsewhere (by simp) (by simp)
  | wake =>
    obtain ⟨_, _, rfl⟩ := moved
    exact notifying_elsewhere (by simp) (by simp)
  | spurious | timeout =>
    obtain ⟨_, rfl⟩ := moved
    exact notifying_elsewhere (by simp) (by simp)
  | leave draw =>
    obtain ⟨_, c, _, rfl⟩ := moved
    exact notifying_elsewhere (by simp) (by simp)

theorem lost_in_window {s t u : Waiting} (late : notifiesInTime s .openNotify = false)
    (notified : s.step .openNotify = some t) (blocks : t.step .block = some u) :
    LostWakeUp u := by
  obtain ⟨_, rfl⟩ := step_cases notified
  obtain ⟨_, rfl⟩ := step_cases blocks
  simp only [notifiesInTime, Bool.not_eq_false', decide_eq_true_eq, true_and] at late
  exact ⟨rfl, late.2, rfl, rfl⟩

theorem step_connection {s t : Waiting} {a : Step} (next : s.step a = some t) :
    t.connection = s.connection ∨ ∃ b, s.connection.step b = some t.connection := by
  have moved := step_cases next
  cases a with
  | other a =>
    obtain ⟨_, _, c, steps, rfl⟩ := moved
    exact .inr ⟨a, steps⟩
  | openWrite =>
    obtain ⟨hdl, _, rfl⟩ := moved
    exact .inr ⟨.onOpen hdl, rfl⟩
  | leave draw =>
    obtain ⟨_, c, steps, rfl⟩ := moved
    exact .inr ⟨.waitEnds draw, steps⟩
  | openLock hdl => obtain ⟨_, _, rfl⟩ := moved; exact .inl rfl
  | openUnlock => obtain ⟨hdl, _, rfl⟩ := moved; exact .inl rfl
  | openNotify | test | block | spurious | timeout => obtain ⟨_, rfl⟩ := moved; exact .inl rfl
  | lock => obtain ⟨_, _, _, rfl⟩ := moved; exact .inl rfl
  | wake => obtain ⟨_, _, rfl⟩ := moved; exact .inl rfl
  | relock => obtain ⟨expired, _, _, rfl⟩ := moved; exact .inl rfl

/-- A run with the locks is a run of the Connection. -/
theorem waiting_refines {brokerWsUris : List String} {pongTimeoutsBeforeRetry : Nat}
    {trace : List Step} {s : Waiting}
    (path : run Waiting.step (.create brokerWsUris pongTimeoutsBeforeRetry) trace = some s) :
    ∃ actions, run Connection.step (.create brokerWsUris pongTimeoutsBeforeRetry) actions =
      some s.connection := by
  refine run_keeps (fun s : Waiting => ∃ actions, run Connection.step
    (.create brokerWsUris pongTimeoutsBeforeRetry) actions = some s.connection) ?_ ⟨[], rfl⟩ path
  rintro s a t ⟨actions, reached⟩ next
  rcases step_connection next with same | ⟨b, steps⟩
  · exact ⟨actions, same ▸ reached⟩
  · exact ⟨actions ++ [b], run_snoc_iff.mpr ⟨s.connection, reached, steps⟩⟩

/-- No wake-up is lost in a run where no notification of the open state falls between the test
    and the block of the thread that connects; where one does, the block that follows it loses
    the wake-up. -/
theorem no_lost_wake_up (brokerWsUris : List String) (pongTimeoutsBeforeRetry : Nat)
    (trace : List Step) (s : Waiting)
    (path : run Waiting.step (.create brokerWsUris pongTimeoutsBeforeRetry) trace = some s) :
    (Throughout Waiting.step (fun s a => notifiesInTime s a = true)
        (.create brokerWsUris pongTimeoutsBeforeRetry) trace → ¬LostWakeUp s) ∧
      ∀ t u, notifiesInTime s .openNotify = false → s.step .openNotify = some t →
        t.step .block = some u → LostWakeUp u := by
  refine ⟨fun inTime lost => ?_, fun _ _ => lost_in_window⟩
  have notifying : Notifying s := run_under (fun s a => notifiesInTime s a = true) Notifying
    (fun _ _ _ held inTime next => notifying_step held inTime next)
    (notifying_elsewhere (by simp [Waiting.create]) (by simp [Waiting.create])) inTime path
  obtain ⟨idle, opened, blocked, quiet⟩ := lost
  cases idle.symm.trans (notifying.blocked blocked opened quiet)

def toWait : List Step :=
  [.other (.callConnect 1), .other .pass, .other .beginAttempt,
    .other (.getConnection (.connection 0)), .other (.endpointConnect true)]

theorem open_after_block :
    ∃ s, run Waiting.step (.create ["wss://localhost:8142/pcp/"] 3)
        (toWait ++ [.lock, .test, .block, .openLock 0, .openUnlock, .openWrite, .openNotify]) =
          some s ∧
      s.waiter = .blocked ∧ s.notified = true ∧ ¬LostWakeUp s :=
  ⟨_, rfl, rfl, rfl, (no_lost_wake_up ["wss://localhost:8142/pcp/"] 3
    (toWait ++ [.lock, .test, .block, .openLock 0, .openUnlock, .openWrite, .openNotify]) _
    rfl).1 (by decide)⟩

/-- The write and the notification fall between the test and the block. -/
theorem open_in_window :
    ∃ s, run Waiting.step (.create ["wss://localhost:8142/pcp/"] 3)
        (toWait ++ [.openLock 0, .openUnlock, .lock, .test, .openWrite, .openNotify, .block]) =
          some s ∧ LostWakeUp s :=
  ⟨_, rfl, rfl, rfl, rfl, rfl⟩

end PcpOpenNotification
