import PcpClient.Threads
import PcpClient.Transitions

/-!
The Monitoring Task of ConnectorBase with the calls that start it, stop it and wait for it.
Each call and each spawned thread is an activation; a step of one reads or writes one of the
members. Who holds monitor_mutex_ follows from where the activations are.
-/
namespace PcpMonitor
open PcpThreads PcpTransitions

/-- The exceptions of connect() and ping(), by the clause of the task that catches them. -/
inductive Failure where
  | configError
  | associationError
  | processingError
  | associationResponseFailure
  | fatalError
  | other
  deriving DecidableEq, Repr

def Failure.isStored : Failure → Bool
  | .configError | .associationError | .processingError => false
  | .associationResponseFailure | .fatalError | .other => true

/-- A stored exception; each one that was thrown has its own number. -/
structure StoredException where
  failure : Failure
  number : Nat
  deriving DecidableEq, Repr

inductive Role where
  | startMonitoring
  | monitorConnection
  | stopMonitoring
  | destructor
  | monitorTask
  deriving DecidableEq, Repr

inductive Mode where
  | joinable
  | blocking
  deriving DecidableEq, Repr

def Mode.caller : Mode → Role
  | .joinable => .startMonitoring
  | .blocking => .monitorConnection

/-- The callers of stopMonitorTaskAndWait(). -/
inductive Stopper where
  | stopMonitoring
  | destructor
  deriving DecidableEq, Repr

def Stopper.role : Stopper → Role
  | .stopMonitoring => .stopMonitoring
  | .destructor => .destructor

inductive Outcome where
  | returned
  | rethrew (e : StoredException)
  | connectionNotInitError (text : String)
  | connectionConfigError (text : String)
  | threadResourceError
  deriving DecidableEq, Repr

/-- The next thing startMonitorTask() does. It holds the mutex from test to unlock, and
    releases it while it is waiting. -/
inductive TaskPc where
  | reset | lock | test | waiting | recheck | checking | clear | unlock
  deriving DecidableEq, Repr

inductive Place where
  | startCheck (mode : Mode)
  | startSet (mode : Mode)
  | spawning
  | assigning (thread : Nat)
  | task (mode : Mode) (pc : TaskPc)
  | readMustStop
  | readException
  | stopCheck (stopper : Stopper)
  | stopRequest (stopper : Stopper)
  | stopJoinable (stopper : Stopper)
  | stopJoin (stopper : Stopper) (thread : Nat)
  | stopRead (stopper : Stopper)
  | ended (role : Role) (outcome : Outcome)
  deriving DecidableEq, Repr

def TaskPc.holdsMutex : TaskPc → Bool
  | .test | .recheck | .checking | .clear | .unlock => true
  | .reset | .lock | .waiting => false

def Place.holdsMutex : Place → Bool
  | .task _ pc => pc.holdsMutex
  | _ => false

def Place.isEnded : Place → Bool
  | .ended _ _ => true
  | _ => false

structure Monitor where
  created : Bool
  alive : Bool
  pongTimeoutMs : Int
  isMonitoring : Bool
  mustStop : Bool
  exception : Option StoredException
  monitorThread : Option Nat
  thrown : Nat
  activations : List Place

def Monitor.create (pongTimeoutMs : Int) : Monitor where
  created := false
  alive := true
  pongTimeoutMs := pongTimeoutMs
  isMonitoring := false
  mustStop := false
  exception := none
  monitorThread := none
  thrown := 0
  activations := []

def Monitor.locked (m : Monitor) : Bool :=
  m.activations.any Place.holdsMutex

/-- A thread that can be joined without blocking. -/
def Monitor.terminated (m : Monitor) (thread : Nat) : Bool :=
  (m.activations[thread]?).any Place.isEnded

def Monitor.checkConnectionInitialization (m : Monitor) : Except Outcome Unit :=
  if m.created then .ok () else .error (.connectionNotInitError "connection not initialized")

def checkPingTimings (pingIntervalMs pongTimeoutMs : UInt32) : Except Outcome Unit :=
  if pingIntervalMs ≤ pongTimeoutMs then
    .error (.connectionConfigError ("pong timeout (" ++ toString pongTimeoutMs ++
      " ms) must be less than connection check interval (" ++ toString pingIntervalMs ++ " ms)"))
  else .ok ()

def Monitor.checkStart (m : Monitor) (connectionCheckIntervalS : UInt32) : Except Outcome Unit :=
  match m.checkConnectionInitialization with
  | .error o => .error o
  | .ok () => checkPingTimings (connectionCheckIntervalS * 1000) (UInt32.ofInt m.pongTimeoutMs)

inductive Call where
  | start (mode : Mode) (connectionCheckIntervalS : UInt32)
  | stop (stopper : Stopper)
  deriving DecidableEq, Repr

/-- Where a call begins. The destructor makes no check of the connection. -/
def Monitor.enter (m : Monitor) : Call → Place
  | .start mode connectionCheckIntervalS =>
    match m.checkStart connectionCheckIntervalS with
    | .ok () => .startCheck mode
    | .error o => .ended mode.caller o
  | .stop .stopMonitoring =>
    match m.checkConnectionInitialization with
    | .ok () => .stopCheck .stopMonitoring
    | .error o => .ended .stopMonitoring o
  | .stop .destructor => .stopCheck .destructor

/-- The end of a call that rethrows what it finds in monitor_exception_. -/
def rethrown : Option StoredException → Outcome
  | none => .returned
  | some e => .rethrew e

def Stopper.outcome (exception : Option StoredException) : Stopper → Outcome
  | .stopMonitoring => rethrown exception
  | .destructor => .returned

/-- What isConnected(), connect() and ping() did in one round of the loop. -/
inductive CheckResult where
  | pinged
  | reconnected
  | raised (f : Failure)
  deriving DecidableEq, Repr

def CheckResult.isStored : CheckResult → Bool
  | .pinged | .reconnected => false
  | .raised f => f.isStored

def Monitor.checked (m : Monitor) : CheckResult → Monitor
  | .pinged | .reconnected => m
  | .raised f =>
    { m with
      exception := if f.isStored then some ⟨f, m.thrown⟩ else m.exception
      thrown := m.thrown + 1 }

inductive Work where
  | go
  | spawn (started : Bool)
  | check (result : CheckResult)
  deriving DecidableEq, Repr

def Mode.launch : Mode → Place
  | .joinable => .spawning
  | .blocking => .task .blocking .reset

def Mode.afterTask : Mode → Place
  | .joinable => .ended .monitorTask .returned
  | .blocking => .readMustStop

def Monitor.unlessStopped (m : Monitor) (pc : TaskPc) : TaskPc :=
  if m.mustStop then .clear else pc

def Stopper.next (stopper : Stopper) : Option Nat → Place
  | some thread => .stopJoin stopper thread
  | none => .stopRead stopper

/-- One step of an activation: the members after it, and where the activation is then. -/
def Monitor.work (m : Monitor) : Place → Work → Option (Monitor × Place)
  | .startCheck mode, .go =>
    some (m, if m.isMonitoring then .ended mode.caller .returned else .startSet mode)
  | .startSet mode, .go => some ({ m with isMonitoring := true }, mode.launch)
  | .spawning, .spawn true =>
    some ({ m with activations := m.activations ++ [.task .joinable .reset] },
      .assigning m.activations.length)
  | .spawning, .spawn false => some (m, .ended .startMonitoring .threadResourceError)
  | .assigning thread, .go =>
    some ({ m with monitorThread := some thread }, .ended .startMonitoring .returned)
  | .task mode .reset, .go => some ({ m with exception := none }, .task mode .lock)
  | .task mode .lock, .go => if m.locked then none else some (m, .task mode .test)
  | .task mode .test, .go => some (m, .task mode (m.unlessStopped .waiting))
  | .task mode .waiting, .go => if m.locked then none else some (m, .task mode .recheck)
  | .task mode .recheck, .go => some (m, .task mode (m.unlessStopped .checking))
  | .task mode .checking, .check result =>
    some (m.checked result, .task mode (if result.isStored then .clear else .test))
  | .task mode .clear, .go => some ({ m with isMonitoring := false }, .task mode .unlock)
  | .task mode .unlock, .go => some (m, mode.afterTask)
  | .readMustStop, .go =>
    some (m, if m.mustStop then .ended .monitorConnection .returned else .readException)
  | .readException, .go => some (m, .ended .monitorConnection (rethrown m.exception))
  | .stopCheck stopper, .go =>
    some (m, if m.isMonitoring then .stopRequest stopper else .stopRead stopper)
  | .stopRequest stopper, .go => some ({ m with mustStop := true }, .stopJoinable stopper)
  | .stopJoinable stopper, .go => some (m, stopper.next m.monitorThread)
  | .stopJoin stopper thread, .go =>
    if m.terminated thread then some ({ m with monitorThread := none }, .stopRead stopper) else none
  | .stopRead stopper, .go => some (m, .ended stopper.role (stopper.outcome m.exception))
  | _, _ => none

inductive Action where
  | connect
  | call (c : Call)
  | act (k : Nat) (w : Work)
  deriving DecidableEq, Repr

def Call.destroys : Call → Bool
  | .stop .destructor => true
  | _ => false

def Monitor.step (m : Monitor) : Action → Option Monitor
  | .connect => if m.alive then some { m with created := true } else none
  | .call c =>
    if m.alive then
      some { m with alive := !c.destroys, activations := m.activations ++ [m.enter c] }
    else none
  | .act k w =>
    (m.activations[k]?).bind fun p => (m.work p w).map fun (n, q) =>
      { n with activations := n.activations.set k q }

theorem work_cases {m n : Monitor} {p q : Place} {w : Work} :
    m.work p w = some (n, q) → match p with
    | .startCheck mode => w = .go ∧ n = m ∧
        (m.isMonitoring = true ∧ q = .ended mode.caller .returned ∨
          m.isMonitoring = false ∧ q = .startSet mode)
    | .startSet mode => w = .go ∧ n = { m with isMonitoring := true } ∧ q = mode.launch
    | .spawning =>
        w = .spawn true ∧ n = { m with activations := m.activations ++ [.task .joinable .reset] } ∧
          q = .assigning m.activations.length ∨
        w = .spawn false ∧ n = m ∧ q = .ended .startMonitoring .threadResourceError
    | .assigning thread => w = .go ∧ n = { m with monitorThread := some thread } ∧
        q = .ended .startMonitoring .returned
    | .task mode .reset => w = .go ∧ n = { m with exception := none } ∧ q = .task mode .lock
    | .task mode .lock => w = .go ∧ n = m ∧ m.locked = false ∧ q = .task mode .test
    | .task mode .test => w = .go ∧ n = m ∧ q = .task mode (m.unlessStopped .waiting)
    | .task mode .waiting => w = .go ∧ n = m ∧ m.locked = false ∧ q = .task mode .recheck
    | .task mode .recheck => w = .go ∧ n = m ∧ q = .task mode (m.unlessStopped .checking)
    | .task mode .checking => ∃ result, w = .check result ∧ n = m.checked result ∧
        q = .task mode (if result.isStored then .clear else .test)
    | .task mode .clear => w = .go ∧ n = { m with isMonitoring := false } ∧ q = .task mode .unlock
    | .task mode .unlock => w = .go ∧ n = m ∧ q = mode.afterTask
    | .readMustStop => w = .go ∧ n = m ∧
        q = if m.mustStop then .ended .monitorConnection .returned else .readException
    | .readException => w = .go ∧ n = m ∧ q = .ended .monitorConnection (rethrown m.exception)
    | .stopCheck stopper => w = .go ∧ n = m ∧
        (m.isMonitoring = true ∧ q = .stopRequest stopper ∨
          m.isMonitoring = false ∧ q = .stopRead stopper)
    | .stopRequest stopper => w = .go ∧ n = { m with mustStop := true } ∧ q = .stopJoinable stopper
    | .stopJoinable stopper => w = .go ∧ n = m ∧ q = stopper.next m.monitorThread
    | .stopJoin stopper thread => w = .go ∧ n = { m with monitorThread := none } ∧
        m.terminated thread = true ∧ q = .stopRead stopper
    | .stopRead stopper => w = .go ∧ n = m ∧ q = .ended stopper.role (stopper.outcome m.exception)
    | .ended _ _ => False := by
  intro works
  cases p with
  | startCheck mode | stopCheck stopper =>
    cases w <;> cases works
    cases read : m.isMonitoring <;> simp
  | spawning =>
    cases w with
    | spawn started => cases started <;> (cases works; simp)
    | _ => cases works
  | stopJoin stopper thread =>
    cases w <;> simp only [Monitor.work, reduceCtorEq] at works
    split at works <;> cases works
    simp_all
  | task mode pc =>
    cases pc with
    | lock | waiting =>
      cases w <;> simp only [Monitor.work, reduceCtorEq] at works
      split at works <;> cases works
      simp_all
    | _ =>
      cases w <;> cases works
      simp
  | ended role outcome => cases w <;> cases works
  | _ =>
    cases w <;> cases works
    simp

inductive Leads : Place → Place → Prop where
  | returns (mode : Mode) : Leads (.startCheck mode) (.ended mode.caller .returned)
  | starts (mode : Mode) : Leads (.startCheck mode) (.startSet mode)
  | spawns : Leads (.startSet .joinable) .spawning
  | runs : Leads (.startSet .blocking) (.task .blocking .reset)
  | spawned (thread : Nat) : Leads .spawning (.assigning thread)
  | notSpawned : Leads .spawning (.ended .startMonitoring .threadResourceError)
  | assigned (thread : Nat) : Leads (.assigning thread) (.ended .startMonitoring .returned)
  | resets (mode : Mode) : Leads (.task mode .reset) (.task mode .lock)
  | locks (mode : Mode) : Leads (.task mode .lock) (.task mode .test)
  | waits (mode : Mode) : Leads (.task mode .test) (.task mode .waiting)
  | wakes (mode : Mode) : Leads (.task mode .waiting) (.task mode .recheck)
  | checks (mode : Mode) : Leads (.task mode .recheck) (.task mode .checking)
  | goesOn (mode : Mode) : Leads (.task mode .checking) (.task mode .test)
  | leaves (mode : Mode) : Leads (.task mode .test) (.task mode .clear)
  | breaks (mode : Mode) : Leads (.task mode .recheck) (.task mode .clear)
  | fails (mode : Mode) : Leads (.task mode .checking) (.task mode .clear)
  | clears (mode : Mode) : Leads (.task mode .clear) (.task mode .unlock)
  | terminates : Leads (.task .joinable .unlock) (.ended .monitorTask .returned)
  | resumes : Leads (.task .blocking .unlock) .readMustStop
  | stopped : Leads .readMustStop (.ended .monitorConnection .returned)
  | goesToRead : Leads .readMustStop .readException
  | reads (outcome : Outcome) : Leads .readException (.ended .monitorConnection outcome)
  | requests (stopper : Stopper) : Leads (.stopCheck stopper) (.stopRequest stopper)
  | skips (stopper : Stopper) : Leads (.stopCheck stopper) (.stopRead stopper)
  | requested (stopper : Stopper) : Leads (.stopRequest stopper) (.stopJoinable stopper)
  | joins (stopper : Stopper) (thread : Nat) :
      Leads (.stopJoinable stopper) (.stopJoin stopper thread)
  | notJoinable (stopper : Stopper) : Leads (.stopJoinable stopper) (.stopRead stopper)
  | joined (stopper : Stopper) (thread : Nat) :
      Leads (.stopJoin stopper thread) (.stopRead stopper)
  | ends (stopper : Stopper) (outcome : Outcome) :
      Leads (.stopRead stopper) (.ended stopper.role outcome)

theorem unlessStopped_cases (m : Monitor) (pc : TaskPc) :
    m.mustStop = true ∧ m.unlessStopped pc = .clear ∨
      m.mustStop = false ∧ m.unlessStopped pc = pc := by
  cases read : m.mustStop <;> simp [Monitor.unlessStopped, read]

theorem work_leads {m n : Monitor} {p q : Place} {w : Work} (works : m.work p w = some (n, q)) :
    Leads p q := by
  have did := work_cases works
  cases p with
  | startCheck mode =>
    rcases did with ⟨_, _, ⟨_, rfl⟩ | ⟨_, rfl⟩⟩
    · exact .returns mode
    · exact .starts mode
  | startSet mode =>
    obtain ⟨_, _, rfl⟩ := did
    cases mode
    · exact .spawns
    · exact .runs
  | spawning =>
    rcases did with ⟨_, _, rfl⟩ | ⟨_, _, rfl⟩
    · exact .spawned _
    · exact .notSpawned
  | assigning thread => obtain ⟨_, _, rfl⟩ := did; exact .assigned thread
  | task mode pc =>
    cases pc with
    | reset => obtain ⟨_, _, rfl⟩ := did; exact .resets mode
    | lock => obtain ⟨_, _, _, rfl⟩ := did; exact .locks mode
    | test =>
      obtain ⟨_, _, rfl⟩ := did
      rcases unlessStopped_cases m .waiting with ⟨_, next⟩ | ⟨_, next⟩ <;> rw [next]
      · exact .leaves mode
      · exact .waits mode
    | waiting => obtain ⟨_, _, _, rfl⟩ := did; exact .wakes mode
    | recheck =>
      obtain ⟨_, _, rfl⟩ := did
      rcases unlessStopped_cases m .checking with ⟨_, next⟩ | ⟨_, next⟩ <;> rw [next]
      · exact .breaks mode
      · exact .checks mode
    | checking =>
      obtain ⟨result, _, _, rfl⟩ := did
      cases result.isStored
      · exact .goesOn mode
      · exact .fails mode
    | clear => obtain ⟨_, _, rfl⟩ := did; exact .clears mode
    | unlock =>
      obtain ⟨_, _, rfl⟩ := did
      cases mode
      · exact .terminates
      · exact .resumes
  | readMustStop =>
    obtain ⟨_, _, rfl⟩ := did
    cases m.mustStop
    · exact .goesToRead
    · exact .stopped
  | readException => obtain ⟨_, _, rfl⟩ := did; exact .reads _
  | stopCheck stopper =>
    rcases did with ⟨_, _, ⟨_, rfl⟩ | ⟨_, rfl⟩⟩
    · exact .requests stopper
    · exact .skips stopper
  | stopRequest stopper => obtain ⟨_, _, rfl⟩ := did; exact .requested stopper
  | stopJoinable stopper =>
    obtain ⟨_, _, rfl⟩ := did
    cases m.monitorThread
    · exact .notJoinable stopper
    · exact .joins stopper _
  | stopJoin stopper thread => obtain ⟨_, _, _, rfl⟩ := did; exact .joined stopper thread
  | stopRead stopper => obtain ⟨_, _, rfl⟩ := did; exact .ends stopper _
  | ended role outcome => exact absurd did id

theorem work_activations {m n : Monitor} {p q : Place} {w : Work}
    (works : m.work p w = some (n, q)) :
    n.activations = m.activations ∧ w ≠ .spawn true ∨
      p = .spawning ∧ w = .spawn true ∧ q = .assigning m.activations.length ∧
        n.activations = m.activations ++ [.task .joinable .reset] := by
  have did := work_cases works
  cases p with
  | spawning =>
    rcases did with ⟨rfl, rfl, rfl⟩ | ⟨rfl, rfl, rfl⟩
    · exact .inr ⟨rfl, rfl, rfl, rfl⟩
    · exact .inl ⟨rfl, by simp⟩
  | task mode pc =>
    cases pc with
    | checking =>
      obtain ⟨result, rfl, rfl, _⟩ := did
      cases result <;> exact .inl ⟨rfl, by simp⟩
    | _ =>
      obtain ⟨rfl, rfl, _⟩ := did
      exact .inl ⟨rfl, by simp⟩
  | ended role outcome => exact absurd did id
  | _ =>
    obtain ⟨rfl, rfl, _⟩ := did
    exact .inl ⟨rfl, by simp⟩

/-! What the members are after a step at a place. must_stop_monitoring_ is never reset. -/

def Monitor.isMonitoringAfter (m : Monitor) : Place → Bool
  | .startSet _ => true
  | .task _ .clear => false
  | _ => m.isMonitoring

def Monitor.mustStopAfter (m : Monitor) : Place → Bool
  | .stopRequest _ => true
  | _ => m.mustStop

def Monitor.monitorThreadAfter (m : Monitor) : Place → Option Nat
  | .assigning thread => some thread
  | .stopJoin _ _ => none
  | _ => m.monitorThread

def Monitor.exceptionAfter (m : Monitor) : Place → Work → Option StoredException
  | .task _ .reset, _ => none
  | .task _ .checking, .check result => (m.checked result).exception
  | _, _ => m.exception

structure Writes (m : Monitor) (p : Place) (w : Work) (n : Monitor) : Prop where
  created : n.created = m.created
  alive : n.alive = m.alive
  pongTimeoutMs : n.pongTimeoutMs = m.pongTimeoutMs
  isMonitoring : n.isMonitoring = m.isMonitoringAfter p
  mustStop : n.mustStop = m.mustStopAfter p
  monitorThread : n.monitorThread = m.monitorThreadAfter p
  exception : n.exception = m.exceptionAfter p w
  thrown : m.thrown ≤ n.thrown

theorem checked_writes (m : Monitor) (mode : Mode) (result : CheckResult) :
    Writes m (.task mode .checking) (.check result) (m.checked result) := by
  cases result with
  | raised f => exact ⟨rfl, rfl, rfl, rfl, rfl, rfl, rfl, Nat.le_succ _⟩
  | _ => exact ⟨rfl, rfl, rfl, rfl, rfl, rfl, rfl, Nat.le_refl _⟩

theorem work_writes {m n : Monitor} {p q : Place} {w : Work}
    (works : m.work p w = some (n, q)) : Writes m p w n := by
  have did := work_cases works
  cases p with
  | spawning =>
    rcases did with ⟨_, rfl, _⟩ | ⟨_, rfl, _⟩ <;>
      exact ⟨rfl, rfl, rfl, rfl, rfl, rfl, rfl, Nat.le_refl _⟩
  | task mode pc =>
    cases pc with
    | checking =>
      obtain ⟨result, rfl, rfl, _⟩ := did
      exact checked_writes m mode result
    | _ =>
      obtain ⟨_, rfl, _⟩ := did
      exact ⟨rfl, rfl, rfl, rfl, rfl, rfl, rfl, Nat.le_refl _⟩
  | ended role outcome => exact absurd did id
  | _ =>
    obtain ⟨_, rfl, _⟩ := did
    exact ⟨rfl, rfl, rfl, rfl, rfl, rfl, rfl, Nat.le_refl _⟩

/-- A step of activation `k` from `p` to `q`; `n` has the members it leaves. -/
structure Acts (m : Monitor) (k : Nat) (w : Work) (t : Monitor) (p q : Place) (n : Monitor) :
    Prop where
  here : m.activations[k]? = some p
  works : m.work p w = some (n, q)
  result : t = { n with activations := n.activations.set k q }

theorem act_iff {m t : Monitor} {k : Nat} {w : Work} :
    m.step (.act k w) = some t ↔ ∃ p q n, Acts m k w t p q n := by
  simp only [Monitor.step, Option.bind_eq_some_iff, Option.map_eq_some_iff]
  constructor
  · rintro ⟨p, here, ⟨n, q⟩, works, rfl⟩
    exact ⟨p, q, n, here, works, rfl⟩
  · rintro ⟨p, q, n, here, works, rfl⟩
    exact ⟨p, here, (n, q), works, rfl⟩

theorem act_next {m n : Monitor} {k : Nat} {w : Work} {p q : Place}
    (here : m.activations[k]? = some p) (works : m.work p w = some (n, q)) :
    ∃ t, m.step (.act k w) = some t ∧ Acts m k w t p q n :=
  ⟨_, act_iff.mpr ⟨p, q, n, here, works, rfl⟩, here, works, rfl⟩

def Work.begun : Work → Option Place
  | .spawn true => some (.task .joinable .reset)
  | _ => none

theorem begun_some {w : Work} {r : Place} (begun : w.begun = some r) :
    w = .spawn true ∧ r = .task .joinable .reset := by
  cases w with
  | spawn started =>
    cases started with
    | true => exact ⟨rfl, (Option.some.inj begun).symm⟩
    | false => cases begun
  | _ => cases begun

section acts
variable {m t n : Monitor} {k : Nat} {w : Work} {p q : Place} (acts : Acts m k w t p q n)
include acts

theorem acts_writes : Writes m p w t := by
  obtain ⟨created, alive, timeout, monitoring, stop, thread, exception, thrown⟩ :=
    work_writes acts.works
  rw [acts.result]
  exact ⟨created, alive, timeout, monitoring, stop, thread, exception, thrown⟩

theorem acts_activations : t.activations = after m.activations k q w.begun := by
  rw [acts.result]
  rcases work_activations acts.works with ⟨same, other⟩ | ⟨_, rfl, _, grown⟩
  · cases begun : w.begun with
    | none => simp only [same, after]
    | some r => exact absurd (begun_some begun).1 other
  · simp only [grown, after, Work.begun]

theorem acts_spawns (spawn : w = .spawn true) :
    p = .spawning ∧ q = .assigning m.activations.length := by
  rcases work_activations acts.works with ⟨_, other⟩ | ⟨place, _, next, _⟩
  · exact absurd spawn other
  · exact ⟨place, next⟩

theorem acts_self : t.activations[k]? = some q :=
  acts_activations acts ▸ after_self acts.here

theorem acts_other {j : Nat} {r : Place} (other : j ≠ k) (there : m.activations[j]? = some r) :
    t.activations[j]? = some r :=
  acts_activations acts ▸ after_other other there

theorem acts_spawned (spawn : w = .spawn true) :
    t.activations[m.activations.length]? = some (.task .joinable .reset) := by
  rw [acts_activations acts, spawn]
  exact after_begun acts.here

theorem acts_entry {j : Nat} {r : Place} (there : t.activations[j]? = some r) :
    j = k ∧ r = q ∨ j ≠ k ∧ m.activations[j]? = some r ∨
      p = .spawning ∧ q = .assigning j ∧ j = m.activations.length ∧ r = .task .joinable .reset := by
  rw [acts_activations acts] at there
  rcases after_cases there with self | other | ⟨rfl, begun⟩
  · exact .inl self
  · exact .inr (.inl other)
  · obtain ⟨spawn, place⟩ := begun_some begun
    obtain ⟨was, next⟩ := acts_spawns acts spawn
    exact .inr (.inr ⟨was, next, rfl, place⟩)

theorem acts_nowhere {kind : Place → Prop} (nobody : Nowhere kind m.activations) (not : ¬kind q)
    (spawned : p = .spawning → ¬kind (.task .joinable .reset)) : Nowhere kind t.activations := by
  rw [acts_activations acts]
  refine nowhere_after nobody not fun r begun => ?_
  obtain ⟨spawn, rfl⟩ := begun_some begun
  exact spawned (acts_spawns acts spawn).1

theorem acts_atMostOne {kind : Place → Prop} (single : AtMostOne kind m.activations)
    (stays : kind q → kind p ∨ Nowhere kind m.activations)
    (spawned : p = .spawning → kind (.task .joinable .reset) → kind p ∧ ¬kind q) :
    AtMostOne kind t.activations := by
  rw [acts_activations acts]
  refine atMostOne_after single acts.here stays fun r begun => ?_
  obtain ⟨spawn, rfl⟩ := begun_some begun
  exact spawned (acts_spawns acts spawn).1

theorem acts_leaves {kind : Place → Prop} (single : AtMostOne kind m.activations) (was : kind p)
    (not : ¬kind q) (spawned : p = .spawning → ¬kind (.task .joinable .reset)) :
    Nowhere kind t.activations := by
  rw [acts_activations acts]
  refine nowhere_left single acts.here was not fun r begun => ?_
  obtain ⟨spawn, rfl⟩ := begun_some begun
  exact spawned (acts_spawns acts spawn).1

end acts

theorem call_iff {m t : Monitor} {c : Call} : m.step (.call c) = some t ↔ m.alive = true ∧
    t = { m with alive := !c.destroys, activations := m.activations ++ [m.enter c] } := by
  cases live : m.alive <;> simp [Monitor.step, live, @eq_comm _ t]

theorem checkConnectionInitialization_cases (m : Monitor) :
    m.created = true ∧ m.checkConnectionInitialization = .ok () ∨
      m.created = false ∧ m.checkConnectionInitialization =
        .error (.connectionNotInitError "connection not initialized") := by
  cases made : m.created <;> simp [Monitor.checkConnectionInitialization, made]

theorem checkPingTimings_cases (pingIntervalMs pongTimeoutMs : UInt32) :
    checkPingTimings pingIntervalMs pongTimeoutMs = .ok () ∨
      ∃ text, checkPingTimings pingIntervalMs pongTimeoutMs =
        .error (.connectionConfigError text) := by
  unfold checkPingTimings
  split
  · exact .inr ⟨_, rfl⟩
  · exact .inl rfl

theorem enter_cases (m : Monitor) (c : Call) :
    (∃ mode, m.enter c = .startCheck mode ∧ m.created = true ∧
        ∃ interval, c = .start mode interval) ∨
      (∃ stopper, m.enter c = .stopCheck stopper ∧ c = .stop stopper) ∨
      ∃ role o, m.enter c = .ended role o ∧ ∀ e, o ≠ .rethrew e := by
  cases c with
  | start mode interval =>
    rcases checkConnectionInitialization_cases m with ⟨made, ok⟩ | ⟨_, fails⟩
    · rcases checkPingTimings_cases (interval * 1000) (UInt32.ofInt m.pongTimeoutMs) with
        passes | ⟨text, refuses⟩
      · refine .inl ⟨mode, ?_, made, interval, rfl⟩
        simp only [Monitor.enter, Monitor.checkStart, ok, passes]
      · refine .inr (.inr ⟨mode.caller, .connectionConfigError text, ?_, by simp⟩)
        simp only [Monitor.enter, Monitor.checkStart, ok, refuses]
    · refine .inr (.inr ⟨mode.caller, .connectionNotInitError "connection not initialized", ?_,
        by simp⟩)
      simp only [Monitor.enter, Monitor.checkStart, fails]
  | stop stopper =>
    cases stopper with
    | stopMonitoring =>
      rcases checkConnectionInitialization_cases m with ⟨_, ok⟩ | ⟨_, fails⟩
      · refine .inr (.inl ⟨.stopMonitoring, ?_, rfl⟩)
        simp only [Monitor.enter, ok]
      · refine .inr (.inr ⟨.stopMonitoring,
          .connectionNotInitError "connection not initialized", ?_, by simp⟩)
        simp only [Monitor.enter, fails]
    | destructor => exact .inr (.inl ⟨.destructor, rfl, rfl⟩)

theorem connect_iff {m t : Monitor} :
    m.step .connect = some t ↔ m.alive = true ∧ t = { m with created := true } := by
  cases live : m.alive <;> simp [Monitor.step, live, @eq_comm _ t]

end PcpMonitor
