import PcpClient.ErrorPolicy
import PcpClient.BaseConnector

/-!
A connector with its Monitoring Task: what isConnected(), connect() and ping() do in a round of
the loop is what the connector and its network make of them. connect() is called by one thread
at a time, as its documentation demands.
-/
namespace PcpMonitored
open PcpThreads PcpTransitions PcpMonitor PcpErrorPolicy
variable {State Event : Type}

/-- What the task needs of the connector: the runs of connect() and of everything else that
    goes on in it, and how the latest call ended. -/
structure Reconnecting (State Event : Type) where
  step : State → Event → Option State
  callConnect : Int → Event
  isCall : Event → Bool
  bound : State → Int
  ended : State → Option PcpConnector.Outcome
  created : State → Bool
  isConnected : State → Bool
  bound_call : ∀ {c d n}, step c (callConnect n) = some d → bound d = n
  bound_kept : ∀ {c d e}, isCall e = false → step c e = some d → bound d = bound c

/-- The int that connect() receives from the uint32_t of startMonitoring(). -/
def toInt (maxConnectAttempts : UInt32) : Int := Int.bmod maxConnectAttempts.toNat (2 ^ 32)

def fatalErrorText (idx : Int) : String :=
  "failed to establish a WebSocket connection after " ++ toString idx ++
    (if idx = 1 then " attempt" else " attempts")

def throws : PcpConnector.Outcome → Exception → Bool
  | .returned, _ => false
  | .associationError text, e => decide (e.cls = connectionAssociationError ∧ e.what = text)
  | .associationResponseFailure text, e =>
    decide (e.cls = connectionAssociationResponseFailure ∧ e.what = text)
  | .configError, e => decide (e.cls = connectionConfigError)
  | .fatalError idx, e => decide (e.cls = connectionFatalError ∧ e.what = fatalErrorText idx)
  | .otherException, e => decide (clause e.cls = .other)

def endsBy (o : PcpConnector.Outcome) : Option Exception → Bool
  | none => decide (o = .returned)
  | some e => throws o e

inductive Check where
  | pinging (k : Nat)
  | sleeping (k : Nat)
  | connecting (k : Nat)
  deriving DecidableEq, Repr

def Check.isConnecting : Check → Bool
  | .connecting _ => true
  | _ => false

/-- The connector with its monitoring; bounds has the max_connect_attempts of each activation. -/
structure Monitored (State : Type) where
  task : Task
  bounds : List UInt32
  connector : State
  check : Option Check

def Monitored.create (pongTimeoutMs : Int) (connector : State) : Monitored State :=
  ⟨.create pongTimeoutMs, [], connector, none⟩

inductive Move (Event : Type) where
  | connector (e : Event)
  | call (c : Call) (maxConnectAttempts : UInt32)
  | go (k : Nat)
  | spawn (k : Nat) (started : Bool)
  | readConnected (k : Nat)
  | ping (thrown : Option Exception)
  | enterConnect
  | connectEnds (thrown : Option Exception)

/-- connection_ptr_ is set by the first connect(). -/
def seen (task : Task) (created : Bool) : Option Task :=
  if created && !task.monitor.created then task.step (.other .connect) else some task

def checkEnds (task : Task) (k : Nat) (result : CheckResult) : Option Exception → Option Task
  | none => task.step (.other (.act k (.check result)))
  | some e => task.step (.raise k e)

def isChecking : Option Place → Bool
  | some (.task _ .checking) => true
  | _ => false

def isPingError (e : Exception) : Bool := decide (e.cls = connectionProcessingError)

def Monitored.step (r : Reconnecting State Event) (s : Monitored State) :
    Move Event → Option (Monitored State)
  | .connector e =>
    if r.isCall e && s.check.any Check.isConnecting then none
    else (r.step s.connector e).bind fun c =>
      (seen s.task (r.created c)).map fun t => { s with task := t, connector := c }
  | .call c maxConnectAttempts =>
    if c.destroys then none
    else (s.task.step (.other (.call c))).map fun t =>
      { s with task := t, bounds := s.bounds ++ [maxConnectAttempts] }
  | .go k => (s.task.step (.other (.act k .go))).map fun t => { s with task := t }
  | .spawn k started =>
    (s.bounds[k]?).bind fun b =>
      (s.task.step (.other (.act k (.spawn started)))).map fun t =>
        { s with task := t, bounds := if started then s.bounds ++ [b] else s.bounds }
  | .readConnected k =>
    if s.check = none ∧ isChecking s.task.monitor.activations[k]? then
      some { s with
        check := some (if r.isConnected s.connector then .pinging k else .sleeping k) }
    else none
  | .ping thrown =>
    match s.check with
    | some (.pinging k) =>
      if thrown.all isPingError then
        (checkEnds s.task k .pinged thrown).map fun t => { s with task := t, check := none }
      else none
    | _ => none
  | .enterConnect =>
    match s.check with
    | some (.sleeping k) =>
      (s.bounds[k]?).bind fun b =>
        (r.step s.connector (r.callConnect (toInt b))).map fun c =>
          { s with connector := c, check := some (.connecting k) }
    | _ => none
  | .connectEnds thrown =>
    match s.check, r.ended s.connector with
    | some (.connecting k), some o =>
      if endsBy o thrown then
        (checkEnds s.task k .reconnected thrown).map fun t => { s with task := t, check := none }
      else none
    | _, _ => none

theorem monitored_cases {r : Reconnecting State Event} {s t : Monitored State} {a : Move Event} :
    s.step r a = some t →
    match a with
    | .connector e =>
      (s.check.any Check.isConnecting = true → r.isCall e = false) ∧
        ∃ c u, r.step s.connector e = some c ∧ seen s.task (r.created c) = some u ∧
          t = { s with task := u, connector := c }
    | .call c b =>
      ∃ u, s.task.step (.other (.call c)) = some u ∧
        t = { s with task := u, bounds := s.bounds ++ [b] }
    | .go k => ∃ u, s.task.step (.other (.act k .go)) = some u ∧ t = { s with task := u }
    | .spawn k started =>
      ∃ u more, s.task.step (.other (.act k (.spawn started))) = some u ∧
        (∀ b ∈ more, b ∈ s.bounds) ∧ t = { s with task := u, bounds := s.bounds ++ more }
    | .readConnected k =>
      (s.check = none ∧ isChecking s.task.monitor.activations[k]? = true) ∧
        ∃ check, (check = .pinging k ∨ check = .sleeping k) ∧ t = { s with check := some check }
    | .ping thrown =>
      ∃ k u, s.check = some (.pinging k) ∧ thrown.all isPingError = true ∧
        checkEnds s.task k .pinged thrown = some u ∧ t = { s with task := u, check := none }
    | .enterConnect =>
      ∃ k b c, s.check = some (.sleeping k) ∧ s.bounds[k]? = some b ∧
        r.step s.connector (r.callConnect (toInt b)) = some c ∧
        t = { s with connector := c, check := some (.connecting k) }
    | .connectEnds thrown =>
      ∃ k o u, s.check = some (.connecting k) ∧ r.ended s.connector = some o ∧
        endsBy o thrown = true ∧ checkEnds s.task k .reconnected thrown = some u ∧
        t = { s with task := u, check := none } := by
  intro next
  cases a <;> simp only [Monitored.step] at next
  case connector e =>
    obtain ⟨alone, moves⟩ := Option.ite_none_left_eq_some.mp next
    obtain ⟨c, inner, sees⟩ := Option.bind_eq_some_iff.mp moves
    obtain ⟨u, task, same⟩ := Option.map_eq_some_iff.mp sees
    refine ⟨fun connecting => ?_, c, u, inner, task, same.symm⟩
    simpa [connecting] using alone
  case call c b =>
    obtain ⟨_, moves⟩ := Option.ite_none_left_eq_some.mp next
    obtain ⟨u, task, same⟩ := Option.map_eq_some_iff.mp moves
    exact ⟨u, task, same.symm⟩
  case go k =>
    obtain ⟨u, task, same⟩ := Option.map_eq_some_iff.mp next
    exact ⟨u, task, same.symm⟩
  case spawn k started =>
    obtain ⟨b, bound, moves⟩ := Option.bind_eq_some_iff.mp next
    obtain ⟨u, task, same⟩ := Option.map_eq_some_iff.mp moves
    refine ⟨u, if started then [b] else [], task, ?_, ?_⟩
    · cases started <;> simp [List.mem_of_getElem? bound]
    · rw [← same]
      cases started <;> simp
  case readConnected k =>
    obtain ⟨free, same⟩ := Option.ite_none_right_eq_some.mp next
    refine ⟨free, _, ?_, (Option.some.inj same).symm⟩
    cases r.isConnected s.connector <;> simp
  case ping thrown =>
    split at next
    · obtain ⟨allowed, moves⟩ := Option.ite_none_right_eq_some.mp next
      obtain ⟨u, task, same⟩ := Option.map_eq_some_iff.mp moves
      exact ⟨_, u, ‹_›, allowed, task, same.symm⟩
    · cases next
  case enterConnect =>
    split at next
    · obtain ⟨b, bound, moves⟩ := Option.bind_eq_some_iff.mp next
      obtain ⟨c, inner, same⟩ := Option.map_eq_some_iff.mp moves
      exact ⟨_, b, c, ‹_›, bound, inner, same.symm⟩
    · cases next
  case connectEnds thrown =>
    split at next
    · obtain ⟨ends, moves⟩ := Option.ite_none_right_eq_some.mp next
      obtain ⟨u, task, same⟩ := Option.map_eq_some_iff.mp moves
      exact ⟨_, _, u, ‹_›, ‹_›, ends, task, same.symm⟩
    · cases next

/-- What a step of the monitoring does to the loops that have been left, where the given
    exceptions end the loops of the given activations. -/
structure LoopEnds (t u : Task) (fatal : Nat → Exception → Prop) : Prop where
  stops : t.monitor.mustStop = true → u.monitor.mustStop = true
  left : ∀ (j : Nat) p, u.monitor.activations[j]? = some p → hasLeft p = true →
    (∃ q, t.monitor.activations[j]? = some q ∧ hasLeft q = true) ∨
      u.monitor.mustStop = true ∨ ∃ e, fatal j e
  ended : ∀ e, u.endedBy = some e → t.endedBy = some e ∨ ∃ j, fatal j e
  copied : Copied t → Copied u

def noneFatal (_ : Nat) (_ : Exception) : Prop := False

theorem loopEnds_same (t : Task) (fatal : Nat → Exception → Prop) : LoopEnds t t fatal :=
  ⟨id, fun _ p here left => .inl ⟨p, here, left⟩, fun _ => .inl, id⟩

theorem isChecking_check {m t n : Monitor} {k : Nat} {w : Work} {p q : Place}
    (acts : Acts m k w t p q n) (quiet : ∀ result, w ≠ .check result) :
    ∀ mode, p ≠ .task mode .checking := by
  rintro mode rfl
  obtain ⟨result, check, _⟩ := work_cases acts.works
  exact quiet result check

theorem loopEnds_other {t u : Task} {a : PcpMonitor.Action} (next : t.step (.other a) = some u)
    (quiet : ∀ k result, a ≠ .act k (.check result)) : LoopEnds t u noneFatal := by
  have copied : Copied t → Copied u := fun before => copied_step before next
  obtain ⟨_, m, moved, made⟩ := other_cases next
  have ended : ∀ e, u.endedBy = some e → t.endedBy = some e := by
    intro e
    rw [made]
    split
    · intro some
      cases some
    · exact id
  have monitor : u.monitor = m := by
    rw [made]
    split <;> rfl
  refine ⟨fun stop => ?_, fun j p here left => ?_, fun e some => .inl (ended e some), copied⟩
  · rw [monitor]
    cases a with
    | connect => obtain ⟨_, rfl⟩ := connect_iff.mp moved; exact stop
    | call c => obtain ⟨_, rfl⟩ := call_iff.mp moved; exact stop
    | act k w =>
      obtain ⟨p, q, n, acts⟩ := act_iff.mp moved
      exact mustStop_stays acts stop
  · rw [monitor] at here ⊢
    cases a with
    | connect => obtain ⟨_, rfl⟩ := connect_iff.mp moved; exact .inl ⟨p, here, left⟩
    | call c =>
      obtain ⟨_, rfl⟩ := call_iff.mp moved
      rcases began_cases here with ⟨_, rfl⟩ | before
      · rw [enter_places] at left
        cases left
      · exact .inl ⟨p, before, left⟩
    | act k w =>
      obtain ⟨p', q, n, acts⟩ := act_iff.mp moved
      rcases acts_entry acts here with ⟨rfl, rfl⟩ | ⟨_, before⟩ | ⟨_, _, _, rfl⟩
      · have notChecking := isChecking_check acts fun result check => quiet j result (by rw [check])
        rcases left_before acts left notChecking with before | ⟨_, stop⟩
        · exact .inl ⟨p', acts.here, before⟩
        · exact .inr (.inl (mustStop_stays acts stop))
      · exact .inl ⟨p, before, left⟩
      · cases left

theorem left_check {m t n : Monitor} {j k : Nat} {result : CheckResult} {p q r : Place}
    (acts : Acts m k (.check result) t p q n) (here : t.activations[j]? = some r)
    (left : hasLeft r = true) :
    m.activations[j]? = some r ∨ j = k ∧ result.isStored = true := by
  obtain ⟨mode, place, next, _⟩ := check_place acts
  rcases acts_entry acts here with ⟨rfl, rfl⟩ | ⟨_, before⟩ | ⟨spawning, _⟩
  · refine .inr ⟨rfl, ?_⟩
    by_contra goesOn
    rw [next, if_neg goesOn] at left
    cases left
  · exact .inl before
  · rw [place] at spawning
    cases spawning

theorem loopEnds_check {t u : Task} {k : Nat} {result : CheckResult} {thrown : Option Exception}
    (success : result.isStored = false) (ends : checkEnds t k result thrown = some u) :
    LoopEnds t u fun j e => j = k ∧ thrown = some e ∧ isRetried e.cls = false := by
  cases thrown with
  | none =>
    have next : t.step (.other (.act k (.check result))) = some u := ends
    obtain ⟨_, m, moved, made⟩ := other_cases next
    obtain ⟨p, q, n, acts⟩ := act_iff.mp moved
    have same : u = ⟨m, t.monitorException, t.endedBy⟩ := made
    subst same
    refine ⟨mustStop_stays acts, fun j p here left => ?_, fun _ => .inl,
      fun before => copied_step before next⟩
    rcases left_check acts here left with before | ⟨_, stored⟩
    · exact .inl ⟨p, before, left⟩
    · simp [success] at stored
  | some e =>
    have next : t.step (.raise k e) = some u := ends
    obtain ⟨m, moved, made⟩ := raise_cases next
    obtain ⟨p, q, n, acts⟩ := act_iff.mp moved
    have monitor : u.monitor = m := by
      rw [made]
      split <;> rfl
    have retried := clause_isStored e.cls
    refine ⟨fun stop => monitor ▸ mustStop_stays acts stop, fun j p here left => ?_,
      fun x ended => ?_, fun before => copied_step before next⟩
    · rw [monitor] at here
      rcases left_check acts here left with before | ⟨own, stored⟩
      · exact .inl ⟨p, before, left⟩
      · simp only [CheckResult.isStored, retried, Bool.not_eq_true'] at stored
        exact .inr (.inr ⟨e, own, rfl, stored⟩)
    · rw [made] at ended
      split at ended
      · rename_i stored
        obtain rfl := Option.some.inj ended
        simp only [retried, Bool.not_eq_true'] at stored
        exact .inr ⟨k, rfl, rfl, stored⟩
      · exact .inl ended

structure Throwing (r : Reconnecting State Event) (m : Monitored State) (k : Nat) (b : UInt32)
    (o : PcpConnector.Outcome) (e : Exception) : Prop where
  check : m.check = some (.connecting k)
  bound : m.bounds[k]? = some b
  called : r.bound m.connector = toInt b
  ended : r.ended m.connector = some o
  thrown : throws o e = true

/-- The task of activation k was ended by an exception that its connect() threw. -/
def StoppedBy (r : Reconnecting State Event) (first : Monitored State) (past : List (Move Event))
    (k : Nat) (e : Exception) : Prop :=
  isRetried e.cls = false ∧ ∃ before after m b o, past = before ++ .connectEnds (some e) :: after ∧
    run (Monitored.step r) first before = some m ∧ Throwing r m k b o e

structure Watched (r : Reconnecting State Event) (first : Monitored State)
    (past : List (Move Event)) (s : Monitored State) : Prop where
  path : run (Monitored.step r) first past = some s
  reached : ∃ trace, run r.step first.connector trace = some s.connector
  called : ∀ k, s.check = some (.connecting k) →
    ∃ b, s.bounds[k]? = some b ∧ r.bound s.connector = toInt b
  left : ∀ (k : Nat) p, s.task.monitor.activations[k]? = some p → hasLeft p = true →
    s.task.monitor.mustStop = true ∨ ∃ e, StoppedBy r first past k e
  ended : ∀ e, s.task.endedBy = some e → ∃ k, StoppedBy r first past k e
  copied : Copied s.task

section watched
variable {r : Reconnecting State Event} {first s t : Monitored State} {past : List (Move Event)}
  {a : Move Event}

theorem stoppedBy_snoc {k : Nat} {e : Exception} (stopped : StoppedBy r first past k e) :
    StoppedBy r first (past ++ [a]) k e := by
  obtain ⟨fatal, before, after, m, b, o, rfl, path, throwing⟩ := stopped
  exact ⟨fatal, before, after ++ [a], m, b, o, by simp, path, throwing⟩

theorem watched_ends (watched : Watched r first past s) (next : s.step r a = some t)
    (reached : ∃ trace, run r.step first.connector trace = some t.connector)
    (called : ∀ k, t.check = some (.connecting k) →
      ∃ b, t.bounds[k]? = some b ∧ r.bound t.connector = toInt b)
    {fatal : Nat → Exception → Prop} (ends : LoopEnds s.task t.task fatal)
    (thrown : ∀ k e, fatal k e → StoppedBy r first (past ++ [a]) k e) :
    Watched r first (past ++ [a]) t where
  path := run_snoc_iff.mpr ⟨s, watched.path, next⟩
  reached := reached
  called := called
  left := fun k p here left => by
    rcases ends.left k p here left with ⟨q, before, gone⟩ | stop | ⟨e, now⟩
    · exact (watched.left k q before gone).imp ends.stops fun ⟨e, old⟩ => ⟨e, stoppedBy_snoc old⟩
    · exact .inl stop
    · exact .inr ⟨e, thrown k e now⟩
  ended := fun e cause => by
    rcases ends.ended e cause with before | ⟨k, now⟩
    · obtain ⟨k, old⟩ := watched.ended e before
      exact ⟨k, stoppedBy_snoc old⟩
    · exact ⟨k, thrown k e now⟩
  copied := ends.copied watched.copied

theorem bound_stays {bounds : List UInt32} (more : List UInt32) {k : Nat} {b : UInt32}
    (here : bounds[k]? = some b) : (bounds ++ more)[k]? = some b := by
  rw [List.getElem?_append_left (List.getElem?_eq_some_iff.mp here).1, here]

theorem reached_snoc {e : Event} {c : State}
    (reached : ∃ trace, run r.step first.connector trace = some s.connector)
    (next : r.step s.connector e = some c) :
    ∃ trace, run r.step first.connector trace = some c := by
  obtain ⟨trace, path⟩ := reached
  exact ⟨trace ++ [e], run_snoc_iff.mpr ⟨s.connector, path, next⟩⟩

theorem ping_retried {e : Exception} (ping : isPingError e = true) : isRetried e.cls = true := by
  simp only [isPingError, decide_eq_true_eq] at ping
  rw [ping]
  decide

theorem watched_step (watched : Watched r first past s) (next : s.step r a = some t) :
    Watched r first (past ++ [a]) t := by
  have moved := monitored_cases next
  cases a with
  | connector e =>
    obtain ⟨alone, c, u, inner, sees, rfl⟩ := moved
    have ends : LoopEnds s.task u noneFatal := by
      unfold seen at sees
      split at sees
      · exact loopEnds_other sees (by simp)
      · obtain rfl := Option.some.inj sees
        exact loopEnds_same s.task noneFatal
    refine watched_ends watched next (reached_snoc watched.reached inner) (fun k check => ?_) ends
      (by simp [noneFatal])
    obtain ⟨b, bound, called⟩ := watched.called k check
    exact ⟨b, bound, (r.bound_kept (alone (by simp [show s.check = _ from check,
      Check.isConnecting])) inner).trans called⟩
  | call c b =>
    obtain ⟨u, moves, rfl⟩ := moved
    refine watched_ends watched next watched.reached (fun k check => ?_)
      (loopEnds_other moves (by simp)) (by simp [noneFatal])
    obtain ⟨bound, here, called⟩ := watched.called k check
    exact ⟨bound, bound_stays _ here, called⟩
  | go k =>
    obtain ⟨u, moves, rfl⟩ := moved
    exact watched_ends watched next watched.reached watched.called
      (loopEnds_other moves (by simp)) (by simp [noneFatal])
  | spawn k started =>
    obtain ⟨u, more, moves, _, rfl⟩ := moved
    refine watched_ends watched next watched.reached (fun k check => ?_)
      (loopEnds_other moves (by simp)) (by simp [noneFatal])
    obtain ⟨bound, here, called⟩ := watched.called k check
    exact ⟨bound, bound_stays _ here, called⟩
  | readConnected k =>
    obtain ⟨_, check, round, rfl⟩ := moved
    refine watched_ends watched next watched.reached (fun j connecting => ?_)
      (loopEnds_same s.task noneFatal) (by simp [noneFatal])
    obtain rfl := Option.some.inj connecting
    simp at round
  | ping thrown =>
    obtain ⟨k, u, _, allowed, ends, rfl⟩ := moved
    refine watched_ends watched next watched.reached (fun j connecting => by cases connecting)
      (loopEnds_check rfl ends) ?_
    rintro j e ⟨_, rfl, fatal⟩
    simp [ping_retried (by simpa using allowed)] at fatal
  | enterConnect =>
    obtain ⟨k, b, c, _, bound, inner, rfl⟩ := moved
    refine watched_ends watched next (reached_snoc watched.reached inner) (fun j connecting => ?_)
      (loopEnds_same s.task noneFatal) (by simp [noneFatal])
    obtain rfl := Check.connecting.inj (Option.some.inj connecting)
    exact ⟨b, bound, r.bound_call inner⟩
  | connectEnds thrown =>
    obtain ⟨k, o, u, check, ended, ends, checks, rfl⟩ := moved
    refine watched_ends watched next watched.reached (fun j connecting => by cases connecting)
      (loopEnds_check rfl checks) ?_
    rintro j e ⟨rfl, rfl, fatal⟩
    obtain ⟨b, bound, called⟩ := watched.called j check
    exact ⟨fatal, past, [], s, b, o, rfl, watched.path, check, bound, called, ended, ends⟩

end watched

theorem watched_run (r : Reconnecting State Event) (pongTimeoutMs : Int) (start : State)
    {past : List (Move Event)} {s : Monitored State}
    (path : run (Monitored.step r) (.create pongTimeoutMs start) past = some s) :
    Watched r (.create pongTimeoutMs start) past s :=
  run_traced (fun s past => Watched r (.create pongTimeoutMs start) past s)
    (fun _ _ _ _ watched _ next => watched_step watched next)
    past (.create pongTimeoutMs start) [] s
    ⟨rfl, ⟨[], rfl⟩, fun _ connecting => (by cases connecting), fun _ _ here => (by cases here),
      fun _ ended => (by cases ended), rfl, rfl⟩
    (throughout_trivial past _) path

end PcpMonitored
