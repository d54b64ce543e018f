import PcpClient.MonitorMachine

/-!
The Monitoring Task with the exceptions themselves: which clause catches an exception, what
is stored of it in monitor_exception_, and what a later call rethrows.
-/
namespace PcpErrorPolicy
open PcpThreads PcpTransitions PcpMonitor

/-- A class derived from std::exception, by the chain of its bases. -/
inductive ExceptionClass where
  | stdException
  | derived (name : String) (base : ExceptionClass)
  deriving DecidableEq, Repr

def runtimeError : ExceptionClass := .derived "std::runtime_error" .stdException
def connectionError : ExceptionClass := .derived "connection_error" runtimeError
def connectionFatalError : ExceptionClass := .derived "connection_fatal_error" connectionError
def connectionConfigError : ExceptionClass := .derived "connection_config_error" connectionError
def connectionProcessingError : ExceptionClass :=
  .derived "connection_processing_error" connectionError
def connectionAssociationError : ExceptionClass :=
  .derived "connection_association_error" connectionError
def connectionAssociationResponseFailure : ExceptionClass :=
  .derived "connection_association_response_failure" connectionError

def ExceptionClass.isA : ExceptionClass → ExceptionClass → Bool
  | .stdException, base => decide (base = .stdException)
  | .derived name above, base => decide (base = .derived name above) || above.isA base

def stdWhat : String := "std::exception"

/-- An exception object. A std::exception of no other class carries no text of its own. -/
structure Exception where
  cls : ExceptionClass
  what : String
  plain : cls = .stdException → what = stdWhat
  deriving DecidableEq

def clause (cls : ExceptionClass) : Failure :=
  if cls.isA connectionConfigError then .configError
  else if cls.isA connectionAssociationError then .associationError
  else if cls.isA connectionProcessingError then .processingError
  else if cls.isA connectionAssociationResponseFailure then .associationResponseFailure
  else if cls.isA connectionFatalError then .fatalError
  else .other

def declared : Failure → ExceptionClass
  | .configError => connectionConfigError
  | .associationError => connectionAssociationError
  | .processingError => connectionProcessingError
  | .associationResponseFailure => connectionAssociationResponseFailure
  | .fatalError => connectionFatalError
  | .other => .stdException

/-- boost::throw_exception(e), where e is declared with the given class: the exception thrown
    is a copy of that part of the object. -/
def Exception.copiedAs (e : Exception) (cls : ExceptionClass) : Exception where
  cls := cls
  what := if cls = .stdException then stdWhat else e.what
  plain same := if_pos same

/-- The members with the exception object, and the exception that ended a loop since the last
    task began. -/
structure Task where
  monitor : Monitor
  monitorException : Option Exception
  endedBy : Option Exception

def Task.create (pongTimeoutMs : Int) : Task := ⟨.create pongTimeoutMs, none, none⟩

inductive Event where
  | raise (k : Nat) (e : Exception)
  | other (a : Action)
  deriving DecidableEq

def isRaise : Action → Bool
  | .act _ (.check (.raised _)) => true
  | _ => false

def isReset : Place → Bool
  | .task _ .reset => true
  | _ => false

def beginsTask (m : Monitor) : Action → Bool
  | .act k .go => (m.activations[k]?).any isReset
  | _ => false

def Task.step (s : Task) : Event → Option Task
  | .raise k e =>
    (s.monitor.step (.act k (.check (.raised (clause e.cls))))).map fun m =>
      if (clause e.cls).isStored
        then ⟨m, some (e.copiedAs (declared (clause e.cls))), some e⟩
        else ⟨m, s.monitorException, s.endedBy⟩
  | .other a =>
    if isRaise a then none
    else (s.monitor.step a).map fun m =>
      if beginsTask s.monitor a then ⟨m, none, none⟩ else ⟨m, s.monitorException, s.endedBy⟩

def isRetried (cls : ExceptionClass) : Bool :=
  cls.isA connectionConfigError || cls.isA connectionAssociationError ||
    cls.isA connectionProcessingError

inductive TaskOutcome where
  | success
  | raised (e : Exception)

def TaskOutcome.goesOn : TaskOutcome → Bool
  | .success => true
  | .raised e => isRetried e.cls

def Event.outcome (k : Nat) : Event → Option TaskOutcome
  | .raise j e => if j = k then some (.raised e) else none
  | .other (.act j (.check _)) => if j = k then some .success else none
  | .other _ => none

def outcomes (k : Nat) (past : List Event) : List TaskOutcome := past.filterMap (Event.outcome k)

def isRunning : Place → Bool
  | .startCheck _ | .startSet _ => true
  | .task _ .clear | .task _ .unlock => false
  | .task _ _ => true
  | _ => false

def hasLeft : Place → Bool
  | .task _ .clear | .task _ .unlock => true
  | .readMustStop | .readException => true
  | .ended .monitorTask _ => true
  | _ => false

def reads : Place → Bool
  | .stopRead .stopMonitoring | .readException => true
  | _ => false

/-- The first exception that is not retried ended the loop, or a stop that was requested did. -/
def EndedBy (m : Monitor) (outcomes : List TaskOutcome) : Prop :=
  (∃ before e, outcomes = before ++ [.raised e] ∧ (∀ o ∈ before, o.goesOn = true) ∧
    isRetried e.cls = false) ∨
  (∀ o ∈ outcomes, o.goesOn = true) ∧ m.mustStop = true

/-- A call of activation k that reads monitor_exception_ rethrows an exception of the class and
    message of the one that ended the loop, and none where none ended it. -/
def Rethrows (s : Task) (k : Nat) : Prop :=
  ∃ t role, s.step (.other (.act k .go)) = some t ∧
    match s.endedBy with
    | some e => ∃ stored x, t.monitor.activations[k]? = some (.ended role (.rethrew stored)) ∧
        s.monitorException = some x ∧ x.cls = e.cls ∧ x.what = e.what
    | none => t.monitor.activations[k]? = some (.ended role .returned)

structure Policy (past : List Event) (s : Task) : Prop where
  goesOn : ∀ (k : Nat) p, s.monitor.activations[k]? = some p → isRunning p = true →
    ∀ o ∈ outcomes k past, o.goesOn = true
  ends : ∀ (k : Nat) p, s.monitor.activations[k]? = some p → hasLeft p = true →
    EndedBy s.monitor (outcomes k past)
  stops : ∀ (k : Nat) mode pc, s.monitor.activations[k]? = some (.task mode pc) →
    pc = .test ∨ pc = .recheck → s.monitor.mustStop = true →
    ∃ t, s.step (.other (.act k .go)) = some t ∧
      t.monitor.activations[k]? = some (.task mode .clear)
  clears : ∀ (k : Nat) mode, s.monitor.activations[k]? = some (.task mode .clear) →
    ∃ t, s.step (.other (.act k .go)) = some t ∧ t.monitor.isMonitoring = false ∧
      t.monitor.activations[k]? = some (.task mode .unlock)
  rethrows : ∀ (k : Nat) p, s.monitor.activations[k]? = some p → reads p = true → Rethrows s k

theorem clause_isStored (cls : ExceptionClass) : (clause cls).isStored = !isRetried cls := by
  unfold clause isRetried
  cases cls.isA connectionConfigError <;> cases cls.isA connectionAssociationError <;>
    cases cls.isA connectionProcessingError <;>
    cases cls.isA connectionAssociationResponseFailure <;>
    cases cls.isA connectionFatalError <;> rfl

theorem copiedAs_same_iff (e : Exception) (cls : ExceptionClass) :
    (e.copiedAs cls).cls = e.cls ∧ (e.copiedAs cls).what = e.what ↔ e.cls = cls := by
  constructor
  · rintro ⟨same, _⟩
    exact same.symm
  · rintro rfl
    refine ⟨rfl, ?_⟩
    simp only [Exception.copiedAs]
    split
    · exact (e.plain ‹_›).symm
    · rfl

theorem raise_cases {s t : Task} {k : Nat} {e : Exception}
    (next : s.step (.raise k e) = some t) :
    ∃ m, s.monitor.step (.act k (.check (.raised (clause e.cls)))) = some m ∧
      t = if (clause e.cls).isStored
        then ⟨m, some (e.copiedAs (declared (clause e.cls))), some e⟩
        else ⟨m, s.monitorException, s.endedBy⟩ := by
  obtain ⟨m, moved, same⟩ := Option.map_eq_some_iff.mp next
  exact ⟨m, moved, same.symm⟩

theorem other_cases {s t : Task} {a : Action} (next : s.step (.other a) = some t) :
    isRaise a = false ∧ ∃ m, s.monitor.step a = some m ∧
      t = if beginsTask s.monitor a then ⟨m, none, none⟩
        else ⟨m, s.monitorException, s.endedBy⟩ := by
  obtain ⟨notRaise, moves⟩ := Option.ite_none_left_eq_some.mp next
  obtain ⟨m, moved, same⟩ := Option.map_eq_some_iff.mp moves
  exact ⟨by simpa using notRaise, m, moved, same.symm⟩

theorem other_next {s : Task} {a : Action} {m : Monitor} (notRaise : isRaise a = false)
    (moved : s.monitor.step a = some m) : ∃ t, s.step (.other a) = some t ∧ t.monitor = m := by
  simp only [Task.step, notRaise, Bool.false_eq_true, if_false, moved, Option.map_some]
  split <;> exact ⟨_, rfl, rfl⟩

def Event.action : Event → Action
  | .raise k e => .act k (.check (.raised (clause e.cls)))
  | .other a => a

theorem step_monitor {s t : Task} {ev : Event} (next : s.step ev = some t) :
    s.monitor.step ev.action = some t.monitor := by
  cases ev with
  | raise k e =>
    obtain ⟨m, moved, rfl⟩ := raise_cases next
    split <;> exact moved
  | other a =>
    obtain ⟨_, m, moved, rfl⟩ := other_cases next
    split <;> exact moved

theorem check_place {m t n : Monitor} {k : Nat} {result : CheckResult} {p q : Place}
    (acts : Acts m k (.check result) t p q n) :
    ∃ mode, p = .task mode .checking ∧
      q = .task mode (if result.isStored then .clear else .test) ∧
      t.exception = (m.checked result).exception := by
  have works := acts.works
  have writes := acts_writes acts
  cases p with
  | task mode pc =>
    cases pc with
    | checking =>
      obtain ⟨_, same, _, place⟩ := work_cases works
      obtain rfl := Work.check.inj same
      exact ⟨mode, rfl, place, writes.exception⟩
    | _ => cases works
  | _ => cases works

theorem exception_other {m t : Monitor} {a : Action} (next : m.step a = some t)
    (notRaise : isRaise a = false) :
    t.exception = if beginsTask m a then none else m.exception := by
  cases a with
  | connect => obtain ⟨_, rfl⟩ := connect_iff.mp next; rfl
  | call c => obtain ⟨_, rfl⟩ := call_iff.mp next; rfl
  | act k w =>
    obtain ⟨p, q, n, acts⟩ := act_iff.mp next
    cases w with
    | go =>
      rw [(acts_writes acts).exception]
      simp only [beginsTask, acts.here, Option.any_some]
      cases p with
      | task mode pc => cases pc <;> rfl
      | _ => rfl
    | spawn started =>
      rw [(acts_writes acts).exception]
      have works := acts.works
      cases p with
      | spawning => rfl
      | task mode pc => cases pc <;> cases works
      | _ => cases works
    | check result =>
      obtain ⟨mode, _, _, after⟩ := check_place acts
      rw [after]
      cases result with
      | raised f => cases notRaise
      | _ => rfl

/-- What is stored is the copy of the exception that ended the loop, and monitor_exception_ is
    set just when there is one. -/
structure Copied (s : Task) : Prop where
  stored : s.monitorException = s.endedBy.map fun e => e.copiedAs (declared (clause e.cls))
  isSome : s.monitor.exception.isSome = s.endedBy.isSome

theorem copied_step {s t : Task} {ev : Event} (copied : Copied s) (next : s.step ev = some t) :
    Copied t := by
  cases ev with
  | raise k e =>
    obtain ⟨m, moved, rfl⟩ := raise_cases next
    obtain ⟨p, q, n, acts⟩ := act_iff.mp moved
    obtain ⟨mode, _, _, after⟩ := check_place acts
    cases isStored : (clause e.cls).isStored with
    | true =>
      simp only [if_true]
      refine ⟨rfl, ?_⟩
      rw [after]
      simp [Monitor.checked, isStored]
    | false =>
      simp only [Bool.false_eq_true, if_false]
      refine ⟨copied.stored, ?_⟩
      rw [after]
      simpa [Monitor.checked, isStored] using copied.isSome
  | other a =>
    obtain ⟨notRaise, m, moved, rfl⟩ := other_cases next
    have after := exception_other moved notRaise
    cases begins : beginsTask s.monitor a with
    | true =>
      rw [begins, if_pos rfl] at after
      simp only [if_true]
      exact ⟨rfl, by simp [after]⟩
    | false =>
      rw [begins, if_neg (by decide)] at after
      simp only [Bool.false_eq_true, if_false]
      exact ⟨copied.stored, by rw [after]; exact copied.isSome⟩

structure Chronicle (past : List Event) (m : Monitor) : Prop where
  running : ∀ (k : Nat) p, m.activations[k]? = some p → isRunning p = true →
    ∀ o ∈ outcomes k past, o.goesOn = true
  left : ∀ (k : Nat) p, m.activations[k]? = some p → hasLeft p = true →
    EndedBy m (outcomes k past)
  fresh : ∀ k : Nat, m.activations[k]? = none → outcomes k past = []

theorem outcomes_snoc (k : Nat) (past : List Event) (ev : Event) :
    outcomes k (past ++ [ev]) = outcomes k past ++ (ev.outcome k).toList := by
  rw [outcomes, List.filterMap_append]
  rfl

theorem outcomes_same {k : Nat} {past : List Event} {ev : Event} (none : ev.outcome k = none) :
    outcomes k (past ++ [ev]) = outcomes k past := by
  simp [outcomes_snoc, none]

theorem outcome_none {ev : Event} (idle : ∀ j w, ev.action ≠ .act j w) (k : Nat) :
    ev.outcome k = none := by
  cases ev with
  | raise i e => exact absurd rfl (idle i _)
  | other a =>
    cases a with
    | act j w => exact absurd rfl (idle j w)
    | connect | call c => rfl

theorem outcome_other {j k : Nat} {w : Work} {ev : Event} (act : ev.action = .act k w)
    (other : j ≠ k) : ev.outcome j = none := by
  cases ev with
  | raise i e =>
    obtain ⟨rfl, _⟩ := Action.act.inj act
    simp [Event.outcome, Ne.symm other]
  | other a =>
    obtain rfl : a = .act k w := act
    cases w <;> simp [Event.outcome, Ne.symm other]

theorem outcomes_other {j k : Nat} {w : Work} {past : List Event} {ev : Event}
    (act : ev.action = .act k w) (other : j ≠ k) : outcomes j (past ++ [ev]) = outcomes j past :=
  outcomes_same (outcome_other act other)

theorem endedBy_mono {m n : Monitor} {os : List TaskOutcome}
    (stays : m.mustStop = true → n.mustStop = true) (ended : EndedBy m os) : EndedBy n os :=
  ended.imp id fun ⟨all, stop⟩ => ⟨all, stays stop⟩

theorem mustStop_stays {m t n : Monitor} {k : Nat} {w : Work} {p q : Place}
    (acts : Acts m k w t p q n) (stop : m.mustStop = true) : t.mustStop = true := by
  rw [(acts_writes acts).mustStop]
  cases p <;> first | exact stop | rfl

theorem outcome_cases {m t n : Monitor} {k : Nat} {w : Work} {p q : Place} {ev : Event}
    (act : ev.action = .act k w) (acts : Acts m k w t p q n) (valid : ∀ a, ev = .other a →
      isRaise a = false) :
    ev.outcome k = none ∧ (∀ mode, p ≠ .task mode .checking) ∨
      ∃ mode o, p = .task mode .checking ∧ ev.outcome k = some o ∧
        (o.goesOn = true ∧ q = .task mode .test ∨
          ∃ e, o = .raised e ∧ isRetried e.cls = false ∧ q = .task mode .clear) := by
  cases w with
  | check result =>
    obtain ⟨mode, rfl, place, _⟩ := check_place acts
    refine .inr ⟨mode, ?_⟩
    cases ev with
    | raise i e =>
      obtain ⟨rfl, same⟩ := Action.act.inj act
      obtain rfl := Work.check.inj same
      refine ⟨.raised e, rfl, by simp [Event.outcome], ?_⟩
      rw [CheckResult.isStored, clause_isStored] at place
      cases retried : isRetried e.cls with
      | true => exact .inl ⟨retried, by simpa [retried] using place⟩
      | false => exact .inr ⟨e, rfl, retried, by simpa [retried] using place⟩
    | other a =>
      obtain rfl : a = .act k (.check result) := act
      have notRaise := valid _ rfl
      refine ⟨.success, rfl, by simp [Event.outcome], .inl ⟨rfl, ?_⟩⟩
      cases result with
      | raised f => cases notRaise
      | _ => exact place
  | go | spawn started =>
    have works := acts.works
    refine .inl ⟨?_, ?_⟩
    · cases ev with
      | raise i e => cases act
      | other a => obtain rfl : a = _ := act; rfl
    · rintro mode rfl
      cases works

theorem running_before {p q : Place} (leads : Leads p q) (running : isRunning q = true) :
    isRunning p = true := by
  cases leads <;> first | rfl | cases running

theorem left_before {m t n : Monitor} {k : Nat} {w : Work} {p q : Place}
    (acts : Acts m k w t p q n) (left : hasLeft q = true)
    (notChecking : ∀ mode, p ≠ .task mode .checking) :
    hasLeft p = true ∨ isRunning p = true ∧ m.mustStop = true := by
  have did := work_cases acts.works
  cases work_leads acts.works with
  | leaves mode =>
    obtain ⟨_, _, place⟩ := did
    rcases unlessStopped_cases m .waiting with ⟨stop, _⟩ | ⟨_, next⟩
    · exact .inr ⟨rfl, stop⟩
    · rw [next] at place
      cases place
  | breaks mode =>
    obtain ⟨_, _, place⟩ := did
    rcases unlessStopped_cases m .checking with ⟨stop, _⟩ | ⟨_, next⟩
    · exact .inr ⟨rfl, stop⟩
    · rw [next] at place
      cases place
  | fails mode => exact absurd rfl (notChecking mode)
  | clears mode | terminates | resumes | goesToRead => exact .inl rfl
  | returns mode => cases mode <;> cases left
  | ends stopper outcome => cases stopper <;> cases left
  | _ => cases left

theorem chronicle_act {m t n : Monitor} {k : Nat} {w : Work} {p q : Place} {past : List Event}
    {ev : Event} (chronicle : Chronicle past m) (act : ev.action = .act k w)
    (acts : Acts m k w t p q n) (valid : ∀ a, ev = .other a → isRaise a = false) :
    Chronicle (past ++ [ev]) t := by
  have leads := work_leads acts.works
  refine ⟨?_, ?_, ?_⟩
  · intro j r there running
    rcases acts_entry acts there with ⟨rfl, rfl⟩ | ⟨other, before⟩ | ⟨rfl, _, rfl, rfl⟩
    · have earlier := chronicle.running j p acts.here (running_before leads running)
      rcases outcome_cases act acts valid with ⟨none, _⟩ | ⟨mode, o, _, added, goes⟩
      · rw [outcomes_same none]
        exact earlier
      · rcases goes with ⟨goesOn, _⟩ | ⟨e, _, _, rfl⟩
        · intro x mem
          rw [outcomes_snoc, added] at mem
          rcases List.mem_append.mp mem with old | new
          · exact earlier x old
          · obtain rfl := List.mem_singleton.mp new
            exact goesOn
        · cases running
    · rw [outcomes_other act other]
      exact chronicle.running j r before running
    · have new : m.activations[m.activations.length]? = none := by simp
      have other : m.activations.length ≠ k := by
        rintro rfl
        rw [acts.here] at new
        cases new
      rw [outcomes_other act other, chronicle.fresh _ new]
      simp
  · intro j r there left
    rcases acts_entry acts there with ⟨rfl, rfl⟩ | ⟨other, before⟩ | ⟨_, _, _, rfl⟩
    · rcases outcome_cases act acts valid with ⟨none, notChecking⟩ | ⟨mode, o, rfl, added, goes⟩
      · rw [outcomes_same none]
        rcases left_before acts left notChecking with before | ⟨running, stop⟩
        · exact endedBy_mono (mustStop_stays acts) (chronicle.left j p acts.here before)
        · exact .inr ⟨chronicle.running j p acts.here running, mustStop_stays acts stop⟩
      · rw [outcomes_snoc, added]
        rcases goes with ⟨_, rfl⟩ | ⟨e, rfl, fatal, _⟩
        · cases left
        · exact .inl ⟨_, e, rfl, chronicle.running j _ acts.here rfl, fatal⟩
    · rw [outcomes_other act other]
      exact endedBy_mono (mustStop_stays acts) (chronicle.left j r before left)
    · cases left
  · intro j none
    have other : j ≠ k := by
      rintro rfl
      rw [acts_self acts] at none
      cases none
    rw [outcomes_other act other]
    refine chronicle.fresh j ?_
    cases there : m.activations[j]? with
    | none => rfl
    | some r =>
      rw [acts_other acts other there] at none
      cases none

theorem enter_places (m : Monitor) (c : Call) : hasLeft (m.enter c) = false := by
  cases c with
  | start mode interval =>
    simp only [Monitor.enter]
    split
    · rfl
    · cases mode <;> rfl
  | stop stopper =>
    cases stopper with
    | stopMonitoring =>
      simp only [Monitor.enter]
      split <;> rfl
    | destructor => rfl

theorem chronicle_step {s t : Task} {ev : Event} {past : List Event}
    (chronicle : Chronicle past s.monitor) (next : s.step ev = some t) :
    Chronicle (past ++ [ev]) t.monitor := by
  have moved := step_monitor next
  have valid : ∀ a, ev = .other a → isRaise a = false := by
    rintro a rfl
    exact (other_cases next).1
  cases act : ev.action with
  | act k w =>
    obtain ⟨p, q, n, acts⟩ := act_iff.mp (act ▸ moved)
    exact chronicle_act chronicle act acts valid
  | connect =>
    have same : ∀ k, outcomes k (past ++ [ev]) = outcomes k past :=
      fun k => outcomes_same (outcome_none (by simp [act]) k)
    rw [act] at moved
    obtain ⟨_, made⟩ := connect_iff.mp moved
    rw [made]
    refine ⟨fun k => ?_, fun k => ?_, fun k => ?_⟩ <;> rw [same k]
    · exact chronicle.running k
    · exact chronicle.left k
    · exact chronicle.fresh k
  | call c =>
    have same : ∀ k, outcomes k (past ++ [ev]) = outcomes k past :=
      fun k => outcomes_same (outcome_none (by simp [act]) k)
    rw [act] at moved
    obtain ⟨_, made⟩ := call_iff.mp moved
    rw [made]
    refine ⟨fun k p there running => ?_, fun k p there left => ?_, fun k none => ?_⟩ <;> rw [same k]
    · rcases began_cases there with ⟨rfl, _⟩ | before
      · rw [chronicle.fresh _ (by simp)]
        simp
      · exact chronicle.running k p before running
    · rcases began_cases there with ⟨_, rfl⟩ | before
      · rw [enter_places] at left
        cases left
      · exact chronicle.left k p before left
    · refine chronicle.fresh k ?_
      cases there : s.monitor.activations[k]? with
      | none => rfl
      | some r =>
        rw [began_old there] at none
        cases none

theorem go_next {s : Task} {k : Nat} {p q : Place} {n : Monitor}
    (here : s.monitor.activations[k]? = some p) (works : s.monitor.work p .go = some (n, q)) :
    ∃ t, s.step (.other (.act k .go)) = some t ∧ t.monitor.activations[k]? = some q ∧
      t.monitor.isMonitoring = s.monitor.isMonitoringAfter p := by
  obtain ⟨m, moved, acts⟩ := act_next here works
  obtain ⟨t, next, same⟩ := other_next rfl moved
  exact ⟨t, next, same ▸ acts_self acts, same ▸ (acts_writes acts).isMonitoring⟩

def IsWhole (e : Exception) : Prop := e.cls = declared (clause e.cls)

instance (e : Exception) : Decidable (IsWhole e) := inferInstanceAs (Decidable (_ = _))

theorem rethrows_iff {s : Task} {k : Nat} {p : Place} (copied : Copied s)
    (here : s.monitor.activations[k]? = some p) (reading : reads p = true) :
    Rethrows s k ↔ ∀ e, s.endedBy = some e → IsWhole e := by
  obtain ⟨t, role, next, ended⟩ : ∃ t role, s.step (.other (.act k .go)) = some t ∧
      t.monitor.activations[k]? = some (.ended role (rethrown s.monitor.exception)) := by
    cases p with
    | readException =>
      obtain ⟨t, next, ended, _⟩ := go_next here rfl
      exact ⟨t, _, next, ended⟩
    | stopRead stopper =>
      cases stopper with
      | stopMonitoring =>
        obtain ⟨t, next, ended, _⟩ := go_next here rfl
        exact ⟨t, _, next, ended⟩
      | destructor => cases reading
    | _ => cases reading
  have isSome := copied.isSome
  have stored := copied.stored
  simp only [Rethrows]
  cases cause : s.endedBy with
  | none =>
    rw [cause, Option.isSome_none, Option.isSome_eq_false_iff, Option.isNone_iff_eq_none] at isSome
    rw [isSome] at ended
    simpa using ⟨t, next, role, ended⟩
  | some e =>
    rw [cause, Option.isSome_some, Option.isSome_iff_exists] at isSome
    obtain ⟨st, held⟩ := isSome
    rw [cause] at stored
    rw [held] at ended
    have whole := copiedAs_same_iff e (declared (clause e.cls))
    constructor
    · rintro ⟨_, _, _, _, x, _, found, same⟩ e' rfl'
      obtain rfl := Option.some.inj rfl'
      obtain rfl := Option.some.inj (stored.symm.trans found)
      exact whole.mp same
    · intro every
      exact ⟨t, role, next, st, _, ended, stored, whole.mpr (every e rfl)⟩

theorem chronicle_reachable {pongTimeoutMs : Int} {past : List Event} {s : Task}
    (path : run Task.step (.create pongTimeoutMs) past = some s) :
    Chronicle past s.monitor ∧ Copied s :=
  run_traced (fun (s : Task) past => Chronicle past s.monitor ∧ Copied s)
    (fun _ _ _ _ held _ next => ⟨chronicle_step held.1 next, copied_step held.2 next⟩)
    past (.create pongTimeoutMs) [] s
    ⟨⟨fun _ _ there => (by cases there), fun _ _ there => (by cases there), fun _ _ => rfl⟩,
      rfl, rfl⟩
    (throughout_of_forall past _ fun _ _ => trivial) path

/-- In every state of every run the error policy holds if and only if, where a call is about to
    rethrow, the exception that ended the loop is of the very class that the clause which
    caught it declares. -/
theorem error_policy_iff (pongTimeoutMs : Int) (past : List Event) (s : Task)
    (path : run Task.step (.create pongTimeoutMs) past = some s) :
    Policy past s ↔ ∀ (k : Nat) p, s.monitor.activations[k]? = some p → reads p = true →
      ∀ e, s.endedBy = some e → IsWhole e := by
  obtain ⟨chronicle, copied⟩ := chronicle_reachable path
  constructor
  · intro policy k p here reading
    exact (rethrows_iff copied here reading).mp (policy.rethrows k p here reading)
  · intro whole
    refine ⟨chronicle.running, chronicle.left, ?_, ?_, ?_⟩
    · rintro k mode pc here (rfl | rfl) stop
      · obtain ⟨t, next, place, _⟩ := go_next here rfl
        exact ⟨t, next, by simpa [Monitor.unlessStopped, stop] using place⟩
      · obtain ⟨t, next, place, _⟩ := go_next here rfl
        exact ⟨t, next, by simpa [Monitor.unlessStopped, stop] using place⟩
    · intro k mode here
      obtain ⟨t, next, place, cleared⟩ := go_next here rfl
      exact ⟨t, next, cleared, place⟩
    · exact fun k p here reading => (rethrows_iff copied here reading).mpr (whole k p here reading)

def toSecondCheck : List Event :=
  [.other .connect, .other (.call (.start .blocking 15)), .other (.act 0 .go),
    .other (.act 0 .go), .other (.act 0 .go), .other (.act 0 .go), .other (.act 0 .go),
    .other (.act 0 .go), .other (.act 0 .go),
    .raise 0 ⟨connectionConfigError, "failed to establish a TLS session", by decide⟩,
    .other (.act 0 .go), .other (.act 0 .go), .other (.act 0 .go)]

def endsWith (e : Exception) : List Event :=
  toSecondCheck ++ [.raise 0 e, .other (.act 0 .go), .other (.act 0 .go), .other (.act 0 .go)]

def fatalError : Exception :=
  ⟨connectionFatalError, "failed to establish a WebSocket connection after 3 attempts", by decide⟩

def resourceError : Exception :=
  ⟨.derived "std::system_error" runtimeError, "Resource temporarily unavailable", by decide⟩

theorem fatal_error_rethrown :
    ∃ s, run Task.step (.create 5000) (endsWith fatalError) = some s ∧
      s.monitor.activations[0]? = some .readException ∧ s.endedBy = some fatalError ∧
      Policy (endsWith fatalError) s := by
  refine ⟨_, rfl, rfl, rfl, (error_policy_iff 5000 (endsWith fatalError) _ rfl).mpr ?_⟩
  intro k p _ _ e ended
  obtain rfl := Option.some.inj ended
  decide

/-- An exception of another class is rethrown as a std::exception. -/
theorem resource_error_sliced :
    ∃ s, run Task.step (.create 5000) (endsWith resourceError) = some s ∧
      s.monitor.activations[0]? = some .readException ∧ s.endedBy = some resourceError ∧
      ¬Policy (endsWith resourceError) s := by
  refine ⟨_, rfl, rfl, rfl, fun policy => ?_⟩
  have rethrows := policy.rethrows 0 .readException rfl rfl
  obtain ⟨t, role, next, stored, x, _, found, same, _⟩ := rethrows
  obtain rfl := Option.some.inj found
  exact absurd same (by decide)

end PcpErrorPolicy
