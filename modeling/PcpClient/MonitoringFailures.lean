import PcpClient.FailureRethrown
import Mathlib.Algebra.Order.Ring.Nat

/-!
The exceptions that neither call rethrows, and that a run which has stored one comes to its end.
-/
namespace PcpMonitoringFailures
open PcpThreads PcpTransitions PcpMonitor PcpThreadJoin PcpFailureRethrown

/-- An activation that ends without looking at monitor_exception_ again. -/
def silent (mustStop : Bool) : Place → Bool
  | .task .joinable .clear | .task .joinable .unlock | .assigning _ | .ended _ _ => true
  | .task .blocking .clear | .task .blocking .unlock | .readMustStop => mustStop
  | _ => false

/-- Nobody has rethrown the exception, and nobody will. -/
structure Swallowed (m : Monitor) (e : StoredException) : Prop where
  silent : ∀ (k : Nat) p, m.activations[k]? = some p → silent m.mustStop p = true
  lost : ∀ (k : Nat) role, m.activations[k]? ≠ some (.ended role (.rethrew e))

theorem silent_next {m n : Monitor} {p q : Place} {w : Work} (works : m.work p w = some (n, q))
    (before : silent m.mustStop p = true) :
    n.mustStop = m.mustStop ∧ silent m.mustStop q = true ∧ p ≠ .spawning ∧
      ∀ role e, q ≠ .ended role (.rethrew e) := by
  have did := work_cases works
  cases p with
  | assigning thread =>
    obtain ⟨_, rfl, rfl⟩ := did
    exact ⟨rfl, rfl, by simp, by simp⟩
  | task mode pc =>
    cases mode with
    | joinable =>
      cases pc with
      | clear | unlock =>
        obtain ⟨_, rfl, rfl⟩ := did
        exact ⟨rfl, rfl, by simp, by simp [Mode.afterTask]⟩
      | _ => cases before
    | blocking =>
      cases pc with
      | clear | unlock =>
        obtain ⟨_, rfl, rfl⟩ := did
        exact ⟨rfl, before, by simp, by simp [Mode.afterTask]⟩
      | _ => cases before
  | readMustStop =>
    obtain ⟨_, rfl, rfl⟩ := did
    have set : n.mustStop = true := before
    rw [set, if_pos rfl]
    exact ⟨rfl, rfl, by simp, by simp⟩
  | ended role outcome => exact absurd did id
  | _ => cases before

theorem swallowed_act {m t : Monitor} {k : Nat} {w : Work} {e : StoredException}
    (swallowed : Swallowed m e) (next : m.step (.act k w) = some t) : Swallowed t e := by
  obtain ⟨p, q, n, acts⟩ := act_iff.mp next
  obtain ⟨kept, quiet, notSpawning, returns⟩ :=
    silent_next acts.works (swallowed.silent k p acts.here)
  have same : t.mustStop = m.mustStop := by
    rw [acts.result]
    exact kept
  constructor
  · intro j r there
    rw [same]
    rcases acts_entry acts there with ⟨_, rfl⟩ | ⟨_, before⟩ | ⟨place, _⟩
    · exact quiet
    · exact swallowed.silent j r before
    · exact absurd place notSpawning
  · intro j role there
    rcases acts_entry acts there with ⟨_, place⟩ | ⟨_, before⟩ | ⟨place, _⟩
    · exact returns role e place.symm
    · exact swallowed.lost j role before
    · exact absurd place notSpawning

def isCallAction : Action → Bool
  | .call _ => true
  | _ => false

theorem swallowed_run {m t : Monitor} {e : StoredException} {more : List Action}
    (swallowed : Swallowed m e) (none : ∀ a ∈ more, isCallAction a = false)
    (path : run Monitor.step m more = some t) : Swallowed t e := by
  refine run_among (fun a => isCallAction a = false) (fun m => Swallowed m e) ?_ swallowed none path
  intro m a t swallowed other next
  cases a with
  | connect =>
    obtain ⟨_, rfl⟩ := connect_iff.mp next
    exact ⟨swallowed.silent, swallowed.lost⟩
  | call c => cases other
  | act k w => exact swallowed_act swallowed next

theorem swallowed_begins {start m t n : Monitor} {past : List Action} {k : Nat} {f : Failure}
    {p q : Place} (phase : Phase start m past) (numbered : Numbered m)
    (acts : Acts m k (.check (.raised f)) t p q n) (isStored : f.isStored = true)
    (finished : StopIsOver m past k) : Swallowed t ⟨f, m.thrown⟩ := by
  obtain ⟨mode, rfl, rfl, _, kept⟩ := stores_cases acts isStored
  obtain ⟨_, nobody, late⟩ := finished
  constructor
  · intro j r there
    rw [kept]
    rcases acts_entry acts there with ⟨rfl, rfl⟩ | ⟨other, before⟩ | ⟨place, _⟩
    · rcases late with here | set
      · obtain ⟨⟩ := Option.some.inj (acts.here.symm.trans here)
        rfl
      · cases mode
        · rfl
        · exact set
    · have outside : ¬lineage r = true := fun comes =>
        other (phase.single _ _ _ _ before acts.here comes rfl)
      have notStop := nobody j r before
      have notDestructor := phase.noDestructor j r before
      cases r with
      | assigning thread => rfl
      | ended role outcome => rfl
      | stopCheck stopper | stopRequest stopper | stopJoinable stopper | stopRead stopper =>
        cases stopper
        · exact absurd rfl notStop
        · exact absurd rfl notDestructor
      | stopJoin stopper thread =>
        cases stopper
        · exact absurd rfl notStop
        · exact absurd rfl notDestructor
      | _ => exact absurd rfl outside
    · cases place
  · intro j role there
    rcases acts_entry acts there with ⟨_, place⟩ | ⟨_, before⟩ | ⟨place, _⟩
    · cases place
    · exact absurd (numbered.rethrown j role _ before) (Nat.lt_irrefl _)
    · cases place

theorem no_calls {actions : List Action} (starts : actions.countP isStart = 0)
    (stops : actions.countP isStop = 0) (destructions : actions.countP isDestruction = 0) :
    ∀ a ∈ actions, isCallAction a = false := by
  intro a mem
  have notStart := List.countP_eq_zero.mp starts a mem
  have notStop := List.countP_eq_zero.mp stops a mem
  have notDestruction := List.countP_eq_zero.mp destructions a mem
  cases a with
  | call c =>
    cases c with
    | start mode interval => exact absurd rfl notStart
    | stop stopper =>
      cases stopper
      · exact absurd rfl notStop
      · exact absurd rfl notDestruction
  | _ => rfl

theorem storedInTime_of_rethrown {start m : Monitor} {trace : List Action}
    (numbered : Numbered start) (monitoring : MonitoringRun start trace m)
    (rethrown : ∀ e, Stored start trace e → Rethrown m e) : StoredInTime start trace := by
  intro before k f after x split isStored path finished
  have reached := monitoring.reached
  have each := monitoring_oneEach monitoring
  have starts := each.starts
  have stops := each.stops
  have destructions := each.destructions
  rw [split] at reached starts stops destructions
  simp only [List.countP_append, List.countP_cons, isStart, isStop, isDestruction]
    at starts stops destructions
  obtain ⟨y, path', rest⟩ := run_append_iff.mp reached
  obtain rfl := Option.some.inj (path.symm.trans path')
  obtain ⟨t, next, later⟩ := run_cons_iff.mp rest
  obtain ⟨p, q, n, acts⟩ := act_iff.mp next
  have first : OneEach before := ⟨by omega, by omega, by omega⟩
  have phase := (fated_run monitoring.idle path).phase first
  have numbered' := run_keeps Numbered (fun _ _ _ numbered next => numbered_step numbered next)
    numbered path
  have begun : before.countP isStart ≠ 0 := by
    intro zero
    obtain ⟨mode, rfl, _⟩ := stores_cases acts isStored
    exact phase.notStarted zero k _ acts.here rfl
  have once := finished.1
  have swallowed := swallowed_run (swallowed_begins phase numbered' acts isStored finished)
    (no_calls (by omega) (by omega) (by omega)) later
  obtain ⟨j, role, there, _⟩ := rethrown _ ⟨before, k, f, after, x, split, isStored, path, rfl⟩
  exact swallowed.lost j role there

/-! That a run with a stored exception can be completed. -/

def threadLike : Place → Bool
  | .task .joinable _ | .ended _ _ => true
  | _ => false

structure Handled (m : Monitor) : Prop where
  handle : ∀ thread, m.monitorThread = some thread →
    ∃ p, m.activations[thread]? = some p ∧ threadLike p = true
  assigning : ∀ (k thread : Nat), m.activations[k]? = some (.assigning thread) →
    ∃ p, m.activations[thread]? = some p ∧ threadLike p = true
  joining : ∀ (k : Nat) stopper thread, m.activations[k]? = some (.stopJoin stopper thread) →
    ∃ p, m.activations[thread]? = some p ∧ threadLike p = true

theorem threadLike_next {p q : Place} (leads : Leads p q) (thread : threadLike p = true) :
    threadLike q = true := by
  cases leads with
  | resets mode | locks mode | waits mode | wakes mode | checks mode | goesOn mode
  | leaves mode | breaks mode | fails mode | clears mode =>
    cases mode
    · rfl
    · cases thread
  | terminates => rfl
  | _ => cases thread

theorem threadLike_stays {m t n : Monitor} {k : Nat} {w : Work} {p q : Place}
    (acts : Acts m k w t p q n) {thread : Nat}
    (there : ∃ r, m.activations[thread]? = some r ∧ threadLike r = true) :
    ∃ r, t.activations[thread]? = some r ∧ threadLike r = true := by
  obtain ⟨r, there, isThread⟩ := there
  by_cases here : thread = k
  · subst here
    obtain rfl := Option.some.inj (acts.here.symm.trans there)
    exact ⟨q, acts_self acts, threadLike_next (work_leads acts.works) isThread⟩
  · exact ⟨r, acts_other acts here there, isThread⟩

theorem handled_act {m t : Monitor} {k : Nat} {w : Work} (handled : Handled m)
    (next : m.step (.act k w) = some t) : Handled t := by
  obtain ⟨p, q, n, acts⟩ := act_iff.mp next
  refine ⟨?_, ?_, ?_⟩
  · intro thread found
    rcases monitorThread_cases (acts_writes acts) with ⟨_, rfl, set⟩ | ⟨_, _, _, none⟩ | same
    · rw [set] at found
      obtain rfl := Option.some.inj found
      exact threadLike_stays acts (handled.assigning k _ acts.here)
    · rw [none] at found
      cases found
    · exact threadLike_stays acts (handled.handle thread (same.symm.trans found))
  · intro j thread there
    rcases acts_entry acts there with ⟨_, rfl⟩ | ⟨_, before⟩ | ⟨_, _, _, place⟩
    · cases work_leads acts.works
      rcases work_cases acts.works with ⟨spawns, _, place⟩ | ⟨_, _, place⟩
      · obtain rfl := Place.assigning.inj place
        exact ⟨_, acts_spawned acts spawns, rfl⟩
      · cases place
    · exact threadLike_stays acts (handled.assigning j thread before)
    · cases place
  · intro j stopper thread there
    rcases acts_entry acts there with ⟨_, rfl⟩ | ⟨_, before⟩ | ⟨_, _, _, place⟩
    · cases work_leads acts.works
      obtain ⟨_, _, place⟩ := work_cases acts.works
      exact threadLike_stays acts (handled.handle thread (next_joins place))
    · exact threadLike_stays acts (handled.joining j stopper thread before)
    · cases place

theorem handled_step {m t : Monitor} {a : Action} (handled : Handled m)
    (next : m.step a = some t) : Handled t := by
  cases a with
  | connect =>
    obtain ⟨_, rfl⟩ := connect_iff.mp next
    exact ⟨handled.handle, handled.assigning, handled.joining⟩
  | call c =>
    obtain ⟨_, rfl⟩ := call_iff.mp next
    have stays : ∀ {thread : Nat}, (∃ r, m.activations[thread]? = some r ∧ threadLike r = true) →
        ∃ r, (m.activations ++ [m.enter c])[thread]? = some r ∧ threadLike r = true := by
      rintro thread ⟨r, there, isThread⟩
      exact ⟨r, began_old there, isThread⟩
    refine ⟨fun thread found => stays (handled.handle thread found), ?_, ?_⟩
    · intro k thread there
      rcases began_cases there with ⟨_, place⟩ | before
      · rcases enter_cases m c with ⟨_, now, _⟩ | ⟨_, now, _⟩ | ⟨_, _, now, _⟩ <;>
          cases place.trans now
      · exact stays (handled.assigning k thread before)
    · intro k stopper thread there
      rcases began_cases there with ⟨_, place⟩ | before
      · exact absurd place.symm ((enter_quiet m c).2.2 stopper thread)
      · exact stays (handled.joining k stopper thread before)
  | act k w => exact handled_act handled next

theorem handled_create (pongTimeoutMs : Int) : Handled (.create pongTimeoutMs) where
  handle _ none := by cases none
  assigning _ _ there := by cases there
  joining _ _ _ there := by cases there

def stepsLeft : Place → Nat
  | .task _ .clear => 4
  | .task _ .unlock => 3
  | .readMustStop => 2
  | .readException | .assigning _ | .stopRead _ => 1
  | .stopJoin _ _ => 2
  | .stopJoinable _ => 3
  | .stopRequest _ => 4
  | .stopCheck _ => 5
  | _ => 0

def totalStepsLeft (m : Monitor) : Nat :=
  (m.activations.map stepsLeft).sum

theorem leads_stepsLeft {p q : Place} (leads : Leads p q) (finished : ¬potential p = true) :
    stepsLeft q < stepsLeft p := by
  cases leads with
  | _ => first | exact absurd rfl finished | simp [stepsLeft]

theorem sum_moved_lt {left : Place → Nat} {q : Place} :
    ∀ {places : List Place} {k : Nat} {p : Place}, places[k]? = some p → left q < left p →
      ((places.set k q).map left).sum < (places.map left).sum := by
  intro places
  induction places with
  | nil => intro k p there; cases there
  | cons first rest ih =>
    intro k p there less
    cases k with
    | zero =>
      obtain rfl := Option.some.inj there
      simpa using less
    | succ j =>
      have later := ih (List.getElem?_cons_succ ▸ there) less
      simpa using later

theorem go_enabled {m : Monitor} {p : Place} (active : p.isEnded = false)
    (finished : ¬potential p = true) (notJoin : ∀ stopper thread, p ≠ .stopJoin stopper thread) :
    ∃ n q, m.work p .go = some (n, q) := by
  cases p with
  | startCheck mode => exact absurd rfl finished
  | startSet mode => exact absurd rfl finished
  | spawning => exact absurd rfl finished
  | task mode pc => cases pc <;> first | exact ⟨_, _, rfl⟩ | exact absurd rfl finished
  | stopJoin stopper thread => exact absurd rfl (notJoin stopper thread)
  | ended role outcome => cases active
  | _ => exact ⟨_, _, rfl⟩

theorem terminated_of_ended {m : Monitor} {thread : Nat} {role : Role} {outcome : Outcome}
    (there : m.activations[thread]? = some (.ended role outcome)) : m.terminated thread = true :=
  terminated_iff.mpr ⟨role, outcome, there⟩

theorem step_enabled {m : Monitor} (handled : Handled m)
    (quiet : Nowhere (fun p => potential p = true) m.activations) (busy : ¬Idle m) :
    ∃ (k : Nat) (p : Place) (n : Monitor) (q : Place), m.activations[k]? = some p ∧
      m.work p .go = some (n, q) := by
  obtain ⟨k, p, there, active⟩ := exists_of_not_nowhere busy
  by_cases join : ∃ stopper thread, p = .stopJoin stopper thread
  · obtain ⟨stopper, thread, rfl⟩ := join
    obtain ⟨r, found, isThread⟩ := handled.joining k stopper thread there
    cases r with
    | ended role outcome =>
      have works : m.work (.stopJoin stopper thread) .go =
          some ({ m with monitorThread := none }, .stopRead stopper) := by
        simp [Monitor.work, terminated_of_ended found]
      exact ⟨k, _, _, _, there, works⟩
    | task mode pc =>
      obtain ⟨n, q, works⟩ := go_enabled (m := m) (p := .task mode pc) rfl (quiet thread _ found)
        (by simp)
      exact ⟨thread, _, n, q, found, works⟩
    | _ => cases isThread
  · obtain ⟨n, q, works⟩ := go_enabled (m := m) active (quiet k p there)
      fun stopper thread same => join ⟨stopper, thread, same⟩
    exact ⟨k, p, n, q, there, works⟩

theorem stepsLeft_act {m t n : Monitor} {k : Nat} {w : Work} {p q : Place}
    (quiet : Nowhere (fun p => potential p = true) m.activations) (acts : Acts m k w t p q n) :
    totalStepsLeft t < totalStepsLeft m := by
  have finished := quiet k p acts.here
  have less := leads_stepsLeft (work_leads acts.works) finished
  rcases work_activations acts.works with ⟨same, _⟩ | ⟨rfl, _⟩
  · rw [acts.result]
    simp only [totalStepsLeft, same]
    exact sum_moved_lt acts.here less
  · exact absurd rfl finished

theorem completes {m : Monitor} (handled : Handled m)
    (quiet : Nowhere (fun p => potential p = true) m.activations) :
    ∃ more u, (∀ a ∈ more, isCallAction a = false) ∧ run Monitor.step m more = some u ∧ Idle u := by
  by_cases idle : Idle m
  · exact ⟨[], m, by simp, rfl, idle⟩
  · obtain ⟨k, p, n, q, there, works⟩ := step_enabled handled quiet idle
    obtain ⟨t, next, acts⟩ := act_next there works
    have less := stepsLeft_act quiet acts
    obtain ⟨more, u, others, path, done⟩ :=
      completes (handled_act handled next) (exception_stays quiet acts).2
    refine ⟨.act k .go :: more, u, ?_, run_cons_iff.mpr ⟨t, next, path⟩, done⟩
    intro a mem
    rcases List.mem_cons.mp mem with rfl | later
    · rfl
    · exact others a later
termination_by totalStepsLeft m

/-- In a run of one start and one stop, each exception that ends the task is rethrown by one of
    the two calls just when it is stored before stopMonitoring() has looked for one, or
    monitorConnection() will look for it. A run that has stored one can always be completed. -/
theorem failures_rethrown (pongTimeoutMs : Int) (earlier trace : List Action) (start m : Monitor)
    (reached : run Monitor.step (.create pongTimeoutMs) earlier = some start)
    (monitoring : MonitoringRun start trace m) :
    (Idle m → ((∀ e, Stored start trace e → Rethrown m e) ↔ StoredInTime start trace)) ∧
    ∀ e, Stored start trace e → ∃ more u, (∀ a ∈ more, isCallAction a = false) ∧
      run Monitor.step m more = some u ∧ Idle u := by
  have numbered := run_keeps Numbered (fun _ _ _ numbered next => numbered_step numbered next)
    (numbered_create pongTimeoutMs) reached
  have handled := run_keeps Handled (fun _ _ _ handled next => handled_step handled next)
    (handled_create pongTimeoutMs) reached
  constructor
  · intro complete
    constructor
    · exact storedInTime_of_rethrown numbered monitoring
    · exact fun inTime _ stored => rethrown_of_storedInTime monitoring complete inTime stored
  · intro e stored
    have phase := (fated_run monitoring.idle monitoring.reached).phase
      (monitoring_oneEach monitoring)
    have now := run_keeps Handled (fun _ _ _ handled next => handled_step handled next) handled
      monitoring.reached
    exact completes now (phase.stored e stored).2.2.2

def joinedTrace : List Action :=
  [.call (.start .joinable 15), .act 0 .go, .act 0 .go, .act 0 (.spawn true), .act 0 .go,
    .act 1 .go, .act 1 .go, .act 1 .go, .act 1 .go, .act 1 .go,
    .act 1 (.check (.raised .fatalError)), .call (.stop .stopMonitoring), .act 2 .go, .act 2 .go,
    .act 2 .go, .act 1 .go, .act 1 .go, .act 2 .go, .act 2 .go]

theorem joined_failure_rethrown :
    ∃ start m, run Monitor.step (.create 5000) [.connect] = some start ∧
      MonitoringRun start joinedTrace m ∧ Rethrown m ⟨.fatalError, 0⟩ ∧
      StoredInTime start joinedTrace := by
  obtain ⟨start, m, begun, path, fresh, done, exception, last⟩ : ∃ start m,
      run Monitor.step (.create 5000) [.connect] = some start ∧
      run Monitor.step start joinedTrace = some m ∧ start.activations = [] ∧
      (∀ p ∈ m.activations, p.isEnded = true) ∧ m.exception = some ⟨.fatalError, 0⟩ ∧
      m.activations[2]? = some (.ended .stopMonitoring (.rethrew ⟨.fatalError, 0⟩)) :=
    ⟨_, _, rfl, rfl, rfl, by decide, rfl, rfl⟩
  have idle : Idle start := by
    intro k p there
    simp [fresh] at there
  have complete : Idle m := by
    intro k p there active
    rw [done p (List.mem_of_getElem? there)] at active
    cases active
  have monitoring : MonitoringRun start joinedTrace m := ⟨idle, path, rfl, rfl, rfl⟩
  have rethrown : Rethrown m ⟨.fatalError, 0⟩ := ⟨2, .stopMonitoring, last, .inl rfl⟩
  refine ⟨start, m, begun, monitoring, rethrown, ?_⟩
  refine ((failures_rethrown 5000 [.connect] joinedTrace start m begun monitoring).1 complete).mp ?_
  intro e stored
  have phase := (fated_run idle path).phase (monitoring_oneEach monitoring)
  obtain rfl := Option.some.inj (exception.symm.trans (phase.stored e stored).1)
  exact rethrown

/-- stopMonitoring() comes and goes during the check that fails; monitorConnection() then sees
    must_stop_monitoring_. -/
def swallowedTrace : List Action :=
  [.call (.start .blocking 15), .act 0 .go, .act 0 .go, .act 0 .go, .act 0 .go, .act 0 .go,
    .act 0 .go, .act 0 .go, .call (.stop .stopMonitoring), .act 1 .go, .act 1 .go, .act 1 .go,
    .act 1 .go, .act 0 (.check (.raised .fatalError)), .act 0 .go, .act 0 .go, .act 0 .go]

theorem failure_swallowed :
    ∃ start m, run Monitor.step (.create 5000) [.connect] = some start ∧
      MonitoringRun start swallowedTrace m ∧ Idle m ∧
      Stored start swallowedTrace ⟨.fatalError, 0⟩ ∧ ¬Rethrown m ⟨.fatalError, 0⟩ := by
  obtain ⟨start, m, begun, path, fresh, stored, ends⟩ : ∃ start m,
      run Monitor.step (.create 5000) [.connect] = some start ∧
      run Monitor.step start swallowedTrace = some m ∧ start.activations = [] ∧
      Stored start swallowedTrace ⟨.fatalError, 0⟩ ∧
      m.activations =
        [.ended .monitorConnection .returned, .ended .stopMonitoring .returned] := by
    refine ⟨_, _, rfl, rfl, rfl, ?_, rfl⟩
    exact ⟨swallowedTrace.take 13, 0, .fatalError, swallowedTrace.drop 14, _, rfl, rfl, rfl, rfl⟩
  have idle : Idle start := by
    intro k p there
    simp [fresh] at there
  refine ⟨start, m, begun, ⟨idle, path, rfl, rfl, rfl⟩, ?_, stored, ?_⟩
  · intro k p there active
    have mem := List.mem_of_getElem? there
    simp only [ends, List.mem_cons, List.not_mem_nil, or_false] at mem
    rcases mem with rfl | rfl <;> cases active
  · rintro ⟨k, role, there, _⟩
    have mem := List.mem_of_getElem? there
    simp [ends] at mem

end PcpMonitoringFailures
