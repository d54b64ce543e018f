import PcpClient.ThreadJoin

/-!
One run of the Monitoring Task with one call of stopMonitoring(), in any interleaving: which of
the two calls rethrows the exception that ended the task.
-/
namespace PcpFailureRethrown
open PcpThreads PcpTransitions PcpMonitor PcpThreadJoin

/-- Each stored or rethrown exception was thrown before. -/
structure Numbered (m : Monitor) : Prop where
  stored : ∀ e, m.exception = some e → e.number < m.thrown
  rethrown : ∀ (k : Nat) role e, m.activations[k]? = some (.ended role (.rethrew e)) →
    e.number < m.thrown

def lineage : Place → Bool
  | .startCheck _ | .startSet _ | .spawning | .task _ _ | .readMustStop | .readException => true
  | _ => false

def potential : Place → Bool
  | .startCheck _ | .startSet _ | .spawning => true
  | .task _ .clear | .task _ .unlock => false
  | .task _ _ => true
  | _ => false

def stopping : Place → Bool
  | .stopCheck .stopMonitoring | .stopRequest .stopMonitoring | .stopJoinable .stopMonitoring
  | .stopJoin .stopMonitoring _ | .stopRead .stopMonitoring => true
  | _ => false

def isStart : Action → Bool
  | .call (.start _ _) => true
  | _ => false

def isStop : Action → Bool
  | .call (.stop .stopMonitoring) => true
  | _ => false

def isDestruction : Action → Bool
  | .call c => c.destroys
  | _ => false

def Stored (start : Monitor) (trace : List Action) (e : StoredException) : Prop :=
  ∃ before k f after m, trace = before ++ .act k (.check (.raised f)) :: after ∧
    f.isStored = true ∧ run Monitor.step start before = some m ∧ e = ⟨f, m.thrown⟩

def Rethrown (m : Monitor) (e : StoredException) : Prop :=
  ∃ (k : Nat) (role : Role), m.activations[k]? = some (.ended role (.rethrew e)) ∧
    (role = .stopMonitoring ∨ role = .monitorConnection)

def StopIsOver (m : Monitor) (past : List Action) (k : Nat) : Prop :=
  past.countP isStop = 1 ∧ Nowhere (fun p => stopping p = true) m.activations ∧
    (m.activations[k]? = some (.task .joinable .checking) ∨ m.mustStop = true)

/-- No exception is stored after stopMonitoring() has looked for one. -/
def StoredInTime (start : Monitor) (trace : List Action) : Prop :=
  ∀ before k f after m, trace = before ++ .act k (.check (.raised f)) :: after →
    f.isStored = true → run Monitor.step start before = some m → ¬StopIsOver m before k

structure OneEach (past : List Action) : Prop where
  starts : past.countP isStart ≤ 1
  stops : past.countP isStop ≤ 1
  destructions : past.countP isDestruction = 0

theorem oneEach_init {past : List Action} {a : Action} (each : OneEach (past ++ [a])) :
    OneEach past := by
  have starts := each.starts
  have stops := each.stops
  have destructions := each.destructions
  simp only [List.countP_append] at starts stops destructions
  exact ⟨by omega, by omega, by omega⟩

theorem rethrown_some {exception : Option StoredException} {e : StoredException}
    (found : rethrown exception = .rethrew e) : exception = some e := by
  cases exception with
  | none => cases found
  | some other =>
    obtain rfl := Outcome.rethrew.inj found
    rfl

theorem work_rethrows {m n : Monitor} {p : Place} {w : Work} {role : Role} {e : StoredException}
    (works : m.work p w = some (n, .ended role (.rethrew e))) :
    m.exception = some e ∧ (role = .stopMonitoring ∨ role = .monitorConnection) := by
  have did := work_cases works
  cases work_leads works with
  | reads outcome =>
    obtain ⟨_, _, next⟩ := did
    obtain ⟨_, outcome⟩ := Place.ended.inj next
    exact ⟨rethrown_some outcome.symm, .inr rfl⟩
  | ends stopper outcome =>
    obtain ⟨_, _, next⟩ := did
    obtain ⟨_, outcome⟩ := Place.ended.inj next
    cases stopper with
    | stopMonitoring => exact ⟨rethrown_some outcome.symm, .inl rfl⟩
    | destructor => cases outcome

theorem enter_returns {m : Monitor} {c : Call} {role : Role} {e : StoredException} :
    m.enter c ≠ .ended role (.rethrew e) := by
  rcases enter_cases m c with ⟨_, place, _⟩ | ⟨_, place, _⟩ | ⟨_, outcome, place, fresh⟩ <;>
    rw [place]
  · simp
  · simp
  · intro same
    exact fresh e (Place.ended.inj same).2

theorem exception_cases {m t n : Monitor} {k : Nat} {w : Work} {p q : Place}
    (acts : Acts m k w t p q n) :
    (∃ mode, p = .task mode .reset) ∧ t.exception = none ∨
      (∃ mode f, p = .task mode .checking ∧ w = .check (.raised f) ∧ f.isStored = true ∧
        q = .task mode .clear ∧ t.exception = some ⟨f, m.thrown⟩ ∧ m.thrown < t.thrown) ∨
      t.exception = m.exception := by
  have after := (acts_writes acts).exception
  cases p with
  | task mode pc =>
    cases pc with
    | reset => exact .inl ⟨⟨mode, rfl⟩, after⟩
    | checking =>
      obtain ⟨result, rfl, made, place⟩ := work_cases acts.works
      cases result with
      | raised f =>
        cases stored : f.isStored with
        | true =>
          refine .inr (.inl ⟨mode, f, rfl, rfl, stored, ?_, ?_, ?_⟩)
          · simpa [CheckResult.isStored, stored] using place
          · simpa [Monitor.exceptionAfter, Monitor.checked, stored] using after
          · rw [acts.result, made]
            exact Nat.lt_succ_self _
        | false =>
          refine .inr (.inr ?_)
          simpa [Monitor.exceptionAfter, Monitor.checked, stored] using after
      | _ => exact .inr (.inr after)
    | _ => exact .inr (.inr after)
  | _ => exact .inr (.inr after)

theorem stores_cases {m t n : Monitor} {k : Nat} {f : Failure} {p q : Place}
    (acts : Acts m k (.check (.raised f)) t p q n) (isStored : f.isStored = true) :
    ∃ mode, p = .task mode .checking ∧ q = .task mode .clear ∧
      t.exception = some ⟨f, m.thrown⟩ ∧ t.mustStop = m.mustStop := by
  have writes := acts_writes acts
  have works := acts.works
  cases p with
  | task mode pc =>
    cases pc with
    | checking =>
      obtain ⟨_, same, _, place⟩ := work_cases works
      obtain rfl := Work.check.inj same
      refine ⟨mode, rfl, ?_, ?_, writes.mustStop⟩
      · simpa [CheckResult.isStored, isStored] using place
      · rw [writes.exception]
        simp [Monitor.exceptionAfter, Monitor.checked, isStored]
    | _ => cases works
  | _ => cases works

theorem numbered_step {m t : Monitor} {a : Action} (numbered : Numbered m)
    (next : m.step a = some t) : Numbered t := by
  cases a with
  | connect =>
    obtain ⟨_, rfl⟩ := connect_iff.mp next
    exact ⟨numbered.stored, numbered.rethrown⟩
  | call c =>
    obtain ⟨_, rfl⟩ := call_iff.mp next
    refine ⟨numbered.stored, fun k role e there => ?_⟩
    rcases began_cases there with ⟨_, place⟩ | before
    · exact absurd place.symm enter_returns
    · exact numbered.rethrown k role e before
  | act k w =>
    obtain ⟨p, q, n, acts⟩ := act_iff.mp next
    have grows := (acts_writes acts).thrown
    constructor
    · intro e stored
      rcases exception_cases acts with ⟨_, none⟩ | ⟨_, f, _, _, _, _, now, more⟩ | same
      · rw [none] at stored
        cases stored
      · rw [now] at stored
        obtain rfl := Option.some.inj stored
        exact more
      · exact Nat.lt_of_lt_of_le (numbered.stored e (same.symm.trans stored)) grows
    · intro j role e there
      rcases acts_entry acts there with ⟨_, rfl⟩ | ⟨_, before⟩ | ⟨_, _, _, place⟩
      · have found := numbered.stored e (work_rethrows acts.works).1
        exact Nat.lt_of_lt_of_le found grows
      · exact Nat.lt_of_lt_of_le (numbered.rethrown j role e before) grows
      · cases place

theorem numbered_create (pongTimeoutMs : Int) : Numbered (.create pongTimeoutMs) where
  stored _ none := by cases none
  rethrown _ _ _ there := by cases there

theorem lineage_before {p q : Place} (leads : Leads p q) (next : lineage q = true) :
    lineage p = true := by
  cases leads <;> first | rfl | cases next

theorem potential_before {p q : Place} (leads : Leads p q) (next : potential q = true) :
    potential p = true := by
  cases leads <;> first | rfl | cases next

theorem potential_lineage {p : Place} (may : potential p = true) : lineage p = true := by
  cases p <;> first | rfl | cases may

/-- The state of one run: the start and its task are the only ones, and once the exception is
    stored nothing writes it again. -/
structure Phase (start m : Monitor) (past : List Action) : Prop where
  reached : run Monitor.step start past = some m
  single : AtMostOne (fun p => lineage p = true) m.activations
  notStarted : past.countP isStart = 0 → Nowhere (fun p => lineage p = true) m.activations
  noDestructor : Nowhere (fun p => isDestructor p = true) m.activations
  created : ∀ (k : Nat) p, m.activations[k]? = some p → lineage p = true → m.created = true
  stored : ∀ e, Stored start past e → m.exception = some e ∧ m.created = true ∧
    past.countP isStart = 1 ∧ Nowhere (fun p => potential p = true) m.activations

theorem stored_snoc {start m : Monitor} {past : List Action} {a : Action} {e : StoredException}
    (reached : run Monitor.step start past = some m) (stored : Stored start (past ++ [a]) e) :
    Stored start past e ∨ ∃ k f, a = .act k (.check (.raised f)) ∧ f.isStored = true ∧
      e = ⟨f, m.thrown⟩ := by
  obtain ⟨before, k, f, after, x, split, isStored, path, rfl⟩ := stored
  rcases snoc_split split with ⟨rfl, rfl, rfl⟩ | ⟨rest, rfl, rfl⟩
  · obtain rfl := Option.some.inj (path.symm.trans reached)
    exact .inr ⟨k, f, rfl, isStored, rfl⟩
  · exact .inl ⟨before, k, f, rest, x, rfl, isStored, path, rfl⟩

theorem potential_single {m : Monitor}
    (single : AtMostOne (fun p => lineage p = true) m.activations) :
    AtMostOne (fun p => potential p = true) m.activations :=
  fun i j p q first second one two =>
    single i j p q first second (potential_lineage one) (potential_lineage two)

theorem exception_stays {m t n : Monitor} {k : Nat} {w : Work} {p q : Place}
    (quiet : Nowhere (fun p => potential p = true) m.activations) (acts : Acts m k w t p q n) :
    t.exception = m.exception ∧ Nowhere (fun p => potential p = true) t.activations := by
  have finished := quiet k p acts.here
  constructor
  · rcases exception_cases acts with ⟨⟨mode, rfl⟩, _⟩ | ⟨mode, _, rfl, _⟩ | same
    · exact absurd rfl finished
    · exact absurd rfl finished
    · exact same
  · refine acts_nowhere acts quiet (fun next => finished ?_) fun place => ?_
    · exact potential_before (work_leads acts.works) next
    · subst place
      exact absurd rfl finished

theorem phase_act {start m t : Monitor} {past : List Action} {k : Nat} {w : Work}
    (phase : Phase start m past) (each : OneEach past) (next : m.step (.act k w) = some t) :
    Phase start t (past ++ [.act k w]) := by
  obtain ⟨p, q, n, acts⟩ := act_iff.mp next
  have leads := work_leads acts.works
  have counted : (past ++ [Action.act k w]).countP isStart = past.countP isStart := by
    simp [List.countP_append, isStart]
  refine ⟨run_snoc_iff.mpr ⟨m, phase.reached, next⟩, ?_, ?_, ?_, ?_, ?_⟩
  · refine acts_atMostOne acts phase.single (fun comes => .inl (lineage_before leads comes)) ?_
    intro place _
    subst place
    cases leads <;> exact ⟨rfl, by simp [lineage]⟩
  · rw [counted]
    intro zero
    have nobody := phase.notStarted zero
    refine acts_nowhere acts nobody (fun comes => nobody k p acts.here ?_) fun place => ?_
    · exact lineage_before leads comes
    · subst place
      exact absurd rfl (nobody k _ acts.here)
  · refine acts_nowhere acts phase.noDestructor (fun comes => phase.noDestructor k p acts.here ?_)
      (by simp [isDestructor])
    exact destructor_only leads comes
  · intro j r there comes
    rw [(acts_writes acts).created]
    rcases acts_entry acts there with ⟨_, rfl⟩ | ⟨_, before⟩ | ⟨rfl, _, _, _⟩
    · exact phase.created k p acts.here (lineage_before leads comes)
    · exact phase.created j r before comes
    · exact phase.created k _ acts.here rfl
  · intro e stored
    rw [counted, (acts_writes acts).created]
    rcases stored_snoc phase.reached stored with earlier | ⟨i, f, same, isStored, rfl⟩
    · obtain ⟨held, made, once, quiet⟩ := phase.stored e earlier
      obtain ⟨stays, still⟩ := exception_stays quiet acts
      exact ⟨stays.trans held, made, once, still⟩
    · obtain ⟨rfl, rfl⟩ := Action.act.inj same
      obtain ⟨mode, rfl, rfl, now, _⟩ := stores_cases acts isStored
      have starts := each.starts
      have begun : past.countP isStart ≠ 0 := fun zero => phase.notStarted zero k _ acts.here rfl
      refine ⟨now, phase.created k _ acts.here rfl, by omega, ?_⟩
      exact acts_leaves acts (potential_single phase.single) rfl (by simp [potential])
        fun place => by cases place

theorem enter_lineage {m : Monitor} {c : Call} (comes : lineage (m.enter c) = true) :
    m.created = true ∧ isStart (.call c) = true := by
  rcases enter_cases m c with ⟨_, _, made, _, rfl⟩ | ⟨_, place, _⟩ | ⟨_, _, place, _⟩
  · exact ⟨made, rfl⟩
  · rw [place] at comes
    cases comes
  · rw [place] at comes
    cases comes

theorem enter_destructor {m : Monitor} {c : Call} (comes : isDestructor (m.enter c) = true) :
    c.destroys = true := by
  rcases enter_cases m c with ⟨_, place, _⟩ | ⟨stopper, place, rfl⟩ | ⟨_, _, place, _⟩
  · rw [place] at comes
    cases comes
  · cases stopper with
    | stopMonitoring =>
      rw [place] at comes
      cases comes
    | destructor => rfl
  · rw [place] at comes
    cases comes

theorem phase_call {start m t : Monitor} {past : List Action} {c : Call}
    (phase : Phase start m past) (each : OneEach (past ++ [.call c]))
    (next : m.step (.call c) = some t) : Phase start t (past ++ [.call c]) := by
  have reached := run_snoc_iff.mpr ⟨m, phase.reached, next⟩
  obtain ⟨_, rfl⟩ := call_iff.mp next
  have starts := each.starts
  have destructions := each.destructions
  simp only [List.countP_append, List.countP_singleton] at starts destructions
  have begins : lineage (m.enter c) = true → past.countP isStart = 0 := by
    intro comes
    rw [if_pos (enter_lineage comes).2] at starts
    omega
  refine ⟨reached, ?_, ?_, ?_, ?_, ?_⟩
  · exact atMostOne_began phase.single fun comes => phase.notStarted (begins comes)
  · intro zero
    simp only [List.countP_append, List.countP_singleton, Nat.add_eq_zero_iff] at zero
    refine nowhere_began (phase.notStarted zero.1) fun comes => ?_
    have counted := zero.2
    rw [if_pos (enter_lineage comes).2] at counted
    cases counted
  · refine nowhere_began phase.noDestructor fun comes => ?_
    have kept : isDestruction (.call c) = true := enter_destructor comes
    rw [if_pos kept] at destructions
    omega
  · intro j r there comes
    rcases began_cases there with ⟨_, rfl⟩ | before
    · exact (enter_lineage comes).1
    · exact phase.created j r before comes
  · intro e stored
    rcases stored_snoc phase.reached stored with earlier | ⟨_, _, same, _⟩
    · obtain ⟨held, made, once, quiet⟩ := phase.stored e earlier
      refine ⟨held, made, ?_, nowhere_began quiet fun may => ?_⟩
      · simp only [List.countP_append, List.countP_singleton]
        omega
      · have none := begins (potential_lineage may)
        omega
    · cases same

theorem phase_step {start m t : Monitor} {past : List Action} {a : Action}
    (phase : Phase start m past) (each : OneEach (past ++ [a])) (next : m.step a = some t) :
    Phase start t (past ++ [a]) := by
  cases a with
  | connect =>
    have reached := run_snoc_iff.mpr ⟨m, phase.reached, next⟩
    obtain ⟨_, rfl⟩ := connect_iff.mp next
    have counted : (past ++ [Action.connect]).countP isStart = past.countP isStart := by
      simp [List.countP_append, isStart]
    refine ⟨reached, phase.single, ?_, phase.noDestructor, fun _ _ _ _ => rfl, ?_⟩
    · rw [counted]
      exact phase.notStarted
    · rw [counted]
      intro e stored
      rcases stored_snoc phase.reached stored with earlier | ⟨_, _, same, _⟩
      · obtain ⟨held, _, once, quiet⟩ := phase.stored e earlier
        exact ⟨held, rfl, once, quiet⟩
      · cases same
  | call c => exact phase_call phase each next
  | act k w => exact phase_act phase (oneEach_init each) next

def willRethrow (mustStop : Bool) : Place → Bool
  | .task .blocking .clear | .task .blocking .unlock | .readMustStop => !mustStop
  | .readException => true
  | _ => false

/-- Who rethrows the stored exception: the stop call, made later or under way, or the caller
    of the task. -/
inductive Fate (m : Monitor) (past : List Action) (e : StoredException) : Prop where
  | later (none : past.countP isStop = 0)
  | stop (k : Nat) (p : Place) (there : m.activations[k]? = some p) (active : stopping p = true)
  | caller (k : Nat) (p : Place) (finished : Nowhere (fun p => stopping p = true) m.activations)
      (once : past.countP isStop = 1) (there : m.activations[k]? = some p)
      (active : willRethrow m.mustStop p = true)
  | done (rethrown : Rethrown m e)

theorem stopping_next {p q : Place} (leads : Leads p q) (active : stopping p = true) :
    stopping q = true ∨ p = .stopRead .stopMonitoring := by
  cases leads with
  | requests stopper | skips stopper | requested stopper | joins stopper | notJoinable stopper
  | joined stopper => cases stopper <;> first | exact .inl rfl | cases active
  | ends stopper => cases stopper <;> first | exact .inr rfl | cases active
  | _ => cases active

theorem stopping_only {p q : Place} (leads : Leads p q) (active : stopping q = true) :
    stopping p = true := by
  cases leads with
  | requests stopper | skips stopper | requested stopper | joins stopper | notJoinable stopper
  | joined stopper => cases stopper <;> first | rfl | cases active
  | _ => cases active

theorem mustStop_stays {start m t n : Monitor} {past : List Action} {k : Nat} {w : Work}
    {p q : Place} (phase : Phase start m past)
    (finished : Nowhere (fun p => stopping p = true) m.activations) (acts : Acts m k w t p q n) :
    t.mustStop = m.mustStop := by
  have after := (acts_writes acts).mustStop
  cases p with
  | stopRequest stopper =>
    cases stopper with
    | stopMonitoring => exact absurd rfl (finished k _ acts.here)
    | destructor => exact absurd rfl (phase.noDestructor k _ acts.here)
  | _ => exact after

theorem willRethrow_next {m n : Monitor} {p q : Place} {w : Work} {e : StoredException}
    (works : m.work p w = some (n, q)) (held : m.exception = some e)
    (active : willRethrow m.mustStop p = true) :
    willRethrow m.mustStop q = true ∨ q = .ended .monitorConnection (.rethrew e) := by
  have did := work_cases works
  cases p with
  | task mode pc =>
    cases mode with
    | joinable => cases pc <;> cases active
    | blocking =>
      cases pc with
      | clear =>
        obtain ⟨_, _, rfl⟩ := did
        exact .inl active
      | unlock =>
        obtain ⟨_, _, rfl⟩ := did
        exact .inl active
      | _ => cases active
  | readMustStop =>
    obtain ⟨_, _, rfl⟩ := did
    have unset : m.mustStop = false := by simpa [willRethrow] using active
    exact .inl (by simp [unset, willRethrow])
  | readException =>
    obtain ⟨_, _, rfl⟩ := did
    rw [held]
    exact .inr rfl
  | _ => cases active

theorem fate_act {start m t n : Monitor} {past : List Action} {k : Nat} {w : Work} {p q : Place}
    {e : StoredException} (phase : Phase start m past) (held : m.exception = some e)
    (acts : Acts m k w t p q n) (fate : Fate m past e) : Fate t (past ++ [.act k w]) e := by
  have counted : (past ++ [Action.act k w]).countP isStop = past.countP isStop := by
    simp [List.countP_append, isStop]
  have leads := work_leads acts.works
  cases fate with
  | later none => exact .later (counted.trans none)
  | stop j r there active =>
    by_cases here : j = k
    · subst here
      obtain rfl := Option.some.inj (acts.here.symm.trans there)
      rcases stopping_next leads active with next | rfl
      · exact .stop j q (acts_self acts) next
      · obtain ⟨_, _, rfl⟩ := work_cases acts.works
        refine .done ⟨j, .stopMonitoring, ?_, .inl rfl⟩
        have now := acts_self acts
        rw [held] at now
        exact now
    · exact .stop j r (acts_other acts here there) active
  | caller j r finished once there active =>
    have kept := mustStop_stays phase finished acts
    have quiet : Nowhere (fun p => stopping p = true) t.activations :=
      acts_nowhere acts finished (fun next => finished k p acts.here (stopping_only leads next))
        (by simp [stopping])
    by_cases here : j = k
    · subst here
      obtain rfl := Option.some.inj (acts.here.symm.trans there)
      rcases willRethrow_next acts.works held active with next | rfl
      · exact .caller j q quiet (counted.trans once) (acts_self acts) (kept ▸ next)
      · exact .done ⟨j, .monitorConnection, acts_self acts, .inr rfl⟩
    · exact .caller j r quiet (counted.trans once) (acts_other acts here there) (kept ▸ active)
  | done rethrown =>
    obtain ⟨j, role, there, who⟩ := rethrown
    have here : j ≠ k := by
      rintro rfl
      obtain rfl := Option.some.inj (acts.here.symm.trans there)
      exact work_cases acts.works
    exact .done ⟨j, role, acts_other acts here there, who⟩

theorem enter_stopping {m : Monitor} {c : Call} (comes : stopping (m.enter c) = true) :
    isStop (.call c) = true := by
  rcases enter_cases m c with ⟨_, place, _⟩ | ⟨stopper, place, rfl⟩ | ⟨_, _, place, _⟩
  · rw [place] at comes
    cases comes
  · cases stopper with
    | stopMonitoring => rfl
    | destructor =>
      rw [place] at comes
      cases comes
  · rw [place] at comes
    cases comes

theorem enter_stop {m : Monitor} {c : Call} (made : m.created = true)
    (stops : isStop (.call c) = true) : stopping (m.enter c) = true := by
  cases c with
  | start mode interval => cases stops
  | stop stopper =>
    cases stopper with
    | stopMonitoring => simp [Monitor.enter, Monitor.checkConnectionInitialization, made, stopping]
    | destructor => cases stops

theorem fate_call {m : Monitor} {past : List Action} {c : Call} {e : StoredException}
    (made : m.created = true) (each : OneEach (past ++ [.call c])) (fate : Fate m past e) :
    Fate { m with alive := !c.destroys, activations := m.activations ++ [m.enter c] }
      (past ++ [.call c]) e := by
  have stops := each.stops
  simp only [List.countP_append, List.countP_singleton] at stops
  cases fate with
  | later none =>
    cases stop : isStop (.call c) with
    | true => exact .stop _ _ (began_new _ _) (enter_stop made stop)
    | false => exact .later (by simp [List.countP_append, none, stop])
  | stop j r there active => exact .stop j r (began_old there) active
  | caller j r finished once there active =>
    have other : isStop (.call c) = false := by
      cases stop : isStop (.call c) with
      | true =>
        rw [stop, if_pos rfl] at stops
        omega
      | false => rfl
    refine .caller j r (nowhere_began finished fun comes => ?_) ?_ (began_old there) active
    · rw [enter_stopping comes] at other
      cases other
    · simp [List.countP_append, once, other]
  | done rethrown =>
    obtain ⟨j, role, there, who⟩ := rethrown
    exact .done ⟨j, role, began_old there, who⟩

theorem storedInTime_snoc {start m : Monitor} {past : List Action} {a : Action}
    (reached : run Monitor.step start past = some m)
    (inTime : StoredInTime start (past ++ [a])) : StoredInTime start past ∧
      ∀ k f, a = .act k (.check (.raised f)) → f.isStored = true → ¬StopIsOver m past k := by
  constructor
  · intro before k f after x split isStored path
    exact inTime before k f (after ++ [a]) x (by simp [split]) isStored path
  · intro k f same isStored
    exact inTime past k f [] m (by rw [same]) isStored reached

theorem fate_begins {m t n : Monitor} {past : List Action} {k : Nat} {f : Failure}
    {p q : Place} (each : OneEach past) (acts : Acts m k (.check (.raised f)) t p q n)
    (isStored : f.isStored = true) (inTime : ¬StopIsOver m past k) :
    Fate t (past ++ [.act k (.check (.raised f))]) ⟨f, m.thrown⟩ := by
  obtain ⟨mode, rfl, rfl, _, kept⟩ := stores_cases acts isStored
  have counted : (past ++ [Action.act k (.check (.raised f))]).countP isStop =
      past.countP isStop := by simp [List.countP_append, isStop]
  have stops := each.stops
  by_cases made : past.countP isStop = 0
  · exact .later (counted.trans made)
  · have once : past.countP isStop = 1 := by omega
    by_cases finished : Nowhere (fun p => stopping p = true) m.activations
    · have calm : mode = .blocking ∧ m.mustStop = false := by
        cases mode with
        | joinable => exact absurd ⟨once, finished, .inl acts.here⟩ inTime
        | blocking =>
          cases set : m.mustStop with
          | true => exact absurd ⟨once, finished, .inr set⟩ inTime
          | false => exact ⟨rfl, rfl⟩
      obtain ⟨rfl, unset⟩ := calm
      have quiet : Nowhere (fun p => stopping p = true) t.activations :=
        acts_nowhere acts finished (by simp [stopping]) fun place => by cases place
      have active : willRethrow t.mustStop (.task .blocking .clear) = true := by
        simp [willRethrow, kept, unset]
      exact .caller k _ quiet (counted.trans once) (acts_self acts) active
    · obtain ⟨j, r, there, active⟩ := exists_of_not_nowhere finished
      have other : j ≠ k := by
        rintro rfl
        obtain rfl := Option.some.inj (acts.here.symm.trans there)
        cases active
      exact .stop j r (acts_other acts other there) active

structure Fated (start m : Monitor) (past : List Action) : Prop where
  phase : OneEach past → Phase start m past
  fate : OneEach past → StoredInTime start past → ∀ e, Stored start past e → Fate m past e

theorem fated_step {start m t : Monitor} {past : List Action} {a : Action}
    (fated : Fated start m past) (next : m.step a = some t) : Fated start t (past ++ [a]) := by
  refine ⟨fun each => phase_step (fated.phase (oneEach_init each)) each next, ?_⟩
  intro each inTime e stored
  have before := oneEach_init each
  have phase := fated.phase before
  obtain ⟨early, now⟩ := storedInTime_snoc phase.reached inTime
  rcases stored_snoc phase.reached stored with earlier | ⟨k, f, rfl, isStored, rfl⟩
  · obtain ⟨held, made, _⟩ := phase.stored e earlier
    have fate := fated.fate before early e earlier
    cases a with
    | connect =>
      obtain ⟨_, rfl⟩ := connect_iff.mp next
      have counted : (past ++ [Action.connect]).countP isStop = past.countP isStop := by
        simp [List.countP_append, isStop]
      cases fate with
      | later none => exact .later (counted.trans none)
      | stop k p there active => exact .stop k p there active
      | caller k p finished once there active =>
        exact .caller k p finished (counted.trans once) there active
      | done rethrown => exact .done rethrown
    | call c =>
      obtain ⟨_, rfl⟩ := call_iff.mp next
      exact fate_call made each fate
    | act k w =>
      obtain ⟨p, q, n, acts⟩ := act_iff.mp next
      exact fate_act phase held acts fate
  · obtain ⟨p, q, n, acts⟩ := act_iff.mp next
    exact fate_begins before acts isStored (now k f rfl isStored)

def Idle (m : Monitor) : Prop :=
  Nowhere (fun p => p.isEnded = false) m.activations

/-- A run of one call that starts the task and one of stopMonitoring(), in either order, on an
    idle connector. -/
structure MonitoringRun (start : Monitor) (trace : List Action) (m : Monitor) : Prop where
  idle : Idle start
  reached : run Monitor.step start trace = some m
  starts : trace.countP isStart = 1
  stops : trace.countP isStop = 1
  destructions : trace.countP isDestruction = 0

theorem idle_nowhere {m : Monitor} (idle : Idle m) {kind : Place → Bool}
    (active : ∀ p, kind p = true → p.isEnded = false) :
    Nowhere (fun p => kind p = true) m.activations :=
  fun k p there isKind => idle k p there (active p isKind)

theorem lineage_active {p : Place} (active : lineage p = true) : p.isEnded = false := by
  cases p <;> first | rfl | cases active

theorem destructor_active {p : Place} (active : isDestructor p = true) : p.isEnded = false := by
  cases p <;> first | rfl | cases active

theorem stopping_active {p : Place} (active : stopping p = true) : p.isEnded = false := by
  cases p <;> first | rfl | cases active

theorem willRethrow_active {mustStop : Bool} {p : Place} (active : willRethrow mustStop p = true) :
    p.isEnded = false := by
  cases p <;> first | rfl | cases active

theorem stored_nil {start : Monitor} {e : StoredException} : ¬Stored start [] e := by
  rintro ⟨before, k, f, after, x, split, _⟩
  simp at split

theorem fated_idle {start : Monitor} (idle : Idle start) : Fated start start [] where
  phase _ :=
    { reached := rfl
      single := atMostOne_of_nowhere (idle_nowhere idle fun _ => lineage_active)
      notStarted := fun _ => idle_nowhere idle fun _ => lineage_active
      noDestructor := idle_nowhere idle fun _ => destructor_active
      created := fun k p there active => absurd (lineage_active active) (idle k p there)
      stored := fun _ stored => absurd stored stored_nil }
  fate _ _ _ stored := absurd stored stored_nil

theorem fated_run {start m : Monitor} {past : List Action} (idle : Idle start)
    (path : run Monitor.step start past = some m) : Fated start m past :=
  run_traced (fun m past => Fated start m past) (fun _ _ _ _ fated _ next => fated_step fated next)
    past start [] m (fated_idle idle) (throughout_trivial past start) path

theorem monitoring_oneEach {start m : Monitor} {trace : List Action}
    (monitoring : MonitoringRun start trace m) : OneEach trace :=
  ⟨Nat.le_of_eq monitoring.starts, Nat.le_of_eq monitoring.stops, monitoring.destructions⟩

theorem rethrown_of_storedInTime {start m : Monitor} {trace : List Action}
    (monitoring : MonitoringRun start trace m) (complete : Idle m)
    (inTime : StoredInTime start trace) {e : StoredException} (stored : Stored start trace e) :
    Rethrown m e := by
  have fated := fated_run monitoring.idle monitoring.reached
  cases fated.fate (monitoring_oneEach monitoring) inTime e stored with
  | later none =>
    have once := monitoring.stops
    omega
  | stop k p there active => exact absurd (stopping_active active) (complete k p there)
  | caller k p _ _ there active => exact absurd (willRethrow_active active) (complete k p there)
  | done rethrown => exact rethrown

end PcpFailureRethrown
