import PcpClient.MonitorMachine

/-!
The thread behind monitor_thread_: when calls follow each other, each of them finds a thread
that it can still join, unless the task has cleared is_monitoring_ by itself.
-/
namespace PcpThreadJoin
open PcpThreads PcpTransitions PcpMonitor

def inCaller : Mode → Bool
  | .joinable => false
  | .blocking => true

def isCall : Place → Bool
  | .ended _ _ => false
  | .task mode _ => inCaller mode
  | _ => true

def isThread : Place → Bool
  | .task mode _ => !inCaller mode
  | _ => false

def isDestructor : Place → Bool
  | .stopCheck .destructor | .stopRequest .destructor | .stopJoinable .destructor
  | .stopJoin .destructor _ | .stopRead .destructor => true
  | _ => false

def sequential (m : Monitor) : Action → Bool
  | .call _ => m.activations.all fun p => !isCall p
  | _ => true

def decides : Place → Bool
  | .startCheck .joinable | .stopCheck _ => true
  | _ => false

/-- A call reads is_monitoring_ as false while monitor_thread_ has not been joined. -/
def readsUnjoined (m : Monitor) : Action → Bool
  | .act k .go => (m.activations[k]?).any decides && !m.isMonitoring && m.monitorThread.isSome
  | _ => false

def NoThread (m : Monitor) : Prop :=
  Nowhere (fun p => isThread p = true) m.activations

/-- No thread is left behind: where monitor_thread_ is overwritten, where stopMonitoring() or
    the destructor ends, and after the destruction. -/
structure Joined (m : Monitor) : Prop where
  overwrite : ∀ (k thread : Nat), m.activations[k]? = some (.assigning thread) →
    m.monitorThread = none ∧
      ∀ (j : Nat) p, m.activations[j]? = some p → isThread p = true → j = thread
  stop : ∀ (k : Nat) stopper, m.activations[k]? = some (.stopRead stopper) →
    m.monitorThread = none ∧ NoThread m
  notInitialized : m.created = false → m.monitorThread = none ∧ NoThread m
  destroyed : m.alive = false → Nowhere (fun p => isCall p = true) m.activations →
    m.monitorThread = none ∧ NoThread m

/-- Where monitor_thread_ must not be joinable. -/
def needsNone : Place → Bool
  | .startSet .joinable | .spawning | .assigning _ | .stopRead _ => true
  | _ => false

def launches : Place → Bool
  | .startCheck _ | .startSet _ | .spawning | .assigning _ => true
  | .task mode _ => !inCaller mode
  | _ => false

structure Tracked (m : Monitor) : Prop where
  caller : AtMostOne (fun p => isCall p = true) m.activations
  thread : ∀ (j : Nat) p, m.activations[j]? = some p → isThread p = true →
    m.monitorThread = some j ∨ ∃ k : Nat, m.activations[k]? = some (.assigning j)
  unset : ∀ (k : Nat) p, m.activations[k]? = some p → needsNone p = true → m.monitorThread = none
  joining : ∀ (k : Nat) stopper thread, m.activations[k]? = some (.stopJoin stopper thread) →
    m.monitorThread = some thread
  last : m.alive = false → ∀ (k : Nat) p, m.activations[k]? = some p → isCall p = true →
    isDestructor p = true
  destroyed : m.alive = false →
    m.monitorThread = none ∨
      ∃ (k : Nat) (p : Place), m.activations[k]? = some p ∧ isDestructor p = true
  notInitialized : m.created = false →
    m.monitorThread = none ∧ Nowhere (fun p => launches p = true) m.activations

theorem tracked_joined {m : Monitor} (tracked : Tracked m) : Joined m where
  overwrite k thread there := by
    refine ⟨tracked.unset k _ there rfl, fun j p running isThread => ?_⟩
    rcases tracked.thread j p running isThread with handle | ⟨i, assigns⟩
    · rw [tracked.unset k _ there rfl] at handle
      cases handle
    · obtain rfl := tracked.caller _ _ _ _ there assigns rfl rfl
      obtain ⟨⟩ := Option.some.inj (there.symm.trans assigns)
      rfl
  stop k stopper there := by
    refine ⟨tracked.unset k _ there rfl, fun j p running isThread => ?_⟩
    rcases tracked.thread j p running isThread with handle | ⟨i, assigns⟩
    · rw [tracked.unset k _ there rfl] at handle
      cases handle
    · obtain rfl := tracked.caller _ _ _ _ there assigns rfl rfl
      cases there.symm.trans assigns
  notInitialized fresh := by
    obtain ⟨handle, nobody⟩ := tracked.notInitialized fresh
    refine ⟨handle, fun j p running isThread => nobody j p running ?_⟩
    cases p with
    | task mode pc => exact isThread
    | _ => cases isThread
  destroyed gone nobody := by
    have handle : m.monitorThread = none := by
      rcases tracked.destroyed gone with handle | ⟨k, p, there, last⟩
      · exact handle
      · refine absurd ?_ (nobody k p there)
        cases p <;> first | rfl | cases last
    refine ⟨handle, fun j p running isThread => ?_⟩
    rcases tracked.thread j p running isThread with found | ⟨i, assigns⟩
    · rw [handle] at found
      cases found
    · exact nobody i _ assigns rfl

theorem call_before {p q : Place} (leads : Leads p q) (active : isCall q = true) :
    isCall p = true := by
  cases leads with
  | resets mode | locks mode | waits mode | wakes mode | checks mode | goesOn mode
  | leaves mode | breaks mode | fails mode | clears mode => exact active
  | _ => first | rfl | cases active

theorem thread_before {p q : Place} (leads : Leads p q) (running : isThread q = true) :
    isThread p = true := by
  cases leads with
  | resets mode | locks mode | waits mode | wakes mode | checks mode | goesOn mode
  | leaves mode | breaks mode | fails mode | clears mode => exact running
  | _ => cases running

theorem launches_before {p q : Place} (leads : Leads p q) (launching : launches q = true) :
    launches p = true := by
  cases leads with
  | resets mode | locks mode | waits mode | wakes mode | checks mode | goesOn mode
  | leaves mode | breaks mode | fails mode | clears mode => exact launching
  | _ => first | rfl | cases launching

theorem destructor_next {p q : Place} (leads : Leads p q) (destructor : isDestructor p = true) :
    isDestructor q = true ∨ p = .stopRead .destructor := by
  cases leads with
  | requests stopper | skips stopper | requested stopper | joins stopper | notJoinable stopper
  | joined stopper => cases stopper <;> first | exact .inl rfl | cases destructor
  | ends stopper => cases stopper <;> first | exact .inr rfl | cases destructor
  | _ => cases destructor

theorem destructor_only {p q : Place} (leads : Leads p q) (destructor : isDestructor q = true) :
    isDestructor p = true := by
  cases leads with
  | requests stopper | skips stopper | requested stopper | joins stopper | notJoinable stopper
  | joined stopper => cases stopper <;> first | rfl | cases destructor
  | _ => cases destructor

theorem destructor_before {p q : Place} (leads : Leads p q) (last : isDestructor p = true)
    (active : isCall q = true) : isDestructor q = true := by
  rcases destructor_next leads last with next | rfl
  · exact next
  · cases leads
    cases active

theorem thread_or_call {p q : Place} (leads : Leads p q) : isThread p = true ∨ isCall p = true := by
  cases leads with
  | resets mode | locks mode | waits mode | wakes mode | checks mode | goesOn mode
  | leaves mode | breaks mode | fails mode | clears mode =>
    cases mode
    · exact .inl rfl
    · exact .inr rfl
  | terminates => exact .inl rfl
  | _ => exact .inr rfl

theorem monitorThread_kept {m t : Monitor} {p : Place} {w : Work} (writes : Writes m p w t)
    (running : isThread p = true) : t.monitorThread = m.monitorThread := by
  have after := writes.monitorThread
  cases p with
  | task mode pc => exact after
  | _ => cases running

theorem monitorThread_cases {m t : Monitor} {p : Place} {w : Work} (writes : Writes m p w t) :
    (∃ thread, p = .assigning thread ∧ t.monitorThread = some thread) ∨
      (∃ stopper thread, p = .stopJoin stopper thread ∧ t.monitorThread = none) ∨
      t.monitorThread = m.monitorThread := by
  have after := writes.monitorThread
  cases p with
  | assigning thread => exact .inl ⟨thread, rfl, after⟩
  | stopJoin stopper thread => exact .inr (.inl ⟨stopper, thread, rfl, after⟩)
  | _ => exact .inr (.inr after)

theorem other_is_thread {m t n : Monitor} {k : Nat} {w : Work} {p q : Place} (tracked : Tracked m)
    (acts : Acts m k w t p q n) {j : Nat} {r : Place} (other : j ≠ k)
    (there : m.activations[j]? = some r) (active : isCall r = true) : isThread p = true := by
  rcases thread_or_call (work_leads acts.works) with thread | call
  · exact thread
  · exact absurd (tracked.caller _ _ _ _ there acts.here active call) other

theorem terminated_iff {m : Monitor} {thread : Nat} : m.terminated thread = true ↔
    ∃ role outcome, m.activations[thread]? = some (.ended role outcome) := by
  unfold Monitor.terminated
  cases there : m.activations[thread]? with
  | none => simp
  | some p => cases p <;> simp [Place.isEnded]

theorem thread_act {m t n : Monitor} {k : Nat} {w : Work} {p q : Place} (tracked : Tracked m)
    (acts : Acts m k w t p q n) {j : Nat} {r : Place} (there : t.activations[j]? = some r)
    (running : isThread r = true) :
    t.monitorThread = some j ∨ ∃ i : Nat, t.activations[i]? = some (.assigning j) := by
  have leads := work_leads acts.works
  have writes := acts_writes acts
  rcases acts_entry acts there with ⟨rfl, rfl⟩ | ⟨other, before⟩ | ⟨_, rfl, _, _⟩
  · have was := thread_before leads running
    rcases tracked.thread j p acts.here was with handle | ⟨i, assigns⟩
    · exact .inl ((monitorThread_kept writes was).trans handle)
    · have elsewhere : i ≠ j := by
        rintro rfl
        obtain rfl := Option.some.inj (acts.here.symm.trans assigns)
        cases was
      exact .inr ⟨i, acts_other acts elsewhere assigns⟩
  · rcases tracked.thread j r before running with handle | ⟨i, assigns⟩
    · rcases monitorThread_cases writes with ⟨thread, rfl, _⟩ | ⟨stopper, thread, rfl, _⟩ | same
      · rw [tracked.unset k _ acts.here rfl] at handle
        cases handle
      · have joins := tracked.joining k _ _ acts.here
        obtain rfl := Option.some.inj (handle.symm.trans joins)
        obtain ⟨_, _, terminated, _⟩ := work_cases acts.works
        obtain ⟨role, outcome, ended⟩ := terminated_iff.mp terminated
        obtain rfl := Option.some.inj (before.symm.trans ended)
        cases running
      · exact .inl (same.trans handle)
    · by_cases here : i = k
      · subst here
        obtain rfl := Option.some.inj (acts.here.symm.trans assigns)
        exact .inl writes.monitorThread
      · exact .inr ⟨i, acts_other acts here assigns⟩
  · exact .inr ⟨k, acts_self acts⟩

theorem next_reads {stopper other : Stopper} {handle : Option Nat}
    (next : .stopRead other = stopper.next handle) : handle = none := by
  cases handle with
  | none => rfl
  | some thread => cases next

theorem next_joins {stopper other : Stopper} {handle : Option Nat} {thread : Nat}
    (next : .stopJoin other thread = stopper.next handle) : handle = some thread := by
  cases handle with
  | none => cases next
  | some found =>
    obtain ⟨⟩ := next
    rfl

theorem needsNone_before {m n : Monitor} {p q : Place} {w : Work}
    (works : m.work p w = some (n, q)) (needs : needsNone q = true) :
    needsNone p = true ∨ n.monitorThread = none ∨
      decides p = true ∧ m.isMonitoring = false ∧ w = .go := by
  cases work_leads works with
  | starts mode =>
    cases mode
    · obtain ⟨rfl, _, ⟨_, returns⟩ | ⟨read, _⟩⟩ := work_cases works
      · cases returns
      · exact .inr (.inr ⟨rfl, read, rfl⟩)
    · cases needs
  | skips stopper =>
    obtain ⟨rfl, _, ⟨_, requests⟩ | ⟨read, _⟩⟩ := work_cases works
    · cases requests
    · exact .inr (.inr ⟨rfl, read, rfl⟩)
  | notJoinable stopper =>
    obtain ⟨_, rfl, next⟩ := work_cases works
    exact .inr (.inl (next_reads next))
  | joined stopper thread =>
    obtain ⟨_, rfl, _⟩ := work_cases works
    exact .inr (.inl rfl)
  | spawns | spawned => exact .inl rfl
  | _ => cases needs

theorem unset_act {m t n : Monitor} {k : Nat} {w : Work} {p q : Place} (tracked : Tracked m)
    (guarded : readsUnjoined m (.act k w) = false) (acts : Acts m k w t p q n) {j : Nat} {r : Place}
    (there : t.activations[j]? = some r) (needs : needsNone r = true) :
    t.monitorThread = none := by
  have writes := acts_writes acts
  rcases acts_entry acts there with ⟨rfl, rfl⟩ | ⟨other, before⟩ | ⟨_, _, _, rfl⟩
  · rcases monitorThread_cases writes with ⟨thread, rfl, _⟩ | ⟨_, _, _, now⟩ | same
    · cases work_leads acts.works
      cases needs
    · exact now
    · rw [same]
      rcases needsNone_before acts.works needs with was | now | ⟨check, read, rfl⟩
      · exact tracked.unset j p acts.here was
      · rw [← same, acts.result]
        exact now
      · simpa [readsUnjoined, acts.here, check, read] using guarded
  · have active : isCall r = true := by cases r <;> first | rfl | cases needs
    rw [monitorThread_kept writes (other_is_thread tracked acts other before active)]
    exact tracked.unset j r before needs
  · cases needs

theorem joining_act {m t n : Monitor} {k : Nat} {w : Work} {p q : Place} (tracked : Tracked m)
    (acts : Acts m k w t p q n) {j thread : Nat} {stopper : Stopper}
    (there : t.activations[j]? = some (.stopJoin stopper thread)) :
    t.monitorThread = some thread := by
  have writes := acts_writes acts
  rcases acts_entry acts there with ⟨rfl, rfl⟩ | ⟨other, before⟩ | ⟨_, _, _, place⟩
  · cases work_leads acts.works
    obtain ⟨_, rfl, next⟩ := work_cases acts.works
    exact writes.monitorThread.trans (next_joins next)
  · rw [monitorThread_kept writes (other_is_thread tracked acts other before rfl)]
    exact tracked.joining j stopper thread before
  · cases place

theorem last_act {m t n : Monitor} {k : Nat} {w : Work} {p q : Place} (tracked : Tracked m)
    (acts : Acts m k w t p q n) (gone : t.alive = false) {j : Nat} {r : Place}
    (there : t.activations[j]? = some r) (active : isCall r = true) : isDestructor r = true := by
  have before : m.alive = false := (acts_writes acts).alive ▸ gone
  have leads := work_leads acts.works
  rcases acts_entry acts there with ⟨rfl, rfl⟩ | ⟨_, there⟩ | ⟨_, _, _, rfl⟩
  · have was := tracked.last before j p acts.here (call_before leads active)
    exact destructor_before leads was active
  · exact tracked.last before j r there active
  · cases active

theorem destroyed_act {m t n : Monitor} {k : Nat} {w : Work} {p q : Place} (tracked : Tracked m)
    (acts : Acts m k w t p q n) (gone : t.alive = false) : t.monitorThread = none ∨
      ∃ (i : Nat) (r : Place), t.activations[i]? = some r ∧ isDestructor r = true := by
  have before : m.alive = false := (acts_writes acts).alive ▸ gone
  have leads := work_leads acts.works
  have writes := acts_writes acts
  rcases monitorThread_cases writes with ⟨thread, rfl, _⟩ | ⟨_, _, _, now⟩ | same
  · have last := tracked.last before k _ acts.here rfl
    cases last
  · exact .inl now
  · rcases tracked.destroyed before with handle | ⟨i, r, there, last⟩
    · exact .inl (same.trans handle)
    · by_cases here : i = k
      · subst here
        obtain rfl := Option.some.inj (acts.here.symm.trans there)
        rcases destructor_next leads last with next | rfl
        · exact .inr ⟨i, q, acts_self acts, next⟩
        · exact .inl (same.trans (tracked.unset i _ there rfl))
      · exact .inr ⟨i, r, acts_other acts here there, last⟩

theorem notInitialized_act {m t n : Monitor} {k : Nat} {w : Work} {p q : Place}
    (tracked : Tracked m) (acts : Acts m k w t p q n) (fresh : t.created = false) :
    t.monitorThread = none ∧ Nowhere (fun p => launches p = true) t.activations := by
  have writes := acts_writes acts
  obtain ⟨handle, nobody⟩ := tracked.notInitialized (writes.created ▸ fresh)
  have quiet := nobody k p acts.here
  constructor
  · rcases monitorThread_cases writes with ⟨thread, rfl, _⟩ | ⟨_, _, _, now⟩ | same
    · exact absurd rfl quiet
    · exact now
    · exact same.trans handle
  · refine acts_nowhere acts nobody (fun next => quiet ?_) fun place => ?_
    · exact launches_before (work_leads acts.works) next
    · subst place
      exact absurd rfl quiet

theorem tracked_act {m t : Monitor} {k : Nat} {w : Work} (tracked : Tracked m)
    (guarded : readsUnjoined m (.act k w) = false) (next : m.step (.act k w) = some t) :
    Tracked t := by
  obtain ⟨p, q, n, acts⟩ := act_iff.mp next
  refine ⟨?_, ?_, ?_, ?_, ?_, ?_, ?_⟩
  · refine acts_atMostOne acts tracked.caller (fun active => ?_) fun _ spawned => by cases spawned
    exact .inl (call_before (work_leads acts.works) active)
  · exact fun _ _ there running => thread_act tracked acts there running
  · exact fun _ _ there needs => unset_act tracked guarded acts there needs
  · exact fun _ _ _ there => joining_act tracked acts there
  · exact fun gone _ _ there active => last_act tracked acts gone there active
  · exact fun gone => destroyed_act tracked acts gone
  · exact fun fresh => notInitialized_act tracked acts fresh

theorem enter_quiet (m : Monitor) (c : Call) : isThread (m.enter c) = false ∧
    needsNone (m.enter c) = false ∧ ∀ stopper thread, m.enter c ≠ .stopJoin stopper thread := by
  rcases enter_cases m c with ⟨_, place, _⟩ | ⟨_, place, _⟩ | ⟨_, _, place, _⟩ <;> rw [place] <;>
    exact ⟨rfl, rfl, by simp⟩

theorem enter_launches {m : Monitor} {c : Call} (fresh : m.created = false) :
    launches (m.enter c) = false := by
  rcases enter_cases m c with ⟨_, _, made, _⟩ | ⟨_, place, _⟩ | ⟨_, _, place, _⟩
  · rw [fresh] at made
    cases made
  · rw [place]
    rfl
  · rw [place]
    rfl

theorem destroys_iff {c : Call} : c.destroys = true ↔ c = .stop .destructor := by
  cases c with
  | start mode connectionCheckIntervalS => simp [Call.destroys]
  | stop stopper => cases stopper <;> simp [Call.destroys]

theorem tracked_call {m : Monitor} {c : Call} (tracked : Tracked m)
    (turn : sequential m (.call c) = true) : Tracked
      { m with alive := !c.destroys, activations := m.activations ++ [m.enter c] } := by
  obtain ⟨notThread, free, notJoin⟩ := enter_quiet m c
  have idle : Nowhere (fun p => isCall p = true) m.activations := by
    intro k p there active
    have ended := List.all_eq_true.mp turn p (List.mem_of_getElem? there)
    simp [active] at ended
  refine ⟨?_, ?_, ?_, ?_, ?_, ?_, ?_⟩
  · exact atMostOne_began tracked.caller fun _ => idle
  · intro j r there running
    rcases began_cases there with ⟨_, rfl⟩ | before
    · rw [notThread] at running
      cases running
    · rcases tracked.thread j r before running with handle | ⟨k, assigns⟩
      · exact .inl handle
      · exact .inr ⟨k, began_old assigns⟩
  · intro j r there needs
    rcases began_cases there with ⟨_, rfl⟩ | before
    · rw [free] at needs
      cases needs
    · exact tracked.unset j r before needs
  · intro j stopper thread there
    rcases began_cases there with ⟨_, place⟩ | before
    · exact absurd place.symm (notJoin stopper thread)
    · exact tracked.joining j stopper thread before
  · intro gone j r there active
    rcases began_cases there with ⟨_, rfl⟩ | before
    · obtain rfl := destroys_iff.mp (by simpa using gone)
      rfl
    · exact absurd active (idle j r before)
  · intro gone
    obtain rfl := destroys_iff.mp (by simpa using gone)
    exact .inr ⟨m.activations.length, _, began_new _ _, rfl⟩
  · intro fresh
    obtain ⟨handle, nobody⟩ := tracked.notInitialized fresh
    refine ⟨handle, nowhere_began nobody fun launching => ?_⟩
    have outside : launches (m.enter c) = false := enter_launches fresh
    rw [outside] at launching
    cases launching

theorem tracked_step {m t : Monitor} {a : Action} (tracked : Tracked m)
    (turn : sequential m a = true) (guarded : readsUnjoined m a = false)
    (next : m.step a = some t) : Tracked t := by
  cases a with
  | connect =>
    obtain ⟨_, rfl⟩ := connect_iff.mp next
    exact { tracked with notInitialized := fun fresh => by cases fresh }
  | call c =>
    obtain ⟨_, rfl⟩ := call_iff.mp next
    exact tracked_call tracked turn
  | act k w => exact tracked_act tracked guarded next

theorem tracked_create (pongTimeoutMs : Int) : Tracked (.create pongTimeoutMs) where
  caller _ _ _ _ first := by cases first
  thread _ _ there := by cases there
  unset _ _ there := by cases there
  joining _ _ _ there := by cases there
  last gone := by cases gone
  destroyed gone := by cases gone
  notInitialized _ := ⟨rfl, fun _ _ there => by cases there⟩

/-- A call that reads is_monitoring_ too late for the join leaves the thread behind. -/
theorem unjoined_abandoned {m t : Monitor} {a : Action} (reads : readsUnjoined m a = true)
    (next : m.step a = some t) :
    ∃ more u, Throughout Monitor.step (fun m a => sequential m a = true) t more ∧
      run Monitor.step t more = some u ∧ ¬Joined u := by
  cases a with
  | connect => cases reads
  | call c => cases reads
  | act k w =>
    obtain ⟨p, q, n, acts⟩ := act_iff.mp next
    cases w with
    | spawn started => cases reads
    | check result => cases reads
    | go =>
      simp only [readsUnjoined, acts.here, Option.any_some, Bool.and_eq_true, Bool.not_eq_true',
        Option.isSome_iff_exists] at reads
      obtain ⟨⟨check, read⟩, thread, handle⟩ := reads
      have did := work_cases acts.works
      have there := acts_self acts
      have kept := (acts_writes acts).monitorThread
      cases p with
      | startCheck mode =>
        obtain ⟨_, _, ⟨set, _⟩ | ⟨_, rfl⟩⟩ := did
        · rw [read] at set
          cases set
        · cases mode with
          | blocking => cases check
          | joinable =>
            obtain ⟨u, sets, setting⟩ := act_next (w := .go) there rfl
            obtain ⟨v, spawns, spawning⟩ := act_next (w := .spawn true) (acts_self setting) rfl
            have found : v.monitorThread = some thread := by
              rw [(acts_writes spawning).monitorThread]
              exact (acts_writes setting).monitorThread.trans (kept.trans handle)
            refine ⟨[.act k .go, .act k (.spawn true)], v,
              ⟨rfl, fun _ _ => ⟨rfl, fun _ _ => trivial⟩⟩, ?_, fun joined => ?_⟩
            · simp only [run_cons_iff, run_nil]
              exact ⟨u, sets, v, spawns, rfl⟩
            · rw [(joined.overwrite k _ (acts_self spawning)).1] at found
              cases found
      | stopCheck stopper =>
        obtain ⟨_, _, ⟨set, _⟩ | ⟨_, rfl⟩⟩ := did
        · rw [read] at set
          cases set
        · refine ⟨[], t, trivial, rfl, fun joined => ?_⟩
          have found : t.monitorThread = some thread := kept.trans handle
          rw [(joined.stop k stopper there).1] at found
          cases found
      | _ => cases check

/-- In a run of calls that follow each other, where none reads is_monitoring_ as false while
    monitor_thread_ is not joined, no thread is left behind. A call that does leaves it. -/
theorem thread_joined (pongTimeoutMs : Int) (trace : List Action) (m : Monitor)
    (path : run Monitor.step (.create pongTimeoutMs) trace = some m)
    (turns : Throughout Monitor.step (fun m a => sequential m a = true)
      (.create pongTimeoutMs) trace)
    (guarded : Throughout Monitor.step (fun m a => readsUnjoined m a = false)
      (.create pongTimeoutMs) trace) :
    Joined m ∧ ∀ a t, readsUnjoined m a = true → m.step a = some t →
      ∃ more u, Throughout Monitor.step (fun m a => sequential m a = true) t more ∧
        run Monitor.step t more = some u ∧ ¬Joined u := by
  constructor
  · have tracked := run_under _ Tracked
      (fun _ _ _ tracked both next => tracked_step tracked both.1 both.2 next)
      (tracked_create pongTimeoutMs) (throughout_and _ _ turns guarded) path
    exact tracked_joined tracked
  · exact fun _ _ reads next => unjoined_abandoned reads next

def stoppedTrace : List Action :=
  [.connect, .call (.start .joinable 15), .act 0 .go, .act 0 .go, .act 0 (.spawn true),
    .act 0 .go, .act 1 .go, .act 1 .go, .act 1 .go, .call (.stop .stopMonitoring), .act 2 .go,
    .act 2 .go, .act 2 .go, .act 1 .go, .act 1 .go, .act 1 .go, .act 1 .go, .act 2 .go, .act 2 .go,
    .call (.stop .destructor), .act 3 .go, .act 3 .go]

theorem stopped_thread_joined :
    ∃ m, run Monitor.step (.create 5000) stoppedTrace = some m ∧ m.alive = false ∧ NoThread m ∧
      Joined m := by
  have joined := (thread_joined 5000 stoppedTrace _ rfl (by decide) (by decide)).1
  refine ⟨_, rfl, rfl, (joined.destroyed rfl ?_).2, joined⟩
  intro k p there
  have ended : ∀ p ∈ [Place.ended .startMonitoring .returned, .ended .monitorTask .returned,
    .ended .stopMonitoring .returned, .ended .destructor .returned], ¬isCall p = true := by decide
  exact ended p (List.mem_of_getElem? there)

def failedTrace : List Action :=
  [.connect, .call (.start .joinable 15), .act 0 .go, .act 0 .go, .act 0 (.spawn true),
    .act 0 .go, .act 1 .go, .act 1 .go, .act 1 .go, .act 1 .go, .act 1 .go,
    .act 1 (.check (.raised .fatalError)), .act 1 .go, .call (.stop .stopMonitoring), .act 2 .go,
    .act 2 .go]

/-- stopMonitoring() has rethrown the exception; the thread still holds the mutex, and its
    handle has not been joined. -/
theorem rethrown_before_join :
    ∃ m, run Monitor.step (.create 5000) failedTrace = some m ∧
      Throughout Monitor.step (fun m a => sequential m a = true) (.create 5000) failedTrace ∧
      m.activations[2]? = some (.ended .stopMonitoring (.rethrew ⟨.fatalError, 0⟩)) ∧
      m.activations[1]? = some (.task .joinable .unlock) ∧ m.monitorThread = some 1 :=
  ⟨_, rfl, by decide, rfl, rfl, rfl⟩

end PcpThreadJoin
