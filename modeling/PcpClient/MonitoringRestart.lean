import PcpClient.SingleTask

/-!
Starting the Monitoring Task again: what a call that finds no task running leads to, in any
run of calls before and after it, and what must_stop_monitoring_ has to do with it.
-/
namespace PcpRestart
open PcpThreads PcpTransitions PcpMonitor PcpSingleTask

def NoTask (m : Monitor) : Prop :=
  Nowhere (fun p => owns p = true) m.activations

def startsMonitoring (m : Monitor) (c : Call) : Bool :=
  isStartCheck (m.enter c)

def isStopRequest : Place → Bool
  | .stopRequest _ => true
  | _ => false

def requestsStop (m : Monitor) : Action → Bool
  | .act k .go => (m.activations[k]?).any isStopRequest
  | _ => false

def storesException : Action → Bool
  | .act _ (.check result) => result.isStored
  | _ => false

def undisturbed (m : Monitor) (a : Action) : Bool :=
  !requestsStop m a && !storesException a

/-- A call that finds no task running finds must_stop_monitoring_ false, and a thread can
    always be created. -/
def restarts (m : Monitor) : Action → Bool
  | .call c => !(startsMonitoring m c && m.activations.all fun p => !owns p) || !m.mustStop
  | .act _ (.spawn started) => started
  | _ => true

/-- A call that passed its checks when no task was running has been made, and no stop has been
    requested nor an exception stored since. -/
def Obliged (start : Monitor) (past : List Action) : Prop :=
  ∃ before c after m, past = before ++ .call c :: after ∧
    run Monitor.step start before = some m ∧ startsMonitoring m c = true ∧ NoTask m ∧
    Throughout Monitor.step (fun m a => undisturbed m a = true) m (.call c :: after)

/-- A call that still has to read is_monitoring_, or the owner of the task. -/
def underWay (p : Place) : Bool :=
  isStartCheck p || owns p

def isClear : Place → Bool
  | .task _ .clear => true
  | _ => false

structure Orderly (m : Monitor) : Prop where
  marked : m.isMonitoring = true →
    ∃ (k : Nat) (p : Place), m.activations[k]? = some p ∧ owns p = true
  exclusive : AtMostOne (fun p => p.holdsMutex = true) m.activations

structure Serving (m : Monitor) : Prop where
  orderly : Orderly m
  mustStop : m.mustStop = false
  clear : Nowhere (fun p => isClear p = true) m.activations
  underWay : ∃ (k : Nat) (p : Place), m.activations[k]? = some p ∧ underWay p = true

theorem locked_iff {m : Monitor} : m.locked = true ↔
    ∃ (k : Nat) (p : Place), m.activations[k]? = some p ∧ p.holdsMutex = true := by
  simp only [Monitor.locked, List.any_eq_true, List.mem_iff_getElem?]
  constructor
  · rintro ⟨p, ⟨k, there⟩, holds⟩
    exact ⟨k, p, there, holds⟩
  · rintro ⟨k, p, there, holds⟩
    exact ⟨p, ⟨k, there⟩, holds⟩

theorem unlocked_iff {m : Monitor} : m.locked = false ↔
    Nowhere (fun p => p.holdsMutex = true) m.activations := by
  rw [← Bool.not_eq_true, locked_iff]
  constructor
  · intro free k p there holds
    exact free ⟨k, p, there, holds⟩
  · rintro free ⟨k, p, there, holds⟩
    exact free k p there holds

theorem exclusive_act {m t n : Monitor} {k : Nat} {w : Work} {p q : Place}
    (exclusive : AtMostOne (fun p => p.holdsMutex = true) m.activations)
    (acts : Acts m k w t p q n) : AtMostOne (fun p => p.holdsMutex = true) t.activations := by
  refine acts_atMostOne acts exclusive (fun holds => ?_) fun _ spawned => by cases spawned
  cases work_leads acts.works with
  | locks mode | wakes mode =>
    obtain ⟨_, _, free, _⟩ := work_cases acts.works
    exact .inr (unlocked_iff.mp free)
  | resumes => cases holds
  | _ => first | exact .inl rfl | cases holds

theorem owner_next {m t n : Monitor} {k : Nat} {w : Work} {p q : Place} (acts : Acts m k w t p q n)
    (restarted : restarts m (.act k w) = true) (owner : owns p = true) :
    isClear p = true ∨ ∃ (j : Nat) (r : Place), t.activations[j]? = some r ∧ owns r = true := by
  cases work_leads acts.works with
  | clears mode => exact .inl rfl
  | spawned thread =>
    rcases work_cases acts.works with ⟨spawns, _⟩ | ⟨_, _, next⟩
    · exact .inr ⟨_, _, acts_spawned acts spawns, rfl⟩
    · cases next
  | notSpawned =>
    rcases work_cases acts.works with ⟨_, _, next⟩ | ⟨rfl, _⟩
    · cases next
    · cases restarted
  | spawns | runs => exact .inr ⟨k, _, acts_self acts, rfl⟩
  | resets mode | locks mode | waits mode | wakes mode | checks mode | goesOn mode
  | leaves mode | breaks mode | fails mode => exact .inr ⟨k, _, acts_self acts, rfl⟩
  | _ => cases owner

theorem marked_act {m t n : Monitor} {k : Nat} {w : Work} {p q : Place} (orderly : Orderly m)
    (acts : Acts m k w t p q n) (restarted : restarts m (.act k w) = true)
    (set : t.isMonitoring = true) :
    ∃ (j : Nat) (r : Place), t.activations[j]? = some r ∧ owns r = true := by
  have after := (acts_writes acts).isMonitoring
  have stays : owns p = true → ∃ (j : Nat) (r : Place), t.activations[j]? = some r ∧
      owns r = true := by
    intro owner
    rcases owner_next acts restarted owner with clear | there
    · cases p with
      | task mode pc =>
        cases pc with
        | clear => exact absurd (set.symm.trans after) (by simp [Monitor.isMonitoringAfter])
        | _ => cases clear
      | _ => cases clear
    · exact there
  rcases isMonitoring_cases (acts_writes acts) with ⟨place, _⟩ | ⟨_, cleared⟩ | same
  · refine stays ?_
    cases p <;> first | rfl | cases place
  · rw [cleared] at set
    cases set
  · obtain ⟨j, r, there, owner⟩ := orderly.marked (same.symm.trans set)
    by_cases here : j = k
    · subst here
      obtain rfl := Option.some.inj (acts.here.symm.trans there)
      exact stays owner
    · exact ⟨j, r, acts_other acts here there, owner⟩

theorem enter_idle (m : Monitor) (c : Call) : (m.enter c).holdsMutex = false ∧
    isClear (m.enter c) = false ∧ owns (m.enter c) = false := by
  rcases enter_cases m c with ⟨_, place, _⟩ | ⟨_, place, _⟩ | ⟨_, _, place, _⟩ <;> rw [place] <;>
    exact ⟨rfl, rfl, rfl⟩

theorem orderly_step {m t : Monitor} {a : Action} (orderly : Orderly m)
    (restarted : restarts m a = true) (next : m.step a = some t) : Orderly t := by
  cases a with
  | connect =>
    obtain ⟨_, rfl⟩ := connect_iff.mp next
    exact ⟨orderly.marked, orderly.exclusive⟩
  | call c =>
    obtain ⟨_, rfl⟩ := call_iff.mp next
    constructor
    · intro set
      obtain ⟨k, p, there, owner⟩ := orderly.marked set
      exact ⟨k, p, began_old there, owner⟩
    · refine atMostOne_began orderly.exclusive fun holds => ?_
      rw [(enter_idle m c).1] at holds
      cases holds
  | act k w =>
    obtain ⟨p, q, n, acts⟩ := act_iff.mp next
    exact ⟨marked_act orderly acts restarted, exclusive_act orderly.exclusive acts⟩

theorem orderly_create (pongTimeoutMs : Int) : Orderly (.create pongTimeoutMs) where
  marked set := by cases set
  exclusive _ _ _ _ first := by cases first

theorem clear_kept {m t n : Monitor} {k : Nat} {w : Work} {p q : Place} (serving : Serving m)
    (acts : Acts m k w t p q n) (calm : undisturbed m (.act k w) = true) :
    Nowhere (fun p => isClear p = true) t.activations := by
  refine acts_nowhere acts serving.clear (fun clear => ?_) fun _ spawned => by cases spawned
  cases work_leads acts.works with
  | leaves mode | breaks mode =>
    obtain ⟨_, _, next⟩ := work_cases acts.works
    rw [Monitor.unlessStopped, serving.mustStop] at next
    cases next
  | fails mode =>
    obtain ⟨result, rfl, _, next⟩ := work_cases acts.works
    cases stored : result.isStored with
    | false =>
      rw [stored] at next
      cases next
    | true => simp [undisturbed, storesException, stored] at calm
  | _ => cases clear

theorem mustStop_kept {m t n : Monitor} {k : Nat} {w : Work} {p q : Place}
    (unset : m.mustStop = false) (acts : Acts m k w t p q n)
    (calm : undisturbed m (.act k w) = true) : t.mustStop = false := by
  have after := (acts_writes acts).mustStop
  cases p with
  | stopRequest stopper =>
    obtain ⟨rfl, _⟩ := work_cases acts.works
    simp [undisturbed, requestsStop, acts.here, isStopRequest] at calm
  | _ => exact after.trans unset

theorem underWay_kept {m t n : Monitor} {k : Nat} {w : Work} {p q : Place} (serving : Serving m)
    (acts : Acts m k w t p q n) (restarted : restarts m (.act k w) = true) :
    ∃ (j : Nat) (r : Place), t.activations[j]? = some r ∧ underWay r = true := by
  obtain ⟨j, r, there, active⟩ := serving.underWay
  by_cases here : j = k
  · subst here
    obtain rfl := Option.some.inj (acts.here.symm.trans there)
    rcases Bool.or_eq_true_iff.mp active with check | owner
    · cases p with
      | startCheck mode =>
        obtain ⟨_, _, ⟨set, rfl⟩ | ⟨_, rfl⟩⟩ := work_cases acts.works
        · obtain ⟨i, a, elsewhere, owner⟩ := serving.orderly.marked set
          have other : i ≠ j := by
            rintro rfl
            obtain rfl := Option.some.inj (there.symm.trans elsewhere)
            cases owner
          exact ⟨i, a, acts_other acts other elsewhere, by simp [underWay, owner]⟩
        · exact ⟨j, _, acts_self acts, rfl⟩
      | _ => cases check
    · rcases owner_next acts restarted owner with clear | ⟨i, a, found, isOwner⟩
      · exact absurd clear (serving.clear j p there)
      · exact ⟨i, a, found, by simp [underWay, isOwner]⟩
  · exact ⟨j, r, acts_other acts here there, active⟩

theorem serving_step {m t : Monitor} {a : Action} (serving : Serving m)
    (restarted : restarts m a = true) (calm : undisturbed m a = true) (next : m.step a = some t) :
    Serving t := by
  have orderly := orderly_step serving.orderly restarted next
  cases a with
  | connect =>
    obtain ⟨_, rfl⟩ := connect_iff.mp next
    exact ⟨orderly, serving.mustStop, serving.clear, serving.underWay⟩
  | call c =>
    obtain ⟨_, rfl⟩ := call_iff.mp next
    refine ⟨orderly, serving.mustStop, nowhere_began serving.clear fun clear => ?_, ?_⟩
    · rw [(enter_idle m c).2.1] at clear
      cases clear
    · obtain ⟨k, p, there, active⟩ := serving.underWay
      exact ⟨k, p, began_old there, active⟩
  | act k w =>
    obtain ⟨p, q, n, acts⟩ := act_iff.mp next
    exact ⟨orderly, mustStop_kept serving.mustStop acts calm, clear_kept serving acts calm,
      underWay_kept serving acts restarted⟩

theorem serving_call {m t : Monitor} {c : Call} (orderly : Orderly m)
    (restarted : restarts m (.call c) = true) (starts : startsMonitoring m c = true)
    (free : NoTask m) (next : m.step (.call c) = some t) : Serving t := by
  have tidy := orderly_step orderly restarted next
  have none : m.activations.all (fun p => !owns p) = true := by
    refine List.all_eq_true.mpr fun p mem => ?_
    obtain ⟨k, there⟩ := List.mem_iff_getElem?.mp mem
    simpa using free k p there
  have unset : m.mustStop = false := by simpa [restarts, starts, none] using restarted
  obtain ⟨_, rfl⟩ := call_iff.mp next
  refine ⟨tidy, unset, nowhere_began (fun k p there clear => free k p there ?_) ?_, ?_⟩
  · cases p with
    | task mode pc => cases pc <;> first | rfl | cases clear
    | _ => cases clear
  · simp [(enter_idle m c).2.1]
  · refine ⟨m.activations.length, _, began_new _ _, ?_⟩
    exact Bool.or_eq_true_iff.mpr (.inl starts)

def driven (m : Monitor) (a : Action) : Bool :=
  match a with
  | .act _ _ => undisturbed m a && restarts m a
  | _ => false

def Reaches (m : Monitor) (there : Monitor → Prop) : Prop :=
  ∃ more u, Throughout Monitor.step (fun m a => driven m a = true) m more ∧
    run Monitor.step m more = some u ∧ Serving u ∧ there u

theorem reaches_here {m : Monitor} {there : Monitor → Prop} (serving : Serving m)
    (now : there m) : Reaches m there :=
  ⟨[], m, trivial, rfl, serving, now⟩

theorem reaches_trans {m : Monitor} {between there : Monitor → Prop} (first : Reaches m between)
    (second : ∀ u, Serving u → between u → Reaches u there) : Reaches m there := by
  obtain ⟨early, u, calm, path, serving, now⟩ := first
  obtain ⟨late, v, calm', path', serving', now'⟩ := second u serving now
  refine ⟨early ++ late, v, (throughout_append early m).mpr ⟨calm, fun x reached => ?_⟩,
    run_append_iff.mpr ⟨u, path, path'⟩, serving', now'⟩
  obtain rfl := Option.some.inj (path.symm.trans reached)
  exact calm'

theorem reaches_act {m n : Monitor} {k : Nat} {w : Work} {p q : Place} {there : Monitor → Prop}
    (serving : Serving m) (here : m.activations[k]? = some p) (works : m.work p w = some (n, q))
    (drives : driven m (.act k w) = true)
    (later : ∀ t, Serving t → Acts m k w t p q n → Reaches t there) : Reaches m there := by
  obtain ⟨t, next, acts⟩ := act_next here works
  obtain ⟨calm, restarted⟩ := Bool.and_eq_true_iff.mp drives
  have then' := serving_step serving restarted calm next
  obtain ⟨more, u, driving, path, serving', now⟩ := later t then' acts
  exact ⟨.act k w :: more, u, (throughout_cons next).mpr ⟨drives, driving⟩,
    run_cons_iff.mpr ⟨t, next, path⟩, serving', now⟩

theorem driven_go {m : Monitor} {k : Nat} {p : Place} (here : m.activations[k]? = some p)
    (other : isStopRequest p = false) : driven m (.act k .go) = true := by
  simp [driven, undisturbed, requestsStop, here, other, storesException, restarts]

def OthersStay (m u : Monitor) (k : Nat) : Prop :=
  ∀ (j : Nat) p, j ≠ k → m.activations[j]? = some p → u.activations[j]? = some p

theorem test_waits {m : Monitor} {k : Nat} {mode : Mode} (serving : Serving m)
    (here : m.activations[k]? = some (.task mode .test)) :
    Reaches m fun u => u.activations[k]? = some (.task mode .waiting) ∧ u.locked = false ∧
      OthersStay m u k := by
  have works : m.work (.task mode .test) .go = some (m, .task mode .waiting) := by
    simp [Monitor.work, Monitor.unlessStopped, serving.mustStop]
  refine reaches_act serving here works (driven_go here rfl) fun t serving' acts => ?_
  refine reaches_here serving' ⟨acts_self acts, unlocked_iff.mpr ?_, fun j p other there => ?_⟩
  · exact acts_leaves acts serving.orderly.exclusive rfl (fun holds => by cases holds)
      fun place => by cases place
  · exact acts_other acts other there

theorem checking_waits {m : Monitor} {k : Nat} {mode : Mode} (serving : Serving m)
    (here : m.activations[k]? = some (.task mode .checking)) :
    Reaches m fun u => u.activations[k]? = some (.task mode .waiting) ∧ u.locked = false ∧
      OthersStay m u k := by
  have works : m.work (.task mode .checking) (.check .pinged) = some (m, .task mode .test) := rfl
  refine reaches_act serving here works rfl fun t serving' acts => ?_
  refine reaches_trans (test_waits serving' (acts_self acts)) fun u last ⟨waits, free, stay⟩ => ?_
  exact reaches_here last ⟨waits, free, fun j p other there =>
    stay j p other (acts_other acts other there)⟩

theorem recheck_waits {m : Monitor} {k : Nat} {mode : Mode} (serving : Serving m)
    (here : m.activations[k]? = some (.task mode .recheck)) :
    Reaches m fun u => u.activations[k]? = some (.task mode .waiting) ∧ u.locked = false ∧
      OthersStay m u k := by
  have works : m.work (.task mode .recheck) .go = some (m, .task mode .checking) := by
    simp [Monitor.work, Monitor.unlessStopped, serving.mustStop]
  refine reaches_act serving here works (driven_go here rfl) fun t serving' acts => ?_
  have later := checking_waits serving' (acts_self acts)
  refine reaches_trans later fun u last reached => ?_
  obtain ⟨waits, free, stay⟩ := reached
  exact reaches_here last ⟨waits, free, fun j p other there =>
    stay j p other (acts_other acts other there)⟩

theorem mutex_freed {m : Monitor} {k : Nat} {p : Place} (serving : Serving m)
    (here : m.activations[k]? = some p) (outside : p.holdsMutex = false) :
    Reaches m fun u => u.activations[k]? = some p ∧ u.locked = false := by
  cases locked : m.locked with
  | false => exact reaches_here serving ⟨here, locked⟩
  | true =>
    obtain ⟨i, r, there, holds⟩ := locked_iff.mp locked
    have other : k ≠ i := by
      rintro rfl
      obtain rfl := Option.some.inj (here.symm.trans there)
      rw [outside] at holds
      cases holds
    cases r with
    | task mode pc =>
      cases pc with
      | test =>
        refine reaches_trans (test_waits serving there) fun u last ⟨_, free, stay⟩ => ?_
        exact reaches_here last ⟨stay k p other here, free⟩
      | checking =>
        refine reaches_trans (checking_waits serving there) fun u last ⟨_, free, stay⟩ => ?_
        exact reaches_here last ⟨stay k p other here, free⟩
      | recheck =>
        refine reaches_trans (recheck_waits serving there) fun u last ⟨_, free, stay⟩ => ?_
        exact reaches_here last ⟨stay k p other here, free⟩
      | clear => exact absurd rfl (serving.clear i _ there)
      | unlock =>
        have works : m.work (.task mode .unlock) .go = some (m, mode.afterTask) := rfl
        refine reaches_act serving there works (driven_go there rfl) fun t serving' acts => ?_
        refine reaches_here serving' ⟨acts_other acts other here, unlocked_iff.mpr ?_⟩
        refine acts_leaves acts serving.orderly.exclusive rfl ?_ fun place => by cases place
        cases mode <;> simp [Mode.afterTask, Place.holdsMutex]
      | _ => cases holds
    | _ => cases holds

def Waits (m : Monitor) : Prop :=
  ∃ (k : Nat) (mode : Mode), m.activations[k]? = some (.task mode .waiting) ∧ m.locked = false

theorem waiting_waits {m : Monitor} {k : Nat} {mode : Mode} (serving : Serving m)
    (here : m.activations[k]? = some (.task mode .waiting)) : Reaches m Waits :=
  reaches_trans (mutex_freed serving here rfl) fun _ last now =>
    reaches_here last ⟨k, mode, now⟩

theorem lock_waits {m : Monitor} {k : Nat} {mode : Mode} (serving : Serving m)
    (here : m.activations[k]? = some (.task mode .lock)) : Reaches m Waits := by
  refine reaches_trans (mutex_freed serving here rfl) fun u serving' freed => ?_
  obtain ⟨there, free⟩ := freed
  have works : u.work (.task mode .lock) .go = some (u, .task mode .test) := by
    simp [Monitor.work, free]
  refine reaches_act serving' there works (driven_go there rfl) fun t serving'' acts => ?_
  refine reaches_trans (test_waits serving'' (acts_self acts)) fun v last reached => ?_
  obtain ⟨waits, free, _⟩ := reached
  exact reaches_here last ⟨k, mode, waits, free⟩

theorem reset_waits {m : Monitor} {k : Nat} {mode : Mode} (serving : Serving m)
    (here : m.activations[k]? = some (.task mode .reset)) : Reaches m Waits := by
  have works : m.work (.task mode .reset) .go =
      some ({ m with exception := none }, .task mode .lock) := rfl
  refine reaches_act serving here works (driven_go here rfl) fun t serving' acts => ?_
  exact lock_waits serving' (acts_self acts)

theorem spawning_waits {m : Monitor} {k : Nat} (serving : Serving m)
    (here : m.activations[k]? = some .spawning) : Reaches m Waits := by
  refine reaches_act (w := .spawn true) serving here rfl rfl fun t serving' acts => ?_
  exact reset_waits serving' (acts_spawned acts rfl)

theorem owner_waits {m : Monitor} {k : Nat} {p : Place} (serving : Serving m)
    (here : m.activations[k]? = some p) (owner : owns p = true) : Reaches m Waits := by
  cases p with
  | startSet mode =>
    have works : m.work (.startSet mode) .go =
        some ({ m with isMonitoring := true }, mode.launch) := rfl
    refine reaches_act serving here works (driven_go here rfl) fun t serving' acts => ?_
    cases mode with
    | joinable => exact spawning_waits serving' (acts_self acts)
    | blocking => exact reset_waits serving' (acts_self acts)
  | spawning => exact spawning_waits serving here
  | task mode pc =>
    cases pc with
    | reset => exact reset_waits serving here
    | lock => exact lock_waits serving here
    | waiting => exact waiting_waits serving here
    | test =>
      refine reaches_trans (test_waits serving here) fun u last ⟨waits, free, _⟩ => ?_
      exact reaches_here last ⟨k, mode, waits, free⟩
    | recheck =>
      refine reaches_trans (recheck_waits serving here) fun u last ⟨waits, free, _⟩ => ?_
      exact reaches_here last ⟨k, mode, waits, free⟩
    | checking =>
      refine reaches_trans (checking_waits serving here) fun u last ⟨waits, free, _⟩ => ?_
      exact reaches_here last ⟨k, mode, waits, free⟩
    | clear => exact absurd rfl (serving.clear k _ here)
    | unlock => cases owner
  | _ => cases owner

theorem serving_waits {m : Monitor} (serving : Serving m) : Reaches m Waits := by
  obtain ⟨k, p, here, active⟩ := serving.underWay
  rcases Bool.or_eq_true_iff.mp active with check | owner
  · cases p with
    | startCheck mode =>
      cases set : m.isMonitoring with
      | true =>
        obtain ⟨j, r, there, owner⟩ := serving.orderly.marked set
        exact owner_waits serving there owner
      | false =>
        have works : m.work (.startCheck mode) .go = some (m, .startSet mode) := by
          simp [Monitor.work, set]
        refine reaches_act serving here works (driven_go here rfl) fun t serving' acts => ?_
        exact owner_waits serving' (acts_self acts) rfl
    | _ => cases check
  · exact owner_waits serving here owner

/-- A task can wait and then make its check, with no call, no stop and no stored exception. -/
def ChecksAfterWait (m : Monitor) : Prop :=
  ∃ first k mode u v,
    Throughout Monitor.step (fun m a => driven m a = true) m (first ++ [.act k .go, .act k .go]) ∧
    run Monitor.step m first = some u ∧ u.activations[k]? = some (.task mode .waiting) ∧
    run Monitor.step u [.act k .go, .act k .go] = some v ∧
    v.activations[k]? = some (.task mode .checking)

theorem serving_checks {m : Monitor} (serving : Serving m) : ChecksAfterWait m := by
  obtain ⟨first, u, driving, path, serving', k, mode, waits, free⟩ := serving_waits serving
  have wakes : u.work (.task mode .waiting) .go = some (u, .task mode .recheck) := by
    simp [Monitor.work, free]
  have drives := driven_go waits rfl
  obtain ⟨t, next, acts⟩ := act_next waits wakes
  obtain ⟨calm, restarted⟩ := Bool.and_eq_true_iff.mp drives
  have serving'' := serving_step serving' restarted calm next
  have goesOn : t.work (.task mode .recheck) .go = some (t, .task mode .checking) := by
    simp [Monitor.work, Monitor.unlessStopped, serving''.mustStop]
  obtain ⟨v, last, acts'⟩ := act_next (acts_self acts) goesOn
  refine ⟨first, k, mode, u, v, (throughout_append first m).mpr ⟨driving, fun x reached => ?_⟩,
    path, waits, run_cons_iff.mpr ⟨t, next, run_cons_iff.mpr ⟨v, last, rfl⟩⟩, acts_self acts'⟩
  obtain rfl := Option.some.inj (path.symm.trans reached)
  refine (throughout_cons next).mpr ⟨drives, (throughout_cons last).mpr ⟨?_, trivial⟩⟩
  exact driven_go (acts_self acts) rfl

/-- A task goes on in its loop, in the order of the loop, whoever takes the step. -/
def StaysInLoop (m : Monitor) : Prop :=
  ∀ (k : Nat) mode pc a t, m.activations[k]? = some (.task mode pc) →
    owns (.task mode pc) = true → undisturbed m a = true → restarts m a = true →
    m.step a = some t → ∃ pc', t.activations[k]? = some (.task mode pc') ∧
      owns (.task mode pc') = true ∧ (pc' = pc ∨ Leads (.task mode pc) (.task mode pc'))

theorem serving_stays {m : Monitor} (serving : Serving m) : StaysInLoop m := by
  intro k mode pc a t here owner calm restarted next
  cases a with
  | connect =>
    obtain ⟨_, rfl⟩ := connect_iff.mp next
    exact ⟨pc, here, owner, .inl rfl⟩
  | call c =>
    obtain ⟨_, rfl⟩ := call_iff.mp next
    exact ⟨pc, began_old here, owner, .inl rfl⟩
  | act j w =>
    obtain ⟨p, q, n, acts⟩ := act_iff.mp next
    by_cases same : k = j
    · subst same
      obtain rfl := Option.some.inj (acts.here.symm.trans here)
      have there := acts_self acts
      have leads := work_leads acts.works
      have order := leads
      cases leads with
      | clears => exact absurd rfl (serving.clear k _ here)
      | terminates | resumes => cases owner
      | _ => exact ⟨_, there, rfl, .inr order⟩
    · exact ⟨pc, acts_other acts same here, owner, .inl rfl⟩

theorem obliged_snoc {start m : Monitor} {past : List Action} {a : Action}
    (reached : run Monitor.step start past = some m) (obliged : Obliged start (past ++ [a])) :
    (∃ c, a = .call c ∧ startsMonitoring m c = true ∧ NoTask m) ∨
      Obliged start past ∧ undisturbed m a = true := by
  obtain ⟨before, c, after, x, split, path, starts, free, calm⟩ := obliged
  rcases snoc_split split with ⟨rfl, rfl, rfl⟩ | ⟨rest, rfl, rfl⟩
  · obtain rfl := Option.some.inj (path.symm.trans reached)
    exact .inl ⟨c, rfl, starts, free⟩
  · obtain ⟨y, path', later⟩ := run_append_iff.mp reached
    obtain rfl := Option.some.inj (path.symm.trans path')
    rw [← List.cons_append, throughout_snoc a later] at calm
    exact .inr ⟨⟨before, c, rest, x, rfl, path, starts, free, calm.1⟩, calm.2⟩

structure Duty (start m : Monitor) (past : List Action) : Prop where
  reached : run Monitor.step start past = some m
  orderly : Orderly m
  serving : Obliged start past → Serving m

theorem duty_step {start m t : Monitor} {past : List Action} {a : Action} (duty : Duty start m past)
    (restarted : restarts m a = true) (next : m.step a = some t) : Duty start t (past ++ [a]) := by
  refine ⟨run_snoc_iff.mpr ⟨m, duty.reached, next⟩, orderly_step duty.orderly restarted next, ?_⟩
  intro obliged
  rcases obliged_snoc duty.reached obliged with ⟨c, rfl, starts, free⟩ | ⟨before, calm⟩
  · exact serving_call duty.orderly restarted starts free next
  · exact serving_step (duty.serving before) restarted calm next

theorem duty_create (pongTimeoutMs : Int) :
    Duty (.create pongTimeoutMs) (.create pongTimeoutMs) [] where
  reached := rfl
  orderly := orderly_create pongTimeoutMs
  serving obliged := by
    obtain ⟨before, c, after, x, split, _⟩ := obliged
    simp at split

def isChecking : Place → Bool
  | .task _ .checking => true
  | _ => false

/-- A stop was requested, and no task is past its second test of the flag. -/
structure Stopped (m : Monitor) : Prop where
  mustStop : m.mustStop = true
  checking : Nowhere (fun p => isChecking p = true) m.activations

theorem stopped_step {m t : Monitor} {a : Action} (stopped : Stopped m)
    (next : m.step a = some t) : Stopped t := by
  cases a with
  | connect =>
    obtain ⟨_, rfl⟩ := connect_iff.mp next
    exact ⟨stopped.mustStop, stopped.checking⟩
  | call c =>
    obtain ⟨_, rfl⟩ := call_iff.mp next
    refine ⟨stopped.mustStop, nowhere_began stopped.checking ?_⟩
    rcases enter_cases m c with ⟨_, place, _⟩ | ⟨_, place, _⟩ | ⟨_, _, place, _⟩ <;> rw [place] <;>
      simp [isChecking]
  | act k w =>
    obtain ⟨p, q, n, acts⟩ := act_iff.mp next
    constructor
    · rw [(acts_writes acts).mustStop]
      cases p <;> first | exact stopped.mustStop | rfl
    · refine acts_nowhere acts stopped.checking (fun checks => ?_) (by simp [isChecking])
      cases work_leads acts.works with
      | checks mode =>
        obtain ⟨_, _, place⟩ := work_cases acts.works
        rw [Monitor.unlessStopped, stopped.mustStop] at place
        cases place
      | _ => cases checks

theorem never_checks {m t : Monitor} {more : List Action} (requested : m.mustStop = true)
    (free : NoTask m) (path : run Monitor.step m more = some t) (k : Nat) (mode : Mode) :
    t.activations[k]? ≠ some (.task mode .checking) := by
  have stopped : Stopped m := by
    refine ⟨requested, fun k p there checks => free k p there ?_⟩
    cases p with
    | task mode pc => cases pc <;> first | rfl | cases checks
    | _ => cases checks
  intro there
  exact (run_keeps Stopped (fun _ _ _ stopped next => stopped_step stopped next) stopped
    path).checking k _ there rfl

theorem never_checks_after_wait {m : Monitor} (requested : m.mustStop = true) (free : NoTask m) :
    ¬ChecksAfterWait m := by
  rintro ⟨first, k, mode, u, v, _, path, _, path', checks⟩
  exact never_checks requested free (run_append_iff.mpr ⟨u, path, path'⟩) k mode checks

/-- In a run where each call that finds no task running finds must_stop_monitoring_ false, and
    threads can be created, such a call makes the task wait and check until a stop is requested
    or an exception is stored. With must_stop_monitoring_ set, no call makes it check again. -/
theorem monitoring_restarts (pongTimeoutMs : Int) (trace : List Action) (m : Monitor)
    (path : run Monitor.step (.create pongTimeoutMs) trace = some m)
    (guarded : Throughout Monitor.step (fun m a => restarts m a = true)
      (.create pongTimeoutMs) trace) :
    (Obliged (.create pongTimeoutMs) trace → ChecksAfterWait m ∧ StaysInLoop m) ∧
    (m.mustStop = true → NoTask m → ¬ChecksAfterWait m) := by
  constructor
  · intro obliged
    have duty := run_traced (fun m past => Duty (.create pongTimeoutMs) m past)
      (fun _ _ _ _ duty guard next => duty_step duty guard next) trace _ [] m
      (duty_create pongTimeoutMs) guarded path
    have serving := duty.serving obliged
    exact ⟨serving_checks serving, serving_stays serving⟩
  · exact never_checks_after_wait

def failedOnce : List Action :=
  [.connect, .call (.start .blocking 15), .act 0 .go, .act 0 .go, .act 0 .go, .act 0 .go,
    .act 0 .go, .act 0 .go, .act 0 .go, .act 0 (.check (.raised .fatalError)), .act 0 .go,
    .act 0 .go, .act 0 .go, .act 0 .go]

def startedAfterFailure : List Action :=
  [.act 1 .go, .act 1 .go, .act 1 (.spawn true), .act 1 .go, .act 2 .go, .act 2 .go, .act 2 .go]

theorem noTask_of_all {m : Monitor} (none : (m.activations.all fun p => !owns p) = true) :
    NoTask m := by
  intro k p there owner
  have outside := List.all_eq_true.mp none p (List.mem_of_getElem? there)
  simp [owner] at outside

theorem restarted_checks :
    ∃ m, run Monitor.step (.create 5000)
        (failedOnce ++ .call (.start .joinable 15) :: startedAfterFailure) = some m ∧
      m.activations[0]? = some (.ended .monitorConnection (.rethrew ⟨.fatalError, 0⟩)) ∧
      ChecksAfterWait m := by
  refine ⟨_, rfl, rfl, ((monitoring_restarts 5000
    (failedOnce ++ .call (.start .joinable 15) :: startedAfterFailure) _ rfl (by decide)).1 ?_).1⟩
  exact ⟨failedOnce, .start .joinable 15, startedAfterFailure, _, rfl, rfl, rfl,
    noTask_of_all (by decide), by decide⟩

def startedTrace : List Action :=
  [.connect, .call (.start .joinable 15), .act 0 .go, .act 0 .go, .act 0 (.spawn true),
    .act 0 .go, .act 1 .go, .act 1 .go, .act 1 .go]

def stoppedOnce : List Action :=
  startedTrace ++ [.call (.stop .stopMonitoring), .act 2 .go, .act 2 .go, .act 2 .go, .act 1 .go,
    .act 1 .go, .act 1 .go, .act 1 .go, .act 2 .go, .act 2 .go]

/-- The second thread leaves its loop at the first test, without a wait. -/
def startedAgain : List Action :=
  [.act 3 .go, .act 3 .go, .act 3 (.spawn true), .act 3 .go, .act 4 .go, .act 4 .go, .act 4 .go,
    .act 4 .go, .act 4 .go]

theorem restarted_never_checks :
    ∃ m, run Monitor.step (.create 5000)
        (stoppedOnce ++ .call (.start .joinable 15) :: startedAgain) = some m ∧
      Obliged (.create 5000) (stoppedOnce ++ .call (.start .joinable 15) :: startedAgain) ∧
      m.activations[4]? = some (.ended .monitorTask .returned) ∧ ¬ChecksAfterWait m := by
  refine ⟨_, rfl, ?_, rfl, never_checks_after_wait rfl (noTask_of_all (by decide))⟩
  exact ⟨stoppedOnce, .start .joinable 15, startedAgain, _, rfl, rfl, rfl,
    noTask_of_all (by decide), by decide⟩

end PcpRestart
