import PcpClient.BoundedSteps
import PcpClient.ErrorPolicy
import PcpClient.MonitoringFailures

/-!
What follows once a stop of the monitoring has been requested: each task leaves its loop, and
all calls come to their ends, those that are made later too.
-/
namespace PcpMonitoringStop
open PcpThreads PcpTransitions PcpMonitor PcpThreadJoin PcpErrorPolicy PcpMonitoringFailures

/-- The steps that are left to an activation when the task finds must_stop_monitoring_ set. -/
def toEnd : Place → Nat
  | .startCheck _ => 9
  | .startSet _ => 8
  | .spawning => 2
  | .assigning _ => 1
  | .task _ .reset => 7
  | .task _ .lock | .task _ .waiting | .task _ .checking => 6
  | .task _ .test | .task _ .recheck => 5
  | .task _ .clear => 4
  | .task _ .unlock => 3
  | .readMustStop => 2
  | .readException => 1
  | .stopCheck _ => 5
  | .stopRequest _ => 4
  | .stopJoinable _ => 3
  | .stopJoin _ _ => 2
  | .stopRead _ => 1
  | .ended _ _ => 0

/-- Only a check that is already under way is completed. -/
def checksLeft : Place → Nat
  | .task _ .checking => 1
  | _ => 0

def stepOf (k : Nat) : Action → Bool
  | .act j _ => j = k
  | _ => false

def checkOf (k : Nat) : Action → Bool
  | .act j (.check _) => j = k
  | _ => false

def isCheck : Work → Bool
  | .check _ => true
  | _ => false

theorem toEnd_bound (p : Place) : toEnd p ≤ 9 := by
  cases p with
  | task mode pc => cases pc <;> simp [toEnd]
  | _ => simp [toEnd]

theorem toEnd_work {m n : Monitor} {p q : Place} {w : Work} (stop : m.mustStop = true)
    (works : m.work p w = some (n, q)) :
    toEnd q < toEnd p ∧ checksLeft q + (isCheck w).toNat ≤ checksLeft p := by
  have did := work_cases works
  have next : ∀ pc, m.unlessStopped pc = .clear := fun pc => if_pos stop
  cases p with
  | startCheck mode =>
    rcases did with ⟨rfl, _, ⟨_, rfl⟩ | ⟨_, rfl⟩⟩ <;> simp [toEnd, checksLeft, isCheck]
  | startSet mode =>
    obtain ⟨rfl, _, rfl⟩ := did
    cases mode <;> simp [Mode.launch, toEnd, checksLeft, isCheck]
  | spawning =>
    rcases did with ⟨rfl, _, rfl⟩ | ⟨rfl, _, rfl⟩ <;> simp [toEnd, checksLeft, isCheck]
  | task mode pc =>
    cases pc with
    | test | recheck =>
      obtain ⟨rfl, _, rfl⟩ := did
      simp [next, toEnd, checksLeft, isCheck]
    | checking =>
      obtain ⟨result, rfl, _, rfl⟩ := did
      split <;> simp [toEnd, checksLeft, isCheck]
    | unlock =>
      obtain ⟨rfl, _, rfl⟩ := did
      cases mode <;> simp [Mode.afterTask, toEnd, checksLeft, isCheck]
    | lock | waiting =>
      obtain ⟨rfl, _, _, rfl⟩ := did
      simp [toEnd, checksLeft, isCheck]
    | reset | clear =>
      obtain ⟨rfl, _, rfl⟩ := did
      simp [toEnd, checksLeft, isCheck]
  | readMustStop =>
    obtain ⟨rfl, _, rfl⟩ := did
    rw [if_pos stop]
    simp [toEnd, checksLeft, isCheck]
  | stopCheck stopper =>
    rcases did with ⟨rfl, _, ⟨_, rfl⟩ | ⟨_, rfl⟩⟩ <;> simp [toEnd, checksLeft, isCheck]
  | stopJoinable stopper =>
    obtain ⟨rfl, _, rfl⟩ := did
    cases m.monitorThread <;> simp [Stopper.next, toEnd, checksLeft, isCheck]
  | stopJoin stopper thread =>
    obtain ⟨rfl, _, _, rfl⟩ := did
    simp [toEnd, checksLeft, isCheck]
  | assigning thread | readException | stopRequest stopper | stopRead stopper =>
    obtain ⟨rfl, _, rfl⟩ := did
    simp [toEnd, checksLeft, isCheck]
  | ended role outcome => exact absurd did id

def leftTo (left : Place → Nat) (most : Nat) (k : Nat) (m : Monitor) : Nat :=
  (m.activations[k]?.map left).getD most

theorem leftTo_began {left : Place → Nat} {most k : Nat} {places : List Place} {p : Place}
    (bound : left p ≤ most) :
    ((places ++ [p])[k]?.map left).getD most ≤ (places[k]?.map left).getD most := by
  cases there : places[k]? with
  | some q => rw [began_old there]
  | none =>
    cases now : (places ++ [p])[k]? with
    | none => exact Nat.le_refl _
    | some q =>
      rcases began_cases now with ⟨_, rfl⟩ | before
      · exact bound
      · cases there.symm.trans before

theorem leftTo_acts {left : Place → Nat} {most : Nat} (bound : left (.task .joinable .reset) ≤ most)
    {m t n : Monitor} {j : Nat} {w : Work} {p q : Place} {cost : Nat} (acts : Acts m j w t p q n)
    (pays : left q + cost ≤ left p) (k : Nat) :
    leftTo left most k t + (if j = k then cost else 0) ≤ leftTo left most k m := by
  unfold leftTo
  by_cases same : j = k
  · subst same
    rw [acts_self acts, acts.here, if_pos rfl]
    exact pays
  · rw [if_neg same, Nat.add_zero]
    cases there : m.activations[k]? with
    | some r => rw [acts_other acts (Ne.symm same) there]
    | none =>
      cases now : t.activations[k]? with
      | none => exact Nat.le_refl _
      | some r =>
        rcases acts_entry acts now with ⟨rfl, _⟩ | ⟨_, before⟩ | ⟨_, _, _, rfl⟩
        · exact absurd rfl same
        · cases there.symm.trans before
        · exact bound

theorem enter_left (m : Monitor) (c : Call) :
    toEnd (m.enter c) ≤ 9 ∧ checksLeft (m.enter c) ≤ 0 := by
  rcases enter_cases m c with ⟨_, place, _⟩ | ⟨_, place, _⟩ | ⟨_, _, place, _⟩ <;> rw [place] <;>
    simp [toEnd, checksLeft]

section potentials
variable {m t : Monitor} {a : Action} (stop : m.mustStop = true) (next : m.step a = some t)
include stop next

theorem mustStop_kept : t.mustStop = true := by
  cases a with
  | connect => obtain ⟨_, rfl⟩ := connect_iff.mp next; exact stop
  | call c => obtain ⟨_, rfl⟩ := call_iff.mp next; exact stop
  | act k w =>
    obtain ⟨p, q, n, acts⟩ := act_iff.mp next
    exact mustStop_stays acts stop

theorem steps_paid (k : Nat) : leftTo toEnd 9 k t + (stepOf k a).toNat ≤ leftTo toEnd 9 k m := by
  cases a with
  | connect => obtain ⟨_, rfl⟩ := connect_iff.mp next; exact Nat.le_refl _
  | call c => obtain ⟨_, rfl⟩ := call_iff.mp next; exact leftTo_began (enter_left m c).1
  | act j w =>
    obtain ⟨p, q, n, acts⟩ := act_iff.mp next
    have less : toEnd q + 1 ≤ toEnd p := (toEnd_work stop acts.works).1
    have paid := leftTo_acts (by decide : toEnd (.task .joinable .reset) ≤ 9) acts less k
    by_cases same : j = k
    · simpa [stepOf, same] using paid
    · simpa [stepOf, same] using paid

theorem checks_paid (k : Nat) :
    leftTo checksLeft 0 k t + (checkOf k a).toNat ≤ leftTo checksLeft 0 k m := by
  cases a with
  | connect => obtain ⟨_, rfl⟩ := connect_iff.mp next; exact Nat.le_refl _
  | call c => obtain ⟨_, rfl⟩ := call_iff.mp next; exact leftTo_began (enter_left m c).2
  | act j w =>
    obtain ⟨p, q, n, acts⟩ := act_iff.mp next
    have less := (toEnd_work stop acts.works).2
    have paid := leftTo_acts (by decide : checksLeft (.task .joinable .reset) ≤ 0) acts less k
    by_cases same : j = k
    · cases w <;> simpa [checkOf, isCheck, same] using paid
    · cases w <;> simpa [checkOf, isCheck, same] using paid

end potentials

/-! That something can always be done. -/

theorem holder_enabled {m : Monitor} {p : Place} (holds : p.holdsMutex = true) :
    ∃ w n q, m.work p w = some (n, q) := by
  cases p with
  | task mode pc =>
    cases pc with
    | test | recheck | clear | unlock => exact ⟨.go, _, _, rfl⟩
    | checking => exact ⟨.check .pinged, _, _, rfl⟩
    | reset | lock | waiting => cases holds
  | _ => cases holds

theorem place_enabled {m : Monitor} {p : Place} (active : p.isEnded = false) :
    (∃ w n q, m.work p w = some (n, q)) ∨ m.locked = true ∨
      ∃ stopper thread, p = .stopJoin stopper thread := by
  cases p with
  | spawning => exact .inl ⟨.spawn true, _, _, rfl⟩
  | task mode pc =>
    cases pc with
    | lock | waiting =>
      cases locked : m.locked with
      | true => exact .inr (.inl rfl)
      | false => exact .inl ⟨.go, _, _, by simp only [Monitor.work, locked]; rfl⟩
    | checking => exact .inl ⟨.check .pinged, _, _, rfl⟩
    | _ => exact .inl ⟨.go, _, _, rfl⟩
  | stopJoin stopper thread => exact .inr (.inr ⟨stopper, thread, rfl⟩)
  | ended role outcome => cases active
  | _ => exact .inl ⟨.go, _, _, rfl⟩

theorem locked_enabled {m : Monitor} (locked : m.locked = true) :
    ∃ k w t, m.step (.act k w) = some t := by
  obtain ⟨p, mem, holds⟩ := List.any_eq_true.mp locked
  obtain ⟨k, there⟩ := List.mem_iff_getElem?.mp mem
  obtain ⟨w, n, q, works⟩ := holder_enabled (m := m) holds
  obtain ⟨t, next, _⟩ := act_next there works
  exact ⟨k, w, t, next⟩

/-- While an activation has not ended, one of them can take a step: a join waits for a thread,
    which waits for nobody but the holder of the mutex. -/
theorem some_enabled {m : Monitor} (handled : Handled m) {k : Nat} {p : Place}
    (there : m.activations[k]? = some p) (active : p.isEnded = false) :
    ∃ j w t, m.step (.act j w) = some t := by
  rcases place_enabled (m := m) active with ⟨w, n, q, works⟩ | locked | ⟨stopper, thread, rfl⟩
  · obtain ⟨t, next, _⟩ := act_next there works
    exact ⟨k, w, t, next⟩
  · exact locked_enabled locked
  · obtain ⟨r, found, isThread⟩ := handled.joining k stopper thread there
    cases r with
    | ended role outcome =>
      have works : m.work (.stopJoin stopper thread) .go =
          some ({ m with monitorThread := none }, .stopRead stopper) := by
        simp [Monitor.work, terminated_of_ended found]
      obtain ⟨t, next, _⟩ := act_next there works
      exact ⟨k, .go, t, next⟩
    | task mode pc =>
      rcases place_enabled (m := m) (p := .task mode pc) rfl with ⟨w, n, q, works⟩ | locked | join
      · obtain ⟨t, next, _⟩ := act_next found works
        exact ⟨thread, w, t, next⟩
      · exact locked_enabled locked
      · obtain ⟨_, _, other⟩ := join
        cases other
    | _ => cases isThread

theorem leftTo_checks (k : Nat) (m : Monitor) : leftTo checksLeft 0 k m ≤ 1 ∧
    (leftTo checksLeft 0 k m ≠ 0 → ∃ mode, m.activations[k]? = some (.task mode .checking)) := by
  unfold leftTo
  cases m.activations[k]? with
  | none => simp
  | some p =>
    cases p with
    | task mode pc => cases pc <;> simp [checksLeft]
    | _ => simp [checksLeft]

/-- Once a stop has been requested, every task, every stopMonitoring() and every other call takes
    nine steps at most, no connect() or ping() is begun, and nothing blocks for good. -/
theorem stop_drains (pongTimeoutMs : Int) {earlier more : List Action} {m t : Monitor}
    (reached : run Monitor.step (.create pongTimeoutMs) earlier = some m)
    (requested : m.mustStop = true) (path : run Monitor.step m more = some t) :
    (∀ k, more.countP (stepOf k) ≤ 9 ∧ more.countP (checkOf k) ≤ 1 ∧
      (more.countP (checkOf k) ≠ 0 → ∃ mode, m.activations[k]? = some (.task mode .checking))) ∧
      ∀ (k : Nat) (p : Place), t.activations[k]? = some p → p.isEnded = false →
        ∃ j w u, t.step (.act j w) = some u := by
  constructor
  · intro k
    have bound : leftTo toEnd 9 k m ≤ 9 := by
      unfold leftTo
      cases m.activations[k]? with
      | none => exact Nat.le_refl _
      | some p => exact toEnd_bound p
    have steps := run_paid_under (fun _ _ => True) (fun m => m.mustStop = true) (leftTo toEnd 9 k)
      (fun _ a => (stepOf k a).toNat) (fun _ _ _ stop _ next => mustStop_kept stop next)
      (fun _ _ _ stop _ next => steps_paid stop next k) more m t requested
      (throughout_trivial more m) path
    have checks := run_paid_under (fun _ _ => True) (fun m => m.mustStop = true)
      (leftTo checksLeft 0 k) (fun _ a => (checkOf k a).toNat)
      (fun _ _ _ stop _ next => mustStop_kept stop next)
      (fun _ _ _ stop _ next => checks_paid stop next k) more m t requested
      (throughout_trivial more m) path
    rw [spent_countP _ more path] at steps checks
    obtain ⟨one, checking⟩ := leftTo_checks k m
    exact ⟨by omega, by omega, fun some => checking (by omega)⟩
  · intro k p there active
    have handled := run_keeps Handled (fun _ _ _ handled next => handled_step handled next)
      (handled_create pongTimeoutMs) reached
    have now := run_keeps Handled (fun _ _ _ handled next => handled_step handled next) handled
      path
    exact some_enabled now there active

def stopRequested : List Action :=
  [.connect, .call (.start .joinable 10), .act 0 .go, .act 0 .go, .act 0 (.spawn true), .act 0 .go,
    .act 1 .go, .act 1 .go, .act 1 .go, .act 1 .go, .act 1 .go, .call (.stop .stopMonitoring),
    .act 2 .go, .act 2 .go]

def threadEnds : List Action :=
  [.act 1 (.check .pinged), .act 1 .go, .act 2 .go, .act 1 .go, .act 1 .go]

theorem requested_stop_drains : ∃ m t,
    run Monitor.step (.create 5000) stopRequested = some m ∧ m.mustStop = true ∧
      run Monitor.step m threadEnds = some t ∧ threadEnds.countP (stepOf 1) ≤ 9 ∧
        ∃ j w u, t.step (.act j w) = some u := by
  have reached : run Monitor.step (.create 5000) stopRequested = some _ := rfl
  have drains := @stop_drains 5000 stopRequested threadEnds _ _ reached rfl rfl
  exact ⟨_, _, reached, rfl, rfl, (drains.1 1).1, drains.2 2 _ rfl rfl⟩

end PcpMonitoringStop
