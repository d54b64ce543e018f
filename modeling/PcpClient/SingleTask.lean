import PcpClient.MonitorMachine

/-!
is_monitoring_ as the mark of the one Monitoring Task: a call that finds it false sets it in
a later step, so two calls may find it false.
-/
namespace PcpSingleTask
open PcpThreads PcpTransitions PcpMonitor

/-- Between reading is_monitoring_ as false and writing it false again. -/
def owns : Place → Bool
  | .startSet _ | .spawning => true
  | .task _ .unlock => false
  | .task _ _ => true
  | _ => false

def inLoop : TaskPc → Bool
  | .test | .waiting | .recheck | .checking => true
  | _ => false

def InLoop (m : Monitor) (k : Nat) : Prop :=
  ∃ mode pc, m.activations[k]? = some (.task mode pc) ∧ inLoop pc = true

def isStartCheck : Place → Bool
  | .startCheck _ => true
  | _ => false

def isStartSet : Place → Bool
  | .startSet _ => true
  | _ => false

/-- A call reads is_monitoring_ as false when another one has done so and not yet set it. -/
def checksTogether (m : Monitor) : Action → Bool
  | .act k .go =>
    (m.activations[k]?).any isStartCheck && !m.isMonitoring && m.activations.any isStartSet
  | _ => false

structure Single (m : Monitor) : Prop where
  owner : AtMostOne (fun p => owns p = true) m.activations
  marked : ∀ (k : Nat) p, m.activations[k]? = some p → owns p = true → isStartSet p = false →
    m.isMonitoring = true

theorem checks_alone {m : Monitor} {k : Nat} {mode : Mode} (single : Single m)
    (here : m.activations[k]? = some (.startCheck mode)) (read : m.isMonitoring = false)
    (guarded : checksTogether m (.act k .go) = false) :
    Nowhere (fun p => owns p = true) m.activations := by
  intro j p there owner
  cases place : isStartSet p with
  | false =>
    have marked := single.marked j p there owner place
    rw [read] at marked
    cases marked
  | true =>
    have together : m.activations.any isStartSet = true :=
      List.any_eq_true.mpr ⟨p, List.mem_of_getElem? there, place⟩
    simp [checksTogether, here, isStartCheck, read, together] at guarded

theorem owner_before {m n : Monitor} {p q : Place} {w : Work} (works : m.work p w = some (n, q))
    (owner : owns q = true) :
    owns p = true ∨ m.isMonitoring = false ∧ w = .go ∧ ∃ mode, p = .startCheck mode := by
  cases work_leads works with
  | starts mode =>
    obtain ⟨rfl, _, ⟨_, returns⟩ | ⟨read, _⟩⟩ := work_cases works
    · cases returns
    · exact .inr ⟨read, rfl, mode, rfl⟩
  | _ => first | exact .inl rfl | cases owner

theorem isMonitoring_cases {m t : Monitor} {p : Place} {w : Work} (writes : Writes m p w t) :
    isStartSet p = true ∧ t.isMonitoring = true ∨
      (∃ mode, p = .task mode .clear) ∧ t.isMonitoring = false ∨
      t.isMonitoring = m.isMonitoring := by
  have after := writes.isMonitoring
  cases p with
  | startSet mode => exact .inl ⟨rfl, after⟩
  | task mode pc =>
    cases pc with
    | clear => exact .inr (.inl ⟨⟨mode, rfl⟩, after⟩)
    | _ => exact .inr (.inr after)
  | _ => exact .inr (.inr after)

theorem single_marked {m t n : Monitor} {k : Nat} {w : Work} {p q : Place} (single : Single m)
    (acts : Acts m k w t p q n) {j : Nat} {r : Place} (there : t.activations[j]? = some r)
    (isOwner : owns r = true) (notSet : isStartSet r = false) : t.isMonitoring = true := by
  have did := work_cases acts.works
  rcases isMonitoring_cases (acts_writes acts) with ⟨_, set⟩ | ⟨⟨mode, rfl⟩, _⟩ | same
  · exact set
  · obtain ⟨_, _, rfl⟩ := did
    rcases acts_entry acts there with ⟨_, rfl⟩ | ⟨other, before⟩ | ⟨place, _⟩
    · cases isOwner
    · exact absurd (single.owner _ _ _ _ before acts.here isOwner rfl) other
    · cases place
  · rw [same]
    rcases acts_entry acts there with ⟨_, rfl⟩ | ⟨_, before⟩ | ⟨rfl, _, _, rfl⟩
    · rcases owner_before acts.works isOwner with was | ⟨read, _, mode, rfl⟩
      · cases place : isStartSet p with
        | false => exact single.marked k p acts.here was place
        | true =>
          cases p with
          | startSet mode => exact same.symm.trans (acts_writes acts).isMonitoring
          | _ => cases place
      · rcases did with ⟨_, _, ⟨set, _⟩ | ⟨_, rfl⟩⟩
        · exact set
        · cases notSet
    · exact single.marked j r before isOwner notSet
    · exact single.marked k .spawning acts.here rfl rfl

theorem single_act {m t : Monitor} {k : Nat} {w : Work} (single : Single m)
    (guarded : checksTogether m (.act k w) = false) (next : m.step (.act k w) = some t) :
    Single t := by
  obtain ⟨p, q, n, acts⟩ := act_iff.mp next
  have owner : AtMostOne (fun p => owns p = true) t.activations := by
    refine acts_atMostOne acts single.owner (fun comes => ?_) ?_
    · rcases owner_before acts.works comes with was | ⟨read, rfl, mode, rfl⟩
      · exact .inl was
      · exact .inr (checks_alone single acts.here read guarded)
    · intro place _
      subst place
      rcases work_cases acts.works with ⟨_, _, rfl⟩ | ⟨_, _, rfl⟩ <;> exact ⟨rfl, by simp [owns]⟩
  exact ⟨owner, fun j r there isOwner notSet => single_marked single acts there isOwner notSet⟩

theorem single_step {m t : Monitor} {a : Action} (single : Single m)
    (guarded : checksTogether m a = false) (next : m.step a = some t) : Single t := by
  cases a with
  | connect =>
    obtain ⟨_, rfl⟩ := connect_iff.mp next
    exact ⟨single.owner, single.marked⟩
  | call c =>
    obtain ⟨_, rfl⟩ := call_iff.mp next
    have outside : owns (m.enter c) = false := by
      rcases enter_cases m c with ⟨_, place, _⟩ | ⟨_, place, _⟩ | ⟨_, _, place, _⟩ <;>
        rw [place] <;> rfl
    constructor
    · exact atMostOne_began single.owner fun owner => by simp [outside] at owner
    · intro j r there isOwner notSet
      rcases began_cases there with ⟨_, rfl⟩ | before
      · rw [outside] at isOwner
        cases isOwner
      · exact single.marked j r before isOwner notSet
  | act k w => exact single_act single guarded next

theorem single_create (pongTimeoutMs : Int) : Single (.create pongTimeoutMs) where
  owner _ _ _ _ first := by cases first
  marked _ _ there := by cases there

theorem inLoop_owns {pc : TaskPc} (mode : Mode) (inside : inLoop pc = true) :
    owns (.task mode pc) = true := by
  cases pc <;> first | rfl | cases inside

/-- In a run where no call reads is_monitoring_ as false between the check and the update of
    another one, at most one activation of startMonitorTask() is inside its loop, and a call
    that makes its check while another activation owns the task returns without starting one. -/
theorem at_most_one_task (pongTimeoutMs : Int) (trace : List Action) (m : Monitor)
    (path : run Monitor.step (.create pongTimeoutMs) trace = some m)
    (guarded : Throughout Monitor.step (fun m a => checksTogether m a = false)
      (.create pongTimeoutMs) trace) :
    (∀ i j, InLoop m i → InLoop m j → i = j) ∧
    ∀ (k j : Nat) mode p t, m.activations[k]? = some (.startCheck mode) →
      m.activations[j]? = some p → owns p = true → checksTogether m (.act k .go) = false →
      m.step (.act k .go) = some t →
      t.activations = m.activations.set k (.ended mode.caller .returned) := by
  have single := run_under _ Single (fun _ _ _ single guard next => single_step single guard next)
    (single_create pongTimeoutMs) guarded path
  constructor
  · rintro i j ⟨mode, pc, first, one⟩ ⟨other, pc', second, two⟩
    exact single.owner i j _ _ first second (inLoop_owns mode one) (inLoop_owns other two)
  · intro k j mode p t here there owner guard next
    obtain ⟨_, q, n, acts⟩ := act_iff.mp next
    obtain rfl := Option.some.inj (acts.here.symm.trans here)
    obtain ⟨_, rfl, ⟨_, rfl⟩ | ⟨read, _⟩⟩ := work_cases acts.works
    · rw [acts.result]
    · exact absurd owner (checks_alone single here read guard j p there)

def secondStart : List Action :=
  [.connect, .call (.start .joinable 15), .act 0 .go, .act 0 .go, .act 0 (.spawn true),
    .act 1 .go, .act 1 .go, .act 1 .go, .call (.start .joinable 15), .act 2 .go]

theorem second_start_returns :
    ∃ m, run Monitor.step (.create 5000) secondStart = some m ∧ InLoop m 1 ∧
      m.activations[2]? = some (.ended .startMonitoring .returned) ∧
      ∀ i j, InLoop m i → InLoop m j → i = j :=
  ⟨_, rfl, ⟨.joinable, .waiting, rfl, rfl⟩, rfl,
    (at_most_one_task 5000 secondStart _ rfl (by decide)).1⟩

def twoStarts : List Action :=
  [.connect, .call (.start .joinable 15), .call (.start .joinable 15), .act 0 .go, .act 1 .go,
    .act 0 .go, .act 1 .go, .act 0 (.spawn true), .act 1 (.spawn true), .act 2 .go, .act 2 .go,
    .act 2 .go, .act 3 .go, .act 3 .go, .act 3 .go]

theorem two_tasks_in_loop :
    ∃ m, run Monitor.step (.create 5000) twoStarts = some m ∧ InLoop m 2 ∧ InLoop m 3 :=
  ⟨_, rfl, ⟨.joinable, .waiting, rfl, rfl⟩, ⟨.joinable, .waiting, rfl, rfl⟩⟩

end PcpSingleTask
