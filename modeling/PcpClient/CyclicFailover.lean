import PcpClient.Transitions
import Mathlib.Data.Nat.ModEq
import Mathlib.Data.List.Basic

/-!
Trying n targets in cyclic order. A log of attempts and of the advances between them is in
order when a target is left only for a failure of it, and then for the next one.
-/
namespace PcpFailover
open PcpTransitions

inductive Event where
  | attempt (target : Nat)
  | opened
  | failed
  | advanced
  deriving DecidableEq, Repr

inductive Phase where
  | fresh | trying | up | failed | next
  deriving DecidableEq, Repr

structure Position where
  phase : Phase
  target : Nat
  deriving DecidableEq, Repr

def Position.start : Position := ⟨.fresh, 0⟩

/-- The target of the attempt that comes next. -/
def Position.expected (n : Nat) (p : Position) : Nat :=
  if p.phase = .failed then (p.target + 1) % n else p.target

def Position.step (n : Nat) (p : Position) : Event → Option Position
  | .attempt t => if p.phase ≠ .trying ∧ t = p.expected n then some ⟨.trying, t⟩ else none
  | .opened => if p.phase = .trying then some ⟨.up, p.target⟩ else none
  | .failed => if p.phase = .trying then some ⟨.failed, p.target⟩ else none
  | .advanced => if p.phase = .failed then some ⟨.next, p.expected n⟩ else none

def outcomes (log : List Event) : List Event := log.filter (· ≠ .advanced)

def failedAttempt (t : Nat) : List Event := [.attempt t, .failed]

/-- The order of failover for n targets. The latest events before an advance are an attempt
    and its failure, so nothing was opened and no advance was made since. -/
structure InOrder (n : Nat) (log : List Event) : Prop where
  advances : ∀ before after : List Event, log = before ++ .advanced :: after →
    ∃ earlier t, before = earlier ++ failedAttempt t
  kept : ∀ (before after : List Event) (t u : Nat),
    outcomes log = before ++ [.attempt t, .opened, .attempt u] ++ after → u = t
  moved : ∀ (before after : List Event) (t u : Nat),
    outcomes log = before ++ (failedAttempt t ++ [.attempt u]) ++ after → u = (t + 1) % n
  covered : ∀ (before after : List Event) (block : List Nat) (u : Nat),
    outcomes log = before ++ (block.flatMap failedAttempt ++ [.attempt u]) ++ after →
      block.length = n → ∀ i < n, i ∈ block

theorem position_cases {n : Nat} {p q : Position} {e : Event} : p.step n e = some q →
    match e with
    | .attempt t => p.phase ≠ .trying ∧ t = p.expected n ∧ q = ⟨.trying, t⟩
    | .opened => p.phase = .trying ∧ q = ⟨.up, p.target⟩
    | .failed => p.phase = .trying ∧ q = ⟨.failed, p.target⟩
    | .advanced => p.phase = .failed ∧ q = ⟨.next, p.expected n⟩ := by
  intro next
  cases e with
  | attempt t =>
    obtain ⟨⟨other, same⟩, there⟩ := Option.ite_none_right_eq_some.mp next
    exact ⟨other, same, (Option.some.inj there).symm⟩
  | _ =>
    obtain ⟨enabled, there⟩ := Option.ite_none_right_eq_some.mp next
    exact ⟨enabled, (Option.some.inj there).symm⟩

/-! The latest events, by the phase they leave. -/

def EndsIn (log : List Event) (p : Position) : Prop :=
  match p.phase with
  | .fresh => log = []
  | .trying => ∃ earlier, log = earlier ++ [.attempt p.target]
  | .up => ∃ earlier, log = earlier ++ [.attempt p.target, .opened]
  | .failed => ∃ earlier, log = earlier ++ failedAttempt p.target
  | .next => ∃ earlier, log = earlier ++ [.advanced]

theorem endsIn_step {n : Nat} {p q : Position} {log : List Event} {e : Event}
    (ends : EndsIn log p) (next : p.step n e = some q) : EndsIn (log ++ [e]) q := by
  have moved := position_cases next
  cases e with
  | attempt t => obtain ⟨_, _, rfl⟩ := moved; exact ⟨log, rfl⟩
  | advanced => obtain ⟨_, rfl⟩ := moved; exact ⟨log, rfl⟩
  | opened =>
    obtain ⟨trying, rfl⟩ := moved
    simp only [EndsIn, trying] at ends
    obtain ⟨earlier, rfl⟩ := ends
    exact ⟨earlier, by simp⟩
  | failed =>
    obtain ⟨trying, rfl⟩ := moved
    simp only [EndsIn, trying] at ends
    obtain ⟨earlier, rfl⟩ := ends
    exact ⟨earlier, by simp [failedAttempt]⟩

theorem endsIn_run {n : Nat} {p : Position} {log : List Event}
    (path : run (Position.step n) .start log = some p) : EndsIn log p := by
  have ends := run_traced (fun p past => EndsIn past p)
    (fun _ _ _ _ held _ next => endsIn_step held next) log Position.start [] p rfl
    (throughout_trivial log _) path
  simpa using ends

/-! The log without its advances is accepted too. -/

def Position.Similar (n : Nat) (p q : Position) : Prop :=
  p.expected n = q.expected n ∧ (p.phase = .trying ↔ q.phase = .trying)

theorem similar_step {n : Nat} {p p' q : Position} {e : Event} (similar : p.Similar n p')
    (other : e ≠ .advanced) (next : p.step n e = some q) :
    ∃ q', p'.step n e = some q' ∧ q.Similar n q' := by
  obtain ⟨same, trying⟩ := similar
  have moved := position_cases next
  cases e with
  | advanced => exact absurd rfl other
  | attempt t =>
    obtain ⟨outside, isExpected, rfl⟩ := moved
    refine ⟨⟨.trying, t⟩, if_pos ⟨fun inside => outside (trying.mpr inside), ?_⟩, rfl, Iff.rfl⟩
    rw [isExpected, same]
  | opened | failed =>
    obtain ⟨inside, rfl⟩ := moved
    have inside' := trying.mp inside
    have target : p.target = p'.target := by
      simpa [Position.expected, inside, inside'] using same
    refine ⟨_, if_pos inside', ?_⟩
    rw [target]
    exact ⟨rfl, Iff.rfl⟩

theorem similar_advanced {n : Nat} {p p' q : Position} (similar : p.Similar n p')
    (next : p.step n .advanced = some q) : q.Similar n p' := by
  obtain ⟨same, trying⟩ := similar
  obtain ⟨failed, rfl⟩ := position_cases next
  refine ⟨same, ?_⟩
  rw [← trying]
  simp [failed]

theorem outcomes_accepted {n : Nat} (log : List Event) :
    ∀ {p p' q : Position}, p.Similar n p' → run (Position.step n) p log = some q →
      ∃ q', run (Position.step n) p' (outcomes log) = some q' ∧ q.Similar n q' := by
  induction log with
  | nil =>
    intro p p' q similar path
    obtain rfl := Option.some.inj path
    exact ⟨p', rfl, similar⟩
  | cons e rest ih =>
    intro p p' q similar path
    obtain ⟨m, next, later⟩ := run_cons_iff.mp path
    by_cases advance : e = .advanced
    · subst advance
      obtain ⟨q', path', similar'⟩ := ih (similar_advanced similar next) later
      exact ⟨q', by simpa [outcomes] using path', similar'⟩
    · obtain ⟨m', next', between⟩ := similar_step similar advance next
      obtain ⟨q', path', similar'⟩ := ih between later
      refine ⟨q', ?_, similar'⟩
      have shown : outcomes (e :: rest) = e :: outcomes rest := by simp [outcomes, advance]
      rw [shown]
      exact run_cons_iff.mpr ⟨m', next', path'⟩

/-! Rotation over the targets. -/

theorem expected_lt_step {n : Nat} {p q : Position} {e : Event} (positive : 0 < n)
    (small : p.target < n) (next : p.step n e = some q) : q.target < n := by
  have expected : p.expected n < n := by
    unfold Position.expected
    split
    · exact Nat.mod_lt _ positive
    · exact small
  have moved := position_cases next
  cases e with
  | attempt t => obtain ⟨_, rfl, rfl⟩ := moved; exact expected
  | opened | failed => obtain ⟨_, rfl⟩ := moved; exact small
  | advanced => obtain ⟨_, rfl⟩ := moved; exact expected

theorem expected_lt {n : Nat} {p : Position} {log : List Event} (positive : 0 < n)
    (path : run (Position.step n) .start log = some p) : p.expected n < n := by
  have small : p.target < n := run_keeps (fun p => p.target < n)
    (fun _ _ _ held next => expected_lt_step positive held next) positive path
  unfold Position.expected
  split
  · exact Nat.mod_lt _ positive
  · exact small

/-- Failed attempts in a row go through the targets from the expected one on. -/
theorem block_rotates {n : Nat} (block : List Nat) :
    ∀ {p q : Position}, p.expected n < n →
      run (Position.step n) p (block.flatMap failedAttempt) = some q →
        ∀ j (inside : j < block.length), block[j] = (p.expected n + j) % n := by
  induction block with
  | nil => intro p q _ _ j inside; cases inside
  | cons t rest ih =>
    intro p q small path j inside
    obtain ⟨m, next, tail⟩ := run_cons_iff.mp path
    obtain ⟨m', next', later⟩ := run_cons_iff.mp tail
    obtain ⟨_, rfl, rfl⟩ := position_cases next
    obtain ⟨_, rfl⟩ := position_cases next'
    cases j with
    | zero => simp [Nat.mod_eq_of_lt small]
    | succ j =>
      have positive : 0 < n := by omega
      have rotated := ih (p := ⟨.failed, p.expected n⟩) (by
        simp only [Position.expected, if_true]
        exact Nat.mod_lt _ positive) later j (by simpa using inside)
      rw [List.getElem_cons_succ, rotated]
      simp only [Position.expected, if_true, Nat.mod_add_mod]
      congr 1
      omega

theorem rotation_covers {n first : Nat} {block : List Nat} (whole : block.length = n)
    (rotates : ∀ j (inside : j < block.length), block[j] = (first + j) % n)
    (small : first < n) : ∀ i < n, i ∈ block := by
  intro i below
  have inside : (i + n - first) % n < block.length := whole ▸ Nat.mod_lt _ (by omega)
  have there : block[(i + n - first) % n] = i := by
    rw [rotates _ inside, Nat.add_mod_mod, show first + (i + n - first) = i + n by omega,
      Nat.add_mod_right, Nat.mod_eq_of_lt below]
  exact there ▸ List.getElem_mem inside

theorem accepted_inOrder {n : Nat} {p : Position} {log : List Event} (positive : 0 < n)
    (path : run (Position.step n) .start log = some p) : InOrder n log := by
  have alike : Position.Similar n .start .start := ⟨rfl, Iff.rfl⟩
  obtain ⟨shown, accepted, _⟩ := outcomes_accepted log alike path
  have follows : ∀ before events after, outcomes log = before ++ events ++ after →
      ∃ m m', run (Position.step n) .start before = some m ∧
        run (Position.step n) m events = some m' := by
    intro before events after split
    rw [split] at accepted
    obtain ⟨m', early, _⟩ := run_append_iff.mp accepted
    obtain ⟨m, first, second⟩ := run_append_iff.mp early
    exact ⟨m, m', first, second⟩
  refine ⟨?_, ?_, ?_, ?_⟩
  · rintro before after rfl
    obtain ⟨m, early, late⟩ := run_append_iff.mp path
    obtain ⟨m', next, _⟩ := run_cons_iff.mp late
    have ends := endsIn_run early
    simp only [EndsIn, (position_cases next).1] at ends
    obtain ⟨earlier, rfl⟩ := ends
    exact ⟨earlier, m.target, rfl⟩
  · intro before after t u split
    obtain ⟨m, m', _, events⟩ := follows before _ after split
    obtain ⟨m₁, tries, events⟩ := run_cons_iff.mp events
    obtain ⟨m₂, opens, events⟩ := run_cons_iff.mp events
    obtain ⟨m₃, again, _⟩ := run_cons_iff.mp events
    obtain ⟨_, _, rfl⟩ := position_cases tries
    obtain ⟨_, rfl⟩ := position_cases opens
    obtain ⟨_, same, _⟩ := position_cases again
    simpa [Position.expected] using same
  · intro before after t u split
    obtain ⟨m, m', _, events⟩ := follows before _ after split
    obtain ⟨m₁, tries, events⟩ := run_cons_iff.mp events
    obtain ⟨m₂, fails, events⟩ := run_cons_iff.mp events
    obtain ⟨m₃, again, _⟩ := run_cons_iff.mp events
    obtain ⟨_, _, rfl⟩ := position_cases tries
    obtain ⟨_, rfl⟩ := position_cases fails
    obtain ⟨_, same, _⟩ := position_cases again
    simpa [Position.expected] using same
  · intro before after block u split whole
    obtain ⟨m, m', first, events⟩ := follows before _ after split
    obtain ⟨m₁, fails, _⟩ := run_append_iff.mp events
    have small := expected_lt positive first
    exact rotation_covers whole (block_rotates block small fails) small

/-! What puts a log out of order. -/

theorem advance_out_of_order {n : Nat} {p : Position} {log : List Event}
    (path : run (Position.step n) .start log = some p) (opened : p.phase = .up) :
    ¬InOrder n (log ++ [.advanced]) := by
  intro order
  obtain ⟨earlier, t, split⟩ := order.advances log [] rfl
  have ends := endsIn_run path
  simp only [EndsIn, opened] at ends
  obtain ⟨early, same⟩ := ends
  have last := congrArg List.getLast? (same.symm.trans split)
  simp [failedAttempt] at last

theorem outcomes_append (first second : List Event) :
    outcomes (first ++ second) = outcomes first ++ outcomes second := List.filter_append _ _

theorem attempt_out_of_order {n t : Nat} {p : Position} {log : List Event} (later : List Event)
    (path : run (Position.step n) .start log = some p) (failed : p.phase = .failed)
    (silent : outcomes later = []) (other : t ≠ p.expected n) :
    ¬InOrder n (log ++ later ++ [.attempt t]) := by
  intro order
  have ends := endsIn_run path
  simp only [EndsIn, failed] at ends
  obtain ⟨early, rfl⟩ := ends
  refine other ((order.moved (outcomes early) [] p.target t ?_).trans ?_)
  · simp only [outcomes_append, silent]
    simp [outcomes, failedAttempt]
  · simp [Position.expected, failed]

end PcpFailover
