import PcpClient.Transitions

/-!
The potential rule. Each step of a run costs something, and a potential of the state pays for
it; so what a run costs is bounded by the potential it starts with.
-/
namespace PcpTransitions
variable {State Action : Type}

/-- What the steps of a run cost, each at the state in which it is taken. -/
def spent (step : State → Action → Option State) (cost : State → Action → Nat) :
    State → List Action → Nat
  | _, [] => 0
  | s, a :: rest => cost s a + ((step s a).map fun t => spent step cost t rest).getD 0

theorem spent_cons {step : State → Action → Option State} {cost : State → Action → Nat}
    {s t : State} {a : Action} {rest : List Action} (next : step s a = some t) :
    spent step cost s (a :: rest) = cost s a + spent step cost t rest := by
  simp [spent, next]

theorem spent_append {step : State → Action → Option State} {cost : State → Action → Nat}
    (first second : List Action) : ∀ {s m : State}, run step s first = some m →
      spent step cost s (first ++ second) = spent step cost s first + spent step cost m second := by
  induction first with
  | nil =>
    intro s m path
    simp only [run_nil, Option.some.injEq] at path
    subst path
    simp [spent]
  | cons a rest ih =>
    intro s m path
    obtain ⟨t, next, tail⟩ := run_cons_iff.mp path
    rw [List.cons_append, spent_cons next, spent_cons next, ih tail, Nat.add_assoc]

theorem spent_snoc {step : State → Action → Option State} {cost : State → Action → Nat}
    {s m t : State} {first : List Action} {a : Action} (path : run step s first = some m)
    (next : step m a = some t) :
    spent step cost s (first ++ [a]) = spent step cost s first + cost m a := by
  rw [spent_append first [a] path, spent_cons next]
  rfl

theorem spent_countP {step : State → Action → Option State} (counted : Action → Bool)
    (actions : List Action) : ∀ {s t : State}, run step s actions = some t →
      spent step (fun _ a => (counted a).toNat) s actions = actions.countP counted := by
  induction actions with
  | nil => intro s t _; rfl
  | cons a rest ih =>
    intro s t path
    obtain ⟨m, next, tail⟩ := run_cons_iff.mp path
    rw [spent_cons next, ih tail, List.countP_cons]
    cases counted a <;> simp [Nat.add_comm]

/-- The potential rule for runs whose steps all meet a condition. -/
theorem run_paid_under {step : State → Action → Option State} (guard : State → Action → Prop)
    (invariant : State → Prop) (potential : State → Nat) (cost : State → Action → Nat)
    (keeps : ∀ s a t, invariant s → guard s a → step s a = some t → invariant t)
    (pays : ∀ s a t, invariant s → guard s a → step s a = some t →
      potential t + cost s a ≤ potential s)
    (actions : List Action) :
    ∀ s t, invariant s → Throughout step guard s actions → run step s actions = some t →
      potential t + spent step cost s actions ≤ potential s := by
  induction actions with
  | nil =>
    intro s t _ _ path
    simp only [run_nil, Option.some.injEq] at path
    subst path
    exact Nat.le_refl _
  | cons a rest ih =>
    intro s t holds every path
    obtain ⟨m, next, tail⟩ := run_cons_iff.mp path
    have now := pays s a m holds every.1 next
    have later := ih m t (keeps s a m holds every.1 next) (every.2 m next) tail
    rw [spent_cons next]
    omega

theorem run_counted {step : State → Action → Option State} (potential : State → Nat)
    (counted : Action → Bool)
    (pays : ∀ s a t, step s a = some t → potential t + (counted a).toNat ≤ potential s)
    {actions : List Action} {s t : State} (path : run step s actions = some t) :
    potential t + actions.countP counted ≤ potential s := by
  rw [← spent_countP counted actions path]
  exact run_paid_under (fun _ _ => True) (fun _ => True) potential _ (fun _ _ _ _ _ _ => trivial)
    (fun s a t _ _ next => pays s a t next) actions s t trivial (throughout_trivial actions s) path

/-- Where some actions bring a credit with them, the steps of a kind are as many as the credits
    and the first potential allow. -/
theorem run_credited {step : State → Action → Option State} (potential : State → Nat)
    (counted credited : Action → Bool) (credit : Nat)
    (pays : ∀ s a t, step s a = some t →
      potential t + (counted a).toNat ≤ potential s + credit * (credited a).toNat)
    (actions : List Action) : ∀ {s t : State}, run step s actions = some t →
      potential t + actions.countP counted ≤ potential s + credit * actions.countP credited := by
  induction actions with
  | nil =>
    intro s t path
    simp only [run_nil, Option.some.injEq] at path
    subst path
    exact Nat.le_refl _
  | cons a rest ih =>
    intro s t path
    obtain ⟨m, next, tail⟩ := run_cons_iff.mp path
    have now := pays s a m next
    have later := ih tail
    rw [List.countP_cons, List.countP_cons, Nat.mul_add]
    cases own : counted a <;> cases brings : credited a <;> simp [own, brings] at now ⊢ <;> omega

/-- Where every round costs something and leads to another one, no number bounds the cost. -/
theorem run_unbounded {step : State → Action → Option State} (kind : Action → Prop)
    (cost : State → Action → Nat) (ready : State → Prop)
    (round : ∀ s, ready s → ∃ actions t, run step s actions = some t ∧ ready t ∧
      (∀ a ∈ actions, kind a) ∧ 0 < spent step cost s actions)
    (count : Nat) : ∀ s, ready s → ∃ actions t, run step s actions = some t ∧ ready t ∧
      (∀ a ∈ actions, kind a) ∧ count ≤ spent step cost s actions := by
  induction count with
  | zero =>
    intro s now
    exact ⟨[], s, rfl, now, by simp, Nat.zero_le _⟩
  | succ count ih =>
    intro s now
    obtain ⟨first, m, path, again, each, some⟩ := round s now
    obtain ⟨later, t, rest, still, every, enough⟩ := ih m again
    refine ⟨first ++ later, t, run_append_iff.mpr ⟨m, path, rest⟩, still, ?_, ?_⟩
    · intro a mem
      exact (List.mem_append.mp mem).elim (each a) (every a)
    · rw [spent_append first later path]
      omega

end PcpTransitions
