import PcpClient.Transitions

/-!
Forward simulation between two guarded transition systems. A step of the concrete
system is matched by any number of steps of the abstract one, none included, and what
an observer sees of the two is the same.
-/
namespace PcpTransitions
variable {Concrete Abstract Action Label Seen : Type}
  {step : Concrete → Action → Option Concrete}
  {abstractStep : Abstract → Label → Option Abstract}
  {seen : Action → List Seen} {shown : Label → List Seen}

/-- The abstract run that stands for a concrete step or run. -/
def MatchedBy (abstractStep : Abstract → Label → Option Abstract) (shown : Label → List Seen)
    (related : Abstract → Prop) (start : Abstract) (observed : List Seen) : Prop :=
  ∃ labels final, run abstractStep start labels = some final ∧
    labels.flatMap shown = observed ∧ related final

theorem matchedBy_stutter {related : Abstract → Prop} {start : Abstract} (holds : related start) :
    MatchedBy abstractStep shown related start [] :=
  ⟨[], start, rfl, rfl, holds⟩

theorem matchedBy_step {related : Abstract → Prop} {start final : Abstract} {label : Label}
    (taken : abstractStep start label = some final) (holds : related final) :
    MatchedBy abstractStep shown related start (shown label) :=
  ⟨[label], final, run_cons_iff.mpr ⟨final, taken, rfl⟩, by simp, holds⟩

theorem matchedBy_append {middle related : Abstract → Prop} {start : Abstract}
    {first second : List Seen} (one : MatchedBy abstractStep shown middle start first)
    (two : ∀ m, middle m → MatchedBy abstractStep shown related m second) :
    MatchedBy abstractStep shown related start (first ++ second) := by
  obtain ⟨early, m, path, look, holds⟩ := one
  obtain ⟨late, final, path', look', holds'⟩ := two m holds
  refine ⟨early ++ late, final, run_append_iff.mpr ⟨m, path, path'⟩, ?_, holds'⟩
  rw [List.flatMap_append, look, look']

/-- The simulation rule for runs whose steps all meet a condition. -/
theorem run_matched_under (guard : Concrete → Action → Prop)
    (related : Concrete → Abstract → Prop)
    (simulates : ∀ c b a d, related c b → guard c a → step c a = some d →
      MatchedBy abstractStep shown (related d) b (seen a))
    (actions : List Action) :
    ∀ c b d, related c b → Throughout step guard c actions → run step c actions = some d →
      MatchedBy abstractStep shown (related d) b (actions.flatMap seen) := by
  induction actions with
  | nil =>
    intro c b d holds _ path
    simp only [run_nil, Option.some.injEq] at path
    subst path
    exact matchedBy_stutter holds
  | cons a rest ih =>
    intro c b d holds every path
    obtain ⟨m, next, tail⟩ := run_cons_iff.mp path
    rw [List.flatMap_cons]
    exact matchedBy_append (simulates c b a m holds every.1 next)
      fun m' holds' => ih m m' d holds' (every.2 m next) tail

theorem run_matched (related : Concrete → Abstract → Prop)
    (simulates : ∀ c b a d, related c b → step c a = some d →
      MatchedBy abstractStep shown (related d) b (seen a))
    {actions : List Action} {c d : Concrete} {b : Abstract} (holds : related c b)
    (path : run step c actions = some d) :
    MatchedBy abstractStep shown (related d) b (actions.flatMap seen) :=
  run_matched_under (fun _ _ => True) related (fun c b a d r _ n => simulates c b a d r n)
    actions c b d holds (throughout_trivial actions c) path

end PcpTransitions
