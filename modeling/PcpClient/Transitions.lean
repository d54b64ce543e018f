import Mathlib.Data.List.Basic

/-!
Guarded, executable transition systems. A step is `none` where the action is not
enabled, so one definition serves replay by evaluation and proof by induction.
A property of "every state of every run" is a property of every `run`, since the
prefixes of a run are runs.
-/
namespace PcpTransitions
variable {State Other Action : Type}

def run (step : State → Action → Option State) : State → List Action → Option State
  | s, [] => some s
  | s, a :: rest => (step s a).bind fun t => run step t rest

/-- Every step the actions take from `s` meets a condition on the state before it. -/
def Throughout (step : State → Action → Option State) (guard : State → Action → Prop) :
    State → List Action → Prop
  | _, [] => True
  | s, a :: rest => guard s a ∧ ∀ t, step s a = some t → Throughout step guard t rest

instance Throughout.decidable (step : State → Action → Option State)
    (guard : State → Action → Prop) [∀ s a, Decidable (guard s a)] :
    ∀ s actions, Decidable (Throughout step guard s actions)
  | _, [] => .isTrue trivial
  | s, a :: rest =>
    match reached : step s a with
    | none => decidable_of_iff (guard s a) (by simp [Throughout, reached])
    | some t =>
      have := Throughout.decidable step guard t rest
      decidable_of_iff (guard s a ∧ Throughout step guard t rest) (by simp [Throughout, reached])

/-- Two systems that take every action together; an action disabled in one is disabled. -/
def sync (left : State → Action → Option State) (right : Other → Action → Option Other)
    (p : State × Other) (a : Action) : Option (State × Other) :=
  (left p.1 a).bind fun s => (right p.2 a).map fun t => (s, t)

@[simp] theorem run_nil (step : State → Action → Option State) (s : State) :
    run step s [] = some s := rfl

theorem run_cons_iff {step : State → Action → Option State} {s t : State} {a : Action}
    {rest : List Action} :
    run step s (a :: rest) = some t ↔ ∃ m, step s a = some m ∧ run step m rest = some t := by
  simp only [run, Option.bind_eq_some_iff]

theorem run_append {step : State → Action → Option State} (first : List Action) :
    ∀ (s : State) (second : List Action),
      run step s (first ++ second) = (run step s first).bind fun m => run step m second := by
  induction first with
  | nil => intro s second; rfl
  | cons a rest ih =>
    intro s second
    simp only [List.cons_append, run, Option.bind_assoc, ih]

theorem run_append_iff {step : State → Action → Option State} {s t : State}
    {first second : List Action} :
    run step s (first ++ second) = some t ↔
      ∃ m, run step s first = some m ∧ run step m second = some t := by
  simp only [run_append, Option.bind_eq_some_iff]

theorem run_snoc_iff {step : State → Action → Option State} {s t : State}
    {first : List Action} {a : Action} :
    run step s (first ++ [a]) = some t ↔ ∃ m, run step s first = some m ∧ step m a = some t := by
  simp only [run_append_iff, run_cons_iff, run_nil, Option.some.injEq, exists_eq_right]

theorem throughout_cons {step : State → Action → Option State} {guard : State → Action → Prop}
    {s t : State} {a : Action} {rest : List Action} (next : step s a = some t) :
    Throughout step guard s (a :: rest) ↔ guard s a ∧ Throughout step guard t rest := by
  simp [Throughout, next]

theorem throughout_append {step : State → Action → Option State}
    {guard : State → Action → Prop} {second : List Action} (first : List Action) :
    ∀ s, Throughout step guard s (first ++ second) ↔ Throughout step guard s first ∧
      ∀ m, run step s first = some m → Throughout step guard m second := by
  induction first with
  | nil => intro s; simp [Throughout]
  | cons a rest ih =>
    intro s
    simp only [List.cons_append, Throughout, ih, run_cons_iff]
    constructor
    · rintro ⟨now, later⟩
      exact ⟨⟨now, fun t next => (later t next).1⟩,
        fun m ⟨t, next, path⟩ => (later t next).2 m path⟩
    · rintro ⟨⟨now, early⟩, later⟩
      exact ⟨now, fun t next => ⟨early t next, fun m path => later m ⟨t, next, path⟩⟩⟩

/-- A condition that fails somewhere fails first at some step of the run. -/
theorem throughout_of_prefixes {step : State → Action → Option State}
    {guard : State → Action → Prop} (actions : List Action) :
    ∀ s, (∀ before a after m, actions = before ++ a :: after →
      run step s before = some m → guard m a) → Throughout step guard s actions := by
  induction actions with
  | nil => intro s _; trivial
  | cons a rest ih =>
    intro s every
    refine ⟨every [] a rest s rfl rfl, fun t next => ih t ?_⟩
    intro before b after m split path
    exact every (a :: before) b after m (by simp [split]) (run_cons_iff.mpr ⟨t, next, path⟩)

theorem throughout_mono {step : State → Action → Option State}
    {guard weaker : State → Action → Prop} (implies : ∀ s a, guard s a → weaker s a)
    (actions : List Action) :
    ∀ s, Throughout step guard s actions → Throughout step weaker s actions := by
  induction actions with
  | nil => intro s _; trivial
  | cons a rest ih =>
    intro s every
    exact ⟨implies s a every.1, fun t next => ih t (every.2 t next)⟩

/-- The invariant rule for runs whose steps all meet a condition. The invariant may
    speak of the actions taken so far. -/
theorem run_traced {step : State → Action → Option State} {guard : State → Action → Prop}
    (invariant : State → List Action → Prop)
    (keeps : ∀ s past a t, invariant s past → guard s a → step s a = some t →
      invariant t (past ++ [a]))
    (actions : List Action) :
    ∀ s past t, invariant s past → Throughout step guard s actions →
      run step s actions = some t → invariant t (past ++ actions) := by
  induction actions with
  | nil =>
    intro s past t holds _ path
    simp only [run_nil, Option.some.injEq] at path
    subst path
    simpa using holds
  | cons a rest ih =>
    intro s past t holds every path
    obtain ⟨m, next, tail⟩ := run_cons_iff.mp path
    have moved := keeps s past a m holds every.1 next
    simpa using ih m (past ++ [a]) t moved (every.2 m next) tail

theorem throughout_of_forall {step : State → Action → Option State} {guard : Action → Prop}
    (actions : List Action) :
    ∀ s, (∀ a ∈ actions, guard a) → Throughout step (fun _ a => guard a) s actions := by
  induction actions with
  | nil => intro s _; trivial
  | cons a rest ih =>
    intro s every
    exact ⟨every a (by simp), fun t _ => ih t fun b mem => every b (by simp [mem])⟩

theorem throughout_and {step : State → Action → Option State}
    {first second : State → Action → Prop} (actions : List Action) :
    ∀ s, Throughout step first s actions → Throughout step second s actions →
      Throughout step (fun s a => first s a ∧ second s a) s actions := by
  induction actions with
  | nil => intro s _ _; trivial
  | cons a rest ih =>
    intro s one two
    exact ⟨⟨one.1, two.1⟩, fun t next => ih t (one.2 t next) (two.2 t next)⟩

theorem throughout_snoc {step : State → Action → Option State} {guard : State → Action → Prop}
    {s m : State} {past : List Action} (a : Action) (path : run step s past = some m) :
    Throughout step guard s (past ++ [a]) ↔ Throughout step guard s past ∧ guard m a := by
  rw [throughout_append]
  constructor
  · rintro ⟨early, late⟩
    exact ⟨early, (late m path).1⟩
  · rintro ⟨early, now⟩
    refine ⟨early, fun t reached => ?_⟩
    obtain rfl : m = t := Option.some.inj (path.symm.trans reached)
    exact ⟨now, fun _ _ => trivial⟩

theorem run_among {step : State → Action → Option State} (kind : Action → Prop)
    (invariant : State → Prop)
    (keeps : ∀ s a t, invariant s → kind a → step s a = some t → invariant t)
    {actions : List Action} {s t : State} (holds : invariant s)
    (every : ∀ a ∈ actions, kind a) (path : run step s actions = some t) : invariant t :=
  run_traced (fun s _ => invariant s) (fun s _ a t h g n => keeps s a t h g n)
    actions s [] t holds (throughout_of_forall actions s every) path

theorem run_under {step : State → Action → Option State} (guard : State → Action → Prop)
    (invariant : State → Prop)
    (keeps : ∀ s a t, invariant s → guard s a → step s a = some t → invariant t)
    {actions : List Action} {s t : State} (holds : invariant s)
    (every : Throughout step guard s actions) (path : run step s actions = some t) :
    invariant t :=
  run_traced (fun s _ => invariant s) (fun s _ a t h g n => keeps s a t h g n)
    actions s [] t holds every path

theorem throughout_trivial {step : State → Action → Option State} (actions : List Action) :
    ∀ s, Throughout step (fun _ _ => True) s actions := by
  induction actions with
  | nil => intro s; trivial
  | cons a rest ih => intro s; exact ⟨trivial, fun t _ => ih t⟩

theorem run_keeps {step : State → Action → Option State} (invariant : State → Prop)
    (keeps : ∀ s a t, invariant s → step s a = some t → invariant t)
    {actions : List Action} {s t : State} (holds : invariant s)
    (path : run step s actions = some t) : invariant t :=
  run_under (fun _ _ => True) invariant (fun s a t h _ n => keeps s a t h n) holds
    (throughout_trivial actions s) path

theorem sync_some_iff {left : State → Action → Option State}
    {right : Other → Action → Option Other} {p q : State × Other} {a : Action} :
    sync left right p a = some q ↔ left p.1 a = some q.1 ∧ right p.2 a = some q.2 := by
  simp only [sync, Option.bind_eq_some_iff, Option.map_eq_some_iff, Prod.ext_iff]
  constructor
  · rintro ⟨s, hs, t, ht, rfl, rfl⟩
    exact ⟨hs, ht⟩
  · rintro ⟨hs, ht⟩
    exact ⟨q.1, hs, q.2, ht, rfl, rfl⟩

theorem run_sync_iff {left : State → Action → Option State}
    {right : Other → Action → Option Other} (actions : List Action) : ∀ {p q : State × Other},
      run (sync left right) p actions = some q ↔
        run left p.1 actions = some q.1 ∧ run right p.2 actions = some q.2 := by
  induction actions with
  | nil => intro p q; simp [Prod.ext_iff]
  | cons a rest ih =>
    intro p q
    simp only [run_cons_iff, sync_some_iff]
    constructor
    · rintro ⟨m, ⟨one, two⟩, path⟩
      exact ⟨⟨m.1, one, (ih.mp path).1⟩, ⟨m.2, two, (ih.mp path).2⟩⟩
    · rintro ⟨⟨s, one, first⟩, ⟨t, two, second⟩⟩
      exact ⟨(s, t), ⟨one, two⟩, ih.mpr ⟨first, second⟩⟩

/-! Histories: the events of a run so far, the oldest first. -/

variable {Event : Type}

theorem snoc_split {history before after : List Event} {latest e : Event}
    (split : history ++ [latest] = before ++ e :: after) :
    (before = history ∧ e = latest ∧ after = []) ∨
      ∃ rest, history = before ++ e :: rest ∧ after = rest ++ [latest] := by
  rcases List.eq_nil_or_concat after with rfl | ⟨rest, last, rfl⟩
  · obtain ⟨rfl, same⟩ := List.append_inj' split rfl
    exact .inl ⟨rfl, (List.singleton_inj.mp same).symm, rfl⟩
  · rw [List.concat_eq_append, ← List.cons_append, ← List.append_assoc] at split
    obtain ⟨rfl, same⟩ := List.append_inj' split rfl
    obtain rfl := List.singleton_inj.mp same
    exact .inr ⟨rest, rfl, List.concat_eq_append⟩

def Follows (history : List Event) (first second : Event) : Prop :=
  ∃ before after, history = before ++ after ∧ first ∈ before ∧ second ∈ after

theorem follows_snoc_iff {history : List Event} {first second latest : Event} :
    Follows (history ++ [latest]) first second ↔
      Follows history first second ∨ second = latest ∧ first ∈ history := by
  constructor
  · rintro ⟨before, after, split, early, late⟩
    rcases List.eq_nil_or_concat after with rfl | ⟨rest, last, rfl⟩
    · cases late
    · rw [List.concat_eq_append, ← List.append_assoc] at split
      obtain ⟨rfl, same⟩ := List.append_inj' split rfl
      obtain rfl := List.singleton_inj.mp same
      rw [List.concat_eq_append, List.mem_append, List.mem_singleton] at late
      rcases late with late | rfl
      · exact .inl ⟨before, rest, rfl, early, late⟩
      · exact .inr ⟨rfl, List.mem_append_left rest early⟩
  · rintro (⟨before, after, rfl, early, late⟩ | ⟨rfl, early⟩)
    · exact ⟨before, after ++ [latest], by simp, early, List.mem_append_left _ late⟩
    · exact ⟨history, [second], rfl, early, List.mem_singleton.mpr rfl⟩

theorem follows_nil {first second : Event} : ¬Follows [] first second := by
  rintro ⟨before, after, split, early, _⟩
  rw [(List.append_eq_nil_iff.mp split.symm).1] at early
  cases early

end PcpTransitions
