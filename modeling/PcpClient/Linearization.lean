import PcpClient.Refinement
import PcpClient.Threads

/-!
Concurrent calls of a shared object, and what it means that each takes effect at one
instant between its invocation and its response. An atomic object answers each call by
one step of its own; a history of an atomic object is linearizable, and so is a history
of any system that an atomic object simulates.
-/
namespace PcpLinearization
open PcpTransitions PcpThreads

variable {Object Op Reply : Type}

inductive Event (Op Reply : Type) where
  | invoke (call : Nat) (op : Op)
  | respond (call : Nat) (reply : Reply)

structure Entry (Op Reply : Type) where
  call : Nat
  op : Op
  reply : Reply

/-- The calls one after the other, each answered as the object answers it by itself. -/
inductive Legal (apply : Object → Op → Object × Reply) (init : Object) :
    List (Entry Op Reply) → Object → Prop
  | nil : Legal apply init [] init
  | snoc {order : List (Entry Op Reply)} {o : Object} (call : Nat) (op : Op) :
    Legal apply init order o →
      Legal apply init (order ++ [⟨call, op, (apply o op).2⟩]) (apply o op).1

/-- An order of the calls that explains a history: the order is legal, each response is the
    answer it gives, and a call that ended before another began comes before it. -/
structure Explains (apply : Object → Op → Object × Reply) (init final : Object)
    (history : List (Event Op Reply)) (order : List (Entry Op Reply)) : Prop where
  legal : Legal apply init order final
  distinct : (order.map Entry.call).Nodup
  invoked : ∀ e ∈ order, ∀ op, Event.invoke e.call op ∈ history ↔ op = e.op
  answered : ∀ call reply, Event.respond call reply ∈ history →
    ∃ op, Entry.mk call op reply ∈ order
  realTime : ∀ a ∈ order, ∀ b ∈ order,
    Follows history (Event.respond a.call a.reply) (Event.invoke b.call b.op) → Follows order a b

def Linearizable (apply : Object → Op → Object × Reply) (init final : Object)
    (history : List (Event Op Reply)) : Prop :=
  ∃ order, Explains apply init final history order

/-! The atomic object. -/

inductive Call (Op Reply : Type) where
  | pending (op : Op)
  | committed (op : Op) (reply : Reply)
  | returned (op : Op) (reply : Reply)

structure Atomic (Object Op Reply : Type) where
  object : Object
  calls : List (Call Op Reply)
  order : List (Entry Op Reply)

inductive Label (Op Reply : Type) where
  | invoke (call : Nat) (op : Op)
  | commit (call : Nat)
  | respond (call : Nat) (reply : Reply)

def Label.shown : Label Op Reply → List (Event Op Reply)
  | .invoke call op => [.invoke call op]
  | .commit _ => []
  | .respond call reply => [.respond call reply]

def Atomic.start (init : Object) : Atomic Object Op Reply := ⟨init, [], []⟩

variable (apply : Object → Op → Object × Reply)

def Call.op : Call Op Reply → Op
  | .pending op | .committed op _ | .returned op _ => op

def Call.answer : Call Op Reply → Option (Op × Reply)
  | .pending _ => none
  | .committed op reply | .returned op reply => some (op, reply)

/-- The order explains the history so far, and the calls are where the history says. -/
structure Recorded (init : Object) (s : Atomic Object Op Reply)
    (history : List (Event Op Reply)) : Prop
    extends Explains apply init s.object history s.order where
  answeredAt : ∀ call op reply, Entry.mk call op reply ∈ s.order ↔
    ∃ c, s.calls[call]? = some c ∧ c.answer = some (op, reply)
  invokedAt : ∀ call c, s.calls[call]? = some c →
    ∀ op, Event.invoke call op ∈ history ↔ op = c.op
  inRange : ∀ call op, Event.invoke call op ∈ history → call < s.calls.length
  returnedAt : ∀ call reply, Event.respond call reply ∈ history →
    ∃ op, s.calls[call]? = some (.returned op reply)

theorem recorded_start (init : Object) :
    Recorded apply init (.start init : Atomic Object Op Reply) [] where
  legal := .nil
  distinct := List.nodup_nil
  invoked := by simp [Atomic.start]
  answered := by simp
  realTime := by simp [Atomic.start]
  answeredAt := by simp [Atomic.start]
  invokedAt := by simp [Atomic.start]
  inRange := by simp
  returnedAt := by simp

section step
variable {apply} {init : Object} {s : Atomic Object Op Reply} {history : List (Event Op Reply)}

theorem recorded_invoke (recorded : Recorded apply init s history) (op : Op) :
    Recorded apply init { s with calls := s.calls ++ [.pending op] }
      (history ++ [.invoke s.calls.length op]) where
  legal := recorded.legal
  distinct := recorded.distinct
  invoked e mem op' := by
    obtain ⟨c, there, _⟩ := (recorded.answeredAt _ _ _).mp mem
    have bound := (List.getElem?_eq_some_iff.mp there).1
    rw [List.mem_append, List.mem_singleton, recorded.invoked e mem]
    refine or_iff_left fun latest => ?_
    injection latest with new
    omega
  answered call reply mem := by
    simp only [List.mem_append, List.mem_singleton, reduceCtorEq, or_false] at mem
    exact recorded.answered call reply mem
  realTime a ha b hb follows := by
    rcases follows_snoc_iff.mp follows with before | ⟨latest, _⟩
    · exact recorded.realTime a ha b hb before
    · -- the call that has just come is pending, so the order does not hold it
      injection latest with new
      obtain ⟨c, there, _⟩ := (recorded.answeredAt _ _ _).mp hb
      have bound := (List.getElem?_eq_some_iff.mp there).1
      omega
  answeredAt call op' reply := by
    rw [recorded.answeredAt]
    constructor
    · rintro ⟨c, there, answer⟩
      exact ⟨c, began_old there, answer⟩
    · rintro ⟨c, there, answer⟩
      rcases began_cases there with ⟨_, rfl⟩ | before
      · cases answer
      · exact ⟨c, before, answer⟩
  invokedAt call c there op' := by
    rw [List.mem_append, List.mem_singleton]
    rcases began_cases there with ⟨rfl, rfl⟩ | before
    · rw [or_iff_right fun old => Nat.lt_irrefl _ (recorded.inRange _ _ old)]
      simp [Call.op]
    · have bound := (List.getElem?_eq_some_iff.mp before).1
      rw [recorded.invokedAt call c before]
      refine or_iff_left fun latest => ?_
      injection latest with new
      omega
  inRange call op' mem := by
    rw [List.length_append, List.length_singleton]
    rcases List.mem_append.mp mem with before | latest
    · exact Nat.lt_succ_of_lt (recorded.inRange call op' before)
    · injection List.mem_singleton.mp latest with same
      omega
  returnedAt call reply mem := by
    simp only [List.mem_append, List.mem_singleton, reduceCtorEq, or_false] at mem
    obtain ⟨op', there⟩ := recorded.returnedAt call reply mem
    exact ⟨op', began_old there⟩

theorem recorded_commit (recorded : Recorded apply init s history) {call : Nat} {op : Op}
    (here : s.calls[call]? = some (.pending op)) :
    Recorded apply init {
      object := (apply s.object op).1
      calls := s.calls.set call (.committed op (apply s.object op).2)
      order := s.order ++ [⟨call, op, (apply s.object op).2⟩] } history where
  legal := .snoc call op recorded.legal
  distinct := by
    have fresh : call ∉ s.order.map Entry.call := by
      intro before
      obtain ⟨⟨_, op', reply⟩, mem, rfl⟩ := List.mem_map.mp before
      obtain ⟨c, there, answer⟩ := (recorded.answeredAt _ _ _).mp mem
      obtain rfl := Option.some.inj (here.symm.trans there)
      cases answer
    rw [List.map_append, List.nodup_append]
    refine ⟨recorded.distinct, by simp, ?_⟩
    rintro k before k' latest rfl
    obtain rfl : k = call := List.mem_singleton.mp latest
    exact fresh before
  invoked e mem := by
    rcases List.mem_append.mp mem with before | latest
    · exact recorded.invoked e before
    · obtain rfl := List.mem_singleton.mp latest
      exact recorded.invokedAt call _ here
  answered k reply mem := by
    obtain ⟨op', there⟩ := recorded.answered k reply mem
    exact ⟨op', List.mem_append_left _ there⟩
  realTime a ha b hb follows := by
    have returned : a ∈ s.order := by
      rcases List.mem_append.mp ha with before | latest
      · exact before
      · obtain rfl := List.mem_singleton.mp latest
        obtain ⟨early, late, rfl, first, _⟩ := follows
        obtain ⟨op', there⟩ := recorded.returnedAt _ _ (List.mem_append_left late first)
        exact nomatch here.symm.trans there
    rw [follows_snoc_iff]
    rcases List.mem_append.mp hb with before | latest
    · exact .inl (recorded.realTime a returned b before follows)
    · exact .inr ⟨List.mem_singleton.mp latest, returned⟩
  answeredAt k op' reply := by
    rw [List.mem_append, List.mem_singleton, recorded.answeredAt]
    constructor
    · rintro (⟨c, there, answer⟩ | same)
      · refine ⟨c, (moved_other ?_).trans there, answer⟩
        rintro rfl
        obtain rfl := Option.some.inj (here.symm.trans there)
        cases answer
      · injection same with one two three
        subst one two three
        exact ⟨_, moved_self here, rfl⟩
    · rintro ⟨c, there, answer⟩
      rcases moved_cases there with ⟨rfl, rfl⟩ | ⟨_, before⟩
      · injection answer with both
        injection both with two three
        subst two three
        exact .inr rfl
      · exact .inl ⟨c, before, answer⟩
  invokedAt k c there := by
    rcases moved_cases there with ⟨rfl, rfl⟩ | ⟨_, before⟩
    · exact recorded.invokedAt k (.pending op) here
    · exact recorded.invokedAt k c before
  inRange k op' mem := by
    rw [List.length_set]
    exact recorded.inRange k op' mem
  returnedAt k reply mem := by
    obtain ⟨op', there⟩ := recorded.returnedAt k reply mem
    refine ⟨op', (moved_other ?_).trans there⟩
    rintro rfl
    exact nomatch here.symm.trans there

theorem recorded_respond (recorded : Recorded apply init s history) {call : Nat} {op : Op}
    {reply : Reply} (here : s.calls[call]? = some (.committed op reply)) :
    Recorded apply init { s with calls := s.calls.set call (.returned op reply) }
      (history ++ [.respond call reply]) where
  legal := recorded.legal
  distinct := recorded.distinct
  invoked e mem op' := by
    simp only [List.mem_append, List.mem_singleton, reduceCtorEq, or_false]
    exact recorded.invoked e mem op'
  answered k reply' mem := by
    rcases List.mem_append.mp mem with before | latest
    · exact recorded.answered k reply' before
    · injection List.mem_singleton.mp latest with one two
      subst one two
      exact ⟨op, (recorded.answeredAt _ _ _).mpr ⟨_, here, rfl⟩⟩
  realTime a ha b hb follows := by
    rcases follows_snoc_iff.mp follows with before | ⟨latest, _⟩
    · exact recorded.realTime a ha b hb before
    · cases latest
  answeredAt k op' reply' := by
    rw [recorded.answeredAt]
    constructor
    · rintro ⟨c, there, answer⟩
      by_cases same : k = call
      · subst same
        obtain rfl := Option.some.inj (here.symm.trans there)
        exact ⟨_, moved_self here, answer⟩
      · exact ⟨c, (moved_other same).trans there, answer⟩
    · rintro ⟨c, there, answer⟩
      rcases moved_cases there with ⟨rfl, rfl⟩ | ⟨_, before⟩
      · exact ⟨_, here, answer⟩
      · exact ⟨c, before, answer⟩
  invokedAt k c there op' := by
    simp only [List.mem_append, List.mem_singleton, reduceCtorEq, or_false]
    rcases moved_cases there with ⟨rfl, rfl⟩ | ⟨_, before⟩
    · exact recorded.invokedAt k (.committed op reply) here op'
    · exact recorded.invokedAt k c before op'
  inRange k op' mem := by
    simp only [List.mem_append, List.mem_singleton, reduceCtorEq, or_false] at mem
    rw [List.length_set]
    exact recorded.inRange k op' mem
  returnedAt k reply' mem := by
    rcases List.mem_append.mp mem with before | latest
    · obtain ⟨op', there⟩ := recorded.returnedAt k reply' before
      refine ⟨op', (moved_other ?_).trans there⟩
      rintro rfl
      exact nomatch here.symm.trans there
    · injection List.mem_singleton.mp latest with one two
      subst one two
      exact ⟨op, moved_self here⟩

end step

variable [DecidableEq Reply]

def Atomic.step (s : Atomic Object Op Reply) : Label Op Reply → Option (Atomic Object Op Reply)
  | .invoke call op =>
    if call = s.calls.length then some { s with calls := s.calls ++ [.pending op] } else none
  | .commit call =>
    match s.calls[call]? with
    | some (.pending op) => some {
        object := (apply s.object op).1
        calls := s.calls.set call (.committed op (apply s.object op).2)
        order := s.order ++ [⟨call, op, (apply s.object op).2⟩] }
    | _ => none
  | .respond call reply =>
    match s.calls[call]? with
    | some (.committed op given) =>
      if given = reply then some { s with calls := s.calls.set call (.returned op reply) }
      else none
    | _ => none

theorem atomic_cases {s t : Atomic Object Op Reply} {label : Label Op Reply} :
    s.step apply label = some t →
      match label with
      | .invoke call op =>
        call = s.calls.length ∧ t = { s with calls := s.calls ++ [.pending op] }
      | .commit call => ∃ op, s.calls[call]? = some (.pending op) ∧ t = {
          object := (apply s.object op).1
          calls := s.calls.set call (.committed op (apply s.object op).2)
          order := s.order ++ [⟨call, op, (apply s.object op).2⟩] }
      | .respond call reply => ∃ op, s.calls[call]? = some (.committed op reply) ∧
          t = { s with calls := s.calls.set call (.returned op reply) } := by
  intro next
  cases label <;> simp only [Atomic.step] at next
  case invoke call op =>
    obtain ⟨fresh, same⟩ := Option.ite_none_right_eq_some.mp next
    exact ⟨fresh, (Option.some.inj same).symm⟩
  case commit call =>
    split at next
    · exact ⟨_, ‹_›, (Option.some.inj next).symm⟩
    · cases next
  case respond call reply =>
    split at next
    · obtain ⟨rfl, same⟩ := Option.ite_none_right_eq_some.mp next
      exact ⟨_, ‹_›, (Option.some.inj same).symm⟩
    · cases next

theorem step_invoke (s : Atomic Object Op Reply) (op : Op) :
    s.step apply (.invoke s.calls.length op) = some { s with calls := s.calls ++ [.pending op] } :=
  if_pos rfl

theorem step_commit {s : Atomic Object Op Reply} {call : Nat} {op : Op}
    (here : s.calls[call]? = some (.pending op)) :
    s.step apply (.commit call) = some {
      object := (apply s.object op).1
      calls := s.calls.set call (.committed op (apply s.object op).2)
      order := s.order ++ [⟨call, op, (apply s.object op).2⟩] } := by
  simp only [Atomic.step, here]

theorem step_respond {s : Atomic Object Op Reply} {call : Nat} {op : Op} {reply : Reply}
    (here : s.calls[call]? = some (.committed op reply)) :
    s.step apply (.respond call reply) =
      some { s with calls := s.calls.set call (.returned op reply) } := by
  simp only [Atomic.step, here, if_true]

theorem recorded_step {init : Object} {s t : Atomic Object Op Reply}
    {history : List (Event Op Reply)} {label : Label Op Reply}
    (recorded : Recorded apply init s history) (next : s.step apply label = some t) :
    Recorded apply init t (history ++ label.shown) := by
  have did := atomic_cases apply next
  cases label with
  | invoke call op =>
    obtain ⟨rfl, rfl⟩ := did
    exact recorded_invoke recorded op
  | commit call =>
    obtain ⟨op, here, rfl⟩ := did
    rw [Label.shown, List.append_nil]
    exact recorded_commit recorded here
  | respond call reply =>
    obtain ⟨op, here, rfl⟩ := did
    exact recorded_respond recorded here

theorem recorded_run {init : Object} {labels : List (Label Op Reply)}
    {s : Atomic Object Op Reply}
    (path : run (Atomic.step apply) (.start init) labels = some s) :
    Recorded apply init s (labels.flatMap Label.shown) := by
  have := run_traced (fun s past => Recorded apply init s (past.flatMap Label.shown))
    (fun s past label t recorded _ next => by
      rw [List.flatMap_append, List.flatMap_singleton]
      exact recorded_step apply recorded next)
    labels (.start init) [] s (recorded_start apply init) (throughout_trivial _ _) path
  simpa using this

/-- A system that an atomic object simulates has linearizable histories only. -/
theorem linearizable_of_simulated {State Action : Type} {step : State → Action → Option State}
    {seen : Action → List (Event Op Reply)} {init : Object} {start : State}
    (related : State → Atomic Object Op Reply → Prop) (first : related start (.start init))
    (simulates : ∀ c b a d, related c b → step c a = some d →
      MatchedBy (Atomic.step apply) Label.shown (related d) b (seen a))
    {actions : List Action} {s : State} (path : run step start actions = some s) :
    ∃ final : Atomic Object Op Reply, related s final ∧
      Linearizable apply init final.object (actions.flatMap seen) := by
  obtain ⟨labels, final, matched, look, holds⟩ := run_matched related simulates first path
  have recorded := recorded_run apply matched
  rw [look] at recorded
  exact ⟨final, holds, final.order, recorded.toExplains⟩

end PcpLinearization
