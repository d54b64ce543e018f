import Mathlib.Data.List.Basic

/-!
Threads as a list of places, one for each, in the order they began. A step moves one thread
and may begin another; a thread keeps its position in the list.
-/
namespace PcpThreads
variable {Place : Type}

/-- No two threads are at places of a kind. -/
def AtMostOne (kind : Place → Prop) (places : List Place) : Prop :=
  ∀ (i j : Nat) (p q : Place), places[i]? = some p → places[j]? = some q → kind p → kind q → i = j

def Nowhere (kind : Place → Prop) (places : List Place) : Prop :=
  ∀ (i : Nat) (p : Place), places[i]? = some p → ¬kind p

theorem moved_self {places : List Place} {k : Nat} {p q : Place} (here : places[k]? = some p) :
    (places.set k q)[k]? = some q := by
  have bound := (List.getElem?_eq_some_iff.mp here).1
  exact List.getElem?_set_self bound

theorem moved_other {places : List Place} {k j : Nat} {q : Place} (other : j ≠ k) :
    (places.set k q)[j]? = places[j]? :=
  List.getElem?_set_ne (Ne.symm other)

theorem moved_cases {places : List Place} {k j : Nat} {q r : Place}
    (there : (places.set k q)[j]? = some r) : j = k ∧ r = q ∨ j ≠ k ∧ places[j]? = some r := by
  by_cases same : j = k
  · subst same
    simp only [List.getElem?_set, if_true] at there
    split at there
    · exact .inl ⟨rfl, (Option.some.inj there).symm⟩
    · cases there
  · exact .inr ⟨same, moved_other same ▸ there⟩

theorem began_cases {places : List Place} {j : Nat} {q r : Place}
    (there : (places ++ [q])[j]? = some r) :
    j = places.length ∧ r = q ∨ places[j]? = some r := by
  rw [List.getElem?_append] at there
  split at there
  · exact .inr there
  · have bound := (List.getElem?_eq_some_iff.mp there).1
    rw [List.length_singleton] at bound
    have last : j - places.length = 0 := by omega
    rw [last] at there
    exact .inl ⟨by omega, (Option.some.inj there).symm⟩

theorem began_old {places : List Place} {j : Nat} {q r : Place} (there : places[j]? = some r) :
    (places ++ [q])[j]? = some r := by
  rw [List.getElem?_append_left (List.getElem?_eq_some_iff.mp there).1]
  exact there

theorem began_new (places : List Place) (q : Place) :
    (places ++ [q])[places.length]? = some q := by
  simp

theorem exists_of_not_nowhere {kind : Place → Prop} {places : List Place}
    (somewhere : ¬Nowhere kind places) :
    ∃ (k : Nat) (p : Place), places[k]? = some p ∧ kind p := by
  by_contra none
  exact somewhere fun k p there isKind => none ⟨k, p, there, isKind⟩

theorem nowhere_began {kind : Place → Prop} {places : List Place} {q : Place}
    (none : Nowhere kind places) (not : ¬kind q) : Nowhere kind (places ++ [q]) := by
  intro i p there
  rcases began_cases there with ⟨_, rfl⟩ | before
  · exact not
  · exact none i p before

theorem atMostOne_of_nowhere {kind : Place → Prop} {places : List Place}
    (none : Nowhere kind places) : AtMostOne kind places :=
  fun i _ p _ first _ one _ => absurd one (none i p first)

theorem atMostOne_began {kind : Place → Prop} {places : List Place} {q : Place}
    (single : AtMostOne kind places) (free : kind q → Nowhere kind places) :
    AtMostOne kind (places ++ [q]) := by
  intro i j a b first second one two
  rcases began_cases first with ⟨rfl, rfl⟩ | left <;>
    rcases began_cases second with ⟨rfl, rfl⟩ | right
  · rfl
  · exact absurd two (free one _ _ right)
  · exact absurd one (free two _ _ left)
  · exact single _ _ _ _ left right one two

/-! One step: thread `k` goes from `p` to `q`, and may begin a thread that starts at `r`. -/

def after (places : List Place) (k : Nat) (q : Place) : Option Place → List Place
  | none => places.set k q
  | some r => (places ++ [r]).set k q

section step
variable {kind : Place → Prop} {places : List Place} {k j : Nat} {p q r : Place}
  {begun : Option Place}

theorem after_self (here : places[k]? = some p) : (after places k q begun)[k]? = some q := by
  cases begun with
  | none => exact moved_self here
  | some r => exact moved_self (began_old here)

theorem after_other (other : j ≠ k) (there : places[j]? = some r) :
    (after places k q begun)[j]? = some r := by
  cases begun with
  | none => exact (moved_other other).trans there
  | some s => exact (moved_other other).trans (began_old there)

theorem after_begun (here : places[k]? = some p) :
    (after places k q (some r))[places.length]? = some r := by
  have bound := (List.getElem?_eq_some_iff.mp here).1
  exact (moved_other (by omega)).trans (began_new places r)

theorem after_cases (there : (after places k q begun)[j]? = some r) :
    j = k ∧ r = q ∨ j ≠ k ∧ places[j]? = some r ∨ j = places.length ∧ begun = some r := by
  cases begun with
  | none =>
    rcases moved_cases there with self | other
    · exact .inl self
    · exact .inr (.inl other)
  | some s =>
    rcases moved_cases there with self | ⟨other, before⟩
    · exact .inl self
    · rcases began_cases before with ⟨last, rfl⟩ | before
      · exact .inr (.inr ⟨last, rfl⟩)
      · exact .inr (.inl ⟨other, before⟩)

theorem nowhere_after (nobody : Nowhere kind places) (not : ¬kind q)
    (fresh : ∀ r, begun = some r → ¬kind r) : Nowhere kind (after places k q begun) := by
  intro j r there
  rcases after_cases there with ⟨_, rfl⟩ | ⟨_, before⟩ | ⟨_, new⟩
  · exact not
  · exact nobody j r before
  · exact fresh r new

/-- The only thread of a kind stays the only one, hands over to the one that it begins, or is
    the first to come there. -/
theorem atMostOne_after (single : AtMostOne kind places) (here : places[k]? = some p)
    (stays : kind q → kind p ∨ Nowhere kind places)
    (fresh : ∀ r, begun = some r → kind r → kind p ∧ ¬kind q) :
    AtMostOne kind (after places k q begun) := by
  have alone : ∀ j r, places[j]? = some r → kind q → kind r → j = k := by
    intro j r before comes isKind
    rcases stays comes with was | nobody
    · exact single _ _ _ _ before here isKind was
    · exact absurd isKind (nobody j r before)
  intro i j a b first second one two
  rcases after_cases first with ⟨rfl, rfl⟩ | ⟨left, before⟩ | ⟨last, new⟩ <;>
    rcases after_cases second with ⟨rfl, rfl⟩ | ⟨right, later⟩ | ⟨last', new'⟩
  · rfl
  · exact (alone j b later one two).symm
  · exact absurd one (fresh b new' two).2
  · exact alone i a before two one
  · exact single _ _ _ _ before later one two
  · exact absurd (single _ _ _ _ before here one (fresh b new' two).1) left
  · exact absurd two (fresh a new one).2
  · exact absurd (single _ _ _ _ later here two (fresh a new one).1) right
  · exact last.trans last'.symm

theorem nowhere_left (single : AtMostOne kind places) (here : places[k]? = some p) (was : kind p)
    (not : ¬kind q) (fresh : ∀ r, begun = some r → ¬kind r) :
    Nowhere kind (after places k q begun) := by
  intro j r there isKind
  rcases after_cases there with ⟨_, rfl⟩ | ⟨other, before⟩ | ⟨_, new⟩
  · exact not isKind
  · exact other (single _ _ _ _ before here isKind was)
  · exact fresh r new isKind

theorem nowhere_moved (nobody : Nowhere kind places) (not : ¬kind q) :
    Nowhere kind (places.set k q) :=
  nowhere_after nobody not fun r (new : none = some r) => nomatch new

theorem atMostOne_moved (single : AtMostOne kind places) (here : places[k]? = some p)
    (stays : kind q → kind p ∨ Nowhere kind places) : AtMostOne kind (places.set k q) :=
  atMostOne_after single here stays fun r (new : none = some r) => nomatch new

theorem nowhere_moved_left (single : AtMostOne kind places) (here : places[k]? = some p)
    (was : kind p) (not : ¬kind q) : Nowhere kind (places.set k q) :=
  nowhere_left single here was not fun r (new : none = some r) => nomatch new

end step

end PcpThreads
