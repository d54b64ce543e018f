import PcpClient.BoundedSteps
import PcpClient.Linearization
import PcpClient.SchemaValidator

/-!
The Validator class with calls from any number of threads. Each access to the lock or to
the map is one step, so validate() reads the schema after it has released the lock. That a
read of the std::map is atomic then is taken for granted here; the code has nothing to make
it so while another call inserts.
-/
namespace PcpConcurrentValidator
open PcpTransitions PcpThreads PcpLinearization PcpJson PcpSchema

inductive Query where
  | validate (data : Json) (schemaName : String)
  | getSchemaContentType (schemaName : String)

inductive Request where
  | registerSchema (schema : Schema)
  | query (q : Query)

/-- How a call ends; outOfRange is the std::out_of_range of std::map::at(). -/
inductive Reply where
  | returned
  | contentType (type : ContentType)
  | raised (e : Raised)
  | outOfRange
  deriving DecidableEq, Repr

def Query.schemaName : Query → String
  | .validate _ schemaName | .getSchemaContentType schemaName => schemaName

/-- Where a call is: before the lock, with the lock, past it, or about to leave. -/
inductive Place where
  | entering (request : Request)
  | testing (request : Request)
  | inserting (schema : Schema)
  | found (q : Query)
  | leaving (reply : Reply)
  | reading (q : Query)
  | answering (reply : Reply)
  | gone

def Place.holdsLock : Place → Prop
  | .testing _ | .inserting _ | .found _ | .leaving _ => True
  | _ => False

structure Store where
  validator : Validator
  lookupMutex : Option Nat
  calls : List Place

def Store.start (validator : Validator) : Store := ⟨validator, none, []⟩

def redefinition (schemaName : String) : Raised :=
  .schemaRedefinitionError ("schema '" ++ schemaName ++ "' already defined")

/-- `schema_map_.insert(p)`, which leaves an entry of the name as it is. -/
def insertSchema (v : Validator) (schema : Schema) : Validator :=
  if included : v.includesSchema schema.name = true then v
  else ⟨v.schemaMap ++ [schema], distinct_snoc included⟩

def afterTest (v : Validator) : Request → Place
  | .registerSchema schema =>
    if v.includesSchema schema.name then .leaving (.raised (redefinition schema.name))
    else .inserting schema
  | .query q =>
    if v.includesSchema q.schemaName then .found q
    else .leaving (.raised (notRegistered q.schemaName))

def readSchema (v : Validator) (q : Query) : Reply :=
  match v.lookup q.schemaName, q with
  | none, _ => .outOfRange
  | some schema, .validate data schemaName =>
    if schema.accepts data then .returned
    else .raised (.validationError ("does not match schema: '" ++ schemaName ++ "'"))
  | some schema, .getSchemaContentType _ => .contentType schema.contentType

inductive Action where
  | invoke (call : Nat) (request : Request)
  | lock (call : Nat)
  | test (call : Nat)
  | insert (call : Nat)
  | unlock (call : Nat)
  | read (call : Nat)
  | respond (call : Nat) (reply : Reply)

def Store.move (s : Store) (call : Nat) (p : Place) : Store :=
  { s with calls := s.calls.set call p }

def Store.step (s : Store) : Action → Option Store
  | .invoke call request =>
    if call = s.calls.length then some { s with calls := s.calls ++ [.entering request] } else none
  | .lock call =>
    match s.calls[call]?, s.lookupMutex with
    | some (.entering request), none =>
      some { s.move call (.testing request) with lookupMutex := some call }
    | _, _ => none
  | .test call =>
    match s.calls[call]? with
    | some (.testing request) => some (s.move call (afterTest s.validator request))
    | _ => none
  | .insert call =>
    match s.calls[call]? with
    | some (.inserting schema) =>
      some { s.move call (.leaving .returned) with validator := insertSchema s.validator schema }
    | _ => none
  | .unlock call =>
    match s.calls[call]? with
    | some (.found q) => some { s.move call (.reading q) with lookupMutex := none }
    | some (.leaving reply) => some { s.move call (.answering reply) with lookupMutex := none }
    | _ => none
  | .read call =>
    match s.calls[call]? with
    | some (.reading q) => some (s.move call (.answering (readSchema s.validator q)))
    | _ => none
  | .respond call reply =>
    match s.calls[call]? with
    | some (.answering given) => if given = reply then some (s.move call .gone) else none
    | _ => none

def Action.seen : Action → List (Event Request Reply)
  | .invoke call request => [.invoke call request]
  | .respond call reply => [.respond call reply]
  | _ => []

def apply (v : Validator) : Request → Validator × Reply
  | .registerSchema schema =>
    match v.registerSchema schema with
    | .ok after => (after, .returned)
    | .error e => (v, .raised e)
  | .query (.validate data schemaName) =>
    match v.validate data schemaName with
    | .ok _ => (v, .returned)
    | .error e => (v, .raised e)
  | .query (.getSchemaContentType schemaName) =>
    match v.getSchemaContentType schemaName with
    | .ok type => (v, .contentType type)
    | .error e => (v, .raised e)

/-! What one call does by itself. -/

theorem apply_register_included {v : Validator} {schema : Schema}
    (included : v.includesSchema schema.name = true) :
    apply v (.registerSchema schema) = (v, .raised (redefinition schema.name)) := by
  simp [apply, Validator.registerSchema, included, redefinition]

theorem apply_register_fresh {v : Validator} {schema : Schema}
    (fresh : v.includesSchema schema.name = false) :
    apply v (.registerSchema schema) = (insertSchema v schema, .returned) := by
  simp [apply, Validator.registerSchema, insertSchema, fresh]

theorem apply_query_missing {v : Validator} {q : Query}
    (missing : v.includesSchema q.schemaName = false) :
    apply v (.query q) = (v, .raised (notRegistered q.schemaName)) := by
  have none : v.lookup q.schemaName = none := by
    simpa [Validator.includesSchema] using missing
  cases q with
  | validate data schemaName => simp_all [apply, Validator.validate, Query.schemaName]
  | getSchemaContentType schemaName =>
    simp_all [apply, Validator.getSchemaContentType, Query.schemaName]

theorem apply_query_found {v : Validator} {q : Query}
    (included : v.includesSchema q.schemaName = true) :
    apply v (.query q) = (v, readSchema v q) := by
  obtain ⟨schema, there⟩ := Option.isSome_iff_exists.mp included
  cases q with
  | validate data schemaName =>
    simp only [Query.schemaName] at there
    simp only [apply, Validator.validate, readSchema, Query.schemaName, there]
    cases schema.accepts data <;> simp
  | getSchemaContentType schemaName =>
    simp only [Query.schemaName] at there
    simp only [apply, Validator.getSchemaContentType, readSchema, Query.schemaName, there]

theorem lookup_insertSchema {v : Validator} {schema entry : Schema} {schemaName : String}
    (there : v.lookup schemaName = some entry) :
    (insertSchema v schema).lookup schemaName = some entry := by
  unfold insertSchema
  split
  · exact there
  · simp only [Validator.lookup] at there ⊢
    rw [List.find?_append, there]
    rfl

theorem lookup_inserted {v : Validator} {schema : Schema}
    (fresh : v.includesSchema schema.name = false) :
    (insertSchema v schema).lookup schema.name = some schema := by
  have none : v.schemaMap.find? (fun s => s.name = schema.name) = none := by
    simpa [Validator.includesSchema, Validator.lookup] using fresh
  simp [insertSchema, fresh, Validator.lookup, none]

theorem includes_insertSchema {v : Validator} {schema : Schema} {schemaName : String}
    (included : v.includesSchema schemaName = true) :
    (insertSchema v schema).includesSchema schemaName = true := by
  obtain ⟨entry, there⟩ := Option.isSome_iff_exists.mp included
  rw [Validator.includesSchema, lookup_insertSchema there]
  rfl

theorem store_cases {s t : Store} {a : Action} : s.step a = some t →
    match a with
    | .invoke call request =>
      call = s.calls.length ∧ t = { s with calls := s.calls ++ [.entering request] }
    | .lock call => ∃ request, s.calls[call]? = some (.entering request) ∧
        s.lookupMutex = none ∧
        t = { s.move call (.testing request) with lookupMutex := some call }
    | .test call => ∃ request, s.calls[call]? = some (.testing request) ∧
        t = s.move call (afterTest s.validator request)
    | .insert call => ∃ schema, s.calls[call]? = some (.inserting schema) ∧
        t = { s.move call (.leaving .returned) with validator := insertSchema s.validator schema }
    | .unlock call => ∃ p q, s.calls[call]? = some p ∧
        t = { s.move call q with lookupMutex := none } ∧
        ((∃ query, p = .found query ∧ q = .reading query) ∨
          ∃ reply, p = .leaving reply ∧ q = .answering reply)
    | .read call => ∃ q, s.calls[call]? = some (.reading q) ∧
        t = s.move call (.answering (readSchema s.validator q))
    | .respond call reply =>
      s.calls[call]? = some (.answering reply) ∧ t = s.move call .gone := by
  intro next
  cases a <;> simp only [Store.step] at next
  case invoke call request =>
    obtain ⟨fresh, same⟩ := Option.ite_none_right_eq_some.mp next
    exact ⟨fresh, (Option.some.inj same).symm⟩
  case lock call =>
    split at next
    · exact ⟨_, ‹_›, ‹_›, (Option.some.inj next).symm⟩
    · cases next
  case unlock call =>
    split at next
    · exact ⟨_, _, ‹_›, (Option.some.inj next).symm, .inl ⟨_, rfl, rfl⟩⟩
    · exact ⟨_, _, ‹_›, (Option.some.inj next).symm, .inr ⟨_, rfl, rfl⟩⟩
    · cases next
  case respond call reply =>
    split at next
    · obtain ⟨rfl, same⟩ := Option.ite_none_right_eq_some.mp next
      exact ⟨‹_›, (Option.some.inj same).symm⟩
    · cases next
  all_goals
    split at next
    · exact ⟨_, ‹_›, (Option.some.inj next).symm⟩
    · cases next

/-! The lock: its holder is the only call between lock() and unlock(). -/

structure Locked (s : Store) : Prop where
  single : AtMostOne Place.holdsLock s.calls
  free : s.lookupMutex = none → Nowhere Place.holdsLock s.calls
  held : ∀ k, s.lookupMutex = some k → ∃ p, s.calls[k]? = some p ∧ p.holdsLock

theorem holdsLock_afterTest (v : Validator) (request : Request) :
    (afterTest v request).holdsLock := by
  cases request <;> simp only [afterTest] <;> split <;> trivial

theorem locked_start (v : Validator) : Locked (.start v) where
  single i _ p _ first := by simp [Store.start] at first
  free _ i p there := by simp [Store.start] at there
  held k free := by cases free

theorem held_moved {places : List Place} {j k : Nat} {p q : Place}
    (held : ∃ r, places[j]? = some r ∧ r.holdsLock) (here : places[k]? = some p)
    (stays : p.holdsLock → q.holdsLock) :
    ∃ r, (places.set k q)[j]? = some r ∧ r.holdsLock := by
  obtain ⟨r, there, holds⟩ := held
  by_cases same : j = k
  · subst same
    obtain rfl := Option.some.inj (here.symm.trans there)
    exact ⟨q, moved_self here, stays holds⟩
  · exact ⟨r, (moved_other same).trans there, holds⟩

theorem locked_moved {s : Store} (locked : Locked s) {k : Nat} {p q : Place}
    (here : s.calls[k]? = some p) (same : p.holdsLock ↔ q.holdsLock) (v : Validator) :
    Locked ⟨v, s.lookupMutex, s.calls.set k q⟩ where
  single := atMostOne_moved locked.single here fun is => .inl (same.mpr is)
  free free := nowhere_moved (locked.free free) fun is => locked.free free _ _ here (same.mpr is)
  held _ holder := held_moved (locked.held _ holder) here same.mp

theorem locked_step {s t : Store} {a : Action} (locked : Locked s) (next : s.step a = some t) :
    Locked t := by
  have did := store_cases next
  cases a with
  | invoke call request =>
    obtain ⟨_, rfl⟩ := did
    refine ⟨atMostOne_began locked.single nofun,
      fun free => nowhere_began (locked.free free) (by rintro ⟨⟩), fun k holder => ?_⟩
    obtain ⟨p, there, holds⟩ := locked.held k holder
    exact ⟨p, began_old there, holds⟩
  | lock call =>
    obtain ⟨request, here, free, rfl⟩ := did
    refine ⟨atMostOne_moved locked.single here fun _ => .inr (locked.free free), nofun,
      fun k holder => ?_⟩
    obtain rfl := Option.some.inj holder
    exact ⟨_, moved_self here, trivial⟩
  | test call =>
    obtain ⟨request, here, rfl⟩ := did
    have held := holdsLock_afterTest s.validator request
    exact locked_moved locked here ⟨fun _ => held, fun _ => trivial⟩ s.validator
  | insert call =>
    obtain ⟨schema, here, rfl⟩ := did
    exact locked_moved locked here (q := .leaving .returned) Iff.rfl _
  | unlock call =>
    obtain ⟨p, q, here, rfl, which⟩ := did
    have held : p.holdsLock ∧ ¬q.holdsLock := by
      rcases which with ⟨_, rfl, rfl⟩ | ⟨_, rfl, rfl⟩ <;> exact ⟨trivial, id⟩
    have left : Nowhere Place.holdsLock (s.calls.set call q) :=
      nowhere_moved_left locked.single here held.1 held.2
    exact ⟨atMostOne_of_nowhere left, fun _ => left, nofun⟩
  | read call =>
    obtain ⟨query, here, rfl⟩ := did
    exact locked_moved locked here (q := .answering _) Iff.rfl s.validator
  | respond call reply =>
    obtain ⟨here, rfl⟩ := did
    exact locked_moved locked here (q := .gone) Iff.rfl s.validator

/-! The calls follow an atomic validator, whose call takes effect with the test that throws,
    with insert() or with at(). -/

/-- What the place of a call says about the call of the atomic validator. -/
def Agrees (v : Validator) : Place → Call Request Reply → Prop
  | .entering request, .pending op => op = request
  | .testing request, .pending op => op = request
  | .inserting schema, .pending op =>
    op = .registerSchema schema ∧ v.includesSchema schema.name = false
  | .found q, .pending op => op = .query q ∧ v.includesSchema q.schemaName = true
  | .reading q, .pending op => op = .query q ∧ v.includesSchema q.schemaName = true
  | .leaving reply, .committed _ given => given = reply
  | .answering reply, .committed _ given => given = reply
  | .gone, .returned _ _ => True
  | _, _ => False

structure Related (s : Store) (a : Atomic Validator Request Reply) : Prop where
  locked : Locked s
  object : a.object = s.validator
  length : a.calls.length = s.calls.length
  agrees : ∀ (k : Nat) (p : Place), s.calls[k]? = some p →
    ∃ c, a.calls[k]? = some c ∧ Agrees s.validator p c

theorem related_start (v : Validator) : Related (.start v) (.start v) where
  locked := locked_start v
  object := rfl
  length := rfl
  agrees k p there := by simp [Store.start] at there

theorem agrees_moved {v w : Validator} {places : List Place} {calls : List (Call Request Reply)}
    {k : Nat} {q : Place} {c d : Call Request Reply}
    (agrees : ∀ (j : Nat) (r : Place), places[j]? = some r →
      ∃ e, calls[j]? = some e ∧ Agrees v r e)
    (there : calls[k]? = some c) (now : Agrees w q d)
    (others : ∀ j r e, j ≠ k → places[j]? = some r → Agrees v r e → Agrees w r e) :
    ∀ (j : Nat) (r : Place), (places.set k q)[j]? = some r →
      ∃ e, (calls.set k d)[j]? = some e ∧ Agrees w r e := by
  intro j r at_j
  rcases moved_cases at_j with ⟨rfl, rfl⟩ | ⟨other, before⟩
  · exact ⟨d, moved_self there, now⟩
  · obtain ⟨e, same, agree⟩ := agrees j r before
    exact ⟨e, (moved_other other).trans same, others j r e other before agree⟩

theorem agrees_kept {v : Validator} {places : List Place} {calls : List (Call Request Reply)}
    {k : Nat} {q : Place} {c : Call Request Reply}
    (agrees : ∀ (j : Nat) (r : Place), places[j]? = some r →
      ∃ e, calls[j]? = some e ∧ Agrees v r e)
    (there : calls[k]? = some c) (now : Agrees v q c) :
    ∀ (j : Nat) (r : Place), (places.set k q)[j]? = some r →
      ∃ e, calls[j]? = some e ∧ Agrees v r e := by
  have moved := agrees_moved (w := v) agrees there now fun _ _ _ _ _ agree => agree
  have same : calls.set k c = calls := by
    obtain ⟨bound, rfl⟩ := List.getElem?_eq_some_iff.mp there
    exact List.set_getElem_self bound
  rwa [same] at moved

theorem agrees_inserted {v : Validator} {schema : Schema} {r : Place} {e : Call Request Reply}
    (outside : ¬r.holdsLock) (agree : Agrees v r e) : Agrees (insertSchema v schema) r e := by
  cases r with
  | testing _ | inserting _ | found _ | leaving _ => exact absurd trivial outside
  | reading q =>
    cases e with
    | pending op => exact ⟨agree.1, includes_insertSchema agree.2⟩
    | committed _ _ | returned _ _ => exact agree.elim
  | entering _ | answering _ | gone => cases e <;> exact agree

section agrees
variable {v : Validator} {c : Call Request Reply}
attribute [local simp] Agrees

theorem agrees_entering {request : Request} :
    Agrees v (.entering request) c ↔ c = .pending request := by
  cases c <;> simp

theorem agrees_testing {request : Request} :
    Agrees v (.testing request) c ↔ c = .pending request := by
  cases c <;> simp

theorem agrees_inserting {schema : Schema} : Agrees v (.inserting schema) c ↔
    c = .pending (.registerSchema schema) ∧ v.includesSchema schema.name = false := by
  cases c <;> simp

theorem agrees_found {q : Query} : Agrees v (.found q) c ↔
    c = .pending (.query q) ∧ v.includesSchema q.schemaName = true := by
  cases c <;> simp

theorem agrees_reading {q : Query} : Agrees v (.reading q) c ↔
    c = .pending (.query q) ∧ v.includesSchema q.schemaName = true := by
  cases c <;> simp

theorem agrees_leaving {reply : Reply} :
    Agrees v (.leaving reply) c ↔ ∃ op, c = .committed op reply := by
  cases c <;> simp

theorem agrees_answering {reply : Reply} :
    Agrees v (.answering reply) c ↔ ∃ op, c = .committed op reply := by
  cases c <;> simp

theorem agrees_gone : Agrees v .gone c ↔ ∃ op reply, c = .returned op reply := by
  cases c <;> simp

end agrees

section simulation
variable {s t : Store} {a : Atomic Validator Request Reply}

theorem related_stutter (related : Related s a) (locked : Locked t) {k : Nat} {p q : Place}
    {lookupMutex : Option Nat} (here : s.calls[k]? = some p)
    (did : t = { s.move k q with lookupMutex := lookupMutex })
    (agree : ∀ c, Agrees s.validator p c → Agrees s.validator q c) : Related t a := by
  subst did
  obtain ⟨c, there, now⟩ := related.agrees k p here
  exact ⟨locked, related.object, by simp [Store.move, related.length],
    agrees_kept related.agrees there (agree c now)⟩

/-- The step with which a call takes effect. -/
theorem related_commit (related : Related s a) (locked : Locked t) {k : Nat} {q : Place}
    {op : Request} (there : a.calls[k]? = some (.pending op))
    (did : t = { s.move k q with validator := (apply s.validator op).1 })
    (agree : ∀ c, Agrees (apply s.validator op).1 q c ↔
      ∃ op', c = .committed op' (apply s.validator op).2)
    (others : ∀ j r e, j ≠ k → s.calls[j]? = some r → Agrees s.validator r e →
      Agrees (apply s.validator op).1 r e) :
    MatchedBy (Atomic.step apply) Label.shown (Related t) a [] := by
  subst did
  refine matchedBy_step (step_commit apply there) ?_
  rw [related.object]
  exact ⟨locked, rfl, by simp [Store.move, related.length],
    agrees_moved related.agrees there ((agree _).mpr ⟨op, rfl⟩) others⟩

theorem related_test (related : Related s a) (locked : Locked t) {k : Nat} {request : Request}
    (here : s.calls[k]? = some (.testing request))
    (did : t = s.move k (afterTest s.validator request)) :
    MatchedBy (Atomic.step apply) Label.shown (Related t) a [] := by
  obtain ⟨c, there, agree⟩ := related.agrees k _ here
  obtain rfl := agrees_testing.mp agree
  -- a call that will throw takes effect here, any other goes on
  cases request with
  | registerSchema schema =>
    cases included : s.validator.includesSchema schema.name with
    | true =>
      have alone := apply_register_included included
      refine related_commit related locked there
        (q := .leaving (.raised (redefinition schema.name))) ?_ ?_ ?_
      · simpa [alone, afterTest, included, Store.move] using did
      · rw [alone]
        exact fun _ => agrees_leaving
      · rw [alone]
        exact fun _ _ _ _ _ agree => agree
    | false =>
      have same : t = { s.move k (.inserting schema) with lookupMutex := s.lookupMutex } := by
        simpa [afterTest, included, Store.move] using did
      refine matchedBy_stutter (related_stutter related locked here same ?_)
      intro c agree
      exact agrees_inserting.mpr ⟨agrees_testing.mp agree, included⟩
  | query q =>
    cases included : s.validator.includesSchema q.schemaName with
    | true =>
      have same : t = { s.move k (.found q) with lookupMutex := s.lookupMutex } := by
        simpa [afterTest, included, Store.move] using did
      refine matchedBy_stutter (related_stutter related locked here same ?_)
      intro c agree
      exact agrees_found.mpr ⟨agrees_testing.mp agree, included⟩
    | false =>
      have alone := apply_query_missing included
      refine related_commit related locked there
        (q := .leaving (.raised (notRegistered q.schemaName))) ?_ ?_ ?_
      · simpa [alone, afterTest, included, Store.move] using did
      · rw [alone]
        exact fun _ => agrees_leaving
      · rw [alone]
        exact fun _ _ _ _ _ agree => agree

theorem related_insert (related : Related s a) (locked : Locked t) {k : Nat} {schema : Schema}
    (here : s.calls[k]? = some (.inserting schema))
    (did : t = { s.move k (.leaving .returned) with
      validator := insertSchema s.validator schema }) :
    MatchedBy (Atomic.step apply) Label.shown (Related t) a [] := by
  obtain ⟨c, there, agree⟩ := related.agrees k _ here
  obtain ⟨rfl, fresh⟩ := agrees_inserting.mp agree
  have alone := apply_register_fresh fresh
  refine related_commit related locked there (q := .leaving .returned) ?_ ?_ ?_
  · simpa [alone] using did
  · simp [alone, agrees_leaving]
  · intro j r e other there' agree'
    rw [alone]
    refine agrees_inserted (fun held => other ?_) agree'
    exact related.locked.single _ _ _ _ there' here held trivial

theorem related_read (related : Related s a) (locked : Locked t) {k : Nat} {q : Query}
    (here : s.calls[k]? = some (.reading q))
    (did : t = s.move k (.answering (readSchema s.validator q))) :
    MatchedBy (Atomic.step apply) Label.shown (Related t) a [] := by
  obtain ⟨c, there, agree⟩ := related.agrees k _ here
  obtain ⟨rfl, included⟩ := agrees_reading.mp agree
  have alone := apply_query_found included
  refine related_commit related locked there (q := .answering (readSchema s.validator q)) ?_ ?_ ?_
  · simpa [alone, Store.move] using did
  · simp [alone, agrees_answering]
  · rw [alone]
    exact fun _ _ _ _ _ agree => agree

theorem related_step {x : Action} (related : Related s a) (next : s.step x = some t) :
    MatchedBy (Atomic.step apply) Label.shown (Related t) a x.seen := by
  have locked := locked_step related.locked next
  have did := store_cases next
  cases x with
  | invoke k request =>
    obtain ⟨rfl, rfl⟩ := did
    have fresh := step_invoke apply a request
    rw [related.length] at fresh
    refine matchedBy_step fresh ⟨locked, related.object, by simp [related.length], ?_⟩
    intro j r there
    rcases began_cases there with ⟨rfl, rfl⟩ | before
    · exact ⟨.pending request, by simp [← related.length], agrees_entering.mpr rfl⟩
    · obtain ⟨c, same, agree⟩ := related.agrees j r before
      exact ⟨c, began_old same, agree⟩
  | lock k =>
    obtain ⟨request, here, _, did⟩ := did
    exact matchedBy_stutter (related_stutter related locked here did fun c agree =>
      agrees_testing.mpr (agrees_entering.mp agree))
  | test k =>
    obtain ⟨request, here, did⟩ := did
    exact related_test related locked here did
  | insert k =>
    obtain ⟨schema, here, did⟩ := did
    exact related_insert related locked here did
  | unlock k =>
    obtain ⟨p, q, here, did, which⟩ := did
    refine matchedBy_stutter (related_stutter related locked here did fun c agree => ?_)
    rcases which with ⟨query, rfl, rfl⟩ | ⟨reply, rfl, rfl⟩
    · exact agrees_reading.mpr (agrees_found.mp agree)
    · exact agrees_answering.mpr (agrees_leaving.mp agree)
  | read k =>
    obtain ⟨q, here, did⟩ := did
    exact related_read related locked here did
  | respond k reply =>
    obtain ⟨here, rfl⟩ := did
    obtain ⟨c, there, agree⟩ := related.agrees k _ here
    obtain ⟨op, rfl⟩ := agrees_answering.mp agree
    refine matchedBy_step (step_respond apply there)
      ⟨locked, related.object, by simp [Store.move, related.length], ?_⟩
    exact agrees_moved related.agrees there (agrees_gone.mpr ⟨op, reply, rfl⟩)
      fun _ _ _ _ _ agree => agree

end simulation

/-- Whatever the threads do, the calls of a Validator are answered as if each ran by itself,
    in an order that keeps any two calls of which one ended before the other began. -/
theorem validator_linearizable (v : Validator) {actions : List Action} {s : Store}
    (path : run Store.step (.start v) actions = some s) :
    Linearizable apply v s.validator (actions.flatMap Action.seen) := by
  obtain ⟨final, related, explained⟩ := linearizable_of_simulated apply Related
    (related_start v) (fun _ _ _ _ related next => related_step related next) path
  rwa [related.object] at explained

def race : List Action := [
  .invoke 0 (.registerSchema { name := "a" }), .invoke 1 (.query (.validate .empty "a")),
  .invoke 2 (.registerSchema { name := "a" }), .lock 0, .test 0, .insert 0, .unlock 0, .lock 1,
  .test 1, .unlock 1, .lock 2, .respond 0 .returned, .read 1, .test 2, .unlock 2,
  .respond 2 (.raised (redefinition "a")), .respond 1 .returned]

theorem race_runs (n : Nat) : ∃ s, run Store.step (.start {}) (race.take n) = some s := by
  have whole : (run Store.step (.start {}) race).isSome = true := by decide +kernel
  obtain ⟨t, path⟩ := Option.isSome_iff_exists.mp whole
  rw [← List.take_append_drop n race] at path
  obtain ⟨s, early, _⟩ := run_append_iff.mp path
  exact ⟨s, early⟩

theorem validator_linearizable_race : ∃ s, run Store.step (.start {}) (race.take 17) = some s ∧
    Linearizable apply {} s.validator ((race.take 17).flatMap Action.seen) := by
  obtain ⟨s, path⟩ := race_runs 17
  exact ⟨s, path, validator_linearizable {} path⟩

/-! What a legal order says about the map. -/

theorem lookup_apply {v : Validator} {entry : Schema} {schemaName : String} (request : Request)
    (there : v.lookup schemaName = some entry) :
    (apply v request).1.lookup schemaName = some entry := by
  cases request with
  | registerSchema schema =>
    cases included : v.includesSchema schema.name with
    | true => rwa [apply_register_included included]
    | false =>
      rw [apply_register_fresh included]
      exact lookup_insertSchema there
  | query q =>
    cases included : v.includesSchema q.schemaName with
    | true => rwa [apply_query_found included]
    | false => rwa [apply_query_missing included]

theorem apply_never_outOfRange (v : Validator) (request : Request) :
    (apply v request).2 ≠ .outOfRange := by
  cases request with
  | registerSchema schema => simp only [apply]; split <;> simp
  | query q => cases q <;> simp only [apply] <;> split <;> simp

theorem apply_register_returned {v : Validator} {schema : Schema}
    (done : (apply v (.registerSchema schema)).2 = .returned) :
    v.includesSchema schema.name = false ∧
      (apply v (.registerSchema schema)).1.lookup schema.name = some schema := by
  cases included : v.includesSchema schema.name with
  | true => rw [apply_register_included included] at done; cases done
  | false =>
    rw [apply_register_fresh included]
    exact ⟨rfl, lookup_inserted included⟩

section legal
variable {v final : Validator} {order : List (Entry Request Reply)}

theorem legal_lookup {entry : Schema} {schemaName : String}
    (there : v.lookup schemaName = some entry) (legal : Legal apply v order final) :
    final.lookup schemaName = some entry := by
  induction legal with
  | nil => exact there
  | snoc call op _ ih => exact lookup_apply op ih

theorem legal_never_outOfRange (legal : Legal apply v order final) :
    ∀ e ∈ order, e.reply ≠ .outOfRange := by
  induction legal with
  | nil => exact fun e mem => nomatch mem
  | snoc call op _ ih =>
    intro e mem
    rcases List.mem_append.mp mem with before | latest
    · exact ih e before
    · obtain rfl := List.mem_singleton.mp latest
      exact apply_never_outOfRange _ op

theorem legal_registered (legal : Legal apply v order final) :
    ∀ call schema, Entry.mk call (.registerSchema schema) .returned ∈ order →
      v.includesSchema schema.name = false ∧ final.lookup schema.name = some schema := by
  induction legal with
  | nil => exact fun call schema mem => nomatch mem
  | @snoc past o call op legal ih =>
    intro k schema mem
    rcases List.mem_append.mp mem with before | latest
    · obtain ⟨absent, there⟩ := ih k schema before
      exact ⟨absent, lookup_apply op there⟩
    · injection List.mem_singleton.mp latest with _ same done
      subst same
      obtain ⟨fresh, there⟩ := apply_register_returned done.symm
      refine ⟨?_, there⟩
      by_contra included
      obtain ⟨entry, old⟩ := Option.isSome_iff_exists.mp (Bool.of_not_eq_false included)
      rw [Validator.includesSchema, legal_lookup old legal] at fresh
      cases fresh

theorem legal_once (legal : Legal apply v order final) :
    ∀ j k first second, Entry.mk j (.registerSchema first) .returned ∈ order →
      Entry.mk k (.registerSchema second) .returned ∈ order → first.name = second.name →
      j = k := by
  induction legal with
  | nil => exact fun j k first second mem => nomatch mem
  | @snoc past o call op legal ih =>
    -- the latest registration found no schema of its name, an earlier one of it left one
    have latest_fresh : ∀ i schema k done, Entry.mk i (.registerSchema schema) .returned ∈ past →
        Entry.mk k (.registerSchema done) .returned = ⟨call, op, (apply o op).2⟩ →
        schema.name ≠ done.name := by
      intro i schema k done before latest same
      injection latest with _ op_eq reply_eq
      subst op_eq
      have fresh := (apply_register_returned reply_eq.symm).1
      have there := (legal_registered legal i schema before).2
      rw [← same, Validator.includesSchema, there] at fresh
      cases fresh
    intro j k first second one two same
    rcases List.mem_append.mp one with before | latest <;>
      rcases List.mem_append.mp two with before' | latest'
    · exact ih j k first second before before' same
    · exact absurd same
        (latest_fresh j first k second before (List.mem_singleton.mp latest'))
    · exact absurd same.symm
        (latest_fresh k second j first before' (List.mem_singleton.mp latest))
    · injection List.mem_singleton.mp latest with here
      injection List.mem_singleton.mp latest' with here'
      exact here.trans here'.symm

end legal

/-- A registered schema stays: no lookup of a call throws std::out_of_range, an entry of the map
    never changes, and of any number of registrations of a name one at most succeeds, and only
    where the name was free; its schema is the one that the map holds ever since. -/
theorem registered_once (v : Validator) {actions : List Action} {s : Store}
    (path : run Store.step (.start v) actions = some s) :
    (∀ k, .respond k .outOfRange ∉ actions.flatMap Action.seen) ∧
      (∀ schemaName entry, v.lookup schemaName = some entry →
        s.validator.lookup schemaName = some entry) ∧
      (∀ k schema, .invoke k (.registerSchema schema) ∈ actions.flatMap Action.seen →
        .respond k .returned ∈ actions.flatMap Action.seen →
        v.includesSchema schema.name = false ∧
          s.validator.lookup schema.name = some schema) ∧
      ∀ j k first second, .invoke j (.registerSchema first) ∈ actions.flatMap Action.seen →
        .respond j .returned ∈ actions.flatMap Action.seen →
        .invoke k (.registerSchema second) ∈ actions.flatMap Action.seen →
        .respond k .returned ∈ actions.flatMap Action.seen →
        first.name = second.name → j = k := by
  obtain ⟨final, related, order, explained⟩ := linearizable_of_simulated apply Related
    (related_start v) (fun _ _ _ _ related next => related_step related next) path
  rw [related.object] at explained
  have entry : ∀ k schema, .invoke k (.registerSchema schema) ∈ actions.flatMap Action.seen →
      .respond k .returned ∈ actions.flatMap Action.seen →
      Entry.mk k (.registerSchema schema) .returned ∈ order := by
    intro k schema asked done
    obtain ⟨op, mem⟩ := explained.answered k .returned done
    obtain rfl := (explained.invoked _ mem _).mp asked
    exact mem
  refine ⟨fun k answered => ?_, fun _ _ there => legal_lookup there explained.legal,
    fun k schema asked done =>
      legal_registered explained.legal k schema (entry k schema asked done),
    fun j k first second asked done asked' done' same => legal_once explained.legal j k first
      second (entry j first asked done) (entry k second asked' done') same⟩
  obtain ⟨op, mem⟩ := explained.answered k .outOfRange answered
  exact legal_never_outOfRange explained.legal _ mem rfl

theorem registered_once_race : ∃ s, run Store.step (.start {}) (race.take 17) = some s ∧
    s.validator.lookup "a" = some { name := "a" } := by
  obtain ⟨s, path⟩ := race_runs 17
  refine ⟨s, path, ?_⟩
  have once := registered_once {} path
  refine (once.2.2.1 0 { name := "a" } ?_ ?_).2
  · exact List.mem_flatMap.mpr ⟨.invoke 0 (.registerSchema { name := "a" }), by simp [race],
      List.mem_singleton.mpr rfl⟩
  · exact List.mem_flatMap.mpr ⟨.respond 0 .returned, by simp [race], List.mem_singleton.mpr rfl⟩

/-! Every call comes to its end. -/

def Place.rank : Place → Nat
  | .entering _ => 5
  | .testing _ => 4
  | .inserting _ | .found _ => 3
  | .leaving _ | .reading _ => 2
  | .answering _ => 1
  | .gone => 0

def Store.rank (call : Nat) (s : Store) : Nat := (s.calls[call]?.map Place.rank).getD 5

def Action.isOf (call : Nat) : Action → Bool
  | .invoke _ _ => false
  | .lock k | .test k | .insert k | .unlock k | .read k | .respond k _ => k = call

theorem rank_afterTest (v : Validator) (request : Request) : (afterTest v request).rank < 4 := by
  cases request <;> simp only [afterTest] <;> split <;> simp [Place.rank]

theorem rank_moved {s : Store} {call k : Nat} {p q : Place} (here : s.calls[k]? = some p)
    (less : q.rank < p.rank) :
    ((s.calls.set k q)[call]?.map Place.rank).getD 5 + (decide (k = call)).toNat ≤
      s.rank call := by
  by_cases same : k = call
  · subst same
    simp only [Store.rank, moved_self here, here, Option.map_some, Option.getD_some, decide_true,
      Bool.toNat_true]
    exact less
  · rw [moved_other (Ne.symm same), decide_eq_false same]
    exact Nat.le_refl _

theorem rank_step {s t : Store} (call : Nat) {a : Action} (next : s.step a = some t) :
    t.rank call + (a.isOf call).toNat ≤ s.rank call := by
  have did := store_cases next
  cases a with
  | invoke k request =>
    obtain ⟨_, rfl⟩ := did
    simp only [Store.rank, Action.isOf, Bool.toNat_false, Nat.add_zero]
    cases there : s.calls[call]? with
    | some p => simp [began_old there]
    | none =>
      cases now : (s.calls ++ [Place.entering request])[call]? with
      | none => exact Nat.le_refl _
      | some q =>
        rcases began_cases now with ⟨_, rfl⟩ | before
        · exact Nat.le_refl _
        · exact nomatch there.symm.trans before
  | lock k =>
    obtain ⟨request, here, _, rfl⟩ := did
    exact rank_moved here (by simp [Place.rank])
  | test k =>
    obtain ⟨request, here, rfl⟩ := did
    exact rank_moved here (rank_afterTest _ _)
  | insert k =>
    obtain ⟨schema, here, rfl⟩ := did
    exact rank_moved here (by simp [Place.rank])
  | unlock k =>
    obtain ⟨p, q, here, rfl, which⟩ := did
    refine rank_moved here ?_
    rcases which with ⟨_, rfl, rfl⟩ | ⟨_, rfl, rfl⟩ <;> simp [Place.rank]
  | read k =>
    obtain ⟨query, here, rfl⟩ := did
    exact rank_moved here (by simp [Place.rank])
  | respond k reply =>
    obtain ⟨here, rfl⟩ := did
    exact rank_moved here (by simp [Place.rank])

theorem holder_enabled {s : Store} {k : Nat} {p : Place} (here : s.calls[k]? = some p)
    (holds : p.holdsLock) : ∃ a t, a.isOf k = true ∧ s.step a = some t := by
  cases p with
  | testing request => exact ⟨.test k, _, decide_eq_true rfl, by simp only [Store.step, here]; rfl⟩
  | inserting schema =>
    exact ⟨.insert k, _, decide_eq_true rfl, by simp only [Store.step, here]; rfl⟩
  | found q => exact ⟨.unlock k, _, decide_eq_true rfl, by simp only [Store.step, here]; rfl⟩
  | leaving reply => exact ⟨.unlock k, _, decide_eq_true rfl, by simp only [Store.step, here]; rfl⟩
  | entering _ | reading _ | answering _ | gone => exact holds.elim

theorem some_enabled {s : Store} (locked : Locked s) {k : Nat} {p : Place}
    (here : s.calls[k]? = some p) (unfinished : p ≠ .gone) :
    ∃ j a t, a.isOf j = true ∧ s.step a = some t := by
  cases p with
  | entering request =>
    cases holder : s.lookupMutex with
    | none =>
      exact ⟨k, .lock k, _, decide_eq_true rfl, by simp only [Store.step, here, holder]; rfl⟩
    | some j =>
      obtain ⟨q, there, holds⟩ := locked.held j holder
      exact ⟨j, holder_enabled there holds⟩
  | testing _ | inserting _ | found _ | leaving _ => exact ⟨k, holder_enabled here trivial⟩
  | reading q => exact ⟨k, .read k, _, decide_eq_true rfl, by simp only [Store.step, here]; rfl⟩
  | answering reply =>
    exact ⟨k, .respond k reply, _, decide_eq_true rfl,
      by simp only [Store.step, here, if_true]; rfl⟩
  | gone => exact absurd rfl unfinished

/-- No deadlock and no endless wait: a call takes five steps at most, whatever the others do,
    and while some call has not returned some call can take a step. -/
theorem calls_complete (v : Validator) {actions : List Action} {s : Store}
    (path : run Store.step (.start v) actions = some s) :
    (∀ k, actions.countP (Action.isOf k) ≤ 5) ∧
      ∀ (k : Nat) (p : Place), s.calls[k]? = some p → p ≠ .gone →
        ∃ j a t, a.isOf j = true ∧ s.step a = some t := by
  refine ⟨fun k => ?_, fun k p here unfinished => ?_⟩
  · have paid := run_counted (Store.rank k) (Action.isOf k)
      (fun s a t next => rank_step k next) path
    have first : (Store.start v).rank k = 5 := rfl
    omega
  · have locked := run_keeps Locked (fun s a t holds next => locked_step holds next)
      (locked_start v) path
    exact some_enabled locked here unfinished

theorem calls_complete_race : ∃ s, run Store.step (.start {}) (race.take 9) = some s ∧
    (race.take 9).countP (Action.isOf 1) ≤ 5 := by
  obtain ⟨s, path⟩ := race_runs 9
  exact ⟨s, path, (calls_complete {} path).1 1⟩

end PcpConcurrentValidator
