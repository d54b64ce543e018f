import PcpClient.MessageDispatch
import PcpClient.Transitions

/-!
registerMessageCallback() of a connector: the schemas that its validator knows and its
callbacks after any sequence of calls, some of which throw.
-/
namespace PcpRegistry
open PcpTransitions PcpJson PcpSchema PcpProtocol PcpDispatch

/-- The members validator_ and schema_callback_pairs_ of ConnectorBase. -/
structure CallbackMap where
  validator : Validator
  callbacks : List (String × Callback) := []

/-- insert() of a map keeps the value that a key has. -/
def insertPair (pair : String × Callback) (callbacks : List (String × Callback)) :
    List (String × Callback) :=
  if (callbacks.lookup pair.1).isSome then callbacks else callbacks ++ [pair]

def registerMessageCallback (schema : Schema) (callback : Callback) :
    ExceptT Raised (StateM CallbackMap) Unit := do
  let m ← get
  let validator ← m.validator.registerSchema schema
  modify fun m => { m with validator }
  modify fun m => { m with callbacks := insertPair (schema.name, callback) m.callbacks }

def CallbackMap.call (m : CallbackMap) (entry : Schema × Callback) :
    Except Raised Unit × CallbackMap :=
  (registerMessageCallback entry.1 entry.2).run.run m

def CallbackMap.registerAll (m : CallbackMap) (calls : List (Schema × Callback)) : CallbackMap :=
  calls.foldl (fun m entry => (m.call entry).2) m

def Registered (base : CallbackMap) (calls : List (Schema × Callback))
    (entry : Schema × Callback) : Prop :=
  ∃ before after, calls = before ++ entry :: after ∧
    ((base.registerAll before).call entry).1 = .ok ()

def userEntries (calls : List (Schema × Nat)) : List (Schema × Callback) :=
  calls.map fun c => (c.1, .registered c.2)

theorem call_known {m : CallbackMap} {entry : Schema × Callback}
    (known : m.validator.includesSchema entry.1.name = true) :
    m.call entry = (.error
      (.schemaRedefinitionError ("schema '" ++ entry.1.name ++ "' already defined")), m) := by
  have refused : m.validator.registerSchema entry.1 = .error _ := dif_pos known
  unfold CallbackMap.call registerMessageCallback
  simp only [ExceptT.run, bind, ExceptT.bind, ExceptT.mk, StateT.bind, StateT.run, get, getThe,
    MonadStateOf.get, liftM, monadLift, MonadLift.monadLift, ExceptT.lift, StateT.get, pure,
    Functor.map, StateT.map, ExceptT.bindCont, refused]
  rfl

theorem call_fresh {m : CallbackMap} {entry : Schema × Callback}
    (fresh : ¬m.validator.includesSchema entry.1.name = true) :
    m.call entry = (.ok (), ⟨⟨m.validator.schemaMap ++ [entry.1], distinct_snoc fresh⟩,
      insertPair (entry.1.name, entry.2) m.callbacks⟩) := by
  have taken : m.validator.registerSchema entry.1 = .ok _ := dif_neg fresh
  unfold CallbackMap.call registerMessageCallback
  simp only [ExceptT.run, bind, ExceptT.bind, ExceptT.mk, StateT.bind, StateT.run, get, getThe,
    MonadStateOf.get, liftM, monadLift, MonadLift.monadLift, ExceptT.lift, StateT.get, pure,
    Functor.map, StateT.map, ExceptT.bindCont, taken]
  rfl

theorem call_ok_iff (m : CallbackMap) (entry : Schema × Callback) :
    (m.call entry).1 = .ok () ↔ m.validator.includesSchema entry.1.name = false := by
  by_cases known : m.validator.includesSchema entry.1.name = true
  · simp [call_known known, known]
  · simpa [call_fresh known] using known

theorem call_failed {m : CallbackMap} {entry : Schema × Callback} {e : Raised}
    (failed : (m.call entry).1 = .error e) : (m.call entry).2 = m := by
  by_cases known : m.validator.includesSchema entry.1.name = true
  · rw [call_known known]
  · simp [call_fresh known] at failed

theorem registerAll_snoc (m : CallbackMap) (calls : List (Schema × Callback))
    (entry : Schema × Callback) :
    m.registerAll (calls ++ [entry]) = ((m.registerAll calls).call entry).2 := by
  simp [CallbackMap.registerAll]

theorem registered_snoc_iff {base : CallbackMap} {calls : List (Schema × Callback)}
    {latest entry : Schema × Callback} :
    Registered base (calls ++ [latest]) entry ↔ Registered base calls entry ∨
      entry = latest ∧ ((base.registerAll calls).call latest).1 = .ok () := by
  constructor
  · rintro ⟨before, after, split, succeeded⟩
    rcases snoc_split split with ⟨rfl, rfl, rfl⟩ | ⟨rest, rfl, rfl⟩
    · exact .inr ⟨rfl, succeeded⟩
    · exact .inl ⟨before, rest, rfl, succeeded⟩
  · rintro (⟨before, after, rfl, succeeded⟩ | ⟨rfl, succeeded⟩)
    · exact ⟨before, after ++ [latest], by simp, succeeded⟩
    · exact ⟨calls, [], rfl, succeeded⟩

theorem registered_mem {base : CallbackMap} {calls : List (Schema × Callback)}
    {entry : Schema × Callback} (registered : Registered base calls entry) : entry ∈ calls := by
  obtain ⟨before, after, rfl, _⟩ := registered
  simp

theorem lookup_insertPair {callbacks : List (String × Callback)} {pair : String × Callback}
    (absent : callbacks.lookup pair.1 = none) (name : String) :
    (insertPair pair callbacks).lookup name =
      if name = pair.1 then some pair.2 else callbacks.lookup name := by
  obtain ⟨key, value⟩ := pair
  rw [insertPair, absent, if_neg (by simp), List.lookup_append]
  by_cases same : name = key
  · subst same
    simp only at absent
    simp [absent]
  · have missing : (name == key) = false := by simpa using same
    simp [List.lookup_cons, missing, same]

theorem validator_snoc {v : Validator} {schema : Schema}
    (fresh : ¬v.includesSchema schema.name = true) (name : String) :
    (Validator.mk (v.schemaMap ++ [schema]) (distinct_snoc fresh)).lookup name =
      if name = schema.name then some schema else v.lookup name := by
  simp only [Validator.lookup, List.find?_append, List.find?_singleton]
  by_cases same : name = schema.name
  · subst same
    have absent : v.lookup schema.name = none := by simpa [Validator.includesSchema] using fresh
    simp only [Validator.lookup] at absent
    simp [absent]
  · have missing : ¬schema.name = name := fun other => same other.symm
    simp [missing, same]

section History
variable (base : CallbackMap) (unset : base.callbacks = [])

theorem known_iff (calls : List (Schema × Callback)) (schema : Schema) :
    (base.registerAll calls).validator.lookup schema.name = some schema ↔
      base.validator.lookup schema.name = some schema ∨
        ∃ callback, Registered base calls (schema, callback) := by
  induction calls using List.reverseRecOn with
  | nil =>
    constructor
    · exact .inl
    · rintro (known | ⟨_, before, after, split, _⟩)
      · exact known
      · simp at split
  | append_singleton calls entry ih =>
    rw [registerAll_snoc]
    by_cases known : (base.registerAll calls).validator.includesSchema entry.1.name = true
    · simp only [call_known known, registered_snoc_iff, reduceCtorEq, and_false, or_false, ih]
    · rw [call_fresh known, validator_snoc known]
      simp only [registered_snoc_iff, call_fresh known, and_true]
      split
      · rename_i same
        constructor
        · intro found
          obtain rfl := Option.some.inj found
          exact .inr ⟨entry.2, .inr rfl⟩
        · intro found
          have earlier : ¬(base.registerAll calls).validator.lookup schema.name = some schema := by
            intro found
            refine known (Option.isSome_iff_exists.mpr ⟨schema, ?_⟩)
            rw [← same]
            exact found
          rw [ih] at earlier
          rcases found with before | ⟨callback, registered | latest⟩
          · exact absurd (.inl before) earlier
          · exact absurd (.inr ⟨callback, registered⟩) earlier
          · rw [← latest]
      · rename_i other
        rw [ih]
        constructor
        · rintro (before | ⟨callback, registered⟩)
          · exact .inl before
          · exact .inr ⟨callback, .inl registered⟩
        · rintro (before | ⟨callback, registered | latest⟩)
          · exact .inl before
          · exact .inr ⟨callback, registered⟩
          · exact absurd (congrArg (fun e => e.1.name) latest) other

theorem registered_known {calls : List (Schema × Callback)} {entry : Schema × Callback}
    (registered : Registered base calls entry) :
    (base.registerAll calls).validator.lookup entry.1.name = some entry.1 :=
  (known_iff base calls entry.1).mpr (.inr ⟨entry.2, registered⟩)

include unset

theorem callback_iff (calls : List (Schema × Callback)) (name : String) (callback : Callback) :
    (base.registerAll calls).callbacks.lookup name = some callback ↔
      ∃ schema, schema.name = name ∧ Registered base calls (schema, callback) := by
  induction calls using List.reverseRecOn generalizing name callback with
  | nil =>
    have none : (base.registerAll []).callbacks = [] := unset
    rw [none]
    constructor
    · intro found
      cases found
    · rintro ⟨_, _, before, after, split, _⟩
      simp at split
  | append_singleton calls entry ih =>
    rw [registerAll_snoc]
    by_cases known : (base.registerAll calls).validator.includesSchema entry.1.name = true
    · simp only [call_known known, registered_snoc_iff, reduceCtorEq, and_false, or_false, ih]
    · have fresh : ∀ schema callback, schema.name = entry.1.name →
          ¬Registered base calls (schema, callback) := by
        intro schema other same registered
        refine known (Option.isSome_iff_exists.mpr ⟨schema, ?_⟩)
        rw [← same]
        exact registered_known base registered
      have absent : (base.registerAll calls).callbacks.lookup entry.1.name = none := by
        refine Option.eq_none_iff_forall_ne_some.mpr fun other found => ?_
        obtain ⟨schema, same, registered⟩ := (ih entry.1.name other).mp found
        exact fresh schema other same registered
      rw [call_fresh known]
      dsimp only
      rw [lookup_insertPair absent]
      simp only [registered_snoc_iff, call_fresh known, and_true]
      split
      · rename_i same
        constructor
        · intro found
          obtain rfl := Option.some.inj found
          exact ⟨entry.1, same.symm, .inr rfl⟩
        · rintro ⟨schema, named, registered | latest⟩
          · exact absurd registered (fresh schema callback (named.trans same))
          · rw [← latest]
      · rename_i other
        rw [ih]
        constructor
        · rintro ⟨schema, named, registered⟩
          exact ⟨schema, named, .inl registered⟩
        · rintro ⟨schema, named, registered | latest⟩
          · exact ⟨schema, named, registered⟩
          · exact absurd (named.symm.trans (congrArg (fun e => e.1.name) latest)) other

theorem registered_unique {calls : List (Schema × Callback)} {first second : Schema × Callback}
    (one : Registered base calls first) (two : Registered base calls second)
    (same : first.1.name = second.1.name) : first = second := by
  have schemas := registered_known base one
  rw [same, registered_known base two] at schemas
  have callbacks := (callback_iff base unset calls first.1.name first.2).mpr ⟨first.1, rfl, one⟩
  rw [(callback_iff base unset calls first.1.name second.2).mpr ⟨second.1, same.symm, two⟩]
    at callbacks
  exact Prod.ext (Option.some.inj schemas).symm (Option.some.inj callbacks).symm

end History

/-! The connectors: what their constructors register before they call
registerMessageCallback(), and the registry of v1::Connector after the calls. -/

def v1Base : CallbackMap where
  validator := ⟨[V1.envelopeSchema, V1.debugSchema, V1.debugItemSchema], by decide⟩

def v2Base : CallbackMap where
  validator := ⟨[V2.envelopeSchema], by decide⟩

def Registry.toMap (r : Registry) : CallbackMap := ⟨r.validator, r.callbacks⟩

def Registry.registerAll (r : Registry) (calls : List (Schema × Callback)) : Registry :=
  calls.foldl (fun r entry =>
    match r.registerMessageCallback entry.1 entry.2 with
    | .ok r' => r'
    | .error _ => r) r

def Setup.registering (cfg : Setup) (calls : List (Schema × Nat)) : Setup :=
  { cfg with registry := Registry.registerAll .create (userEntries calls) }

theorem create_toMap : Registry.toMap .create = v1Base.registerAll protocolCallbacks := by rfl

theorem toMap_call (r : Registry) (entry : Schema × Callback) :
    (Registry.toMap r).call entry = match r.registerMessageCallback entry.1 entry.2 with
      | .ok r' => (.ok (), Registry.toMap r')
      | .error e => (.error e, Registry.toMap r) := by
  by_cases known : r.validator.includesSchema entry.1.name = true
  · have refused : r.registerMessageCallback entry.1 entry.2 = .error _ := dif_pos known
    rw [refused, call_known (m := Registry.toMap r) known]
  · have taken : r.registerMessageCallback entry.1 entry.2 = .ok _ := dif_neg known
    have absent : (Registry.toMap r).callbacks.lookup entry.1.name = none := by
      refine Option.eq_none_iff_forall_ne_some.mpr fun other found => ?_
      exact known (r.known entry.1.name other found)
    rw [taken, call_fresh (m := Registry.toMap r) known, insertPair, absent, if_neg (by simp)]
    rfl

theorem registerAll_toMap (r : Registry) (calls : List (Schema × Callback)) :
    Registry.toMap (Registry.registerAll r calls) = (Registry.toMap r).registerAll calls := by
  induction calls generalizing r with
  | nil => rfl
  | cons entry calls ih =>
    simp only [Registry.registerAll, CallbackMap.registerAll, List.foldl_cons] at ih ⊢
    rw [ih, toMap_call]
    cases r.registerMessageCallback entry.1 entry.2 <;> rfl

theorem registering_toMap (cfg : Setup) (calls : List (Schema × Nat)) :
    Registry.toMap (Setup.registering cfg calls).registry =
      v1Base.registerAll (protocolCallbacks ++ userEntries calls) := by
  rw [Setup.registering, registerAll_toMap, create_toMap, CallbackMap.registerAll,
    CallbackMap.registerAll, CallbackMap.registerAll, List.foldl_append]

end PcpRegistry
