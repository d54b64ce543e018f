import PcpClient.SchemaValidator
import Mathlib.Data.List.Perm.Basic

/-!
Schemas made of a new one by calls of addConstraint(), some of which may throw, and by the
copy constructor, and what a validator accepts by them.
-/
namespace PcpSchemaCalls
open PcpJson PcpSchema

inductive Call where
  | type (field : String) (type : TypeConstraint) (required : Bool)
  | subSchema (field : String) (subSchema : Schema) (required : Bool)

def Call.run : Call → Schema → Except Raised Unit × Schema
  | .type field t required, s => s.addConstraint field t required
  | .subSchema field sub required, s => s.addSubSchema field sub required

def Call.constraint : Call → FieldConstraint
  | .type field t required => ⟨field, .type t, required⟩
  | .subSchema field sub required => ⟨field, .items sub.getRaw, required⟩

def Call.insert (c : Call) (s : Schema) : Schema :=
  s.insertConstraint c.constraint.field c.constraint.constraint c.constraint.required

def Schema.after (s : Schema) (calls : List Call) : Schema :=
  calls.foldl (fun s c => (c.run s).2) s

def Schema.copy (s : Schema) : Schema where
  name := s.name
  contentType := s.contentType
  type := s.type
  parsedJsonSchema := s.parsedJsonSchema
  parsed := s.parsed
  properties := s.properties
  requiredProperties := s.requiredProperties

def Validates (s : Schema) (value : Json) : Prop :=
  ∀ v : Validator, v.lookup s.name = some s → v.validate value s.name = .ok ()

theorem validates_iff {s : Schema} {value : Json} : Validates s value ↔ s.accepts value = true := by
  constructor
  · intro validates
    have alone : (Validator.mk [s] (by simp)).lookup s.name = some s := by
      simp [Validator.lookup]
    obtain ⟨schema, found, accepted⟩ := validate_ok_iff.mp (validates _ alone)
    obtain rfl := Option.some.inj (alone.symm.trans found)
    exact accepted
  · intro accepted v found
    exact validate_ok_iff.mpr ⟨s, found, accepted⟩

theorem check_error_iff (s : Schema) :
    (∃ e, s.checkAddConstraint = .error e) ↔ s.parsed = true ∨ s.type ≠ .object := by
  unfold Schema.checkAddConstraint
  split
  · simp_all
  · split <;> simp_all

theorem run_eq (c : Call) (s : Schema) :
    c.run s = match s.checkAddConstraint with
      | .error e => (.error e, s)
      | .ok () => (.ok (), c.insert s) := by
  cases c <;> rfl

theorem run_cases (c : Call) (s : Schema) :
    ((s.parsed = true ∨ s.type ≠ .object) ∧ ∃ e, c.run s = (.error e, s)) ∨
      s.parsed = false ∧ s.type = .object ∧ c.run s = (.ok (), c.insert s) := by
  by_cases refused : s.parsed = true ∨ s.type ≠ .object
  · obtain ⟨e, failed⟩ := (check_error_iff s).mpr refused
    exact .inl ⟨refused, e, by rw [run_eq, failed]⟩
  · simp only [not_or, Bool.not_eq_true, Decidable.not_not] at refused
    obtain ⟨built, object⟩ := refused
    have check : s.checkAddConstraint = .ok () := by
      simp [Schema.checkAddConstraint, built, object]
    exact .inr ⟨built, object, by rw [run_eq, check]⟩

theorem run_error_iff (c : Call) (s : Schema) :
    (∃ e, (c.run s).1 = .error e) ↔ s.parsed = true ∨ s.type ≠ .object := by
  rw [← check_error_iff, run_eq]
  cases s.checkAddConstraint <;> simp

theorem after_eq (name : String) (contentType : ContentType) (calls : List Call) :
    Schema.after (.create name contentType .object) calls =
      .ofConstraints name contentType (calls.map Call.constraint) := by
  induction calls using List.reverseRecOn with
  | nil => rfl
  | append_singleton calls c ih =>
    have last : Schema.after (.create name contentType .object) (calls ++ [c]) =
        (c.run (Schema.after (.create name contentType .object) calls)).2 := by
      simp [Schema.after]
    obtain ⟨built, object, _⟩ :=
      ofConstraints_object name contentType (calls.map Call.constraint)
    rw [last, ih, List.map_append, List.map_cons, List.map_nil, ofConstraints_snoc]
    rcases run_cases c (.ofConstraints name contentType (calls.map Call.constraint)) with
      ⟨refused, _⟩ | ⟨_, _, returned⟩
    · simp [built, object] at refused
    · rw [returned, Call.insert]

/-! Calls that give types, and copies, on any number of schemas. -/

structure TypeCall where
  field : String
  type : TypeConstraint
  required : Bool
  deriving DecidableEq, Repr

def TypeCall.call (c : TypeCall) : Call := .type c.field c.type c.required

/-- A schema, and the calls that have succeeded on it or, before it was copied, on the one
    that it is a copy of. -/
structure Made where
  schema : Schema
  calls : List TypeCall

def Made.new (name : String) (contentType : ContentType) (type : TypeConstraint) : Made :=
  ⟨.create name contentType type, []⟩

def Made.addConstraint (m : Made) (c : TypeCall) : Made :=
  match m.schema.addConstraint c.field c.type c.required with
  | (.ok (), s) => ⟨s, m.calls ++ [c]⟩
  | (.error _, s) => ⟨s, m.calls⟩

inductive Op where
  | addConstraint (i : Nat) (c : TypeCall)
  | copy (i : Nat)

def Op.run (schemas : List Made) : Op → List Made
  | .addConstraint i c => schemas.modify i (·.addConstraint c)
  | .copy i => schemas ++ (schemas[i]?.map fun m => ⟨Schema.copy m.schema, m.calls⟩).toList

/-- The schemas there are after the operations on a new one. -/
def schemasAfter (name : String) (contentType : ContentType) (type : TypeConstraint)
    (ops : List Op) : List Made :=
  ops.foldl Op.run [.new name contentType type]

/-- The value has the type of the schema, all fields that were made required, and in each
    field the types that were given for it. -/
structure Fits (type : TypeConstraint) (calls : List TypeCall) (value : Json) : Prop where
  typed : type.accepts value = true
  present : ∀ c ∈ calls, c.required = true → value.includes c.field = true
  fitting : ∀ c ∈ calls, ∀ member ∈ value.values c.field, c.type.accepts member = true

/-- And, once a field was given, no member but those that were. -/
structure Means (type : TypeConstraint) (calls : List TypeCall) (value : Json) : Prop
    extends Fits type calls value where
  named : calls ≠ [] → ∀ m ∈ value.members, ∃ c ∈ calls, c.field = m.1

structure Made.Holds (name : String) (contentType : ContentType) (type : TypeConstraint)
    (m : Made) : Prop where
  schema : m.schema = (Schema.create name contentType type).insertAll
    (m.calls.map fun c => c.call.constraint)
  calls : type ≠ .object → m.calls = []

theorem Made.Holds.type_eq {name : String} {contentType : ContentType} {type : TypeConstraint}
    {m : Made} (holds : m.Holds name contentType type) :
    m.schema.parsed = false ∧ m.schema.type = type := by
  by_cases object : type = .object
  · subst object
    obtain ⟨built, object, _⟩ :=
      ofConstraints_object name contentType (m.calls.map fun c => c.call.constraint)
    rw [holds.schema]
    exact ⟨built, object⟩
  · rw [holds.schema, holds.calls object]
    exact ⟨rfl, rfl⟩

theorem addConstraint_cases {name : String} {contentType : ContentType} {type : TypeConstraint}
    {m : Made} (holds : m.Holds name contentType type) (c : TypeCall) :
    type ≠ .object ∧ m.addConstraint c = m ∨
      type = .object ∧ m.addConstraint c = ⟨c.call.insert m.schema, m.calls ++ [c]⟩ := by
  obtain ⟨built, typed⟩ := holds.type_eq
  have run : m.schema.addConstraint c.field c.type c.required = c.call.run m.schema := rfl
  rcases run_cases c.call m.schema with ⟨refused, e, same⟩ | ⟨_, object, returned⟩
  · refine .inl ⟨?_, by rw [Made.addConstraint, run, same]⟩
    rw [built, typed] at refused
    exact refused.resolve_left (by simp)
  · exact .inr ⟨typed.symm.trans object, by rw [Made.addConstraint, run, returned]⟩

theorem addConstraint_holds {name : String} {contentType : ContentType} {type : TypeConstraint}
    {m : Made} (holds : m.Holds name contentType type) (c : TypeCall) :
    (m.addConstraint c).Holds name contentType type := by
  rcases addConstraint_cases holds c with ⟨_, same⟩ | ⟨object, added⟩
  · rw [same]
    exact holds
  · rw [added]
    refine ⟨?_, fun other => absurd object other⟩
    simp [Call.insert, holds.schema, Schema.insertAll]

theorem schemasAfter_holds (name : String) (contentType : ContentType) (type : TypeConstraint)
    (ops : List Op) :
    ∀ m ∈ schemasAfter name contentType type ops, m.Holds name contentType type := by
  induction ops using List.reverseRecOn with
  | nil =>
    intro m mem
    rw [List.mem_singleton.mp mem]
    exact ⟨rfl, fun _ => rfl⟩
  | append_singleton ops op ih =>
    rw [schemasAfter, List.foldl_append, List.foldl_cons, List.foldl_nil, ← schemasAfter]
    cases op with
    | addConstraint i c =>
      intro m mem
      obtain ⟨j, found⟩ := List.mem_iff_getElem?.mp mem
      rw [Op.run, List.getElem?_modify] at found
      split at found
      · obtain ⟨old, here, rfl⟩ := Option.map_eq_some_iff.mp found
        exact addConstraint_holds (ih old (List.mem_of_getElem? here)) c
      · obtain ⟨old, here, rfl⟩ := Option.map_eq_some_iff.mp found
        exact ih old (List.mem_of_getElem? here)
    | copy i =>
      intro m mem
      rcases List.mem_append.mp mem with old | copied
      · exact ih m old
      · simp only [Option.mem_toList, Option.map_eq_some_iff] at copied
        obtain ⟨source, found, rfl⟩ := copied
        exact ih source (List.mem_of_getElem? found)

theorem Made.Holds.accepts_iff {name : String} {contentType : ContentType}
    {type : TypeConstraint} {m : Made} (holds : m.Holds name contentType type) (value : Json) :
    m.schema.accepts value = true ↔ Means type m.calls value := by
  by_cases object : type = .object
  · subst object
    rw [holds.schema]
    change (Schema.ofConstraints _ _ _).accepts value = true ↔ _
    rw [ofConstraints_accepts_iff]
    simp only [List.forall_mem_map, ne_eq, List.map_eq_nil_iff]
    simp only [List.mem_map, exists_exists_and_eq_and]
    constructor
    · rintro ⟨typed, every, named⟩
      exact ⟨⟨typed, fun c mem => (every c mem).1, fun c mem => (every c mem).2⟩, named⟩
    · rintro ⟨⟨typed, present, fitting⟩, named⟩
      exact ⟨typed, fun c mem => ⟨present c mem, fitting c mem⟩, named⟩
  · have plain : m.schema.accepts value = type.accepts value := by
      rw [holds.schema, holds.calls object]
      simp [Schema.insertAll, Schema.accepts, Schema.getRaw, Schema.create, acceptsAll,
        Constraint.accepts]
    rw [plain, holds.calls object]
    exact ⟨fun typed => ⟨⟨typed, by simp, by simp⟩, by simp⟩, fun means => means.typed⟩

def Made.after (name : String) (contentType : ContentType) (type : TypeConstraint)
    (calls : List TypeCall) : Made :=
  calls.foldl Made.addConstraint (.new name contentType type)

theorem after_holds (name : String) (contentType : ContentType) (type : TypeConstraint)
    (calls : List TypeCall) :
    (Made.after name contentType type calls).Holds name contentType type ∧
      (Made.after name contentType type calls).calls = if type = .object then calls else [] := by
  induction calls using List.reverseRecOn with
  | nil => exact ⟨⟨rfl, fun _ => rfl⟩, by simp [Made.after, Made.new]⟩
  | append_singleton calls c ih =>
    obtain ⟨holds, all⟩ := ih
    have last : Made.after name contentType type (calls ++ [c]) =
        (Made.after name contentType type calls).addConstraint c := by
      simp [Made.after]
    rw [last]
    refine ⟨addConstraint_holds holds c, ?_⟩
    rcases addConstraint_cases holds c with ⟨other, same⟩ | ⟨object, added⟩
    · rw [same, all, if_neg other, if_neg other]
    · rw [added, all, if_pos object, if_pos object]

theorem Means.perm {type : TypeConstraint} {calls other : List TypeCall} {value : Json}
    (reordered : calls.Perm other) (means : Means type calls value) : Means type other value where
  typed := means.typed
  present c mem := means.present c (reordered.mem_iff.mpr mem)
  fitting c mem := means.fitting c (reordered.mem_iff.mpr mem)
  named given m mem := by
    have before : calls ≠ [] := fun none => by
      subst none
      exact given reordered.nil_eq.symm
    obtain ⟨c, listed, same⟩ := means.named before m mem
    exact ⟨c, reordered.mem_iff.mp listed, same⟩

theorem after_perm (name : String) (contentType : ContentType) (type : TypeConstraint)
    {calls other : List TypeCall} (reordered : calls.Perm other) (value : Json) :
    (Made.after name contentType type calls).schema.accepts value = true ↔
      (Made.after name contentType type other).schema.accepts value = true := by
  obtain ⟨first, firstCalls⟩ := after_holds name contentType type calls
  obtain ⟨second, secondCalls⟩ := after_holds name contentType type other
  have perm : (Made.after name contentType type calls).calls.Perm
      (Made.after name contentType type other).calls := by
    rw [firstCalls, secondCalls]
    split
    · exact reordered
    · exact .refl _
  rw [first.accepts_iff, second.accepts_iff]
  exact ⟨Means.perm perm, Means.perm perm.symm⟩

/-- Whatever calls and copies are made, a validator accepts by each schema what the calls
    mean that have succeeded on it and on what it was copied from; the order of the calls
    makes no difference; and a call throws on a parsed schema or one that is not of type
    object, and then leaves it as it was. -/
theorem schema_meaning :
    (∀ name contentType type ops, ∀ m ∈ schemasAfter name contentType type ops, ∀ value,
      Validates m.schema value ↔ Means type m.calls value) ∧
    (∀ name contentType type (calls other : List TypeCall) value, calls.Perm other →
      (Validates (Made.after name contentType type calls).schema value ↔
        Validates (Made.after name contentType type other).schema value)) ∧
    ∀ (s : Schema) field type required,
      ((∃ e, (s.addConstraint field type required).1 = .error e) ↔
        s.parsed = true ∨ s.type ≠ .object) ∧
      ∀ e, (s.addConstraint field type required).1 = .error e →
        (s.addConstraint field type required).2 = s := by
  refine ⟨fun name contentType type ops m made value => ?_,
    fun name contentType type calls other value reordered => ?_,
    fun s field type required => ⟨run_error_iff (.type field type required) s, fun e failed => ?_⟩⟩
  · rw [validates_iff, (schemasAfter_holds name contentType type ops m made).accepts_iff]
  · rw [validates_iff, validates_iff, after_perm name contentType type reordered]
  · have run : s.addConstraint field type required =
        (Call.type field type required).run s := rfl
    rw [run] at failed ⊢
    rcases run_cases (.type field type required) s with ⟨_, _, same⟩ | ⟨_, _, returned⟩
    · rw [same]
    · simp [returned] at failed

/-- A member that no call has named is not allowed, although nothing was said of it. -/
theorem unnamed_member_rejected :
    let value := Json.obj [("a", .int 1), ("c", .int 3)]
    ∃ m ∈ schemasAfter "spam" .json .object [.addConstraint 0 ⟨"a", .int, false⟩],
      Fits .object m.calls value ∧ ¬Validates m.schema value := by
  refine ⟨Made.after "spam" .json .object [⟨"a", .int, false⟩], List.mem_singleton.mpr rfl,
    ⟨rfl, by decide, by decide⟩, ?_⟩
  rw [validates_iff]
  decide

/-- A field with two types takes the values that have both. -/
example : (Made.after "spam" .json .object
    [⟨"foo", .int, false⟩, ⟨"foo", .double, true⟩]).schema.accepts
      (.obj [("foo", .int 1)]) = true := by decide

end PcpSchemaCalls
