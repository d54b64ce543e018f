import PcpClient.JsonContainer
import Mathlib.Data.List.Induction
import Mathlib.Data.List.Basic
import Mathlib.Tactic.Tauto

/-!
Schema and Validator. A schema is the list of its valijson constraints; those of a schema
document are known by what they accept. The properties that getRaw() hands over come without
patterns and without additionalProperties, and valijson then rejects every member of an
object that they do not name.
-/
namespace PcpSchema
open PcpJson

inductive TypeConstraint where
  | object | array | string | int | bool | double | null | any
  deriving DecidableEq, Repr

inductive ContentType where
  | json | binary
  deriving DecidableEq, Repr

def TypeConstraint.accepts : TypeConstraint → Json → Bool
  | .object, .obj _ => true
  | .array, .arr _ => true
  | .string, .str _ => true
  | .int, .int _ => true
  | .bool, .bool _ => true
  | .double, .int _ => true
  | .double, .decimal _ _ => true
  | .null, .null => true
  | .any, _ => true
  | _, _ => false

inductive Constraint where
  | type (t : TypeConstraint)
  | properties (fields : List (String × List Constraint))
  | required (names : List String)
  | items (schema : List Constraint)
  | document (accepts : Json → Bool)

abbrev RawSchema := List Constraint

mutual

def Constraint.accepts : Constraint → Json → Bool
  | .type t, value => t.accepts value
  | .properties fields, .obj members => members.all fun m => acceptsField fields m.1 m.2
  | .properties _, _ => true
  | .required names, .obj members => names.all fun name => (members.lookup name).isSome
  | .required _, _ => false
  | .items schema, .arr values => values.all (acceptsAll schema)
  | .items _, _ => true
  | .document accepts, value => accepts value

def acceptsAll : List Constraint → Json → Bool
  | [], _ => true
  | c :: rest, value => c.accepts value && acceptsAll rest value

/-- A member against the properties: an unnamed one fails. -/
def acceptsField : List (String × List Constraint) → String → Json → Bool
  | [], _, _ => false
  | (field, constraints) :: rest, name, value =>
    if name = field then acceptsAll constraints value else acceptsField rest name value

end

structure Schema where
  name : String
  contentType : ContentType := .json
  type : TypeConstraint := .object
  parsedJsonSchema : RawSchema := []
  parsed : Bool := false
  properties : List (String × RawSchema) := []
  requiredProperties : List String := []

/-- The constructors of a schema without constraints. -/
def Schema.create (name : String) (contentType : ContentType) (type : TypeConstraint) : Schema :=
  { name, contentType, type }

/-- The constructor from the constraints that parseSchema() finds in a document. -/
def Schema.ofDocument (name : String) (raw : RawSchema) : Schema :=
  { name, parsedJsonSchema := raw, parsed := true }

def Schema.checkAddConstraint (s : Schema) : Except Raised Unit :=
  if s.parsed then .error (.schemaError "schema was populate by parsing JSON")
  else if s.type ≠ .object then .error (.schemaError "type is not JSON Object")
  else .ok ()

/-- `(*properties_)[field].addConstraint(constraint)`. -/
def addProperty (field : String) (c : Constraint) :
    List (String × RawSchema) → List (String × RawSchema)
  | [] => [(field, [c])]
  | (name, constraints) :: rest =>
    if name = field then (name, constraints ++ [c]) :: rest
    else (name, constraints) :: addProperty field c rest

def Schema.insertConstraint (s : Schema) (field : String) (c : Constraint) (required : Bool) :
    Schema :=
  { s with
    properties := addProperty field c s.properties
    requiredProperties :=
      if required then s.requiredProperties.insert field else s.requiredProperties }

def Schema.getRaw (s : Schema) : RawSchema :=
  if s.parsed then s.parsedJsonSchema
  else [.type s.type]
    ++ (if s.properties.isEmpty then [] else [.properties s.properties])
    ++ (if s.requiredProperties.isEmpty then [] else [.required s.requiredProperties])

/-- addConstraint() of a type: how the call ends, and the schema after it. -/
def Schema.addConstraint (s : Schema) (field : String) (type : TypeConstraint)
    (required : Bool) : Except Raised Unit × Schema :=
  match s.checkAddConstraint with
  | .error e => (.error e, s)
  | .ok () => (.ok (), s.insertConstraint field (.type type) required)

/-- addConstraint() of a sub-schema. -/
def Schema.addSubSchema (s : Schema) (field : String) (subSchema : Schema) (required : Bool) :
    Except Raised Unit × Schema :=
  match s.checkAddConstraint with
  | .error e => (.error e, s)
  | .ok () => (.ok (), s.insertConstraint field (.items subSchema.getRaw) required)

def Schema.accepts (s : Schema) (data : Json) : Bool := acceptsAll s.getRaw data

structure Validator where
  schemaMap : List Schema := []
  distinct : (schemaMap.map Schema.name).Nodup := by simp

def Validator.lookup (v : Validator) (schemaName : String) : Option Schema :=
  v.schemaMap.find? fun s => s.name = schemaName

def Validator.includesSchema (v : Validator) (schemaName : String) : Bool :=
  (v.lookup schemaName).isSome

theorem distinct_snoc {v : Validator} {schema : Schema}
    (fresh : ¬v.includesSchema schema.name = true) :
    ((v.schemaMap ++ [schema]).map Schema.name).Nodup := by
  simp only [Validator.includesSchema, Validator.lookup, List.find?_isSome, decide_eq_true_eq,
    not_exists, not_and] at fresh
  rw [List.map_append, List.nodup_append]
  refine ⟨v.distinct, by simp, ?_⟩
  simp only [List.mem_map, List.map_cons, List.map_nil, List.mem_singleton]
  rintro name ⟨other, member, rfl⟩ name' rfl same
  exact fresh other member same

def Validator.registerSchema (v : Validator) (schema : Schema) : Except Raised Validator :=
  if included : v.includesSchema schema.name = true then
    .error (.schemaRedefinitionError ("schema '" ++ schema.name ++ "' already defined"))
  else .ok ⟨v.schemaMap ++ [schema], distinct_snoc included⟩

def notRegistered (schemaName : String) : Raised :=
  .schemaNotFoundError ("'" ++ schemaName ++ "' is not a registered schema")

def Validator.validate (v : Validator) (data : Json) (schemaName : String) :
    Except Raised Unit :=
  match v.lookup schemaName with
  | none => .error (notRegistered schemaName)
  | some schema =>
    if schema.accepts data then .ok ()
    else .error (.validationError ("does not match schema: '" ++ schemaName ++ "'"))

def Validator.getSchemaContentType (v : Validator) (schemaName : String) :
    Except Raised ContentType :=
  match v.lookup schemaName with
  | none => .error (notRegistered schemaName)
  | some schema => .ok schema.contentType

theorem validate_ok_iff {v : Validator} {data : Json} {schemaName : String} :
    v.validate data schemaName = .ok () ↔
      ∃ schema, v.lookup schemaName = some schema ∧ schema.accepts data = true := by
  unfold Validator.validate
  cases v.lookup schemaName with
  | none => simp
  | some schema => cases accepted : schema.accepts data <;> simp [accepted]

theorem validate_error {v : Validator} {data : Json} {schemaName : String} {e : Raised}
    (failed : v.validate data schemaName = .error e) : e.isValidatorError = true := by
  unfold Validator.validate at failed
  split at failed
  · cases failed
    rfl
  · split at failed
    · cases failed
    · cases failed
      rfl

theorem acceptsAll_iff (constraints : List Constraint) (value : Json) :
    acceptsAll constraints value = true ↔ ∀ c ∈ constraints, c.accepts value = true := by
  induction constraints with
  | nil => simp [acceptsAll]
  | cons c rest ih => simp [acceptsAll, ih]

theorem acceptsAll_append (first second : List Constraint) (value : Json) :
    acceptsAll (first ++ second) value = (acceptsAll first value && acceptsAll second value) := by
  induction first with
  | nil => rfl
  | cons c first ih => simp only [List.cons_append, acceptsAll, ih, Bool.and_assoc]

theorem acceptsField_iff (fields : List (String × RawSchema)) (name : String) (value : Json) :
    acceptsField fields name value = true ↔
      ∃ constraints, fields.lookup name = some constraints ∧
        acceptsAll constraints value = true := by
  induction fields with
  | nil => simp [acceptsField]
  | cons head rest ih =>
    obtain ⟨field, constraints⟩ := head
    unfold acceptsField
    split
    · rename_i same
      simp [same]
    · rename_i other
      have differ : (name == field) = false := by simpa using other
      simp only [List.lookup_cons, differ, ih]

/-! What the constraints of a built schema mean. -/

theorem accepts_unparsed_iff {s : Schema} (built : s.parsed = false) (value : Json) :
    s.accepts value = true ↔ s.type.accepts value = true ∧
      (s.properties ≠ [] → (Constraint.properties s.properties).accepts value = true) ∧
      (s.requiredProperties ≠ [] →
        (Constraint.required s.requiredProperties).accepts value = true) := by
  have fields : acceptsAll (if s.properties.isEmpty then [] else [.properties s.properties]) value =
      true ↔ (s.properties ≠ [] → (Constraint.properties s.properties).accepts value = true) := by
    cases s.properties <;> simp [acceptsAll]
  have names : acceptsAll (if s.requiredProperties.isEmpty then []
      else [.required s.requiredProperties]) value = true ↔ (s.requiredProperties ≠ [] →
        (Constraint.required s.requiredProperties).accepts value = true) := by
    cases s.requiredProperties <;> simp [acceptsAll]
  have typed : acceptsAll [.type s.type] value = s.type.accepts value := by
    simp [acceptsAll, Constraint.accepts]
  rw [Schema.accepts, Schema.getRaw, built, if_neg (by simp), acceptsAll_append, acceptsAll_append,
    typed, Bool.and_eq_true, Bool.and_eq_true, fields, names, and_assoc]

theorem lookup_addProperty (field : String) (c : Constraint) (fields : List (String × RawSchema))
    (name : String) :
    (addProperty field c fields).lookup name =
      if name = field then some ((fields.lookup name).getD [] ++ [c]) else fields.lookup name := by
  induction fields with
  | nil =>
    by_cases same : name = field
    · simp [addProperty, same]
    · have differ : (name == field) = false := by simpa using same
      simp [addProperty, List.lookup_cons, same, differ]
  | cons head rest ih =>
    obtain ⟨other, constraints⟩ := head
    by_cases here : other = field
    · subst here
      by_cases same : name = other
      · simp [addProperty, same]
      · have differ : (name == other) = false := by simpa using same
        simp [addProperty, List.lookup_cons, same, differ]
    · by_cases first : name = other
      · subst first
        simp [addProperty, here]
      · have differ : (name == other) = false := by simpa using first
        simp only [addProperty, if_neg here, List.lookup_cons, differ, ih]

/-- What a call of addConstraint() asks of the field that it names. -/
structure FieldConstraint where
  field : String
  constraint : Constraint
  required : Bool

def FieldConstraint.Holds (c : FieldConstraint) (value : Json) : Prop :=
  (c.required = true → value.includes c.field = true) ∧
    ∀ member ∈ value.values c.field, c.constraint.accepts member = true

def Schema.insertAll (s : Schema) (constraints : List FieldConstraint) : Schema :=
  constraints.foldl (fun s c => s.insertConstraint c.field c.constraint c.required) s

def Schema.ofConstraints (name : String) (contentType : ContentType)
    (constraints : List FieldConstraint) : Schema :=
  (Schema.create name contentType .object).insertAll constraints

section ofConstraints
variable (name : String) (contentType : ContentType) (constraints : List FieldConstraint)

theorem ofConstraints_snoc (c : FieldConstraint) :
    Schema.ofConstraints name contentType (constraints ++ [c]) =
      (Schema.ofConstraints name contentType constraints).insertConstraint c.field c.constraint
        c.required := by
  simp [Schema.ofConstraints, Schema.insertAll]

theorem ofConstraints_object :
    (Schema.ofConstraints name contentType constraints).parsed = false ∧
      (Schema.ofConstraints name contentType constraints).type = .object ∧
      (Schema.ofConstraints name contentType constraints).name = name := by
  induction constraints using List.reverseRecOn with
  | nil => exact ⟨rfl, rfl, rfl⟩
  | append_singleton constraints c ih => rw [ofConstraints_snoc]; exact ih

theorem ofConstraints_lookup (field : String) :
    (Schema.ofConstraints name contentType constraints).properties.lookup field =
      match constraints.filter fun c => c.field = field with
      | [] => none
      | given => some (given.map FieldConstraint.constraint) := by
  induction constraints using List.reverseRecOn with
  | nil => rfl
  | append_singleton constraints c ih =>
    rw [ofConstraints_snoc, Schema.insertConstraint, lookup_addProperty, ih, List.filter_append]
    by_cases same : field = c.field
    · subst same
      cases constraints.filter fun other => other.field = c.field <;> simp
    · have differ : (c.field = field) = False := by simpa using Ne.symm same
      simp [same, differ]

theorem ofConstraints_acceptsField_iff (field : String) (value : Json) :
    acceptsField (Schema.ofConstraints name contentType constraints).properties field value = true ↔
      (∃ c ∈ constraints, c.field = field) ∧
        ∀ c ∈ constraints, c.field = field → c.constraint.accepts value = true := by
  have every : (∀ c ∈ constraints, c.field = field → c.constraint.accepts value = true) ↔
      ∀ c ∈ constraints.filter fun c => c.field = field, c.constraint.accepts value = true := by
    simp [List.mem_filter]
  have exists_iff : (∃ c ∈ constraints, c.field = field) ↔
      ∃ c, c ∈ constraints.filter fun c => c.field = field := by
    simp [List.mem_filter]
  rw [acceptsField_iff, ofConstraints_lookup, every, exists_iff]
  cases constraints.filter fun c => c.field = field with
  | nil => simp
  | cons c given =>
    simp only [Option.some.injEq, exists_eq_left', acceptsAll_iff, List.forall_mem_map]
    exact ⟨fun fit => ⟨⟨c, by simp⟩, fit⟩, fun fit => fit.2⟩

theorem ofConstraints_properties_ne_nil :
    (Schema.ofConstraints name contentType constraints).properties ≠ [] ↔ constraints ≠ [] := by
  cases constraints using List.reverseRecOn with
  | nil => simp [Schema.ofConstraints, Schema.insertAll, Schema.create]
  | append_singleton constraints c =>
    rw [ofConstraints_snoc, Schema.insertConstraint]
    have added : addProperty c.field c.constraint
        (Schema.ofConstraints name contentType constraints).properties ≠ [] := by
      unfold addProperty
      split
      · simp
      · split <;> simp
    simpa using added

theorem mem_requiredProperties {field : String} :
    field ∈ (Schema.ofConstraints name contentType constraints).requiredProperties ↔
      ∃ c ∈ constraints, c.required = true ∧ c.field = field := by
  induction constraints using List.reverseRecOn with
  | nil => simp [Schema.ofConstraints, Schema.insertAll, Schema.create]
  | append_singleton constraints c ih =>
    rw [ofConstraints_snoc, Schema.insertConstraint]
    cases required : c.required with
    | true =>
      simp only [if_true, List.mem_insert_iff, ih, List.mem_append, List.mem_singleton, or_and_right,
        exists_or, exists_eq_left, required, true_and]
      exact or_comm.trans (or_congr_right eq_comm)
    | false => simp [ih, required, or_and_right, exists_or]

theorem ofConstraints_properties_iff (members : List (String × Json)) :
    (Constraint.properties (Schema.ofConstraints name contentType constraints).properties).accepts
        (.obj members) = true ↔
      ∀ m ∈ members, (∃ c ∈ constraints, c.field = m.1) ∧
        ∀ c ∈ constraints, c.field = m.1 → c.constraint.accepts m.2 = true := by
  simp only [Constraint.accepts, List.all_eq_true, ofConstraints_acceptsField_iff]

theorem ofConstraints_required_iff (members : List (String × Json)) :
    (Constraint.required
        (Schema.ofConstraints name contentType constraints).requiredProperties).accepts
          (.obj members) = true ↔
      ∀ c ∈ constraints, c.required = true → (Json.obj members).includes c.field = true := by
  simp only [Constraint.accepts, List.all_eq_true, mem_requiredProperties, Json.includes,
    Json.member?]
  constructor
  · intro every c mem required
    exact every _ ⟨c, mem, required, rfl⟩
  · rintro every _ ⟨c, mem, required, rfl⟩
    exact every c mem required

/-- Each constraint holds, and once there is one, every member is named by one. -/
theorem ofConstraints_accepts_iff (value : Json) :
    (Schema.ofConstraints name contentType constraints).accepts value = true ↔
      TypeConstraint.object.accepts value = true ∧ (∀ c ∈ constraints, c.Holds value) ∧
        (constraints ≠ [] → ∀ m ∈ value.members, ∃ c ∈ constraints, c.field = m.1) := by
  obtain ⟨built, object, _⟩ := ofConstraints_object name contentType constraints
  rw [accepts_unparsed_iff built, object, ofConstraints_properties_ne_nil]
  cases value with
  | obj members =>
    rw [ofConstraints_properties_iff, ofConstraints_required_iff]
    simp only [FieldConstraint.Holds, mem_values, Json.members]
    constructor
    · rintro ⟨typed, fit, present⟩
      refine ⟨typed, fun c mem => ⟨?_, fun member found => ?_⟩, fun given m mem => (fit given m mem).1⟩
      · intro required
        refine present ?_ c mem required
        exact List.ne_nil_of_mem ((mem_requiredProperties name contentType constraints).mpr
          ⟨c, mem, required, rfl⟩)
      · exact (fit (List.ne_nil_of_mem mem) _ found).2 c mem rfl
    · rintro ⟨typed, holds, named⟩
      refine ⟨typed, fun given m mem => ⟨named given m mem, ?_⟩, fun _ c mem => (holds c mem).1⟩
      rintro c given same
      exact (holds c given).2 m.2 (by rw [same]; exact mem)
  | _ => simp [TypeConstraint.accepts]

end ofConstraints

/-- The schema that a function makes of a new one with calls of addConstraint(). -/
def Schema.build (name : String) (fields : List (String × TypeConstraint × Bool)) : Schema :=
  fields.foldl (fun s field => (s.addConstraint field.1 field.2.1 field.2.2).2)
    (Schema.create name .json .object)

theorem build_eq (name : String) (fields : List (String × TypeConstraint × Bool)) :
    Schema.build name fields = Schema.ofConstraints name .json
      (fields.map fun field => ⟨field.1, .type field.2.1, field.2.2⟩) := by
  induction fields using List.reverseRecOn with
  | nil => rfl
  | append_singleton fields field ih =>
    have last : Schema.build name (fields ++ [field]) =
        ((Schema.build name fields).addConstraint field.1 field.2.1 field.2.2).2 := by
      simp [Schema.build]
    obtain ⟨built, object, _⟩ := ofConstraints_object name .json
      (fields.map fun field => ⟨field.1, .type field.2.1, field.2.2⟩)
    rw [last, ih, List.map_append, List.map_cons, List.map_nil, ofConstraints_snoc]
    simp [Schema.addConstraint, Schema.checkAddConstraint, built, object]

theorem build_accepts_iff (name : String) (fields : List (String × TypeConstraint × Bool))
    (value : Json) :
    (Schema.build name fields).accepts value = true ↔
      TypeConstraint.object.accepts value = true ∧
        (∀ field ∈ fields, (field.2.2 = true → value.includes field.1 = true) ∧
          ∀ member ∈ value.values field.1, field.2.1.accepts member = true) ∧
        (fields ≠ [] → ∀ m ∈ value.members, ∃ field ∈ fields, field.1 = m.1) := by
  rw [build_eq, ofConstraints_accepts_iff]
  simp only [List.forall_mem_map, FieldConstraint.Holds, Constraint.accepts, ne_eq,
    List.map_eq_nil_iff]
  simp only [List.mem_map, exists_exists_and_eq_and]

theorem build_typed {name field : String} {fields : List (String × TypeConstraint × Bool)}
    {type : TypeConstraint} {required : Bool} {value member : Json}
    (accepted : (Schema.build name fields).accepts value = true)
    (listed : (field, type, required) ∈ fields) (found : value.member? field = some member) :
    type.accepts member = true :=
  (((build_accepts_iff name fields value).mp accepted).2.1 _ listed).2 member
    (member_mem_values found)

theorem build_required {name field : String} {fields : List (String × TypeConstraint × Bool)}
    {type : TypeConstraint} {value : Json}
    (accepted : (Schema.build name fields).accepts value = true)
    (listed : (field, type, true) ∈ fields) :
    ∃ member, value.member? field = some member ∧ type.accepts member = true := by
  have present := (((build_accepts_iff name fields value).mp accepted).2.1 _ listed).1 rfl
  obtain ⟨member, found⟩ := includes_iff.mp present
  exact ⟨member, found, build_typed accepted listed found⟩

theorem build_string {name field : String} {fields : List (String × TypeConstraint × Bool)}
    {value : Json} (accepted : (Schema.build name fields).accepts value = true)
    (listed : (field, .string, true) ∈ fields) : ∃ s, value.getString field = .ok s := by
  obtain ⟨member, found, typed⟩ := build_required accepted listed
  cases member with
  | str s => exact ⟨s, getString_of_member found⟩
  | _ => cases typed

theorem build_array {name field : String} {fields : List (String × TypeConstraint × Bool)}
    {value : Json} (accepted : (Schema.build name fields).accepts value = true)
    (listed : (field, .array, true) ∈ fields) : ∃ items, value.getArray field = .ok items := by
  obtain ⟨member, found, typed⟩ := build_required accepted listed
  cases member with
  | arr items => exact ⟨items, getArray_of_member found⟩
  | _ => cases typed

end PcpSchema
