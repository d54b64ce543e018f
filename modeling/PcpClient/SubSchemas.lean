import PcpClient.SchemaCalls

/-!
Sub-schemas given to addConstraint(). The constraint added to the field is an items
constraint, which restricts the elements of an array and no other value.
-/
namespace PcpSubSchemas
open PcpJson PcpSchema PcpSchemaCalls

/-- What the constructors and addConstraint() make. -/
inductive Constructed : Schema → Prop
  | create (name : String) (contentType : ContentType) (type : TypeConstraint) :
    Constructed (.create name contentType type)
  | ofDocument (name : String) (raw : RawSchema) : Constructed (.ofDocument name raw)
  | call {s : Schema} (c : Call) : Constructed s → Constructed (c.run s).2

def objectSchema (name : String) (contentType : ContentType) (calls : List Call) : Schema :=
  Schema.after (Schema.create name contentType .object) calls

/-- The field is as the sub-schema was given for: absent and not required, or accepted by it. -/
def FieldAccepted (field : String) (sub : Schema) (required : Bool) (value : Json) : Prop :=
  (value.values field = [] ∧ required = false) ∨
    value.values field ≠ [] ∧ ∀ member ∈ value.values field, Validates sub member

def HasRejected (sub : Schema) (value : Json) : Prop :=
  ∃ items, value = .arr items ∧ ∃ item ∈ items, sub.accepts item = false

/-- The values of a field, one unless its name is repeated, for which a check of the elements
    of arrays comes to the same as a check of the values. -/
def EnforcedOn (sub : Schema) (values : List Json) : Prop :=
  if sub.parsed then
    (∀ v ∈ values, sub.accepts v = true ∧ ¬HasRejected sub v) ∨
      (∃ v ∈ values, sub.accepts v = false) ∧ ∃ v ∈ values, HasRejected sub v
  else match sub.type with
    | .any => True
    | .array =>
      (∀ v ∈ values, ∃ items, v = .arr items ∧
        ∀ item ∈ items, TypeConstraint.array.accepts item = true) ∨
      (∃ v ∈ values, TypeConstraint.array.accepts v = false) ∧
        ∃ v ∈ values, ∃ items, v = .arr items ∧
          ∃ item ∈ items, TypeConstraint.array.accepts item = false
    | _ => (∀ v ∈ values, sub.accepts v = true) ∨ ∃ v ∈ values, HasRejected sub v

theorem items_accepts_iff (sub : Schema) (value : Json) :
    (Constraint.items sub.getRaw).accepts value = true ↔ ¬HasRejected sub value := by
  cases value with
  | arr items => simp [Constraint.accepts, HasRejected, Schema.accepts]
  | _ => simp [Constraint.accepts, HasRejected]

theorem Constructed.accepts_eq {sub : Schema} (made : Constructed sub)
    (built : sub.parsed = false) (other : sub.type ≠ .object) (value : Json) :
    sub.accepts value = sub.type.accepts value := by
  have plain : sub.getRaw = [.type sub.type] := by
    induction made with
    | create => rfl
    | ofDocument => cases built
    | @call s c _ ih =>
      rcases run_cases c s with ⟨_, e, same⟩ | ⟨_, object, returned⟩
      · rw [same] at built other ⊢
        exact ih built other
      · rw [returned] at other
        exact absurd object other
  rw [Schema.accepts, plain]
  simp [acceptsAll, Constraint.accepts]

theorem array_rejected {sub : Schema} (built : sub.parsed = false) (any : sub.type ≠ .any)
    (array : sub.type ≠ .array) (items : List Json) : sub.accepts (.arr items) = false := by
  rw [Bool.eq_false_iff, ne_eq, accepts_unparsed_iff built]
  rintro ⟨typed, _⟩
  cases type : sub.type <;> simp_all [TypeConstraint.accepts]

theorem checks_agree_iff (sub : Schema) (values : List Json) :
    ((∀ v ∈ values, ¬HasRejected sub v) ↔ ∀ v ∈ values, sub.accepts v = true) ↔
      (∀ v ∈ values, sub.accepts v = true ∧ ¬HasRejected sub v) ∨
        (∃ v ∈ values, sub.accepts v = false) ∧ ∃ v ∈ values, HasRejected sub v := by
  have rejected : (∃ v ∈ values, sub.accepts v = false) ↔ ¬∀ v ∈ values, sub.accepts v = true := by
    simp
  have element : (∃ v ∈ values, HasRejected sub v) ↔ ¬∀ v ∈ values, ¬HasRejected sub v := by
    simp
  rw [rejected, element, forall₂_and]
  tauto

theorem enforcedOn_iff {sub : Schema} (made : Constructed sub) (values : List Json) :
    EnforcedOn sub values ↔
      ((∀ v ∈ values, (Constraint.items sub.getRaw).accepts v = true) ↔
        ∀ v ∈ values, sub.accepts v = true) := by
  simp only [items_accepts_iff, checks_agree_iff]
  unfold EnforcedOn
  split
  · rfl
  · rename_i built
    rw [Bool.not_eq_true] at built
    split
    · rename_i any
      have every : ∀ v, sub.accepts v = true := fun v => by
        rw [made.accepts_eq built (by rw [any]; decide), any]
        rfl
      have none : ∀ v, ¬HasRejected sub v := by
        rintro v ⟨items, rfl, item, _, rejected⟩
        rw [every item] at rejected
        cases rejected
      exact iff_of_true trivial (.inl fun v _ => ⟨every v, none v⟩)
    · rename_i array
      have typed : ∀ v, sub.accepts v = TypeConstraint.array.accepts v := fun v => by
        rw [made.accepts_eq built (by rw [array]; decide), array]
      have shape : ∀ v, (∃ items, v = .arr items ∧
          ∀ item ∈ items, TypeConstraint.array.accepts item = true) ↔
            TypeConstraint.array.accepts v = true ∧ ¬HasRejected sub v := by
        intro v
        cases v <;> simp [TypeConstraint.accepts, HasRejected, typed]
      simp only [shape, typed, HasRejected]
    · rename_i any array
      have apart : ∀ v, HasRejected sub v → sub.accepts v = false := by
        rintro v ⟨items, rfl, _⟩
        exact array_rejected built any array items
      refine or_congr (forall₂_congr fun v _ => ?_) ⟨?_, And.right⟩
      · exact ⟨fun accepted => ⟨accepted, fun rejected => by simp [apart v rejected] at accepted⟩,
          And.left⟩
      · rintro ⟨v, mem, rejected⟩
        exact ⟨⟨v, mem, apart v rejected⟩, v, mem, rejected⟩

theorem objectSchema_accepts_iff (name : String) (contentType : ContentType) (calls : List Call)
    (value : Json) :
    (objectSchema name contentType calls).accepts value = true ↔
      TypeConstraint.object.accepts value = true ∧ (∀ c ∈ calls, c.constraint.Holds value) ∧
        (calls ≠ [] → ∀ m ∈ value.members, ∃ c ∈ calls, c.constraint.field = m.1) := by
  rw [objectSchema, after_eq, ofConstraints_accepts_iff]
  simp only [List.forall_mem_map, ne_eq, List.map_eq_nil_iff]
  simp only [List.mem_map, exists_exists_and_eq_and]

theorem subSchema_accepts_iff {name field : String} {contentType : ContentType}
    {before after : List Call} {sub : Schema} {required : Bool} {value : Json}
    (others : (objectSchema name contentType
      (before ++ .type field .any false :: after)).accepts value = true) :
    (objectSchema name contentType (before ++ .subSchema field sub required :: after)).accepts
        value = true ↔
      (Call.subSchema field sub required).constraint.Holds value := by
  rw [objectSchema_accepts_iff] at others ⊢
  obtain ⟨object, every, named⟩ := others
  rw [List.forall_mem_append, List.forall_mem_cons] at every ⊢
  refine ⟨fun accepted => accepted.2.1.2.1,
    fun holds => ⟨object, ⟨every.1, holds, every.2.2⟩, fun _ m mem => ?_⟩⟩
  obtain ⟨c, listed, same⟩ := named (by simp) m mem
  simp only [List.mem_append, List.mem_cons] at listed ⊢
  rcases listed with listed | rfl | listed
  · exact ⟨c, .inl listed, same⟩
  · exact ⟨.subSchema field sub required, .inr (.inl rfl), same⟩
  · exact ⟨c, .inr (.inr listed), same⟩

theorem holds_iff_fieldAccepted {field : String} {sub : Schema} (made : Constructed sub)
    {required : Bool} {value : Json} :
    ((Call.subSchema field sub required).constraint.Holds value ↔
        FieldAccepted field sub required value) ↔
      EnforcedOn sub (value.values field) := by
  rw [enforcedOn_iff made]
  simp only [FieldConstraint.Holds, Call.constraint, FieldAccepted, validates_iff,
    includes_iff_values]
  cases value.values field with
  | nil => cases required <;> simp
  | cons first rest => simp

/-- Among the objects that satisfy the other constraints, and have no member but those that
    the calls name, a sub-schema is enforced if and only if its check of the elements of
    arrays comes to the same, on the values of the field, as a check of these. -/
theorem subSchema_enforced_iff (name field : String) (contentType : ContentType)
    (before after : List Call) (sub : Schema) (made : Constructed sub) (required : Bool)
    (value : Json)
    (others : Validates (objectSchema name contentType
      (before ++ .type field .any false :: after)) value) :
    (Validates (objectSchema name contentType
        (before ++ .subSchema field sub required :: after)) value ↔
      FieldAccepted field sub required value) ↔
        EnforcedOn sub (value.values field) := by
  rw [validates_iff] at others ⊢
  rw [subSchema_accepts_iff others]
  exact holds_iff_fieldAccepted made

def fooSchema : Schema := ((Call.type "foo" .string true).run (.create "subschema" .json .object)).2

theorem fooSchema_constructed : Constructed fooSchema := .call _ (.create "subschema" .json .object)

theorem absent_field_enforced :
    Validates (objectSchema "spam" .json [.subSchema "root" fooSchema false]) (.obj []) ↔
      FieldAccepted "root" fooSchema false (.obj []) :=
  (subSchema_enforced_iff "spam" "root" .json [] [] fooSchema fooSchema_constructed false (.obj [])
    (validates_iff.mpr (by decide))).mpr (.inl fun _ found => by cases found)

/-- An object without a string foo is accepted where one is asked for. -/
theorem unfit_object_accepted :
    Validates (objectSchema "spam" .json [.type "root" .any false]) (.obj [("root", .obj [])]) ∧
    Validates (objectSchema "spam" .json [.subSchema "root" fooSchema true])
        (.obj [("root", .obj [])]) ∧
      ¬FieldAccepted "root" fooSchema true (.obj [("root", .obj [])]) := by
  refine ⟨validates_iff.mpr (by decide), validates_iff.mpr (by decide), ?_⟩
  rintro (⟨absent, _⟩ | ⟨_, accepted⟩)
  · cases absent
  · exact absurd (validates_iff.mp (accepted (.obj []) (List.mem_cons_self ..))) (by decide)

/-! A sub-schema that is enforced for every value restricts none. -/

theorem accepts_everything {sub : Schema}
    (agree : ∀ value, ¬HasRejected sub value ↔ sub.accepts value = true) :
    ∀ value, sub.accepts value = true
  | .arr items => (agree (.arr items)).mp (by
      rintro ⟨_, same, item, mem, rejected⟩
      obtain rfl := Json.arr.inj same
      rw [accepts_everything agree item] at rejected
      cases rejected)
  | .null => (agree .null).mp (by rintro ⟨_, ⟨⟩, _⟩)
  | .bool b => (agree (.bool b)).mp (by rintro ⟨_, ⟨⟩, _⟩)
  | .int n => (agree (.int n)).mp (by rintro ⟨_, ⟨⟩, _⟩)
  | .decimal mantissa exponent => (agree (.decimal mantissa exponent)).mp (by rintro ⟨_, ⟨⟩, _⟩)
  | .str s => (agree (.str s)).mp (by rintro ⟨_, ⟨⟩, _⟩)
  | .obj members => (agree (.obj members)).mp (by rintro ⟨_, ⟨⟩, _⟩)

theorem always_enforced_iff {sub : Schema} (made : Constructed sub) :
    (∀ value, EnforcedOn sub [value]) ↔ ∀ value, sub.accepts value = true := by
  simp only [enforcedOn_iff made, items_accepts_iff, List.mem_singleton, forall_eq]
  refine ⟨accepts_everything, fun every value => iff_of_true ?_ (every value)⟩
  rintro ⟨items, rfl, item, _, rejected⟩
  rw [every item] at rejected
  cases rejected

end PcpSubSchemas
