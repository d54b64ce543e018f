import PcpClient.Octets

/-!
What the library uses of a JSON container: a parsed value and typed reads of its
entries. A key of an object stands for its first member of that name; a null entry is
read as the empty value of the type asked for. Names have no NUL character.
-/
namespace PcpJson
open PcpOctets

inductive Json where
  | null
  | bool (b : Bool)
  | int (n : Int)
  | decimal (mantissa exponent : Int)
  | str (s : String)
  | arr (items : List Json)
  | obj (members : List (String × Json))
  deriving Repr

def Json.empty : Json := .obj []

/-- The exceptions of containers, schemas and validators, and a failed assertion. -/
inductive Raised where
  | dataParseError
  | dataKeyError (key : String)
  | dataTypeError
  | schemaError (text : String)
  | schemaRedefinitionError (text : String)
  | schemaNotFoundError (text : String)
  | validationError (text : String)
  | assertionFailure
  deriving DecidableEq, Repr

def Raised.isValidatorError : Raised → Bool
  | .schemaRedefinitionError _ | .schemaNotFoundError _ | .validationError _ => true
  | _ => false

/-- The parser of JSON text, which is not part of the library. -/
abbrev JsonParser := Bytes → Option Json

def JsonParser.container (parser : JsonParser) (text : Bytes) : Except Raised Json :=
  match parser text with
  | some value => .ok value
  | none => .error .dataParseError

def Json.members : Json → List (String × Json)
  | .obj members => members
  | _ => []

def Json.values (j : Json) (name : String) : List Json :=
  (j.members.filter fun m => m.1 = name).map Prod.snd

def Json.member? : Json → String → Option Json
  | .obj members, key => members.lookup key
  | _, _ => none

def Json.includes (j : Json) (key : String) : Bool := (j.member? key).isSome

def Json.entry (j : Json) (key : String) : Except Raised Json :=
  match j with
  | .obj members =>
    match members.lookup key with
    | some value => .ok value
    | none => .error (.dataKeyError key)
  | _ => .error .dataTypeError

def Json.getString (j : Json) (key : String) : Except Raised String := do
  match ← j.entry key with
  | .str s => return s
  | .null => return ""
  | _ => .error .dataTypeError

def Json.getBool (j : Json) (key : String) : Except Raised Bool := do
  match ← j.entry key with
  | .bool b => return b
  | .null => return false
  | _ => .error .dataTypeError

def Json.getArray (j : Json) (key : String) : Except Raised (List Json) := do
  match ← j.entry key with
  | .arr items => return items
  | .null => return []
  | _ => .error .dataTypeError

theorem entry_of_member {j value : Json} {key : String} (found : j.member? key = some value) :
    j.entry key = .ok value := by
  cases j with
  | obj members =>
    simp only [Json.member?] at found
    simp [Json.entry, found]
  | _ => cases found

theorem includes_iff {j : Json} {key : String} :
    j.includes key = true ↔ ∃ value, j.member? key = some value :=
  Option.isSome_iff_exists

theorem mem_values {j value : Json} {name : String} :
    value ∈ j.values name ↔ (name, value) ∈ j.members := by
  simp only [Json.values, List.mem_map, List.mem_filter, decide_eq_true_eq]
  constructor
  · rintro ⟨⟨_, _⟩, ⟨mem, rfl⟩, rfl⟩
    exact mem
  · intro mem
    exact ⟨(name, value), ⟨mem, rfl⟩, rfl⟩

theorem member?_eq_head? (j : Json) (name : String) : j.member? name = (j.values name).head? := by
  cases j with
  | obj members =>
    simp only [Json.member?, Json.values, Json.members]
    induction members with
    | nil => rfl
    | cons m members ih =>
      obtain ⟨first, value⟩ := m
      by_cases same : first = name
      · simp [same]
      · have other : (name == first) = false := by simpa using Ne.symm same
        simpa [List.lookup_cons, same, other] using ih
  | _ => rfl

theorem member_mem_values {j value : Json} {name : String} (found : j.member? name = some value) :
    value ∈ j.values name :=
  List.mem_of_mem_head? (by rw [← member?_eq_head?, found]; rfl)

theorem includes_iff_values {j : Json} {name : String} :
    j.includes name = true ↔ j.values name ≠ [] := by
  rw [Json.includes, member?_eq_head?]
  cases j.values name <;> simp

theorem getString_of_member {j : Json} {key s : String} (found : j.member? key = some (.str s)) :
    j.getString key = .ok s := by
  simp [Json.getString, entry_of_member found, bind, Except.bind, pure, Except.pure]

theorem getBool_of_member {j : Json} {key : String} {b : Bool}
    (found : j.member? key = some (.bool b)) : j.getBool key = .ok b := by
  simp [Json.getBool, entry_of_member found, bind, Except.bind, pure, Except.pure]

theorem getArray_of_member {j : Json} {key : String} {items : List Json}
    (found : j.member? key = some (.arr items)) : j.getArray key = .ok items := by
  simp [Json.getArray, entry_of_member found, bind, Except.bind, pure, Except.pure]

end PcpJson
