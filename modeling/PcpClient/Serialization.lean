import PcpClient.Octets

/-!
serialize() and deserialize(). An iterator over a buffer to read is the list of the bytes
that follow it. What the language leaves undefined, an abort, and a wrap of size_t
arithmetic are outcomes of their own, so that their absence can be stated; memory is
never exhausted.
-/
namespace PcpSerialization
open PcpOctets

inductive Fault where
  | messageSerializationError (text : String)
  | unsupportedVersionError (text : String)
  | invalidChunkError (text : String)
  | assertionFailure
  | outOfBounds
  | sizeWraps
  | outOfFuel
  deriving DecidableEq, Repr

/-! size_t of the given width in bits. -/

def sizeAdd (width a b : Nat) : Except Fault Nat :=
  if a + b < 2 ^ width then .ok (a + b) else .error .sizeWraps

def sizeSub (a b : Nat) : Except Fault Nat :=
  if b ≤ a then .ok (a - b) else .error .sizeWraps

/-- vector::resize() to a larger size. -/
def resize (buffer : Bytes) (size : Nat) : Bytes :=
  buffer ++ List.replicate (size - buffer.length) 0

/-- std::copy() at an iterator of the buffer, and the iterator after it. -/
def copyTo (buffer : Bytes) (itr : Nat) : Bytes → Except Fault (Bytes × Nat)
  | [] => .ok (buffer, itr)
  | b :: rest =>
    if itr < buffer.length then copyTo (buffer.set itr b) (itr + 1) rest
    else .error .outOfBounds

def serialize (octets : Bytes) (thingSize : Nat) (buffer : Bytes) : Except Fault Bytes :=
  let offset := buffer.length
  match copyTo (resize buffer (offset + thingSize)) offset octets with
  | .error fault => .error fault
  | .ok (written, itr) =>
    if itr = offset + thingSize then .ok written else .error .assertionFailure

def serializeString (txt : Bytes) : Nat → Bytes → Except Fault Bytes := serialize txt

def serializeUInt32 (number : UInt32) : Nat → Bytes → Except Fault Bytes :=
  serialize (networkBytes 4 number.toNat)

def serializeUInt8 (number : UInt8) : Nat → Bytes → Except Fault Bytes := serialize [number]

/-- std::copy() from an iterator, and the iterator after what it read. -/
def readBytes (thingSize : Nat) (start : Bytes) : Except Fault (Bytes × Bytes) :=
  if thingSize ≤ start.length then .ok (start.take thingSize, start.drop thingSize)
  else .error .outOfBounds

def deserializeString (thingSize : Nat) (start : Bytes) : Except Fault (Bytes × Bytes) :=
  readBytes thingSize start

def deserializeUInt8 (thingSize : Nat) (start : Bytes) : Except Fault (UInt8 × Bytes) :=
  if thingSize = 1 then do
    let (value, start) ← readBytes thingSize start
    return (UInt8.ofNat (networkValue value), start)
  else .error .assertionFailure

def deserializeUInt32 (thingSize : Nat) (start : Bytes) : Except Fault (UInt32 × Bytes) :=
  if thingSize = 4 then do
    let (value, start) ← readBytes thingSize start
    return (UInt32.ofNat (networkValue value), start)
  else .error .assertionFailure

@[simp] theorem ok_bind {α β : Type} (a : α) (next : α → Except Fault β) :
    (Except.ok a >>= next) = next a := rfl

@[simp] theorem error_bind {α β : Type} (fault : Fault) (next : α → Except Fault β) :
    (Except.error fault >>= next) = .error fault := rfl

theorem bind_ok_iff {ε α β : Type} {first : Except ε α} {next : α → Except ε β} {r : β} :
    (first >>= next) = .ok r ↔ ∃ a, first = .ok a ∧ next a = .ok r := by
  cases first <;> simp [bind, Except.bind]

theorem map_ok_iff {α β : Type} {first : Except Fault α} {f : α → β} {r : β} :
    first.map f = .ok r ↔ ∃ a, first = .ok a ∧ r = f a := by
  cases first <;> simp [Except.map, eq_comm]

theorem readBytes_append (value rest : Bytes) :
    readBytes value.length (value ++ rest) = .ok (value, rest) := by
  simp [readBytes]

theorem deserializeUInt8_cons (value : UInt8) (rest : Bytes) :
    deserializeUInt8 1 (value :: rest) = .ok (value, rest) := by
  have read := readBytes_append [value] rest
  simp only [List.length_singleton, List.singleton_append] at read
  simp [deserializeUInt8, read, networkValue, pure, Except.pure]

theorem deserializeUInt32_append (value : Bytes) (four : value.length = 4) (rest : Bytes) :
    deserializeUInt32 4 (value ++ rest) = .ok (UInt32.ofNat (networkValue value), rest) := by
  have read := readBytes_append value rest
  rw [four] at read
  simp [deserializeUInt32, read, pure, Except.pure]

theorem uint32_networkBytes (number : UInt32) :
    UInt32.ofNat (networkValue (networkBytes 4 number.toNat)) = number := by
  have small := number.toNat_lt
  rw [networkValue_networkBytes 4 number.toNat small, UInt32.ofNat_toNat]

theorem networkBytes_uint32 (value : Bytes) (four : value.length = 4) :
    networkBytes 4 (UInt32.ofNat (networkValue value)).toNat = value := by
  have bound : networkValue value < 2 ^ 32 := by
    have small := networkValue_bound value
    rw [four] at small
    exact small
  rw [UInt32.toNat_ofNat', Nat.mod_eq_of_lt bound, ← four, networkBytes_networkValue]

theorem deserializeUInt32_network (number : UInt32) (rest : Bytes) :
    deserializeUInt32 4 (networkBytes 4 number.toNat ++ rest) = .ok (number, rest) := by
  rw [deserializeUInt32_append _ (networkBytes_length 4 _), uint32_networkBytes]

theorem copyTo_region (octets kept region : Bytes) (fits : region.length = octets.length) :
    copyTo (kept ++ region) kept.length octets =
      .ok (kept ++ octets, kept.length + octets.length) := by
  induction octets generalizing kept region with
  | nil =>
    have empty : region = [] := List.length_eq_zero_iff.mp fits
    simp [copyTo, empty]
  | cons b rest ih =>
    cases region with
    | nil => simp at fits
    | cons old region =>
      have inside : kept.length < (kept ++ old :: region).length := by simp
      have moved := ih (kept ++ [b]) region (by simpa using fits)
      simp only [copyTo, inside, if_true]
      rw [List.set_append_right (h := Nat.le_refl _)]
      simp only [List.append_assoc, List.singleton_append, List.length_append,
        List.length_singleton] at moved
      simp only [Nat.sub_self, List.set_cons_zero, moved, List.length_cons]
      rw [Nat.add_assoc, Nat.add_comm 1]

theorem serialize_ok (octets buffer : Bytes) :
    serialize octets octets.length buffer = .ok (buffer ++ octets) := by
  have copied := copyTo_region octets buffer (List.replicate octets.length 0) (by simp)
  simp [serialize, resize, copied]

end PcpSerialization
