import Mathlib.Data.List.Basic
import Mathlib.Algebra.Order.Ring.Nat

/- Byte strings, and numbers in network byte order: the most significant byte comes first. -/
namespace PcpOctets

abbrev Bytes := List UInt8

def networkBytes : Nat → Nat → Bytes
  | 0, _ => []
  | width + 1, n => UInt8.ofNat (n / 256 ^ width) :: networkBytes width (n % 256 ^ width)

def networkValue : Bytes → Nat
  | [] => 0
  | b :: bs => b.toNat * 256 ^ bs.length + networkValue bs

def asciiBytes (text : String) : Bytes := text.toList.map fun c => UInt8.ofNat c.toNat

@[simp] theorem networkBytes_length (width n : Nat) : (networkBytes width n).length = width := by
  induction width generalizing n with
  | zero => rfl
  | succ width ih => simp [networkBytes, ih]

theorem networkValue_bound (bs : Bytes) : networkValue bs < 256 ^ bs.length := by
  induction bs with
  | nil => simp [networkValue]
  | cons b bs ih =>
    have small : b.toNat + 1 ≤ 256 := b.toNat_lt
    have top := Nat.mul_le_mul_right (256 ^ bs.length) small
    simp only [networkValue, List.length_cons, Nat.pow_succ]
    rw [Nat.add_mul, Nat.one_mul] at top
    omega

theorem networkValue_networkBytes (width n : Nat) (bound : n < 256 ^ width) :
    networkValue (networkBytes width n) = n := by
  induction width generalizing n with
  | zero =>
    have zero : n = 0 := by simpa using bound
    simp [networkBytes, networkValue, zero]
  | succ width ih =>
    have positive : 0 < 256 ^ width := Nat.pow_pos (by omega)
    have byte : n / 256 ^ width < 256 := by
      rw [Nat.div_lt_iff_lt_mul positive, Nat.mul_comm, ← Nat.pow_succ]
      exact bound
    simp only [networkBytes, networkValue, networkBytes_length, ih _ (Nat.mod_lt n positive),
      UInt8.toNat_ofNat']
    rw [Nat.mod_eq_of_lt byte]
    exact Nat.div_add_mod' n (256 ^ width)

theorem networkBytes_networkValue (bs : Bytes) :
    networkBytes bs.length (networkValue bs) = bs := by
  induction bs with
  | nil => rfl
  | cons b bs ih =>
    have bound := networkValue_bound bs
    have positive : 0 < 256 ^ bs.length := Nat.pow_pos (by omega)
    have top : (b.toNat * 256 ^ bs.length + networkValue bs) / 256 ^ bs.length = b.toNat := by
      rw [Nat.mul_comm, Nat.mul_add_div positive, Nat.div_eq_of_lt bound, Nat.add_zero]
    have rest : (b.toNat * 256 ^ bs.length + networkValue bs) % 256 ^ bs.length =
        networkValue bs := by
      rw [Nat.mul_comm, Nat.mul_add_mod, Nat.mod_eq_of_lt bound]
    simp only [networkValue, List.length_cons, networkBytes, top, rest, ih, UInt8.ofNat_toNat]

theorem networkBytes_injective {width n m : Nat} (small : n < 256 ^ width)
    (small' : m < 256 ^ width) (same : networkBytes width n = networkBytes width m) : n = m := by
  rw [← networkValue_networkBytes width n small, same, networkValue_networkBytes width m small']

end PcpOctets
