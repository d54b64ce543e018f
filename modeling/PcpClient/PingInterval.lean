import PcpClient.MonitorMachine
import Mathlib.Algebra.Order.Ring.Int

/-!
The check of startMonitoring() and monitorConnection() against the integers that it is
about: the product and the timeout are compared by their values modulo 2^32.
-/
namespace PcpPingInterval
open PcpTransitions PcpMonitor

def intervalMs (connectionCheckIntervalS : UInt32) : Int := connectionCheckIntervalS.toNat * 1000

def ThrewConfigError (m t : Monitor) (mode : Mode) : Prop :=
  ∃ text, t.activations =
    m.activations ++ [.ended mode.caller (.connectionConfigError text)]

/-- The call throws just when the interval is not longer than the timeout, and a call that
    throws leaves every member as it was. -/
def ExactCheck (m : Monitor) (mode : Mode) (connectionCheckIntervalS : UInt32) : Prop :=
  ∃ t, m.step (.call (.start mode connectionCheckIntervalS)) = some t ∧
    (ThrewConfigError m t mode ↔ intervalMs connectionCheckIntervalS ≤ m.pongTimeoutMs) ∧
    (ThrewConfigError m t mode → t = { m with activations := t.activations })

/-- The two lengths agree above their lowest 32 bits, or differ there as they do in them. -/
def OrderedByLowBits (intervalMs pongTimeoutMs : Int) : Prop :=
  intervalMs / 2 ^ 32 = pongTimeoutMs / 2 ^ 32 ∨
    intervalMs / 2 ^ 32 < pongTimeoutMs / 2 ^ 32 ∧
      intervalMs % 2 ^ 32 ≤ pongTimeoutMs % 2 ^ 32 ∨
    pongTimeoutMs / 2 ^ 32 < intervalMs / 2 ^ 32 ∧
      pongTimeoutMs % 2 ^ 32 < intervalMs % 2 ^ 32

instance (intervalMs pongTimeoutMs : Int) : Decidable (OrderedByLowBits intervalMs pongTimeoutMs) :=
  inferInstanceAs (Decidable (_ ∨ _ ∨ _))

theorem low_bits_iff (intervalMs pongTimeoutMs : Int) :
    (intervalMs % 2 ^ 32 ≤ pongTimeoutMs % 2 ^ 32 ↔ intervalMs ≤ pongTimeoutMs) ↔
      OrderedByLowBits intervalMs pongTimeoutMs := by
  unfold OrderedByLowBits
  omega

theorem product_low_bits (connectionCheckIntervalS : UInt32) :
    ((connectionCheckIntervalS * 1000).toNat : Int) =
      intervalMs connectionCheckIntervalS % 2 ^ 32 := by
  rw [UInt32.toNat_mul]
  simp [intervalMs]

theorem timeout_low_bits (pongTimeoutMs : Int) :
    ((UInt32.ofInt pongTimeoutMs).toNat : Int) = pongTimeoutMs % 2 ^ 32 := by
  simp [UInt32.ofInt]
  omega

theorem checkPingTimings_throws (pingIntervalMs pongTimeoutMs : UInt32) :
    (∃ text, checkPingTimings pingIntervalMs pongTimeoutMs =
      .error (.connectionConfigError text)) ↔ pingIntervalMs.toNat ≤ pongTimeoutMs.toNat := by
  unfold checkPingTimings
  rw [← UInt32.le_iff_toNat_le]
  split <;> simp_all

theorem threw_iff {m t : Monitor} {mode : Mode} {connectionCheckIntervalS : UInt32}
    (created : m.created = true)
    (next : m.step (.call (.start mode connectionCheckIntervalS)) = some t) :
    ThrewConfigError m t mode ↔ ∃ text,
      checkPingTimings (connectionCheckIntervalS * 1000) (UInt32.ofInt m.pongTimeoutMs) =
        .error (.connectionConfigError text) := by
  obtain ⟨_, rfl⟩ := call_iff.mp next
  simp only [ThrewConfigError, List.append_cancel_left_eq, List.cons.injEq, and_true]
  rcases checkPingTimings_cases (connectionCheckIntervalS * 1000)
      (UInt32.ofInt m.pongTimeoutMs) with passes | ⟨text, refuses⟩
  · simp [Monitor.enter, Monitor.checkStart, Monitor.checkConnectionInitialization, created, passes]
  · simp [Monitor.enter, Monitor.checkStart, Monitor.checkConnectionInitialization, created,
      refuses]

/-- On an initialized connection the check is exact if and only if the interval in
    milliseconds and the timeout compare as their lowest 32 bits do. -/
theorem exact_check_iff (m : Monitor) (mode : Mode) (connectionCheckIntervalS : UInt32)
    (alive : m.alive = true) (created : m.created = true) :
    ExactCheck m mode connectionCheckIntervalS ↔
      OrderedByLowBits (intervalMs connectionCheckIntervalS) m.pongTimeoutMs := by
  have throws : ∀ t, m.step (.call (.start mode connectionCheckIntervalS)) = some t →
      (ThrewConfigError m t mode ↔
        intervalMs connectionCheckIntervalS % 2 ^ 32 ≤ m.pongTimeoutMs % 2 ^ 32) := by
    intro t next
    rw [threw_iff created next, checkPingTimings_throws, ← product_low_bits, ← timeout_low_bits,
      Int.ofNat_le]
  rw [← low_bits_iff]
  constructor
  · rintro ⟨t, next, exact, _⟩
    exact (throws t next).symm.trans exact
  · intro ordered
    refine ⟨_, call_iff.mpr ⟨alive, rfl⟩, ?_, fun _ => ?_⟩
    · exact (throws _ (call_iff.mpr ⟨alive, rfl⟩)).trans ordered
    · simp [alive, Call.destroys]

theorem ordered_of_small {connectionCheckIntervalS : UInt32} {pongTimeoutMs : Int}
    (interval : intervalMs connectionCheckIntervalS < 2 ^ 32)
    (nonnegative : 0 ≤ pongTimeoutMs) (timeout : pongTimeoutMs < 2 ^ 32) :
    OrderedByLowBits (intervalMs connectionCheckIntervalS) pongTimeoutMs := by
  have positive : 0 ≤ intervalMs connectionCheckIntervalS := by
    unfold intervalMs
    omega
  exact .inl (by omega)

theorem default_interval_checked :
    ∃ m, run Monitor.step (.create 5000) [.connect] = some m ∧ m.alive = true ∧
      m.created = true ∧ ExactCheck m .blocking 15 :=
  ⟨_, rfl, rfl, rfl, (exact_check_iff _ .blocking 15 rfl rfl).mpr (by decide)⟩

/-- An interval of 4294968 s is refused for a timeout of 5 s. -/
theorem long_interval_refused :
    ∃ m, run Monitor.step (.create 5000) [.connect] = some m ∧ m.alive = true ∧
      m.created = true ∧ ¬ExactCheck m .joinable 4294968 := by
  refine ⟨_, rfl, rfl, rfl, ?_⟩
  rintro ⟨t, next, exact, _⟩
  have throws := (threw_iff rfl next).mpr ((checkPingTimings_throws _ _).mpr (by decide))
  exact absurd (exact.mp throws) (by decide)

end PcpPingInterval
