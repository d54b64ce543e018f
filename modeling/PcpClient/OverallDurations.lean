import PcpClient.ConnectionIntervals
import PcpClient.SessionTimings

/-!
The overall intervals in their two resolutions. All counts are 32 bits wide, so the one of the
finer unit is the first that does not fit.
-/
namespace PcpDurations
open PcpTransitions PcpTimings PcpConnector PcpSessionTimings PcpIntervals PcpDispatch
open PcpAssociation
open PcpConnection hiding Action

/-- The getter in the fine resolution counts the whole units of the interval, and the quotient
    of its count is what the getter in minutes returns. -/
structure Agrees (unit perMinute interval fine minutes : Int) : Prop where
  exact : fine = interval / unit
  quotient : fine.tdiv perMinute = minutes

def ConnectionAgrees (t : ConnectionTimings) (now : Nat) : Prop :=
  Agrees 1000 60000000 (t.overallConnectionInterval now) (t.getOverallConnectionIntervalUs now)
    (t.getOverallConnectionIntervalMin now)

def SessionAgrees (t : AssociationTimings) (now : Nat) : Prop :=
  Agrees 1000000 60000 (t.overallSessionInterval now) (t.getOverallSessionIntervalMs now)
    (t.getOverallSessionIntervalMin now)

theorem durationCast_exact_iff {unit ns : Int} (positive : 0 < unit) (nonneg : 0 ≤ ns) :
    durationCast unit ns = ns / unit ↔ ns < 2 ^ 31 * unit := by
  have whole : 0 ≤ ns / unit := Int.ediv_nonneg nonneg positive.le
  rw [durationCast, Int.tdiv_eq_ediv_of_nonneg nonneg, ← Int.ediv_lt_iff_lt_mul positive]
  constructor
  · intro same
    have bound := Int.bmod_lt (x := ns / unit) (m := 2 ^ 32) (by decide)
    omega
  · intro fits
    exact Int.bmod_eq_of_le (by omega) (by omega)

theorem agrees_iff {unit perMinute ns : Int} (positive : 0 < unit) (several : 0 < perMinute)
    (minute : unit * perMinute = 60000000000) (nonneg : 0 ≤ ns) :
    Agrees unit perMinute ns (durationCast unit ns) (durationMin ns) ↔ ns < 2 ^ 31 * unit := by
  rw [← durationCast_exact_iff positive nonneg]
  refine ⟨Agrees.exact, fun exact => ⟨exact, ?_⟩⟩
  have fits := (durationCast_exact_iff positive nonneg).mp exact
  have shorter : unit ≤ 60000000000 := minute ▸ le_mul_of_one_le_right positive.le several
  have minutes : durationMin ns = ns / 60000000000 :=
    (durationCast_exact_iff (by decide) nonneg).mpr (by omega)
  calc (durationCast unit ns).tdiv perMinute
      = (ns / unit).tdiv perMinute := by rw [exact]
    _ = ns / unit / perMinute := Int.tdiv_eq_ediv_of_nonneg (Int.ediv_nonneg nonneg positive.le)
    _ = ns / (unit * perMinute) := Int.ediv_ediv_of_nonneg positive.le
    _ = durationMin ns := by rw [minute, minutes]

theorem overall_connection (t : ConnectionTimings) (now : Nat) :
    t.getOverallConnectionIntervalUs now = durationUs (t.overallConnectionInterval now) ∧
      t.getOverallConnectionIntervalMin now = durationMin (t.overallConnectionInterval now) := by
  unfold ConnectionTimings.getOverallConnectionIntervalUs
    ConnectionTimings.getOverallConnectionIntervalMin ConnectionTimings.overallConnectionInterval
  cases t.isOpen <;> cases t.isClosed <;> exact ⟨rfl, rfl⟩

theorem overall_session (t : AssociationTimings) (now : Nat) :
    t.getOverallSessionIntervalMs now = durationMs (t.overallSessionInterval now) ∧
      t.getOverallSessionIntervalMin now = durationMin (t.overallSessionInterval now) := by
  unfold AssociationTimings.getOverallSessionIntervalMs
    AssociationTimings.getOverallSessionIntervalMin AssociationTimings.overallSessionInterval
  cases t.completed <;> cases t.closed <;> exact ⟨rfl, rfl⟩

/-- The count that a getter of a connection returns when it is called. -/
def count (c : Connection) : Getter → Int
  | .tcp => c.timings.getTCPInterval
  | .openingHandshake => c.timings.getOpeningHandshakeInterval
  | .webSocket => c.timings.getWebSocketInterval
  | .closingHandshake => c.timings.getClosingHandshakeInterval
  | .overall => c.timings.getOverallConnectionIntervalUs c.clock

theorem count_cast (c : Connection) (g : Getter) : count c g = durationUs (interval c g) := by
  cases g with
  | overall => exact (overall_connection c.timings c.clock).1
  | _ => rfl

theorem read_exact_iff {brokerWsUris : List String} {pongTimeoutsBeforeRetry : Nat}
    {before after : List Step} {g : Getter} {w : Observed}
    (ordered : Throughout Observed.step (fun w a => inOrder w a = true)
      (.create brokerWsUris pongTimeoutsBeforeRetry) (before ++ .read g :: after))
    (path : run Observed.step (.create brokerWsUris pongTimeoutsBeforeRetry) before = some w) :
    count w.connection g = interval w.connection g / 1000 ↔
      interval w.connection g < 2 ^ 31 * 1000 := by
  rw [throughout_append] at ordered
  have meaningful := orderly_read (orderly_reachable ordered.1 path) (ordered.2 w path).1
  rw [count_cast]
  exact durationCast_exact_iff (by decide) meaningful.1

theorem session_nonneg {s : Connector} {now : Nat} (ordered : Ordered s)
    (later : s.network.1.clock ≤ now) : 0 ≤ s.associationTimings.overallSessionInterval now :=
  elapsed_nonneg (fun _ closed => (ordered.closed closed).2.1)
    fun done => (ordered.completed done).trans later

/-- For every reachable connection and session and every later reading of the clock, the two
    resolutions of the overall interval agree if and only if its count of the finer unit is
    less than 2 ^ 31. -/
theorem resolutions_agree_iff (cfg : Setup) (brokerWsUris : List String)
    (pongTimeoutsBeforeRetry now : Nat) :
    (∀ trace c, run Connection.step (.create brokerWsUris pongTimeoutsBeforeRetry) trace = some c →
      c.timings.isOpen = true → c.clock ≤ now →
        (ConnectionAgrees c.timings now ↔
          c.timings.overallConnectionInterval now < 2 ^ 31 * 1000)) ∧
    (∀ trace s, run (Connector.step cfg) (.create brokerWsUris pongTimeoutsBeforeRetry) trace =
        some s → s.associationTimings.completed = true → s.network.1.clock ≤ now →
          (SessionAgrees s.associationTimings now ↔
            s.associationTimings.overallSessionInterval now < 2 ^ 31 * 1000000)) := by
  constructor
  · intro trace c path _ later
    have stamped : Stamped c.timings c.clock := run_keeps
      (fun c : Connection => Stamped c.timings c.clock)
      (fun _ _ _ held next => stamped_step held next)
      (stamped_create brokerWsUris pongTimeoutsBeforeRetry) path
    have nonneg := overall_nonneg (stamped_later stamped later)
    obtain ⟨us, minutes⟩ := overall_connection c.timings now
    rw [ConnectionAgrees, us, minutes]
    exact agrees_iff (by decide) (by decide) (by decide) nonneg
  · intro trace s path _ later
    have ordered : Ordered s := run_keeps Ordered (fun _ _ _ held next => ordered_step held next)
      ⟨by simp [Connector.create], by simp [Connector.create]⟩ path
    obtain ⟨ms, minutes⟩ := overall_session s.associationTimings now
    rw [SessionAgrees, ms, minutes]
    exact agrees_iff (by decide) (by decide) (by decide) (session_nonneg ordered later)

def opened : List PcpConnection.Action :=
  [.callConnect 1, .pass, .beginAttempt, .getConnection (.connection 0), .endpointConnect true,
    .onPreTCPInit 0, .onPostTCPInit 0, .onOpen 0]

def unreadable : List Action :=
  sessionRequested ++ [.message 0 [], .testInProgress, .report, .wake false]

theorem half_hour_agrees :
    (∃ c, run Connection.step (.create ["wss://localhost:8142/pcp/"] 3) opened = some c ∧
      ConnectionAgrees c.timings 1800000000000) ∧
    ∃ s, run (Connector.step (plainSetup fun _ => none)) (.create ["wss://localhost:8142/pcp/"] 3)
        unreadable = some s ∧ SessionAgrees s.associationTimings 1800000000000 := by
  obtain ⟨connection, session⟩ := resolutions_agree_iff (plainSetup fun _ => none)
    ["wss://localhost:8142/pcp/"] 3 1800000000000
  exact ⟨⟨_, rfl, (connection opened _ rfl rfl (by decide)).mpr (by decide)⟩,
    ⟨_, rfl, (session unreadable _ rfl rfl (by decide)).mpr (by decide)⟩⟩

/-- 2 ^ 31 microseconds later, that is after 35 minutes and 47 seconds. -/
theorem long_connection_overflows :
    ∃ c, run Connection.step (.create ["wss://localhost:8142/pcp/"] 3) opened = some c ∧
      c.timings.isOpen = true ∧ c.clock ≤ 2147483648000 ∧
      c.timings.getOverallConnectionIntervalMin 2147483648000 = 35 ∧
      c.timings.getOverallConnectionIntervalUs 2147483648000 = -2147483648 ∧
      ¬ConnectionAgrees c.timings 2147483648000 :=
  ⟨_, rfl, rfl, by decide, by decide, by decide, fun agrees => absurd agrees.exact (by decide)⟩

end PcpDurations
