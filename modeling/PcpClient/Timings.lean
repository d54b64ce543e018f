import Mathlib.Algebra.Order.Ring.Int

/- What the steps of a connection record about time, and the intervals that are read from
   it. A time point is a reading of the clock in nanoseconds and 0 is the epoch. -/
namespace PcpTimings

/-- duration_cast to a unit of so many nanoseconds: it truncates towards zero, and the count
    becomes a 32-bit int. -/
def durationCast (unit ns : Int) : Int := Int.bmod (ns.tdiv unit) (2 ^ 32)

def durationUs (ns : Int) : Int := durationCast 1000 ns
def durationMs (ns : Int) : Int := durationCast 1000000 ns
def durationMin (ns : Int) : Int := durationCast 60000000000 ns

structure ConnectionTimings where
  start : Nat := 0
  tcpPreInit : Nat := 0
  tcpPostInit : Nat := 0
  opened : Nat := 0
  closingHandshake : Nat := 0
  close : Nat := 0
  isOpen : Bool := false
  isClosingStarted : Bool := false
  isFailed : Bool := false
  isClosed : Bool := false
  deriving DecidableEq, Repr

def ConnectionTimings.reset (now : Nat) : ConnectionTimings := { start := now }

def ConnectionTimings.setOpen (t : ConnectionTimings) (now : Nat) : ConnectionTimings :=
  { t with opened := now, isOpen := true }

def ConnectionTimings.setClosing (t : ConnectionTimings) (now : Nat) : ConnectionTimings :=
  { t with closingHandshake := now, isClosingStarted := true }

def ConnectionTimings.setClosed (t : ConnectionTimings) (now : Nat) (onFailEvent : Bool) :
    ConnectionTimings :=
  { t with close := now, isClosed := true, isFailed := onFailEvent }

/-! The differences that the getters cast. -/

def ConnectionTimings.tcpInterval (t : ConnectionTimings) : Int := t.tcpPreInit - t.start

def ConnectionTimings.openingHandshakeInterval (t : ConnectionTimings) : Int :=
  if !t.isOpen then 0 else t.tcpPostInit - t.tcpPreInit

def ConnectionTimings.webSocketInterval (t : ConnectionTimings) : Int :=
  if !t.isOpen then 0 else t.opened - t.start

def ConnectionTimings.closingHandshakeInterval (t : ConnectionTimings) : Int :=
  if !t.isOpen || !t.isClosingStarted || !t.isClosed then 0 else t.close - t.closingHandshake

def ConnectionTimings.overallConnectionInterval (t : ConnectionTimings) (now : Nat) : Int :=
  if !t.isOpen then 0 else if t.isClosed then t.close - t.start else now - t.start

def ConnectionTimings.getTCPInterval (t : ConnectionTimings) : Int := durationUs t.tcpInterval

def ConnectionTimings.getOpeningHandshakeInterval (t : ConnectionTimings) : Int :=
  durationUs t.openingHandshakeInterval

def ConnectionTimings.getWebSocketInterval (t : ConnectionTimings) : Int :=
  durationUs t.webSocketInterval

def ConnectionTimings.getClosingHandshakeInterval (t : ConnectionTimings) : Int :=
  durationUs t.closingHandshakeInterval

def ConnectionTimings.getOverallConnectionIntervalMin (t : ConnectionTimings) (now : Nat) : Int :=
  if !t.isOpen then 0
  else if !t.isClosed then durationMin (now - t.start)
  else durationMin (t.close - t.start)

def ConnectionTimings.getOverallConnectionIntervalUs (t : ConnectionTimings) (now : Nat) : Int :=
  if !t.isOpen then 0
  else if t.isClosed then durationUs (t.close - t.start)
  else durationUs (now - t.start)

structure AssociationTimings where
  start : Nat := 0
  association : Nat := 0
  close : Nat := 0
  completed : Bool := false
  success : Bool := false
  closed : Bool := false
  deriving DecidableEq, Repr

def AssociationTimings.reset (now : Nat) : AssociationTimings := { start := now }

/-- A session closed before its completion is recorded takes the time of its closure. -/
def AssociationTimings.setCompleted (t : AssociationTimings) (now : Nat) (success : Bool) :
    AssociationTimings :=
  { t with association := if t.closed then t.close else now, completed := true, success }

def AssociationTimings.setClosed (t : AssociationTimings) (now : Nat) : AssociationTimings :=
  { t with close := now, closed := true }

def AssociationTimings.overallSessionInterval (t : AssociationTimings) (now : Nat) : Int :=
  if !t.completed then 0 else if t.closed then t.close - t.association else now - t.association

def AssociationTimings.getOverallSessionIntervalMin (t : AssociationTimings) (now : Nat) : Int :=
  if !t.completed then 0
  else if t.closed then durationMin (t.close - t.association)
  else durationMin (now - t.association)

def AssociationTimings.getOverallSessionIntervalMs (t : AssociationTimings) (now : Nat) : Int :=
  if !t.completed then 0
  else if t.closed then durationMs (t.close - t.association)
  else durationMs (now - t.association)

end PcpTimings
