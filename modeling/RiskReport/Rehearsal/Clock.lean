import RiskReport.Id
import RiskReport.Time.Instant

/-!
# The clock of rehearsals

A rehearsal has a clock of its own for the times that are stored and logged: it starts at a fixed
time and goes on by a microsecond whenever it is read. Identifiers and tokens are made from the
number of a reading, so no two readings give the same.
-/

namespace RiskReport.Rehearsal.Clock

/-- The time at which the clock starts. -/
def epoch : Instant := ⟨1900000000, 0⟩

/-- The time after some readings. -/
def timeAfter (readings : Nat) : Instant :=
  (epoch.shift? (1000 * (readings : Int))).getD epoch

/-- Whether a time was read from a clock that has been read so often. -/
def covers (readings : Nat) (t : Instant) : Bool :=
  epoch.le t && t.le (timeAfter readings)

/-- The identifier made at a reading, one of several. -/
def mint (reading index : Nat) : Uuid :=
  .ofTime (epoch.second.toNat * 1000 + reading) index

/-- The token made at a reading. -/
def mintToken (reading : Nat) : AccessToken :=
  .ofBits ((reading * 2 + 1) * Nat.pow 6364136223846793005 3)

end RiskReport.Rehearsal.Clock
