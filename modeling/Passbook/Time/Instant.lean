/-
**Instants.**

An `Instant` is a date in universal time, a second of that day and nanoseconds within the second.
A leap second is kept as a second of twice the length at the end of its minute: its nanoseconds run
on past 10^9.
-/

import Passbook.Time.Date

namespace Passbook.Time

structure Instant where
  date : Date
  /-- The second of the day. -/
  second : Nat
  nano : Nat
  second_lt : second < 86400
  nano_lt : nano < 2000000000
  leap_at_end : 1000000000 ≤ nano → second % 60 = 59
  deriving DecidableEq

namespace Instant

/-- The instant `micros` microseconds after 1970-01-01T00:00:00Z. -/
def ofMicros (micros : Int) : Instant where
  date := Date.ofDayNumber (micros / 86400000000)
  second := (micros % 86400000000 / 1000000).toNat
  nano := (micros % 1000000).toNat * 1000
  second_lt := by omega
  nano_lt := by omega
  leap_at_end := by omega

/-- The instant at which a clock that runs `minutes` ahead of universal time shows `shown`, for a
lead of less than a day. -/
def ofLocal (shown : Instant) (minutes : Int) : Instant :=
  let total := (shown.second : Int) - minutes * 60
  { date :=
      if total < 0 then shown.date.prev else if 86400 ≤ total then shown.date.next else shown.date
    second := (total % 86400).toNat
    nano := shown.nano
    second_lt := by omega
    nano_lt := shown.nano_lt
    leap_at_end := fun long => by
      have := shown.leap_at_end long
      omega }

/-- The instant 2024-01-01T00:00:00Z. -/
def newYear2024 : Instant :=
  ofMicros 1704067200000000

end Instant

end Passbook.Time
