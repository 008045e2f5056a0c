import ReleaseUpload.Instant

/-!
Clocks. A clock counts on past the ends of the calendar, and tells no instant there;
`Clock.now?_ofInstant` says that it tells the one that it was set to.
-/

namespace ReleaseUpload

/-- A clock, by the nanoseconds that it has counted since the start of 1970. -/
structure Clock where
  nanos : Int
  deriving DecidableEq, Repr

namespace Clock

def ofInstant (instant : Instant) : Clock := ⟨instant.nanos⟩

/-- Seconds since the start of 1970, and nanoseconds that count forward from there. -/
def ofParts (seconds nanos : Int) : Clock := ⟨seconds * Span.nanosPerSecond + nanos⟩

/-- Seconds since the start of 1970, rounded toward the past. -/
def seconds (clock : Clock) : Int := clock.nanos / Span.nanosPerSecond

/-- Nanoseconds past `seconds`, never negative. -/
def subsecondNanos (clock : Clock) : Int := clock.nanos % Span.nanosPerSecond

/-- Lets a span pass, or turns the clock back by it if it is negative. -/
def pass (clock : Clock) (span : Span) : Clock := ⟨clock.nanos + span.nanos⟩

def now? (clock : Clock) : Option Instant := Instant.ofNanos? clock.nanos

theorem ofParts_parts (clock : Clock) : ofParts clock.seconds clock.subsecondNanos = clock := by
  cases clock with
  | mk nanos =>
    simp only [ofParts, seconds, subsecondNanos, Clock.mk.injEq]
    exact Int.ediv_mul_add_emod nanos Span.nanosPerSecond

theorem now?_ofInstant (instant : Instant) : (ofInstant instant).now? = some instant := by
  simp [now?, ofInstant, Instant.ofNanos?, instant.first_le, instant.le_last]

end Clock

end ReleaseUpload
