/-!
Instants and spans of time, counted in nanoseconds. An instant lies between the two ends of the
calendar. `Instant.add` stops at the end it would pass, and `Instant.add?` refuses to pass it;
`Instant.add_eq_of_add?` says that the two agree wherever the second has an answer.
-/

namespace ReleaseUpload

structure Span where
  nanos : Int
  deriving DecidableEq, Repr

namespace Span

def nanosPerSecond : Int := 1000000000

def ofSeconds (seconds : Int) : Span := ⟨seconds * nanosPerSecond⟩

/-- Both parts carry the sign of the span. -/
def ofParts (seconds nanos : Int) : Span := ⟨seconds * nanosPerSecond + nanos⟩

/-- Whole seconds; what is left of a second is dropped toward zero. -/
def wholeSeconds (span : Span) : Int := span.nanos.tdiv nanosPerSecond

/-- What `wholeSeconds` drops, with the sign of the span. -/
def subsecondNanos (span : Span) : Int := span.nanos.tmod nanosPerSecond

theorem ofParts_parts (span : Span) : ofParts span.wholeSeconds span.subsecondNanos = span := by
  cases span with
  | mk nanos =>
    simp only [ofParts, wholeSeconds, subsecondNanos, Span.mk.injEq]
    exact Int.tdiv_mul_add_tmod nanos nanosPerSecond

end Span

namespace Calendar

/-- Midnight at the start of the year -9999. -/
def first : Int := -377705116800 * Span.nanosPerSecond

/-- The last nanosecond of the year 9999. -/
def last : Int := 253402300799 * Span.nanosPerSecond + 999999999

end Calendar

/-- A point in time, in nanoseconds since the start of 1970, inside the calendar. -/
structure Instant where
  nanos : Int
  first_le : Calendar.first ≤ nanos
  le_last : nanos ≤ Calendar.last
  deriving DecidableEq, Repr

namespace Instant

theorem eq_of_nanos_eq {a b : Instant} (same : a.nanos = b.nanos) : a = b := by
  cases a; cases b; cases same; rfl

/-- The instant of the calendar nearest to a count of nanoseconds. -/
def clamp (nanos : Int) : Instant where
  nanos := max Calendar.first (min Calendar.last nanos)
  first_le := by omega
  le_last := by
    have : Calendar.first ≤ Calendar.last := by decide
    omega

/-- The instant at a count of nanoseconds, if the calendar has it. -/
def ofNanos? (nanos : Int) : Option Instant :=
  if inside : Calendar.first ≤ nanos ∧ nanos ≤ Calendar.last then
    some ⟨nanos, inside.1, inside.2⟩
  else none

def latest : Instant := clamp Calendar.last

def earliest : Instant := clamp Calendar.first

/-- Seconds since the start of 1970, and nanoseconds that count forward from there. -/
def ofParts (seconds nanos : Int) : Instant := clamp (seconds * Span.nanosPerSecond + nanos)

/-- Seconds since the start of 1970, rounded toward the past. -/
def seconds (instant : Instant) : Int := instant.nanos / Span.nanosPerSecond

/-- Nanoseconds past `seconds`, never negative. -/
def subsecondNanos (instant : Instant) : Int := instant.nanos % Span.nanosPerSecond

instance : LE Instant := ⟨fun a b => a.nanos ≤ b.nanos⟩

instance : LT Instant := ⟨fun a b => a.nanos < b.nanos⟩

instance (a b : Instant) : Decidable (a ≤ b) := inferInstanceAs (Decidable (a.nanos ≤ b.nanos))

instance (a b : Instant) : Decidable (a < b) := inferInstanceAs (Decidable (a.nanos < b.nanos))

theorem le_def {a b : Instant} : a ≤ b ↔ a.nanos ≤ b.nanos := Iff.rfl

theorem lt_def {a b : Instant} : a < b ↔ a.nanos < b.nanos := Iff.rfl

theorem not_lt {a b : Instant} : ¬a < b ↔ b ≤ a := Int.not_lt

/-- Moves by a span, stopping at the end of the calendar. -/
def add (instant : Instant) (span : Span) : Instant := clamp (instant.nanos + span.nanos)

/-- Moves by a span that stays inside the calendar. -/
def add? (instant : Instant) (span : Span) : Option Instant :=
  ofNanos? (instant.nanos + span.nanos)

def since (instant start : Instant) : Span := ⟨instant.nanos - start.nanos⟩

theorem nanos_clamp (nanos : Int) :
    (clamp nanos).nanos = max Calendar.first (min Calendar.last nanos) := rfl

theorem clamp_of_inside {nanos : Int} (first_le : Calendar.first ≤ nanos)
    (le_last : nanos ≤ Calendar.last) : clamp nanos = ⟨nanos, first_le, le_last⟩ := by
  apply eq_of_nanos_eq
  simp only [nanos_clamp]
  omega

theorem add_eq_of_add? {instant moved : Instant} {span : Span}
    (inside : instant.add? span = some moved) : instant.add span = moved := by
  unfold add? ofNanos? at inside
  split at inside
  · rename_i bounds
    cases inside
    exact clamp_of_inside bounds.1 bounds.2
  · cases inside

/-- Whole seconds left until `deadline`, and zero once it has passed. -/
def secondsUntil (deadline now : Instant) : Int := max 0 (deadline.since now).wholeSeconds

end Instant

end ReleaseUpload
