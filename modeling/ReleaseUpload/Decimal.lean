/-!
Decimal numbers `significand * 10 ^ exponent` and the range of doubles. A format may demand the
double nearest to a number, or one computed in doubles from its leading digits; near the end of the
range the first can be finite where the second is not, and the other way round.
-/

namespace ReleaseUpload.Decimal

def ofDigits (digits : List Char) : Nat :=
  digits.foldl (fun number c => number * 10 + (c.toNat - '0'.toNat)) 0

/-- From here on a magnitude is nearer to the next power of two than to any double. -/
def infiniteFrom : Nat := 1 <<< 1024 - 1 <<< 970

/-- Whether the number rounds to a finite double. Only the borderline needs the powers themselves;
elsewhere the count of digits decides. -/
def isFinite (significand : Nat) (exponent : Int) : Bool :=
  let size : Int := (Nat.toDigits 10 significand).length
  if significand = 0 ∨ size + exponent ≤ 308 then true
  else if 310 ≤ size + exponent then false
  else if 0 ≤ exponent then significand * Nat.pow 10 exponent.toNat < infiniteFrom
  else significand < infiniteFrom * Nat.pow 10 exponent.natAbs

/-- The nearest number of 53 significant bits, which is a double; of two the even one. -/
def roundToDouble (number : Nat) : Nat :=
  let unit := 1 <<< (number.log2 - 52)
  let below := number / unit
  let excess := number % unit
  if unit < 2 * excess ∨ (unit = 2 * excess ∧ below % 2 = 1) then (below + 1) * unit
  else below * unit

def largestSignificand : Nat := 0xffffffffffffffff

/-- Leaves out digits at the end until 64 bits hold the significand. -/
def leading (significand : Nat) (exponent : Int) : Nat × Int :=
  if significand ≤ largestSignificand then (significand, exponent)
  else leading (significand / 10) (exponent + 1)
termination_by significand
decreasing_by simp only [largestSignificand] at *; omega

/-- Whether the product of the leading digits and a power of ten is finite, where both factors are
rounded to doubles first and the power itself has to be one. -/
def isFiniteProduct (significand : Nat) (exponent : Int) : Bool :=
  let (significand, exponent) := leading significand exponent
  if significand = 0 ∨ exponent < 0 then true
  else if 308 < exponent then false
  else roundToDouble significand * roundToDouble (Nat.pow 10 exponent.toNat) < infiniteFrom

end ReleaseUpload.Decimal
