import Taskboard.Text.Basic

/-!
# Double-precision numbers

A double is a sign, a whole mantissa below `2 ^ 53` and a power of two, or an infinity, or not a number.
Everything here is exact integer arithmetic: rounding a fraction to the nearest double, the fewest
decimal digits that read back as the same double, and the digits at a fixed number of places.
-/

namespace Taskboard

/-- A double-precision number; a finite one stands for `± mantissa * 2 ^ exponent`. -/
inductive Binary64 where
  | finite (negative : Bool) (mantissa : Nat) (exponent : Int)
  | infinite (negative : Bool)
  | notANumber
deriving DecidableEq, Inhabited

namespace Binary64

/-- Quotient rounded to the nearest whole number, a half to the even neighbour. -/
def roundDiv (num den : Nat) : Nat :=
  let q := num / den
  let r := num % den
  if den < 2 * r || (2 * r == den && q % 2 == 1) then q + 1 else q

/-- Numerator and denominator of `base ^ exponent`. -/
def power (base : Nat) (exponent : Int) : Nat × Nat :=
  if exponent < 0 then (1, base.pow exponent.natAbs) else (base.pow exponent.natAbs, 1)

/-- Numerator and denominator of `num / den / 2 ^ exponent`. -/
def scaled (num den : Nat) (exponent : Int) : Nat × Nat :=
  let (n, d) := power 2 exponent
  (num * d, den * n)

/-- Least exponent of a finite double. -/
def leastExponent : Int := -1074

/-- Value of the leading bit of a full mantissa. -/
def leadingBit : Nat := Nat.pow 2 52

/-- Greatest exponent of a finite double. -/
def greatestExponent : Int := 971

/-- The double nearest to the fraction `num / den`, ties to the even mantissa. -/
def ofRatio (negative : Bool) (num den : Nat) : Binary64 :=
  if num == 0 then .finite negative 0 leastExponent
  else
    let guess : Int := (num.log2 : Int) - den.log2 - 52
    let (n, d) := scaled num den guess
    let exponent := max (if n < leadingBit * d then guess - 1 else guess) leastExponent
    let (n, d) := scaled num den exponent
    let m := roundDiv n d
    let (m, exponent) := if m == 2 * leadingBit then (leadingBit, exponent + 1) else (m, exponent)
    if greatestExponent < exponent then .infinite negative else .finite negative m exponent

/-- The double nearest to `digits * 10 ^ exponent`. Powers of ten far outside the range of doubles
are settled without being computed. -/
def ofDecimal (negative : Bool) (digits : Nat) (exponent : Int) : Binary64 :=
  let size : Int := (Nat.toDigits 10 digits).length
  if digits == 0 || size + exponent < -400 then .finite negative 0 leastExponent
  else if 400 < size + exponent then .infinite negative
  else
    let (n, d) := power 10 exponent
    ofRatio negative (digits * n) d

/-- The double nearest to an integer. -/
def ofInt (n : Int) : Binary64 := ofRatio (n < 0) n.natAbs 1

/-- A finite double as a signed fraction with a power of two below. -/
def ratio? : Binary64 → Option (Int × Nat)
  | .finite negative m exponent =>
    let (n, d) := power 2 exponent
    some (if negative then -((m * n : Nat) : Int) else (m * n : Nat), d)
  | _ => none

/-- The whole part of a finite double, rounded toward zero. -/
def wholePart? (x : Binary64) : Option Int :=
  x.ratio?.map fun (n, d) => n.tdiv d

/-- Whether the first number is less than the second; false when either is not a number. -/
def lessThan : Binary64 → Binary64 → Bool
  | .notANumber, _ => false
  | _, .notANumber => false
  | .infinite negative, .infinite other => negative && !other
  | .infinite negative, .finite .. => negative
  | .finite .., .infinite other => !other
  | x@(.finite ..), y@(.finite ..) =>
    match x.ratio?, y.ratio? with
    | some (n, d), some (n', d') => n * d' < n' * d
    | _, _ => false

/-- The real numbers that round to a positive double, in quarters of the unit of its last digit. -/
structure Neighbourhood where
  /-- The double itself. -/
  mid : Nat
  /-- Distance to the lower end; shorter at a power of two. -/
  low : Nat
  /-- Distance to the upper end. -/
  high : Nat
  /-- Whether the ends belong to it. -/
  closed : Bool
  /-- Power of two of one quarter. -/
  unit : Int

/-- Neighbourhood of the double `mantissa * 2 ^ exponent`. -/
def neighbourhood (mantissa : Nat) (exponent : Int) : Neighbourhood where
  mid := 4 * mantissa
  low := if mantissa == leadingBit && leastExponent < exponent then 1 else 2
  high := 2
  closed := mantissa % 2 == 0
  unit := exponent - 2

/-- Greatest `k` up to the given one with `10 ^ k ≤ num / den`, searched downward. -/
def leadingPlace (num den : Nat) : Nat → Int → Int
  | 0, k => k
  | fuel + 1, k =>
    let (n, d) := power 10 k
    if n * den ≤ num * d then k else leadingPlace num den fuel (k - 1)

/-- One of the two points next to a double on the grid of multiples of `10 ^ step` that rounds to it:
the nearer one if both do, with the even one on a tie. -/
def gridPoint? (near : Neighbourhood) (step : Int) : Option Nat :=
  let (unitNum, unitDen) := power 2 near.unit
  let (stepNum, stepDen) := power 10 step
  let quarter := unitNum * stepDen
  let cell := stepNum * unitDen
  let value := near.mid * quarter
  let q := value / cell
  let down := value - q * cell
  let up := (q + 1) * cell - value
  let fits (distance reach : Nat) : Bool :=
    if near.closed then distance ≤ reach * quarter else distance < reach * quarter
  if fits down near.low && fits up near.high then
    some (if down < up || (down == up && q % 2 == 0) then q else q + 1)
  else if fits down near.low then some q
  else if fits up near.high then some (q + 1)
  else none

/-- The fewest digits, from `count` on, that read back, with the place of the last one. The search
ends at the seventeenth digit at the latest. -/
def fewestDigits (near : Neighbourhood) (leading : Int) : Nat → Nat → Nat × Int
  | 0, count => (near.mid, leading + 1 - count)
  | fuel + 1, count =>
    let step := leading + 1 - count
    match gridPoint? near step with
    | some digits => (digits, step)
    | none => fewestDigits near leading fuel (count + 1)

/-- Removes zeros from the end of a number, counting the places. -/
def dropZeros : Nat → Nat → Int → Nat × Int
  | 0, digits, place => (digits, place)
  | fuel + 1, digits, place =>
    if digits != 0 && digits % 10 == 0 then dropZeros fuel (digits / 10) (place + 1)
    else (digits, place)

/-- The shortest decimal form `digits * 10 ^ place` that reads back as a positive finite double. -/
def shortest (mantissa : Nat) (exponent : Int) : Nat × Int :=
  let (n, den) := power 2 exponent
  let num := mantissa * n
  let guess : Int := ((num.log2 : Int) - den.log2 + 1) * 30103 / 100000 + 2
  let leading := leadingPlace num den 8 guess
  let (digits, place) := fewestDigits (neighbourhood mantissa exponent) leading 17 1
  dropZeros 20 digits place

/-- Text of a number in the shortest form that reads back: positional, with at least one place after
the point, while the leading digit stands between the fourth place after the point and the sixteenth
before it, otherwise with a power of ten of at least two digits. -/
def text : Binary64 → Text
  | .notANumber => "nan"
  | .infinite negative => if negative then "-inf" else "inf"
  | .finite negative m e =>
    let sign := if negative then ['-'] else []
    if m == 0 then Text.ofChars (sign ++ ['0', '.', '0'])
    else
      let (digits, place) := shortest m e
      let ds := Nat.toDigits 10 digits
      let leading : Int := place + ds.length - 1
      let body :=
        if -4 ≤ leading && leading < 16 then
          if leading < 0 then
            '0' :: '.' :: List.replicate (leading.natAbs - 1) '0' ++ ds
          else if 0 ≤ place then ds ++ List.replicate place.natAbs '0' ++ ['.', '0']
          else
            let whole := leading.natAbs + 1
            ds.take whole ++ '.' :: ds.drop whole
        else
          let tail := if ds.length == 1 then [] else '.' :: ds.drop 1
          let power := Nat.toDigits 10 leading.natAbs
          let power := if power.length < 2 then '0' :: power else power
          ds.take 1 ++ tail ++ 'e' :: (if leading < 0 then '-' else '+') :: power
      Text.ofChars (sign ++ body)

/-- Text with two places after the point, a half going to the even neighbour. -/
def twoPlaces : Binary64 → Text
  | .notANumber => "nan"
  | .infinite negative => if negative then "-inf" else "inf"
  | x@(.finite negative _ _) =>
    match x.ratio? with
    | none => ""
    | some (n, d) =>
      let hundredths := roundDiv (n.natAbs * 100) d
      let places := Nat.toDigits 10 (hundredths % 100)
      let places := if places.length < 2 then '0' :: places else places
      Text.ofChars ((if negative then ['-'] else []) ++ Nat.toDigits 10 (hundredths / 100) ++
        '.' :: places)

end Binary64

end Taskboard
