/-!
# Binary floating-point numbers

A number of the binary format with 53 significant bits is kept as what it stands for: a whole number
times a power of two, an infinity, or not a number. Reading a decimal, adding and multiplying,
asking whether it is a whole number and printing it with fixed places are then exact arithmetic on
whole numbers, with one rounding at the end. A finite number has one form only: its mantissa is less
than `2 ^ 53`, and as large as its exponent allows.
-/

namespace SchemaCodegen.Number

/-- The quotient rounded to the nearest whole number, a half going to the even neighbour. -/
def roundHalfEven (num den : Nat) : Nat :=
  let floor := num / den
  let twice := 2 * (num % den)
  if twice < den then floor
  else if den < twice then floor + 1
  else if floor % 2 == 0 then floor else floor + 1

/-- A number of the binary format. -/
inductive Binary64 where
  /-- Not a number. -/
  | nan
  /-- An infinity. -/
  | infinite (negative : Bool)
  /-- The number `mantissa * 2 ^ exponent`, or its negative. -/
  | finite (negative : Bool) (mantissa : Nat) (exponent : Int)
  deriving DecidableEq, Repr

namespace Binary64

/-- The numerator and the denominator of `mantissa * base ^ exponent`. -/
def asQuotient (mantissa base : Nat) (exponent : Int) : Nat × Nat :=
  if exponent < 0 then (mantissa, base.pow exponent.natAbs)
  else (mantissa * base.pow exponent.natAbs, 1)

/-- The quotient rounded to a multiple of `2 ^ exponent`. -/
def roundAt (num den : Nat) (exponent : Int) : Nat :=
  if exponent < 0 then roundHalfEven (num * Nat.pow 2 exponent.natAbs) den
  else roundHalfEven num (den * Nat.pow 2 exponent.natAbs)

/-- Whether the quotient is at least `2 ^ exponent`. -/
def reaches (num den : Nat) (exponent : Int) : Bool :=
  if exponent < 0 then den ≤ num * Nat.pow 2 exponent.natAbs
  else den * Nat.pow 2 exponent.natAbs ≤ num

/-- The number of the format nearest to a positive quotient, ties going to the even mantissa; one
too large for the format becomes infinite. -/
def ofQuotient (negative : Bool) (num den : Nat) : Binary64 :=
  let guess : Int := (Nat.log2 num : Int) - (Nat.log2 den : Int)
  let top := if reaches num den guess then guess else guess - 1
  let exponent := max (top - 52) (-1074)
  let rounded := roundAt num den exponent
  let (mantissa, exponent) :=
    if rounded == Nat.pow 2 53 then (Nat.pow 2 52, exponent + 1) else (rounded, exponent)
  if 971 < exponent then .infinite negative else .finite negative mantissa exponent

/-- The number of the format nearest to `digits * 10 ^ exponent`. -/
def ofDecimal (negative : Bool) (digits : Nat) (exponent : Int) : Binary64 :=
  if digits == 0 then .finite negative 0 0
  else
    let size : Int := (toString digits).length + exponent
    if 400 < size then .infinite negative
    else if size < -400 then .finite negative 0 0
    else
      let quotient := asQuotient digits 10 exponent
      ofQuotient negative quotient.1 quotient.2

/-- The number of the format nearest to a whole number. -/
def ofNat (n : Nat) : Binary64 :=
  if n == 0 then .finite false 0 0 else ofQuotient false n 1

/-- Whether the number has a minus sign. -/
def isNegative : Binary64 → Bool
  | .nan => false
  | .infinite negative => negative
  | .finite negative _ _ => negative

/-- The number with the other sign. -/
def negate : Binary64 → Binary64
  | .nan => .nan
  | .infinite negative => .infinite !negative
  | .finite negative mantissa exponent => .finite (!negative) mantissa exponent

/-- Whether the number is zero. -/
def isZero : Binary64 → Bool
  | .finite _ mantissa _ => mantissa == 0
  | _ => false

/-- The product, rounded to the format. -/
def mul (x y : Binary64) : Binary64 :=
  let negative := x.isNegative != y.isNegative
  match x, y with
  | .finite _ m e, .finite _ n f =>
    if m == 0 || n == 0 then .finite negative 0 0
    else
      let quotient := asQuotient (m * n) 2 (e + f)
      ofQuotient negative quotient.1 quotient.2
  | .nan, _ => .nan
  | _, .nan => .nan
  | _, _ => if x.isZero || y.isZero then .nan else .infinite negative

/-- The finite number as a multiple of `2 ^ exponent`, for an exponent no greater than its own. -/
def unitsAt (negative : Bool) (mantissa : Nat) (own exponent : Int) : Int :=
  let units := mantissa * Nat.pow 2 (own - exponent).natAbs
  if negative then -(units : Int) else units

/-- The sum, rounded to the format; a sum of zero is negative only if both parts are. -/
def add (x y : Binary64) : Binary64 :=
  match x, y with
  | .finite s m e, .finite t n f =>
    let low := min e f
    let sum := unitsAt s m e low + unitsAt t n f low
    if sum == 0 then .finite (s && t) 0 0
    else
      let quotient := asQuotient sum.natAbs 2 low
      ofQuotient (sum < 0) quotient.1 quotient.2
  | .nan, _ => .nan
  | _, .nan => .nan
  | .infinite s, .infinite t => if s == t then .infinite s else .nan
  | .infinite s, _ => .infinite s
  | _, .infinite t => .infinite t

/-- A whole number with a sign. -/
def signed (negative : Bool) (n : Nat) : Int :=
  if negative then -(n : Int) else n

/-- The whole number that a finite number equals, if it equals one. -/
def toInt? : Binary64 → Option Int
  | .nan => none
  | .infinite _ => none
  | .finite negative mantissa exponent =>
    let quotient := asQuotient mantissa 2 exponent
    if quotient.1 % quotient.2 == 0 then some (signed negative (quotient.1 / quotient.2)) else none

/-- Whether the number is neither infinite nor not a number. -/
def isFinite : Binary64 → Bool
  | .finite _ _ _ => true
  | _ => false

/-- A whole number in decimal, filled up with zeros to the given width. -/
def padded (width n : Nat) : String :=
  let digits := toString n
  String.ofList (List.replicate (width - digits.length) '0') ++ digits

/-- The number in decimal with a fixed number of places, a tie going to the even last digit. -/
def toFixed (places : Nat) : Binary64 → String
  | .nan => "nan"
  | .infinite negative => if negative then "-inf" else "inf"
  | .finite negative mantissa exponent =>
    let quotient := asQuotient mantissa 2 exponent
    let scale := Nat.pow 10 places
    let scaled := roundHalfEven (quotient.1 * scale) quotient.2
    let whole := toString (scaled / scale)
    let body := if places == 0 then whole else whole ++ "." ++ padded places (scaled % scale)
    if negative then "-" ++ body else body

end Binary64

end SchemaCodegen.Number
