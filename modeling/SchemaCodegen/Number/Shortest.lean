import SchemaCodegen.Number.Binary64

/-!
# Shortest decimals

The shortest decimal that reads back as a given number of the binary format; of several the one
nearest to the number. Between `1e-4` and `1e16` it is written with a point, beyond with an
exponent.
-/

namespace SchemaCodegen.Number.Binary64

/-- The whole number of units `10 ^ exponent` next below a positive quotient. -/
def unitsBelow (num den : Nat) (exponent : Int) : Nat :=
  let scale := Nat.pow 10 exponent.natAbs
  if exponent < 0 then num * scale / den else num / (den * scale)

/-- Twice the distance of `digits * 10 ^ exponent` from a quotient, in units of `1 / scale` for a
scale that depends on the quotient and the exponent alone. -/
def distance (num den digits : Nat) (exponent : Int) : Nat :=
  let scale := Nat.pow 10 exponent.natAbs
  let a := if exponent < 0 then num * scale else num
  let b := if exponent < 0 then den * digits else den * digits * scale
  (a - b) + (b - a)

/-- Whether a decimal reads back as the number. -/
def readsBack (x : Binary64) (digits : Nat) (exponent : Int) : Bool :=
  match x, ofDecimal false digits exponent with
  | .finite _ m e, .finite _ m' e' =>
    asQuotient m 2 e == asQuotient m' 2 e' ||
      (let q := asQuotient m 2 e
       let q' := asQuotient m' 2 e'
       q.1 * q'.2 == q'.1 * q.2)
  | _, _ => false

/-- Of the two neighbours on the grid of `10 ^ exponent`, the nearer one that reads back. -/
def neighbour? (x : Binary64) (num den : Nat) (exponent : Int) : Option Nat :=
  let below := unitsBelow num den exponent
  let nearer := if distance num den (below + 1) exponent < distance num den below exponent
    then [below + 1, below] else [below, below + 1]
  nearer.find? fun digits => readsBack x digits exponent

/-- The shortest decimal among grids that get finer, as digits and exponent. -/
def shortestFrom (x : Binary64) (num den : Nat) : Nat → Int → Nat × Int
  | 0, exponent => (unitsBelow num den exponent, exponent)
  | n + 1, exponent =>
    match neighbour? x num den exponent with
    | some digits => (digits, exponent)
    | none => shortestFrom x num den n (exponent - 1)

/-- The digits of a number without the zeros at its end, and how many these were. -/
def withoutZeros (digits : List Char) : List Char × Nat :=
  let rest := digits.reverse.dropWhile (· == '0')
  (rest.reverse, digits.length - rest.length)

/-- Digits with a point after the given number of them, or with an exponent where that number is
below -3 or above 16. -/
def placePoint (digits : List Char) (point : Int) : String :=
  if point < -3 || 16 < point then
    let exponent := point - 1
    let mantissa := match digits with
      | [] => ['0']
      | [d] => [d]
      | d :: ds => d :: '.' :: ds
    String.ofList mantissa ++ (if exponent < 0 then "e-" else "e+") ++ padded 2 exponent.natAbs
  else if point ≤ 0 then
    "0." ++ String.ofList (List.replicate point.natAbs '0' ++ digits)
  else
    let whole := digits.take point.toNat
    let fraction := digits.drop point.toNat
    String.ofList (whole ++ List.replicate (point.toNat - whole.length) '0') ++ "." ++
      (if fraction.isEmpty then "0" else String.ofList fraction)

/-- The shortest decimal of a number. -/
def shortest : Binary64 → String
  | .nan => "nan"
  | .infinite negative => if negative then "-inf" else "inf"
  | .finite negative mantissa exponent =>
    let sign := if negative then "-" else ""
    if mantissa == 0 then sign ++ "0.0"
    else
      let (num, den) := asQuotient mantissa 2 exponent
      let guess : Int := ((Nat.log2 num : Int) - (Nat.log2 den : Int)) * 30103 / 100000 + 2
      let x := finite false mantissa exponent
      let (digits, power) := shortestFrom x num den 40 guess
      let (kept, zeros) := withoutZeros (toString digits).toList
      sign ++ placePoint kept (kept.length + power + zeros)

end SchemaCodegen.Number.Binary64
