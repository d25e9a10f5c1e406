import SchemaCodegen.Number.Binary64
import SchemaCodegen.Text.Blank
import SchemaCodegen.Text.Case
import SchemaCodegen.Text.Digits
import SchemaCodegen.Text.Split
import SchemaCodegen.Yaml.Flaw

/-!
# Numbers of a YAML text

How numbers are written without quotes, and what such a text stands for. A whole number may be
written in base two, eight, ten or sixteen, and any number in groups to the base sixty with colons
between them, as times are. Underscores between digits do not count.
-/

namespace SchemaCodegen.Yaml

open SchemaCodegen.Number SchemaCodegen.Text

/-! ## Parts of numbers -/

/-- Whether a text holds digits of a base and underscores only. -/
def isLoose (base : Nat) (cs : List Char) : Bool :=
  cs.all fun c => isDigitOf base c || c == '_'

/-- Whether a text begins with a digit and goes on with digits and underscores. -/
def isDecimal (cs : List Char) : Bool :=
  cs.head?.any Char.isDigit && isLoose 10 cs

/-- Whether a text is a decimal that does not begin with a zero. -/
def isUnpadded (cs : List Char) : Bool :=
  isDecimal cs && cs.head? != some '0'

/-- Whether a text is a group after a colon: one digit, or two that stand for less than sixty. -/
def isSixtieth : List Char → Bool
  | [c] => c.isDigit
  | [c, d] => '0' ≤ c && c ≤ '5' && d.isDigit
  | _ => false

/-- Whether a text is a leading group, of the given kind, with further groups after colons. -/
def isGrouped (isLeading : List Char → Bool) (cs : List Char) : Bool :=
  match splitAll ':' cs with
  | first :: second :: more => isLeading first && (second :: more).all isSixtieth
  | _ => false

/-- Whether a text is nothing, or an exponent with its sign. -/
def isExponent : List Char → Bool
  | [] => true
  | [_] => false
  | mark :: sign :: digits =>
    (mark == 'e' || mark == 'E') && (sign == '-' || sign == '+') && !digits.isEmpty &&
      digits.all Char.isDigit

/-! ## Forms -/

/-- Whether a text without its sign is a whole number. -/
def isIntegerBody (cs : List Char) : Bool :=
  match cs with
  | [] => false
  | '0' :: rest =>
    match rest with
    | [] => true
    | mark :: digits =>
      isLoose 8 rest || (mark == 'b' && !digits.isEmpty && isLoose 2 digits) ||
        (mark == 'x' && !digits.isEmpty && isLoose 16 digits)
  | _ => isUnpadded cs || isGrouped isUnpadded cs

/-- Whether a plain text is a whole number. -/
def isInteger (cs : List Char) : Bool :=
  isIntegerBody (splitSign cs).2

/-- Whether what follows a point is digits with an optional exponent. -/
def isFraction (cs : List Char) : Bool :=
  isExponent (cs.dropWhile fun c => c.isDigit || c == '_')

/-- Whether a text is one of the words for an infinity. -/
def isInfinityWord (cs : List Char) : Bool :=
  [".inf", ".Inf", ".INF"].any fun word => word.toList == cs

/-- Whether a plain text is a number with a fraction. -/
def isFractional (cs : List Char) : Bool :=
  let body := (splitSign cs).2
  isInfinityWord body || [".nan", ".NaN", ".NAN"].any (fun word => word.toList == cs) ||
    match splitFirst '.' body with
    | ([], some after) => cs.head? == some '.' && isFraction after && after.head?.any Char.isDigit
    | (before, some after) =>
      (isDecimal before && isFraction after) || (isGrouped isDecimal before && isLoose 10 after)
    | (_, none) => false

/-! ## Numerals

A tag may call any text a number. Such a text may use the digits of any script and have blanks
around it. -/

/-- Whether a character may stand around a numeral. -/
def isPadding (c : Char) : Bool :=
  c == ' ' || ('\t' ≤ c && c ≤ '\r')

/-- The character that a character of a numeral stands for: beyond U+007F, a digit of any script is
one of the usual ones, and a blank is a space. -/
def plainCharacter (c : Char) : Char :=
  if c.toNat < 128 then c
  else
    match decimalValue? c with
    | some value => Char.ofNat ('0'.toNat + value)
    | none => if isBlank c then ' ' else c

/-- A numeral without what stands around it. -/
def numeral (cs : List Char) : List Char :=
  trimWith isPadding (cs.map plainCharacter)

/-- The letter that may stand after a zero in front of the digits of a base. -/
def baseLetter? (base : Nat) : Option Char :=
  [(2, 'b'), (8, 'o'), (16, 'x')].lookup base

/-- The digits of a base without the zero and the letter that may stand in front of them. -/
def dropBaseLetter (base : Nat) (cs : List Char) : List Char :=
  match cs with
  | '0' :: letter :: digits => if baseLetter? base == some letter.toLower then digits else cs
  | _ => cs

/-- The whole number that a numeral of a base stands for. -/
def integerIn (base : Nat) (written : List Char) : Except Flaw Int :=
  let (negative, body) := splitSign (numeral written)
  let cs := dropBaseLetter base body
  let digits := cs.takeWhile (isDigitOf base)
  if base == 10 && maxDigits < digits.length then .error (.tooManyDigits digits.length)
  else if digits.isEmpty || digits.length < cs.length then
    .error (.noInteger base (String.ofList written))
  else .ok (Binary64.signed negative (numberIn base digits))

/-- The exponent that a text stands for, with its mark. -/
def exponentOf (cs : List Char) : Int :=
  let (negative, digits) := splitSign (cs.drop 1)
  Binary64.signed negative (decimalNumber digits)

/-- The number with the given digits before and after its point, and an exponent. -/
def fractionValue (negative : Bool) (before after : List Char) (exponent : Int) : Binary64 :=
  Binary64.ofDecimal negative (decimalNumber (before ++ after)) (exponent - after.length)

/-- Whether a text is a number that may have a point and an exponent. -/
def isScientific (before after : List Char) (exponent : List Char) : Bool :=
  (before ++ after).all Char.isDigit && !(before ++ after).isEmpty &&
    (exponent.isEmpty ||
      (let digits := (splitSign (exponent.drop 1)).2
       !digits.isEmpty && digits.all Char.isDigit))

/-- The words for numbers that have no digits. -/
def numberWord? (negative : Bool) (cs : List Char) : Option Binary64 :=
  if cs == "inf".toList || cs == "infinity".toList then some (.infinite negative)
  else if cs == "nan".toList then some .nan
  else none

/-- The number that a numeral in small letters stands for. -/
def fractionIn (written : List Char) : Except Flaw Binary64 :=
  let (negative, body) := splitSign (numeral written)
  let (mantissa, after) := splitFirst 'e' body
  let exponent := match after with
    | some rest => 'e' :: rest
    | none => []
  let (whole, fraction) := splitFirst '.' mantissa
  let fraction := fraction.getD []
  match numberWord? negative body with
  | some value => .ok value
  | none =>
    if isScientific whole fraction exponent then
      .ok (fractionValue negative whole fraction (exponentOf exponent))
    else .error (.noFraction (String.ofList written))

/-! ## Values -/

/-- The number of groups to the base sixty. -/
def sixtieths (groups : List Int) : Int :=
  groups.foldl (fun sum group => sum * 60 + group) 0

/-- The whole number that a text without a sign and underscores stands for. -/
def integerBody (cs : List Char) : Except Flaw Int :=
  match cs with
  | [] => .error (.breakdown .noFirstCharacter)
  | '0' :: rest =>
    match rest with
    | [] => .ok 0
    | letter :: digits =>
      if letter == 'b' then integerIn 2 digits
      else if letter == 'x' then integerIn 16 digits
      else integerIn 8 cs
  | _ =>
    if cs.contains ':' then do return sixtieths (← (splitAll ':' cs).mapM (integerIn 10))
    else integerIn 10 cs

/-- The whole number that a text stands for. -/
def readInteger (text : String) : Except Flaw Int := do
  let (negative, body) := splitSign (text.toList.filter (· != '_'))
  let size ← integerBody body
  return if negative then -size else size

/-- The sum of groups to the base sixty, the last group first, rounded at every step; `weight` is
what the next group counts. -/
def addSixtieths : Nat → Binary64 → List Binary64 → Except Flaw Binary64
  | _, sum, [] => .ok sum
  | weight, sum, group :: groups =>
    let factor := Binary64.ofNat weight
    if factor.isFinite then addSixtieths (weight * 60) (sum.add (group.mul factor)) groups
    else .error (.breakdown .numberTooLarge)

/-- The number with a fraction that a text without a sign and underscores stands for. -/
def fractionBody (cs : List Char) : Except Flaw Binary64 := do
  if cs == ".inf".toList then return .infinite false
  else if cs == ".nan".toList then return .nan
  else if cs.contains ':' then
    addSixtieths 1 (.ofNat 0) (← (splitAll ':' cs).mapM fractionIn).reverse
  else fractionIn cs

/-- The number with a fraction that a text stands for. -/
def readFraction (text : String) : Except Flaw Binary64 := do
  let cs := (lower (String.ofList (text.toList.filter (· != '_')))).toList
  if cs.isEmpty then throw (.breakdown .noFirstCharacter)
  let (negative, body) := splitSign cs
  let size ← fractionBody body
  return if negative then size.negate else size

end SchemaCodegen.Yaml
