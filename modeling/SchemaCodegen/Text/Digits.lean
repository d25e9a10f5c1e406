/-!
# Digits

The numbers that digits of a base stand for, and signs in front of them. Small and capital letters
are digits above nine. Every script with digits of its own has ten of them in a row, from zero to
nine. A decimal digit is one of these; signs such as `²` that only look like digits are none.
-/

namespace SchemaCodegen.Text

/-- The value of a hexadecimal digit. -/
def hexValue? (c : Char) : Option Nat :=
  if c.isDigit then some (c.toNat - 48)
  else if 'a' ≤ c && c ≤ 'f' then some (c.toNat - 87)
  else if 'A' ≤ c && c ≤ 'F' then some (c.toNat - 55)
  else none

/-- Whether a character is a digit of a base up to sixteen. -/
def isDigitOf (base : Nat) (c : Char) : Bool :=
  (hexValue? c).any (· < base)

/-- The number that the digits of a base stand for; characters that are no digits count as zeros. -/
def numberIn (base : Nat) (cs : List Char) : Nat :=
  cs.foldl (fun sum c => sum * base + (hexValue? c).getD 0) 0

/-- A sign at the front of a text, read as whether it is a minus, and the rest. -/
def splitSign : List Char → Bool × List Char
  | '-' :: rest => (true, rest)
  | '+' :: rest => (false, rest)
  | cs => (false, cs)

/-- The number that a text of hexadecimal digits stands for. -/
def hexNumber? (cs : List Char) : Option Nat :=
  if cs.all (isDigitOf 16) then some (numberIn 16 cs) else none

/-- The number that a text of decimal digits stands for. -/
def decimalNumber (cs : List Char) : Nat :=
  numberIn 10 cs

/-- A number in decimal, filled up with zeros to the given width. -/
def paddedNumber (width n : Nat) : String :=
  let digits := (toString n).toList
  String.ofList (List.replicate (width - digits.length) '0' ++ digits)

/-! ## Numbers that are too long -/

/-- The most digits that a whole number may have to be read or to be written. -/
def maxDigits : Nat := 4300

/-- Whether a whole number has too many digits to be written. -/
def isLongNumber (n : Int) : Bool :=
  maxDigits < (toString n.natAbs).length

/-- What is said of a whole number that has too many digits to be written. -/
def longNumberMessage : String :=
  "Exceeds the limit (" ++ toString maxDigits ++ " digits) for integer string conversion; " ++
    "use sys.set_int_max_str_digits() to increase the limit"

/-! ## Decimal digits of any script -/

/-- The zeros from U+0080 on. -/
def zeroCodes : List Nat :=
  [
    0x660, 0x6F0, 0x7C0, 0x966, 0x9E6, 0xA66, 0xAE6, 0xB66, 0xBE6, 0xC66, 0xCE6, 0xD66, 0xDE6,
    0xE50, 0xED0, 0xF20, 0x1040, 0x1090, 0x17E0, 0x1810, 0x1946, 0x19D0, 0x1A80, 0x1A90, 0x1B50,
    0x1BB0, 0x1C40, 0x1C50, 0xA620, 0xA8D0, 0xA900, 0xA9D0, 0xA9F0, 0xAA50, 0xABF0, 0xFF10,
    0x104A0, 0x10D30, 0x11066, 0x110F0, 0x11136, 0x111D0, 0x112F0, 0x11450, 0x114D0, 0x11650,
    0x116C0, 0x11730, 0x118E0, 0x11950, 0x11C50, 0x11D50, 0x11DA0, 0x16A60, 0x16AC0, 0x16B50,
    0x1D7CE, 0x1D7D8, 0x1D7E2, 0x1D7EC, 0x1D7F6, 0x1E140, 0x1E2F0, 0x1E950, 0x1FBF0]

/-- The value of a decimal digit of any script. -/
def decimalValue? (c : Char) : Option Nat :=
  if c.toNat < 128 then if c.isDigit then some (c.toNat - 48) else none
  else (zeroCodes.find? fun first => first ≤ c.toNat && c.toNat < first + 10).map (c.toNat - ·)

/-- Whether a character is a decimal digit of any script. -/
def isDecimalDigit (c : Char) : Bool :=
  (decimalValue? c).isSome

end SchemaCodegen.Text
