import Mathlib.Data.List.Basic

/-!
# Python string behaviour

`str.strip()`, `len()`, `int()` and the truth value of an optional string.  A
string is a sequence of code points, as in Python.
-/

set_option autoImplicit false

namespace KidsChores.Library.PyText

/-- The code points with `str.isspace()`. -/
def isSpace (c : Char) : Bool :=
  let code := c.toNat
  (0x09 ≤ code && code ≤ 0x0D) || (0x1C ≤ code && code ≤ 0x20) ||
    code == 0x85 || code == 0xA0 || code == 0x1680 ||
    (0x2000 ≤ code && code ≤ 0x200A) || code == 0x2028 || code == 0x2029 ||
    code == 0x202F || code == 0x205F || code == 0x3000

def stripChars (text : List Char) : List Char :=
  ((text.dropWhile isSpace).reverse.dropWhile isSpace).reverse

def strip (text : String) : List Char := stripChars text.toList

/-- `bool(text)`: neither `None` nor the empty string. -/
def truthy : Option String → Bool
  | none => false
  | some text => text ≠ ""

/-! ## Decimal digits -/

/-- The zeros of the Unicode decimal digits (category `Nd`); each is followed by
its digits one to nine.  `\d` matches exactly these, here and in the schema's
patterns. -/
def decimalZeros : List Nat :=
  [0x30, 0x660, 0x6F0, 0x7C0, 0x966, 0x9E6, 0xA66, 0xAE6, 0xB66, 0xBE6, 0xC66,
    0xCE6, 0xD66, 0xDE6, 0xE50, 0xED0, 0xF20, 0x1040, 0x1090, 0x17E0, 0x1810,
    0x1946, 0x19D0, 0x1A80, 0x1A90, 0x1B50, 0x1BB0, 0x1C40, 0x1C50, 0xA620,
    0xA8D0, 0xA900, 0xA9D0, 0xA9F0, 0xAA50, 0xABF0, 0xFF10, 0x104A0, 0x10D30,
    0x11066, 0x110F0, 0x11136, 0x111D0, 0x112F0, 0x11450, 0x114D0, 0x11650,
    0x116C0, 0x11730, 0x118E0, 0x11950, 0x11C50, 0x11D50, 0x11DA0, 0x11F50,
    0x16A60, 0x16AC0, 0x16B50, 0x1D7CE, 0x1D7D8, 0x1D7E2, 0x1D7EC, 0x1D7F6,
    0x1E140, 0x1E2F0, 0x1E4F0, 0x1E950, 0x1FBF0]

def decimal? (c : Char) : Option Nat :=
  (decimalZeros.find? fun base => base ≤ c.toNat && c.toNat < base + 10).map
    fun base => c.toNat - base

def isDecimal (c : Char) : Bool := (decimal? c).isSome

/-- The digits of an `int()` literal: single underscores may stand between
digits.  `closed` says that the last character read was a digit. -/
def digitsValue? : Nat → Bool → List Char → Option Int
  | value, closed, [] => if closed then some value else none
  | value, closed, c :: rest =>
      if c = '_' then
        if closed then digitsValue? value false rest else none
      else
        match decimal? c with
        | some digit => digitsValue? (10 * value + digit) true rest
        | none => none

/-- `int(text)`; `none` is `ValueError`. -/
def int? (text : List Char) : Option Int :=
  match stripChars text with
  | '-' :: rest => (digitsValue? 0 false rest).map fun value => -value
  | '+' :: rest => digitsValue? 0 false rest
  | rest => digitsValue? 0 false rest

end KidsChores.Library.PyText
