/-!
# Numerals

A number without a sign is written in decimal digits, at least one of them.  A
plus sign in front and leading zeros make no difference.  Network addresses also
write numbers in other bases, which their first characters tell.
-/

namespace InstrumentLink.Text

/-- The number that a text stands for, if it is one and below `bound`. -/
def unsigned? (bound : Nat) (text : List Char) : Option Nat :=
  let digits := match text with
    | '+' :: rest => rest
    | _ => text
  let value := Nat.ofDigitChars 10 digits 0
  if digits ≠ [] ∧ digits.all Char.isDigit ∧ value < bound then some value else none

/-- The value of a digit in the bases up to sixteen. -/
def digitValue? (c : Char) : Option Nat :=
  if c.isDigit then some (c.toNat - '0'.toNat)
  else if 'a' ≤ c.toLower ∧ c.toLower ≤ 'f' then some (c.toLower.toNat - 'a'.toNat + 10)
  else none

/-- The number that the digits of a base stand for; there is at least one. -/
def inBase? (base : Nat) (digits : List Char) : Option Nat :=
  let next (value : Nat) (c : Char) : Option Nat := do
    let digit ← digitValue? c
    if digit < base then some (base * value + digit) else none
  if digits = [] then none else digits.foldlM next 0

/-- The number that a text stands for, if it is one and below `bound`: it is
hexadecimal behind `0x`, octal behind any other zero, and decimal otherwise. -/
def literal? (bound : Nat) (text : List Char) : Option Nat :=
  let value := match text with
    | '0' :: 'x' :: digits | '0' :: 'X' :: digits => inBase? 16 digits
    | '0' :: _ => inBase? 8 text
    | _ => inBase? 10 text
  value.filter (· < bound)

end InstrumentLink.Text
