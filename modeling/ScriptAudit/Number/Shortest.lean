import ScriptAudit.Number.Binary64

/-!
# Shortest decimals

The decimal with the fewest digits that is read back as a given double precision
number, and of those the nearest one. Of two equally near ones a format takes
either the even or the larger one.
-/

namespace ScriptAudit
namespace Number

/-- The number `digits * 10 ^ exponent`. -/
structure Decimal where
  digits : Nat
  exponent : Int
  deriving Repr, DecidableEq

/-- Whether a decimal is read back as a number. -/
def Decimal.readsBack (decimal : Decimal) (number : Binary64) : Bool :=
  Binary64.ofDecimal? decimal.digits decimal.exponent == some number

/-- The integral part of a positive fraction's decimal logarithm, looked for
downwards from `high`. -/
def decimalExponent (num den : Nat) : (fuel : Nat) → (high : Int) → Int
  | 0, high => high
  | fuel + 1, high =>
      let (above, below) := powerRatio 10 high
      if den * above ≤ num * below then high
      else decimalExponent num den fuel (high - 1)

/-- What is taken of two decimals that are equally near. -/
inductive Tie
  | toEven
  | up
  deriving Repr, DecidableEq

/-- Whether an exact half behind an integer is rounded up. -/
def Tie.roundsUp (tie : Tie) (lower : Nat) : Bool :=
  match tie with
  | .toEven => lower % 2 = 1
  | .up => true

/-- The neighbours of a number among the multiples of a power of ten, the nearer
one first. -/
def neighbours (tie : Tie) (num den : Nat) (exponent : Int) : List Decimal :=
  let (above, below) := powerRatio 10 exponent
  let scaled := num * below
  let unit := den * above
  let lower := scaled / unit
  let remainder := scaled % unit
  if unit < 2 * remainder || (unit = 2 * remainder && tie.roundsUp lower) then
    [⟨lower + 1, exponent⟩, ⟨lower, exponent⟩]
  else [⟨lower, exponent⟩, ⟨lower + 1, exponent⟩]

/-- Look for a decimal with one more digit after the other. -/
def shortestFrom (tie : Tie) (number : Binary64) (num den : Nat) (leading : Int) :
    (fuel count : Nat) → Decimal
  | 0, _ => ⟨num / den, 0⟩
  | fuel + 1, count =>
      let candidates := neighbours tie num den (leading - count)
      match candidates.find? fun decimal => decimal.readsBack number with
      | some decimal => decimal
      | none => shortestFrom tie number num den leading fuel (count + 1)

/-- Move trailing zeros of the digits into the exponent. -/
def Decimal.normalize (decimal : Decimal) : (fuel : Nat) → Decimal
  | 0 => decimal
  | fuel + 1 =>
      if decimal.digits ≠ 0 && decimal.digits % 10 = 0 then
        Decimal.normalize ⟨decimal.digits / 10, decimal.exponent + 1⟩ fuel
      else decimal

/-- The shortest decimal that is read back as a number. -/
def shortest (tie : Tie) (number : Binary64) : Decimal :=
  if number.significand = 0 then ⟨0, 0⟩
  else
    let (num, den) := number.ratio
    let leading := decimalExponent num den 700 310
    (shortestFrom tie number num den leading 18 0).normalize 20

/-- The digits of a decimal. -/
def Decimal.text (decimal : Decimal) : List Char :=
  Nat.toDigits 10 decimal.digits

/-- A decimal written without an exponent, with at least one digit on both sides
of the point. -/
def Decimal.positional (decimal : Decimal) : List Char :=
  let digits := decimal.text
  let point : Int := digits.length + decimal.exponent
  if 0 ≤ decimal.exponent then
    digits ++ List.replicate decimal.exponent.toNat '0' ++ ['.', '0']
  else if 0 < point then
    digits.take point.toNat ++ '.' :: digits.drop point.toNat
  else
    ['0', '.'] ++ List.replicate (-point).toNat '0' ++ digits

/-- A decimal written with one digit in front of the point and an exponent that
has a sign. -/
def Decimal.scientific (decimal : Decimal) : List Char :=
  let digits := decimal.text
  let exponent : Int := digits.length + decimal.exponent - 1
  let mantissa :=
    match digits with
    | [] => []
    | [digit] => [digit]
    | digit :: rest => digit :: '.' :: rest
  mantissa ++ 'e' :: (if exponent < 0 then '-' else '+') ::
    Nat.toDigits 10 exponent.natAbs

/-- A decimal with an exponent when its point would stand far from its digits. -/
def Decimal.compact (decimal : Decimal) : List Char :=
  let point : Int := decimal.text.length + decimal.exponent
  if decimal.digits = 0 || (-5 < point && point ≤ 16) then decimal.positional
  else decimal.scientific

end Number
end ScriptAudit
