/-!
# Double precision numbers

A nonnegative finite number of double precision is an integer of at most 53 bits
times a power of two. Of the numbers nearest to a fraction the even one is taken.
`ofDecimal?` rounds a decimal number once. `ofParts?` rounds its digits, the power
of ten and their product or quotient, as a reader does that works with double
precision throughout.
-/

namespace ScriptAudit
namespace Number

/-- The number `significand * 2 ^ exponent`. -/
structure Binary64 where
  significand : Nat
  exponent : Int
  deriving Repr, DecidableEq

/-- The least exponent. -/
def minExponent : Int := -1074

/-- The greatest exponent. -/
def maxExponent : Int := 971

/-- The nearest integer to a quotient, and of two equally near ones the even
one. -/
def roundDiv (num den : Nat) : Nat :=
  let quotient := num / den
  let twice := 2 * (num % den)
  if twice < den then quotient
  else if den < twice then quotient + 1
  else if quotient % 2 = 0 then quotient
  else quotient + 1

/-- A power of a base as a fraction. -/
def powerRatio (base : Nat) (exponent : Int) : Nat × Nat :=
  if 0 ≤ exponent then (base.pow exponent.toNat, 1)
  else (1, base.pow (-exponent).toNat)

/-- The first significand with more than 53 bits. -/
def significandRange : Nat := Nat.pow 2 53

/-- A fraction in units of a power of two, rounded to an integer. -/
def roundAt (num den : Nat) (exponent : Int) : Nat :=
  let (above, below) := powerRatio 2 exponent
  roundDiv (num * below) (den * above)

/-- The exponent of the first of 53 bits of a positive fraction, or the least
one. -/
def exponentOf (num den : Nat) : Int :=
  let guess : Int := (num.log2 : Int) - (den.log2 : Int) - 53
  let (above, below) := powerRatio 2 (guess + 53)
  let exponent := if num * below < den * above then guess else guess + 1
  max exponent minExponent

namespace Binary64

/-- The number zero. -/
def zero : Binary64 :=
  ⟨0, minExponent⟩

/-- The number as a fraction. -/
def ratio (number : Binary64) : Nat × Nat :=
  let (above, below) := powerRatio 2 number.exponent
  (number.significand * above, below)

/-- The number nearest to a fraction, if it is not too large. -/
def ofRatio? (num den : Nat) : Option Binary64 :=
  if num = 0 then some zero
  else
    let exponent := exponentOf num den
    let significand := roundAt num den exponent
    let (significand, exponent) :=
      if significand = significandRange then (significandRange / 2, exponent + 1)
      else (significand, exponent)
    if exponent ≤ maxExponent then some ⟨significand, exponent⟩ else none

/-- The number nearest to `digits * 10 ^ exponent`, if it is not too large. -/
def ofDecimal? (digits : Nat) (exponent : Int) : Option Binary64 :=
  let size : Int := (Nat.toDigits 10 digits).length + exponent
  if digits = 0 || size < -330 then some zero
  else if 310 < size then none
  else
    let (above, below) := powerRatio 10 exponent
    ofRatio? (digits * above) below

/-- The product of two numbers, if it is not too large. -/
def mul? (left right : Binary64) : Option Binary64 :=
  ofRatio? (left.ratio.1 * right.ratio.1) (left.ratio.2 * right.ratio.2)

/-- The quotient of two numbers, if it is not too large. -/
def div? (left right : Binary64) : Option Binary64 :=
  ofRatio? (left.ratio.1 * right.ratio.2) (left.ratio.2 * right.ratio.1)

/-- The largest exponent of a power of ten. -/
def maxPower : Nat := 308

/-- The number nearest to a power of ten. -/
def powerOfTen (exponent : Nat) : Binary64 :=
  (ofDecimal? 1 exponent).getD zero

/-- Multiply a number by a power of ten. A power that is too small is divided out
in several steps, after which nothing is left. -/
def scale? : (fuel : Nat) → Binary64 → (exponent : Int) → Option Binary64
  | 0, number, _ => some number
  | fuel + 1, number, exponent =>
      if number.significand = 0 then some number
      else if (maxPower : Int) < exponent then none
      else if 0 ≤ exponent then number.mul? (powerOfTen exponent.toNat)
      else if -(maxPower : Int) ≤ exponent then
        number.div? (powerOfTen (-exponent).toNat)
      else
        (number.div? (powerOfTen maxPower)).bind fun quotient =>
          scale? fuel quotient (exponent + maxPower)

/-- The number that is read from `digits * 10 ^ exponent` step by step. Three
divisions by the largest power leave nothing of a machine word. -/
def ofParts? (digits : Nat) (exponent : Int) : Option Binary64 :=
  (ofRatio? digits 1).bind fun number => scale? 4 number exponent

end Binary64
end Number
end ScriptAudit
