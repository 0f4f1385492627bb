/-!
# Digits and codes

The values of written numbers, and the characters that have a given code.
-/

namespace ScriptAudit
namespace Text

/-- The value of a hexadecimal digit. -/
def hexDigit? (char : Char) : Option Nat :=
  if '0' ≤ char && char ≤ '9' then some (char.toNat - 48)
  else if 'a' ≤ char && char ≤ 'f' then some (char.toNat - 87)
  else if 'A' ≤ char && char ≤ 'F' then some (char.toNat - 55)
  else none

/-- The value of digits in a base, if all characters are digits of the base. -/
def digitsValue? (base : Nat) (chars : List Char) : Option Nat :=
  if chars.isEmpty then none
  else
    chars.foldlM
      (fun value char =>
        match hexDigit? char with
        | some digit => if digit < base then some (value * base + digit) else none
        | none => none)
      0

/-- The character with a code, if there is one. -/
def charOfCode? (code : Nat) : Option Char :=
  if code < 0xD800 || (0xE000 ≤ code && code < 0x110000) then some (Char.ofNat code)
  else none

end Text
end ScriptAudit
