/-!
# Machine words

The ranges of the integers that fit into 64 bits. Counts are unsigned words.
-/

namespace ScriptAudit
namespace Number

/-- The number of values of a machine word. -/
def wordRange : Nat := Nat.pow 2 64

/-- The number of negative values of a signed machine word. -/
def signedRange : Nat := Nat.pow 2 63

end Number
end ScriptAudit
