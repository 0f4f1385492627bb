import ScriptAudit.Pattern.CharSet

/-!
# Named sets of characters

The sets of characters that patterns call by name: the classes of ASCII characters that
stand in brackets, and the general categories of Unicode. Scripts and the other
properties of characters have no names here.
-/

namespace ScriptAudit
namespace Pattern
namespace Parser

/-- The classes of ASCII characters. -/
def asciiClasses : List (String × List (Char × Char)) :=
  [("alnum", [('0', '9'), ('A', 'Z'), ('a', 'z')]),
   ("alpha", [('A', 'Z'), ('a', 'z')]),
   ("ascii", [('\x00', '\x7f')]),
   ("blank", [('\t', '\t'), (' ', ' ')]),
   ("cntrl", [('\x00', '\x1f'), ('\x7f', '\x7f')]),
   ("digit", [('0', '9')]),
   ("graph", [('!', '~')]),
   ("lower", [('a', 'z')]),
   ("print", [(' ', '~')]),
   ("punct", [('!', '/'), (':', '@'), ('[', '\x60'), ('\x7b', '~')]),
   ("space", [('\t', '\r'), (' ', ' ')]),
   ("upper", [('A', 'Z')]),
   ("word", [('0', '9'), ('A', 'Z'), ('_', '_'), ('a', 'z')]),
   ("xdigit", [('0', '9'), ('A', 'F'), ('a', 'f')])]

/-- The class of ASCII characters with a name. -/
def asciiClass? (name : List Char) : Option CharClass :=
  (asciiClasses.find? fun (known, _) => known.toList = name).map
    fun (_, ranges) => .ofRanges ranges

/-- The names of general categories and of groups of them, in the form in which names
are compared. -/
def categoryNames : List (List String × List Text.Category) :=
  [(["lu", "uppercaseletter"], [.lu]),
   (["ll", "lowercaseletter"], [.ll]),
   (["lt", "titlecaseletter"], [.lt]),
   (["lm", "modifierletter"], [.lm]),
   (["lo", "otherletter"], [.lo]),
   (["lc", "casedletter"], [.lu, .ll, .lt]),
   (["l", "letter"], [.lu, .ll, .lt, .lm, .lo]),
   (["mn", "nonspacingmark"], [.mn]),
   (["mc", "spacingmark"], [.mc]),
   (["me", "enclosingmark"], [.me]),
   (["m", "mark", "combiningmark"], [.mn, .mc, .me]),
   (["nd", "decimalnumber", "digit"], [.nd]),
   (["nl", "letternumber"], [.nl]),
   (["no", "othernumber"], [.no]),
   (["n", "number"], [.nd, .nl, .no]),
   (["pc", "connectorpunctuation"], [.pc]),
   (["pd", "dashpunctuation"], [.pd]),
   (["ps", "openpunctuation"], [.ps]),
   (["pe", "closepunctuation"], [.pe]),
   (["pi", "initialpunctuation"], [.pi]),
   (["pf", "finalpunctuation"], [.pf]),
   (["po", "otherpunctuation"], [.po]),
   (["p", "punctuation", "punct"], [.pc, .pd, .ps, .pe, .pi, .pf, .po]),
   (["sm", "mathsymbol"], [.sm]),
   (["sc", "currencysymbol"], [.sc]),
   (["sk", "modifiersymbol"], [.sk]),
   (["so", "othersymbol"], [.so]),
   (["s", "symbol"], [.sm, .sc, .sk, .so]),
   (["zs", "spaceseparator"], [.zs]),
   (["zl", "lineseparator"], [.zl]),
   (["zp", "paragraphseparator"], [.zp]),
   (["z", "separator"], [.zs, .zl, .zp]),
   (["cc", "control", "cntrl"], [.cc]),
   (["cf", "format"], [.cf]),
   (["co", "privateuse"], [.co]),
   (["cn", "unassigned"], [.cn]),
   (["c", "other"], [.cc, .cf, .co, .cn])]

/-- A name without what does not count in it: letter case, blanks, dashes, underscores
and `is` in front. -/
def plainName (name : List Char) : List Char :=
  let letters := name.map Char.toLower
  let marked := ['i', 's'].isPrefixOf letters
  let kept := (if marked then letters.drop 2 else letters).filter fun char =>
    char.toNat < 128 && char != ' ' && char != '-' && char != '_'
  -- the abbreviation of another property keeps its `is`
  if marked && kept = ['c'] then ['i', 's', 'c'] else kept

/-- The characters of the general category with a plain name. -/
def categoryClass? (name : List Char) : Option CharClass :=
  if name = "any".toList then some .all
  else if name = "ascii".toList then some (.range 0 127)
  else if name = "assigned".toList then some (.compl (.category [.cn]))
  else
    (categoryNames.find? fun (known, _) => known.any fun text => text.toList = name).map
      fun (_, members) => .category members

/-- The characters with a property, which is a category or says which property has the
category as its value. -/
def propertyClass? (name : List Char) : Option CharClass :=
  let mark := if name.contains ':' then ':' else '='
  match name.span (· != mark) with
  | (category, []) => categoryClass? (plainName category)
  | (property, _ :: category) =>
      if plainName property = "gc".toList ||
          plainName property = "generalcategory".toList then
        categoryClass? (plainName category)
      else none

end Parser
end Pattern
end ScriptAudit
