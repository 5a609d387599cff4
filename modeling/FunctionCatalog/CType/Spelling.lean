import FunctionCatalog.CType.Basic
import FunctionCatalog.Tree.Kind

/-!
# Canonical spelling of types

A type is spelled as a declaration without a name: qualifiers, the named type at the bottom, and
around the place of the name the operators in the order in which a declarator has them. The
spelling grows from the inside: `spellAround` takes what stands at the place of the name, writes
the type's own operator next to it and hands the result to the type that the operator applies to.
A pointer or reference to an array or function is put in parentheses, because the operators behind
a name bind tighter than those before it.
-/

namespace FunctionCatalog

/-- The keywords of a set of qualifiers, separated by blanks. -/
def Qualifiers.spelling (quals : Qualifiers) (lang : Language) : String :=
  " ".intercalate
    ((if quals.isConst then ["const"] else []) ++
     (if quals.isVolatile then ["volatile"] else []) ++
     (if quals.isRestrict then
        [match lang with | .c => "restrict" | .cpp => "__restrict"]
      else []))

/-- Puts a blank between two texts, unless the first is empty. -/
def blankAfter (front back : String) : String :=
  if front = "" then back else front ++ " " ++ back

/-- Puts a blank between two texts, unless the second is empty. -/
def blankBefore (front back : String) : String :=
  if back = "" then front else front ++ " " ++ back

namespace CType

/-- Whether the operators of a type stand behind the name, so that an operator before the name
needs parentheses to apply first. -/
def bindsBehindName : CType → Bool
  | array .. | function .. => true
  | named .. | pointer .. | reference .. => false

/-- A declarator in front of a type, in parentheses where the type needs them. -/
def parenthesized (target : CType) (declarator : String) : String :=
  if target.bindsBehindName then "(" ++ declarator ++ ")" else declarator

mutual

/-- The spelling of a type with `inner` at the place of the declared name. -/
def spellAround (lang : Language) : CType → String → String
  | named name quals, inner => blankBefore (blankAfter (quals.spelling lang) name) inner
  | pointer pointee quals, inner =>
    let stars :=
      if quals = ∅ then "*" ++ inner else blankBefore ("*" ++ quals.spelling lang) inner
    pointee.spellAround lang (pointee.parenthesized stars)
  | reference referent rvalue, inner =>
    referent.spellAround lang
      (referent.parenthesized ((if rvalue then "&&" else "&") ++ inner))
  | array element size, inner => element.spellAround lang (inner ++ "[" ++ size.getD "" ++ "]")
  | function result params variadic prototyped, inner =>
    let list := spellings lang params ++ (if variadic then ["..."] else [])
    let list := if list.isEmpty && prototyped && lang == .c then ["void"] else list
    result.spellAround lang (inner ++ "(" ++ ", ".intercalate list ++ ")")

/-- The spellings of the types in a list. -/
def spellings (lang : Language) : List CType → List String
  | [] => []
  | t :: rest => t.spellAround lang "" :: spellings lang rest

end

/-- The canonical spelling of a type, such as `const char *` or `int (*)(int, int)`. -/
def spelling (t : CType) (lang : Language) : String :=
  t.spellAround lang ""

@[simp] theorem spellings_eq_map (lang : Language) (types : List CType) :
    spellings lang types = types.map (·.spelling lang) := by
  induction types with
  | nil => rfl
  | cons t rest ih => simp [spellings, spelling, ih]

end CType

end FunctionCatalog
