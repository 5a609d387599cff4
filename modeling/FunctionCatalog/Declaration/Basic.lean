import FunctionCatalog.CType.Basic
import FunctionCatalog.Tree.Kind

/-!
# Declarations

The part of C and C++ syntax that says what a declaration declares: a type specifier with
qualifiers, and a declarator around the declared name. A declarator lists its operators from the
outside in: the outermost one applies to the specified type first. A parameter and a trailing
return type are declarations in turn, so the types are mutual.

Names of types are not looked up here. What a declaration means is said in
`FunctionCatalog.Declaration.Meaning`.
-/

namespace FunctionCatalog

/-- A type specifier, before names are looked up. -/
inductive Specifier where
  /-- A name that may stand for another type. -/
  | name (name : String)
  /-- A builtin type of one or several words. -/
  | builtin (text : String)
  /-- A tagged type; `none` for a tag without a name. -/
  | tag (kind : TagKind) (name? : Option String)
  /-- A tagged type without a name, known by the name that is declared for it. -/
  | namedBy (typedefName : String)
  /-- Any other type, which is spelled as it stands. -/
  | verbatim (text : String)
deriving DecidableEq, Repr

/-- The name at the place of the declared name. -/
structure DeclaredName where
  /-- What kind of name it is. -/
  kind : NameKind
  /-- The name as it stands, if it is text. -/
  text? : Option String
deriving DecidableEq, Repr

mutual

/-- What surrounds the declared name, from the outside in. -/
inductive Declarator where
  /-- Nothing: the declaration has no name at this place. -/
  | nothing
  /-- The declared name. -/
  | name (name : DeclaredName)
  /-- Parentheses, attributes or an initial value around a declarator. -/
  | grouped (inner : Declarator)
  /-- A pointer, with its own qualifiers. -/
  | pointer (quals : Qualifiers) (inner : Declarator)
  /-- A reference. -/
  | reference (rvalue : Bool) (inner : Declarator)
  /-- An array, with the text of its size. -/
  | array (size : Option String) (inner : Declarator)
  /-- A function. A trailing return type takes the place of the type declared so far. -/
  | function (trailing : Option Declaration) (params : List Parameter) (inner : Declarator)

/-- A specifier with qualifiers, and one declarator. -/
inductive Declaration where
  /-- A declaration from its parts. -/
  | mk (specifier : Specifier) (quals : Qualifiers) (declarator : Declarator)

/-- An entry of a parameter list. -/
inductive Parameter where
  /-- A parameter of a type, with or without a name. -/
  | declared (declaration : Declaration)
  /-- Any number of further parameters. -/
  | ellipsis

end

namespace Declarator

/-- The declared name, which stands below all operators. -/
def name? : Declarator → Option DeclaredName
  | nothing => none
  | name n => some n
  | grouped inner | pointer _ inner | reference _ inner | array _ inner
  | function _ _ inner => inner.name?

/-- Whether a declarator is absent. -/
def isNothing : Declarator → Bool
  | nothing => true
  | _ => false

end Declarator

end FunctionCatalog
