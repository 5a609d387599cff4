import FunctionCatalog.Declaration.Basic
import FunctionCatalog.TypeName.Aliases
import FunctionCatalog.TypeName.Builtin

/-!
# What a declaration declares

The type of the declared name. Names of types stand for what the file has declared them to be, else
for what the configuration or the standard library makes of them, else for themselves
(`Naming.resolve`). A declarator is applied from the outside in, each operator to the type that the
operators outside it have made, so that the operator next to the name ends up outermost
(`Declarator.applied?`).
-/

namespace FunctionCatalog

/-- What names of types stand for at one place of a file. -/
structure Naming where
  /-- The language of the file. -/
  lang : Language
  /-- The names known in every file. -/
  aliases : TypeAliases
  /-- The names that the file has declared so far, the latest first. -/
  locals : List (String × CType) := []

namespace Naming

/-- The type that a name stands for. -/
def resolve (naming : Naming) (name : String) : CType :=
  match naming.locals.lookup name with
  | some type => type
  | none => .ofName ((naming.aliases.resolve? naming.lang name).getD name)

/-- The names after a declaration of one more. -/
def declare (naming : Naming) (name : String) (type : CType) : Naming :=
  { naming with locals := (name, type) :: naming.locals }

end Naming

/-- The name of a tagged type. C keeps the keyword; C++ knows the type by its name alone. -/
def TagKind.typeName (kind : TagKind) (name? : Option String) : Language → String
  | .c => kind.keyword ++ " " ++ name?.getD "(unnamed)"
  | .cpp =>
    match name? with
    | some name => normalizeSpelling name
    | none => "(unnamed " ++ kind.keyword ++ ")"

/-- The type that a specifier names. -/
def Specifier.type (naming : Naming) : Specifier → CType
  | .name text => naming.resolve text
  | .builtin text => .ofName (canonicalBuiltin text)
  | .tag kind name? => .ofName (kind.typeName name? naming.lang)
  | .namedBy typedefName => .ofName typedefName
  | .verbatim text => .ofName (normalizeSpelling text)

/-- What the entries of a parameter list say together. -/
structure ParameterTypes where
  /-- The adjusted types of the parameters. -/
  types : List CType := []
  /-- Further parameters may follow. -/
  isVariadic : Bool := false
  /-- An entry says that there are no parameters. -/
  saysNone : Bool := false

namespace ParameterTypes

/-- Whether the list says which parameters there are. The empty list does so in C++ only. -/
def isPrototype (lang : Language) (params : ParameterTypes) : Bool :=
  lang == .cpp || params.saysNone || params.isVariadic || !params.types.isEmpty

/-- Whether the list says that there are no parameters and has some nevertheless. -/
def isContradictory (params : ParameterTypes) : Bool :=
  params.saysNone && (!params.types.isEmpty || params.isVariadic)

/-- The type of a function with these parameters. -/
def functionType? (lang : Language) (params : ParameterTypes) (result : CType) : Option CType :=
  if params.isContradictory then none
  else some (.function result params.types params.isVariadic (params.isPrototype lang))

end ParameterTypes

mutual

/-- The type of the declared name, when the declaration has made `type` of its specifier so far. -/
def Declarator.applied? (naming : Naming) : Declarator → CType → Option CType
  | .nothing, type | .name _, type => some type
  | .grouped inner, type => inner.applied? naming type
  | .pointer quals inner, type => inner.applied? naming (.pointer type quals)
  | .reference rvalue inner, type => inner.applied? naming (.reference type rvalue)
  | .array size inner, type => inner.applied? naming (.array type size)
  | .function trailing params inner, type => do
    let result ← Declaration.typeOr? naming trailing type
    let params ← Parameter.types? naming params
    let function ← params.functionType? naming.lang result
    inner.applied? naming function

/-- The type that a declaration gives its name. -/
def Declaration.type? (naming : Naming) : Declaration → Option CType
  | .mk specifier quals declarator =>
    declarator.applied? naming ((specifier.type naming).qualified quals)

/-- The type of a trailing declaration, and without one the type declared so far. -/
def Declaration.typeOr? (naming : Naming) : Option Declaration → CType → Option CType
  | none, type => some type
  | some declaration, _ => declaration.type? naming

/-- The types of the parameters in a list. A parameter that is nothing but `void` says that there
are none. -/
def Parameter.types? (naming : Naming) : List Parameter → Option ParameterTypes
  | [] => some {}
  | .ellipsis :: rest => do
    let params ← Parameter.types? naming rest
    some { params with isVariadic := true }
  | .declared (.mk specifier quals declarator) :: rest => do
    let type ← declarator.applied? naming ((specifier.type naming).qualified quals)
    let params ← Parameter.types? naming rest
    if declarator.isNothing && type.isVoid then some { params with saysNone := true }
    else some { params with types := type.adjustedParameter :: params.types }

end

namespace Declaration

/-- The declared name. -/
def name? : Declaration → Option DeclaredName
  | .mk _ _ declarator => declarator.name?

end Declaration

end FunctionCatalog
