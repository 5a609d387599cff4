import FunctionCatalog.CType.Spelling
import FunctionCatalog.Comment.Attachment
import FunctionCatalog.Declaration.Meaning
import FunctionCatalog.Declaration.OfNode
import FunctionCatalog.Record.Basic
import FunctionCatalog.Text.Alphabetic
import FunctionCatalog.Text.Basic

/-!
# Walking the items of a file

The items at the top level of a file are visited in source order. Conditional blocks and linkage
specifications count as if their contents stood in their place; items with a syntax error are passed
over. A definition of type names adds to the names known from there on, and a declaration or
definition of functions adds a record for each.

The items in front of the one visited are at hand as a list with the nearest first, because comments
are found there.
-/

namespace FunctionCatalog

/-! ## Names of functions

A function is called by its identifier. An overloaded operator is called by the word `operator` and
the operator's symbols, between which any white space may stand in the source; it is written here
without white space if the operator is made of symbols, and with single blanks if it is a word such
as `new`. -/

/-- The name of a function whose declared name has the given text. -/
def functionName (raw : String) : String :=
  match "operator".toList.isPrefixOf? raw.toList with
  | some (c :: rest) =>
    if isAlphanumeric c || c == '_' then raw
    else
      let symbols := words (String.ofList (c :: rest))
      if ((trimStart (c :: rest)).head?.map isAlphabetic).getD false then
        "operator " ++ " ".intercalate symbols
      else "operator" ++ String.join symbols
  | _ => raw

/-! ## Items -/

variable (source : Bytes)

/-- The declaration that a node makes with one of its declarators. -/
def Declaration.ofNodes? (owner declarator : Node) : Option Declaration := do
  let specifier ← Specifier.ofNode? source (← owner.child? .type)
  let declarator ← Declarator.ofNode? source declarator
  some (.mk specifier (Qualifiers.ofNodes source owner.children) declarator)

/-- The declaration of a type name by a `typedef` with one of its declarators. A tagged type without
a name is known by the name declared. -/
def Declaration.ofTypedef? (owner declarator : Node) : Option Declaration := do
  let type ← owner.child? .type
  if type.isUnnamedTag then
    let declarator ← Declarator.ofNode? source declarator
    let name ← (← declarator.name?).text?
    some (.mk (.namedBy name) (Qualifiers.ofNodes source owner.children) declarator)
  else Declaration.ofNodes? source owner declarator

namespace Naming

/-- The names after a declaration of a type name, if it declares one. -/
def declareTypedef (naming : Naming) (declaration : Declaration) : Naming :=
  match declaration.name?.bind (·.text?), declaration.type? naming with
  | some name, some type => naming.declare name type
  | _, _ => naming

/-- The names after a `typedef`. -/
def afterTypedef (naming : Naming) (node : Node) : Naming :=
  (node.childrenWith .declarator).foldl
    (fun naming declarator =>
      match Declaration.ofTypedef? source node declarator with
      | some declaration => naming.declareTypedef declaration
      | none => naming)
    naming

/-- The names after a `using` declaration. -/
def afterUsing (naming : Naming) (node : Node) : Naming :=
  match (node.child? .name).bind (·.text? source),
      ((node.child? .type).bind (Declaration.ofNode? source)).bind (·.type? naming) with
  | some name, some type => naming.declare name type
  | _, _ => naming

end Naming

/-- Whether a function declared by a name of this kind is a free function. -/
def NameKind.isFree : NameKind → Bool
  | identifier | operator => true
  | field | type | qualified | destructor | template => false

/-- The name and the types of the free function that a declaration declares. -/
def Declaration.function? (naming : Naming) (declaration : Declaration) :
    Option (String × List CType) := do
  let name ← declaration.name?
  if name.kind.isFree then
    match ← declaration.type? naming with
    | .function result params _ _ => some (functionName (← name.text?), result :: params)
    | _ => none
  else none

/-- The record of the function that a node declares with one of its declarators. -/
def functionRecord? (naming : Naming) (before : List Node) (owner declarator : Node) :
    Option FunctionRecord := do
  let declaration ← Declaration.ofNodes? source owner declarator
  let (name, types) ← declaration.function? naming
  some {
    name
    signature := types.map (·.spelling naming.lang)
    commentTokens := owner.commentTokens source before }

/-- What a walk has learned so far. -/
structure Walk where
  /-- What type names stand for. -/
  naming : Naming
  /-- The records of the functions declared so far, in source order. -/
  records : List FunctionRecord := []

namespace Walk

/-- Adds the records of the functions that a node declares with the given declarators. -/
def addFunctions (walk : Walk) (before : List Node) (owner : Node) (declarators : List Node) :
    Walk :=
  { walk with
    records := walk.records
      ++ declarators.filterMap (functionRecord? source walk.naming before owner) }

/-- Takes in an item that holds no other items. -/
def visitItem (walk : Walk) (before : List Node) (node : Node) : Walk :=
  match node.kind with
  | .typeDefinition => { walk with naming := walk.naming.afterTypedef source node }
  | .aliasDeclaration => { walk with naming := walk.naming.afterUsing source node }
  | .functionDefinition => walk.addFunctions source before node (node.child? .declarator).toList
  | .declaration => walk.addFunctions source before node (node.childrenWith .declarator)
  | _ => walk

mutual

/-- Visits a node after the given siblings. -/
def visit (before : List Node) (walk : Walk) : Node → Walk
  | node@⟨kind, _, _, _, hasError, _, children⟩ =>
    match kind with
    | .conditionalBlock | .declarationList => visitNamed [] walk children
    | .linkageSpecification => visitBody [] walk children
    | _ => if hasError then walk else walk.visitItem source before node

/-- Visits the named ones of the given nodes, which stand after the given siblings. -/
def visitNamed (before : List Node) (walk : Walk) : List Node → Walk
  | [] => walk
  | node :: rest =>
    if node.isNamed then visitNamed (node :: before) (visit before walk node) rest
    else visitNamed (node :: before) walk rest

/-- Visits the one of the given nodes that a linkage specification applies to. -/
def visitBody (before : List Node) (walk : Walk) : List Node → Walk
  | [] => walk
  | node :: rest =>
    if node.field? == some .body then visit before walk node
    else visitBody (node :: before) walk rest

end

end Walk

/-- The walk over the whole tree of a file. -/
def Node.walkItems (root : Node) (naming : Naming) : Walk :=
  Walk.visitNamed source [] { naming } root.children

end FunctionCatalog
