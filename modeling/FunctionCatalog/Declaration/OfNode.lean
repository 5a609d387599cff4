import FunctionCatalog.Declaration.Basic
import FunctionCatalog.Text.Basic
import FunctionCatalog.Tree.Node
import FunctionCatalog.TypeName.Aliases

/-!
# Reading declarations from a syntax tree

Every reader returns `none` when the tree has, at a place that matters, something that is no
declarator, specifier or parameter. A declarator inside another one is the child in the field
`declarator`; where declarators are only grouped, and in references, a child without that field is
accepted as well, because the grammars give it none there.
-/

namespace FunctionCatalog

variable (source : Bytes)

/-- The qualifiers written as children of a node. -/
def Qualifiers.ofNodes (nodes : List Node) : Qualifiers :=
  nodes.foldl
    (fun quals node =>
      match node.kind, node.text? source with
      | .typeQualifier, some text =>
        quals.merge (ofKeyword (String.ofList (trim text.toList)))
      | _, _ => quals)
    ∅

/-- The specifier that a node of a type is. -/
def Specifier.ofNode? (node : Node) : Option Specifier :=
  (node.text? source).map fun text =>
    match node.kind with
    | .primitiveType | .name .type => .name text
    | .sizedTypeSpecifier => .builtin text
    | .tagSpecifier kind => .tag kind ((node.child? .name).bind (·.text? source))
    | _ => .verbatim text

/-- Whether a node is a tagged type without a name. -/
def Node.isUnnamedTag (node : Node) : Bool :=
  match node.kind with
  | .tagSpecifier _ => (node.child? .name).isNone
  | _ => false

/-- Whether a node is the declarator of its parent. -/
def Node.isInDeclaratorField (node : Node) : Bool :=
  node.field? == some .declarator

/-- Whether a node may stand at the place of a declarator without being in the field of one. -/
def Node.mayDeclare (node : Node) : Bool :=
  node.isNamed &&
    match node.kind with
    | .attributeDeclaration | .attributeSpecifier | .callModifier | .typeQualifier | .comment
    | .asmExpression => false
    | _ => true

/-- Which of the given children is the declarator inside a grouping or a reference: the one in the
field of a declarator, and without such a child the first that may declare. -/
def Node.isInside (children : List Node) (node : Node) : Bool :=
  if children.any Node.isInDeclaratorField then node.isInDeclaratorField else node.mayDeclare

/-- The size in an array declarator with the given children. -/
def arraySize? (children : List Node) : Option String :=
  ((children.find? (·.field? == some .size)).bind (·.text? source)).map normalizeSpelling

mutual

/-- The declarator that a node is. -/
def Declarator.ofNode? : Node → Option Declarator
  | node@⟨kind, _, _, _, _, _, children⟩ =>
    match kind with
    | .name nameKind => some (.name ⟨nameKind, node.text? source⟩)
    | .pointerDeclarator _ =>
      (Declarator.among? Node.isInDeclaratorField children).map
        (.pointer (Qualifiers.ofNodes source children))
    | .referenceDeclarator _ =>
      (Declarator.among? (Node.isInside children) children).map
        (.reference (children.any (·.kind == .doubleAmpersand)))
    | .arrayDeclarator _ =>
      (Declarator.among? Node.isInDeclaratorField children).map
        (.array (arraySize? source children))
    | .functionDeclarator _ => do
      let trailing ← Declaration.trailing? children
      let params ← Parameter.list? children
      let inner ← Declarator.among? Node.isInDeclaratorField children
      some (.function trailing params inner)
    | .parenthesizedDeclarator _ | .attributedDeclarator | .initDeclarator =>
      (Declarator.among? (Node.isInside children) children).map .grouped
    | _ => none

/-- The declarator that the first child accepted is. -/
def Declarator.among? (accept : Node → Bool) : List Node → Option Declarator
  | [] => some .nothing
  | child :: rest =>
    if accept child then Declarator.ofNode? child else Declarator.among? accept rest

/-- The type behind the parameter list of a function declarator with the given children. -/
def Declaration.trailing? : List Node → Option (Option Declaration)
  | [] => some none
  | ⟨kind, _, _, _, _, _, parts⟩ :: rest =>
    if kind == .trailingReturnType then Declaration.firstDescriptor? parts
    else Declaration.trailing? rest

/-- The first type descriptor among the parts of a trailing return type. -/
def Declaration.firstDescriptor? : List Node → Option (Option Declaration)
  | [] => some none
  | part :: rest =>
    if part.isNamed && part.kind == .typeDescriptor then
      (Declaration.ofNode? part).map some
    else Declaration.firstDescriptor? rest

/-- The parameters of a function declarator with the given children. -/
def Parameter.list? : List Node → Option (List Parameter)
  | [] => none
  | ⟨_, _, _, _, _, field?, entries⟩ :: rest =>
    if field? == some .parameters then Parameter.ofNodes? entries else Parameter.list? rest

/-- The parameters that the nodes inside a parameter list are. -/
def Parameter.ofNodes? : List Node → Option (List Parameter)
  | [] => some []
  | node :: rest =>
    match node.kind with
    | .parameterDeclaration | .optionalParameterDeclaration => do
      let declaration ← Declaration.ofNode? node
      let params ← Parameter.ofNodes? rest
      some (.declared declaration :: params)
    | .variadicParameter | .ellipsis | .variadicParameterDeclaration =>
      (Parameter.ofNodes? rest).map (.ellipsis :: ·)
    | .openingParenthesis | .closingParenthesis | .comma | .comment =>
      Parameter.ofNodes? rest
    | _ => none

/-- The declaration that a node with a type and at most one declarator is. -/
def Declaration.ofNode? : Node → Option Declaration
  | ⟨_, _, _, _, _, _, children⟩ => do
    let type ← children.find? (·.field? == some .type)
    let specifier ← Specifier.ofNode? source type
    let declarator ← Declarator.among? Node.isInDeclaratorField children
    some (.mk specifier (Qualifiers.ofNodes source children) declarator)

end

end FunctionCatalog
