/-!
# Languages, and the kinds and fields of syntax nodes

A source file is read by the grammar of C or by the grammar of C++.

A grammar names the kind of each node and the role that the node has in its parent. Of the many
kinds of the two grammars, those that take part in a declaration have a constructor of their own,
grouped by what they do there; every other kind is kept by its name.
-/

namespace FunctionCatalog

/-- The language whose grammar reads a file. -/
inductive Language where
  /-- C. -/
  | c
  /-- C++. -/
  | cpp
deriving DecidableEq, Repr

/-- The kinds of nodes that can be the name that a declarator declares. -/
inductive NameKind where
  /-- A plain identifier. -/
  | identifier
  /-- The name of a member. -/
  | field
  /-- The name of a type. -/
  | type
  /-- The name of an overloaded operator, such as `operator +`. -/
  | operator
  /-- A name with a scope in front. -/
  | qualified
  /-- The name of a destructor. -/
  | destructor
  /-- The name of a specialised function template. -/
  | template
deriving DecidableEq, Repr

/-- The kinds of tagged types. -/
inductive TagKind where
  /-- A structure. -/
  | struct
  /-- A union. -/
  | union
  /-- An enumeration. -/
  | enum
  /-- A class. -/
  | classTag
deriving DecidableEq, Repr

/-- The keyword of a tagged type. -/
def TagKind.keyword : TagKind → String
  | struct => "struct"
  | union => "union"
  | enum => "enum"
  | classTag => "class"

/-- Whether a declarator is of the form that has a name inside or of the form that has none. -/
inductive DeclaratorForm where
  /-- The form around a name. -/
  | naming
  /-- The form of a type written without a name. -/
  | abstract
deriving DecidableEq, Repr

/-- The kind of a syntax node. -/
inductive Kind where
  /-- A name that may be declared. -/
  | name (kind : NameKind)
  /-- A pointer declarator. -/
  | pointerDeclarator (form : DeclaratorForm)
  /-- A reference declarator. -/
  | referenceDeclarator (form : DeclaratorForm)
  /-- An array declarator. -/
  | arrayDeclarator (form : DeclaratorForm)
  /-- A function declarator. -/
  | functionDeclarator (form : DeclaratorForm)
  /-- A declarator in parentheses. -/
  | parenthesizedDeclarator (form : DeclaratorForm)
  /-- A declarator with attributes. -/
  | attributedDeclarator
  /-- A declarator with its initial value. -/
  | initDeclarator
  /-- The keyword of a builtin type. -/
  | primitiveType
  /-- A builtin type with a size or sign. -/
  | sizedTypeSpecifier
  /-- A tagged type. -/
  | tagSpecifier (kind : TagKind)
  /-- A qualifier keyword. -/
  | typeQualifier
  /-- A type without a declared name. -/
  | typeDescriptor
  /-- The return type behind a parameter list. -/
  | trailingReturnType
  /-- A parameter. -/
  | parameterDeclaration
  /-- A parameter with a default value. -/
  | optionalParameterDeclaration
  /-- A parameter that stands for any number of further ones. -/
  | variadicParameter
  /-- A parameter pack. -/
  | variadicParameterDeclaration
  /-- The token `...`. -/
  | ellipsis
  /-- The token `(`. -/
  | openingParenthesis
  /-- The token `)`. -/
  | closingParenthesis
  /-- The token `,`. -/
  | comma
  /-- The token `&&`. -/
  | doubleAmpersand
  /-- A comment. -/
  | comment
  /-- An attribute in double brackets. -/
  | attributeDeclaration
  /-- An attribute in the style of a compiler extension. -/
  | attributeSpecifier
  /-- A calling convention. -/
  | callModifier
  /-- An assembler name. -/
  | asmExpression
  /-- A `typedef`. -/
  | typeDefinition
  /-- A `using` declaration of an alias. -/
  | aliasDeclaration
  /-- The definition of a function. -/
  | functionDefinition
  /-- A declaration. -/
  | declaration
  /-- A branch of a conditional block, which holds items of the level it stands on. -/
  | conditionalBlock
  /-- The items in the braces of a linkage specification. -/
  | declarationList
  /-- An `extern "C"` in front of a declaration or of a list of them. -/
  | linkageSpecification
  /-- Any other kind. -/
  | other (kind : String)
deriving DecidableEq, Repr

/-- The kind that a grammar calls by the given name. -/
def Kind.ofString (kind : String) : Kind :=
  match kind with
  | "identifier" => .name .identifier
  | "field_identifier" => .name .field
  | "type_identifier" => .name .type
  | "operator_name" => .name .operator
  | "qualified_identifier" => .name .qualified
  | "destructor_name" => .name .destructor
  | "template_function" => .name .template
  | "pointer_declarator" => .pointerDeclarator .naming
  | "abstract_pointer_declarator" => .pointerDeclarator .abstract
  | "reference_declarator" => .referenceDeclarator .naming
  | "abstract_reference_declarator" => .referenceDeclarator .abstract
  | "array_declarator" => .arrayDeclarator .naming
  | "abstract_array_declarator" => .arrayDeclarator .abstract
  | "function_declarator" => .functionDeclarator .naming
  | "abstract_function_declarator" => .functionDeclarator .abstract
  | "parenthesized_declarator" => .parenthesizedDeclarator .naming
  | "abstract_parenthesized_declarator" => .parenthesizedDeclarator .abstract
  | "attributed_declarator" => .attributedDeclarator
  | "init_declarator" => .initDeclarator
  | "primitive_type" => .primitiveType
  | "sized_type_specifier" => .sizedTypeSpecifier
  | "struct_specifier" => .tagSpecifier .struct
  | "union_specifier" => .tagSpecifier .union
  | "enum_specifier" => .tagSpecifier .enum
  | "class_specifier" => .tagSpecifier .classTag
  | "type_qualifier" => .typeQualifier
  | "type_descriptor" => .typeDescriptor
  | "trailing_return_type" => .trailingReturnType
  | "parameter_declaration" => .parameterDeclaration
  | "optional_parameter_declaration" => .optionalParameterDeclaration
  | "variadic_parameter" => .variadicParameter
  | "variadic_parameter_declaration" => .variadicParameterDeclaration
  | "..." => .ellipsis
  | "(" => .openingParenthesis
  | ")" => .closingParenthesis
  | "," => .comma
  | "&&" => .doubleAmpersand
  | "comment" => .comment
  | "attribute_declaration" => .attributeDeclaration
  | "attribute_specifier" => .attributeSpecifier
  | "ms_call_modifier" => .callModifier
  | "gnu_asm_expression" => .asmExpression
  | "type_definition" => .typeDefinition
  | "alias_declaration" => .aliasDeclaration
  | "function_definition" => .functionDefinition
  | "declaration" => .declaration
  | "preproc_if" | "preproc_ifdef" | "preproc_elif" | "preproc_elifdef" | "preproc_else" =>
    .conditionalBlock
  | "declaration_list" => .declarationList
  | "linkage_specification" => .linkageSpecification
  | unlisted => .other unlisted

/-- The roles of nodes in their parents that declarations are read by. -/
inductive Field where
  /-- The type specifier of a declaration. -/
  | type
  /-- The declarator of a declaration, or the one inside another declarator. -/
  | declarator
  /-- The name of a tag or of an alias. -/
  | name
  /-- The size of an array. -/
  | size
  /-- The parameter list of a function. -/
  | parameters
  /-- What a linkage specification applies to. -/
  | body
deriving DecidableEq, Repr

/-- The field with the given name, if declarations are read by it. -/
def Field.ofString? (name : String) : Option Field :=
  match name with
  | "type" => some .type
  | "declarator" => some .declarator
  | "name" => some .name
  | "size" => some .size
  | "parameters" => some .parameters
  | "body" => some .body
  | _ => none

end FunctionCatalog
