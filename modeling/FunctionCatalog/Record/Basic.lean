import Std.Data.HashSet

/-!
# Function records

What is kept of a declared function: its name, the types it returns and takes, and the tokens of
its comment. Records are collected in sets, so the same declaration in two files counts once.
-/

namespace FunctionCatalog

/-- A declared function, reduced to what is compared. -/
structure FunctionRecord where
  /-- The declared name. -/
  name : String
  /-- The spelling of the return type, followed by those of the parameter types. -/
  signature : List String
  /-- The tokens of the comment in front of the declaration, in order. -/
  commentTokens : List String
deriving DecidableEq, Hashable, Repr

namespace FunctionRecord

/-- The spelling of the return type. -/
def returnType (record : FunctionRecord) : String :=
  record.signature.headD ""

/-- The spellings of the parameter types. -/
def parameters (record : FunctionRecord) : List String :=
  record.signature.tail

end FunctionRecord

/-- A set of records. -/
abbrev RecordSet := Std.HashSet FunctionRecord

/-! ## Records as lines

A record on one line: the name, the types and the tokens, with a bar between the three fields and a
comma between the items of a list. Nothing is escaped, so a type or token that holds one of the two
delimiters makes the line ambiguous; such a record has a delimiter conflict. -/

namespace FunctionRecord

/-- The line of a record. -/
def line (record : FunctionRecord) : String :=
  record.name ++ "|" ++ ",".intercalate record.signature ++ "|"
    ++ ",".intercalate record.commentTokens

/-- Whether an item of a list holds a delimiter. -/
def isAmbiguousItem (item : String) : Bool :=
  item.toList.any fun c => c == '|' || c == ','

/-- Whether the line of a record could be that of another one. -/
def hasDelimiterConflict (record : FunctionRecord) : Bool :=
  record.name.toList.any (· == '|') || record.signature.any isAmbiguousItem
    || record.commentTokens.any isAmbiguousItem

end FunctionRecord

end FunctionCatalog
