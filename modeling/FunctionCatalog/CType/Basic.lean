/-!
# Types of C and C++ declarations

`CType` is the structure of a type as declarations build it up: a named type, and pointers,
references, arrays and functions over it, to any depth. Qualifiers stand on named types and on
pointers only. `CType.qualified` adds qualifiers the way a declaration does, where an array passes
them on to its elements and functions and references take none, and `CType.adjustedParameter` is
the adjustment of a parameter's type.
-/

namespace FunctionCatalog

/-- The qualifiers on one level of a type. -/
structure Qualifiers where
  /-- The type is `const`. -/
  isConst : Bool := false
  /-- The type is `volatile`. -/
  isVolatile : Bool := false
  /-- The type is `restrict`. -/
  isRestrict : Bool := false
deriving DecidableEq, Repr

namespace Qualifiers

/-- No qualifier. -/
instance : EmptyCollection Qualifiers := ⟨{}⟩

/-- The qualifiers in either set. -/
def merge (a b : Qualifiers) : Qualifiers where
  isConst := a.isConst || b.isConst
  isVolatile := a.isVolatile || b.isVolatile
  isRestrict := a.isRestrict || b.isRestrict

/-- The qualifier that a keyword names. Other words name none. -/
def ofKeyword (keyword : String) : Qualifiers :=
  match keyword with
  | "const" => { isConst := true }
  | "volatile" => { isVolatile := true }
  | "restrict" | "__restrict" | "__restrict__" => { isRestrict := true }
  | _ => ∅

variable (a b c : Qualifiers)

@[simp] theorem merge_empty : a.merge ∅ = a := by
  cases a; simp [merge, EmptyCollection.emptyCollection]

@[simp] theorem empty_merge : merge ∅ a = a := by
  cases a; simp [merge, EmptyCollection.emptyCollection]

theorem merge_comm : a.merge b = b.merge a := by
  simp [merge, Bool.or_comm]

theorem merge_assoc : (a.merge b).merge c = a.merge (b.merge c) := by
  simp [merge, Bool.or_assoc]

end Qualifiers

/-- A type as a declaration builds it. -/
inductive CType where
  /-- A type known by its name. -/
  | named (name : String) (quals : Qualifiers)
  /-- A pointer; the qualifiers are those of the pointer itself. -/
  | pointer (pointee : CType) (quals : Qualifiers)
  /-- A reference, written with `&` or, for an rvalue reference, with `&&`. -/
  | reference (referent : CType) (rvalue : Bool)
  /-- An array, with the text of its size if one is written. -/
  | array (element : CType) (size : Option String)
  /-- A function. `prototyped` is false only for the empty parameter list of C, which says
  nothing about the parameters. -/
  | function (result : CType) (params : List CType) (variadic prototyped : Bool)
deriving Repr

namespace CType

/-- A named type without qualifiers. -/
def ofName (name : String) : CType :=
  named name ∅

/-- An unqualified pointer. -/
def pointerTo (pointee : CType) : CType :=
  pointer pointee ∅

/-- Adds qualifiers to a type. They reach the elements of an array; functions and references have
no place for them. -/
def qualified : CType → Qualifiers → CType
  | named name quals, extra => named name (quals.merge extra)
  | pointer pointee quals, extra => pointer pointee (quals.merge extra)
  | array element size, extra => array (element.qualified extra) size
  | reference referent rvalue, _ => reference referent rvalue
  | function result params variadic prototyped, _ => function result params variadic prototyped

/-- The type of a parameter declared with the given type: an array becomes a pointer to its
element, a function a pointer to it. -/
def adjustedParameter : CType → CType
  | array element _ => pointerTo element
  | function result params variadic prototyped =>
    pointerTo (function result params variadic prototyped)
  | other => other

/-- Whether a type is `void` without qualifiers. -/
def isVoid : CType → Bool
  | named name quals => name == "void" && quals == ∅
  | _ => false

theorem isVoid_iff {t : CType} : t.isVoid = true ↔ t = ofName "void" := by
  cases t <;> simp [isVoid, ofName]

/-- Adding no qualifier changes nothing. -/
@[simp] theorem qualified_empty : ∀ t : CType, t.qualified ∅ = t
  | named .. | pointer .. => by simp [qualified]
  | reference .. | function .. => rfl
  | array element size => by simp [qualified, qualified_empty element]

end CType

end FunctionCatalog
