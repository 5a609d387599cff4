import FunctionCatalog.CType.Basic

/-!
# Qualifiers act on types

Sets of qualifiers act on types: adding one set after the other is adding both at once, in either
order, and the empty set changes nothing. What the action reaches is one level of a type. An array
of any number of dimensions is its innermost element under its sizes, and the qualifiers pass all of
these by; at a named type or a pointer they join those that are there; a function or a reference
takes none.

## Main results

* `Qualifiers.union_eq_of_mem_iff` — a union of sets depends on its members alone.
* `CType.qualified_qualified` — adding qualifiers twice is adding them at once.
* `CType.innermost_qualified`, `CType.dimensions_qualified` — what is reached in an array.
-/

namespace FunctionCatalog

/-! ## Unions -/

namespace Qualifiers

/-- All the qualifiers in some sets. -/
def union (sets : List Qualifiers) : Qualifiers :=
  sets.foldl merge ∅

private theorem merge_self (a : Qualifiers) : a.merge a = a := by
  simp [merge]

private theorem foldl_merge (sets : List Qualifiers) (first : Qualifiers) :
    sets.foldl merge first = first.merge (union sets) := by
  induction sets generalizing first with
  | nil => exact first.merge_empty.symm
  | cons quals rest ih =>
      rw [union, List.foldl_cons, List.foldl_cons, ih, ih, empty_merge, merge_assoc]

private theorem union_cons (quals : Qualifiers) (rest : List Qualifiers) :
    union (quals :: rest) = quals.merge (union rest) := by
  rw [union, List.foldl_cons, empty_merge, foldl_merge]

/-- A union has its members. -/
theorem merge_union_of_mem {quals : Qualifiers} {sets : List Qualifiers} (hMem : quals ∈ sets) :
    quals.merge (union sets) = union sets := by
  induction sets with
  | nil => exact absurd hMem List.not_mem_nil
  | cons first rest ih =>
      rw [union_cons]
      rcases List.mem_cons.1 hMem with rfl | hMem
      · rw [← merge_assoc, merge_self]
      · rw [← merge_assoc, merge_comm quals, merge_assoc, ih hMem]

/-- What has all members of a union has the union. -/
theorem union_merge_of_forall {sets : List Qualifiers} {all : Qualifiers}
    (hAll : ∀ quals ∈ sets, quals.merge all = all) : (union sets).merge all = all := by
  induction sets with
  | nil => exact all.empty_merge
  | cons first rest ih =>
      obtain ⟨hFirst, hRest⟩ := List.forall_mem_cons.1 hAll
      rw [union_cons, merge_assoc, ih hRest, hFirst]

/-- A union depends on its members alone, and not on their order or number. -/
theorem union_eq_of_mem_iff {sets sets' : List Qualifiers}
    (hSame : ∀ quals, quals ∈ sets ↔ quals ∈ sets') : union sets = union sets' := by
  have hBelow : (union sets).merge (union sets') = union sets' :=
    union_merge_of_forall fun quals hMem => merge_union_of_mem ((hSame quals).1 hMem)
  have hAbove : (union sets').merge (union sets) = union sets :=
    union_merge_of_forall fun quals hMem => merge_union_of_mem ((hSame quals).2 hMem)
  rw [← hAbove, merge_comm, hBelow]

end Qualifiers

/-! ## The action on types -/

namespace CType

/-- Adding qualifiers twice is adding them at once. -/
theorem qualified_qualified : ∀ (t : CType) (a b : Qualifiers),
    (t.qualified a).qualified b = t.qualified (a.merge b)
  | named .., _, _ | pointer .., _, _ => by simp only [qualified, Qualifiers.merge_assoc]
  | reference .., _, _ | function .., _, _ => rfl
  | array element size, a, b => by
      simp only [qualified, qualified_qualified element a b]

/-- The order in which qualifiers are added makes no difference. -/
theorem qualified_comm (t : CType) (a b : Qualifiers) :
    (t.qualified a).qualified b = (t.qualified b).qualified a := by
  rw [qualified_qualified, qualified_qualified, Qualifiers.merge_comm]

/-! ## Arrays of any number of dimensions -/

/-- An array with the given sizes, the outermost first. -/
def arrayOf (element : CType) (sizes : List (Option String)) : CType :=
  sizes.foldr (fun size t => array t size) element

/-- What an array of any number of dimensions has for its elements in the end. A type that is no
array has no dimensions, and is this itself. -/
def innermost : CType → CType
  | array element _ => element.innermost
  | named name quals => named name quals
  | pointer pointee quals => pointer pointee quals
  | reference referent rvalue => reference referent rvalue
  | function result params variadic prototyped => function result params variadic prototyped

/-- The sizes of an array, the outermost first. -/
def dimensions : CType → List (Option String)
  | array element size => size :: element.dimensions
  | named .. | pointer .. | reference .. | function .. => []

/-- A type is its innermost element under its dimensions. -/
theorem arrayOf_dimensions : ∀ t : CType, t.innermost.arrayOf t.dimensions = t
  | named .. | pointer .. | reference .. | function .. => rfl
  | array element size => by
      rw [innermost, dimensions, arrayOf, List.foldr_cons, ← arrayOf, arrayOf_dimensions element]

theorem innermost_ne_array : ∀ (t element : CType) (size : Option String),
    t.innermost ≠ array element size
  | named .., _, _ | pointer .., _, _ | reference .., _, _ | function .., _, _ => nofun
  | array element _, other, size => innermost_ne_array element other size

/-- Qualifiers on an array reach its innermost element. -/
theorem innermost_qualified : ∀ (t : CType) (quals : Qualifiers),
    (t.qualified quals).innermost = t.innermost.qualified quals
  | named .., _ | pointer .., _ | reference .., _ | function .., _ => rfl
  | array element _, quals => innermost_qualified element quals

/-- Qualifiers on an array leave its sizes in place. -/
theorem dimensions_qualified : ∀ (t : CType) (quals : Qualifiers),
    (t.qualified quals).dimensions = t.dimensions
  | named .., _ | pointer .., _ | reference .., _ | function .., _ => rfl
  | array element size, quals => by
      rw [qualified, dimensions, dimensions, dimensions_qualified element quals]

end CType

end FunctionCatalog
