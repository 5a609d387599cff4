import FunctionCatalog.Proofs.Declaration.Flattened
import FunctionCatalog.Proofs.Extraction.Restated
import FunctionCatalog.Proofs.Extraction.TypeNames
import Mathlib.Logic.Function.Basic

/-!
# Qualifiers in layers of type names

A qualifier that reaches a level of a type may be written in the definition of a type name or at the
uses of the name, and through any number of definitions that use each other. Where it is written
makes no difference to the functions of a file: the definitions can be emptied of qualifiers that
all uses take, and in the end every declaration can be written flat, with all qualifiers that reach
a level in one place.

## Main results

* `Redistributed.prototypes_eq` — qualifiers may move from definitions to uses.
* `Redistributed.prototypes_eq_of_eqvGen` — and back, in any number of steps.
* `Node.prototypes_eq_flat` — functions have the prototypes of their flat declarations.
-/

namespace FunctionCatalog

/-- The prototype of a declaration is made of its name and its type. -/
theorem Declaration.prototype?_congr {naming naming' : Naming}
    {declaration declaration' : Declaration}
    (hLang : naming.lang = naming'.lang) (hName : declaration.name? = declaration'.name?)
    (hType : declaration.type? naming = declaration'.type? naming') :
    declaration.prototype? naming = declaration'.prototype? naming' := by
  rw [Declaration.prototype?_eq, Declaration.prototype?_eq, hLang, hName, hType]

/-! ## From definitions to uses -/

/-- Two files declare the same, but for qualifiers that definitions of type names have in the first
one, and all later uses of the names in the second one. The names of the first file and what has
been handed out so far are given. -/
inductive Redistributed : Naming → (String → Qualifiers) → List ItemDeclaration →
    List ItemDeclaration → Prop
  | nil {naming : Naming} {handed : String → Qualifiers} : Redistributed naming handed [] []
  | value {naming : Naming} {handed : String → Qualifiers} {rest rest' : List ItemDeclaration}
    (declaration : Declaration) (hRest : Redistributed naming handed rest rest') :
    Redistributed naming handed (.value declaration :: rest)
      (.value (declaration.taking handed) :: rest')
  /-- The definition of a name hands some of its qualifiers out. -/
  | typeName {naming : Naming} {handed : String → Qualifiers} {rest rest' : List ItemDeclaration}
    (name : String) (declaration : Declaration) (moved : Qualifiers) {t : CType}
    (hType : declaration.type? naming = some t)
    (hRest : Redistributed (naming.declare name (t.qualified moved))
      (Function.update handed name moved) rest rest') :
    Redistributed naming handed (.typeName name (declaration.qualified moved) :: rest)
      (.typeName name (declaration.taking handed) :: rest')
  /-- What gives no type defines no name. -/
  | untyped {naming : Naming} {handed : String → Qualifiers} {rest rest' : List ItemDeclaration}
    (name : String) (declaration : Declaration) (hType : declaration.type? naming = none)
    (hRest : Redistributed naming handed rest rest') :
    Redistributed naming handed (.typeName name declaration :: rest)
      (.typeName name (declaration.taking handed) :: rest')

section Redistributed

variable {handed : String → Qualifiers} {naming naming' : Naming}

/-- Definitions keep names in step, with what the one in the second file leaves to uses. -/
theorem Naming.HandsOut.declare (hHands : naming.HandsOut handed naming') (name : String)
    (t : CType) (moved : Qualifiers) :
    (naming.declare name (t.qualified moved)).HandsOut (Function.update handed name moved)
      (naming'.declare name t) where
  lang_eq := hHands.lang_eq
  resolve_eq other := by
    rw [Naming.resolve_declare, Naming.resolve_declare]
    by_cases hSame : other = name
    · rw [if_pos hSame, if_pos hSame, hSame, Function.update_self]
    · rw [if_neg hSame, if_neg hSame, Function.update_of_ne hSame, hHands.resolve_eq]

/-- Qualifiers may move from definitions to uses, and no function has another prototype. -/
theorem Redistributed.prototypes_eq {items items' : List ItemDeclaration}
    (h : Redistributed naming handed items items') (hHands : naming.HandsOut handed naming')
    (prototypes : List (String × List String)) :
    (items.foldl Outline.add { naming, prototypes }).prototypes =
      (items'.foldl Outline.add { naming := naming', prototypes }).prototypes := by
  induction h generalizing naming' prototypes with
  | nil => rfl
  | value declaration _ ih =>
      have hPrototype := Declaration.prototype?_congr hHands.lang_eq.symm declaration.name?_taking
        (declaration.type?_taking hHands)
      rw [List.foldl_cons, List.foldl_cons, Outline.add, Outline.add, hPrototype, ih hHands]
  | @typeName naming _ _ _ name declaration moved t hType _ ih =>
      have hKept := declaration.type?_qualified naming moved
      have hTaken := declaration.type?_taking hHands
      rw [hType] at hKept hTaken
      simp only [List.foldl_cons, Outline.add, Naming.define, hKept, hTaken]
      exact ih (hHands.declare name t moved) prototypes
  | untyped name declaration hType _ ih =>
      have hTaken := declaration.type?_taking hHands
      rw [hType] at hTaken
      simp only [List.foldl_cons, Outline.add, Naming.define, hTaken, hType]
      exact ih hHands prototypes

/-- They may move in any number of steps, and either way. -/
theorem Redistributed.prototypes_eq_of_eqvGen {items items' : List ItemDeclaration}
    (h : Relation.EqvGen (Redistributed naming fun _ => ∅) items items') :
    (items.foldl Outline.add { naming }).prototypes =
      (items'.foldl Outline.add { naming }).prototypes := by
  induction h with
  | rel _ _ hStep =>
      have hHands : naming.HandsOut (fun _ => ∅) naming :=
        ⟨rfl, fun name => (naming.resolve name).qualified_empty.symm⟩
      exact hStep.prototypes_eq hHands []
  | refl => rfl
  | symm _ _ _ ih => exact ih.symm
  | trans _ _ _ _ _ ih ihNext => exact ih.trans ihNext

end Redistributed

/-! ## Flat declarations -/

/-- The declarations of functions and objects, each without the type names that the file has defined
in front of it. A definition that gives no type defines nothing. -/
def flatValues (plain : Naming) : Definitions → List ItemDeclaration → List Declaration
  | _, [] => []
  | definitions, .value declaration :: rest =>
    declaration.flattened definitions :: flatValues plain definitions rest
  | definitions, .typeName name declaration :: rest =>
    let flat := declaration.flattened definitions
    if (flat.type? plain).isSome then flatValues plain ((name, flat) :: definitions) rest
    else flatValues plain definitions rest

/-- The functions and objects that a file declares, by flat declarations. -/
def Node.flatDeclarations (source : Bytes) (plain : Naming) (root : Node) : List Declaration :=
  flatValues plain [] (root.fileDeclarations source)

section Flat

variable {definitions : Definitions} {naming plain : Naming}

/-- Each definition enters the table with the type that its flat form declares. -/
theorem Naming.IsDefinedBy.declare (hDefined : naming.IsDefinedBy definitions plain) (name : String)
    {flat : Declaration} {t : CType} (hType : flat.type? plain = some t) :
    (naming.declare name t).IsDefinedBy ((name, flat) :: definitions) plain where
  lang_eq := hDefined.lang_eq
  resolve_eq other := by
    rw [Naming.resolve_declare, List.lookup_cons]
    by_cases hSame : other = name
    · rw [if_pos hSame, hSame, beq_self_eq_true]
      exact hType
    · rw [if_neg hSame, beq_eq_false_iff_ne.2 hSame]
      exact hDefined.resolve_eq other

private theorem prototypes_foldl_add_eq_flat (items : List ItemDeclaration)
    (hDefined : naming.IsDefinedBy definitions plain) (prototypes : List (String × List String)) :
    (items.foldl Outline.add { naming, prototypes }).prototypes =
      prototypes ++ (flatValues plain definitions items).filterMap (·.prototype? plain) := by
  induction items generalizing naming definitions prototypes with
  | nil => exact (List.append_nil prototypes).symm
  | cons item rest ih =>
      cases item with
      | value declaration =>
          have hPrototype := Declaration.prototype?_congr hDefined.lang_eq.symm
            declaration.name?_flattened (declaration.type?_flattened hDefined)
          rw [List.foldl_cons, Outline.add, ih hDefined, flatValues, List.filterMap_cons,
            hPrototype]
          cases declaration.prototype? naming <;> simp
      | typeName name declaration =>
          have hFlat := declaration.type?_flattened hDefined
          rw [List.foldl_cons, Outline.add, Naming.define, flatValues, hFlat]
          cases hType : declaration.type? naming with
          | some t => exact ih (hDefined.declare name (hFlat.trans hType)) prototypes
          | none => exact ih hDefined prototypes

end Flat

/-- Functions have the prototypes of their flat declarations. -/
theorem Node.prototypes_eq_flat (source : Bytes) (root : Node) (lang : Language)
    (aliases : TypeAliases) :
    (root.walkItems source { lang, aliases }).records.map FunctionRecord.prototype =
      (root.flatDeclarations source { lang, aliases }).filterMap
        (·.prototype? { lang, aliases }) := by
  have hDefined : Naming.IsDefinedBy [] { lang, aliases } { lang, aliases } := ⟨rfl, fun _ => rfl⟩
  rw [prototypes_walkItems, prototypes_foldl_add_eq_flat _ hDefined]
  exact List.nil_append _

end FunctionCatalog
