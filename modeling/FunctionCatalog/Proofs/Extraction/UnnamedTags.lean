import FunctionCatalog.Proofs.CType.Renamed
import FunctionCatalog.Proofs.Declaration.Related
import FunctionCatalog.Proofs.Extraction.FunctionRecord
import FunctionCatalog.Proofs.Extraction.Items
import FunctionCatalog.Proofs.LinkageGuard.Lines

/-!
# Names of tagged types without a name

A tagged type without a name is known by a name that is defined for it. A `typedef` calls it by the
name that the declarator at hand declares, so each declarator of one `typedef` has a tag of its own,
the one of a pointer too. A `using` declaration calls it by its keyword, so all structures that are
named that way are one. Where two of these names differ, nothing that is built over one of them is
spelled like what is built in the same way over the other one.

## Main results

* `Node.unnamedTag_bases` — what tagged types without a name are called, and what follows from it.
* `Node.unnamedTag_bases_differ` — two names of one tag, and one name of two.
-/

namespace FunctionCatalog

open CType
open LinkageGuard (ascii)

/-- The type that the specifier of a declaration names, over which the declared type is built. -/
def Declaration.specified (naming : Naming) : Declaration → CType
  | .mk specifier _ _ => specifier.type naming

namespace Node

/-- The keyword of a tagged type without a name. -/
def unnamedTag? (node : Node) : Option TagKind :=
  match node.kind with
  | .tagSpecifier kind => if (node.child? .name).isNone then some kind else none
  | _ => none

/-- The keyword of the tagged type without a name that a definition of type names has. -/
def definedTag? (node : Node) : Option TagKind :=
  match node.kind with
  | .typeDefinition => (node.child? .type).bind unnamedTag?
  | .aliasDeclaration => ((node.child? .type).bind (·.child? .type)).bind unnamedTag?
  | _ => none

/-- What a tagged type without a name is called in the definition of a type name. -/
def tagBase (lang : Language) (kind : TagKind) (node : Node) (defined : String) : String :=
  match node.kind with
  | .typeDefinition => defined
  | _ => kind.typeName none lang

/-- A text that can be defined as the name of a type. -/
structure IsDefinable (defined : String) : Prop where
  nonempty : defined ≠ ""
  ne_void : defined ≠ "void"
  no_parenthesis : '(' ∉ defined.toList

variable {source : Bytes} {node : Node} {kind : TagKind} {defined : String}
  {declaration : Declaration}

private theorem unnamedTag?_eq_some (h : node.unnamedTag? = some kind) :
    node.kind = .tagSpecifier kind ∧ node.child? .name = none := by
  rw [unnamedTag?] at h
  split at h
  · next tag hKind =>
      split at h
      · next hName => exact ⟨Option.some.inj h ▸ hKind, Option.isNone_iff_eq_none.1 hName⟩
      · cases h
  · cases h

/-- A `typedef` calls the tag by the name that is declared. -/
theorem specified_of_typedef {type declarator : Node} (naming : Naming)
    (hType : node.child? .type = some type) (hTag : type.unnamedTag? = some kind)
    (hDeclaration : Declaration.ofTypedef? source node declarator = some declaration)
    (hName : declaration.name?.bind (·.text?) = some defined) :
    declaration.specified naming = .ofName defined := by
  obtain ⟨hKind, hNone⟩ := unnamedTag?_eq_some hTag
  have hUnnamed : type.isUnnamedTag = true := by
    rw [isUnnamedTag, hKind, hNone]
    rfl
  simp only [Declaration.ofTypedef?, hType, hUnnamed, if_true, Option.bind_eq_bind,
    Option.bind_some, Option.bind_eq_some_iff] at hDeclaration
  obtain ⟨read, -, name, hRead, text, hText, hDeclaration⟩ := hDeclaration
  obtain rfl := Option.some.inj hDeclaration
  rw [Declaration.name?, hRead, Option.bind_some, hText, Option.some.injEq] at hName
  rw [Declaration.specified, Specifier.type, hName]

/-- A `using` declaration calls the tag by its keyword. -/
theorem specified_of_using {type descriptor : Node} (naming : Naming)
    (hType : descriptor.child? .type = some type) (hTag : type.unnamedTag? = some kind)
    (hDeclaration : Declaration.ofNode? source descriptor = some declaration) :
    declaration.specified naming = .ofName (kind.typeName none naming.lang) := by
  obtain ⟨hKind, hNone⟩ := unnamedTag?_eq_some hTag
  obtain ⟨_, _, _, _, _, _, children⟩ := descriptor
  rw [Declaration.ofNode?] at hDeclaration
  obtain ⟨specified, hSpecified, hDeclaration⟩ := Option.bind_eq_some_iff.1 hDeclaration
  obtain rfl := Option.some.inj (hType.symm.trans hSpecified)
  obtain ⟨specifier, hSpecifier, hDeclaration⟩ := Option.bind_eq_some_iff.1 hDeclaration
  obtain ⟨read, -, hDeclaration⟩ := Option.bind_eq_some_iff.1 hDeclaration
  obtain ⟨text, -, rfl⟩ := Option.map_eq_some_iff.1 hSpecifier
  obtain rfl := Option.some.inj hDeclaration
  rw [Declaration.specified, hKind, hNone]
  rfl

/-- The type that a definition gives a name is built over what the tag is called there. -/
theorem specified_eq_tagBase (naming : Naming) (hTag : node.definedTag? = some kind)
    (hDefined : some (defined, declaration) ∈ node.definitions source) :
    declaration.specified naming = .ofName (node.tagBase naming.lang kind defined) := by
  rw [definedTag?] at hTag
  rw [definitions] at hDefined
  rw [tagBase]
  cases hKind : node.kind with
  | typeDefinition =>
      rw [hKind] at hTag hDefined
      obtain ⟨type, hType, hTag⟩ := Option.bind_eq_some_iff.1 hTag
      obtain ⟨declarator, -, hEntry⟩ := List.mem_map.1 hDefined
      obtain ⟨entry, hRead, hEntry⟩ := Option.bind_eq_some_iff.1 hEntry
      obtain ⟨name, hName, hSame⟩ := Option.bind_eq_some_iff.1 hEntry
      obtain ⟨rfl, rfl⟩ := Prod.mk.inj (Option.some.inj hSame)
      exact specified_of_typedef naming hType hTag hRead hName
  | aliasDeclaration =>
      rw [hKind] at hTag hDefined
      obtain ⟨type, hType, hTag⟩ := Option.bind_eq_some_iff.1 hTag
      obtain ⟨descriptor, hDescriptor, hType⟩ := Option.bind_eq_some_iff.1 hType
      rw [List.mem_singleton, eq_comm] at hDefined
      obtain ⟨name, hName, hEntry⟩ := Option.bind_eq_some_iff.1 hDefined
      obtain ⟨entry, hRead, hSame⟩ := Option.bind_eq_some_iff.1 hEntry
      obtain ⟨rfl, rfl⟩ := Prod.mk.inj (Option.some.inj hSame)
      rw [hDescriptor, Option.bind_some] at hRead
      exact specified_of_using naming hType hTag hRead
  | _ =>
      rw [hKind] at hTag
      cases hTag

private theorem kind_of_definedTag? (h : node.definedTag? = some kind) :
    node.kind = .typeDefinition ∨ node.kind = .aliasDeclaration := by
  rw [definedTag?] at h
  split at h
  · next hKind => exact .inl hKind
  · next hKind => exact .inr hKind
  · cases h

private theorem parenthesis_mem_typeName (kind : TagKind) (lang : Language) :
    '(' ∈ (kind.typeName none lang).toList := by
  cases kind <;> cases lang <;> decide

private theorem typeName_none_inj {kind kind' : TagKind} {lang : Language}
    (hSame : kind.typeName none lang = kind'.typeName none lang) : kind = kind' := by
  revert hSame
  cases kind <;> cases kind' <;> cases lang <;> decide

/-- What a tag is called can stand at the bottom of a type. -/
theorem tagBase_ne (hName : IsDefinable defined) (lang : Language) (kind : TagKind) (node : Node) :
    node.tagBase lang kind defined ≠ "" ∧ node.tagBase lang kind defined ≠ "void" := by
  rw [tagBase]
  split
  · exact ⟨hName.nonempty, hName.ne_void⟩
  · cases kind <;> cases lang <;> decide

/-- Two tags without names are called the same by `typedef`s of one name, and by all `using`
declarations of one keyword. -/
theorem tagBase_eq_iff {node' : Node} {kind' : TagKind} {defined' : String} (lang : Language)
    (hTag : node.definedTag? = some kind) (hTag' : node'.definedTag? = some kind')
    (hName : IsDefinable defined) (hName' : IsDefinable defined') :
    node.tagBase lang kind defined = node'.tagBase lang kind' defined' ↔
      node.kind = .typeDefinition ∧ node'.kind = .typeDefinition ∧ defined = defined' ∨
        node.kind = .aliasDeclaration ∧ node'.kind = .aliasDeclaration ∧ kind = kind' := by
  have hNot : ∀ {name : String} {tag : TagKind}, IsDefinable name → name ≠ tag.typeName none lang :=
    fun hName hSame => hName.no_parenthesis (hSame ▸ parenthesis_mem_typeName _ _)
  rw [tagBase, tagBase]
  rcases kind_of_definedTag? hTag with hKind | hKind <;>
    rcases kind_of_definedTag? hTag' with hKind' | hKind' <;> simp only [hKind, hKind']
  · simp
  · simp [hNot hName]
  · simp [(hNot hName').symm]
  · simp only [reduceCtorEq, false_and, true_and, false_or]
    exact ⟨typeName_none_inj, fun hSame => by rw [hSame]⟩

/-- A tagged type without a name is called by the name that is declared, in a `typedef`, and by its
keyword, in a `using` declaration; the type that a name is given is built over that. So two names
are given types over one name exactly if it is one name twice, or both are from `using` declarations
with one keyword. Otherwise whatever is built in the same way over the two corresponds, at any
distance from the definitions and at any depth, and is spelled alike only if it has neither of
them in it. -/
theorem unnamedTag_bases {node' : Node} {kind' : TagKind} {defined' : String}
    {declaration' : Declaration} (lang : Language) (hTag : node.definedTag? = some kind)
    (hTag' : node'.definedTag? = some kind')
    (hDefined : some (defined, declaration) ∈ node.definitions source)
    (hDefined' : some (defined', declaration') ∈ node'.definitions source)
    (hName : IsDefinable defined) (hName' : IsDefinable defined') :
    let base := node.tagBase lang kind defined
    let base' := node'.tagBase lang kind' defined'
    (∀ naming : Naming, naming.lang = lang → declaration.specified naming = .ofName base ∧
      declaration'.specified naming = .ofName base') ∧
    (base = base' ↔
      node.kind = .typeDefinition ∧ node'.kind = .typeDefinition ∧ defined = defined' ∨
        node.kind = .aliasDeclaration ∧ node'.kind = .aliasDeclaration ∧ kind = kind') ∧
    (base ≠ base' → ∀ naming naming' : Naming, naming.Related (CType.Renamed base base') naming' →
      (∀ (quals : Qualifiers) (declarator : Declarator), Option.Rel (CType.Renamed base base')
        (declarator.applied? naming (.named base quals))
        (declarator.applied? naming' (.named base' quals))) ∧
      (∀ (name : String) (t t' : CType), CType.Renamed base base' t t' →
        (naming.declare name t).Related (CType.Renamed base base') (naming'.declare name t')) ∧
      ∀ declared : Declaration, Option.Rel
        (fun t t' => CType.Renamed base base' t t' ∧ (t.spelling lang = t'.spelling lang ↔ t = t'))
        (declared.type? naming) (declared.type? naming')) := by
  intro base base'
  obtain ⟨hSome, hVoid⟩ := tagBase_ne hName lang kind node
  obtain ⟨hSome', hVoid'⟩ := tagBase_ne hName' lang kind' node'
  refine ⟨?_, tagBase_eq_iff lang hTag hTag' hName hName',
    fun hApart naming naming' hNaming => ?_⟩
  · rintro naming rfl
    exact ⟨specified_eq_tagBase naming hTag hDefined, specified_eq_tagBase naming hTag' hDefined'⟩
  · have hCongruence := Renamed.congruence hVoid hVoid'
    refine ⟨fun quals declarator => declarator.related_applied? hCongruence hNaming (.base quals),
      fun name t t' h => hNaming.declare name h, fun declared => ?_⟩
    have hTypes := declared.related_type? hCongruence hNaming
    generalize declared.type? naming = type?, declared.type? naming' = type?' at hTypes ⊢
    cases hTypes with
    | none => exact .none
    | some h => exact .some ⟨h, h.spelledAlike_iff hSome hSome' hApart⟩

/-- In `typedef struct { int x; } S, *P;` the structure has two names, and pointers to it are
spelled differently. -/
theorem unnamedTag_bases_pointer :
    let node := spanning .typeDefinition 0 32 none
      [spanning (.tagSpecifier .struct) 8 25 (some .type) [],
        spanning (.name .type) 26 27 (some .declarator) [],
        spanning (.pointerDeclarator .naming) 29 31 (some .declarator)
          [spanning (.name .type) 30 31 (some .declarator) []]]
    let pointer : Declaration := .mk (.name "T") ∅ (.pointer ∅ .nothing)
    let naming : Naming := { lang := .c, aliases := {} }
    node.definedTag? = some .struct ∧
      (naming.declare "T" (.named "S" ∅)).resolve "T" = .named "S" ∅ ∧
      ∃ t t', pointer.type? (naming.declare "T" (.named "S" ∅)) = some t ∧
        pointer.type? (naming.declare "T" (.named "P" ∅)) = some t' ∧
        t.spelling .c ≠ t'.spelling .c := by
  intro node pointer naming
  let source := ascii "typedef struct \x7b int x; \x7d S, *P;\n"
  have hS : some ("S", Declaration.mk (.namedBy "S") ∅ (.name ⟨.type, some "S"⟩)) ∈
      node.definitions source := List.mem_cons_self
  have hP : some ("P", Declaration.mk (.namedBy "P") ∅ (.pointer ∅ (.name ⟨.type, some "P"⟩))) ∈
      node.definitions source := List.mem_cons_of_mem _ List.mem_cons_self
  have hNameS : IsDefinable "S" := ⟨by decide, by decide, by decide⟩
  have hNameP : IsDefinable "P" := ⟨by decide, by decide, by decide⟩
  have hTag : node.definedTag? = some .struct := rfl
  obtain ⟨-, -, hApart⟩ := unnamedTag_bases .c hTag hTag hS hP hNameS hNameP
  have hNaming : naming.Related (CType.Renamed "S" "P") naming := ⟨rfl, fun _ => .refl _⟩
  obtain ⟨-, hDeclare, -⟩ := hApart (by decide) naming naming hNaming
  obtain ⟨-, -, hTypes⟩ := hApart (by decide) _ _ (hDeclare "T" _ _ (.base ∅))
  refine ⟨hTag, rfl, _, _, rfl, rfl, ?_⟩
  cases hTypes pointer with
  | some hPointer =>
      have hPointers : pointerTo (.named "S" ∅) ≠ pointerTo (.named "P" ∅) := by simp [pointerTo]
      exact mt hPointer.2.1 hPointers

/-- One structure with two names, and two structures with one name: after
`typedef struct { int x; } S, *P;`, the types `S *` and `P` are spelled differently, and after
`using A = struct { int x; };` and `using B = struct { long y; };`, the types `A` and `B` are
spelled alike. -/
theorem unnamedTag_bases_differ :
    let typedefs := ascii "typedef struct \x7b int x; \x7d S, *P;\n"
    let usings := ascii "using A = struct \x7b int x; \x7d;\nusing B = struct \x7b long y; \x7d;\n"
    let typedef := spanning .typeDefinition 0 32 none
      [spanning (.tagSpecifier .struct) 8 25 (some .type) [],
        spanning (.name .type) 26 27 (some .declarator) [],
        spanning (.pointerDeclarator .naming) 29 31 (some .declarator)
          [spanning (.name .type) 30 31 (some .declarator) []]]
    let usingAt := fun (start stop : Nat) => spanning .aliasDeclaration start stop none
      [spanning (.name .type) (start + 6) (start + 7) (some .name) [],
        spanning .typeDescriptor (start + 10) (stop - 1) (some .type)
          [spanning (.tagSpecifier .struct) (start + 10) (stop - 1) (some .type) []]]
    let c : Naming := { lang := .c, aliases := {} }
    let cpp : Naming := { lang := .cpp, aliases := {} }
    let afterTypedefs := c.afterTypedef typedefs typedef
    let afterUsings := (cpp.afterUsing usings (usingAt 0 28)).afterUsing usings (usingAt 29 58)
    (Declaration.mk (.name "S") ∅ (.pointer ∅ .nothing)).type? afterTypedefs =
        some (pointerTo (.named "S" ∅)) ∧
      (Declaration.mk (.name "P") ∅ .nothing).type? afterTypedefs =
        some (pointerTo (.named "P" ∅)) ∧
      (pointerTo (.named "S" ∅)).spelling .c ≠ (pointerTo (.named "P" ∅)).spelling .c ∧
      afterUsings.resolve "A" = .named "(unnamed struct)" ∅ ∧
      afterUsings.resolve "B" = .named "(unnamed struct)" ∅ := by
  intro typedefs usings typedef usingAt c cpp afterTypedefs afterUsings
  have hTypedef : typedef.definitions typedefs =
      [some ("S", .mk (.namedBy "S") ∅ (.name ⟨.type, some "S"⟩)),
        some ("P", .mk (.namedBy "P") ∅ (.pointer ∅ (.name ⟨.type, some "P"⟩)))] := rfl
  have hUsingA : (usingAt 0 28).definitions usings =
      [some ("A", .mk (.tag .struct none) ∅ .nothing)] := rfl
  have hUsingB : (usingAt 29 58).definitions usings =
      [some ("B", .mk (.tag .struct none) ∅ .nothing)] := rfl
  have hTypedefs : afterTypedefs =
      { c with locals := [("P", pointerTo (.named "P" ∅)), ("S", .named "S" ∅)] } := by
    refine (Naming.afterTypedef_eq c rfl).trans ?_
    rw [hTypedef]
    rfl
  have hUsings : afterUsings =
      { cpp with
        locals := [("B", .named "(unnamed struct)" ∅), ("A", .named "(unnamed struct)" ∅)] } := by
    refine (Naming.afterUsing_eq _ rfl).trans ?_
    rw [hUsingB, Naming.afterUsing_eq cpp rfl, hUsingA]
    rfl
  rw [hTypedefs, hUsings]
  have hApart :
      (pointerTo (.named "S" ∅)).spelling .c ≠ (pointerTo (.named "P" ∅)).spelling .c := by
    simp [CType.spelling, pointerTo, spellAround, parenthesized, bindsBehindName, blankBefore,
      blankAfter, Qualifiers.spelling]
  exact ⟨rfl, rfl, hApart, rfl, rfl⟩

end Node

end FunctionCatalog
