import FunctionCatalog.Proofs.Declaration.Sustained
import FunctionCatalog.Proofs.Extraction.FunctionRecord
import FunctionCatalog.Proofs.Extraction.Items

/-!
# Invariants of a walk

What holds of the names that a walk has learned, and of the records that it has made, is shown
declaration by declaration: a definition of a type name keeps the one, and a function keeps the
other. The declarations of an item are read from the item itself, or from the type descriptor of
an alias, so what is known of the types that are built there applies to them.

## Main results

* `Node.exists_of_mem_definitions`, `Node.exists_of_value` — where declarations come from.
* `Sustained.definition`, `Sustained.ofNodes?` — their types have what every step of building a
  type keeps.
* `Walk.foldl_takeIn_invariant` — invariants of a sequence of items.
-/

namespace FunctionCatalog

variable {source : Bytes} {naming : Naming} {node : Node}

/-! ## Where declarations come from -/

theorem Node.mem_definitions_of_typeName {name : String} {declaration : Declaration}
    (hMem : .typeName name declaration ∈ node.declarations source) :
    some (name, declaration) ∈ node.definitions source := by
  unfold Node.declarations at hMem
  split at hMem
  · simp at hMem
  · simpa [List.reduceOption_mem_iff] using hMem

/-- A type name is defined by a `typedef` with one of its declarators, or by a `using` declaration
with its descriptor. -/
theorem Node.exists_of_mem_definitions {name : String} {declaration : Declaration}
    (hMem : some (name, declaration) ∈ node.definitions source) :
    (∃ declarator ∈ node.children,
      Declaration.ofTypedef? source node declarator = some declaration ∧
        declaration.name?.bind (·.text?) = some name) ∨
    ∃ descriptor ∈ node.children, Declaration.ofNode? source descriptor = some declaration := by
  unfold Node.definitions at hMem
  split at hMem
  · obtain ⟨declarator, hDeclarator, hRead⟩ := List.mem_map.mp hMem
    simp only [Option.bind_eq_bind, Option.bind_eq_some_iff, Option.some.injEq,
      Prod.mk.injEq] at hRead
    obtain ⟨read, hRead, text, hText, rfl, rfl⟩ := hRead
    exact .inl ⟨declarator, List.mem_of_mem_filter hDeclarator, hRead,
      Option.bind_eq_some_iff.mpr hText⟩
  · have hRead := (List.mem_singleton.mp hMem).symm
    simp only [Option.bind_eq_bind, Option.bind_eq_some_iff, Option.some.injEq,
      Prod.mk.injEq] at hRead
    obtain ⟨text, -, read, ⟨descriptor, hDescriptor, hRead⟩, -, rfl⟩ := hRead
    exact .inr ⟨descriptor, Node.mem_children_of_child? hDescriptor, hRead⟩
  · simp at hMem

private theorem Node.mem_children_of_mem_declarators {declarator : Node}
    (hMem : declarator ∈ node.declarators) : declarator ∈ node.children := by
  unfold Node.declarators at hMem
  split at hMem
  · exact Node.mem_children_of_child? (Option.mem_toList.mp hMem)
  · exact List.mem_of_mem_filter hMem
  · simp at hMem

/-- A function or an object is declared by the item with one of its declarators. -/
theorem Node.exists_of_value {declaration : Declaration}
    (hMem : .value declaration ∈ node.declarations source) :
    ∃ declarator ∈ node.children,
      Declaration.ofNodes? source node declarator = some declaration := by
  unfold Node.declarations at hMem
  split at hMem
  · simp at hMem
  have hRead : ∃ declarator ∈ node.declarators,
      Declaration.ofNodes? source node declarator = some declaration := by
    simpa using hMem
  obtain ⟨declarator, hDeclarator, hRead⟩ := hRead
  exact ⟨declarator, Node.mem_children_of_mem_declarators hDeclarator, hRead⟩

/-! ## What is kept -/

/-- A name that the file does not know stands for a named type. -/
theorem Naming.everywhere_resolve {P : CType → Prop} {name : String}
    (hLocals : ∀ t, (name, t) ∈ naming.locals → CType.Everywhere P t)
    (hNamed : naming.locals.lookup name = none →
      P (.ofName ((naming.aliases.resolve? naming.lang name).getD name))) :
    CType.Everywhere P (naming.resolve name) := by
  unfold Naming.resolve
  cases hLookup : naming.locals.lookup name with
  | some t =>
      obtain ⟨front, back, hEntries, -⟩ := List.lookup_eq_some_iff.mp hLookup
      exact hLocals t (by simp [hEntries])
  | none => exact CType.everywhere_named_iff.mpr (hNamed hLookup)

@[simp] theorem Naming.lang_define (naming : Naming) (name : String) (declaration : Declaration) :
    (naming.define name declaration).lang = naming.lang := by
  unfold Naming.define
  cases declaration.type? naming <;> rfl

namespace Sustained

variable {Good : Node → Prop} {P : CType → Prop} (h : Sustained source naming Good P)

include h

/-- A declaration of a good node with a good declarator has a type with the property. -/
theorem ofNodes? {owner declarator : Node} {declaration : Declaration} {t : CType}
    (hOwner : Good owner) (hDeclarator : Good declarator)
    (hRead : Declaration.ofNodes? source owner declarator = some declaration)
    (hType : declaration.type? naming = some t) : CType.Everywhere P t := by
  obtain ⟨type, specifier, read, hChild, hSpecifier, hReadDeclarator, rfl⟩ :=
    ofNodes?_eq_some_iff.mp hRead
  rw [Declaration.type?] at hType
  have hBase := h.specified owner _ hOwner
    (specifiedType?_eq_some_iff.mpr ⟨type, specifier, hChild, hSpecifier, rfl⟩)
  have hPlace : Declarator.at? source (some declarator) = some read := hReadDeclarator
  exact h.applied (by simpa using hDeclarator) hPlace hBase hType

/-- The type that a name is defined as has the property, if the name itself has it: an unnamed tag
is known by the name. -/
theorem definition {name : String} {declaration : Declaration} {t : CType} (hGood : Good node)
    (hNamed : ∀ quals, P (.named name quals))
    (hMem : some (name, declaration) ∈ node.definitions source)
    (hType : declaration.type? naming = some t) : CType.Everywhere P t := by
  rcases Node.exists_of_mem_definitions hMem with
    ⟨declarator, hChild, hRead, hName⟩ | ⟨descriptor, hChild, hRead⟩
  · have hDeclarator := h.children node hGood declarator hChild
    unfold Declaration.ofTypedef? at hRead
    obtain ⟨type, -, hRead⟩ := Option.bind_eq_some_iff.mp hRead
    split at hRead
    · simp only [Option.bind_eq_bind, Option.bind_eq_some_iff, Option.some.injEq] at hRead
      obtain ⟨read, hReadDeclarator, declared, hDeclared, text, hText, rfl⟩ := hRead
      have hOwnName := Option.bind_eq_some_iff.mpr ⟨declared, hDeclared, hText⟩
      have hSame : text = name := Option.some.inj (hOwnName.symm.trans hName)
      subst hSame
      have hBase := CType.everywhere_named_iff.mpr
        (hNamed (.merge ∅ (Qualifiers.ofNodes source node.children)))
      have hPlace : Declarator.at? source (some declarator) = some read := hReadDeclarator
      rw [Declaration.type?] at hType
      exact h.applied (by simpa using hDeclarator) hPlace hBase hType
    · exact h.ofNodes? hGood hDeclarator hRead hType
  · exact h.declaration (h.children node hGood descriptor hChild) hRead hType

end Sustained

/-! ## Sequences of items -/

private theorem Walk.foldl_add_invariant {N : Naming → Prop} {R : FunctionRecord → Prop}
    {comment : List String} (declarations : List ItemDeclaration)
    (hDefine : ∀ name declaration, .typeName name declaration ∈ declarations →
      ∀ naming, N naming → N (naming.define name declaration))
    (hRecord : ∀ declaration, .value declaration ∈ declarations → ∀ naming record, N naming →
      declaration.record? naming comment = some record → R record)
    {walk : Walk} (hNaming : N walk.naming) (hRecords : ∀ record ∈ walk.records, R record) :
    N (declarations.foldl (Walk.add comment) walk).naming ∧
      ∀ record ∈ (declarations.foldl (Walk.add comment) walk).records, R record := by
  induction declarations generalizing walk with
  | nil => exact ⟨hNaming, hRecords⟩
  | cons declaration rest ih =>
      rw [List.foldl_cons]
      refine ih (fun name definition hMem => hDefine name definition (List.mem_cons_of_mem _ hMem))
        (fun value hMem => hRecord value (List.mem_cons_of_mem _ hMem)) ?_ ?_
      · cases declaration with
        | typeName name definition => exact hDefine name definition List.mem_cons_self _ hNaming
        | value value => exact hNaming
      · cases declaration with
        | typeName name definition => exact hRecords
        | value value =>
            intro record hMem
            rcases List.mem_append.mp hMem with hMem | hMem
            · exact hRecords record hMem
            · exact hRecord value List.mem_cons_self _ record hNaming (Option.mem_toList.mp hMem)

/-- What every definition of a type name keeps, and what every record has then, holds after any
sequence of items. -/
theorem Walk.foldl_takeIn_invariant {N : Naming → Prop} {R : FunctionRecord → Prop}
    (items : List Item)
    (hDefine : ∀ item ∈ items, ∀ name declaration,
      .typeName name declaration ∈ item.node.declarations source →
        ∀ naming, N naming → N (naming.define name declaration))
    (hRecord : ∀ item ∈ items, ∀ declaration,
      .value declaration ∈ item.node.declarations source → ∀ naming record, N naming →
        declaration.record? naming (item.node.commentTokens source item.before) = some record →
          R record)
    {walk : Walk} (hNaming : N walk.naming) (hRecords : ∀ record ∈ walk.records, R record) :
    N (items.foldl (Walk.takeIn source) walk).naming ∧
      ∀ record ∈ (items.foldl (Walk.takeIn source) walk).records, R record := by
  induction items generalizing walk with
  | nil => exact ⟨hNaming, hRecords⟩
  | cons item rest ih =>
      obtain ⟨hNext, hNextRecords⟩ := Walk.foldl_add_invariant (item.node.declarations source)
        (hDefine item List.mem_cons_self) (hRecord item List.mem_cons_self) hNaming hRecords
      rw [List.foldl_cons, Walk.takeIn_eq_foldl]
      exact ih (fun other hMem => hDefine other (List.mem_cons_of_mem _ hMem))
        (fun other hMem => hRecord other (List.mem_cons_of_mem _ hMem)) hNext hNextRecords

end FunctionCatalog
