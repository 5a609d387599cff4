import FunctionCatalog.Proofs.Extraction.Containers
import FunctionCatalog.Proofs.Extraction.QualifierLayers
import FunctionCatalog.Proofs.LinkageGuard.Lines

/-!
# Qualifiers in a file

The signature of a function has the same qualifiers in whatever order the file writes them, and
whether it writes them into the definitions of type names or at their uses. This comes from the
algebra of qualifiers: their sets act on types. It holds where a qualifier is a word of its own. In
a type that is spelled as it stands, such as one with template arguments, it is part of the text.

## Main results

* `qualifiers_act` — the algebra of qualifiers, and what follows for signatures.
-/

namespace FunctionCatalog

/-- **Qualifiers act on types**, and so no signature depends on the order in which a file writes
them, nor on which of its definitions and uses of type names it writes them into. -/
theorem qualifiers_act :
    -- Adding sets of qualifiers one after the other, in either order, is adding both at once.
    (∀ (t : CType) (a b : Qualifiers),
      (t.qualified a).qualified b = t.qualified (a.merge b) ∧
        (t.qualified b).qualified a = t.qualified (a.merge b) ∧ t.qualified ∅ = t) ∧
    -- An array of any number of dimensions hands them on to its innermost element.
    (∀ (t : CType) (quals : Qualifiers),
      t.innermost.arrayOf t.dimensions = t ∧ (∀ element size, t.innermost ≠ .array element size) ∧
        (t.qualified quals).innermost = t.innermost.qualified quals ∧
        (t.qualified quals).dimensions = t.dimensions) ∧
    (∀ (element : CType) (size : Option String) (quals : Qualifiers),
      ((CType.array element size).qualified quals).adjustedParameter =
        .pointerTo (element.qualified quals)) ∧
    -- A name and a pointer take them; a function and a reference do not; nothing below is touched.
    (∀ (name : String) (own quals : Qualifiers),
      (CType.named name own).qualified quals = .named name (own.merge quals)) ∧
    (∀ (pointee : CType) (own quals : Qualifiers),
      (CType.pointer pointee own).qualified quals = .pointer pointee (own.merge quals)) ∧
    (∀ (referent : CType) (rvalue : Bool) (quals : Qualifiers),
      (CType.reference referent rvalue).qualified quals = .reference referent rvalue) ∧
    (∀ (result : CType) (params : List CType) (variadic prototyped : Bool) (quals : Qualifiers),
      (CType.function result params variadic prototyped).qualified quals =
        .function result params variadic prototyped) ∧
    -- The order of qualifiers in a file makes no difference.
    (∀ (source source' : Bytes) (root root' : Node) (naming : Naming),
      Node.AllAlike source source' root.children root'.children →
        (root.walkItems source naming).records.map FunctionRecord.prototype =
          (root'.walkItems source' naming).records.map FunctionRecord.prototype) ∧
    -- Nor does their distribution over definitions and uses of type names.
    (∀ (source source' : Bytes) (root root' : Node) (naming : Naming),
      Relation.EqvGen (Redistributed naming fun _ => ∅) (root.fileDeclarations source)
          (root'.fileDeclarations source') →
        (root.walkItems source naming).records.map FunctionRecord.prototype =
          (root'.walkItems source' naming).records.map FunctionRecord.prototype) ∧
    -- In every file, they can all be gathered in flat declarations.
    ∀ (source : Bytes) (root : Node) (lang : Language) (aliases : TypeAliases),
      (root.walkItems source { lang, aliases }).records.map FunctionRecord.prototype =
        (root.flatDeclarations source { lang, aliases }).filterMap
          (·.prototype? { lang, aliases }) := by
  refine ⟨fun t a b => ⟨t.qualified_qualified a b, ?_, t.qualified_empty⟩,
    fun t quals => ⟨t.arrayOf_dimensions, t.innermost_ne_array, t.innermost_qualified quals,
      t.dimensions_qualified quals⟩,
    fun _ _ _ => rfl, fun _ _ _ => rfl, fun _ _ _ => rfl, fun _ _ _ => rfl, fun _ _ _ _ _ => rfl,
    fun source source' root root' naming hAlike => ?_,
    fun source source' root root' naming hMoved => ?_, Node.prototypes_eq_flat⟩
  · rw [t.qualified_comm, t.qualified_qualified]
  · rw [Node.prototypes_walkItems, Node.prototypes_walkItems, hAlike.fileDeclarations_eq]
  · rw [Node.prototypes_walkItems, Node.prototypes_walkItems,
      Redistributed.prototypes_eq_of_eqvGen hMoved]

/-- The result and the parameter of `f` have the qualifiers of `A` and their own, whether `A` has
them in its definition or at its uses, and in any order. -/
theorem qualifiers_act_layered :
    let qualifier (start stop : Nat) := Node.spanning .typeQualifier start stop none []
    let type (kind : Kind) (start stop : Nat) := Node.spanning kind start stop (some .type) []
    let typedef (stop : Nat) (words : List Node) (name : Nat) :=
      Node.spanning .typeDefinition 0 stop none
        (words ++ [.spanning (.name .type) name (name + 1) (some .declarator) []])
    let list (stop : Nat) (param : List Node) :=
      Node.spanning (.other "parameter_list") 32 stop (some .parameters)
        [.spanning .parameterDeclaration 33 stop none param]
    let declarator (stop : Nat) (param : List Node) :=
      Node.spanning (.functionDeclarator .naming) 31 stop (some .declarator)
        [.spanning (.name .identifier) 31 32 (some .declarator) [], list stop param]
    let function (start stop : Nat) (words param : List Node) :=
      Node.spanning .declaration start stop none (words ++ [declarator stop param])
    let file (items : List Node) := Node.spanning (.other "translation_unit") 0 42 none items
    let layered := LinkageGuard.ascii "typedef const int A;volatile A f(A);"
    let layeredRoot := file
      [typedef 20 [qualifier 8 13, type .primitiveType 14 17] 18,
        function 20 35 [qualifier 20 28, type (.name .type) 29 30] [type (.name .type) 33 34]]
    let spread := LinkageGuard.ascii "typedef int A;const volatile A f(const A);"
    let spreadRoot := file
      [typedef 14 [type .primitiveType 8 11] 12,
        function 14 41 [qualifier 14 19, qualifier 20 28, type (.name .type) 29 30]
          [qualifier 33 38, type (.name .type) 39 40]]
    let mixed := LinkageGuard.ascii "typedef int A;volatile A const f(A const);"
    let mixedRoot := file
      [typedef 14 [type .primitiveType 8 11] 12,
        function 14 41 [qualifier 14 22, type (.name .type) 23 24, qualifier 25 30]
          [type (.name .type) 33 34, qualifier 35 40]]
    let naming : Naming := { lang := .c, aliases := {} }
    Relation.EqvGen (Redistributed naming fun _ => ∅) (layeredRoot.fileDeclarations layered)
        (spreadRoot.fileDeclarations spread) ∧
      Node.AllAlike spread mixed spreadRoot.children mixedRoot.children ∧
      (layeredRoot.walkItems layered naming).records.map FunctionRecord.prototype =
        [("f", ["const volatile int", "const int"])] ∧
      (mixedRoot.walkItems mixed naming).records.map FunctionRecord.prototype =
        [("f", ["const volatile int", "const int"])] := by
  intro qualifier type typedef list declarator function file layered layeredRoot spread spreadRoot
    mixed mixedRoot naming
  obtain ⟨-, -, -, -, -, -, -, hOrder, hLayers, hFlat⟩ := qualifiers_act
  let defined (quals : Qualifiers) : Declaration :=
    .mk (.name "int") quals (.name ⟨.type, some "A"⟩)
  let declared (quals param : Qualifiers) : Declaration := .mk (.name "A") quals
    (.function none [.declared (.mk (.name "A") param .nothing)] (.name ⟨.identifier, some "f"⟩))
  let constant : Qualifiers := { isConst := true }
  let both : Qualifiers := { isConst := true, isVolatile := true }
  have hLayered : layeredRoot.fileDeclarations layered =
      [.typeName "A" (defined constant), .value (declared { isVolatile := true } ∅)] := rfl
  have hSpread : spreadRoot.fileDeclarations spread =
      [.typeName "A" (defined ∅), .value (declared both constant)] := rfl
  have hMoved : Redistributed naming (fun _ => ∅) (layeredRoot.fileDeclarations layered)
      (spreadRoot.fileDeclarations spread) := by
    have hType : (defined ∅).type? naming = some (.ofName "int") := rfl
    have hTaken : (declared { isVolatile := true } ∅).taking
        (Function.update (fun _ => ∅) "A" constant) = declared both constant := rfl
    have hUses : Redistributed (naming.declare "A" ((CType.ofName "int").qualified constant))
        (Function.update (fun _ => ∅) "A" constant) [.value (declared { isVolatile := true } ∅)]
        [.value (declared both constant)] := by
      rw [← hTaken]
      exact .value _ .nil
    rw [hLayered, hSpread]
    exact .typeName "A" (defined ∅) constant hType hUses
  have hLayer := Relation.EqvGen.rel _ _ hMoved
  have hLeaf {kind : Kind} {start stop start' stop' : Nat} {field? : Option Field}
      (name? : Option String)
      (hSpelled : (Node.spanning kind start stop field? []).spelled spread = ⟨name?, none, none⟩)
      (hSpelled' : (Node.spanning kind start' stop' field? []).spelled mixed =
        ⟨name?, none, none⟩) :
      Node.Alike spread mixed (.spanning kind start stop field? [])
        (.spanning kind start' stop' field? []) :=
    Node.alike_spanning _ (.refl []) .nil hSpelled hSpelled' rfl rfl
  have hTypedef : Node.Alike spread mixed (typedef 14 [type .primitiveType 8 11] 12)
      (typedef 14 [type .primitiveType 8 11] 12) :=
    Node.alike_spanning ⟨none, none, some (.name "int")⟩ (.refl [])
      (.cons (hLeaf none rfl rfl) (.cons (hLeaf (some "A") rfl rfl) .nil)) rfl rfl rfl rfl
  have hParam : Node.Alike spread mixed
      (.spanning .parameterDeclaration 33 41 none [qualifier 33 38, type (.name .type) 39 40])
      (.spanning .parameterDeclaration 33 41 none [type (.name .type) 33 34, qualifier 35 40]) :=
    Node.alike_spanning ⟨none, none, some (.name "A")⟩ (.refl [some "const"])
      (.qualifier rfl (.cons (hLeaf (some "A") rfl rfl) (.qualifierOther rfl .nil)))
      rfl rfl rfl rfl
  have hList : Node.Alike spread mixed
      (list 41 [qualifier 33 38, type (.name .type) 39 40])
      (list 41 [type (.name .type) 33 34, qualifier 35 40]) :=
    Node.alike_spanning ⟨none, none, none⟩ (.refl []) (.cons hParam .nil) rfl rfl rfl rfl
  have hDeclarator : Node.Alike spread mixed
      (declarator 41 [qualifier 33 38, type (.name .type) 39 40])
      (declarator 41 [type (.name .type) 33 34, qualifier 35 40]) :=
    Node.alike_spanning ⟨none, none, none⟩ (.refl [])
      (.cons (hLeaf (some "f") rfl rfl) (.cons hList .nil)) rfl rfl rfl rfl
  have hFunction : Node.Alike spread mixed
      (function 14 41 [qualifier 14 19, qualifier 20 28, type (.name .type) 29 30]
        [qualifier 33 38, type (.name .type) 39 40])
      (function 14 41 [qualifier 14 22, type (.name .type) 23 24, qualifier 25 30]
        [type (.name .type) 33 34, qualifier 35 40]) :=
    Node.alike_spanning ⟨none, none, some (.name "A")⟩
      (.swap (some "volatile") (some "const") [])
      (.qualifier rfl (.qualifier rfl (.qualifierOther rfl (.cons (hLeaf (some "A") rfl rfl)
        (.qualifierOther rfl (.cons hDeclarator .nil))))))
      rfl rfl rfl rfl
  have hMixed : Node.AllAlike spread mixed spreadRoot.children mixedRoot.children :=
    .cons hTypedef (.cons hFunction .nil)
  have hPrototypes : (layeredRoot.walkItems layered naming).records.map FunctionRecord.prototype =
      [("f", ["const volatile int", "const int"])] := by
    rw [hFlat, Node.flatDeclarations, hLayered]
    decide
  refine ⟨hLayer, hMixed, hPrototypes, ?_⟩
  rw [← hOrder _ _ _ _ naming hMixed, ← hLayers _ _ _ _ naming hLayer]
  exact hPrototypes

/-- The types `V<const volatile int>` and `V<volatile const int>` are the same. They are spelled as
they stand, and their qualifiers are part of the text. -/
theorem qualifiers_spelled_in_order :
    let source := LinkageGuard.ascii
      "void f(V<const volatile int>);\nvoid g(V<volatile const int>);\n"
    let argument (start : Nat) (first second : Nat) :=
      Node.spanning .typeDescriptor start (start + 18) none
        [.spanning .typeQualifier start (start + first) none [],
          .spanning .typeQualifier (start + first + 1) (start + first + 1 + second) none [],
          .spanning .primitiveType (start + 15) (start + 18) (some .type) []]
    let function (start : Nat) (argument : Node) :=
      Node.spanning .declaration start (start + 30) none
        [.spanning .primitiveType start (start + 4) (some .type) [],
          .spanning (.functionDeclarator .naming) (start + 5) (start + 29) (some .declarator)
            [.spanning (.name .identifier) (start + 5) (start + 6) (some .declarator) [],
              .spanning (.other "parameter_list") (start + 6) (start + 29) (some .parameters)
                [.spanning .parameterDeclaration (start + 7) (start + 28) none
                  [.spanning (.other "template_type") (start + 7) (start + 28) (some .type)
                    [argument]]]]]
    let root := Node.spanning (.other "translation_unit") 0 62 none
      [function 0 (argument 9 5 8), function 31 (argument 40 8 5)]
    Qualifiers.ofNodes source (argument 9 5 8).children =
        Qualifiers.ofNodes source (argument 40 8 5).children ∧
      (root.walkItems source { lang := .cpp, aliases := {} }).records.map FunctionRecord.prototype =
        [("f", ["void", "V<const volatile int>"]), ("g", ["void", "V<volatile const int>"])] := by
  intro source argument function root
  let declared (name type : String) : Declaration := .mk (.name "void") ∅
    (.function none [.declared (.mk (.verbatim type) ∅ .nothing)] (.name ⟨.identifier, some name⟩))
  have hDeclarations : root.fileDeclarations source =
      [.value (declared "f" "V<const volatile int>"),
        .value (declared "g" "V<volatile const int>")] := rfl
  refine ⟨by decide, ?_⟩
  rw [Node.prototypes_walkItems, hDeclarations]
  decide

end FunctionCatalog
