import FunctionCatalog.Extraction.File
import FunctionCatalog.Proofs.CType.OneLine
import FunctionCatalog.Proofs.Extraction.Invariant
import FunctionCatalog.Proofs.Tree.Paths
import FunctionCatalog.Proofs.TypeName.OneLine

/-!
# Records on one line

Text of the source gets into a record on many ways: as the name of a function, as a type that
stands for itself, as a tag, an array size or a spelling that is left as it is, through a type
name, and as a comment. On most of them white space is set right on the way. On the others the
text is a single token of the grammar, which has none (`Node.HasPlainNames`). So if that is so
everywhere in a tree, all texts of all types that a walk builds are on one line, those that names
stand for included, and so are the records.

## Main results

* `Naming.IsOneLine.sustained` — every step of building a type keeps its texts on one line.
* `Naming.IsOneLine.record` — the record of a function is on one line.
* `Config.oneLine_recordsOfTree` — so are all records of a tree.
-/

namespace FunctionCatalog

open CType

/-! ## Names in a tree -/

/-- The names that get into a record as they stand have no white space, except for the names of
operators, which begin with `operator` and a character that goes on no identifier. -/
structure Node.HasPlainNames (source : Bytes) (lang : Language) (node : Node) : Prop where
  /-- Plain identifiers, names of members and types, and keywords of builtin types. -/
  token : node.kind ∈ [.name .identifier, .name .field, .name .type, .primitiveType] →
    ∀ text ∈ node.text? source, IsWord text
  /-- Names of operators. -/
  operator : node.kind = .name .operator → ∀ text ∈ node.text? source, IsOperatorText text
  /-- Names defined by a `typedef` or a `using` declaration. -/
  defined : ∀ name declaration, some (name, declaration) ∈ node.definitions source → IsWord name
  /-- Tags, which C keeps as they stand. -/
  tag : lang = .c → ∀ kind, node.kind = .tagSpecifier kind →
    ∀ name ∈ (node.child? .name).bind (·.text? source), IsWord name

/-- Whether a node of this kind is no name, has none and defines none. -/
def Kind.isNameless : Kind → Bool
  | .name _ | .primitiveType | .tagSpecifier _ | .typeDefinition | .aliasDeclaration => false
  | _ => true

theorem Node.hasPlainNames_of_isNameless {source : Bytes} {lang : Language} {node : Node}
    (hKind : node.kind.isNameless = true) : node.HasPlainNames source lang where
  token hName := by
    simp only [List.mem_cons, List.not_mem_nil, or_false] at hName
    rcases hName with hName | hName | hName | hName <;> simp [hName, Kind.isNameless] at hKind
  operator hName := by simp [hName, Kind.isNameless] at hKind
  defined name declaration hMem := by
    unfold Node.definitions at hMem
    split at hMem <;> simp_all [Kind.isNameless]
  tag _ kind hTag := by simp [hTag, Kind.isNameless] at hKind

theorem Node.hasPlainNames_of_name {source : Bytes} {lang : Language} {node : Node}
    {kind : NameKind} (hKind : node.kind = .name kind) (hOther : kind ≠ .operator)
    (hText : ∀ text ∈ node.text? source, IsWord text) : node.HasPlainNames source lang where
  token _ := hText
  operator hOperator := absurd (Kind.name.inj (hKind.symm.trans hOperator)) hOther
  defined name declaration hMem := by simp [Node.definitions, hKind] at hMem
  tag _ kind hTag := by simp [hKind] at hTag

/-! ## Names of types -/

private theorem TagKind.oneLine_typeName (kind : TagKind) {name? : Option String} {lang : Language}
    (hName : lang = .c → ∀ name ∈ name?, IsWord name) : OneLine (kind.typeName name? lang) := by
  have hKeyword : OneLine kind.keyword := by cases kind <;> decide
  cases lang with
  | c =>
      have hTag : OneLine (name?.getD "(unnamed)") := by
        cases name? with
        | none => decide
        | some name => exact (hName rfl name rfl).oneLine
      exact oneLine_append.mpr ⟨oneLine_append.mpr ⟨hKeyword, by decide⟩, hTag⟩
  | cpp =>
      cases name? with
      | none => exact oneLine_append.mpr ⟨oneLine_append.mpr ⟨by decide, hKeyword⟩, by decide⟩
      | some name => exact oneLine_normalizeSpelling name

/-- The configured spellings, and the types that the names of a file stand for, are on one line. -/
structure Naming.IsOneLine (naming : Naming) : Prop where
  aliases : naming.aliases.IsOneLine
  locals : ∀ name t, (name, t) ∈ naming.locals → Everywhere CType.IsOneLine t

namespace Naming.IsOneLine

variable {source : Bytes} {naming : Naming}

theorem resolve (hNaming : naming.IsOneLine) {name : String} (hName : IsWord name) :
    Everywhere CType.IsOneLine (naming.resolve name) := by
  refine naming.everywhere_resolve (hNaming.locals name) fun _ => ?_
  cases hResolve : naming.aliases.resolve? naming.lang name with
  | none => exact hName.oneLine
  | some spelling => exact TypeAliases.oneLine_resolve? hNaming.aliases hResolve

/-- What a specifier names is on one line. -/
theorem specifier (hNaming : naming.IsOneLine) {node : Node} {specifier : Specifier}
    (hNames : node.HasPlainNames source naming.lang)
    (hRead : Specifier.ofNode? source node = some specifier) :
    Everywhere CType.IsOneLine (specifier.type naming) := by
  obtain ⟨text, hText, rfl⟩ := Option.map_eq_some_iff.mp hRead
  split
  · next hKind => exact hNaming.resolve (hNames.token (by simp [hKind]) text hText)
  · next hKind => exact hNaming.resolve (hNames.token (by simp [hKind]) text hText)
  · exact everywhere_named_iff.mpr (oneLine_canonicalBuiltin text)
  · next kind hKind =>
      exact everywhere_named_iff.mpr
        (kind.oneLine_typeName fun hLang => hNames.tag hLang kind hKind)
  · exact everywhere_named_iff.mpr (oneLine_normalizeSpelling text)

/-- Every step of building a type keeps its texts on one line. -/
theorem sustained (hNaming : naming.IsOneLine) :
    Sustained source naming (·.All (·.HasPlainNames source naming.lang)) CType.IsOneLine where
  children _ hAll := hAll.children
  specified node t hAll hType := by
    obtain ⟨type, specifier, hChild, hRead, rfl⟩ := specifiedType?_eq_some_iff.mp hType
    have hNames := (hAll.children type (Node.mem_children_of_child? hChild)).self
    exact (hNaming.specifier hNames hRead).qualified CType.IsOneLine.qualified _
  pointer _ _ := trivial
  reference _ _ := trivial
  array node _ _ := by
    intro text hText
    obtain ⟨size, -, rfl⟩ := Option.map_eq_some_iff.mp hText
    exact oneLine_normalizeSpelling size
  function _ _ _ _ _ _ := trivial

/-- A definition of a type name keeps the invariant of the names. -/
theorem define (hNaming : naming.IsOneLine) {node : Node} {name : String}
    {declaration : Declaration} (hAll : node.All (·.HasPlainNames source naming.lang))
    (hMem : some (name, declaration) ∈ node.definitions source) :
    (naming.define name declaration).IsOneLine := by
  have hName : IsWord name := hAll.self.defined name declaration hMem
  unfold Naming.define
  cases hType : declaration.type? naming with
  | none => exact hNaming
  | some t =>
      refine ⟨hNaming.aliases, fun other u hOther => ?_⟩
      rcases List.mem_cons.mp hOther with hFirst | hOther
      · rw [(Prod.mk.inj hFirst).2]
        exact hNaming.sustained.definition hAll (fun _ => hName.oneLine) hMem hType
      · exact hNaming.locals other u hOther

end Naming.IsOneLine

/-! ## Records -/

/-- The texts of a record: the name, the types and the tokens. -/
def FunctionRecord.texts (record : FunctionRecord) : List String :=
  record.name :: record.signature ++ record.commentTokens

/-- The texts of a record are on one line. -/
def FunctionRecord.IsOneLine (record : FunctionRecord) : Prop :=
  ∀ text ∈ record.texts, OneLine text

private theorem Node.oneLine_commentTokens (source : Bytes) (before : List Node) (node : Node) :
    ∀ token ∈ node.commentTokens source before, OneLine token := by
  unfold Node.commentTokens
  split
  · exact fun token hToken => (isWord_of_mem_commentTokens token hToken).oneLine
  · simp

namespace Naming.IsOneLine

variable {source : Bytes} {naming : Naming}

/-- The name of a free function is on one line. -/
theorem functionName (hNaming : naming.IsOneLine) {declarator : Node} {read : Declarator}
    {declared : DeclaredName} {text : String} {base t : CType}
    (hAll : declarator.All (·.HasPlainNames source naming.lang))
    (hRead : Declarator.ofNode? source declarator = some read)
    (hApply : read.applied? naming base = some t) (hName : read.name? = some declared)
    (hFree : declared.kind.isFree = true) (hText : declared.text? = some text) :
    OneLine (FunctionCatalog.functionName text) := by
  obtain ⟨chain, name?, hDeclares⟩ := declares_of_read hRead hApply
  obtain ⟨other, hOther, -, hMeans⟩ := hDeclares.read
  obtain rfl : read = other := Option.some.inj (hRead.symm.trans hOther)
  obtain ⟨name, hSome, hDeclared⟩ := Option.bind_eq_some_iff.mp (hMeans.name?_eq.symm.trans hName)
  have hNames := (hNaming.sustained.declaredName hDeclares hAll name hSome).self
  unfold Node.declaredName? at hDeclared
  split at hDeclared
  · next kind hKind =>
      cases hDeclared
      refine oneLine_functionName ?_
      rcases NameKind.isFree_iff.mp hFree with rfl | rfl
      · exact .inl (hNames.token (by simp [hKind]) text hText)
      · exact .inr (hNames.operator hKind text hText)
  · cases hDeclared

/-- The record of a function is on one line. -/
theorem record (hNaming : naming.IsOneLine) {owner declarator : Node} {declaration : Declaration}
    (hOwner : owner.All (·.HasPlainNames source naming.lang))
    (hDeclarator : declarator.All (·.HasPlainNames source naming.lang))
    (hRead : Declaration.ofNodes? source owner declarator = some declaration)
    {comment : List String} (hComment : ∀ token ∈ comment, OneLine token) {record : FunctionRecord}
    (hRecord : declaration.record? naming comment = some record) : record.IsOneLine := by
  obtain ⟨⟨name, types⟩, hFunction, rfl⟩ := Option.map_eq_some_iff.mp hRecord
  obtain ⟨declared, text, result, params, variadic, prototyped, hName, hFree, hText, hType, rfl,
    rfl⟩ := Declaration.function?_eq_some_iff.mp hFunction
  have hAll := hNaming.sustained.ofNodes? hOwner hDeclarator hRead hType
  obtain ⟨-, hResult, hParams⟩ := everywhere_function_iff.mp hAll
  obtain ⟨type, specifier, read, -, -, hReadDeclarator, rfl⟩ := ofNodes?_eq_some_iff.mp hRead
  have hNameLine := hNaming.functionName hDeclarator hReadDeclarator hType hName hFree hText
  have hTypes : ∀ t ∈ result :: params, OneLine (t.spelling naming.lang) :=
    List.forall_mem_cons.mpr ⟨oneLine_spelling hResult naming.lang,
      fun param hParam => oneLine_spelling (hParams param hParam) naming.lang⟩
  have hSignature := List.forall_mem_append.mpr ⟨List.forall_mem_map.mpr hTypes, hComment⟩
  exact List.forall_mem_cons.mpr ⟨hNameLine, hSignature⟩

end Naming.IsOneLine

namespace Config

/-- The records of a tree with plain names are on one line, whatever is configured. -/
theorem oneLine_recordsOfTree (config : Config) {lang : Language} {masked : Bytes} {root : Node}
    (hAll : root.All (·.HasPlainNames masked lang)) :
    ∀ record ∈ config.recordsOfTree lang masked root, record.IsOneLine := by
  have hInvariant :
      let walk := root.fileItems.foldl (Walk.takeIn masked) { naming := config.naming lang }
      (walk.naming.lang = lang ∧ walk.naming.IsOneLine) ∧
        ∀ record ∈ walk.records, record.IsOneLine := by
    refine Walk.foldl_takeIn_invariant (N := fun naming => naming.lang = lang ∧ naming.IsOneLine)
      (R := FunctionRecord.IsOneLine) root.fileItems ?_ ?_ ?_ (by simp)
    · rintro item hItem name declaration hMem naming ⟨rfl, hNaming⟩
      have hNode := hAll.fileItems item hItem
      exact ⟨naming.lang_define name declaration,
        hNaming.define hNode (Node.mem_definitions_of_typeName hMem)⟩
    · rintro item hItem declaration hMem naming record ⟨rfl, hNaming⟩ hRecord
      have hNode := hAll.fileItems item hItem
      obtain ⟨declarator, hChild, hRead⟩ := Node.exists_of_value hMem
      exact hNaming.record hNode (hNode.children declarator hChild) hRead
        (item.node.oneLine_commentTokens masked item.before) hRecord
    · exact ⟨rfl, TypeAliases.isOneLine_ofList config.typeAliases, by simp [naming]⟩
  rw [recordsOfTree, Node.walkItems_eq_foldl]
  exact hInvariant.2

/-- The tree of a file has plain names, in the language that the path of the file is read as. -/
def ReadsPlainNames (config : Config) (path : Path) (source : Source) : Prop :=
  ∀ lang root, config.languageFor? path = some lang → source.tree? = some root →
    root.All (·.HasPlainNames (maskLinkageGuards source.bytes) lang)

/-- All records of such a file are on one line. -/
theorem oneLine_extractFile {config : Config} {path : Path} {source : Source}
    (hNames : config.ReadsPlainNames path source) {records : List FunctionRecord}
    (hRecords : config.extractFile path source = .ok records) :
    ∀ record ∈ records, record.IsOneLine := by
  unfold extractFile at hRecords
  split at hRecords
  · cases hRecords
  · next lang hLang =>
      split at hRecords
      · cases hRecords
      · next root hTree =>
          have hAll := hNames lang root hLang hTree
          split at hRecords
          · cases hRecords
          · dsimp only at hRecords
            split at hRecords
            · cases hRecords
            · rw [← Except.ok.inj hRecords]
              exact config.oneLine_recordsOfTree hAll

end Config

end FunctionCatalog
