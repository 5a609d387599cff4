import FunctionCatalog.Extraction.File
import FunctionCatalog.Proofs.Extraction.Items

/-!
# Syntax errors are isolated

An item with a syntax error adds nothing to a walk, so a tree may as well be without it. Deleting
every such item, at any depth, leaves names and signatures as they were; only comments can change,
because they are found among siblings. What a file with errors gives is therefore what the rest of
it gives, and reading files strictly can only lose records.

## Main results

* `Node.fileDeclarations_withoutErrors` — a tree without its erroneous items declares the same.
* `Config.extractFile_isolated` — recovery succeeds if something is left, and gives that.
* `Config.extractPath_strict` — strict reading changes nothing but a success into a failure.
-/

namespace FunctionCatalog

/-! ## Deleting erroneous items -/

/-- Whether a node is an item with a syntax error. Containers are none, whatever is in them. -/
def Node.isErroneousItem (node : Node) : Bool :=
  node.contents?.isNone && node.hasError

mutual

/-- A container without the erroneous items in it. Other nodes stay as they are. -/
def Node.pruned : Node → Node
  | node@⟨kind, _, _, _, _, _, children⟩ =>
    match kind with
    | .conditionalBlock | .declarationList => { node with children := prunedAmong children }
    | .linkageSpecification => { node with children := prunedBody children }
    | _ => node

/-- The given nodes without the erroneous ones among those that have a name. -/
def Node.prunedAmong : List Node → List Node
  | [] => []
  | node :: rest =>
    if !node.isNamed then node :: prunedAmong rest
    else if node.isErroneousItem then prunedAmong rest
    else node.pruned :: prunedAmong rest

/-- The children of a linkage specification without what it applies to, if that is erroneous. No
other child takes its place. -/
def Node.prunedBody : List Node → List Node
  | [] => []
  | node :: rest =>
    if !(node.field? == some .body) then node :: prunedBody rest
    else if node.isErroneousItem then rest.filter fun child => !(child.field? == some .body)
    else node.pruned :: rest

end

/-- A tree without its erroneous items. -/
def Node.withoutErrors (root : Node) : Node :=
  { root with children := Node.prunedAmong root.children }

@[simp] theorem Node.isNamed_pruned (node : Node) : node.pruned.isNamed = node.isNamed := by
  obtain ⟨kind, start, stop, isNamed, hasError, field?, children⟩ := node
  cases kind <;> rfl

@[simp] theorem Node.field?_pruned (node : Node) : node.pruned.field? = node.field? := by
  obtain ⟨kind, start, stop, isNamed, hasError, field?, children⟩ := node
  cases kind <;> rfl

/-- The nodes without a syntax error. -/
def errorFree (nodes : List Node) : List Node :=
  nodes.filter fun node => !node.hasError

private theorem errorFree_append (front back : List Node) :
    errorFree (front ++ back) = errorFree front ++ errorFree back :=
  List.filter_append front back

private theorem errorFree_topLevel_eq_nil {node : Node} (h : node.isErroneousItem = true) :
    errorFree node.topLevel = [] := by
  rw [Node.isErroneousItem, Bool.and_eq_true, Option.isNone_iff_eq_none] at h
  rw [Node.topLevel_eq, h.1]
  simp [errorFree, h.2]

mutual

/-- What is left of a container are the items in it without an error. -/
theorem Node.topLevel_pruned : ∀ node : Node, node.isErroneousItem = false →
    node.pruned.topLevel = errorFree node.topLevel
  | ⟨kind, start, stop, isNamed, hasError, field?, children⟩ => by
      intro hItem
      have hAmong := Node.topLevel_prunedAmong children
      have hBody := Node.topLevel_prunedBody children
      rw [Node.topLevel_eq,
        Node.topLevel_eq ⟨kind, start, stop, isNamed, hasError, field?, children⟩]
      cases kind <;> first
        | exact hAmong
        | exact hBody
        | (simp only [Node.isErroneousItem, Node.contents?, Option.isNone_none,
            Bool.true_and] at hItem
           simp [Node.pruned, Node.contents?, errorFree, hItem])

theorem Node.topLevel_prunedAmong : ∀ nodes : List Node,
    ((Node.prunedAmong nodes).filter (·.isNamed)).flatMap Node.topLevel =
      errorFree ((nodes.filter (·.isNamed)).flatMap Node.topLevel)
  | [] => rfl
  | node :: rest => by
      have hRest := Node.topLevel_prunedAmong rest
      cases hNamed : node.isNamed with
      | false => simpa [Node.prunedAmong, hNamed] using hRest
      | true =>
          cases hItem : node.isErroneousItem with
          | true =>
              have hNone := errorFree_topLevel_eq_nil hItem
              simp [Node.prunedAmong, hNamed, hItem, errorFree_append, hNone, hRest]
          | false =>
              have hNode := Node.topLevel_pruned node hItem
              simp [Node.prunedAmong, hNamed, hItem, errorFree_append, hNode, hRest]

private theorem Node.topLevel_prunedBody : ∀ nodes : List Node,
    ((Node.prunedBody nodes).find? (·.field? == some .body)).toList.flatMap Node.topLevel =
      errorFree ((nodes.find? (·.field? == some .body)).toList.flatMap Node.topLevel)
  | [] => rfl
  | node :: rest => by
      cases hBody : node.field? == some .body with
      | false => simpa [Node.prunedBody, hBody] using Node.topLevel_prunedBody rest
      | true =>
          cases hItem : node.isErroneousItem with
          | true =>
              have hNone := errorFree_topLevel_eq_nil hItem
              have hGone : (rest.filter fun child => !(child.field? == some .body)).find?
                  (·.field? == some .body) = none := by
                rw [List.find?_eq_none]
                intro child hChild hField
                simp [hField] at hChild
              simp [Node.prunedBody, hBody, hItem, hNone, hGone]
          | false =>
              have hNode := Node.topLevel_pruned node hItem
              simp [Node.prunedBody, hBody, hItem, hNode]

end

/-! ## What is declared -/

section Declarations

variable {source : Bytes}

private theorem flatMap_declarations_errorFree (nodes : List Node) :
    (errorFree nodes).flatMap (Node.declarations source) =
      nodes.flatMap (Node.declarations source) := by
  induction nodes with
  | nil => rfl
  | cons node rest ih =>
      cases hError : node.hasError with
      | true =>
          have hNone : node.declarations source = [] := by simp [Node.declarations, hError]
          simp only [errorFree, List.filter_cons, hError] at ih ⊢
          simpa [hNone] using ih
      | false =>
          simp only [errorFree, List.filter_cons, hError] at ih ⊢
          simpa using ih

/-- A tree without its erroneous items declares the same. -/
theorem Node.fileDeclarations_withoutErrors (root : Node) :
    root.withoutErrors.fileDeclarations source = root.fileDeclarations source := by
  have hItems : root.withoutErrors.namedChildren.flatMap Node.topLevel =
      errorFree (root.namedChildren.flatMap Node.topLevel) :=
    Node.topLevel_prunedAmong root.children
  rw [Node.fileDeclarations, hItems, flatMap_declarations_errorFree]
  rfl

theorem Node.outline_withoutErrors (root : Node) (naming : Naming) :
    (root.withoutErrors.walkItems source naming).outline =
      (root.walkItems source naming).outline := by
  rw [Node.outline_walkItems, Node.outline_walkItems, Node.fileDeclarations_withoutErrors]

end Declarations

/-! ## Files -/

namespace Config

/-- The configuration that fails every file with a syntax error. -/
def strict (config : Config) : Config :=
  { config with recoverPartial := false }

/-- The configuration that keeps what can be kept of a file. -/
def recovering (config : Config) : Config :=
  { config with recoverPartial := true }

variable (config : Config)

private theorem map_prototype_recordsOfTree_withoutErrors (lang : Language) (masked : Bytes)
    (root : Node) :
    (config.recordsOfTree lang masked root.withoutErrors).map FunctionRecord.prototype =
      (config.recordsOfTree lang masked root).map FunctionRecord.prototype :=
  congrArg Outline.prototypes (Node.outline_withoutErrors root (config.naming lang))

section File

variable {config} {path : Path} {source : Source} {lang : Language} {root : Node}

theorem extractFile_recovering (hLang : config.languageFor? path = some lang)
    (hTree : source.tree? = some root) :
    config.recovering.extractFile path source =
      if root.hasError && (config.recordsOfTree lang (maskLinkageGuards source.bytes) root).isEmpty
      then .error (.malformed path)
      else .ok (config.recordsOfTree lang (maskLinkageGuards source.bytes) root) := by
  have hLang' : config.recovering.languageFor? path = some lang := hLang
  simp only [extractFile, hLang', hTree]
  simp [recovering, recordsOfTree, naming]

theorem extractFile_strict (hLang : config.languageFor? path = some lang)
    (hTree : source.tree? = some root) :
    config.strict.extractFile path source =
      if root.hasError then .error (.malformed path)
      else .ok (config.recordsOfTree lang (maskLinkageGuards source.bytes) root) := by
  have hLang' : config.strict.languageFor? path = some lang := hLang
  simp only [extractFile, hLang', hTree]
  cases root.hasError <;> simp [strict, recordsOfTree, naming]

/-- Recovery succeeds if the tree without its erroneous items has a record, and gives the records of
that tree. -/
theorem extractFile_isolated (hLang : config.languageFor? path = some lang)
    (hTree : source.tree? = some root) (hError : root.hasError = true) :
    let kept := config.recordsOfTree lang (maskLinkageGuards source.bytes) root.withoutErrors
    ((∃ records, config.recovering.extractFile path source = .ok records) ↔ kept ≠ []) ∧
      (∀ records, config.recovering.extractFile path source = .ok records →
        records.map FunctionRecord.prototype = kept.map FunctionRecord.prototype) ∧
      (kept = [] → config.recovering.extractFile path source = .error (.malformed path)) := by
  intro kept
  have hSame : kept.map FunctionRecord.prototype = _ :=
    map_prototype_recordsOfTree_withoutErrors config lang (maskLinkageGuards source.bytes) root
  rw [extractFile_recovering hLang hTree, hError, Bool.true_and]
  generalize config.recordsOfTree lang (maskLinkageGuards source.bytes) root = records at hSame ⊢
  have hEmpty : kept = [] ↔ records = [] := by
    rw [← List.map_eq_nil_iff, hSame, List.map_eq_nil_iff]
  rw [Ne, hEmpty, hSame]
  cases records with
  | nil => simp
  | cons record rest => simp

/-- Strict reading gives the same as recovery, or else fails where recovery kept something. -/
theorem extractFile_strict_or (path : Path) (source : Source) :
    config.strict.extractFile path source = config.recovering.extractFile path source ∨
      config.strict.extractFile path source = .error (.malformed path) ∧
        ∃ found, found ≠ [] ∧ config.recovering.extractFile path source = .ok found := by
  cases hLang : config.languageFor? path with
  | none =>
      have hStrict : config.strict.languageFor? path = none := hLang
      have hRecovering : config.recovering.languageFor? path = none := hLang
      simp [extractFile, hStrict, hRecovering]
  | some lang =>
      cases hTree : source.tree? with
      | none =>
          have hStrict : config.strict.languageFor? path = some lang := hLang
          have hRecovering : config.recovering.languageFor? path = some lang := hLang
          simp [extractFile, hStrict, hRecovering, hTree]
      | some root =>
          rw [extractFile_strict hLang hTree, extractFile_recovering hLang hTree]
          cases root.hasError with
          | false => simp
          | true =>
              cases hRecords : config.recordsOfTree lang (maskLinkageGuards source.bytes) root with
              | nil => simp
              | cons record rest => simp

end File

/-- Strict reading changes nothing but a success into a failure. -/
theorem extractPath_strict (tree : FileTree) (file : Path) :
    config.strict.extractPath tree file = config.recovering.extractPath tree file ∨
      config.strict.extractPath tree file = .error (.malformed file) ∧
        ∃ found, found ≠ [] ∧ config.recovering.extractPath tree file = .ok found := by
  unfold extractPath
  have hStrict : config.strict.languageFor? file = config.languageFor? file := rfl
  have hRecovering : config.recovering.languageFor? file = config.languageFor? file := rfl
  rw [hStrict, hRecovering]
  cases config.languageFor? file with
  | none => exact .inl rfl
  | some lang =>
      cases tree.read file with
      | error cause => exact .inl rfl
      | ok source => exact extractFile_strict_or file source

end Config

end FunctionCatalog
