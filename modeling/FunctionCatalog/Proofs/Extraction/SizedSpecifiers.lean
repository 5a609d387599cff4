import FunctionCatalog.Proofs.Comment.Tokens
import FunctionCatalog.Proofs.Declaration.InOnePass
import FunctionCatalog.Proofs.Extraction.FunctionRecord
import FunctionCatalog.Proofs.LinkageGuard.Lines
import FunctionCatalog.Proofs.TypeName.BuiltinWords
import Mathlib

/-!
# Specifiers of several words

A specifier such as `long unsigned int` is a node with a child for every word, and qualifiers and
comments may stand among the words. The name of the type is made of the whole text of the node, so
the words of qualifiers and comments count as well: they are no keywords, and the last of them is
taken for the base unless a base stands behind it. The qualifiers of the type are those that stand
beside the specifier. So a type is as it is stated where nothing else stands in its specifier, and
where something does, only if the base stands last and the qualifiers are repeated outside.

## Main results

* `Node.SetApart.exists_text` — the words of nodes set apart by white space are those of their text.
* `Node.IsSizedSpecifier.specifiedType?_eq_stated_iff` — when a type is as it is stated.
-/

namespace FunctionCatalog

open BuiltinWords
open LinkageGuard (ascii)

/-- White space stands between two offsets, at least one character of it. -/
def Bytes.IsGap (source : Bytes) (start stop : Nat) : Prop :=
  ∃ gap, Utf8.decode (Bytes.slice source start stop) = some gap ∧ gap ≠ [] ∧
    ∀ c ∈ gap, isWhiteSpace c = true

private theorem Qualifiers.ofNodes_eq_empty {source : Bytes} {nodes : List Node}
    (hNone : ∀ node ∈ nodes, node.kind ≠ .typeQualifier) : ofNodes source nodes = ∅ := by
  rw [ofNodes]
  induction nodes with
  | nil => rfl
  | cons node rest ih =>
      obtain ⟨hNode, hRest⟩ := List.forall_mem_cons.1 hNone
      rw [List.foldl_cons]
      split
      · contradiction
      · exact ih hRest

namespace Node

variable {source : Bytes}

/-! ## Nodes set apart -/

/-- Nodes from one offset to another, with white space between each and the next. -/
inductive SetApart (source : Bytes) : Nat → Nat → List Node → Prop
  | last {node : Node} (hOrder : node.start ≤ node.stop) :
    SetApart source node.start node.stop [node]
  | next {node later : Node} {rest : List Node} {stop : Nat} (hOrder : node.start ≤ node.stop)
    (hLater : node.stop ≤ later.start) (hGap : Bytes.IsGap source node.stop later.start)
    (hRest : SetApart source later.start stop (later :: rest)) :
    SetApart source node.start stop (node :: later :: rest)

/-- The words of a node's text. -/
def textWords (source : Bytes) (node : Node) : List String :=
  ((node.text? source).map words).getD []

private theorem textWords_of_text {node : Node} {text : String}
    (hText : node.text? source = some text) :
    node.textWords source = words text := by
  rw [textWords, hText]
  rfl

private theorem textWords_eq_singleton {node : Node} {word : String}
    (hText : node.text? source = some word) (hWord : IsWord word) (hNonempty : word ≠ "") :
    node.textWords source = [word] := by
  rw [textWords_of_text hText, words_eq_singleton hWord hNonempty]

private theorem exists_text_of_mem_textWords {node : Node} {word : String}
    (hWord : word ∈ node.textWords source) :
    ∃ text, node.text? source = some text ∧ word ∈ words text := by
  rw [textWords] at hWord
  cases hText : node.text? source with
  | none =>
      rw [hText] at hWord
      exact absurd hWord List.not_mem_nil
  | some text =>
      rw [hText] at hWord
      exact ⟨text, rfl, hWord⟩

theorem SetApart.start_le_stop {start stop : Nat} {nodes : List Node}
    (hApart : SetApart source start stop nodes) : start ≤ stop := by
  induction hApart with
  | last hOrder => exact hOrder
  | next hOrder hLater _ _ ih => exact Nat.le_trans hOrder (Nat.le_trans hLater ih)

/-- The words of nodes set apart by white space are those of the text that they make up. -/
theorem SetApart.exists_text {start stop : Nat} {nodes : List Node}
    (hApart : SetApart source start stop nodes)
    (hText : ∀ node ∈ nodes, ∃ text, node.text? source = some text) :
    ∃ text, Utf8.text? (Bytes.slice source start stop) = some text ∧
      words text = nodes.flatMap (textWords source) := by
  induction hApart with
  | @last node hOrder =>
      obtain ⟨text, hNode⟩ := hText node List.mem_cons_self
      exact ⟨text, hNode, by rw [List.flatMap_singleton, textWords_of_text hNode]⟩
  | @next node later rest stop hOrder hLater hGap hRest ih =>
      obtain ⟨hNode, hText⟩ := List.forall_mem_cons.1 hText
      obtain ⟨text, hNode⟩ := hNode
      obtain ⟨back, hBack, hWords⟩ := ih hText
      obtain ⟨gap, hGapText, hNonempty, hWhite⟩ := hGap
      obtain ⟨front, hFront, rfl⟩ := Option.map_eq_some_iff.1 hNode
      obtain ⟨tail, hTail, rfl⟩ := Option.map_eq_some_iff.1 hBack
      have hStop := hRest.start_le_stop
      have hSlice : Bytes.slice source node.start stop = node.bytes source ++
          (Bytes.slice source node.stop later.start ++ Bytes.slice source later.start stop) := by
        rw [Bytes.slice_append hLater hStop, bytes,
          Bytes.slice_append hOrder (Nat.le_trans hLater hStop)]
      refine ⟨String.ofList (front ++ (gap ++ tail)), ?_, ?_⟩
      · rw [hSlice, Utf8.text?, Utf8.decode_append hFront, Utf8.decode_append hGapText, hTail]
        rfl
      · rw [words_append_gap hNonempty hWhite, hWords, ← textWords_of_text hNode]
        rfl

/-! ## Parts of a specifier -/

/-- Whether a node is the name of a type. -/
def isTypeName (node : Node) : Bool :=
  node.kind == .primitiveType || node.kind == .name .type

/-- Whether a part of a specifier says which type it is. -/
def saysType (part : Node) : Bool :=
  part.kind != .typeQualifier && part.kind != .comment

/-- What may stand in a specifier of several words. -/
inductive IsSpecifierPart (source : Bytes) (part : Node) : Prop
  | keyword {word : String} (hWord : word ∈ ["unsigned", "signed", "short", "long"])
    (hKind : part.kind = .other word) (hText : part.text? source = some word)
  | base {word : String} (hKind : part.isTypeName = true) (hText : part.text? source = some word)
    (hWord : IsWord word)
  | qualifier {word : String} (hKind : part.kind = .typeQualifier)
    (hText : part.text? source = some word) (hBase : IsBase word)
  | comment {text : String} (hKind : part.kind = .comment) (hText : part.text? source = some text)

/-- A specifier of keywords and at most one name of a type, with qualifiers and comments. -/
structure IsSizedSpecifier (source : Bytes) (spec : Node) : Prop where
  kind_eq : spec.kind = .sizedTypeSpecifier
  parts : ∀ part ∈ spec.children, part.IsSpecifierPart source
  length_typeNames : (spec.children.filter isTypeName).length ≤ 1

/-- The words of the parts that say which type it is. -/
def saidWords (source : Bytes) (parts : List Node) : List String :=
  (parts.filter saysType).flatMap (textWords source)

theorem IsSpecifierPart.exists_text {part : Node} (hPart : part.IsSpecifierPart source) :
    ∃ text, part.text? source = some text := by
  cases hPart with
  | keyword _ _ hText | base _ hText _ | qualifier _ hText _ | comment _ hText => exact ⟨_, hText⟩

/-- Only a name of a type adds a base, and it adds one at most. -/
theorem IsSpecifierPart.length_bases {part : Node} (hPart : part.IsSpecifierPart source)
    (hSays : part.saysType = true) :
    (bases (part.textWords source)).length ≤ if part.isTypeName then 1 else 0 := by
  cases hPart with
  | @keyword word hWord hKind hText =>
      have hNone : ∀ word ∈ ["unsigned", "signed", "short", "long"],
          bases (words word) = [] := by decide
      rw [textWords_of_text hText, hNone word hWord]
      exact Nat.zero_le _
  | @base word hKind hText hWord =>
      have hLength : (words word).length ≤ 1 := by
        by_cases hEmpty : word = ""
        · rw [hEmpty]
          decide
        · rw [words_eq_singleton hWord hEmpty]
          rfl
      rw [textWords_of_text hText, if_pos hKind]
      refine Nat.le_trans (List.length_filterMap_le _ _) ?_
      rwa [meanings, List.length_map]
  | qualifier hKind _ _ | comment hKind _ => simp [saysType, hKind] at hSays

private theorem length_bases_saidWords {parts : List Node}
    (hParts : ∀ part ∈ parts, part.IsSpecifierPart source) :
    (bases (saidWords source parts)).length ≤ (parts.filter isTypeName).length := by
  induction parts with
  | nil => exact Nat.le_refl 0
  | cons part rest ih =>
      obtain ⟨hPart, hRest⟩ := List.forall_mem_cons.1 hParts
      have hRest := ih hRest
      have hCount : ((part :: rest).filter isTypeName).length =
          (if part.isTypeName then 1 else 0) + (rest.filter isTypeName).length := by
        cases hName : part.isTypeName <;> simp [hName, Nat.add_comm]
      rw [hCount]
      cases hSays : part.saysType with
      | false =>
          rw [saidWords, List.filter_cons, hSays]
          exact Nat.le_trans hRest (Nat.le_add_left _ _)
      | true =>
          rw [saidWords, List.filter_cons, hSays, if_pos rfl, List.flatMap_cons, bases_append,
            List.length_append]
          exact Nat.add_le_add (hPart.length_bases hSays) hRest

/-- Words that are no keywords make no difference to the keywords. -/
theorem keywords_saidWords {parts : List Node}
    (hOthers : ∀ part ∈ parts, part.saysType = false →
      ∀ word ∈ part.textWords source, IsBase word) :
    keywords (saidWords source parts) = keywords (parts.flatMap (textWords source)) := by
  induction parts with
  | nil => rfl
  | cons part rest ih =>
      obtain ⟨hPart, hRest⟩ := List.forall_mem_cons.1 hOthers
      rw [List.flatMap_cons, keywords_append, ← ih hRest, saidWords, List.filter_cons]
      cases hSays : part.saysType with
      | true =>
          rw [if_pos rfl, List.flatMap_cons, keywords_append]
          rfl
      | false =>
          rw [keywords_eq_nil (hPart hSays)]
          rfl

private theorem IsSpecifierPart.textWords_isBase {part : Node} (hPart : part.IsSpecifierPart source)
    (hComment : part.kind = .comment → ∀ word ∈ part.textWords source, IsBase word)
    (hSays : part.saysType = false) : ∀ word ∈ part.textWords source, IsBase word := by
  cases hPart with
  | keyword _ hKind _ => simp [saysType, hKind] at hSays
  | base hKind _ _ =>
      simp only [isTypeName, Bool.or_eq_true, beq_iff_eq] at hKind
      rcases hKind with hKind | hKind <;> simp [saysType, hKind] at hSays
  | qualifier hKind hText hBase =>
      rw [textWords_eq_singleton hText hBase.isWord hBase.ne_empty]
      exact List.forall_mem_singleton.mpr hBase
  | comment hKind hText => exact hComment hKind

private theorem isBase_of_base?_textWords {parts : List Node} :
    ∀ base ∈ (ofWords (parts.flatMap (textWords source))).base?, IsBase base := by
  refine isBase_of_base?_ofWords ?_ ?_
  all_goals
    intro word hWord
    obtain ⟨part, -, hMem⟩ := List.mem_flatMap.mp hWord
    obtain ⟨text, -, hMem⟩ := exists_text_of_mem_textWords hMem
  · exact isWord_of_mem_words word hMem
  · exact ne_empty_of_mem_words word hMem

/-! ## The type -/

/-- The name is made of the whole text, and the qualifiers are those beside the specifier. -/
theorem specifiedType?_of_sized {naming : Naming} {owner spec : Node}
    (hOwner : owner.child? .type = some spec) (hKind : spec.kind = .sizedTypeSpecifier) :
    owner.specifiedType? source naming = (spec.text? source).map fun text =>
      .named (ofWords (words text)).name (Qualifiers.ofNodes source owner.children) := by
  rw [specifiedType?, hOwner]
  cases hText : spec.text? source with
  | none => simp [Specifier.ofNode?, hText]
  | some text =>
      simp [Specifier.ofNode?, hText, hKind, Specifier.type, CType.ofName, CType.qualified,
        canonicalBuiltin]

namespace IsSizedSpecifier

variable {naming : Naming} {owner spec : Node}

/-- A type is read that has the qualifiers outside and the name of all words. -/
theorem specifiedType?_eq_some_iff (hSpec : spec.IsSizedSpecifier source)
    (hOwner : owner.child? .type = some spec) {text : String}
    (hText : spec.text? source = some text) (name : String) (quals : Qualifiers) :
    owner.specifiedType? source naming = some (.named name quals) ↔
      quals = Qualifiers.ofNodes source owner.children ∧ (ofWords (words text)).name = name := by
  rw [specifiedType?_of_sized hOwner hSpec.kind_eq, hText, Option.map_some, Option.some.injEq,
    CType.named.injEq, and_comm, eq_comm]

/-- A word that is taken for the base is found in the name. -/
theorem base?_eq_of_name_eq (text : String) {parts : List Node}
    (hSame : (ofWords (words text)).name = (ofWords (saidWords source parts)).name) :
    (ofWords (words text)).base? = (ofWords (saidWords source parts)).base? :=
  BuiltinWords.base?_eq_of_name_eq
    (isBase_of_base?_ofWords isWord_of_mem_words ne_empty_of_mem_words) isBase_of_base?_textWords
    hSame

/-- Without keywords in comments, only the base can be another one. -/
theorem ofWords_eq_saidWords (hSpec : spec.IsSizedSpecifier source)
    (hComments : ∀ part ∈ spec.children, part.kind = .comment →
      ∀ word ∈ part.textWords source, IsBase word)
    {list : List String} (hWords : list = spec.children.flatMap (textWords source))
    (hBase : (ofWords list).base? = (ofWords (saidWords source spec.children)).base?) :
    ofWords list = ofWords (saidWords source spec.children) := by
  have hKeywords := keywords_saidWords fun part hPart =>
    (hSpec.parts part hPart).textWords_isBase (hComments part hPart)
  rw [← hWords] at hKeywords
  refine ofWords_congr (.of_eq hKeywords.symm) ?_
  rw [← base?_ofWords, hBase, base?_ofWords]

end IsSizedSpecifier

private theorem ofNodes_eq_empty_of_saysType {parts : List Node}
    (hAll : ∀ part ∈ parts, part.saysType = true) : Qualifiers.ofNodes source parts = ∅ :=
  Qualifiers.ofNodes_eq_empty fun part hPart hKind => by
    simpa [saysType, hKind] using hAll part hPart

private theorem saidWords_of_saysType {parts : List Node}
    (hAll : ∀ part ∈ parts, part.saysType = true) :
    saidWords source parts = parts.flatMap (textWords source) := by
  rw [saidWords, List.filter_eq_self.mpr hAll]

/-- **Specifiers of several words.** The type has the qualifiers `outside` the specifier, and a name
made of all words of its text. It is the type that the keywords and the base state, with all
qualifiers, just when the qualifiers `inside` are repeated and the name is the stated one. -/
theorem IsSizedSpecifier.specifiedType?_eq_stated_iff {naming : Naming} {owner spec : Node}
    (hOwner : owner.child? .type = some spec) (hSpec : spec.IsSizedSpecifier source) :
    let outside := Qualifiers.ofNodes source owner.children
    let inside := Qualifiers.ofNodes source spec.children
    let said := ofWords (saidWords source spec.children)
    let stated := CType.named said.name (outside.merge inside)
    (owner.specifiedType? source naming = (spec.text? source).map fun text =>
      .named (ofWords (words text)).name outside) ∧
    (∀ text, spec.text? source = some text →
      (owner.specifiedType? source naming = some stated ↔
        outside.merge inside = outside ∧ (ofWords (words text)).name = said.name) ∧
      -- With a word of a qualifier or comment for the base, the name is another one.
      ((ofWords (words text)).name = said.name → (ofWords (words text)).base? = said.base?)) ∧
    (SetApart source spec.start spec.stop spec.children →
      ∃ text, spec.text? source = some text ∧
        words text = spec.children.flatMap (textWords source) ∧
        -- Comments without keywords do no more harm than that.
        ((∀ part ∈ spec.children, part.kind = .comment →
            ∀ word ∈ part.textWords source, IsBase word) →
          ((ofWords (words text)).name = said.name ↔
            (ofWords (words text)).base? = said.base?)) ∧
        -- Where nothing but keywords and the base stands inside, the type is as it is stated.
        ((∀ part ∈ spec.children, part.saysType = true) →
          owner.specifiedType? source naming = some stated)) ∧
    -- The stated name depends on the keywords and the base alone, in any order.
    ∀ list, (significant (saidWords source spec.children)).Perm (significant list) →
      said.name = (ofWords list).name := by
  intro outside inside said stated
  have hIff (text : String) (hText : spec.text? source = some text) :
      owner.specifiedType? source naming = some stated ↔
        outside.merge inside = outside ∧ (ofWords (words text)).name = said.name :=
    hSpec.specifiedType?_eq_some_iff hOwner hText said.name (outside.merge inside)
  refine ⟨specifiedType?_of_sized hOwner hSpec.kind_eq,
    fun text hText => ⟨hIff text hText, base?_eq_of_name_eq text⟩, fun hApart => ?_,
    fun list hPerm => name_ofWords_of_perm hPerm
      (Nat.le_trans (length_bases_saidWords hSpec.parts) hSpec.length_typeNames)⟩
  obtain ⟨text, hText, hWords⟩ := hApart.exists_text fun part hPart =>
    (hSpec.parts part hPart).exists_text
  refine ⟨text, hText, hWords, fun hComments => ⟨base?_eq_of_name_eq text, fun hBase => ?_⟩,
    fun hAll => (hIff text hText).mpr ?_⟩
  · rw [hSpec.ofWords_eq_saidWords hComments hWords hBase]
  · have hInside : inside = ∅ := ofNodes_eq_empty_of_saysType hAll
    rw [hInside, Qualifiers.merge_empty, hWords, ← saidWords_of_saysType hAll]
    exact ⟨rfl, rfl⟩

/-- In `const unsigned const char`, the base stands last and the qualifier is repeated outside. -/
theorem IsSizedSpecifier.specifiedType?_const_unsigned_const_char :
    let source := ascii "const unsigned const char c"
    let naming : Naming := { lang := .c, aliases := {} }
    let keyword := spanning (.other "unsigned") 6 14 none []
    let qualifier := spanning .typeQualifier 15 20 none []
    let base := spanning .primitiveType 21 25 (some .type) []
    let spec := spanning .sizedTypeSpecifier 6 25 (some .type) [keyword, qualifier, base]
    let owner := spanning .parameterDeclaration 0 27 none
      [spanning .typeQualifier 0 5 none [], spec,
        spanning (.name .identifier) 26 27 (some .declarator) []]
    spec.IsSizedSpecifier source ∧ SetApart source spec.start spec.stop spec.children ∧
      owner.specifiedType? source naming = some (.named "unsigned char" { isConst := true }) ∧
      (ofWords ["int", "char", "unsigned"]).name = "unsigned char" := by
  intro source naming keyword qualifier base spec owner
  have hKeyword : keyword.IsSpecifierPart source := .keyword List.mem_cons_self rfl rfl
  have hQualifier : qualifier.IsSpecifierPart source :=
    .qualifier rfl rfl ⟨by decide, by decide, rfl⟩
  have hTypeName : base.IsSpecifierPart source :=
    @IsSpecifierPart.base source base "char" rfl rfl (by decide)
  have hSpec : spec.IsSizedSpecifier source :=
    ⟨rfl, List.forall_mem_cons.mpr ⟨hKeyword,
      List.forall_mem_cons.mpr ⟨hQualifier, List.forall_mem_singleton.mpr hTypeName⟩⟩, by decide⟩
  have hGap (start : Nat)
      (hBlank : Utf8.decode (Bytes.slice source start (start + 1)) = some [' ']) :
      Bytes.IsGap source start (start + 1) :=
    ⟨[' '], hBlank, List.cons_ne_nil _ _, List.forall_mem_singleton.mpr (by decide)⟩
  have hBase : SetApart source base.start base.stop [base] := .last (by decide)
  have hRest : SetApart source qualifier.start base.stop [qualifier, base] :=
    .next (by decide) (by decide) (hGap 20 rfl) hBase
  have hApart : SetApart source keyword.start base.stop [keyword, qualifier, base] :=
    .next (by decide) (by decide) (hGap 14 rfl) hRest
  have hUnsigned : keyword.textWords source = ["unsigned"] :=
    textWords_eq_singleton rfl (by decide) (by decide)
  have hConst : qualifier.textWords source = ["const"] :=
    textWords_eq_singleton rfl (by decide) (by decide)
  have hChar : base.textWords source = ["char"] :=
    textWords_eq_singleton rfl (by decide) (by decide)
  have hAll : spec.children.flatMap (textWords source) = ["unsigned", "const", "char"] := by
    show [keyword, qualifier, base].flatMap (textWords source) = _
    simp only [List.flatMap_cons, List.flatMap_nil, hUnsigned, hConst, hChar]
    rfl
  have hSaid : saidWords source spec.children = ["unsigned", "char"] := by
    show [keyword, base].flatMap (textWords source) = _
    simp only [List.flatMap_cons, List.flatMap_nil, hUnsigned, hChar]
    rfl
  have hOwner : owner.child? .type = some spec := rfl
  obtain ⟨-, hStated, hSetApart, hOrder⟩ :=
    @IsSizedSpecifier.specifiedType?_eq_stated_iff source naming owner spec hOwner hSpec
  obtain ⟨text, hText, hTextWords, hName, -⟩ := hSetApart hApart
  have hNoComment : ∀ part ∈ spec.children, part.kind ≠ .comment := by decide
  have hSame := (hName fun part hPart hKind => absurd hKind (hNoComment part hPart)).mpr
    (by rw [hTextWords, hAll, hSaid]; rfl)
  have hType := (hStated text hText).1.mpr ⟨rfl, hSame⟩
  have hPerm := hOrder ["int", "char", "unsigned"] (by rw [hSaid]; decide)
  rw [hSaid] at hType hPerm
  exact ⟨hSpec, hApart, hType, hPerm.symm⟩

/-- The declarations `unsigned const int`, `const unsigned int` and `unsigned /* x */ int const` are
all of the type `const unsigned int`, and get three names. -/
theorem sized_specifiers_misread :
    let naming : Naming := { lang := .c, aliases := {} }
    let owner (stop : Nat) (children : List Node) :=
      spanning .parameterDeclaration 0 stop none children
    let keyword (start stop : Nat) := spanning (.other "unsigned") start stop none []
    let qualifier (start stop : Nat) := spanning .typeQualifier start stop none []
    let base (start stop : Nat) := spanning .primitiveType start stop (some .type) []
    let spec (start stop : Nat) (parts : List Node) :=
      spanning .sizedTypeSpecifier start stop (some .type) parts
    (owner 18 [spec 0 18 [keyword 0 8, qualifier 9 14, base 15 18]]).specifiedType?
        (ascii "unsigned const int") naming = some (.named "unsigned const" ∅) ∧
      (owner 18 [qualifier 0 5, spec 6 18 [keyword 6 14, base 15 18]]).specifiedType?
        (ascii "const unsigned int") naming = some (.named "unsigned int" { isConst := true }) ∧
      (owner 26 [spec 0 20 [keyword 0 8, spanning .comment 9 16 none [], base 17 20],
        qualifier 21 26]).specifiedType? (ascii "unsigned /* x */ int const") naming =
        some (.named "unsigned */" { isConst := true }) := by
  intro naming owner keyword qualifier base spec
  exact ⟨rfl, rfl, rfl⟩

end Node

end FunctionCatalog
