import FunctionCatalog.Proofs.Declaration.Alike
import FunctionCatalog.Proofs.Tree.Layout

/-!
# Sources that agree

A node shows the bytes in its range, and everything below it lies in the same range. So one tree is
read alike over two sources where they agree, but for the bodies of classes and functions, of which
nothing is read.

## Main results

* `Node.AlikeInOrder.of_children` — nodes with the same texts in the same places are alike.
* `Node.alikeInOrder_of_agreeBetween`, `Node.allAlikeInOrder_of_agreeBetween` — where two sources
  agree, one tree is read alike over both.
* `Node.Within.alikeInOrder` — so is a node after more bytes have been put behind the source.
-/

namespace FunctionCatalog

/-- Whether a node is the body of a class or of a function. -/
def Node.isBody (node : Node) : Bool :=
  node.field? == some .body &&
    match node.kind with
    | .other _ => true
    | _ => false

namespace Bytes

/-- Whether two sources have the same bytes from `start` to just before `stop`. -/
def AgreeBetween (source source' : Bytes) (start stop : Nat) : Prop :=
  ∀ offset : Nat, start ≤ offset → offset < stop → source[offset]? = source'[offset]?

variable {source source' : Bytes} {start stop : Nat}

theorem AgreeBetween.mono (h : AgreeBetween source source' start stop) {start' stop' : Nat}
    (hStart : start ≤ start') (hStop : stop' ≤ stop) : AgreeBetween source source' start' stop' :=
  fun offset hFrom hTo => h offset (Nat.le_trans hStart hFrom) (Nat.lt_of_lt_of_le hTo hStop)

theorem getElem?_slice (source : Bytes) (start stop index : Nat) :
    (Bytes.slice source start stop)[index]? =
      if index < stop - start then source[start + index]? else none := by
  rw [slice, List.getElem?_take, List.getElem?_drop]

theorem AgreeBetween.slice_eq (h : AgreeBetween source source' start stop) :
    Bytes.slice source start stop = Bytes.slice source' start stop := by
  refine List.ext_getElem? fun index => ?_
  rw [getElem?_slice, getElem?_slice]
  split
  · exact h _ (by omega) (by omega)
  · rfl

end Bytes

namespace Node

variable {source source' : Bytes}

/-! ## The same texts in the same places -/

private theorem isBody_of_field {node : Node} {field : Field} (hField : node.field? = some field)
    (hNot : field ≠ .body) : node.isBody = false := by
  simp [isBody, hField, hNot]

private theorem isBody_of_kind {node : Node} (hKind : ∀ name, node.kind ≠ .other name) :
    node.isBody = false := by
  unfold isBody
  cases h : node.kind <;> simp_all

theorem exists_kind_of_isBody {node : Node} (hBody : node.isBody) :
    ∃ name, node.kind = .other name := by
  rw [isBody, Bool.and_eq_true] at hBody
  cases hKind : node.kind with
  | other name => exact ⟨name, rfl⟩
  | _ => rw [hKind] at hBody; exact absurd hBody.2 Bool.false_ne_true

/-- Alike nodes with the same text and specifier, unless they are bodies. -/
structure AlikeInOrder (source source' : Bytes) (node node' : Node) : Prop where
  alike : Alike source source' node node'
  text?_eq : node.isBody = false → node.text? source = node'.text? source'
  specifier?_eq : node.isBody = false →
    Specifier.ofNode? source node = Specifier.ofNode? source' node'

namespace AlikeInOrder

variable {node node' : Node}

/-- Nothing is read of bodies. -/
theorem body (hKind : node.kind = node'.kind) (hNamed : node.isNamed = node'.isNamed)
    (hField : node.field? = node'.field?) (hBody : node.isBody) :
    AlikeInOrder source source' node node' := by
  obtain ⟨name, hOther⟩ := exists_kind_of_isBody hBody
  have hBodyField : node.field? = some .body := eq_of_beq (Bool.and_eq_true _ _ ▸ hBody).1
  have hUnread : node.isUnread := by simp [isUnread, hOther, hBodyField]
  have hUnread' : node'.isUnread := by simp [isUnread, ← hKind, ← hField, hOther, hBodyField]
  have hTag : node.isUnnamedTag = node'.isUnnamedTag := by
    rw [isUnnamedTag, isUnnamedTag, ← hKind, hOther]
  exact ⟨.unread hKind hNamed hField hTag hUnread hUnread',
    fun hNot => absurd (hNot.symm.trans hBody) Bool.false_ne_true,
    fun hNot => absurd (hNot.symm.trans hBody) Bool.false_ne_true⟩

theorem childrenWith (hChildren : List.Forall₂ (AlikeInOrder source source') node.children
    node'.children) (field : Field) :
    List.Forall₂ (AlikeInOrder source source') (node.childrenWith field)
      (node'.childrenWith field) :=
  List.rel_filter (fun _ _ hChild => by beta_reduce; rw [hChild.alike.field?_eq]) hChildren

private theorem text?_child?_eq
    (hChildren : List.Forall₂ (AlikeInOrder source source') node.children node'.children)
    (field : Field) (hNot : field ≠ .body) :
    (node.child? field).bind (·.text? source) = (node'.child? field).bind (·.text? source') :=
  child?_bind_eq (childrenWith hChildren field) fun _ _ hField hChild =>
    hChild.text?_eq (isBody_of_field hField hNot)

private theorem qualifierTexts_eq {nodes nodes' : List Node}
    (h : List.Forall₂ (AlikeInOrder source source') nodes nodes') :
    qualifierTexts source nodes = qualifierTexts source' nodes' := by
  induction h with
  | nil => rfl
  | @cons node node' _ _ hNode _ ih =>
      rw [qualifierTexts, qualifierTexts, List.filter_cons, List.filter_cons,
        ← hNode.alike.kind_eq]
      by_cases hKind : node.kind = .typeQualifier
      · have hText := hNode.text?_eq (isBody_of_kind fun _ => by simp [hKind])
        rw [hKind, beq_self_eq_true, if_pos rfl, if_pos rfl, List.map_cons, List.map_cons, hText]
        exact congrArg _ ih
      · rw [beq_eq_false_iff_ne.2 hKind]
        exact ih

private theorem spelled_eq (hKind : node.kind = node'.kind) (hField : node.field? = node'.field?)
    (hText : ∀ kind, node.kind = .name kind → node.text? source = node'.text? source')
    (hChildren : List.Forall₂ (AlikeInOrder source source') node.children node'.children) :
    node.spelled source = node'.spelled source' := by
  have hName := text?_child?_eq hChildren .name nofun
  have hSize : arraySize? source node.children = arraySize? source' node'.children :=
    congrArg (Option.map normalizeSpelling) (text?_child?_eq hChildren .size nofun)
  have hType : (node.child? .type).bind (Specifier.ofNode? source) =
      (node'.child? .type).bind (Specifier.ofNode? source') :=
    child?_bind_eq (childrenWith hChildren .type) fun _ _ hField hChild =>
      hChild.specifier?_eq (isBody_of_field hField nofun)
  rw [spelled, spelled, ← hKind, ← hField, hName, hSize, hType]
  cases h : node.kind with
  | name kind => rw [hText kind h]
  | _ => rfl

private theorem allAlike {nodes nodes' : List Node}
    (h : List.Forall₂ (AlikeInOrder source source') nodes nodes') :
    AllAlike source source' nodes nodes' := by
  induction h with
  | nil => exact .nil
  | cons hNode _ ih => exact .cons hNode.alike ih

/-- Nodes are alike if their children are, unless they are names. -/
theorem alike_of_children (hKind : node.kind = node'.kind) (hNamed : node.isNamed = node'.isNamed)
    (hError : node.kind.declares → node.hasError = node'.hasError)
    (hField : node.field? = node'.field?)
    (hText : ∀ kind, node.kind = .name kind → node.text? source = node'.text? source')
    (hChildren : List.Forall₂ (AlikeInOrder source source') node.children node'.children) :
    Alike source source' node node' := by
  have hSpelled := spelled_eq hKind hField hText hChildren
  have hTexts := qualifierTexts_eq hChildren
  exact .intro hKind hNamed hError hField hSpelled (fun _ => by rw [hTexts]) (allAlike hChildren)

/-- Nodes with the same texts in the same places are alike. -/
theorem of_children (hKind : node.kind = node'.kind) (hNamed : node.isNamed = node'.isNamed)
    (hError : node.hasError = node'.hasError) (hField : node.field? = node'.field?)
    (hText : node.text? source = node'.text? source')
    (hChildren : List.Forall₂ (AlikeInOrder source source') node.children node'.children) :
    AlikeInOrder source source' node node' where
  alike := alike_of_children hKind hNamed (fun _ => hError) hField (fun _ _ => hText) hChildren
  text?_eq _ := hText
  specifier?_eq _ := by
    rw [Specifier.ofNode?, Specifier.ofNode?, hText, hKind,
      text?_child?_eq hChildren .name nofun]

end AlikeInOrder

/-! ## Sources with the same bytes in a range -/

mutual

theorem alikeInOrder_of_agreeBetween : ∀ {low high : Nat} {node : Node}, node.LiesIn low high →
    Bytes.AgreeBetween source source' node.start node.stop →
      AlikeInOrder source source' node node
  | low, high, ⟨kind, start, stop, isNamed, hasError, field?, children⟩, hNode, hAgree => by
      have hText : Node.text? source ⟨kind, start, stop, isNamed, hasError, field?, children⟩ =
          Node.text? source' ⟨kind, start, stop, isNamed, hasError, field?, children⟩ := by
        rw [text?, text?, Node.bytes, Node.bytes, hAgree.slice_eq]
      refine .of_children rfl rfl rfl rfl hText
        (allAlikeInOrder_of_agreeBetween hNode.children ?_)
      intro child hChild _
      have hInside := hNode.children.mem hChild
      exact hAgree.mono hInside.low_le_start hInside.stop_le_high

/-- Nodes are read alike over two sources that agree on all of them but bodies. -/
theorem allAlikeInOrder_of_agreeBetween : ∀ {low high : Nat} {nodes : List Node},
    LieInOrder low high nodes →
    (∀ node ∈ nodes, node.isBody = false → Bytes.AgreeBetween source source' node.start node.stop) →
      List.Forall₂ (AlikeInOrder source source') nodes nodes
  | _, _, [], _, _ => .nil
  | _, _, node :: rest, ⟨hNode, hRest⟩, hAgree => by
      obtain ⟨hFirst, hOthers⟩ := List.forall_mem_cons.1 hAgree
      refine .cons ?_ (allAlikeInOrder_of_agreeBetween hRest hOthers)
      cases hBody : node.isBody with
      | true => exact .body rfl rfl rfl hBody
      | false => exact alikeInOrder_of_agreeBetween hNode (hFirst hBody)

end

/-! ## Sources with more behind -/

mutual

/-- A node, with all that is below it, ends inside the given number of bytes. -/
def Within (size : Nat) : Node → Prop
  | ⟨_, start, stop, _, _, _, children⟩ =>
    start ≤ size ∧ stop ≤ size ∧ AllWithin size children

/-- Nodes, with all that is below them, end inside the given number of bytes. -/
def AllWithin (size : Nat) : List Node → Prop
  | [] => True
  | node :: rest => node.Within size ∧ AllWithin size rest

end

theorem Within.start_le {size : Nat} : ∀ {node : Node}, node.Within size → node.start ≤ size
  | ⟨_, _, _, _, _, _, _⟩, h => h.1

theorem Within.stop_le {size : Nat} : ∀ {node : Node}, node.Within size → node.stop ≤ size
  | ⟨_, _, _, _, _, _, _⟩, h => h.2.1

theorem Within.children {size : Nat} : ∀ {node : Node}, node.Within size →
    AllWithin size node.children
  | ⟨_, _, _, _, _, _, _⟩, h => h.2.2

theorem AllWithin.within {size : Nat} {node : Node} : ∀ {nodes : List Node},
    AllWithin size nodes → node ∈ nodes → node.Within size
  | [], _, hMem => absurd hMem List.not_mem_nil
  | _ :: _, ⟨hNode, hRest⟩, hMem => (List.mem_cons.1 hMem).elim (· ▸ hNode) hRest.within

theorem slice_append {start stop : Nat} (bytes more : Bytes) (hStart : start ≤ bytes.length)
    (hStop : stop ≤ bytes.length) :
    Bytes.slice (bytes ++ more) start stop = Bytes.slice bytes start stop := by
  have hLength : stop - start ≤ (bytes.drop start).length := by
    rw [List.length_drop]
    omega
  rw [Bytes.slice, Bytes.slice, List.drop_append_of_le_length hStart,
    List.take_append_of_le_length hLength]

mutual

/-- A node shows the same after more bytes have been put behind the source. -/
theorem Within.alikeInOrder (more : Bytes) : ∀ {node : Node}, node.Within source.length →
    AlikeInOrder source (source ++ more) node node
  | ⟨_, _, _, _, _, _, _⟩, ⟨hStart, hStop, hChildren⟩ => by
      have hBytes := slice_append source more hStart hStop
      refine .of_children rfl rfl rfl rfl ?_ (AllWithin.alikeInOrder more hChildren)
      rw [text?, text?, Node.bytes, Node.bytes, hBytes]

theorem AllWithin.alikeInOrder (more : Bytes) : ∀ {nodes : List Node},
    AllWithin source.length nodes →
      List.Forall₂ (AlikeInOrder source (source ++ more)) nodes nodes
  | [], _ => .nil
  | _ :: _, ⟨hNode, hRest⟩ =>
    .cons (hNode.alikeInOrder more) (AllWithin.alikeInOrder more hRest)

end

end Node

end FunctionCatalog
