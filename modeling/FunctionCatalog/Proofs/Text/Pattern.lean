import FunctionCatalog.Proofs.Text.Ascii
import FunctionCatalog.Text.Pattern
import Mathlib.Data.List.Basic

/-!
# Patterns as languages

A pattern describes texts, whatever is tried out behind them. The search for a pattern tries all
texts at the start of a source that the pattern describes: it has a result where there is one behind
any of them, and a result comes from behind one of them.

## Main results

* `Pattern.run_eq_none_iff` — the search misses nothing.
* `Pattern.exists_of_run` — the search makes nothing up.
-/

namespace FunctionCatalog

/-! ## Reading on from a position -/

namespace Utf8

/-- Only nothing is read as nothing. -/
theorem decodeFrom_eq_some_nil {position : Position} {bytes : Bytes} :
    decodeFrom position bytes = some [] ↔ position = .boundary ∧ bytes = [] := by
  induction bytes generalizing position with
  | nil => cases position <;> simp [decodeFrom]
  | cons b rest ih =>
      rw [decodeFrom]
      cases hStep : position.step? b with
      | none => simp
      | some result =>
          obtain ⟨_ | c, after⟩ := result
          · simp [ih, Position.step?_none hStep]
          · simp

/-- What may be left of a source behind characters of a certain kind that are read from a
position. -/
def LeftBehind (kind : List Char → Prop) (position : Position) (source back : Bytes) : Prop :=
  ∃ front chars, source = front ++ back ∧ decodeFrom position front = some chars ∧ kind chars

private theorem leftBehind_nil {kind : List Char → Prop} {position : Position} {back : Bytes} :
    LeftBehind kind position [] back ↔ position = .boundary ∧ back = [] ∧ kind [] := by
  constructor
  · rintro ⟨front, chars, hSource, hDecode, hKind⟩
    obtain ⟨rfl, rfl⟩ := List.append_eq_nil_iff.1 hSource.symm
    cases position <;> simp_all [decodeFrom]
  · rintro ⟨rfl, rfl, hKind⟩
    exact ⟨[], [], rfl, rfl, hKind⟩

/-- Either nothing is read, or the next byte is. -/
theorem leftBehind_cons {kind : List Char → Prop} {position : Position} {b : UInt8}
    {rest back : Bytes} :
    LeftBehind kind position (b :: rest) back ↔
      (position = .boundary ∧ back = b :: rest ∧ kind []) ∨
        match position.step? b with
        | none => False
        | some (none, after) => LeftBehind kind after rest back
        | some (some c, after) => LeftBehind (fun chars => kind (c :: chars)) after rest back := by
  constructor
  · rintro ⟨front, chars, hSource, hDecode, hKind⟩
    cases front with
    | nil => cases position <;> simp_all [decodeFrom]
    | cons b' front =>
        obtain ⟨rfl, rfl⟩ := List.cons.inj hSource
        rw [decodeFrom] at hDecode
        refine .inr ?_
        cases hStep : position.step? b with
        | none => simp [hStep] at hDecode
        | some result =>
            obtain ⟨found, after⟩ := result
            rw [hStep] at hDecode
            cases found with
            | none => exact ⟨front, chars, rfl, hDecode, hKind⟩
            | some c =>
                obtain ⟨tail, hTail, rfl⟩ := Option.map_eq_some_iff.1 hDecode
                exact ⟨front, tail, rfl, hTail, hKind⟩
  · rintro (⟨rfl, rfl, hKind⟩ | hRead)
    · exact ⟨[], [], rfl, rfl, hKind⟩
    · split at hRead
      · exact hRead.elim
      · next hStep =>
          obtain ⟨front, chars, rfl, hDecode, hKind⟩ := hRead
          exact ⟨b :: front, chars, rfl, by rw [decodeFrom, hStep]; exact hDecode, hKind⟩
      · next c after hStep =>
          obtain ⟨front, chars, rfl, hDecode, hKind⟩ := hRead
          exact ⟨b :: front, c :: chars, rfl, by simp [decodeFrom, hStep, hDecode], hKind⟩

end Utf8

namespace Pattern

/-- Whether a pattern describes a text. -/
def Describes : Pattern → Bytes → Prop
  | nothing, text => text = []
  | one accepts, text => ∃ c, Utf8.decode text = some [c] ∧ accepts c
  | many accepts, text => ∃ chars, Utf8.decode text = some chars ∧ ∀ c ∈ chars, accepts c
  | both first second, text =>
    ∃ front back, text = front ++ back ∧ first.Describes front ∧ second.Describes back
  | either first second, text => first.Describes text ∨ second.Describes text

/-! ## What is left behind a pattern -/

section Leads

variable {goal goal' : Bytes → Prop}

/-- Whether a source begins with a text that a pattern describes, and what is left has a
property. -/
def Leads (pattern : Pattern) (goal : Bytes → Prop) (source : Bytes) : Prop :=
  ∃ front back, source = front ++ back ∧ pattern.Describes front ∧ goal back

theorem describes_iff_leads {pattern : Pattern} {text : Bytes} :
    pattern.Describes text ↔ pattern.Leads (· = []) text := by
  constructor
  · exact fun h => ⟨text, [], (List.append_nil text).symm, h, rfl⟩
  · rintro ⟨front, back, rfl, hFront, rfl⟩
    rwa [List.append_nil]

theorem leads_congr {pattern : Pattern} (hGoal : ∀ back, goal back ↔ goal' back) {source : Bytes} :
    pattern.Leads goal source ↔ pattern.Leads goal' source := by
  rw [show goal = goal' from funext fun back => propext (hGoal back)]

private theorem leads_nothing : nothing.Leads goal = goal := by
  funext source
  refine propext ⟨?_, fun hGoal => ⟨[], source, rfl, rfl, hGoal⟩⟩
  rintro ⟨_, _, rfl, rfl, hGoal⟩
  exact hGoal

theorem leads_both {first second : Pattern} :
    (both first second).Leads goal = first.Leads (second.Leads goal) := by
  funext source
  refine propext ⟨?_, ?_⟩
  · rintro ⟨_, back, rfl, ⟨front, middle, rfl, hFirst, hSecond⟩, hGoal⟩
    exact ⟨front, middle ++ back, List.append_assoc .., hFirst, middle, back, rfl, hSecond, hGoal⟩
  · rintro ⟨front, _, rfl, hFirst, middle, back, rfl, hSecond, hGoal⟩
    exact ⟨front ++ middle, back, (List.append_assoc ..).symm,
      ⟨front, middle, rfl, hFirst, hSecond⟩, hGoal⟩

theorem leads_either {first second : Pattern} :
    (either first second).Leads goal =
      fun source => first.Leads goal source ∨ second.Leads goal source := by
  funext source
  simp only [Leads, Describes, or_and_right, and_or_left, exists_or]

theorem leads_or {pattern : Pattern} {source : Bytes} :
    pattern.Leads (fun back => goal back ∨ goal' back) source ↔
      pattern.Leads goal source ∨ pattern.Leads goal' source := by
  simp only [Leads, and_or_left, exists_or]

theorem leads_optional {pattern : Pattern} :
    (optional pattern).Leads goal = fun source => pattern.Leads goal source ∨ goal source := by
  rw [optional, leads_either, leads_nothing]

@[simp] theorem leads_inTurn_nil : (inTurn []).Leads goal = goal :=
  leads_nothing

@[simp] theorem leads_inTurn_cons {first : Pattern} {rest : List Pattern} :
    (inTurn (first :: rest)).Leads goal = first.Leads ((inTurn rest).Leads goal) :=
  leads_both

theorem leads_inTurn_append (first rest : List Pattern) :
    (inTurn (first ++ rest)).Leads goal = (inTurn first).Leads ((inTurn rest).Leads goal) := by
  induction first with
  | nil => rw [List.nil_append, leads_inTurn_nil]
  | cons pattern more ih => rw [List.cons_append, leads_inTurn_cons, leads_inTurn_cons, ih]

/-- Whether a text has ASCII characters only. -/
def IsAscii (text : String) : Prop :=
  text.toList.all (·.toNat < 0x80) = true

private theorem IsAscii.forall_lt {text : String} (h : IsAscii text) :
    ∀ c ∈ text.toList, c.toNat < 0x80 :=
  fun c hMem => of_decide_eq_true (List.all_eq_true.1 h c hMem)

/-- An ASCII text has a byte for each character. -/
theorem describes_word {text : String} (hAscii : IsAscii text) {bytes : Bytes} :
    (word text).Describes bytes ↔ bytes = text.toList.map fun c => UInt8.ofNat c.toNat := by
  have hChars := hAscii.forall_lt
  rw [word]
  generalize text.toList = chars at hChars ⊢
  induction chars generalizing bytes with
  | nil => exact Iff.rfl
  | cons c rest ih =>
      obtain ⟨hChar, hRest⟩ := List.forall_mem_cons.1 hChars
      have hByte : UInt8.ofNat c.toNat < 0x80 := by
        rw [UInt8.lt_iff_toNat_lt, UInt8.toNat_ofNat']
        exact Nat.lt_of_le_of_lt (Nat.mod_le ..) hChar
      constructor
      · rintro ⟨front, back, rfl, ⟨c', hDecode, hSame⟩, hBack⟩
        obtain rfl := eq_of_beq hSame
        rw [(ih hRest).1 hBack, Utf8.eq_map_of_decode hDecode (by simpa using hChar)]
        rfl
      · rintro rfl
        refine ⟨[UInt8.ofNat c.toNat], _, rfl, ⟨c, ?_, beq_self_eq_true c⟩, (ih hRest).2 rfl⟩
        have hBack : Char.ofNat (UInt8.ofNat c.toNat).toNat = c := by
          rw [UInt8.toNat_ofNat', Nat.mod_eq_of_lt (by omega), Char.ofNat_toNat]
        rw [Utf8.decode_of_ascii (by simpa using hByte), List.map_singleton, hBack]

/-- Whether a character is in none of the classes of a pattern. -/
def rejects (c : Char) : Pattern → Bool
  | nothing => true
  | one accepts | many accepts => !accepts c
  | both first second | either first second => first.rejects c && second.rejects c

/-- A byte is in no text that the pattern describes, if the pattern has no place for it. -/
theorem not_mem_of_rejects {n : Nat} (hAscii : n < 0x80) {pattern : Pattern} {text : Bytes}
    (hRejects : pattern.rejects (Char.ofNat n)) (hText : pattern.Describes text) :
    UInt8.ofNat n ∉ text := by
  induction pattern generalizing text with
  | nothing =>
      obtain rfl := hText
      exact List.not_mem_nil
  | one accepts =>
      obtain ⟨c, hDecode, hAccepts⟩ := hText
      rw [Utf8.mem_iff_of_decode hDecode hAscii, List.mem_singleton]
      rintro rfl
      simp [rejects, hAccepts] at hRejects
  | many accepts =>
      obtain ⟨chars, hDecode, hAccepts⟩ := hText
      rw [Utf8.mem_iff_of_decode hDecode hAscii]
      intro hMem
      simp [rejects, hAccepts _ hMem] at hRejects
  | both first second ihFirst ihSecond =>
      obtain ⟨hFirst, hSecond⟩ := Bool.and_eq_true_iff.1 hRejects
      obtain ⟨front, back, rfl, hFront, hBack⟩ := hText
      rw [List.mem_append]
      exact not_or.2 ⟨ihFirst hFirst hFront, ihSecond hSecond hBack⟩
  | either first second ihFirst ihSecond =>
      obtain ⟨hFirst, hSecond⟩ := Bool.and_eq_true_iff.1 hRejects
      exact hText.elim (ihFirst hFirst) (ihSecond hSecond)

end Leads

/-! ## The search -/

section Search

variable {α : Type} {next : Bytes → Option α}

/-- A result of trying all that may be left: one that is had somewhere, and none only if there is
none anywhere. -/
def Tries (left : Bytes → Prop) (next : Bytes → Option α) : Option α → Prop
  | none => ∀ back, left back → next back = none
  | some result => ∃ back, left back ∧ next back = some result

theorem Tries.congr {left left' : Bytes → Prop} {result : Option α} (h : Tries left next result)
    (hSame : ∀ back, left' back ↔ left back) : Tries left' next result := by
  rwa [show left' = left from funext fun back => propext (hSame back)]

private theorem tries_nowhere : Tries (fun _ => False) next none :=
  fun _ h => h.elim

private theorem tries_once (back : Bytes) : Tries (· = back) next (next back) := by
  cases hNext : next back with
  | none => exact fun back' hBack => hBack ▸ hNext
  | some result => exact ⟨back, rfl, hNext⟩

private theorem Tries.orElse {left left' : Bytes → Prop} {result result' : Option α}
    (h : Tries left next result) (h' : Tries left' next result') :
    Tries (fun back => left back ∨ left' back) next (result <|> result') := by
  cases result with
  | some found =>
      obtain ⟨back, hLeft, hNext⟩ := h
      exact ⟨back, .inl hLeft, hNext⟩
  | none =>
      cases result' with
      | some found =>
          obtain ⟨back, hLeft, hNext⟩ := h'
          exact ⟨back, .inr hLeft, hNext⟩
      | none => exact fun back hLeft => hLeft.elim (h back) (h' back)

/-- Trying in turn, when what is tried first goes on to what is tried next. -/
theorem Tries.bind {left : Bytes → Prop} {left' : Bytes → Bytes → Prop} {after : Bytes → Option α}
    {result : Option α} (h : Tries left after result)
    (h' : ∀ middle, Tries (left' middle) next (after middle)) :
    Tries (fun back => ∃ middle, left middle ∧ left' middle back) next result := by
  cases result with
  | none =>
      rintro back ⟨middle, hLeft, hLeft'⟩
      have hMiddle := h' middle
      rw [h middle hLeft] at hMiddle
      exact hMiddle back hLeft'
  | some found =>
      obtain ⟨middle, hLeft, hAfter⟩ := h
      have hMiddle := h' middle
      rw [hAfter] at hMiddle
      obtain ⟨back, hLeft', hNext⟩ := hMiddle
      exact ⟨back, ⟨middle, hLeft, hLeft'⟩, hNext⟩

private theorem tries_runOne (accepts : Char → Bool) (position : Utf8.Position) (source : Bytes) :
    Tries (Utf8.LeftBehind (fun chars => ∃ c, chars = [c] ∧ accepts c) position source) next
      (runOne accepts next position source) := by
  induction source generalizing position with
  | nil =>
      rw [runOne]
      exact tries_nowhere.congr fun back => by simp [Utf8.leftBehind_nil]
  | cons b rest ih =>
      rw [runOne]
      split
      · next hStep => exact tries_nowhere.congr fun back => by simp [Utf8.leftBehind_cons, hStep]
      · next inside hStep =>
          exact (ih inside).congr fun back => by simp [Utf8.leftBehind_cons, hStep]
      · next c after hStep =>
          have hLeft : ∀ back, Utf8.LeftBehind (fun chars => ∃ c, chars = [c] ∧ accepts c) position
              (b :: rest) back ↔ accepts c ∧ back = rest := by
            intro back
            obtain rfl := Utf8.Position.step?_some hStep
            rw [Utf8.leftBehind_cons, hStep]
            constructor
            · rintro (⟨-, -, c', hNil, -⟩ | ⟨front, chars, rfl, hDecode, c', hChars, hAccepts⟩)
              · exact absurd hNil (List.cons_ne_nil _ _).symm
              · obtain ⟨rfl, rfl⟩ := List.cons.inj hChars
                obtain ⟨-, rfl⟩ := Utf8.decodeFrom_eq_some_nil.1 hDecode
                exact ⟨hAccepts, rfl⟩
            · rintro ⟨hAccepts, rfl⟩
              exact .inr ⟨[], [], rfl, rfl, c, rfl, hAccepts⟩
          cases hAccepts : accepts c with
          | true => exact (tries_once rest).congr fun back => by simp [hLeft, hAccepts]
          | false => exact tries_nowhere.congr fun back => by simp [hLeft, hAccepts]

private theorem tries_runMany (accepts : Char → Bool) (position : Utf8.Position) (source : Bytes) :
    Tries (Utf8.LeftBehind (fun chars => ∀ c ∈ chars, accepts c) position source) next
      (runMany accepts next position source) := by
  induction source generalizing position with
  | nil =>
      cases position with
      | boundary => exact (tries_once []).congr fun back => by simp [Utf8.leftBehind_nil]
      | inside => exact tries_nowhere.congr fun back => by simp [Utf8.leftBehind_nil]
  | cons b rest ih =>
      have hFarther : Tries (fun back => match position.step? b with
          | none => False
          | some (none, after) =>
            Utf8.LeftBehind (fun chars => ∀ c ∈ chars, accepts c) after rest back
          | some (some c, after) =>
            Utf8.LeftBehind (fun chars => ∀ c' ∈ c :: chars, accepts c') after rest back) next
          (match position.step? b with
          | none => none
          | some (none, inside) => runMany accepts next inside rest
          | some (some c, after) =>
            if accepts c then runMany accepts next after rest else none) := by
        split
        · exact tries_nowhere
        · next after hStep => exact ih after
        · next c after hStep =>
            cases hAccepts : accepts c with
            | true => exact (ih after).congr fun back => by simp [hAccepts]
            | false => exact tries_nowhere.congr fun back => by simp [hAccepts, Utf8.LeftBehind]
      cases position with
      | boundary =>
          rw [runMany]
          exact (hFarther.orElse (tries_once (b :: rest))).congr fun back => by
            rw [Utf8.leftBehind_cons]
            simp [or_comm]
      | inside =>
          rw [runMany]
          exact hFarther.congr fun back => by
            rw [Utf8.leftBehind_cons]
            simp

/-- The search for a pattern tries all that is left behind the texts that the pattern describes. -/
theorem tries_run (pattern : Pattern) (source : Bytes) (next : Bytes → Option α) :
    Tries (fun back => ∃ front, source = front ++ back ∧ pattern.Describes front) next
      (pattern.run source next) := by
  induction pattern generalizing source next with
  | nothing =>
      exact (tries_once source).congr fun back => by
        simp only [Describes]
        exact ⟨fun ⟨front, hSource, hFront⟩ => by simp [hSource, hFront],
          fun hBack => ⟨[], by simp [hBack]⟩⟩
  | one accepts =>
      exact (tries_runOne accepts .boundary source).congr fun back =>
        ⟨fun ⟨front, hSource, c, hDecode, hAccepts⟩ =>
            ⟨front, [c], hSource, hDecode, c, rfl, hAccepts⟩,
          fun ⟨front, _, hSource, hDecode, c, hChars, hAccepts⟩ =>
            ⟨front, hSource, c, hChars ▸ hDecode, hAccepts⟩⟩
  | many accepts =>
      exact (tries_runMany accepts .boundary source).congr fun back =>
        ⟨fun ⟨front, hSource, chars, hDecode, hAccepts⟩ =>
            ⟨front, chars, hSource, hDecode, hAccepts⟩,
          fun ⟨front, chars, hSource, hDecode, hAccepts⟩ =>
            ⟨front, hSource, chars, hDecode, hAccepts⟩⟩
  | both first second ihFirst ihSecond =>
      refine ((ihFirst source _).bind fun middle => ihSecond middle next).congr fun back => ?_
      constructor
      · rintro ⟨_, rfl, front, middle, rfl, hFirst, hSecond⟩
        exact ⟨middle ++ back, ⟨front, List.append_assoc .., hFirst⟩, middle, rfl, hSecond⟩
      · rintro ⟨_, ⟨front, rfl, hFirst⟩, middle, rfl, hSecond⟩
        exact ⟨front ++ middle, (List.append_assoc ..).symm, front, middle, rfl, hFirst, hSecond⟩
  | either first second ihFirst ihSecond =>
      refine ((ihFirst source next).orElse (ihSecond source next)).congr fun back => ?_
      simp only [Describes, and_or_left, exists_or]

/-- The search misses nothing. -/
theorem run_eq_none_iff {pattern : Pattern} {source : Bytes} :
    pattern.run source next = none ↔
      ∀ front back, source = front ++ back → pattern.Describes front → next back = none := by
  have hTries := tries_run pattern source next
  constructor
  · intro hNone front back hSource hFront
    rw [hNone] at hTries
    exact hTries back ⟨front, hSource, hFront⟩
  · intro hNowhere
    cases hRun : pattern.run source next with
    | none => rfl
    | some result =>
        rw [hRun] at hTries
        obtain ⟨back, ⟨front, hSource, hFront⟩, hNext⟩ := hTries
        exact absurd ((hNowhere front back hSource hFront).symm.trans hNext) (by simp)

/-- The search makes nothing up. -/
theorem exists_of_run {pattern : Pattern} {source : Bytes} {result : α}
    (h : pattern.run source next = some result) :
    ∃ front back, source = front ++ back ∧ pattern.Describes front ∧ next back = some result := by
  have hTries := tries_run pattern source next
  rw [h] at hTries
  obtain ⟨back, ⟨front, hSource, hFront⟩, hNext⟩ := hTries
  exact ⟨front, back, hSource, hFront, hNext⟩

end Search

end Pattern

end FunctionCatalog
