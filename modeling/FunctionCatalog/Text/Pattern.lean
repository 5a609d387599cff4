import FunctionCatalog.Text.Utf8

/-!
# Patterns

What a part of a source looks like is said by a pattern, which is made of classes of characters.
`Pattern.run` finds a pattern at the start of a source and tries out what is left behind it. Where
there are several ways to go on, they are tried in order until one leads to a result: an earlier
alternative before a later one, and more repetitions before fewer.

Characters are read as UTF-8. A byte that is no part of a text belongs to no class.
-/

namespace FunctionCatalog

/-- What a part of a source looks like. -/
inductive Pattern where
  /-- Nothing. -/
  | nothing
  /-- One character of a class. -/
  | one (accepts : Char → Bool)
  /-- Any number of characters of a class. -/
  | many (accepts : Char → Bool)
  /-- One pattern, and another behind it. -/
  | both (first second : Pattern)
  /-- One pattern, or else another. -/
  | either (first second : Pattern)

namespace Pattern

/-- A pattern that may be missing. -/
def optional (pattern : Pattern) : Pattern :=
  .either pattern .nothing

/-- Patterns one behind the other. -/
def inTurn (patterns : List Pattern) : Pattern :=
  patterns.foldr .both .nothing

/-- The characters of a text. -/
def word (text : String) : Pattern :=
  inTurn (text.toList.map fun c => .one (· == c))

section Run

variable {α : Type} (accepts : Char → Bool) (next : Bytes → Option α)

/-- Tries what is left behind the character that is read from a position. -/
def runOne : Utf8.Position → Bytes → Option α
  | _, [] => none
  | position, b :: rest =>
    match position.step? b with
    | none => none
    | some (none, inside) => runOne inside rest
    | some (some c, _) => if accepts c then next rest else none

/-- Tries what is left behind the characters that are read from a position, the farthest place
first. -/
def runMany : Utf8.Position → Bytes → Option α
  | .boundary, [] => next []
  | .inside .., [] => none
  | position, b :: rest =>
    let farther :=
      match position.step? b with
      | none => none
      | some (none, inside) => runMany inside rest
      | some (some c, after) => if accepts c then runMany after rest else none
    match position with
    | .boundary => farther <|> next (b :: rest)
    | .inside .. => farther

end Run

/-- Tries what is left of a source behind a pattern at its start. -/
def run {α : Type} : Pattern → Bytes → (Bytes → Option α) → Option α
  | nothing, source, next => next source
  | one accepts, source, next => runOne accepts next .boundary source
  | many accepts, source, next => runMany accepts next .boundary source
  | both first second, source, next => first.run source fun rest => second.run rest next
  | either first second, source, next => first.run source next <|> second.run source next

end Pattern

end FunctionCatalog
