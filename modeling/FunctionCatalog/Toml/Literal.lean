import FunctionCatalog.Config.Settings
import FunctionCatalog.Text.Basic
import FunctionCatalog.Toml.DateTime

/-!
# Literals of TOML

Truth values, numbers, dates and times: everything that is written as one run of letters, digits and
signs. A whole number has 64 bits. Digits may be grouped by single underscores.
-/

namespace FunctionCatalog

namespace Toml

/-- Digits without the underscores between them. There is a digit on both sides of each. -/
def ungrouped? (isDigit : Char → Bool) : List Char → Option (List Char)
  | [] => none
  | [c] => if isDigit c then some [c] else none
  | c :: '_' :: rest => if isDigit c then (ungrouped? isDigit rest).map (c :: ·) else none
  | c :: rest => if isDigit c then (ungrouped? isDigit rest).map (c :: ·) else none

/-- The number that digits write in a base. -/
def valueOf? (base : Nat) (digits : List Char) : Option Nat :=
  digits.foldlM (fun value c => do
    let digit ← hexValue? c
    if digit < base then some (base * value + digit) else none) 0

/-- A whole number in decimal digits, which has no needless zero in front. -/
def decimal? (literal : List Char) : Option (List Char) :=
  match literal with
  | '0' :: _ :: _ => none
  | _ => ungrouped? Char.isDigit literal

/-- A literal without its sign, and whether the sign is a minus. -/
def unsigned : List Char → Bool × List Char
  | '-' :: rest => (true, rest)
  | '+' :: rest => (false, rest)
  | rest => (false, rest)

/-- A whole number in a base that is a power of two. -/
def based? (base : Nat) (literal : List Char) : Option Nat := do
  valueOf? base (← ungrouped? (fun c => (hexValue? c).isSome) literal)

/-- The least absolute value that a positive number of 64 bits with a sign cannot have. -/
def integerLimit : Nat := 9223372036854775808

/-- The whole number that a literal is. -/
def integer? : List Char → Option Int
  | '0' :: 'x' :: literal => fits? false (based? 16 literal)
  | '0' :: 'o' :: literal => fits? false (based? 8 literal)
  | '0' :: 'b' :: literal => fits? false (based? 2 literal)
  | literal =>
    let (isNegative, digits) := unsigned literal
    fits? isNegative ((decimal? digits).bind (valueOf? 10))
where
  /-- A number with its sign, if it has 64 bits. -/
  fits? (isNegative : Bool) (value? : Option Nat) : Option Int := do
    let value ← value?
    if isNegative then (if value ≤ integerLimit then some (-(value : Int)) else none)
    else if value < integerLimit then some value
    else none

/-! ## Fractional numbers -/

/-- The exponent that follows an `e`. -/
def exponent? (literal : List Char) : Option Int := do
  let (isNegative, digits) := unsigned literal
  let value ← valueOf? 10 (← ungrouped? Char.isDigit digits)
  some (if isNegative then -(value : Int) else value)

/-- The digits and the exponent of a fraction and an exponent, one of which has to be there. -/
def fractionalPart? (literal : List Char) : Option (List Char × Int) := do
  let isMark := fun c : Char => c == 'e' || c == 'E'
  let fraction ←
    match literal.takeWhile (!isMark ·) with
    | [] => some []
    | '.' :: digits => ungrouped? Char.isDigit digits
    | _ => none
  let exponent ←
    match literal.dropWhile (!isMark ·) with
    | [] => some 0
    | _ :: rest => exponent? rest
  if literal.isEmpty then none else some (fraction, exponent - fraction.length)

/-- The least number that is too large for 64 bits of floating point, rounded to the nearest. -/
def floatLimit : Nat := Nat.pow 2 1024 - Nat.pow 2 970

/-- Whether a digit string times a power of ten is too large for 64 bits of floating point. Numbers
far from the limit are told by their number of digits. -/
def isTooLarge (digits : List Char) (exponent : Int) : Bool :=
  let digits := digits.dropWhile (· == '0')
  let magnitude := digits.length + exponent
  if digits.isEmpty || magnitude < 300 then false
  else if 320 < magnitude then true
  else
    let value := (valueOf? 10 digits).getD 0
    floatLimit * Nat.pow 10 (-exponent).toNat ≤ value * Nat.pow 10 exponent.toNat

/-- Whether a literal is a floating-point number. One that is too large is none, but one whose
absolute value alone is too large is. -/
def isFloat (literal : List Char) : Bool :=
  let (isNegative, number) := unsigned literal
  let isWholeChar := fun c : Char => c.isDigit || c == '_'
  match number with
  | ['i', 'n', 'f'] | ['n', 'a', 'n'] => true
  | _ =>
    match decimal? (number.takeWhile isWholeChar),
        fractionalPart? (number.dropWhile isWholeChar) with
    | some whole, some (fraction, exponent) =>
      isNegative || !isTooLarge (whole ++ fraction) exponent
    | _, _ => false

/-! ## Literals -/

/-- The value of a literal. A date or time has a single member, its text. -/
def literal? (literal : List Char) : Option Setting :=
  match literal with
  | ['t', 'r', 'u', 'e'] => some (.bool true)
  | ['f', 'a', 'l', 's', 'e'] => some (.bool false)
  | _ =>
    match DateTime.ofLiteral? literal, integer? literal with
    | some dateTime, _ =>
      some (.table [("$__toml_private_datetime", .text dateTime.text)])
    | none, some value => some (.integer value)
    | none, none => if isFloat literal then some .other else none

end Toml

end FunctionCatalog
