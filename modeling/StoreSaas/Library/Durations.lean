import Mathlib.Data.List.TakeWhile
import Mathlib.Algebra.Ring.Int.Defs

/-! # Durations in words

The grammar that the package `ms` reads: a sign, a decimal number, spaces and a unit in its
short or long form, in either case; without a unit the number is one of milliseconds.
-/

namespace StoreSaas.Durations

/-- `\d` -/
def isDigit (letter : Char) : Bool := '0' ≤ letter && letter ≤ '9'

/-- The number that decimal digits stand for. -/
def digitsValue (digits : List Char) : Nat := digits.foldl (fun value digit => 10 * value + (digit.toNat - 48)) 0

/-- `mantissa / 10 ^ scale`, or the opposite of it. -/
structure Decimal where
  isNegative : Bool
  mantissa : Nat
  scale : Nat
  deriving DecidableEq

/-- Digits with a point among them or in front, and the rest of the text. -/
def readUnsigned (isNegative : Bool) (text : List Char) : Option (Decimal × List Char) :=
  let whole := text.takeWhile isDigit
  let rest := text.dropWhile isDigit
  if rest.head? = some '.' then
    let fraction := rest.tail.takeWhile isDigit
    if fraction = [] then none
    else some (⟨isNegative, digitsValue (whole ++ fraction), fraction.length⟩, rest.tail.dropWhile isDigit)
  else if whole = [] then none
  else some (⟨isNegative, digitsValue whole, 0⟩, rest)

def readDecimal (text : List Char) : Option (Decimal × List Char) :=
  if text.head? = some '-' then readUnsigned true text.tail else readUnsigned false text

/-- The names of the units, and their milliseconds. -/
def unitNames : List (String × Nat) :=
  let second := 1000
  let minute := 60 * second
  let hour := 60 * minute
  let day := 24 * hour
  let week := 7 * day
  let year := 365 * day + day / 4
  [("", 1), ("milliseconds", 1), ("millisecond", 1), ("msecs", 1), ("msec", 1), ("ms", 1),
    ("seconds", second), ("second", second), ("secs", second), ("sec", second), ("s", second),
    ("minutes", minute), ("minute", minute), ("mins", minute), ("min", minute), ("m", minute),
    ("hours", hour), ("hour", hour), ("hrs", hour), ("hr", hour), ("h", hour),
    ("days", day), ("day", day), ("d", day), ("weeks", week), ("week", week), ("w", week),
    ("years", year), ("year", year), ("yrs", year), ("yr", year), ("y", year)]

def unitNamed (text : List Char) : Option Nat :=
  (unitNames.find? fun unit => unit.1.toList = text.map Char.toLower).map Prod.snd

/-- The number and the milliseconds of its unit. -/
def read (text : List Char) : Option (Decimal × Nat) :=
  (readDecimal text).bind fun decimal => (unitNamed (decimal.2.dropWhile (· = ' '))).map fun unit => (decimal.1, unit)

/-- Whole seconds, rounded down. -/
def Decimal.seconds (decimal : Decimal) (unit : Nat) : Int :=
  (if decimal.isNegative then -(decimal.mantissa * unit : Int) else decimal.mantissa * unit) / (1000 * 10 ^ decimal.scale)

def seconds (text : List Char) : Option Int := (read text).map fun duration => duration.1.seconds duration.2

example : seconds "1.5 hrs".toList = some 5400 := by decide
example : seconds "-500".toList = some (-1) := by decide
example : seconds "1w ".toList = none := by decide

/-! ## Digits -/

theorem takeWhile_digits {digits rest : List Char} {letter : Char} (all : ∀ digit ∈ digits, isDigit digit = true)
    (other : isDigit letter = false) : (digits ++ letter :: rest).takeWhile isDigit = digits := by
  rw [List.takeWhile_append_of_pos all, List.takeWhile_cons, other, if_neg Bool.false_ne_true, List.append_nil]

theorem dropWhile_digits {digits rest : List Char} {letter : Char} (all : ∀ digit ∈ digits, isDigit digit = true)
    (other : isDigit letter = false) : (digits ++ letter :: rest).dropWhile isDigit = letter :: rest := by
  rw [List.dropWhile_append_of_pos all, List.dropWhile_cons, other, if_neg Bool.false_ne_true]

/-- A duration begins with a sign, a point or a digit. -/
theorem read_eq_none {letter : Char} (rest : List Char) (notDigit : isDigit letter = false) (notDash : letter ≠ '-')
    (notPoint : letter ≠ '.') : read (letter :: rest) = none := by
  have noWhole : (letter :: rest).takeWhile isDigit = [] := by
    rw [List.takeWhile_cons, notDigit, if_neg Bool.false_ne_true]
  have allRest : (letter :: rest).dropWhile isDigit = letter :: rest := by
    rw [List.dropWhile_cons, notDigit, if_neg Bool.false_ne_true]
  have unread : readDecimal (letter :: rest) = none := by
    rw [readDecimal, List.head?_cons, if_neg fun isDash => notDash (Option.some.inj isDash), readUnsigned]
    dsimp only
    rw [noWhole, allRest, List.head?_cons, if_neg fun isPoint => notPoint (Option.some.inj isPoint), if_pos rfl]
  rw [read, unread, Option.bind_none]

/-- Digits without sign and point, and a unit right behind them. -/
theorem read_digits {digits rest : List Char} {letter : Char} (some_digit : digits ≠ [])
    (all : ∀ digit ∈ digits, isDigit digit = true) (notDigit : isDigit letter = false) (notPoint : letter ≠ '.')
    (notSpace : letter ≠ ' ') :
    read (digits ++ letter :: rest) =
      (unitNamed (letter :: rest)).map fun unit => (⟨false, digitsValue digits, 0⟩, unit) := by
  have isRead : readDecimal (digits ++ letter :: rest) = some (⟨false, digitsValue digits, 0⟩, letter :: rest) := by
    cases digits with
    | nil => exact absurd rfl some_digit
    | cons first others =>
      have notDash : first ≠ '-' := by
        rintro rfl
        cases all '-' List.mem_cons_self
      rw [readDecimal, List.cons_append, List.head?_cons, if_neg fun isDash => notDash (Option.some.inj isDash),
        ← List.cons_append, readUnsigned]
      dsimp only
      rw [takeWhile_digits all notDigit, dropWhile_digits all notDigit, List.head?_cons,
        if_neg fun isPoint => notPoint (Option.some.inj isPoint), if_neg some_digit]
  have atUnit : (letter :: rest).dropWhile (· = ' ') = letter :: rest := by
    rw [List.dropWhile_cons, decide_eq_false notSpace, if_neg Bool.false_ne_true]
  rw [read, isRead, Option.bind_some, atUnit]

/-- The names of the units are made of letters. -/
theorem isLetter_of_unitNamed {text : List Char} {unit : Nat} (named : unitNamed text = some unit) :
    ∀ letter ∈ text, 'a' ≤ letter.toLower ∧ letter.toLower ≤ 'z' := by
  obtain ⟨entry, found, -⟩ := Option.map_eq_some_iff.mp named
  have matches_name := List.find?_some found
  have isName : entry.1.toList = text.map Char.toLower := of_decide_eq_true matches_name
  have all : (unitNames.all fun unit => unit.1.toList.all fun letter => 'a' ≤ letter && letter ≤ 'z') = true := by decide
  intro letter inText
  have lowered : letter.toLower ∈ entry.1.toList := isName ▸ List.mem_map_of_mem inText
  have isLetter := List.all_eq_true.mp (List.all_eq_true.mp all entry (List.mem_of_find?_eq_some found)) _ lowered
  simpa using isLetter

end StoreSaas.Durations
