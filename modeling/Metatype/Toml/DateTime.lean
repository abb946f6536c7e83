import Metatype.Numeral.Reading
import Metatype.Toml.Basic

/-!
# Dates and times in TOML

Dates, times of day, and both together with or without the offset of a time zone. They are kept as
text in one form: the letters `T` and `Z`, no more than nine digits of a second, no zeros at the end
of a fraction, and no negative zero offset.

A date or time may also be written as a table: one whose first key is reserved for that purpose
stands for what the string under that key writes.

* `dateTime?`: the text of a date or time, with a bound on its offset.
* `Value.settle?`: a value with the tables replaced that stand for dates and times.
-/

namespace Metatype.Toml

open Numeral

/-! ## Dates -/

/-- Two digits that stand for a number between two bounds. -/
def twoDigits? (low high : Nat) (a b : Char) : Option Nat :=
  if a.isDigit && b.isDigit then
    let n := natOfChars [a, b]
    if low ≤ n ∧ n ≤ high then some n else none
  else none

/-- The number of days of a month. -/
def daysOfMonth (year month : Nat) : Nat :=
  if month = 2 then
    if year % 4 = 0 ∧ (year % 100 ≠ 0 ∨ year % 400 = 0) then 29 else 28
  else if month = 4 ∨ month = 6 ∨ month = 9 ∨ month = 11 then 30
  else 31

/-- A date, with the characters after it. -/
def date? : List Char → Option (List Char × List Char)
  | y₁ :: y₂ :: y₃ :: y₄ :: '-' :: m₁ :: m₂ :: '-' :: d₁ :: d₂ :: rest => do
    let year := [y₁, y₂, y₃, y₄]
    if !year.all Char.isDigit then none
    let month ← twoDigits? 1 12 m₁ m₂
    let _ ← twoDigits? 1 (daysOfMonth (natOfChars year) month) d₁ d₂
    return (year ++ ['-', m₁, m₂, '-', d₁, d₂], rest)
  | _ => none

/-! ## Times of day -/

/-- The fraction of a second, to nine digits and without zeros at its end. -/
def secondFraction? : List Char → Option (List Char × List Char)
  | '.' :: rest =>
    let ds := rest.takeWhile Char.isDigit
    if ds.isEmpty then none
    else
      let kept := ((ds.take 9).reverse.dropWhile (· = '0')).reverse
      some (if kept.isEmpty then [] else '.' :: kept, rest.dropWhile Char.isDigit)
  | rest => some ([], rest)

/-- A time of day, with the characters after it. -/
def time? : List Char → Option (List Char × List Char)
  | h₁ :: h₂ :: ':' :: m₁ :: m₂ :: ':' :: s₁ :: s₂ :: rest => do
    let _ ← twoDigits? 0 23 h₁ h₂
    let _ ← twoDigits? 0 59 m₁ m₂
    let _ ← twoDigits? 0 60 s₁ s₂
    let (fraction, rest) ← secondFraction? rest
    return ([h₁, h₂, ':', m₁, m₂, ':', s₁, s₂] ++ fraction, rest)
  | _ => none

/-! ## Offsets -/

/-- Offsets as a clock shows them. -/
def isClockOffset (hours minutes : Nat) : Bool := hours ≤ 23 && minutes ≤ 59

/-- Offsets of up to a day, in whatever hours and minutes. -/
def isDayOffset (hours minutes : Nat) : Bool := hours * 60 + minutes ≤ 24 * 60

/-- A number below a hundred in two digits. -/
def paddedText (n : Nat) : List Char := [Nat.digitChar (n / 10), Nat.digitChar (n % 10)]

/-- The text of an offset of so many minutes. -/
def offsetText (negative : Bool) (minutes : Nat) : List Char :=
  (if negative && minutes ≠ 0 then '-' else '+') ::
    (paddedText (minutes / 60) ++ ':' :: paddedText (minutes % 60))

/-- The offset of a time zone, which ends the text. -/
def offset? (isOffset : Nat → Nat → Bool) : List Char → Option (List Char)
  | [] => some []
  | [c] => if c = 'Z' ∨ c = 'z' then some ['Z'] else none
  | [sign, h₁, h₂, ':', m₁, m₂] => do
    if sign ≠ '+' ∧ sign ≠ '-' then none
    let hours ← twoDigits? 0 99 h₁ h₂
    let minutes ← twoDigits? 0 99 m₁ m₂
    if isOffset hours minutes then some (offsetText (sign = '-') (hours * 60 + minutes)) else none
  | _ => none

/-! ## Dates and times -/

/-- The text of a date, a time, or both with or without an offset. -/
def dateTime? (isOffset : Nat → Nat → Bool) (s : List Char) : Option String :=
  match date? s with
  | some (date, []) => some (String.ofList date)
  | some (date, c :: rest) => do
    if c ≠ 'T' ∧ c ≠ 't' ∧ c ≠ ' ' then none
    let (time, rest) ← time? rest
    let offset ← offset? isOffset rest
    return String.ofList (date ++ 'T' :: time ++ offset)
  | none =>
    match time? s with
    | some (time, []) => some (String.ofList time)
    | _ => none

/-! ## Tables for dates and times -/

/-- The key that makes a table a date or time. -/
def dateTimeKey : String := "$__toml_private_datetime"

/-- What stands under the reserved key, if that key comes first. -/
def reserved? : List (String × Value) → Option Value
  | (key, v) :: _ => if key = dateTimeKey then some v else none
  | [] => none

/-- The date or time that a string writes. -/
def Value.dateTime? : Value → Option Value
  | .string s => (Toml.dateTime? isDayOffset s.toList).map .dateTime
  | _ => none

mutual

/-- A value with the tables in it replaced that stand for dates and times. Nothing if one of them
does not write any. -/
def Value.settle? : Value → Option Value
  | .table entries =>
    match reserved? entries with
    | some v => v.dateTime?
    | none => (settleEntries? entries).map .table
  | .array items => (settleItems? items).map .array
  | v => some v

/-- Entries with their values settled. -/
def settleEntries? : List (String × Value) → Option (List (String × Value))
  | [] => some []
  | (key, v) :: rest => do return (key, ← v.settle?) :: (← settleEntries? rest)

/-- Items settled. -/
def settleItems? : List Value → Option (List Value)
  | [] => some []
  | v :: rest => do return (← v.settle?) :: (← settleItems? rest)

end

end Metatype.Toml
