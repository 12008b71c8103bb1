import Stubsmith.Decimal.Reading

/-!
# Dates and times in TOML

`readMoment?` takes the text of a date, a time, or both with or without an offset, checks that it
names one, and gives its normal spelling: a `T` between date and time, a `Z` for the offset zero of
that name, and a fraction of at most nine digits without zeros at the end. Seconds may be missing.
-/

namespace Stubsmith.Toml

open Stubsmith.Decimal

/-- Reads a number of exactly two digits within bounds, and returns the digits. -/
def twoDigits? (least greatest : Nat) (text : List Char) : Option (List Char × List Char) :=
  match text with
  | a :: b :: rest =>
    if a.isDigit ∧ b.isDigit ∧ least ≤ ofDigits [a, b] ∧ ofDigits [a, b] ≤ greatest then
      some ([a, b], rest)
    else none
  | _ => none

/-- The number of days of a month. -/
def daysOfMonth (year month : Nat) : Nat :=
  if month = 2 then
    if year % 4 = 0 ∧ (year % 100 ≠ 0 ∨ year % 400 = 0) then 29 else 28
  else if month = 4 ∨ month = 6 ∨ month = 9 ∨ month = 11 then 30
  else 31

/-- Reads a date. -/
def readDate? (text : List Char) : Option (List Char × List Char) :=
  let year := text.take 4
  if year.length < 4 ∨ !year.all Char.isDigit then none
  else
    match text.drop 4 with
    | '-' :: rest => do
      let (month, rest) ← twoDigits? 1 12 rest
      match rest with
      | '-' :: rest => do
        let (day, rest) ← twoDigits? 1 (daysOfMonth (ofDigits year) (ofDigits month)) rest
        return (year ++ '-' :: month ++ '-' :: day, rest)
      | _ => none
    | _ => none

/-- The fraction of a second in its normal spelling, with its point. -/
def fractionText (digits : List Char) : List Char :=
  match ((digits.take 9).reverse.dropWhile (· = '0')).reverse with
  | [] => []
  | digits => '.' :: digits

/-- Reads a time of day. -/
def readTime? (text : List Char) : Option (List Char × List Char) := do
  let (hour, rest) ← twoDigits? 0 23 text
  match rest with
  | ':' :: rest => do
    let (minute, rest) ← twoDigits? 0 59 rest
    let time := hour ++ ':' :: minute
    match rest with
    | ':' :: rest => do
      let (second, rest) ← twoDigits? 0 60 rest
      let time := time ++ ':' :: second
      match rest with
      | '.' :: rest =>
        let digits := rest.takeWhile Char.isDigit
        if digits.isEmpty then none
        else some (time ++ fractionText digits, rest.dropWhile Char.isDigit)
      | rest => some (time, rest)
    | rest => some (time, rest)
  | _ => none

/-- Reads an offset that takes up all that is left; there may be none. -/
def readOffset? : List Char → Option (List Char)
  | [] => some []
  | ['Z'] => some ['Z']
  | ['z'] => some ['Z']
  | sign :: rest =>
    if sign = '+' ∨ sign = '-' then do
      let (hour, rest) ← twoDigits? 0 23 rest
      match rest with
      | ':' :: rest => do
        let (minute, rest) ← twoDigits? 0 59 rest
        if rest.isEmpty then some (sign :: hour ++ ':' :: minute) else none
      | _ => none
    else none

/-- Reads a date, a time or both. -/
def readMoment? (text : List Char) : Option String :=
  match readDate? text with
  | some (date, []) => some (String.ofList date)
  | some (date, separator :: rest) =>
    if separator = 'T' ∨ separator = 't' ∨ separator = ' ' then do
      let (time, rest) ← readTime? rest
      let offset ← readOffset? rest
      return String.ofList (date ++ 'T' :: time ++ offset)
    else none
  | none => do
    let (time, rest) ← readTime? text
    if rest.isEmpty then some (String.ofList time) else none

end Stubsmith.Toml
