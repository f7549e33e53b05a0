import Preferences.Calendar.Date
import Preferences.Text.Scan

/-!
# Dates and times in TOML

A date, a time of day, or both with perhaps an offset from universal time. The written form has `T`
between date and time, no zeros at the end of a fraction of a second, and `Z` or an offset in hours
and minutes. Reading also takes a blank or `t` for `T` and `z` for `Z`, and drops what a fraction
has beyond nine digits. The sixtieth second is a leap second. Hours are below 24 and minutes below
60, in offsets too.
-/

namespace Preferences.Toml

structure LocalDate where
  year : Nat
  month : Nat
  day : Nat
deriving DecidableEq, Repr

structure LocalTime where
  hour : Nat
  minute : Nat
  second : Nat
  nanosecond : Nat
deriving DecidableEq, Repr

inductive Offset where
  | universal
  | minutes (east : Int)
deriving DecidableEq, Repr

inductive Datetime where
  | date (date : LocalDate)
  | time (time : LocalTime)
  | both (date : LocalDate) (time : LocalTime) (offset : Option Offset)
deriving DecidableEq, Repr

/-! ### Writing -/

/-- A number with zeros in front up to a width. -/
def padded (width n : Nat) : List Char :=
  let ds := Decimal.digitChars n
  List.replicate (width - ds.length) '0' ++ ds

def LocalDate.chars (d : LocalDate) : List Char :=
  padded 4 d.year ++ '-' :: padded 2 d.month ++ '-' :: padded 2 d.day

def LocalTime.chars (t : LocalTime) : List Char :=
  let fraction :=
    if t.nanosecond = 0 then []
    else '.' :: ((padded 9 t.nanosecond).reverse.dropWhile (· == '0')).reverse
  padded 2 t.hour ++ ':' :: padded 2 t.minute ++ ':' :: padded 2 t.second ++ fraction

def Offset.chars : Offset → List Char
  | universal => ['Z']
  | minutes east =>
    (if east < 0 then '-' else '+') ::
      padded 2 (east.natAbs / 60) ++ ':' :: padded 2 (east.natAbs % 60)

def Datetime.text : Datetime → String
  | date d => String.ofList d.chars
  | time t => String.ofList t.chars
  | both d t offset =>
    String.ofList (d.chars ++ 'T' :: t.chars ++ (offset.map Offset.chars).getD [])

/-! ### Reading -/

/-- A number of exactly `width` digits between two bounds. -/
def bounded (width low high : Nat) : Scan Nat := fun cs => do
  let (ds, rest) ← Scan.exactly width Decimal.isDigit cs
  let n := Nat.ofDigitChars 10 ds 0
  if low ≤ n ∧ n ≤ high then some (n, rest) else none

def fullDate : Scan LocalDate := fun cs => do
  let (year, cs) ← bounded 4 0 9999 cs
  let cs ← Scan.skip? ['-'] cs
  let (month, cs) ← bounded 2 1 12 cs
  let cs ← Scan.skip? ['-'] cs
  let (day, cs) ← bounded 2 1 (Calendar.daysInMonth (Calendar.isLeap year) month) cs
  some (⟨year, month, day⟩, cs)

/-- A point and the digits of a fraction of a second, in nanoseconds; nothing counts as zero. -/
def secondFraction : Scan Nat
  | '.' :: rest =>
    (Scan.digits 10 rest).map fun (ds, rest) =>
      let kept := ds.take 9
      (Nat.ofDigitChars 10 kept 0 * Nat.pow 10 (9 - kept.length), rest)
  | cs => some (0, cs)

def partialTime : Scan LocalTime := fun cs => do
  let (hour, cs) ← bounded 2 0 23 cs
  let cs ← Scan.skip? [':'] cs
  let (minute, cs) ← bounded 2 0 59 cs
  let cs ← Scan.skip? [':'] cs
  let (second, cs) ← bounded 2 0 60 cs
  let (nanosecond, cs) ← secondFraction cs
  some (⟨hour, minute, second, nanosecond⟩, cs)

def offsetMinutes (negative : Bool) : Scan Offset := fun cs => do
  let (hours, cs) ← bounded 2 0 23 cs
  let cs ← Scan.skip? [':'] cs
  let (minutes, cs) ← bounded 2 0 59 cs
  let total : Int := hours * 60 + minutes
  some (.minutes (if negative then -total else total), cs)

/-- An offset, if there is the beginning of one. -/
def offset : Scan (Option Offset)
  | 'Z' :: rest | 'z' :: rest => some (some .universal, rest)
  | '+' :: rest => (offsetMinutes false rest).map fun (o, rest) => (some o, rest)
  | '-' :: rest => (offsetMinutes true rest).map fun (o, rest) => (some o, rest)
  | cs => some (none, cs)

/-- A date, a time, or a date with a time; a time that does not follow leaves the date alone. -/
def datetime : Scan Datetime := fun cs =>
  match fullDate cs with
  | none => (partialTime cs).map fun (t, rest) => (.time t, rest)
  | some (d, rest) =>
    match rest with
    | [] => some (.date d, [])
    | c :: after =>
      if c = 'T' ∨ c = 't' ∨ c = ' ' then
        match partialTime after with
        | none => some (.date d, rest)
        | some (t, after) => (offset after).map fun (o, after) => (.both d t o, after)
      else some (.date d, rest)

/-- The date-time that a string spells from its first character to its last. -/
def Datetime.ofString? (s : String) : Option Datetime :=
  match datetime s.toList with
  | some (d, []) => some d
  | _ => none

end Preferences.Toml
