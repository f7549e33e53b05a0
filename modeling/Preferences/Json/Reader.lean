import Preferences.Json.Number

/-!
# Reading JSON

The reader takes JSON and nothing beyond it. Arrays and objects may be nested 127 deep. Of escaped
surrogates only pairs are taken.
-/

namespace Preferences.Json

def isBlank (c : Char) : Bool := c == ' ' || c == '\t' || c == '\n' || c == '\r'

def skipBlank (cs : List Char) : List Char := cs.dropWhile isBlank

/-! ### Strings -/

def hex4? (a b c d : Char) : Option Nat :=
  let cs := [a, b, c, d]
  if cs.all fun x => (Decimal.digitValue? 16 x).isSome then some (Decimal.ofDigitsIn 16 cs)
  else none

def isHighSurrogate (n : Nat) : Bool := 0xD800 ≤ n && n < 0xDC00

def isLowSurrogate (n : Nat) : Bool := 0xDC00 ≤ n && n < 0xE000

def unescape? (c : Char) : Option Char :=
  if c = '"' ∨ c = '\\' ∨ c = '/' then some c
  else if c = 'b' then some '\x08'
  else if c = 'f' then some '\x0c'
  else if c = 'n' then some '\n'
  else if c = 'r' then some '\r'
  else if c = 't' then some '\t'
  else none

def prepend (c : Char) : Option (List Char × List Char) → Option (List Char × List Char) :=
  Option.map fun (body, rest) => (c :: body, rest)

def stringBody : Scan (List Char)
  | [] => none
  | '"' :: rest => some ([], rest)
  | '\\' :: 'u' :: a :: b :: c :: d :: rest =>
    match hex4? a b c d with
    | none => none
    | some n =>
      if isHighSurrogate n then
        match rest with
        | '\\' :: 'u' :: e :: f :: g :: h :: rest' =>
          match hex4? e f g h with
          | none => none
          | some m =>
            if isLowSurrogate m then
              prepend (Char.ofNat (0x10000 + (n - 0xD800) * 0x400 + (m - 0xDC00)))
                (stringBody rest')
            else none
        | _ => none
      else if isLowSurrogate n then none
      else prepend (Char.ofNat n) (stringBody rest)
  | '\\' :: c :: rest =>
    match unescape? c with
    | none => none
    | some x => prepend x (stringBody rest)
  | c :: rest => if c.toNat < 32 then none else prepend c (stringBody rest)

/-! ### Arrays and objects -/

/-- Items between commas, up to the closing character. The first argument bounds their number. -/
def items {α : Type} (item : Scan α) (close : Char) : Nat → Scan (List α)
  | 0, _ => none
  | bound + 1, cs => do
    let (first, rest) ← item cs
    match skipBlank rest with
    | [] => none
    | c :: rest =>
      if c = close then some ([first], rest)
      else if c = ',' then
        (items item close bound rest).map fun (more, rest) => (first :: more, rest)
      else none

/-- A list of items in which there may be none. -/
def sequence {α : Type} (item : Scan α) (close : Char) : Scan (List α) := fun cs =>
  match skipBlank cs with
  | [] => none
  | c :: rest => if c = close then some ([], rest) else items item close cs.length (c :: rest)

/-- A name, a colon and a value. -/
def member (value : Scan Value) : Scan (String × Value) := fun cs =>
  match skipBlank cs with
  | '"' :: rest => do
    let (name, rest) ← stringBody rest
    match skipBlank rest with
    | ':' :: rest => (value rest).map fun (v, rest) => ((String.ofList name, v), rest)
    | _ => none
  | _ => none

/-- A value with at most `depth` levels of arrays and objects. -/
def value (depth : Nat) : Scan Value := fun cs =>
  match skipBlank cs with
  | '"' :: rest => (stringBody rest).map fun (body, rest) => (.string (String.ofList body), rest)
  | '[' :: rest =>
    match depth with
    | 0 => none
    | depth + 1 => (sequence (value depth) ']' rest).map fun (vs, rest) => (.array vs, rest)
  | '\x7b' :: rest =>
    match depth with
    | 0 => none
    | depth + 1 =>
      (sequence (member (value depth)) '\x7d' rest).map fun (ms, rest) => (.object ms, rest)
  | 'n' :: rest => (Scan.skip? "ull".toList rest).map fun rest => (.null, rest)
  | 't' :: rest => (Scan.skip? "rue".toList rest).map fun rest => (.bool true, rest)
  | 'f' :: rest => (Scan.skip? "alse".toList rest).map fun rest => (.bool false, rest)
  | cs => number cs

def maxDepth : Nat := 127

/-- The value that a text is, blanks around it aside. -/
def parse? (s : String) : Option Value := do
  let (v, rest) ← value maxDepth s.toList
  if (skipBlank rest).isEmpty then some v else none

end Preferences.Json
