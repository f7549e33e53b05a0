import Preferences.Text.Scan
import Preferences.Toml.Value

/-!
# Blanks, strings, keys and numbers of TOML

The parts of TOML text that hold no values of their own. A line ends with a line feed, before which
a carriage return may stand; a comment runs to the end of its line.
-/

namespace Preferences.Toml

/-! ### Blanks and comments -/

def isBlank (c : Char) : Bool := c == ' ' || c == '\t'

def skipBlank (cs : List Char) : List Char := cs.dropWhile isBlank

/-- Tab and whatever is no control character. -/
def isPrintable (c : Char) : Bool := c == '\t' || (32 ≤ c.toNat && c.toNat != 127)

def newline? : List Char → Option (List Char)
  | '\n' :: rest => some rest
  | '\r' :: '\n' :: rest => some rest
  | _ => none

/-- Passes over blanks, a comment, and the end of the line or of the text. -/
def lineEnd? (cs : List Char) : Option (List Char) :=
  let rest := match skipBlank cs with
    | '#' :: comment => comment.dropWhile isPrintable
    | rest => rest
  if rest.isEmpty then some [] else newline? rest

/-- Passes over blanks, comments and line breaks; fails inside a comment with a control character. -/
def skipLines? (inComment : Bool) : List Char → Option (List Char)
  | [] => some []
  | '\n' :: rest => skipLines? false rest
  | '\r' :: '\n' :: rest => skipLines? false rest
  | c :: rest =>
    if inComment then if isPrintable c then skipLines? true rest else none
    else if isBlank c then skipLines? false rest
    else if c = '#' then skipLines? true rest
    else some (c :: rest)

/-! ### Strings -/

def prepend (c : Char) : Option (List Char × List Char) → Option (List Char × List Char) :=
  Option.map fun (body, rest) => (c :: body, rest)

def unescape? (c : Char) : Option Char :=
  if c = '"' ∨ c = '\\' then some c
  else if c = 'b' then some '\x08'
  else if c = 't' then some '\t'
  else if c = 'n' then some '\n'
  else if c = 'f' then some '\x0c'
  else if c = 'r' then some '\r'
  else none

/-- The character whose number is written in hexadecimal digits. -/
def hexScalar? (cs : List Char) : Option Char :=
  if cs.all fun c => (Decimal.digitValue? 16 c).isSome then Scan.scalar? cs else none

/-- The characters between quotes, up to the closing one. -/
def quotedBody : Scan (List Char)
  | [] => none
  | '"' :: rest => some ([], rest)
  | '\\' :: 'u' :: a :: b :: c :: d :: rest =>
    match hexScalar? [a, b, c, d] with
    | some x => prepend x (quotedBody rest)
    | none => none
  | '\\' :: 'U' :: a :: b :: c :: d :: e :: f :: g :: h :: rest =>
    match hexScalar? [a, b, c, d, e, f, g, h] with
    | some x => prepend x (quotedBody rest)
    | none => none
  | '\\' :: c :: rest =>
    match unescape? c with
    | some x => prepend x (quotedBody rest)
    | none => none
  | c :: rest => if isPrintable c then prepend c (quotedBody rest) else none

/-- The characters between apostrophes, up to the closing one. -/
def literalBody : Scan (List Char)
  | [] => none
  | '\'' :: rest => some ([], rest)
  | c :: rest => if isPrintable c then prepend c (literalBody rest) else none

/-- The characters between three quotes. The closing quotes may follow one or two that belong to
the string. A backslash at the end of a line hides the line break and all blanks and line breaks
after it; `joining` says that these are being passed over. -/
def quotedLinesBody (joining : Bool) : Scan (List Char)
  | [] => none
  | '"' :: '"' :: '"' :: '"' :: '"' :: '"' :: _ => none
  | '"' :: '"' :: '"' :: '"' :: '"' :: rest => some (['"', '"'], rest)
  | '"' :: '"' :: '"' :: '"' :: rest => some (['"'], rest)
  | '"' :: '"' :: '"' :: rest => some ([], rest)
  | '\\' :: 'u' :: a :: b :: c :: d :: rest =>
    match hexScalar? [a, b, c, d] with
    | some x => prepend x (quotedLinesBody false rest)
    | none => none
  | '\\' :: 'U' :: a :: b :: c :: d :: e :: f :: g :: h :: rest =>
    match hexScalar? [a, b, c, d, e, f, g, h] with
    | some x => prepend x (quotedLinesBody false rest)
    | none => none
  | '\\' :: c :: rest =>
    match unescape? c with
    | some x => prepend x (quotedLinesBody false rest)
    | none =>
      if (newline? (skipBlank (c :: rest))).isSome then quotedLinesBody true (c :: rest) else none
  | '\r' :: '\n' :: rest =>
    if joining then quotedLinesBody true rest else prepend '\n' (quotedLinesBody false rest)
  | c :: rest =>
    if joining ∧ (isBlank c ∨ c = '\n') then quotedLinesBody true rest
    else if isPrintable c ∨ c = '\n' then prepend c (quotedLinesBody false rest)
    else none

/-- The characters between three apostrophes; one or two may stand before the closing ones. -/
def literalLinesBody : Scan (List Char)
  | [] => none
  | '\'' :: '\'' :: '\'' :: '\'' :: '\'' :: '\'' :: _ => none
  | '\'' :: '\'' :: '\'' :: '\'' :: '\'' :: rest => some (['\'', '\''], rest)
  | '\'' :: '\'' :: '\'' :: '\'' :: rest => some (['\''], rest)
  | '\'' :: '\'' :: '\'' :: rest => some ([], rest)
  | '\r' :: '\n' :: rest => prepend '\n' (literalLinesBody rest)
  | c :: rest => if isPrintable c ∨ c = '\n' then prepend c (literalLinesBody rest) else none

/-- A line break right after an opening delimiter does not count. -/
def skipFirstNewline (cs : List Char) : List Char := (newline? cs).getD cs

def string : Scan (List Char)
  | '"' :: '"' :: '"' :: rest => quotedLinesBody false (skipFirstNewline rest)
  | '"' :: rest => quotedBody rest
  | '\'' :: '\'' :: '\'' :: rest => literalLinesBody (skipFirstNewline rest)
  | '\'' :: rest => literalBody rest
  | _ => none

/-! ### Keys -/

def simpleKey : Scan String
  | '"' :: rest => (quotedBody rest).map fun (cs, rest) => (String.ofList cs, rest)
  | '\'' :: rest => (literalBody rest).map fun (cs, rest) => (String.ofList cs, rest)
  | cs =>
    let (name, rest) := Scan.run isBareChar cs
    if name.isEmpty then none else some (String.ofList name, rest)

/-- Keys between points, blanks allowed around each. The first argument bounds their number. -/
def dottedKey : Nat → Scan (List String)
  | 0, _ => none
  | bound + 1, cs => do
    let (key, rest) ← simpleKey (skipBlank cs)
    match skipBlank rest with
    | '.' :: rest => (dottedKey bound rest).map fun (more, rest) => (key :: more, rest)
    | rest => some ([key], rest)

/-- How many keys may stand between points, and how many brackets inside one another. -/
def maxDepth : Nat := 79

def key : Scan (List String) := dottedKey maxDepth

/-! ### Numbers -/

/-- The digits after the first of a number, between which single underscores may stand. -/
def moreDigits (base : Nat) : List Char → List Char × List Char
  | [] => ([], [])
  | '_' :: d :: rest =>
    if (Decimal.digitValue? base d).isSome then
      let (ds, rest) := moreDigits base rest
      (d :: ds, rest)
    else ([], '_' :: d :: rest)
  | d :: rest =>
    if (Decimal.digitValue? base d).isSome then
      let (ds, rest) := moreDigits base rest
      (d :: ds, rest)
    else ([], d :: rest)

def groupedDigits (base : Nat) : Scan (List Char)
  | [] => none
  | d :: rest =>
    if (Decimal.digitValue? base d).isSome then
      let (ds, rest) := moreDigits base rest
      some (d :: ds, rest)
    else none

def integerOf? (n : Int) : Option Value :=
  if Int64.minValue.toInt ≤ n ∧ n ≤ Int64.maxValue.toInt then some (.integer (.ofInt n)) else none

def integerIn (base : Nat) : Scan Value := fun cs => do
  let (ds, rest) ← groupedDigits base cs
  let value ← integerOf? (Decimal.ofDigitsIn base ds)
  some (value, rest)

def whole : Scan (List Char)
  | '0' :: rest => some (['0'], rest)
  | cs => groupedDigits 10 cs

/-- A sign, if there is one; whether it is a minus. -/
def sign : List Char → Bool × List Char
  | '+' :: rest => (false, rest)
  | '-' :: rest => (true, rest)
  | cs => (false, cs)

/-- A point and digits, if there is a point. -/
def fraction : Scan (Option (List Char))
  | '.' :: rest => (groupedDigits 10 rest).map fun (ds, rest) => (some ds, rest)
  | cs => some (none, cs)

/-- A letter `e`, perhaps a sign, and digits, if there is the letter. -/
def exponent : Scan (Option Int)
  | [] => some (none, [])
  | c :: rest =>
    if c = 'e' ∨ c = 'E' then do
      let (negative, rest) := sign rest
      let (ds, rest) ← groupedDigits 10 rest
      let n : Int := Nat.ofDigitChars 10 ds 0
      some (some (if negative then -n else n), rest)
    else some (none, c :: rest)

/-- The value of a number from the parts of its text. A positive number too large for a finite one
is refused; a negative one counts as the negative infinity. -/
def numberOf? (negative : Bool) (ds : List Char) (fraction? : Option (List Char))
    (exponent? : Option Int) : Option Value :=
  if fraction?.isNone && exponent?.isNone then
    let magnitude : Int := Nat.ofDigitChars 10 ds 0
    integerOf? (if negative then -magnitude else magnitude)
  else
    let x : Binary64 := .ofDecimal negative (.ofParts ds (fraction?.getD []) (exponent?.getD 0))
    if x.isFinite || negative then some (.float x) else none

/-- A decimal number, an infinity, or `nan`, with a sign if it has one. -/
def signed : Scan Value := fun cs =>
  let (negative, rest) := sign cs
  match rest with
  | 'i' :: 'n' :: 'f' :: rest => some (.float (.infinity negative), rest)
  | 'n' :: 'a' :: 'n' :: rest => some (.float .nan, rest)
  | _ => do
    let (ds, rest) ← whole rest
    let (fraction?, rest) ← fraction rest
    let (exponent?, rest) ← exponent rest
    let value ← numberOf? negative ds fraction? exponent?
    some (value, rest)

/-- A date or time, or a number in any of its forms. -/
def number : Scan Value := fun cs =>
  match datetime cs with
  | some (d, rest) => some (.datetime d, rest)
  | none =>
    match cs with
    | '0' :: 'x' :: rest => integerIn 16 rest
    | '0' :: 'o' :: rest => integerIn 8 rest
    | '0' :: 'b' :: rest => integerIn 2 rest
    | _ => signed cs

end Preferences.Toml
