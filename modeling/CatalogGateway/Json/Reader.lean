import CatalogGateway.Json.Basic
import CatalogGateway.Text.Ascii

/-!
# Reading JSON

Reading a JSON text, nested at most 127 deep.  Members stay in their order, and every numeral is read: a numeral
without fraction and exponent that fits 64 bits gives an integer, any other one a floating-point value, and only a
numeral beyond the largest of these is refused.
-/

namespace CatalogGateway.Json

/-- What is read, and the rest of the text. -/
abbrev Reading (α : Type) := Option (α × List Char)

/-- A blank between the tokens of a JSON text. -/
def isSpace (c : Char) : Bool := c = ' ' || c = '\n' || c = '\t' || c = '\r'

/-- The text from its first character that is no blank. -/
def skipSpaces (cs : List Char) : List Char := cs.dropWhile isSpace

/-- The value of four hexadecimal digits. -/
def codeUnit? (a b c d : Char) : Option Nat := do
  let a ← Text.hexDigit? a
  let b ← Text.hexDigit? b
  let c ← Text.hexDigit? c
  let d ← Text.hexDigit? d
  return ((a * 16 + b) * 16 + c) * 16 + d

/-- The character that an escape of one letter stands for. -/
def shortEscape? (c : Char) : Option Char :=
  if c = '"' ∨ c = '\\' ∨ c = '/' then some c
  else if c = 'b' then some '\x08'
  else if c = 'f' then some '\x0c'
  else if c = 'n' then some '\n'
  else if c = 'r' then some '\r'
  else if c = 't' then some '\t'
  else none

/-- The first of the two code units that make up a character beyond the first 65536. -/
def isHighHalf (u : Nat) : Bool := 0xd800 ≤ u && u ≤ 0xdbff

/-- The second of the two code units that make up a character beyond the first 65536. -/
def isLowHalf (u : Nat) : Bool := 0xdc00 ≤ u && u ≤ 0xdfff

/-- Reads the characters of a string up to its closing quote. -/
def readChars : List Char → Reading (List Char)
  | [] => none
  | '"' :: rest => some ([], rest)
  | '\\' :: 'u' :: a :: b :: c :: d :: rest =>
    match codeUnit? a b c d with
    | none => none
    | some u =>
      if isHighHalf u then
        match rest with
        | '\\' :: 'u' :: e :: f :: g :: h :: rest =>
          match codeUnit? e f g h with
          | none => none
          | some l =>
            if isLowHalf l then
              (readChars rest).map fun r => (Char.ofNat (0x10000 + (u - 0xd800) * 0x400 + (l - 0xdc00)) :: r.1, r.2)
            else none
        | _ => none
      else if isLowHalf u then none
      else (readChars rest).map fun r => (Char.ofNat u :: r.1, r.2)
  | '\\' :: c :: rest =>
    match shortEscape? c with
    | none => none
    | some c => (readChars rest).map fun r => (c :: r.1, r.2)
  | c :: rest =>
    if c.toNat < 0x20 ∨ c = '\\' then none else (readChars rest).map fun r => (c :: r.1, r.2)

/-- The digits at the start of a text. -/
def spanDigits (cs : List Char) : List Nat × List Char :=
  ((cs.takeWhile Char.isDigit).map fun c => c.toNat - '0'.toNat, cs.dropWhile Char.isDigit)

/-- A decimal significand of at most 64 bits and a power of ten; `full` is set once a digit found no place. -/
structure Numeral where
  significand : Nat := 0
  exponent : Int := 0
  full : Bool := false

/-- Takes in a digit before the point.  From the first digit without a place on, digits only count. -/
def Numeral.pushWhole (d : Numeral) (digit : Nat) : Numeral :=
  if d.full ∨ UInt64.size ≤ d.significand * 10 + digit then ⟨d.significand, d.exponent + 1, true⟩
  else ⟨d.significand * 10 + digit, d.exponent, false⟩

/-- Takes in a digit after the point.  From the first digit without a place on, digits are dropped. -/
def Numeral.pushFraction (d : Numeral) (digit : Nat) : Numeral :=
  if d.full ∨ UInt64.size ≤ d.significand * 10 + digit then { d with full := true }
  else ⟨d.significand * 10 + digit, d.exponent - 1, false⟩

/-- Reads the digits of the whole part: a single zero, or digits of which the first is not zero. -/
def readWhole (cs : List Char) : Reading (List Nat) :=
  match spanDigits cs with
  | ([], _) => none
  | ([d], rest) => some ([d], rest)
  | (0 :: _, _) => none
  | (digits, rest) => some (digits, rest)

def readFraction : List Char → Reading (Option (List Nat))
  | '.' :: rest =>
    match spanDigits rest with
    | ([], _) => none
    | (digits, rest) => some (some digits, rest)
  | rest => some (none, rest)

/-- The number that digits write. -/
def ofDigits (digits : List Nat) : Nat := digits.foldl (fun n d => n * 10 + d) 0

/-- Reads the digits of an exponent with its sign. -/
def readSigned : List Char → Reading Int
  | '-' :: rest => (readPlain rest).map fun r => (-r.1, r.2)
  | '+' :: rest => readPlain rest
  | rest => readPlain rest
where
  readPlain (cs : List Char) : Reading Int :=
    match spanDigits cs with
    | ([], _) => none
    | (digits, rest) => some ((ofDigits digits : Int), rest)

def readExponent : List Char → Reading (Option Int)
  | 'e' :: rest => (readSigned rest).map fun r => (some r.1, r.2)
  | 'E' :: rest => (readSigned rest).map fun r => (some r.1, r.2)
  | rest => some (none, rest)

/-- The number that the parts of a numeral write. -/
def numberOf? (negative : Bool) (whole : List Nat) (fraction : Option (List Nat)) (exponent : Option Int) :
    Option Number :=
  let d := whole.foldl Numeral.pushWhole {}
  let n := d.significand
  if fraction.isNone ∧ exponent.isNone ∧ !d.full ∧ !(negative && (n = 0 || UInt64.size < 2 * n)) then
    some (.integer (if negative then -(n : Int) else n))
  else
    let d := (fraction.getD []).foldl Numeral.pushFraction d
    (Binary64.ofDecimal? negative d.significand (d.exponent + exponent.getD 0)).map .real

/-- Reads a numeral without its sign. -/
def readUnsigned (negative : Bool) (cs : List Char) : Option (Number × List Char) := do
  let (whole, rest) ← readWhole cs
  let (fraction, rest) ← readFraction rest
  let (exponent, rest) ← readExponent rest
  let n ← numberOf? negative whole fraction exponent
  return (n, rest)

def readNumber : List Char → Reading Number
  | '-' :: rest => readUnsigned true rest
  | rest => readUnsigned false rest

/-- Reads a value that is neither array nor object. -/
def readScalar : List Char → Reading Json
  | 'n' :: 'u' :: 'l' :: 'l' :: rest => some (null, rest)
  | 't' :: 'r' :: 'u' :: 'e' :: rest => some (bool true, rest)
  | 'f' :: 'a' :: 'l' :: 's' :: 'e' :: rest => some (bool false, rest)
  | '"' :: rest => (readChars rest).map fun r => (string (String.ofList r.1), r.2)
  | cs => (readNumber cs).map fun r => (number r.1, r.2)

/-- Reads the items of an array from one of them on, at most as many as the second argument says. -/
def readItems (item : List Char → Reading Json) : Nat → List Char → Reading (List Json)
  | 0, _ => none
  | n + 1, cs =>
    match item cs with
    | none => none
    | some (v, rest) =>
      match skipSpaces rest with
      | ']' :: rest => some ([v], rest)
      | ',' :: rest => (readItems item n rest).map fun r => (v :: r.1, r.2)
      | _ => none

/-- Reads an array after its opening bracket. -/
def readArray (item : List Char → Reading Json) (cs : List Char) : Reading Json :=
  match skipSpaces cs with
  | ']' :: rest => some (array [], rest)
  | rest => (readItems item rest.length rest).map fun r => (array r.1, r.2)

/-- Reads a member of an object: its name, a colon and its value. -/
def readMember (value : List Char → Reading Json) (cs : List Char) : Reading (String × Json) :=
  match skipSpaces cs with
  | '"' :: rest =>
    match readChars rest with
    | none => none
    | some (name, rest) =>
      match skipSpaces rest with
      | ':' :: rest => (value rest).map fun r => ((String.ofList name, r.1), r.2)
      | _ => none
  | _ => none

/-- Reads the members of an object from one of them on, at most as many as the second argument says. -/
def readMembers (value : List Char → Reading Json) : Nat → List Char → Reading (List (String × Json))
  | 0, _ => none
  | n + 1, cs =>
    match readMember value cs with
    | none => none
    | some (m, rest) =>
      match skipSpaces rest with
      | '}' :: rest => some ([m], rest)
      | ',' :: rest => (readMembers value n rest).map fun r => (m :: r.1, r.2)
      | _ => none

/-- Reads an object after its opening brace. -/
def readObject (value : List Char → Reading Json) (cs : List Char) : Reading Json :=
  match skipSpaces cs with
  | '}' :: rest => some (object [], rest)
  | rest => (readMembers value rest.length rest).map fun r => (object r.1, r.2)

/-- Reads a value that is nested at most as deep as the first argument says. -/
def readValue : Nat → List Char → Reading Json
  | 0, cs => readScalar (skipSpaces cs)
  | depth + 1, cs =>
    match skipSpaces cs with
    | '[' :: rest => readArray (readValue depth) rest
    | '{' :: rest => readObject (readValue depth) rest
    | rest => readScalar rest

/-- How deep arrays and objects may be nested. -/
def maxDepth : Nat := 127

/-- The value that a text writes. -/
def parse? (s : String) : Option Json :=
  match readValue maxDepth s.toList with
  | some (v, rest) => if skipSpaces rest = [] then some v else none
  | none => none

end CatalogGateway.Json
