import CatalogGateway.Text.Utf8

/-!
# Base64

The standard alphabet with canonical padding: three octets are four symbols, a last group of one or two octets is
filled up with `=`, and the bits that a last symbol leaves over are zero.  Reading refuses everything else and says
what is wrong and where.
-/

namespace CatalogGateway.Base64

/-- The octet that stands for a value below 64. -/
def symbol (v : Nat) : UInt8 :=
  UInt8.ofNat (if v < 26 then 65 + v else if v < 52 then 71 + v else if v < 62 then v - 4 else if v = 62 then 43 else 47)

/-- The octet that fills up the last group. -/
def padding : UInt8 := 61

/-- The value of a symbol of the alphabet. -/
def value? (b : UInt8) : Option Nat :=
  let n := b.toNat
  if 65 ≤ n ∧ n ≤ 90 then some (n - 65)
  else if 97 ≤ n ∧ n ≤ 122 then some (n - 71)
  else if 48 ≤ n ∧ n ≤ 57 then some (n + 4)
  else if n = 43 then some 62
  else if n = 47 then some 63
  else none

def encode : Bytes → Bytes
  | [] => []
  | [a] => [symbol (a.toNat / 4), symbol (a.toNat % 4 * 16), padding, padding]
  | [a, b] =>
    [symbol (a.toNat / 4), symbol (a.toNat % 4 * 16 + b.toNat / 16), symbol (b.toNat % 16 * 4), padding]
  | a :: b :: c :: rest =>
    symbol (a.toNat / 4) :: symbol (a.toNat % 4 * 16 + b.toNat / 16) ::
      symbol (b.toNat % 16 * 4 + c.toNat / 64) :: symbol (c.toNat % 64) :: encode rest

def encodeText (bytes : Bytes) : String :=
  String.ofList ((encode bytes).map fun b => Char.ofNat b.toNat)

/-- What is wrong with a text that is no base64. -/
inductive DecodeError where
  /-- An octet outside the alphabet, or padding where none may stand. -/
  | invalidSymbol (offset : Nat) (symbol : UInt8)
  /-- The last group has a single symbol. -/
  | invalidLength (length : Nat)
  /-- The last symbol has bits that belong to no octet. -/
  | invalidLastSymbol (offset : Nat) (symbol : UInt8)
  /-- The last group is not filled up to four symbols. -/
  | invalidPadding
deriving DecidableEq, Repr

def DecodeError.message : DecodeError → String
  | invalidSymbol offset symbol => "Invalid symbol " ++ symbol.toNat.repr ++ ", offset " ++ offset.repr ++ "."
  | invalidLength length => "Invalid input length: " ++ length.repr
  | invalidLastSymbol offset symbol =>
    "Invalid last symbol " ++ symbol.toNat.repr ++ ", offset " ++ offset.repr ++ "."
  | invalidPadding => "Invalid padding"

/-- The value of the symbol at the offset. -/
def valueAt (offset : Nat) (b : UInt8) : Except DecodeError Nat :=
  match value? b with
  | some v => .ok v
  | none => .error (.invalidSymbol offset b)

/-- The values of the symbols before the padding, and the length of the padding, in a last group that starts at the
offset. -/
def splitPadding (offset : Nat) : Nat → Bytes → Except DecodeError (List Nat × Nat)
  | _, [] => .ok ([], 0)
  | i, b :: rest =>
    if b = padding then
      -- a group starts with two symbols, and after padding comes padding only
      if i < 2 then .error (.invalidSymbol (offset + i) b)
      else if rest.all (· = padding) then .ok ([], rest.length + 1)
      else .error (.invalidSymbol (offset + i) b)
    else do
      let v ← valueAt (offset + i) b
      let (values, pad) ← splitPadding offset (i + 1) rest
      return (v :: values, pad)

/-- Reads the last group, of at most four symbols, that starts at the offset. -/
def decodeLast (offset : Nat) (group : Bytes) : Except DecodeError Bytes := do
  let (values, pad) ← splitPadding offset 0 group
  match values with
  | [] => if group = [] then .ok [] else .error (.invalidLength offset)
  | [_] => .error (.invalidLength (offset + 1))
  | [a, b] =>
    if pad ≠ 2 then .error .invalidPadding
    else if b % 16 ≠ 0 then .error (.invalidLastSymbol (offset + 1) (symbol b))
    else .ok [UInt8.ofNat (a * 4 + b / 16)]
  | [a, b, c] =>
    if pad ≠ 1 then .error .invalidPadding
    else if c % 4 ≠ 0 then .error (.invalidLastSymbol (offset + 2) (symbol c))
    else .ok [UInt8.ofNat (a * 4 + b / 16), UInt8.ofNat (b % 16 * 16 + c / 4)]
  | a :: b :: c :: d :: _ =>
    .ok [UInt8.ofNat (a * 4 + b / 16), UInt8.ofNat (b % 16 * 16 + c / 4), UInt8.ofNat (c % 4 * 64 + d)]

/-- Reads the groups from the offset on. -/
def decodeGroups (offset : Nat) : Bytes → Except DecodeError Bytes
  | a :: b :: c :: d :: e :: rest => do
    let a ← valueAt offset a
    let b ← valueAt (offset + 1) b
    let c ← valueAt (offset + 2) c
    let d ← valueAt (offset + 3) d
    let more ← decodeGroups (offset + 4) (e :: rest)
    return UInt8.ofNat (a * 4 + b / 16) :: UInt8.ofNat (b % 16 * 16 + c / 4) :: UInt8.ofNat (c % 4 * 64 + d) :: more
  | group => decodeLast offset group

/-- A single symbol beyond the last whole group that is neither padding nor in the alphabet.  It is reported before
anything else. -/
def strayEnd? (bytes : Bytes) : Option UInt8 :=
  if bytes.length % 4 = 1 then
    bytes.getLast?.filter fun b => b ≠ padding && (value? b).isNone
  else none

def decode (bytes : Bytes) : Except DecodeError Bytes :=
  match strayEnd? bytes with
  | some b => .error (.invalidSymbol (bytes.length - 1) b)
  | none => decodeGroups 0 bytes

end CatalogGateway.Base64
