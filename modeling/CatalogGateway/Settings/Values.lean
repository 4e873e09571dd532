import CatalogGateway.Text.Ascii
import CatalogGateway.Text.Blank

/-!
# Values of settings

How numbers and switches are written in the environment.
-/

namespace CatalogGateway.Setting

/-- Why a text is no number of 64 bits. -/
inductive NumberError where
  | empty
  | invalidDigit
  | overflow
deriving DecidableEq, Repr

def NumberError.message : NumberError → String
  | empty => "cannot parse integer from empty string"
  | invalidDigit => "invalid digit found in string"
  | overflow => "number too large to fit in target type"

/-- The bound of the numbers of 64 bits. -/
def numberBound : Nat := UInt64.size

/-- Reads further digits of a number.  The first character that is no digit, or whose digit makes the number too large,
decides. -/
def readDigits (n : Nat) : List Char → Except NumberError Nat
  | [] => .ok n
  | c :: rest =>
    match Text.digit? c with
    | none => .error .invalidDigit
    | some d => if n * 10 + d < numberBound then readDigits (n * 10 + d) rest else .error .overflow

/-- Reads a number of 64 bits: digits, possibly after a plus sign. -/
def readNumber : List Char → Except NumberError Nat
  | [] => .error .empty
  | ['+'] => .error .invalidDigit
  | '+' :: rest => readDigits 0 rest
  | cs => readDigits 0 cs

def number (s : String) : Except NumberError Nat := readNumber (Text.trim s).toList

/-- The state of a switch that a text writes. -/
def switch? (s : String) : Option Bool :=
  let word := Text.lowercase (Text.trim s)
  if ["1", "true", "yes", "on"].contains word then some true
  else if ["0", "false", "no", "off"].contains word then some false
  else none

end CatalogGateway.Setting
