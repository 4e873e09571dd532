import CatalogGateway.Json.Basic
import CatalogGateway.Number.Layout
import CatalogGateway.Text.Ascii
import CatalogGateway.Text.Utf8

/-!
# Writing JSON

The compact text of a JSON value: no blanks, members in their order, and only quotes, backslashes and control
characters escaped.
-/

namespace CatalogGateway.Json

/-- A character as it stands in a JSON string. -/
def escapeChar (c : Char) : List Char :=
  if c = '"' then ['\\', '"']
  else if c = '\\' then ['\\', '\\']
  else if c = '\x08' then ['\\', 'b']
  else if c = '\x0c' then ['\\', 'f']
  else if c = '\n' then ['\\', 'n']
  else if c = '\r' then ['\\', 'r']
  else if c = '\t' then ['\\', 't']
  else if c.toNat < 0x20 then
    ['\\', 'u', '0', '0', Nat.digitChar (c.toNat / 16), Nat.digitChar (c.toNat % 16)]
  else [c]

/-- The characters as they stand in a JSON string, with the closing quote. -/
def escape (cs : List Char) : List Char := cs.flatMap escapeChar ++ ['"']

/-- The JSON string of a text. -/
def renderString (s : String) : List Char := '"' :: escape s.toList

/-- The numeral of a number. -/
def Number.render : Number → List Char
  | integer n => Decimal.numeral n
  | real x => x.text.toList

mutual

/-- The characters of the compact text. -/
def render : Json → List Char
  | null => ['n', 'u', 'l', 'l']
  | bool true => ['t', 'r', 'u', 'e']
  | bool false => ['f', 'a', 'l', 's', 'e']
  | number n => n.render
  | string s => renderString s
  | array [] => ['[', ']']
  | array (v :: rest) => '[' :: render v ++ renderItems rest
  | object [] => ['{', '}']
  | object ((k, v) :: rest) => '{' :: renderString k ++ ':' :: render v ++ renderMembers rest

def renderItems : List Json → List Char
  | [] => [']']
  | v :: rest => ',' :: render v ++ renderItems rest

def renderMembers : List (String × Json) → List Char
  | [] => ['}']
  | (k, v) :: rest => ',' :: renderString k ++ ':' :: render v ++ renderMembers rest

end

/-- The compact text of a JSON value. -/
def text (v : Json) : String := String.ofList v.render

/-- The octets of the compact text of a JSON value. -/
def bytes (v : Json) : Bytes := Text.Utf8.encode v.text

end CatalogGateway.Json
