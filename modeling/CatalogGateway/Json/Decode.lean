import CatalogGateway.Json.Basic
import CatalogGateway.NameMap
import CatalogGateway.Number.Layout
import CatalogGateway.Text.Quoted

/-!
# Decoding JSON

Decoders from JSON values to the types of a program, and the errors they give.  A record is described member by member
(`Record`): it is read from an object, where the order of the members and members it does not know do not matter, or
from an array that lists its fields in order.
-/

namespace CatalogGateway.Json

/-- Why a JSON value is not accepted. -/
inductive DecodeError where
  /-- A value of another kind than expected. -/
  | invalidType (found : Json) (expected : String)
  /-- A value of the right kind that is out of range. -/
  | invalidValue (found : Json) (expected : String)
  /-- An array of the wrong length. -/
  | invalidLength (length : Nat) (expected : String)
  /-- An object without a member that it must have. -/
  | missingField (name : String)
  /-- A name that is none of the alternatives. -/
  | unknownVariant (name : String) (expected : List String)

/-- The words for a value in a message. -/
def describe : Json → String
  | null => "null"
  | bool true => "boolean `true`"
  | bool false => "boolean `false`"
  | number (.integer n) => "integer `" ++ Decimal.text n ++ "`"
  | number (.real x) => "floating point `" ++ x.text ++ "`"
  | string s => "string " ++ Text.quoted s
  | array _ => "sequence"
  | object _ => "map"

/-- The words for a choice among names. -/
def choice : List String → String
  | [] => "there are no variants"
  | [a] => "expected `" ++ a ++ "`"
  | [a, b] => "expected `" ++ a ++ "` or `" ++ b ++ "`"
  | names => "expected one of " ++ ", ".intercalate (names.map fun n => "`" ++ n ++ "`")

def DecodeError.message : DecodeError → String
  | invalidType found expected => "invalid type: " ++ describe found ++ ", expected " ++ expected
  | invalidValue found expected => "invalid value: " ++ describe found ++ ", expected " ++ expected
  | invalidLength length expected => "invalid length " ++ length.repr ++ ", expected " ++ expected
  | missingField name => "missing field `" ++ name ++ "`"
  | unknownVariant name expected => "unknown variant `" ++ name ++ "`, " ++ choice expected

/-- A reading of JSON values as values of a type. -/
abbrev Decoder (α : Type) := Json → Except DecodeError α

def decodeText : Decoder String
  | string s => .ok s
  | v => .error (.invalidType v "a string")

def decodeBool : Decoder Bool
  | bool b => .ok b
  | v => .error (.invalidType v "a boolean")

/-- Reads an integer of the range below the bound; `kind` names the range in messages. -/
def decodeBelow (bound : Nat) (kind : String) : Decoder Nat
  | number (.integer n) =>
    if 0 ≤ n ∧ n < bound then .ok n.toNat else .error (.invalidValue (number (.integer n)) kind)
  | v => .error (.invalidType v kind)

def decodeUInt16 : Decoder UInt16 := fun v => (decodeBelow UInt16.size "u16" v).map UInt16.ofNat

def decodeUInt32 : Decoder UInt32 := fun v => (decodeBelow UInt32.size "u32" v).map UInt32.ofNat

def decodeList {α : Type} (item : Decoder α) : Decoder (List α)
  | array items => items.mapM item
  | v => .error (.invalidType v "a sequence")

/-- Reads the members of an object in their order. -/
def decodeMembers {α : Type} (value : Decoder α) : Decoder (List (String × α))
  | object members => members.mapM fun m => (value m.2).map fun a => (m.1, a)
  | v => .error (.invalidType v "a map")

/-- Reads an object as a map from names. -/
def decodeNameMap {α : Type} (value : Decoder α) : Decoder (NameMap α) := fun v =>
  (decodeMembers value v).map NameMap.ofList

/-- Reads a value or null. -/
def decodeOption {α : Type} (value : Decoder α) : Decoder (Option α)
  | null => .ok none
  | v => (value v).map some

/-- Reads one of several named alternatives: its name, or an object with null under its name. -/
def decodeChoice {α : Type} (alternatives : List (String × α)) : Decoder α
  | string s => named s
  | object [(name, v)] => do
    let a ← named name
    match v with
    | null => return a
    | v => .error (.invalidType v "unit")
  | object members => .error (.invalidValue (object members) "map with a single key")
  | v => .error (.invalidType v "string or map")
where
  /-- The alternative of the given name. -/
  named (name : String) : Except DecodeError α :=
    match alternatives.lookup name with
    | some a => .ok a
    | none => .error (.unknownVariant name (alternatives.map (·.1)))

/-- Where a record finds the values of its fields. -/
structure Fields where
  find? : String → Option Json
  /-- The fields are given by position: only a field that may be left out at the end can be missing. -/
  positional : Bool
  /-- The error for a field that is missing and must not be. -/
  missing : String → DecodeError

/-- A description of how a record is read: its fields in order, each with the check of a value given for it, and the
record that the fields make up. -/
structure Record (α : Type) where
  fields : List (String × (Json → Except DecodeError Unit))
  build : Fields → Except DecodeError α

namespace Record

variable {α β : Type}

instance : Applicative Record where
  pure a := ⟨[], fun _ => .ok a⟩
  seq f x := ⟨f.fields ++ (x ()).fields,
    fun given => f.build given >>= fun g => (x ()).build given >>= fun a => .ok (g a)⟩

@[simp] theorem fields_pure (a : α) : (pure a : Record α).fields = [] := rfl

@[simp] theorem build_pure (a : α) (given : Fields) : (pure a : Record α).build given = .ok a := rfl

@[simp] theorem fields_map (f : α → β) (r : Record α) : (f <$> r).fields = r.fields := rfl

@[simp] theorem build_map (f : α → β) (r : Record α) (given : Fields) :
    (f <$> r).build given = r.build given >>= fun a => .ok (f a) := rfl

@[simp] theorem fields_seq (f : Record (α → β)) (r : Record α) : (f <*> r).fields = f.fields ++ r.fields := rfl

@[simp] theorem build_seq (f : Record (α → β)) (r : Record α) (given : Fields) :
    (f <*> r).build given = f.build given >>= fun g => r.build given >>= fun a => .ok (g a) := rfl

/-- A field that is read as told when it is given; `absent` says what it is when it is not. -/
def field (name : String) (value : Decoder α) (absent : Fields → Except DecodeError α) : Record α :=
  ⟨[(name, fun v => (value v).map fun _ => ())], fun given =>
    match given.find? name with
    | some v => value v
    | none => absent given⟩

/-- A field that must be given. -/
def required (name : String) (value : Decoder α) : Record α :=
  field name value fun given => .error (given.missing name)

/-- A field with a value for the case that it is not given. -/
def withDefault (name : String) (value : Decoder α) (absent : α) : Record α :=
  field name value fun _ => .ok absent

/-- A field that may be null or not given. -/
def optional (name : String) (value : Decoder α) : Record (Option α) :=
  withDefault name (decodeOption value) none

/-- A field that may be null, and that an object, but not an array, may leave out. -/
def nullable (name : String) (value : Decoder α) : Record (Option α) :=
  field name (decodeOption value) fun given =>
    if given.positional then .error (given.missing name) else .ok none

/-- Checks the members that the record knows, in the order in which they are given. -/
def check (r : Record α) : List (String × Json) → Except DecodeError Unit
  | [] => .ok ()
  | (name, v) :: rest =>
    match r.fields.lookup name with
    | some accepts => accepts v >>= fun _ => check r rest
    | none => check r rest

def names (r : Record α) : List String := r.fields.map (·.1)

/-- The words for a record with its number of fields. -/
def describe (kind : String) (size : Nat) : String :=
  "struct " ++ kind ++ " with " ++ size.repr ++ (if size = 1 then " element" else " elements")

def ofMembers (r : Record α) (members : List (String × Json)) : Except DecodeError α := do
  r.check members
  r.build ⟨(members.lookup ·), false, .missingField⟩

def ofItems (r : Record α) (kind : String) (items : List Json) : Except DecodeError α := do
  let members := r.names.zip items
  r.check members
  let short (name : String) := .invalidLength (r.names.idxOf name) (describe kind r.names.length)
  let a ← r.build ⟨(members.lookup ·), true, short⟩
  if r.names.length < items.length then .error (.invalidLength items.length "fewer elements in array")
  else .ok a

/-- Reads a record; `kind` names it in messages. -/
def decode (kind : String) (r : Record α) : Decoder α
  | object members => r.ofMembers members
  | array items => r.ofItems kind items
  | v => .error (.invalidType v ("struct " ++ kind))

end Record

end CatalogGateway.Json
