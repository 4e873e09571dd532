import CatalogGateway.Http.Token
import CatalogGateway.Text.Ascii
import CatalogGateway.Text.Utf8

/-!
# Header fields

Header names, header values and the headers of a message.  Names are tokens without capital letters, values are octets
without control characters, and the headers of a message are its fields in the order in which they were added; a name
may have several values.
-/

namespace CatalogGateway

/-- The largest number of characters of a header name. -/
def maxHeaderNameLength : Nat := 65535

/-- A header name: a token without capital letters. -/
def isHeaderName (s : String) : Bool :=
  isToken s && s.toList.all (!·.isUpper) && s.toList.length ≤ maxHeaderNameLength

structure HeaderName where
  text : String
  valid : isHeaderName text = true
deriving DecidableEq

namespace HeaderName

@[ext] theorem ext {m n : HeaderName} (h : m.text = n.text) : m = n := by
  cases m
  cases n
  cases h
  rfl

/-- The header name that a text spells in any letter case. -/
def ofText? (s : String) : Option HeaderName :=
  if h : isHeaderName (Text.lowercase s) = true then some ⟨Text.lowercase s, h⟩ else none

def allow : HeaderName := ⟨"allow", by decide⟩
def contentType : HeaderName := ⟨"content-type", by decide⟩
def cookie : HeaderName := ⟨"cookie", by decide⟩
def setCookie : HeaderName := ⟨"set-cookie", by decide⟩

end HeaderName

/-- An octet that may stand in a header value: a tab, or anything but a control character of ASCII. -/
def isFieldByte (b : UInt8) : Bool := b == 9 || (32 ≤ b && b ≠ 127)

/-- An octet of a header value that reads as text by itself: a tab, a blank or a visible character of ASCII. -/
def isPlainByte (b : UInt8) : Bool := b == 9 || (32 ≤ b && b < 127)

structure HeaderValue where
  bytes : Bytes
  valid : bytes.all isFieldByte = true
deriving DecidableEq

namespace HeaderValue

@[ext] theorem ext {v w : HeaderValue} (h : v.bytes = w.bytes) : v = w := by
  cases v
  cases w
  cases h
  rfl

def ofBytes? (bytes : Bytes) : Option HeaderValue :=
  if h : bytes.all isFieldByte = true then some ⟨bytes, h⟩ else none

def ofText? (s : String) : Option HeaderValue := ofBytes? (Text.Utf8.encode s)

/-- The value as text, if it consists of plain octets. -/
def text? (v : HeaderValue) : Option String :=
  if v.bytes.all isPlainByte then Text.Utf8.decode? v.bytes else none

def json : HeaderValue := ⟨Text.Utf8.encode "application/json", by decide⟩
def problemJson : HeaderValue := ⟨Text.Utf8.encode "application/problem+json", by decide⟩
def plainText : HeaderValue := ⟨Text.Utf8.encode "text/plain; charset=utf-8", by decide⟩

end HeaderValue

structure Headers where
  fields : List (HeaderName × HeaderValue) := []
deriving DecidableEq, Inhabited

namespace Headers

/-- The headers with a value added to those of its name. -/
def append (h : Headers) (name : HeaderName) (value : HeaderValue) : Headers := ⟨h.fields ++ [(name, value)]⟩

/-- The headers with a value in place of all those of its name. -/
def set (h : Headers) (name : HeaderName) (value : HeaderValue) : Headers :=
  ⟨h.fields.filter (·.1 ≠ name) ++ [(name, value)]⟩

/-- The values of a name in the order in which they were added. -/
def getAll (h : Headers) (name : HeaderName) : List HeaderValue :=
  (h.fields.filter (·.1 = name)).map (·.2)

def get? (h : Headers) (name : HeaderName) : Option HeaderValue := (h.getAll name).head?

/-- The names that have a value, each once. -/
def names (h : Headers) : List HeaderName := (h.fields.map (·.1)).eraseDups

theorem getAll_append_self (h : Headers) (name : HeaderName) (value : HeaderValue) :
    (h.append name value).getAll name = h.getAll name ++ [value] := by
  simp [append, getAll]

theorem getAll_append_ne (h : Headers) {name other : HeaderName} (hne : other ≠ name) (value : HeaderValue) :
    (h.append name value).getAll other = h.getAll other := by
  simp [append, getAll, Ne.symm hne]

theorem getAll_set_self (h : Headers) (name : HeaderName) (value : HeaderValue) :
    (h.set name value).getAll name = [value] := by
  simp [set, getAll, List.filter_filter]

theorem getAll_set_ne (h : Headers) {name other : HeaderName} (hne : other ≠ name) (value : HeaderValue) :
    (h.set name value).getAll other = h.getAll other := by
  simp only [set, getAll, List.filter_append, List.filter_filter, List.map_append]
  have hname : List.filter (fun x => decide (x.1 = other)) [(name, value)] = [] := by simp [Ne.symm hne]
  rw [hname]
  simp only [List.map_nil, List.append_nil]
  congr 1
  refine List.filter_congr fun x _ => ?_
  by_cases hx : x.1 = other <;> simp [hx, hne]

end Headers

end CatalogGateway
