import TensorTyping.Json.Value

/-!
# Reading JSON

A text is first cut into tokens; the tokens are then taken one by one, with the containers that are
still open on a stack.

* `Json.Token`, `Json.tokens?` — the tokens of a text.
* `Json.State`, `Json.State.next?` — what has been read, and how a token extends it.
* `Json.parse?` — the value of a whole text.
-/

namespace TensorTyping.Json

/-! ## Tokens -/

inductive Token where
  | openArray
  | closeArray
  | openObject
  | closeObject
  | comma
  | colon
  | null
  | bool (value : Bool)
  | number (value : Number)
  | string (value : String)

/-- Blanks between tokens. -/
def isBlank (c : Char) : Bool :=
  c == ' ' || c == '\t' || c == '\n' || c == '\r'

def hexDigit? (c : Char) : Option Nat :=
  if '0' ≤ c ∧ c ≤ '9' then some (c.toNat - '0'.toNat)
  else if 'a' ≤ c ∧ c ≤ 'f' then some (c.toNat - 'a'.toNat + 10)
  else if 'A' ≤ c ∧ c ≤ 'F' then some (c.toNat - 'A'.toNat + 10)
  else none

/-- The code unit that four hexadecimal digits stand for. -/
def codeUnit? (a b c d : Char) : Option Nat := do
  return (((← hexDigit? a) * 16 + (← hexDigit? b)) * 16 + (← hexDigit? c)) * 16 + (← hexDigit? d)

def isHighSurrogate (unit : Nat) : Bool :=
  0xD800 ≤ unit && unit < 0xDC00

def isLowSurrogate (unit : Nat) : Bool :=
  0xDC00 ≤ unit && unit < 0xE000

/-- The character that a backslash and a letter stand for. -/
def unescape? : Char → Option Char
  | '"' => some '"'
  | '\\' => some '\\'
  | '/' => some '/'
  | 'b' => some (Char.ofNat 8)
  | 'f' => some (Char.ofNat 12)
  | 'n' => some '\n'
  | 'r' => some '\r'
  | 't' => some '\t'
  | _ => none

/-- The characters up to the closing quote, and the rest. A surrogate is read only in a pair, and
control characters only when escaped. -/
def quoted? : List Char → Option (List Char × List Char)
  | [] => none
  | '"' :: rest => some ([], rest)
  | '\\' :: 'u' :: a :: b :: c :: d :: rest => do
    let unit ← codeUnit? a b c d
    if isHighSurrogate unit then
      match rest with
      | '\\' :: 'u' :: e :: f :: g :: h :: rest =>
        let low ← codeUnit? e f g h
        if isLowSurrogate low then
          let (text, rest) ← quoted? rest
          return (Char.ofNat (0x10000 + (unit - 0xD800) * 0x400 + (low - 0xDC00)) :: text, rest)
        else none
      | _ => none
    else if isLowSurrogate unit then none
    else
      let (text, rest) ← quoted? rest
      return (Char.ofNat unit :: text, rest)
  | '\\' :: c :: rest => do
    let char ← unescape? c
    let (text, rest) ← quoted? rest
    return (char :: text, rest)
  | c :: rest =>
    if c = '\\' ∨ c.toNat < 32 then none
    else do
      let (text, rest) ← quoted? rest
      return (c :: text, rest)

/-- The digits at the head of a text, and the rest. -/
def digits (cs : List Char) : List Char × List Char :=
  cs.span Char.isDigit

/-- Appends digits to a number as long as it fits 64 bits, and answers the digits left over. -/
def absorb (n : Nat) : List Char → Nat × List Char
  | [] => (n, [])
  | c :: cs =>
    let extended := n * 10 + (c.toNat - '0'.toNat)
    if extended < UInt64.size then absorb extended cs else (n, c :: cs)

/-- The number of the given digits before and after the point and of the given exponent. As many
digits are kept as fit 64 bits. -/
def decimal (whole fraction : List Char) (exponent : Int) : Decimal :=
  let (n, unread) := absorb 0 whole
  let (n, dropped) := absorb n fraction
  ⟨n, exponent + unread.length - (fraction.length - dropped.length : Nat)⟩

/-- A number without point and exponent. Minus zero is no integer. -/
def integral (negative : Bool) (whole : List Char) : Number :=
  let n := whole.foldl (fun n c => n * 10 + (c.toNat - '0'.toNat)) 0
  if negative then
    if n = 0 ∨ UInt64.size / 2 < n then .decimal true (decimal whole [] 0) else .integer (-n)
  else
    if n < UInt64.size then .integer n else .decimal false (decimal whole [] 0)

/-- The digits before the point: a single zero, or digits that start with no zero. -/
def whole? (cs : List Char) : Option (List Char × List Char) :=
  match digits cs with
  | ([], _) => none
  | ('0' :: _ :: _, _) => none
  | found => some found

/-- The point and the digits after it, if there are any. -/
def fraction? : List Char → Option (List Char × List Char)
  | '.' :: cs =>
    match digits cs with
    | ([], _) => none
    | found => some found
  | cs => some ([], cs)

/-- An exponent, if there is one. -/
def exponent? : List Char → Option (Option Int × List Char)
  | c :: cs =>
    if c = 'e' ∨ c = 'E' then
      let (negative, cs) := match cs with
        | '+' :: cs => (false, cs)
        | '-' :: cs => (true, cs)
        | cs => (false, cs)
      match digits cs with
      | ([], _) => none
      | (found, rest) =>
        let n : Nat := found.foldl (fun n c => n * 10 + (c.toNat - '0'.toNat)) 0
        some (some (if negative then -n else n), rest)
    else some (none, c :: cs)
  | [] => some (none, [])

/-- The number at the head of a text, and the rest. None is read beyond the largest double. -/
def number? (cs : List Char) : Option (Number × List Char) := do
  let (negative, cs) := match cs with
    | '-' :: cs => (true, cs)
    | cs => (false, cs)
  let (whole, cs) ← whole? cs
  let (fraction, cs) ← fraction? cs
  let (exponent, cs) ← exponent? cs
  let n := match fraction, exponent with
    | [], none => integral negative whole
    | _, _ => .decimal negative (decimal whole fraction (exponent.getD 0))
  match n with
  | .integer _ => return (n, cs)
  | .decimal _ d =>
    let _ ← Number.magnitude? d
    return (n, cs)

/-- The token at the head of a text that starts with no blank, and the rest. -/
def token? : List Char → Option (Token × List Char)
  | '[' :: cs => some (.openArray, cs)
  | ']' :: cs => some (.closeArray, cs)
  | '\x7b' :: cs => some (.openObject, cs)
  | '\x7d' :: cs => some (.closeObject, cs)
  | ',' :: cs => some (.comma, cs)
  | ':' :: cs => some (.colon, cs)
  | 'n' :: 'u' :: 'l' :: 'l' :: cs => some (.null, cs)
  | 't' :: 'r' :: 'u' :: 'e' :: cs => some (.bool true, cs)
  | 'f' :: 'a' :: 'l' :: 's' :: 'e' :: cs => some (.bool false, cs)
  | '"' :: cs => do
    let (text, rest) ← quoted? cs
    return (.string (String.ofList text), rest)
  | cs => do
    let (n, rest) ← number? cs
    return (.number n, rest)

/-- The tokens of a text. Each takes a character at least, so a text of `fuel` characters has at
most `fuel` of them. -/
def tokensWithin? : Nat → List Char → Option (List Token)
  | fuel, cs =>
    match cs.dropWhile isBlank with
    | [] => some []
    | rest =>
      match fuel with
      | 0 => none
      | fuel + 1 => do
        let (token, rest) ← token? rest
        return token :: (← tokensWithin? fuel rest)

def tokens? (text : String) : Option (List Token) :=
  tokensWithin? text.length text.toList

/-! ## Values -/

/-- A container that is still open; what it holds so far stands in reverse. -/
inductive Frame where
  | array (items : List Json)
  | object (fields : List (String × Json))
  | member (fields : List (String × Json)) (name : String)

/-- What has been read of a text. -/
inductive State where
  /-- A value is to come. -/
  | value (stack : List Frame)
  /-- An array was opened: a value or its end is to come. -/
  | firstItem (stack : List Frame)
  /-- An object was opened: a name or its end is to come. -/
  | firstName (stack : List Frame)
  /-- A name is to come. -/
  | name (fields : List (String × Json)) (stack : List Frame)
  /-- A colon is to come. -/
  | colon (stack : List Frame)
  /-- A comma or the end of the innermost container is to come. -/
  | rest (stack : List Frame)
  /-- A whole value was read. -/
  | done (value : Json)

/-- The containers that may be open at once. -/
def maxDepth : Nat := 127

/-- The state after a whole value inside the open containers. A field given again replaces the one
before. -/
def State.deliver (value : Json) : List Frame → Option State
  | [] => some (.done value)
  | .array items :: stack => some (.rest (.array (value :: items) :: stack))
  | .member fields key :: stack =>
    some (.rest (.object ((key, value) :: fields.filter (·.1 != key)) :: stack))
  | .object _ :: _ => none

/-- Opens a container, unless too many are open. -/
def State.open? (frame : Frame) (next : List Frame → State) (stack : List Frame) : Option State :=
  if stack.length < maxDepth then some (next (frame :: stack)) else none

/-- The state after a token that starts a value. -/
def State.start? (stack : List Frame) : Token → Option State
  | .null => deliver .null stack
  | .bool b => deliver (.bool b) stack
  | .number n => deliver (.number n) stack
  | .string s => deliver (.string s) stack
  | .openArray => open? (.array []) .firstItem stack
  | .openObject => open? (.object []) .firstName stack
  | _ => none

/-- The state after one more token. -/
def State.next? : State → Token → Option State
  | .value stack, token => start? stack token
  | .firstItem (.array _ :: stack), .closeArray => deliver (.array []) stack
  | .firstItem stack, token => start? stack token
  | .firstName (.object _ :: stack), .closeObject => deliver (.object []) stack
  | .firstName (.object fields :: stack), .string s => some (.colon (.member fields s :: stack))
  | .name fields stack, .string s => some (.colon (.member fields s :: stack))
  | .colon stack, .colon => some (.value stack)
  | .rest (.array items :: stack), .comma => some (.value (.array items :: stack))
  | .rest (.array items :: stack), .closeArray => deliver (.array items.reverse) stack
  | .rest (.object fields :: stack), .comma => some (.name fields stack)
  | .rest (.object fields :: stack), .closeObject => deliver (.object fields.reverse) stack
  | _, _ => none

/-- The value that a text holds, with nothing but blanks around it. -/
def parse? (text : String) : Option Json := do
  let tokens ← tokens? text
  match ← tokens.foldlM State.next? (State.value []) with
  | .done value => return value
  | _ => none

end TensorTyping.Json
