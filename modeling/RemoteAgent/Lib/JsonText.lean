import RemoteAgent.Lib.Json

/-!
# JSON texts

`dumps` writes the compact ASCII text of a value: no blanks, members in ascending
key order, every character outside printable ASCII escaped, one outside the
basic plane as a surrogate pair; `compact` keeps the members in their order and
these characters as they are.  `read` reads any JSON text, blanks between
tokens included, and `loads` answers the canonical form of what the text denotes.

The order of the members is the only difference between the text of `dumps` and one
that keeps insertion order, so its length is the length of either.  An escape that
names a lone surrogate has no `Char` and is read as an error; `ScalarText` is a
text without one, which a reader that has such characters reads alike.

`Wire.Json.loads_dumps` (in `RemoteAgent.Lib.JsonRoundTrip`) is the round trip.
-/

namespace Wire

/-! ## Writing -/

/-- Four lower-case hexadecimal digits. -/
def hex4 (n : Nat) : List Char :=
  [Nat.digitChar (n / 4096 % 16), Nat.digitChar (n / 256 % 16),
    Nat.digitChar (n / 16 % 16), Nat.digitChar (n % 16)]

/-- One UTF-16 code unit as an escape. -/
def escapeUnit (n : Nat) : List Char := '\\' :: 'u' :: hex4 n

/-- A character inside a string literal, of an ASCII text or of any. -/
def escapeChar (ascii : Bool) (c : Char) : List Char :=
  if c = '"' then ['\\', '"']
  else if c = '\\' then ['\\', '\\']
  else if c = '\n' then ['\\', 'n']
  else if c = '\r' then ['\\', 'r']
  else if c = '\t' then ['\\', 't']
  else if c = '\x0c' then ['\\', 'f']
  else if c = '\x08' then ['\\', 'b']
  else if 32 ≤ c.toNat ∧ (ascii = true → c.toNat ≤ 126) then [c]
  else if c.toNat < 0x10000 then escapeUnit c.toNat
  else
    escapeUnit (0xD800 + (c.toNat - 0x10000) / 1024) ++
      escapeUnit (0xDC00 + (c.toNat - 0x10000) % 1024)

def escapeChars (ascii : Bool) : List Char → List Char
  | [] => []
  | c :: cs => escapeChar ascii c ++ escapeChars ascii cs

/-- A string literal without its opening quote. -/
def closeQuote (ascii : Bool) (s : String) : List Char := escapeChars ascii s.toList ++ ['"']

def intText (i : Int) : List Char :=
  if i < 0 then '-' :: Nat.toDigits 10 i.natAbs else Nat.toDigits 10 i.natAbs

namespace Json

mutual

/-- The text of a value, members in the order in which they are listed. -/
def render (ascii : Bool) : Json → List Char
  | .null => ['n', 'u', 'l', 'l']
  | .bool true => ['t', 'r', 'u', 'e']
  | .bool false => ['f', 'a', 'l', 's', 'e']
  | .int i => intText i
  | .float f => f.text
  | .str s => '"' :: closeQuote ascii s
  | .arr [] => ['[', ']']
  | .arr (x :: xs) => '[' :: (render ascii x ++ renderElems ascii xs)
  | .obj [] => ['{', '}']
  | .obj ((k, v) :: fs) =>
      '{' :: '"' :: (closeQuote ascii k ++ ':' :: (render ascii v ++ renderMembers ascii fs))

/-- The elements after the first, and the closing bracket. -/
def renderElems (ascii : Bool) : List Json → List Char
  | [] => [']']
  | x :: xs => ',' :: (render ascii x ++ renderElems ascii xs)

/-- The members after the first, and the closing brace. -/
def renderMembers (ascii : Bool) : List (String × Json) → List Char
  | [] => ['}']
  | (k, v) :: fs =>
      ',' :: '"' :: (closeQuote ascii k ++ ':' :: (render ascii v ++ renderMembers ascii fs))

end

/-- `json.dumps(value, sort_keys=True, separators=(",", ":"), ensure_ascii=True)`. -/
def dumps (j : Json) : String := String.ofList (j.canon.render true)

/-- `json.dumps(value, separators=(",", ":"), ensure_ascii=False)`. -/
def compact (j : Json) : String := String.ofList (j.render false)

end Json

/-! ## Reading -/

def isBlank (c : Char) : Bool := c == ' ' || c == '\t' || c == '\n' || c == '\r'

def skipBlanks (cs : List Char) : List Char := cs.dropWhile isBlank

def hexValue (c : Char) : Option Nat :=
  if '0' ≤ c ∧ c ≤ '9' then some (c.toNat - 48)
  else if 'a' ≤ c ∧ c ≤ 'f' then some (c.toNat - 87)
  else if 'A' ≤ c ∧ c ≤ 'F' then some (c.toNat - 55)
  else none

/-- The code unit four hexadecimal digits name. -/
def unitValue (a b c d : Char) : Option Nat :=
  match hexValue a, hexValue b, hexValue c, hexValue d with
  | some a, some b, some c, some d => some (a * 4096 + b * 256 + c * 16 + d)
  | _, _, _, _ => none

/-- The two-character escapes. -/
def unescape (c : Char) : Option Char :=
  if c = '"' then some '"'
  else if c = '\\' then some '\\'
  else if c = '/' then some '/'
  else if c = 'n' then some '\n'
  else if c = 'r' then some '\r'
  else if c = 't' then some '\t'
  else if c = 'f' then some '\x0c'
  else if c = 'b' then some '\x08'
  else none

def push (c : Char) : Option (List Char × List Char) → Option (List Char × List Char)
  | some (s, rest) => some (c :: s, rest)
  | none => none

/-- Read a string literal whose opening quote is gone. -/
def scanString : List Char → Option (List Char × List Char)
  | [] => none
  | c :: cs =>
      if c = '"' then some ([], cs)
      else if c = '\\' then
        match cs with
        | [] => none
        | e :: cs =>
            if e = 'u' then
              match cs with
              | a :: b :: c :: d :: cs =>
                  match unitValue a b c d with
                  | none => none
                  | some unit =>
                      if 0xD800 ≤ unit ∧ unit < 0xDC00 then
                        match cs with
                        | s :: u :: a :: b :: c :: d :: cs =>
                            if s = '\\' ∧ u = 'u' then
                              match unitValue a b c d with
                              | none => none
                              | some low =>
                                  if 0xDC00 ≤ low ∧ low < 0xE000 then
                                    push (Char.ofNat (0x10000 + (unit - 0xD800) * 1024 +
                                      (low - 0xDC00))) (scanString cs)
                                  else none
                            else none
                        | _ => none
                      else if 0xDC00 ≤ unit ∧ unit < 0xE000 then none
                      else push (Char.ofNat unit) (scanString cs)
              | _ => none
            else
              match unescape e with
              | some c => push c (scanString cs)
              | none => none
      else if c.toNat < 32 then none
      else push c (scanString cs)

/-- The integer an integer numeral denotes. -/
def intValue : List Char → Int
  | '-' :: cs => -(Nat.ofDigitChars 10 cs 0 : Nat)
  | cs => (Nat.ofDigitChars 10 cs 0 : Nat)

def parseNumber (cs : List Char) : Option (Json × List Char) :=
  match scanNumber cs with
  | none => none
  | some (text, rest, false) => some (.int (intValue text), rest)
  | some (text, rest, true) =>
      if ok : isFloatText text = true then some (.float ⟨text, ok⟩, rest) else none

/-- The remainder after an expected word. -/
def word (w : List Char) (j : Json) (cs : List Char) : Option (Json × List Char) :=
  if w.isPrefixOf cs then some (j, cs.drop w.length) else none

mutual

/-- Read one value.  The fuel bounds the nesting; `loads` passes enough. -/
def parseValue : Nat → List Char → Option (Json × List Char)
  | 0, _ => none
  | _ + 1, [] => none
  | n + 1, c :: cs =>
      if c = '"' then
        match scanString cs with
        | some (s, rest) => some (.str (String.ofList s), rest)
        | none => none
      else if c = '[' then
        match skipBlanks cs with
        | [] => none
        | d :: rest =>
            if d = ']' then some (.arr [], rest)
            else
              match parseValue n (d :: rest) with
              | none => none
              | some (x, rest) =>
                  match parseElems n rest with
                  | none => none
                  | some (xs, rest) => some (.arr (x :: xs), rest)
      else if c = '{' then
        match skipBlanks cs with
        | [] => none
        | d :: rest =>
            if d = '}' then some (.obj [], rest)
            else if d = '"' then
              match parseMember n rest with
              | none => none
              | some (m, rest) =>
                  match parseMembers n rest with
                  | none => none
                  | some (fs, rest) => some (.obj (m :: fs), rest)
            else none
      else if c = 'n' then word ['n', 'u', 'l', 'l'] .null (c :: cs)
      else if c = 't' then word ['t', 'r', 'u', 'e'] (.bool true) (c :: cs)
      else if c = 'f' then word ['f', 'a', 'l', 's', 'e'] (.bool false) (c :: cs)
      else parseNumber (c :: cs)

/-- Read the elements after the first, and the closing bracket. -/
def parseElems : Nat → List Char → Option (List Json × List Char)
  | 0, _ => none
  | n + 1, cs =>
      match skipBlanks cs with
      | [] => none
      | d :: rest =>
          if d = ']' then some ([], rest)
          else if d = ',' then
            match parseValue n (skipBlanks rest) with
            | none => none
            | some (x, rest) =>
                match parseElems n rest with
                | none => none
                | some (xs, rest) => some (x :: xs, rest)
          else none

/-- Read a member whose opening quote is gone. -/
def parseMember : Nat → List Char → Option ((String × Json) × List Char)
  | 0, _ => none
  | n + 1, cs =>
      match scanString cs with
      | none => none
      | some (k, rest) =>
          match skipBlanks rest with
          | [] => none
          | d :: rest =>
              if d = ':' then
                match parseValue n (skipBlanks rest) with
                | none => none
                | some (v, rest) => some ((String.ofList k, v), rest)
              else none

/-- Read the members after the first, and the closing brace. -/
def parseMembers : Nat → List Char → Option (List (String × Json) × List Char)
  | 0, _ => none
  | n + 1, cs =>
      match skipBlanks cs with
      | [] => none
      | d :: rest =>
          if d = '}' then some ([], rest)
          else if d = ',' then
            match skipBlanks rest with
            | [] => none
            | q :: rest =>
                if q = '"' then
                  match parseMember n rest with
                  | none => none
                  | some (m, rest) =>
                      match parseMembers n rest with
                      | none => none
                      | some (fs, rest) => some (m :: fs, rest)
                else none
          else none

end

namespace Json

/-- The value of a text, its members as they are written; `none` stands for the
decode error. -/
def read (text : String) : Option Json :=
  let cs := text.toList
  match parseValue (2 * cs.length + 2) (skipBlanks cs) with
  | none => none
  | some (j, rest) =>
      match skipBlanks rest with
      | [] => some j
      | _ :: _ => none

/-- `json.loads(text)`. -/
def loads (text : String) : Option Json := (read text).map canon

/-- `sys.int_info.default_max_str_digits`. -/
def maxIntDigits : Nat := 4300

mutual

/-- Whether a value holds an integer with too many digits to be converted. -/
def overlong : Json → Bool
  | .int i => decide (10 ^ maxIntDigits ≤ i.natAbs)
  | .arr xs => overlongElems xs
  | .obj fs => overlongMembers fs
  | _ => false

def overlongElems : List Json → Bool
  | [] => false
  | x :: xs => overlong x || overlongElems xs

def overlongMembers : List (String × Json) → Bool
  | [] => false
  | (_, v) :: fs => overlong v || overlongMembers fs

end

end Json

/-- No escape names a lone surrogate.  After an escape that is none the text is an error
for every reader. -/
def paired : List Char → Bool
  | [] => true
  | c :: cs =>
      if c = '\\' then
        match cs with
        | [] => true
        | e :: cs =>
            if e = 'u' then
              match cs with
              | a :: b :: c :: d :: cs =>
                  match unitValue a b c d with
                  | none => true
                  | some unit =>
                      if 0xD800 ≤ unit ∧ unit < 0xDC00 then
                        match cs with
                        | s :: u :: a :: b :: c :: d :: cs =>
                            if s = '\\' ∧ u = 'u' then
                              match unitValue a b c d with
                              | none => true
                              | some low =>
                                  if 0xDC00 ≤ low ∧ low < 0xE000 then paired cs else false
                            else false
                        | _ => false
                      else if 0xDC00 ≤ unit ∧ unit < 0xE000 then false
                      else paired cs
              | _ => true
            else paired cs
      else paired cs

/-- A text in which no escape names a lone surrogate. -/
structure ScalarText where
  text : String
  isPaired : paired text.toList = true

end Wire
