import StreamPlan.Decimal.Numeral
import StreamPlan.Json.Value

/-! The tokens of JSON text, by RFC 8259: how they are written and how text is cut into them. -/

set_option autoImplicit false

namespace StreamPlan.Json

inductive Token where
  | openBrace
  | closeBrace
  | openBracket
  | closeBracket
  | colon
  | comma
  | null
  | bool (value : Bool)
  | number (text : String)
  | string (text : Text)
  deriving DecidableEq, Repr

namespace Token

def hexDigit (n : Nat) : Char := (Nat.toDigits 16 n).headD '0'

def hexValue? (c : Char) : Option Nat :=
  if c.isDigit then some (c.toNat - '0'.toNat)
  else if 'a' ≤ c ∧ c ≤ 'f' then some (c.toNat - 'a'.toNat + 10)
  else if 'A' ≤ c ∧ c ≤ 'F' then some (c.toNat - 'A'.toNat + 10)
  else none

-- A character inside quotes. Controls below the space are escaped, with a short form where there is
-- one; every other character but the quote and the backslash stands for itself.
def escape (c : Char) : List Char :=
  if c = '"' then ['\\', '"']
  else if c = '\\' then ['\\', '\\']
  else if c = '\x08' then ['\\', 'b']
  else if c = '\x0c' then ['\\', 'f']
  else if c = '\n' then ['\\', 'n']
  else if c = '\r' then ['\\', 'r']
  else if c = '\t' then ['\\', 't']
  else if c.toNat < 0x20 then
    ['\\', 'u', '0', '0', hexDigit (c.toNat / 16), hexDigit (c.toNat % 16)]
  else [c]

def quote (text : String) : List Char := '"' :: (text.toList.flatMap escape ++ ['"'])

def unescape? : Char → Option Char
  | '"' => some '"'
  | '\\' => some '\\'
  | '/' => some '/'
  | 'b' => some '\x08'
  | 'f' => some '\x0c'
  | 'n' => some '\n'
  | 'r' => some '\r'
  | 't' => some '\t'
  | _ => none

/-- A character of a string's content, or a 16-bit unit written as `\uXXXX`. -/
inductive Piece where
  | char (c : Char)
  | unit (code : Nat)
  deriving DecidableEq, Repr

/-- Reads the content of a string up to its closing quote; `read` holds the pieces before, the
latest first. -/
def scanString (read : List Piece) : List Char → Option (List Piece × List Char)
  | [] => none
  | '"' :: rest => some (read.reverse, rest)
  | '\\' :: 'u' :: a :: b :: c :: d :: rest =>
    match hexValue? a, hexValue? b, hexValue? c, hexValue? d with
    | some a, some b, some c, some d =>
      scanString (.unit (((a * 16 + b) * 16 + c) * 16 + d) :: read) rest
    | _, _, _, _ => none
  | '\\' :: letter :: rest =>
    match unescape? letter with
    | some c => scanString (.char c :: read) rest
    | none => none
  | c :: rest =>
    if c = '\\' ∨ c.toNat < 0x20 then none else scanString (.char c :: read) rest

def isHigh (code : Nat) : Bool := decide (0xD800 ≤ code ∧ code < 0xDC00)

def isLow (code : Nat) : Bool := decide (0xDC00 ≤ code ∧ code < 0xE000)

-- Joins each pair of surrogates into the character it stands for; `joined` holds the characters
-- before, the latest first. There is no result when one half stands alone.
def joinPieces (joined : List Char) : List Piece → Option (List Char)
  | [] => some joined.reverse
  | .char c :: rest => joinPieces (c :: joined) rest
  | .unit high :: .unit low :: rest =>
    if isHigh high then
      if isLow low then
        let code := 0x10000 + (high - 0xD800) * 0x400 + (low - 0xDC00)
        joinPieces (Char.ofNat code :: joined) rest
      else none
    else if isLow high then none
    else joinPieces (Char.ofNat high :: joined) (.unit low :: rest)
  | .unit code :: rest =>
    if isHigh code || isLow code then none else joinPieces (Char.ofNat code :: joined) rest

def isNumberChar (c : Char) : Bool :=
  c.isDigit || c == '.' || c == 'e' || c == 'E' || c == '+' || c == '-'

def isWhole : List Char → Bool
  | ['0'] => true
  | '0' :: _ => false
  | digits => Numeral.isDigits digits

def isExponent (cs : List Char) : Bool := (Numeral.exponent? cs).isSome

/-- A fraction with one or more digits or none at all, then an exponent or none. -/
def isFractionExponent : List Char → Bool
  | '.' :: rest =>
    Numeral.isDigits (rest.takeWhile Char.isDigit) && isExponent (rest.dropWhile Char.isDigit)
  | rest => isExponent rest

def withoutMinus : List Char → List Char
  | '-' :: rest => rest
  | cs => cs

/-- The number grammar: an optional minus sign, a whole part, a fraction and an exponent. -/
def isNumber (cs : List Char) : Bool :=
  let unsigned := withoutMinus cs
  isWhole (unsigned.takeWhile Char.isDigit) && isFractionExponent (unsigned.dropWhile Char.isDigit)

def isSpace (c : Char) : Bool := c == ' ' || c == '\t' || c == '\n' || c == '\r'

def punctuation? : Char → Option Token
  | '\x7b' => some .openBrace
  | '\x7d' => some .closeBrace
  | '[' => some .openBracket
  | ']' => some .closeBracket
  | ':' => some .colon
  | ',' => some .comma
  | _ => none

def word? (cs : List Char) : Option (Token × List Char) :=
  match cs with
  | 't' :: 'r' :: 'u' :: 'e' :: rest => some (.bool true, rest)
  | 'f' :: 'a' :: 'l' :: 's' :: 'e' :: rest => some (.bool false, rest)
  | 'n' :: 'u' :: 'l' :: 'l' :: rest => some (.null, rest)
  | _ => none

/-- The token at the start of the text, which begins with no space. -/
def next? (c : Char) (rest : List Char) : Option (Token × List Char) :=
  match punctuation? c with
  | some token => some (token, rest)
  | none =>
    if c = '"' then
      (scanString [] rest).map fun (pieces, rest) =>
        (.string ((joinPieces [] pieces).map String.ofList), rest)
    else if c = '-' ∨ c.isDigit then
      let text := c :: rest.takeWhile isNumberChar
      if isNumber text then some (.number (String.ofList text), rest.dropWhile isNumberChar)
      else none
    else word? (c :: rest)

-- The characters of a token. A string that denotes no text has no written form of its own and is
-- written as an empty one.
def chars : Token → List Char
  | .openBrace => ['\x7b']
  | .closeBrace => ['\x7d']
  | .openBracket => ['[']
  | .closeBracket => [']']
  | .colon => [':']
  | .comma => [',']
  | .null => ['n', 'u', 'l', 'l']
  | .bool true => ['t', 'r', 'u', 'e']
  | .bool false => ['f', 'a', 'l', 's', 'e']
  | .number text => text.toList
  | .string text => quote (text.getD "")

theorem scanString_length {read : List Piece} {cs : List Char} {pieces : List Piece}
    {rest : List Char} (scanned : scanString read cs = some (pieces, rest)) :
    rest.length < cs.length := by
  fun_induction scanString read cs <;> simp_all <;> omega

theorem next?_length {c : Char} {cs rest : List Char} {token : Token}
    (found : next? c cs = some (token, rest)) : rest.length ≤ cs.length := by
  unfold next? at found
  split at found
  · simp_all
  · split at found
    · simp only [Option.map_eq_some_iff, Prod.mk.injEq] at found
      obtain ⟨⟨pieces, tail⟩, scanned, _, rfl⟩ := found
      exact Nat.le_of_lt (scanString_length scanned)
    · split at found
      · dsimp only at found
        split at found
        · simp only [Option.some.injEq, Prod.mk.injEq] at found
          rw [← found.2]
          exact (List.dropWhile_suffix _).length_le
        · simp at found
      · unfold word? at found
        split at found <;> simp_all <;> omega

def scan (read : List Token) : List Char → Option (List Token)
  | [] => some read.reverse
  | c :: cs =>
    if isSpace c then scan read cs
    else match _found : next? c cs with
      | some (token, rest) => scan (token :: read) rest
      | none => none
termination_by cs => cs.length
decreasing_by
  · simp
  · have := next?_length _found
    simp
    omega

@[simp] theorem scan_nil (read : List Token) : scan read [] = some read.reverse := by rw [scan]

theorem scan_space {c : Char} (space : isSpace c = true) (read : List Token) (cs : List Char) :
    scan read (c :: cs) = scan read cs := by
  rw [scan]
  simp [space]

theorem scan_token {c : Char} {cs rest : List Char} {token : Token} (visible : isSpace c = false)
    (found : next? c cs = some (token, rest)) (read : List Token) :
    scan read (c :: cs) = scan (token :: read) rest := by
  rw [scan]
  simp only [visible, Bool.false_eq_true, if_false]
  split <;> simp_all

end Token
end StreamPlan.Json
