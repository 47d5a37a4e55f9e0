import StreamPlan.Text.Trim

/-! Expression text as tokens. A quote opens a string only at the start of a token, and only where
the string is closed and followed by a comma, a closing parenthesis or the end; any other quote is
an ordinary character. -/

set_option autoImplicit false

namespace StreamPlan.Expr

inductive Lexeme where
  | opening
  | closing
  | comma
  -- A quoted string, with its escapes resolved.
  | quoted (text : String)
  -- A run of other characters up to the next delimiter, without blanks at its ends.
  | run (text : String)
  deriving DecidableEq, Repr

structure Token where
  position : Nat
  lexeme : Lexeme
  deriving DecidableEq, Repr

def Lexeme.render : Lexeme → String
  | .opening => "("
  | .closing => ")"
  | .comma => ","
  | .quoted text => "'" ++ text ++ "'"
  | .run text => text

namespace Token

def isDelimiter (c : Char) : Bool := c == '(' || c == ')' || c == ','

def unescape (c : Char) : List Char :=
  if c = 'n' then ['\n']
  else if c = 't' then ['\t']
  else if c = '\\' ∨ c = '\'' ∨ c = '"' then [c]
  else ['\\', c]

/-- Whether a string may end before this text: nothing follows but blanks, or next comes a comma
or a closing parenthesis. -/
def mayFollowString (cs : List Char) : Bool :=
  match cs.find? (!Text.isBlank ·) with
  | none => true
  | some c => c == ',' || c == ')'

/-- Reads a string after its opening quote, given what has been read of it, the latest first, and
the number of characters so far. -/
def quotedFrom? (quote : Char) (text : List Char) (length : Nat) :
    List Char → Option (List Char × Nat × List Char)
  | [] => none
  | '\\' :: c :: rest => quotedFrom? quote ((unescape c).reverse ++ text) (length + 2) rest
  | c :: rest =>
    if c = quote then
      if mayFollowString rest then some (text.reverse, length + 1, rest) else none
    else quotedFrom? quote (c :: text) (length + 1) rest

/-- The string that opens with this quote: its text, its length with both quotes, and the rest. -/
def quoted? (quote : Char) (rest : List Char) : Option (List Char × Nat × List Char) :=
  if quote = '\'' ∨ quote = '"' then quotedFrom? quote [] 1 rest else none

theorem quotedFrom?_length {quote : Char} {text : List Char} {length : Nat} {cs : List Char}
    {result : List Char × Nat × List Char}
    (found : quotedFrom? quote text length cs = some result) :
    result.2.2.length < cs.length := by
  fun_induction quotedFrom? quote text length cs <;> simp_all <;> grind

theorem quoted?_length {quote : Char} {cs : List Char} {result : List Char × Nat × List Char}
    (found : quoted? quote cs = some result) : result.2.2.length < cs.length := by
  unfold quoted? at found
  split at found
  · exact quotedFrom?_length found
  · simp at found

def delimiter? (c : Char) : Option Lexeme :=
  if c = '(' then some .opening
  else if c = ')' then some .closing
  else if c = ',' then some .comma
  else none

def scanFrom (position : Nat) : List Char → List Token
  | [] => []
  | c :: rest =>
    if Text.isBlank c then scanFrom (position + 1) rest
    else match delimiter? c with
      | some lexeme => ⟨position, lexeme⟩ :: scanFrom (position + 1) rest
      | none =>
        match _found : quoted? c rest with
        | some (text, length, after) =>
          ⟨position, .quoted (String.ofList text)⟩ :: scanFrom (position + length) after
        | none =>
          let run := c :: rest.takeWhile (!isDelimiter ·)
          ⟨position, .run (String.ofList (Text.trimEnd run))⟩ ::
            scanFrom (position + run.length) (rest.dropWhile (!isDelimiter ·))
termination_by cs => cs.length
decreasing_by
  · simp
  · simp
  · have := quoted?_length _found
    simp at this ⊢
    omega
  · have := (List.dropWhile_suffix (!isDelimiter ·) (l := rest)).length_le
    simp
    omega

@[simp] theorem scanFrom_nil (position : Nat) : scanFrom position [] = [] := by rw [scanFrom]

theorem scanFrom_blank {c : Char} (blank : Text.isBlank c = true) (position : Nat)
    (rest : List Char) : scanFrom position (c :: rest) = scanFrom (position + 1) rest := by
  rw [scanFrom]
  simp [blank]

theorem scanFrom_delimiter {c : Char} {lexeme : Lexeme} (visible : Text.isBlank c = false)
    (delimiter : delimiter? c = some lexeme) (position : Nat) (rest : List Char) :
    scanFrom position (c :: rest) = ⟨position, lexeme⟩ :: scanFrom (position + 1) rest := by
  rw [scanFrom]
  simp [visible, delimiter]

theorem scanFrom_quoted {c : Char} {rest text after : List Char} {length : Nat}
    (visible : Text.isBlank c = false) (ordinary : delimiter? c = none)
    (string : quoted? c rest = some (text, length, after)) (position : Nat) :
    scanFrom position (c :: rest) =
      ⟨position, .quoted (String.ofList text)⟩ :: scanFrom (position + length) after := by
  rw [scanFrom]
  simp only [visible, ordinary, Bool.false_eq_true, if_false]
  split
  · simp_all
  · simp_all

theorem scanFrom_run {c : Char} {rest : List Char} (visible : Text.isBlank c = false)
    (ordinary : delimiter? c = none) (noString : quoted? c rest = none) (position : Nat) :
    scanFrom position (c :: rest) =
      ⟨position, .run (String.ofList (Text.trimEnd (c :: rest.takeWhile (!isDelimiter ·))))⟩ ::
        scanFrom (position + (c :: rest.takeWhile (!isDelimiter ·)).length)
          (rest.dropWhile (!isDelimiter ·)) := by
  rw [scanFrom]
  simp only [visible, ordinary, Bool.false_eq_true, if_false]
  split
  · simp_all
  · rfl

def scan (text : String) : List Token := scanFrom 0 text.toList

end Token
end StreamPlan.Expr
