import StreamPlan.Proofs.Expr.Spans

/-! Quotes in a text. A quote with which a token begins opens a string where the string is closed
and an argument may end behind it, and anywhere else it belongs to a run up to the next delimiter.
Every other quote is inside a token that begins before it. Between two tokens that are runs or
strings there is a delimiter. -/

set_option autoImplicit false

namespace StreamPlan.Expr

open Text (isBlank)
open Token (delimiter? isDelimiter scanFrom)

/-- The quote is met again in the text behind it, where a backslash is passed over together with
the character after it, and the first visible character after the quote that is met, if there is
one, ends an argument. -/
def IsClosed (quote : Char) (rest : List Char) : Prop :=
  ∃ body after, StringBody quote body ∧ rest = body ++ quote :: after ∧
    ∀ c ∈ firstVisible? after, c = ',' ∨ c = ')'

/-- The token is the run that begins with a character and goes on in the text behind it up to the
next delimiter or the end, without the blanks there; the others are the tokens of what is left. -/
def RunsOn (c : Char) (rest : List Char) (token : Token) (others : List Token) : Prop :=
  ∃ inside after, rest = inside ++ after ∧ (∀ d ∈ inside, isDelimiter d = false) ∧
    (∀ d ∈ after.head?, isDelimiter d = true) ∧
    token.lexeme = .run (String.ofList (Text.trimEnd (c :: inside))) ∧
    others = scanFrom (token.position + (c :: inside).length) after

structure QuoteAt (text : String) (place : Nat) (quote : Char) (rest : List Char) : Prop where
  isQuote : quote = '\'' ∨ quote = '"'
  placed : text.toList.drop place = quote :: rest

variable {text : String} {place : Nat} {quote : Char} {rest : List Char}

theorem quoted?_isSome_iff_isClosed (isQuote : quote = '\'' ∨ quote = '"') :
    (Token.quoted? quote rest).isSome = true ↔ IsClosed quote rest := by
  rw [quoted?_isSome_iff]
  constructor
  · rintro ⟨first, body, after, -, closes, same, follows⟩
    obtain ⟨rfl, rfl⟩ := List.cons.inj same
    exact ⟨body, after, closes, rfl, mayFollowString_iff.mp follows⟩
  · rintro ⟨body, after, closes, rfl, follows⟩
    exact ⟨quote, body, after, isQuote, closes, rfl, mayFollowString_iff.mpr follows⟩

theorem QuoteAt.lexeme_eq_quoted_iff {before after : List Token} {token : Token}
    (quoteAt : QuoteAt text token.position quote rest)
    (scanned : Token.scan text = before ++ token :: after) :
    ((∃ value, token.lexeme = .quoted value) ↔ IsClosed quote rest) ∧
      (¬ IsClosed quote rest → RunsOn quote rest token after) := by
  obtain ⟨visible, ordinary⟩ := visible_of_isQuote quoteAt.isQuote
  have here := scanFrom_drop scanned
  rw [quoteAt.placed] at here
  rw [← quoted?_isSome_iff_isClosed quoteAt.isQuote]
  cases string : Token.quoted? quote rest with
  | some found =>
    obtain ⟨value, length, behind⟩ := found
    rw [Token.scanFrom_quoted visible ordinary string] at here
    have lexeme := congrArg Token.lexeme (List.cons.inj here).1
    exact ⟨iff_of_true ⟨_, lexeme.symm⟩ rfl, fun isOpen => absurd rfl isOpen⟩
  | none =>
    rw [Token.scanFrom_run visible ordinary string] at here
    obtain ⟨same, others⟩ := List.cons.inj here
    have lexeme := congrArg Token.lexeme same
    refine ⟨by simp [← lexeme], fun _ => ⟨_, _, List.takeWhile_append_dropWhile.symm, ?_, ?_,
      lexeme.symm, others.symm⟩⟩
    · intro d inside
      simpa using List.mem_takeWhile_imp inside
    · intro d first
      simpa using Text.head?_dropWhile (!isDelimiter ·) rest d first

/-- What may come next: after a run a delimiter, and after a string the end of an argument. -/
def Lexeme.MayPrecede : Lexeme → Lexeme → Prop
  | .run _, next => next = .opening ∨ next = .closing ∨ next = .comma
  | .quoted _, next => next = .closing ∨ next = .comma
  | .opening, _ | .closing, _ | .comma, _ => True

/-- The first character of a token tells whether the token is a delimiter. -/
theorem ScannedBefore.head {after span : List Char} {lexeme : Lexeme}
    (scanned : ScannedBefore after lexeme span) :
    ∃ c rest, span = c :: rest ∧ isBlank c = false ∧
      (isDelimiter c = true → delimiter? c = some lexeme) := by
  cases scanned with
  | @delimiter c _ mark =>
    exact ⟨c, [], rfl, not_isBlank_of_isDelimiter (isDelimiter_of_delimiter? mark), fun _ => mark⟩
  | @quoted quote body text isQuote denotes follows =>
    obtain ⟨visible, ordinary⟩ := visible_of_isQuote isQuote
    refine ⟨quote, _, rfl, visible, fun delimiter => ?_⟩
    rw [delimiter?_eq_none_iff.mp ordinary] at delimiter
    cases delimiter
  | run isRun ends noString =>
    obtain ⟨c, rest, rfl, visible, ordinary, -⟩ := isRun.head
    refine ⟨c, rest, rfl, visible, fun delimiter => ?_⟩
    rw [delimiter?_eq_none_iff.mp ordinary] at delimiter
    cases delimiter

theorem Scans.head {rest cs : List Char} {position : Nat} {token : Token} {tokens : List Token}
    (scans : Scans rest position cs (token :: tokens)) :
    ∃ c, firstVisible? (cs ++ rest) = some c ∧
      (isDelimiter c = true → delimiter? c = some token.lexeme) := by
  cases scans with
  | @cons _ lexeme _ blanks span front blank scanned others =>
    obtain ⟨c, behind, rfl, visible, delimiter⟩ := scanned.head
    refine ⟨c, ?_, delimiter⟩
    rw [List.append_assoc, firstVisible?_append blank, List.cons_append, List.cons_append,
      firstVisible?_cons visible]

theorem ScannedBefore.mayPrecede {after span : List Char} {lexeme next : Lexeme} {c : Char}
    (scanned : ScannedBefore after lexeme span) (first : firstVisible? after = some c)
    (delimiter : isDelimiter c = true → delimiter? c = some next) : lexeme.MayPrecede next := by
  cases scanned with
  | @delimiter d _ mark =>
    rcases delimiter?_eq_some_iff.mp mark with ⟨-, rfl⟩ | ⟨-, rfl⟩ | ⟨-, rfl⟩ <;> trivial
  | quoted isQuote denotes follows =>
    rcases mayFollowString_iff.mp follows c first with rfl | rfl
    · exact Or.inr (Option.some.inj (delimiter rfl)).symm
    · exact Or.inl (Option.some.inj (delimiter rfl)).symm
  | run isRun ends noString =>
    have mark := delimiter (ends c first)
    rcases delimiter?_eq_some_iff.mp mark with ⟨-, opening⟩ | ⟨-, closing⟩ | ⟨-, comma⟩
    · exact Or.inl opening
    · exact Or.inr (Or.inl closing)
    · exact Or.inr (Or.inr comma)

theorem Scans.isChain {rest cs : List Char} {position : Nat} {tokens : List Token}
    (scans : Scans rest position cs tokens) :
    (tokens.map (·.lexeme)).IsChain Lexeme.MayPrecede := by
  induction scans with
  | nil => exact .nil
  | @cons position lexeme tokens blanks span front blank scanned others ih =>
    cases tokens with
    | nil => exact .singleton _
    | cons next tokens =>
      obtain ⟨c, first, delimiter⟩ := others.head
      exact .cons_cons (scanned.mayPrecede first delimiter) ih

def IsInside (text : String) (place : Nat) (token : Token) : Prop :=
  ∃ span back, text.toList.drop token.position = span ++ back ∧ IsSpan token.lexeme span ∧
    token.position < place ∧ place < token.position + span.length

theorem IsInside.position_ne {token : Token} (inside : IsInside text place token)
    (member : token ∈ Token.scan text) : ∀ other ∈ Token.scan text, other.position ≠ place := by
  obtain ⟨span, back, placed, isSpan, low, high⟩ := inside
  obtain ⟨before, after, scanned⟩ := List.append_of_mem member
  obtain ⟨span', back', placed', first, others⟩ := exists_scannedBefore scanned
  obtain rfl := isSpan.unique first.isSpan (placed.symm.trans placed')
  have ascending := (covers_scan text).ascending
  rw [scanned] at ascending ⊢
  intro other isOther
  rcases List.mem_append.mp isOther with earlier | here
  · have := (List.pairwise_append.mp ascending).2.2 other earlier token List.mem_cons_self
    omega
  rcases List.mem_cons.mp here with rfl | later
  · omega
  · have := others.covers.position_le other later
    omega

theorem QuoteAt.isInside_iff (quoteAt : QuoteAt text place quote rest) :
    (∃ token ∈ Token.scan text, IsInside text place token) ↔
      ∀ token ∈ Token.scan text, token.position ≠ place := by
  constructor
  · rintro ⟨token, member, inside⟩
    exact inside.position_ne member
  · intro elsewhere
    have visible := (visible_of_isQuote quoteAt.isQuote).1
    have whole : text.toList = text.toList.take place ++ quote :: rest := by
      rw [← quoteAt.placed, List.take_append_drop]
    have bounded : place ≤ text.toList.length := by
      by_contra beyond
      have placed := quoteAt.placed
      rw [List.drop_eq_nil_of_le (by omega)] at placed
      cases placed
    obtain ⟨token, member, front, span, back, split, isSpan, placed, low, high⟩ :=
      (covers_scan text).exists_span_of_visible visible whole
    rw [Nat.zero_add] at placed
    rw [List.length_take_of_le bounded, ← placed] at low high
    refine ⟨token, member, span, back, ?_, isSpan, ?_, high⟩
    · rw [split, placed, List.drop_left]
    · exact lt_of_le_of_ne low (elsewhere token member)

/-- A token that begins with a quote is a string where the string is closed and an argument may end
behind it, and a run up to the next delimiter anywhere else. Only delimiters come after runs, and
only ends of arguments after strings. A quote with which no token begins is inside a token that
begins before it. -/
theorem quotes_exact (text : String) :
    (∀ before token after quote rest, Token.scan text = before ++ token :: after →
      QuoteAt text token.position quote rest →
        ((∃ value, token.lexeme = .quoted value) ↔ IsClosed quote rest) ∧
        (¬ IsClosed quote rest → RunsOn quote rest token after)) ∧
    ((Token.scan text).map (·.lexeme)).IsChain Lexeme.MayPrecede ∧
    ∀ place quote rest, QuoteAt text place quote rest →
      ((∃ token ∈ Token.scan text, IsInside text place token) ↔
        ∀ token ∈ Token.scan text, token.position ≠ place) :=
  ⟨fun _ _ _ _ _ scanned quoteAt => quoteAt.lexeme_eq_quoted_iff scanned,
    (scans_scanFrom 0 text.toList).isChain, fun _ _ _ quoteAt => quoteAt.isInside_iff⟩

/-- A string with an escaped quote and a parenthesis in it, a quote inside a run, and one that is
met again in front of a letter. -/
theorem quotes_exact_names :
    let text := "f('a\\')' , O'Brien, \"c\" d)"
    let before : List Token := [⟨0, .run "f"⟩, ⟨1, .opening⟩, ⟨2, .quoted "a')"⟩, ⟨9, .comma⟩,
      ⟨11, .run "O'Brien"⟩, ⟨18, .comma⟩]
    let run : Token := ⟨20, .run "\"c\" d"⟩
    Token.scan text = before ++ [run, ⟨25, .closing⟩] ∧
      (QuoteAt text 2 '\'' (text.toList.drop 3) ∧ IsClosed '\'' (text.toList.drop 3)) ∧
      (QuoteAt text 12 '\'' (text.toList.drop 13) ∧
        ∃ token ∈ Token.scan text, IsInside text 12 token) ∧
      QuoteAt text 20 '"' (text.toList.drop 21) ∧ ¬ IsClosed '"' (text.toList.drop 21) ∧
        RunsOn '"' (text.toList.drop 21) run [⟨25, .closing⟩] := by
  intro text before run
  have scanned : Token.scan text = before ++ [run, ⟨25, .closing⟩] := by decide +kernel
  have first : QuoteAt text 2 '\'' (text.toList.drop 3) := ⟨by decide, by decide +kernel⟩
  have second : QuoteAt text 12 '\'' (text.toList.drop 13) := ⟨by decide, by decide +kernel⟩
  have third : QuoteAt text 20 '"' (text.toList.drop 21) := ⟨by decide, by decide +kernel⟩
  obtain ⟨begins, -, inside⟩ := quotes_exact text
  have closed := (begins (before.take 2) ⟨2, .quoted "a')"⟩ _ _ _ scanned first).1.mp ⟨_, rfl⟩
  obtain ⟨isString, runsOn⟩ := begins before run _ _ _ scanned third
  have isOpen : ¬ IsClosed '"' (text.toList.drop 21) := by
    rw [← isString]
    rintro ⟨value, impossible⟩
    cases impossible
  refine ⟨scanned, ⟨first, closed⟩, ⟨second, (inside 12 _ _ second).mpr ?_⟩, third, isOpen,
    runsOn isOpen⟩
  rw [scanned]
  decide

end StreamPlan.Expr
