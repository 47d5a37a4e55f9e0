import Mathlib.Data.List.TakeWhile
import StreamPlan.Proofs.Expr.Scanning

/-! Text next to the text behind it. Characters are scanned as a string only where an argument may
end behind them, and as a run only up to a delimiter and where no string opens; nothing else about
the text behind them matters. A text is scanned step by step, so it can be taken apart between its
tokens, and what is behind it exchanged as long as each of its tokens stands in front of the new
text as well. -/

set_option autoImplicit false

namespace StreamPlan.Expr

open Text (isBlank)
open Token (delimiter? isDelimiter mayFollowString scanFrom)

def firstVisible? (cs : List Char) : Option Char := cs.find? (!isBlank ·)

/-- The characters in front of this text are scanned as the lexeme. -/
inductive ScannedBefore (after : List Char) : Lexeme → List Char → Prop where
  | delimiter {c : Char} {lexeme : Lexeme} (mark : delimiter? c = some lexeme) :
      ScannedBefore after lexeme [c]
  | quoted {quote : Char} {body text : List Char} (isQuote : quote = '\'' ∨ quote = '"')
      (denotes : Denotes quote body text) (follows : mayFollowString after = true) :
      ScannedBefore after (.quoted (String.ofList text)) (quote :: (body ++ [quote]))
  | run {cs : List Char} (isRun : IsRun cs)
      (ends : ∀ c ∈ firstVisible? after, isDelimiter c = true)
      (noString : ¬ OpensString (cs ++ after)) : ScannedBefore after (.run (String.ofList cs)) cs

/-- Text in front of `rest`, with `position` characters before it, and the tokens that are scanned
in it. -/
inductive Scans (rest : List Char) : Nat → List Char → List Token → Prop where
  | nil {position : Nat} {blanks : List Char} (blank : ∀ c ∈ blanks, isBlank c = true) :
      Scans rest position blanks []
  | cons {position : Nat} {lexeme : Lexeme} {tokens : List Token} {blanks span front : List Char}
      (blank : ∀ c ∈ blanks, isBlank c = true)
      (scanned : ScannedBefore (front ++ rest) lexeme span)
      (others : Scans rest (position + blanks.length + span.length) front tokens) :
      Scans rest position (blanks ++ (span ++ front)) (⟨position + blanks.length, lexeme⟩ :: tokens)

theorem scanFrom_blanks {blanks : List Char} (blank : ∀ c ∈ blanks, isBlank c = true)
    (position : Nat) (rest : List Char) :
    scanFrom position (blanks ++ rest) = scanFrom (position + blanks.length) rest := by
  induction blanks generalizing position with
  | nil => rfl
  | cons c blanks ih =>
    obtain ⟨first, others⟩ := List.forall_mem_cons.mp blank
    rw [List.cons_append, Token.scanFrom_blank first, ih others, List.length_cons,
      Nat.add_assoc, Nat.add_comm 1]

theorem firstVisible?_append {blanks : List Char} (blank : ∀ c ∈ blanks, isBlank c = true)
    (cs : List Char) : firstVisible? (blanks ++ cs) = firstVisible? cs := by
  have none : blanks.find? (!isBlank ·) = none := by simpa using blank
  rw [firstVisible?, List.find?_append, none]
  rfl

theorem firstVisible?_cons {c : Char} (visible : isBlank c = false) (cs : List Char) :
    firstVisible? (c :: cs) = some c := by
  simp [firstVisible?, visible]

theorem mayFollowString_iff {cs : List Char} :
    mayFollowString cs = true ↔ ∀ c ∈ firstVisible? cs, c = ',' ∨ c = ')' := by
  unfold mayFollowString firstVisible?
  cases cs.find? (!isBlank ·) <;> simp

theorem exists_blanks (cs : List Char) :
    ∃ blanks rest, cs = blanks ++ rest ∧ (∀ c ∈ blanks, isBlank c = true) ∧
      rest.head? = firstVisible? cs := by
  refine ⟨cs.takeWhile isBlank, cs.dropWhile isBlank, List.takeWhile_append_dropWhile.symm,
    fun _ => List.mem_takeWhile_imp, (List.find?_not_eq_head?_dropWhile isBlank cs).symm⟩

theorem isDelimiter_of_delimiter? {c : Char} {lexeme : Lexeme}
    (mark : delimiter? c = some lexeme) : isDelimiter c = true := by
  rw [← Bool.not_eq_false, ← delimiter?_eq_none_iff, mark]
  exact Option.some_ne_none lexeme

theorem isDelimiter_of_isBlank {c : Char} (blank : isBlank c = true) : isDelimiter c = false := by
  apply Bool.eq_false_iff.mpr
  intro delimiter
  rw [not_isBlank_of_isDelimiter delimiter] at blank
  cases blank

theorem isDelimiter_firstVisible? {cs : List Char} (stop : ∀ c ∈ cs.head?, isDelimiter c = true) :
    ∀ c ∈ firstVisible? cs, isDelimiter c = true := by
  cases cs with
  | nil => exact nofun
  | cons c rest =>
    rw [firstVisible?_cons (not_isBlank_of_isDelimiter (stop c rfl))]
    exact stop

-- The blanks between a run and the delimiter behind it are scanned with the run.
theorem IsRun.scanFrom_append {cs after : List Char} (isRun : IsRun cs)
    (ends : ∀ c ∈ firstVisible? after, isDelimiter c = true)
    (noString : ¬ OpensString (cs ++ after)) (position : Nat) :
    scanFrom position (cs ++ after) =
      ⟨position, .run (String.ofList cs)⟩ :: scanFrom (position + cs.length) after := by
  obtain ⟨blanks, rest, rfl, blank, first⟩ := exists_blanks after
  rw [← first] at ends
  obtain ⟨c, inside, rfl, visible, ordinary, undelimited⟩ := isRun.head
  have none : Token.quoted? c (inside ++ (blanks ++ rest)) = none := by
    rw [List.cons_append, ← quoted?_isSome_iff] at noString
    simpa using noString
  have within : ∀ d ∈ inside ++ blanks, (!isDelimiter d) = true := by
    intro d member
    rcases List.mem_append.mp member with member | member
    · simp [undelimited d member]
    · simp [isDelimiter_of_isBlank (blank d member)]
  have outside : ∀ d ∈ rest.head?, (!isDelimiter d) = false := by simpa using ends
  have trimmed := (Text.trimEnd_append_blanks _ blank).trans
    (Text.trimEnd_eq_self isRun.trimmed.2)
  rw [List.cons_append, Token.scanFrom_run visible ordinary none, ← List.append_assoc,
    Text.takeWhile_append_stop within outside, Text.dropWhile_append_stop within outside,
    ← List.cons_append, trimmed, scanFrom_blanks blank, List.length_append, Nat.add_assoc]

theorem lexemes_blanks {blanks : List Char} (blank : ∀ c ∈ blanks, isBlank c = true)
    (rest : List Char) : Token.lexemes (blanks ++ rest) = Token.lexemes rest := by
  rw [Token.lexemes, scanFrom_blanks blank, Token.map_scanFrom]

theorem ScannedBefore.scanFrom_append {after span : List Char} {lexeme : Lexeme}
    (scanned : ScannedBefore after lexeme span) (position : Nat) :
    scanFrom position (span ++ after) =
      ⟨position, lexeme⟩ :: scanFrom (position + span.length) after := by
  cases scanned with
  | @delimiter c _ mark =>
    exact Token.scanFrom_delimiter (not_isBlank_of_isDelimiter (isDelimiter_of_delimiter? mark))
      mark position after
  | @quoted quote body text isQuote denotes follows =>
    have visible := visible_of_isQuote isQuote
    have string := denotes.quoted?_eq isQuote follows
    rw [List.append_cons] at string
    have length : (quote :: (body ++ [quote])).length = body.length + 2 := by simp
    rw [length]
    exact Token.scanFrom_quoted visible.1 visible.2 string position
  | run isRun ends noString => exact isRun.scanFrom_append ends noString position

theorem ScannedBefore.lexemes_append {after span : List Char} {lexeme : Lexeme}
    (scanned : ScannedBefore after lexeme span) :
    Token.lexemes (span ++ after) = lexeme :: Token.lexemes after := by
  rw [Token.lexemes, scanned.scanFrom_append, List.map_cons, Token.map_scanFrom]

-- A run in front of a delimiter is scanned as a run, unless a string opens with it.
theorem IsRun.lexemes_append {cs after : List Char} (run : IsRun cs)
    (stop : ∀ c ∈ after.head?, isDelimiter c = true) (noString : ¬ OpensString (cs ++ after)) :
    Token.lexemes (cs ++ after) = .run (String.ofList cs) :: Token.lexemes after :=
  (ScannedBefore.run run (isDelimiter_firstVisible? stop) noString).lexemes_append

theorem ScannedBefore.eq_of_delimiter? {after span : List Char} {lexeme : Lexeme} {c : Char}
    (scanned : ScannedBefore after lexeme span) (mark : delimiter? c = some lexeme) :
    span = [c] := by
  cases scanned with
  | @delimiter d _ mark' =>
    rw [delimiter?_eq_some_iff] at mark mark'
    grind
  | quoted => simp [delimiter?_eq_some_iff] at mark
  | run => simp [delimiter?_eq_some_iff] at mark

/-- What stands in front of the end of an argument is scanned without it as well. -/
theorem ScannedBefore.of_append_stop {middle back span : List Char} {lexeme : Lexeme} {stop : Char}
    (isStop : stop = ',' ∨ stop = ')')
    (scanned : ScannedBefore (middle ++ stop :: back) lexeme span) :
    ScannedBefore middle lexeme span := by
  cases scanned with
  | delimiter mark => exact .delimiter mark
  | quoted isQuote denotes follows =>
    rw [mayFollowString_append_stop isStop] at follows
    exact .quoted isQuote denotes follows
  | run isRun ends noString =>
    refine .run isRun (fun c first => ends c ?_) fun opens => noString ?_
    · rw [Option.mem_def, firstVisible?, List.find?_append, ← firstVisible?, Option.mem_def.mp first]
      rfl
    · rw [← List.append_assoc]
      exact opens.append_stop isStop back

namespace Scans

variable {rest front back : List Char} {position : Nat} {tokens : List Token}

theorem scanFrom_append (scans : Scans rest position front tokens) :
    scanFrom position (front ++ rest) = tokens ++ scanFrom (position + front.length) rest := by
  induction scans with
  | nil blank => exact scanFrom_blanks blank _ rest
  | @cons position lexeme tokens blanks span front blank scanned others ih =>
    rw [List.append_assoc, List.append_assoc, scanFrom_blanks blank, scanned.scanFrom_append, ih,
      List.cons_append, List.length_append, List.length_append]
    simp only [Nat.add_assoc]

theorem lexemes_append (scans : Scans rest position front tokens) :
    Token.lexemes (front ++ rest) = tokens.map (·.lexeme) ++ Token.lexemes rest := by
  rw [← Token.map_scanFrom position, scans.scanFrom_append, List.map_append, Token.map_scanFrom]

theorem scanFrom_eq (scans : Scans [] position front tokens) : scanFrom position front = tokens := by
  have scanned := scans.scanFrom_append
  rwa [List.append_nil, Token.scanFrom_nil, List.append_nil] at scanned

theorem prepend {blanks : List Char} (blank : ∀ c ∈ blanks, isBlank c = true)
    (scans : Scans rest (position + blanks.length) front tokens) :
    Scans rest position (blanks ++ front) tokens := by
  cases scans with
  | nil others => exact .nil (List.forall_mem_append.mpr ⟨blank, others⟩)
  | @cons _ lexeme tokens more span front others scanned scans =>
    have behind : position + blanks.length + more.length = position + (blanks ++ more).length := by
      rw [List.length_append, Nat.add_assoc]
    rw [behind] at scans ⊢
    rw [← List.append_assoc]
    exact .cons (List.forall_mem_append.mpr ⟨blank, others⟩) scanned scans

theorem token {lexeme : Lexeme} {span : List Char}
    (scanned : ScannedBefore (front ++ rest) lexeme span)
    (scans : Scans rest (position + span.length) front tokens) :
    Scans rest position (span ++ front) (⟨position, lexeme⟩ :: tokens) :=
  @Scans.cons rest position lexeme tokens [] span front (by simp) scanned scans

theorem append {before after : List Token} (first : Scans (back ++ rest) position front before)
    (second : Scans rest (position + front.length) back after) :
    Scans rest position (front ++ back) (before ++ after) := by
  induction first with
  | nil blank => exact second.prepend blank
  | @cons position lexeme tokens blanks span front blank scanned others ih =>
    rw [← List.append_assoc] at scanned
    rw [List.append_assoc, List.append_assoc, List.cons_append]
    refine .cons blank scanned (ih ?_)
    simpa only [List.length_append, Nat.add_assoc] using second

theorem exists_token {before after : List Token} {token : Token} {cs : List Char}
    (scans : Scans rest position cs (before ++ token :: after)) :
    ∃ front span back, cs = front ++ (span ++ back) ∧ token.position = position + front.length ∧
      Scans (span ++ back ++ rest) position front before ∧
      ScannedBefore (back ++ rest) token.lexeme span ∧
      Scans rest (token.position + span.length) back after := by
  induction before generalizing position cs with
  | nil =>
    cases scans with
    | @cons _ lexeme tokens blanks span back blank scanned others =>
      exact ⟨blanks, span, back, rfl, rfl, .nil blank, scanned, others⟩
  | cons first before ih =>
    cases scans with
    | @cons _ lexeme tokens blanks span others blank scanned scans =>
      obtain ⟨front, span', back, rfl, place, scansFront, scanned', scansBack⟩ := ih scans
      refine ⟨blanks ++ (span ++ front), span', back, by simp, ?_, .cons blank ?_ scansFront,
        scanned', scansBack⟩
      · rw [place, List.length_append, List.length_append]
        simp only [Nat.add_assoc]
      · simpa using scanned

/-- Another text may stand behind, if it may stand behind each of the tokens. -/
theorem exchange {rest' : List Char} (scans : Scans rest position front tokens)
    (keeps : ∀ token ∈ tokens, ∀ span middle, ScannedBefore (middle ++ rest) token.lexeme span →
      ScannedBefore (middle ++ rest') token.lexeme span) :
    Scans rest' position front tokens := by
  induction scans with
  | nil blank => exact .nil blank
  | @cons position lexeme tokens blanks span front blank scanned others ih =>
    obtain ⟨keepsFirst, keepsOthers⟩ := List.forall_mem_cons.mp keeps
    exact .cons blank (keepsFirst span front scanned) (ih keepsOthers)

end Scans

/-- What is scanned as a run: everything up to a delimiter, without the blanks in front of it. -/
theorem exists_scannedBefore_run {c : Char} {rest : List Char} (visible : isBlank c = false)
    (ordinary : delimiter? c = none) (noString : Token.quoted? c rest = none) :
    ∃ span blanks, c :: rest.takeWhile (!isDelimiter ·) = span ++ blanks ∧
      span = Text.trimEnd (c :: rest.takeWhile (!isDelimiter ·)) ∧
      (∀ d ∈ blanks, isBlank d = true) ∧
      ScannedBefore (blanks ++ rest.dropWhile (!isDelimiter ·)) (.run (String.ofList span)) span := by
  obtain ⟨blanks, blank, whole⟩ :=
    Text.exists_trimEnd_append (c :: rest.takeWhile (!isDelimiter ·))
  have undelimited : ∀ d ∈ c :: rest.takeWhile (!isDelimiter ·), isDelimiter d = false := by
    intro d inside
    rcases List.mem_cons.mp inside with rfl | inside
    · exact delimiter?_eq_none_iff.mp ordinary
    · simpa using List.mem_takeWhile_imp inside
  refine ⟨_, blanks, whole, rfl, blank, .run (isRun_trimEnd visible undelimited) ?_ ?_⟩
  · rw [firstVisible?_append blank]
    refine isDelimiter_firstVisible? fun d first => ?_
    simpa using Text.head?_dropWhile (!isDelimiter ·) rest d first
  · rw [← List.append_assoc, ← whole, List.cons_append, List.takeWhile_append_dropWhile,
      ← quoted?_isSome_iff, noString]
    simp

/-- Every text is scanned step by step up to its end. -/
theorem scans_scanFrom (position : Nat) (cs : List Char) :
    Scans [] position cs (scanFrom position cs) := by
  induction position, cs using Token.scanFrom.induct with
  | case1 position =>
    rw [Token.scanFrom_nil]
    exact .nil (by simp)
  | case2 position c rest blank ih =>
    rw [Token.scanFrom_blank blank]
    have blanks : ∀ d ∈ [c], isBlank d = true := by simpa using blank
    exact Scans.prepend blanks ih
  | case3 position c rest visible lexeme delimiter ih =>
    rw [Token.scanFrom_delimiter (Bool.eq_false_iff.mpr visible) delimiter]
    exact Scans.token (.delimiter delimiter) ih
  | case4 position c rest visible ordinary text length after string ih =>
    rw [Token.scanFrom_quoted (Bool.eq_false_iff.mpr visible) ordinary string]
    obtain ⟨isQuote, follows, body, denotes, rfl, rfl⟩ := quoted?_eq_some_iff.mp string
    have length : (c :: (body ++ [c])).length = body.length + 2 := by simp
    rw [← length] at ih ⊢
    have scans := Scans.token (.quoted isQuote denotes (by rwa [List.append_nil])) ih
    simpa using scans
  | case5 position c rest visible ordinary noString run ih =>
    have visible := Bool.eq_false_iff.mpr visible
    obtain ⟨span, blanks, whole, isTrimmed, blank, scanned⟩ :=
      exists_scannedBefore_run visible ordinary noString
    rw [Token.scanFrom_run visible ordinary noString, ← isTrimmed]
    have length := congrArg List.length whole
    rw [List.length_append] at length
    rw [← List.append_nil (blanks ++ _)] at scanned
    have scans := Scans.token scanned (Scans.prepend blank (by rwa [Nat.add_assoc, ← length]))
    rwa [← List.append_assoc, ← whole, List.cons_append, List.takeWhile_append_dropWhile] at scans

/-- A token's span begins at its place, and what is behind the span is scanned as the tokens after
it. -/
theorem exists_scannedBefore {text : String} {before after : List Token} {token : Token}
    (scanned : Token.scan text = before ++ token :: after) :
    ∃ span back, text.toList.drop token.position = span ++ back ∧
      ScannedBefore back token.lexeme span ∧
      Scans [] (token.position + span.length) back after := by
  have scans := scans_scanFrom 0 text.toList
  rw [← Token.scan, scanned] at scans
  obtain ⟨front, span, back, whole, place, -, first, others⟩ := scans.exists_token
  rw [Nat.zero_add] at place
  rw [List.append_nil] at first
  exact ⟨span, back, by rw [whole, place, List.drop_left], first, others⟩

theorem scanFrom_drop {text : String} {before after : List Token} {token : Token}
    (scanned : Token.scan text = before ++ token :: after) :
    scanFrom token.position (text.toList.drop token.position) = token :: after := by
  obtain ⟨span, back, placed, first, others⟩ := exists_scannedBefore scanned
  rw [placed, first.scanFrom_append, others.scanFrom_eq]

theorem scanFrom_renderedString (text after : List Char) (position : Nat) :
    scanFrom position ('\'' :: (text.flatMap Literal.escape ++ '\'' :: after)) =
        ⟨position, .quoted (String.ofList text)⟩ ::
          scanFrom (position + ((text.flatMap Literal.escape).length + 2)) after ↔
      mayFollowString after = true := by
  obtain ⟨visible, ordinary⟩ := visible_of_isQuote (Or.inl (rfl : '\'' = '\''))
  have read := quoted?_render text after
  cases follows : mayFollowString after with
  | true =>
    rw [if_pos follows] at read
    exact iff_of_true (Token.scanFrom_quoted visible ordinary read position) rfl
  | false =>
    -- the quote is the first character of a run then
    rw [follows, if_neg Bool.false_ne_true] at read
    rw [Token.scanFrom_run visible ordinary read]
    simp

/-- A rendered string is read as its text, up to its last character, wherever it stands in front of
text whose first visible character, if there is one, is a comma or a closing parenthesis. In front
of other text it is not read as a string. -/
theorem renderedString_read_iff (text : String) (after : List Char) (position : Nat) :
    ∃ inside, (Literal.str text).render.toList = '\'' :: inside ∧
      (Token.quoted? '\'' (inside ++ after) =
          some (text.toList, (Literal.str text).render.length, after) ↔
        ∀ c ∈ firstVisible? after, c = ',' ∨ c = ')') ∧
      (scanFrom position ((Literal.str text).render.toList ++ after) =
          ⟨position, .quoted text⟩ :: scanFrom (position + (Literal.str text).render.length) after ↔
        ∀ c ∈ firstVisible? after, c = ',' ∨ c = ')') := by
  have spelled : (Literal.str text).render.toList =
      '\'' :: (text.toList.flatMap Literal.escape ++ ['\'']) := String.toList_ofList
  have length : (Literal.str text).render.length =
      (text.toList.flatMap Literal.escape).length + 2 := by
    rw [← String.length_toList, spelled]
    simp
  refine ⟨_, spelled, ?_, ?_⟩
  · rw [length, List.append_assoc, List.singleton_append, quoted?_render, ← mayFollowString_iff]
    cases mayFollowString after <;> simp
  · have scanned := scanFrom_renderedString text.toList after position
    rw [String.ofList_toList] at scanned
    rw [length, spelled, List.cons_append, List.append_assoc, List.singleton_append, scanned,
      mayFollowString_iff]

-- Backslashes, quotes, letters of escapes and delimiters inside, and a no-break space behind.
example : Token.scan ((Literal.str "\\n'\\\\',(\"\t)\\").render ++ "\u00a0, x") =
    [⟨0, .quoted "\\n'\\\\',(\"\t)\\"⟩, ⟨21, .comma⟩, ⟨23, .run "x"⟩] := by
  decide +kernel

end StreamPlan.Expr
