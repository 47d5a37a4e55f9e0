import StreamPlan.Proofs.Expr.Relocation

/-! Blanks next to a delimiter, or at an end of a text, mean nothing. Where they are put in, a quote
opens a string if it did before: blanks close no string, and where they come between a backslash and
the delimiter behind it, the backslash escapes a blank in place of the delimiter. -/

set_option autoImplicit false

namespace StreamPlan.Expr

open Text (isBlank)
open Token (delimiter? isDelimiter mayFollowString scanFrom)

variable {quote : Char} {blanks front rest : List Char}

theorem StringBody.of_cons {c : Char} (closes : StringBody quote (c :: rest))
    (notEscape : c ≠ '\\') : StringBody quote rest := by
  cases closes with
  | escaped => exact absurd rfl notEscape
  | plain notEscape notQuote closes => exact closes

theorem ne_backslash_of_isBlank {c : Char} (blank : isBlank c = true) : c ≠ '\\' := by
  rintro rfl
  revert blank
  decide +kernel

theorem ne_backslash_of_isDelimiter {c : Char} (delimiter : isDelimiter c = true) : c ≠ '\\' := by
  rintro rfl
  cases delimiter

theorem StringBody.of_blanks (blank : ∀ c ∈ blanks, isBlank c = true)
    (closes : StringBody quote (blanks ++ rest)) : StringBody quote rest := by
  induction blanks with
  | nil => exact closes
  | cons c blanks ih =>
    obtain ⟨first, others⟩ := List.forall_mem_cons.mp blank
    exact ih others (closes.of_cons (ne_backslash_of_isBlank first))

def Parts (front rest : List Char) : Prop :=
  (∃ c after, rest = c :: after ∧ isDelimiter c = true) ∨ ∀ c ∈ front.getLast?, c ≠ '\\'

theorem Parts.tail {c : Char} (parts : Parts (c :: front) rest) : Parts front rest := by
  refine parts.imp_right fun last d isLast => last d ?_
  cases front with
  | nil => cases isLast
  | cons e front => rwa [List.getLast?_cons_cons]

/-- Blanks taken out of what stands between two quotes. -/
theorem StringBody.of_insert {body : List Char} (closes : StringBody quote body)
    (whole : body = front ++ (blanks ++ rest)) (blank : ∀ c ∈ blanks, isBlank c = true)
    (parts : Parts front rest) : StringBody quote (front ++ rest) := by
  induction closes generalizing front with
  | nil =>
    obtain ⟨rfl, -, rfl⟩ : front = [] ∧ blanks = [] ∧ rest = [] := by simpa using whole.symm
    exact .nil
  | @escaped c body closes ih =>
    match front with
    | [] =>
      have closes := StringBody.escaped c closes
      rw [whole] at closes
      exact closes.of_blanks blank
    | [first] =>
      obtain ⟨rfl, rest'⟩ := List.cons.inj whole
      rcases parts with ⟨d, after, rfl, delimiter⟩ | noBackslash
      · cases blanks with
        | nil =>
          obtain ⟨rfl, rfl⟩ := List.cons.inj rest'
          exact .escaped c closes
        | cons b blanks =>
          -- what was escaped is the first of the blanks, and without them it is the delimiter
          obtain ⟨rfl, rfl⟩ := List.cons.inj rest'
          have behind := closes.of_blanks (List.forall_mem_cons.mp blank).2
          exact .escaped d (behind.of_cons (ne_backslash_of_isDelimiter delimiter))
      · exact absurd rfl (noBackslash '\\' rfl)
    | first :: second :: front =>
      obtain ⟨rfl, rfl, rfl⟩ : '\\' = first ∧ c = second ∧ body = front ++ (blanks ++ rest) := by
        simpa using whole
      exact .escaped c (ih rfl parts.tail.tail)
  | @plain c body notEscape notQuote closes ih =>
    match front with
    | [] =>
      have closes := StringBody.plain notEscape notQuote closes
      rw [whole] at closes
      exact closes.of_blanks blank
    | first :: front =>
      obtain ⟨rfl, rfl⟩ := List.cons.inj whole
      exact .plain notEscape notQuote (ih rfl parts.tail)

theorem firstVisible?_insert (blank : ∀ c ∈ blanks, isBlank c = true) (front rest : List Char) :
    firstVisible? (front ++ (blanks ++ rest)) = firstVisible? (front ++ rest) := by
  have none : blanks.find? (!isBlank ·) = none := by simpa using blank
  simp only [firstVisible?, List.find?_append, none, Option.none_or]

theorem mayFollowString_insert (blank : ∀ c ∈ blanks, isBlank c = true) (front rest : List Char) :
    mayFollowString (front ++ (blanks ++ rest)) = mayFollowString (front ++ rest) := by
  have same := firstVisible?_insert blank front rest
  unfold firstVisible? at same
  unfold mayFollowString
  rw [same]

-- No blank closes a string, so the closing quote stands on one side of the blanks.
theorem exists_of_append_quote {body after : List Char} (noBlank : isBlank quote = false)
    (blank : ∀ c ∈ blanks, isBlank c = true)
    (whole : front ++ (blanks ++ rest) = body ++ quote :: after) :
    (∃ more, body = front ++ (blanks ++ more) ∧ rest = more ++ quote :: after) ∨
      ∃ more, front = body ++ quote :: more ∧ after = more ++ (blanks ++ rest) := by
  have notInside : quote ∉ blanks := fun inside => by simp [blank quote inside] at noBlank
  rcases Text.exists_of_append_eq whole with ⟨more, rfl, rfl⟩ | ⟨between, rfl, later⟩
  · exact Or.inr ⟨more, rfl, rfl⟩
  · rcases Text.exists_of_append_eq later with ⟨more, rfl, -⟩ | ⟨more, rfl, rfl⟩
    · exact absurd (by simp) notInside
    · exact Or.inl ⟨more, rfl, rfl⟩

/-- A string that opens with blanks put in opens without them. -/
theorem OpensString.of_insert (opens : OpensString (front ++ (blanks ++ rest)))
    (blank : ∀ c ∈ blanks, isBlank c = true) (filled : front ≠ [])
    (parts : (∀ c ∈ rest.head?, isDelimiter c = true) ∨ ∀ c ∈ front.getLast?, c ≠ '\\') :
    OpensString (front ++ rest) := by
  obtain ⟨quote, body, after, isQuote, closes, whole, follows⟩ := opens
  obtain ⟨first, front, rfl⟩ := List.exists_cons_of_ne_nil filled
  obtain ⟨rfl, inside⟩ := List.cons.inj whole
  have noBlank := (visible_of_isQuote isQuote).1
  rcases exists_of_append_quote noBlank blank inside with ⟨more, rfl, rfl⟩ | ⟨more, rfl, rfl⟩
  · have parts : Parts (first :: front) more := by
      refine parts.imp_left fun delimiter => ?_
      cases more with
      | nil =>
        have isMark : isDelimiter first = true := delimiter first rfl
        rcases isQuote with rfl | rfl <;> cases isMark
      | cons c more => exact ⟨c, more, rfl, delimiter c rfl⟩
    exact ⟨first, front ++ more, after, isQuote, closes.of_insert rfl blank parts.tail, by simp,
      follows⟩
  · rw [mayFollowString_insert blank] at follows
    exact ⟨first, body, more ++ rest, isQuote, closes, by simp, follows⟩

/-- Two parts of a text that have a delimiter next to the place between them, or nothing behind
it. -/
def Seam (front rest : List Char) : Prop :=
  (∀ c ∈ rest.head?, isDelimiter c = true) ∨ ∃ c ∈ front.getLast?, isDelimiter c = true

theorem ScannedBefore.insert {middle span : List Char} {lexeme : Lexeme}
    (scanned : ScannedBefore (middle ++ rest) lexeme span)
    (blank : ∀ c ∈ blanks, isBlank c = true) (seam : Seam middle rest) :
    ScannedBefore (middle ++ (blanks ++ rest)) lexeme span := by
  cases scanned with
  | delimiter mark => exact .delimiter mark
  | quoted isQuote denotes follows =>
    exact .quoted isQuote denotes (by rwa [mayFollowString_insert blank])
  | run isRun ends noString =>
    refine .run isRun (by rwa [firstVisible?_insert blank]) fun opens => noString ?_
    rw [← List.append_assoc] at opens ⊢
    refine opens.of_insert blank (by simp [isRun.nonempty]) (seam.imp_right ?_)
    rintro ⟨c, last, delimiter⟩ d isLast
    rw [List.getLast?_append, Option.mem_def.mp last] at isLast
    cases isLast
    exact ne_backslash_of_isDelimiter delimiter

def IsSeam (text : String) (place : Nat) : Prop :=
  place = 0 ∨ place = text.toList.length ∨
    ∃ token ∈ Token.scan text,
      (token.lexeme = .opening ∨ token.lexeme = .closing ∨ token.lexeme = .comma) ∧
        (place = token.position ∨ place = token.position + 1)

def insertAt (place : Nat) (inserted text : String) : String :=
  String.ofList (text.toList.take place ++ (inserted.toList ++ text.toList.drop place))

def shiftFrom (place count position : Nat) : Nat :=
  if place ≤ position then position + count else position

theorem exists_delimiter {lexeme : Lexeme}
    (mark : lexeme = .opening ∨ lexeme = .closing ∨ lexeme = .comma) :
    ∃ c, delimiter? c = some lexeme := by
  rcases mark with rfl | rfl | rfl
  · exact ⟨'(', rfl⟩
  · exact ⟨')', rfl⟩
  · exact ⟨',', rfl⟩

/-- At a seam the text is parted between tokens, and those in front are scanned with blanks behind
them as well. -/
theorem IsSeam.exists_parts {text : String} {place : Nat} (isSeam : IsSeam text place)
    (blank : ∀ c ∈ blanks, isBlank c = true) :
    ∃ front rest tokens, text.toList = front ++ rest ∧ place = front.length ∧
      Scans rest 0 front tokens ∧ Scans (blanks ++ rest) 0 front tokens := by
  have scans := scans_scanFrom 0 text.toList
  rcases isSeam with rfl | rfl | ⟨token, member, mark, isPlace⟩
  · exact ⟨[], text.toList, [], rfl, rfl, .nil (by simp), .nil (by simp)⟩
  · refine ⟨text.toList, [], _, by simp, rfl, scans, ?_⟩
    exact scans.exchange fun _ _ span middle scanned => scanned.insert blank (Or.inl (by simp))
  · obtain ⟨c, delimiter⟩ := exists_delimiter mark
    obtain ⟨before, after, whole⟩ := List.append_of_mem member
    rw [Token.scan] at whole
    rw [whole] at scans
    obtain ⟨front, span, back, same, position, scansFront, scannedMark, scansBack⟩ :=
      scans.exists_token
    obtain rfl := scannedMark.eq_of_delimiter? delimiter
    have isDelimiter := isDelimiter_of_delimiter? delimiter
    rw [Nat.zero_add] at position
    simp only [List.append_nil] at scansFront
    rcases isPlace with rfl | rfl
    · refine ⟨front, c :: back, before, same, position, scansFront, ?_⟩
      exact scansFront.exchange fun _ _ span middle scanned =>
        scanned.insert blank (Or.inl (by simpa using isDelimiter))
    · have scansMark (rest : List Char) : Scans rest (0 + front.length) [c] [token] := by
        obtain ⟨_, lexeme⟩ := token
        obtain rfl : _ = front.length := position
        rw [Nat.zero_add]
        exact Scans.token (.delimiter delimiter) (Scans.nil (by simp))
      have scansBlanks : Scans ([c] ++ (blanks ++ back)) 0 front before := by
        refine scansFront.exchange fun _ _ span middle scanned => ?_
        rw [← List.append_assoc] at scanned ⊢
        exact scanned.insert blank (Or.inr ⟨c, by simp, isDelimiter⟩)
      exact ⟨front ++ [c], back, before ++ [token], by simp [same], by simp [position],
        scansFront.append (scansMark back), scansBlanks.append (scansMark (blanks ++ back))⟩

theorem Scans.shift {position : Nat} {tokens : List Token} (scans : Scans rest position front tokens)
    (count : Nat) :
    Scans rest (position + count) front (tokens.map (Token.relocate (· + count))) := by
  induction scans with
  | nil blank => exact .nil blank
  | @cons position lexeme tokens blanks span front blank scanned others ih =>
    have place := Nat.add_right_comm position blanks.length count
    rw [Nat.add_right_comm _ span.length, place] at ih
    rw [List.map_cons, Token.relocate, place]
    exact .cons blank scanned ih

theorem scanFrom_add (position count : Nat) (cs : List Char) :
    scanFrom (position + count) cs = (scanFrom position cs).map (Token.relocate (· + count)) :=
  ((scans_scanFrom position cs).shift count).scanFrom_eq

theorem scan_insertAt {text blanks : String} {place : Nat} (isSeam : IsSeam text place)
    (blank : ∀ c ∈ blanks.toList, isBlank c = true) :
    Token.scan (insertAt place blanks text) =
      (Token.scan text).map (Token.relocate (shiftFrom place blanks.toList.length)) := by
  obtain ⟨front, rest, tokens, whole, rfl, scans, scansBlanks⟩ := isSeam.exists_parts blank
  have inserted : (insertAt front.length blanks text).toList = front ++ (blanks.toList ++ rest) := by
    rw [insertAt, whole, List.take_left, List.drop_left, String.toList_ofList]
  have before : ∀ token ∈ tokens,
      token.relocate (shiftFrom front.length blanks.toList.length) = token := by
    intro token member
    have inside := scans.covers.position_lt token member
    rw [Token.relocate, shiftFrom, if_neg (by omega)]
  have behind : ∀ token ∈ scanFrom front.length rest,
      token.relocate (shiftFrom front.length blanks.toList.length) =
        token.relocate (· + blanks.toList.length) := by
    intro token member
    have outside := (covers_scanFrom front.length rest).position_le token member
    rw [Token.relocate, Token.relocate, shiftFrom, if_pos outside]
  rw [Token.scan, Token.scan, inserted, whole, scans.scanFrom_append, scansBlanks.scanFrom_append,
    scanFrom_blanks blank, Nat.zero_add, scanFrom_add, List.map_append, List.map_congr_left behind,
    List.map_congr_left before, List.map_id']

/-- Blanks put in at an end of a text or next to one of its delimiters leave its lexemes as they
are and move those behind them. The text is parsed to the same tree, or refused for the same reason
at the moved position. -/
theorem parse_insertAt {text blanks : String} {place : Nat} (isSeam : IsSeam text place)
    (blank : Text.isAllBlank blanks = true) :
    Token.scan (insertAt place blanks text) =
        (Token.scan text).map (Token.relocate (shiftFrom place blanks.toList.length)) ∧
      ∀ limit, parse limit (insertAt place blanks text) =
        (parse limit text).mapError (ExprError.relocate (shiftFrom place blanks.toList.length)) := by
  have scanned := scan_insertAt isSeam (List.all_eq_true.mp blank)
  exact ⟨scanned, parse_relocate scanned⟩

/-- Blanks between a backslash and the comma behind it, after a quote that opens no string. -/
theorem parse_insertAt_escape :
    let text := "f('a\\, b) c"
    insertAt 5 "\t " text = "f('a\\\t , b) c" ∧
      Token.scan text = [⟨0, .run "f"⟩, ⟨1, .opening⟩, ⟨2, .run "'a\\"⟩, ⟨5, .comma⟩, ⟨7, .run "b"⟩,
        ⟨8, .closing⟩, ⟨10, .run "c"⟩] ∧
      Token.scan (insertAt 5 "\t " text) = [⟨0, .run "f"⟩, ⟨1, .opening⟩, ⟨2, .run "'a\\"⟩,
        ⟨7, .comma⟩, ⟨9, .run "b"⟩, ⟨10, .closing⟩, ⟨12, .run "c"⟩] ∧
      parse 1 text = .error (.unexpectedToken 10 "c") ∧
      parse 1 (insertAt 5 "\t " text) = .error (.unexpectedToken 12 "c") := by
  intro text
  have scanned : Token.scan text = [⟨0, .run "f"⟩, ⟨1, .opening⟩, ⟨2, .run "'a\\"⟩, ⟨5, .comma⟩,
      ⟨7, .run "b"⟩, ⟨8, .closing⟩, ⟨10, .run "c"⟩] := by decide +kernel
  have failed : parse 1 text = .error (.unexpectedToken 10 "c") := by decide +kernel
  have isSeam : IsSeam text 5 := by
    refine Or.inr (Or.inr ⟨⟨5, .comma⟩, ?_, Or.inr (Or.inr rfl), Or.inl rfl⟩)
    simp [scanned]
  obtain ⟨moved, parsed⟩ := @parse_insertAt text "\t " 5 isSeam (by decide +kernel)
  have failedAfter := parsed 1
  rw [scanned] at moved
  rw [failed] at failedAfter
  exact ⟨by decide +kernel, scanned, moved, failed, failedAfter⟩

end StreamPlan.Expr
