import StreamPlan.Proofs.Expr.Context

/-! Where tokens stand in their text. The text is made of the spans of its tokens with nothing but
blanks around them, and each token is placed where its span begins. A run is shorter than what was
scanned for it by the blanks at its end, and a string is longer than its text by quotes and
escapes; the spans account for both. -/

set_option autoImplicit false

namespace StreamPlan.Expr

open Text (isBlank)
open Token (delimiter? scanFrom)

/-- The characters that a lexeme stands for in a text. -/
inductive IsSpan : Lexeme → List Char → Prop where
  | opening : IsSpan .opening ['(']
  | closing : IsSpan .closing [')']
  | comma : IsSpan .comma [',']
  | quoted {quote : Char} {body text : List Char} (isQuote : quote = '\'' ∨ quote = '"')
      (denotes : Denotes quote body text) :
      IsSpan (.quoted (String.ofList text)) (quote :: (body ++ [quote]))
  | run {cs : List Char} (isRun : IsRun cs) : IsSpan (.run (String.ofList cs)) cs

/-- Text with `position` characters before it that has a span for each of the tokens, at the
token's place, and only blanks before, between and behind the spans. -/
inductive Covers : Nat → List Token → List Char → Prop where
  | nil {position : Nat} {blanks : List Char} (blank : ∀ c ∈ blanks, isBlank c = true) :
      Covers position [] blanks
  | cons {position : Nat} {token : Token} {tokens : List Token} {blanks span rest : List Char}
      (blank : ∀ c ∈ blanks, isBlank c = true) (placed : token.position = position + blanks.length)
      (isSpan : IsSpan token.lexeme span)
      (others : Covers (token.position + span.length) tokens rest) :
      Covers position (token :: tokens) (blanks ++ (span ++ rest))

theorem IsSpan.ne_nil {lexeme : Lexeme} {span : List Char} (isSpan : IsSpan lexeme span) :
    span ≠ [] := by
  cases isSpan with
  | opening => exact List.cons_ne_nil _ _
  | closing => exact List.cons_ne_nil _ _
  | comma => exact List.cons_ne_nil _ _
  | quoted isQuote denotes => exact List.cons_ne_nil _ _
  | run isRun => exact isRun.nonempty

theorem IsSpan.of_run {text : String} {span : List Char} (isSpan : IsSpan (.run text) span) :
    span = text.toList := by
  cases isSpan with
  | run isRun => rw [String.toList_ofList]

theorem IsSpan.of_quoted {text : String} {span : List Char} (isSpan : IsSpan (.quoted text) span) :
    ∃ quote body, quote ≠ '\\' ∧ Denotes quote body text.toList ∧
      span = quote :: (body ++ [quote]) := by
  cases isSpan with
  | @quoted quote body text isQuote denotes =>
    have notEscape : quote ≠ '\\' := by rcases isQuote with rfl | rfl <;> decide
    exact ⟨quote, body, notEscape, by rwa [String.toList_ofList], rfl⟩

theorem IsSpan.unique {lexeme : Lexeme} {span span' back back' : List Char}
    (left : IsSpan lexeme span) (right : IsSpan lexeme span')
    (same : span ++ back = span' ++ back') : span = span' := by
  cases lexeme with
  | opening =>
    cases left
    cases right
    rfl
  | closing =>
    cases left
    cases right
    rfl
  | comma =>
    cases left
    cases right
    rfl
  | run text => rw [left.of_run, right.of_run]
  | quoted text =>
    obtain ⟨quote, body, notEscape, denotes, rfl⟩ := left.of_quoted
    obtain ⟨quote', body', -, denotes', rfl⟩ := right.of_quoted
    obtain ⟨rfl, inside⟩ := List.cons.inj same
    rw [denotes.unique notEscape denotes' (by simpa using inside)]

theorem isSpan_of_delimiter? {c : Char} {lexeme : Lexeme} (delimiter : delimiter? c = some lexeme) :
    IsSpan lexeme [c] := by
  rcases delimiter?_eq_some_iff.mp delimiter with ⟨rfl, rfl⟩ | ⟨rfl, rfl⟩ | ⟨rfl, rfl⟩
  · exact .opening
  · exact .closing
  · exact .comma

theorem ScannedBefore.isSpan {after span : List Char} {lexeme : Lexeme}
    (scanned : ScannedBefore after lexeme span) : IsSpan lexeme span := by
  cases scanned with
  | delimiter mark => exact isSpan_of_delimiter? mark
  | quoted isQuote denotes follows => exact .quoted isQuote denotes
  | run isRun ends noString => exact .run isRun

theorem Scans.covers {rest cs : List Char} {position : Nat} {tokens : List Token}
    (scans : Scans rest position cs tokens) : Covers position tokens cs := by
  induction scans with
  | nil blank => exact .nil blank
  | cons blank scanned others ih => exact .cons blank rfl scanned.isSpan ih

theorem covers_scanFrom (position : Nat) (cs : List Char) :
    Covers position (scanFrom position cs) cs := (scans_scanFrom position cs).covers

theorem covers_scan (text : String) : Covers 0 (Token.scan text) text.toList :=
  covers_scanFrom 0 text.toList

namespace Covers

variable {position : Nat} {tokens : List Token} {cs : List Char}

theorem position_le (covers : Covers position tokens cs) :
    ∀ token ∈ tokens, position ≤ token.position := by
  induction covers with
  | nil => simp
  | cons blank placed isSpan others ih =>
    intro token member
    rcases List.mem_cons.mp member with rfl | later
    · omega
    · have := ih token later
      omega

theorem ascending (covers : Covers position tokens cs) :
    tokens.Pairwise fun earlier later => earlier.position < later.position := by
  induction covers with
  | nil => exact .nil
  | @cons position first tokens blanks span rest blank placed isSpan others ih =>
    refine List.pairwise_cons.mpr ⟨fun later member => ?_, ih⟩
    have behind := others.position_le later member
    have filled := List.length_pos_of_ne_nil isSpan.ne_nil
    omega

theorem exists_span (covers : Covers position tokens cs) {token : Token} (member : token ∈ tokens) :
    ∃ front span back, cs = front ++ (span ++ back) ∧ IsSpan token.lexeme span ∧
      token.position = position + front.length := by
  induction covers with
  | nil => cases member
  | @cons position first tokens blanks span rest blank placed isSpan others ih =>
    rcases List.mem_cons.mp member with rfl | later
    · exact ⟨blanks, span, rest, rfl, isSpan, placed⟩
    · obtain ⟨front, span', back, rfl, isSpan', place⟩ := ih later
      refine ⟨blanks ++ (span ++ front), span', back, by simp, isSpan', ?_⟩
      simp only [List.length_append]
      omega

/-- Every visible character is in the span of a token. -/
theorem exists_span_of_visible {front rest : List Char} {c : Char}
    (covers : Covers position tokens cs) (visible : isBlank c = false)
    (whole : cs = front ++ c :: rest) :
    ∃ token ∈ tokens, ∃ before span back, cs = before ++ (span ++ back) ∧
      IsSpan token.lexeme span ∧ token.position = position + before.length ∧
      before.length ≤ front.length ∧ front.length < before.length + span.length := by
  induction covers generalizing front with
  | nil blank => exact absurd (by simp [whole]) (Text.not_mem_of_visible blank visible)
  | @cons position token tokens blanks span others blank placed isSpan covers ih =>
    rcases Text.exists_of_append_eq whole with ⟨more, rfl, -⟩ | ⟨between, rfl, later⟩
    · exact absurd (by simp) (Text.not_mem_of_visible blank visible)
    rcases Text.exists_of_append_eq later with ⟨more, rfl, -⟩ | ⟨behind, rfl, inOthers⟩
    · exact ⟨token, List.mem_cons_self, blanks, _, others, rfl, isSpan, placed, by simp, by simp⟩
    · obtain ⟨token', member, before, span', back, rfl, isSpan', placed', low, high⟩ := ih inOthers
      refine ⟨token', List.mem_cons_of_mem _ member, blanks ++ (span ++ before), span', back,
        by simp, isSpan', ?_, ?_, ?_⟩
      all_goals simp only [List.length_append]; omega

theorem position_lt (covers : Covers position tokens cs) :
    ∀ token ∈ tokens, token.position < position + cs.length := by
  intro token member
  obtain ⟨front, span, back, rfl, isSpan, placed⟩ := covers.exists_span member
  have filled := List.length_pos_of_ne_nil isSpan.ne_nil
  simp only [List.length_append]
  omega

end Covers

theorem isRun_of_mem_scanFrom {position : Nat} {cs : List Char} {token : Token} {text : String}
    (member : token ∈ scanFrom position cs) (scanned : token.lexeme = .run text) :
    IsRun text.toList := by
  obtain ⟨front, span, back, -, isSpan, -⟩ := (covers_scanFrom position cs).exists_span member
  rw [scanned] at isSpan
  cases isSpan with
  | run isRun => rwa [String.toList_ofList]

theorem isRun_of_mem_lexemes {text run : String}
    (member : .run run ∈ (Token.scan text).map (·.lexeme)) : IsRun run.toList := by
  obtain ⟨token, member, scanned⟩ := List.mem_map.mp member
  exact isRun_of_mem_scanFrom member scanned

theorem isAllBlank_of_scan_eq_nil {text : String} (empty : Token.scan text = []) :
    Text.isAllBlank text = true := by
  have covers := covers_scan text
  rw [empty] at covers
  cases covers with
  | nil blank => exact List.all_eq_true.mpr blank

/-- Nothing is lost between a text and its tokens: their spans in order, with blanks around them,
are the text, every token stands at the place of its span, and so no two at the same place. -/
theorem scan_exact (text : String) :
    Covers 0 (Token.scan text) text.toList ∧
    ((Token.scan text).Pairwise fun earlier later => earlier.position < later.position) ∧
    ∀ token ∈ Token.scan text, ∀ run, token.lexeme = .run run → IsRun run.toList :=
  ⟨covers_scan text, (covers_scan text).ascending,
    fun _ member _ scanned => isRun_of_mem_scanFrom member scanned⟩

/-- A string with a mark and an escaped quote in it, and a run with a quote and blanks behind it. -/
theorem scan_exact_quotes :
    let text := "f( '(\\'' ,O'Brien )"
    Token.scan text = [⟨0, .run "f"⟩, ⟨1, .opening⟩, ⟨3, .quoted "('"⟩, ⟨9, .comma⟩,
        ⟨10, .run "O'Brien"⟩, ⟨18, .closing⟩] ∧
      Covers 0 (Token.scan text) text.toList ∧ IsRun "O'Brien".toList := by
  intro text
  have scanned : Token.scan text = [⟨0, .run "f"⟩, ⟨1, .opening⟩, ⟨3, .quoted "('"⟩, ⟨9, .comma⟩,
      ⟨10, .run "O'Brien"⟩, ⟨18, .closing⟩] := by decide +kernel
  obtain ⟨covers, -, runs⟩ := scan_exact text
  exact ⟨scanned, covers, runs ⟨10, .run "O'Brien"⟩ (by simp [scanned]) _ rfl⟩

end StreamPlan.Expr
