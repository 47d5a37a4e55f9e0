import StreamPlan.Proofs.Expr.Parsing
import StreamPlan.Proofs.Expr.Spans

/-! What the rendering of a tree is scanned as: the lexemes of the tree, up to the first identifier
that opens a string together with the text after it. -/

set_option autoImplicit false

namespace StreamPlan.Expr

open Json.Token (isNumberChar)
open Literal (classify)
open Token (isDelimiter mayFollowString)

structure IsPlain (c : Char) : Prop where
  visible : Text.isBlank c = false
  undelimited : isDelimiter c = false
  noQuote : c ≠ '\'' ∧ c ≠ '"'

theorem isPlain_of_class {p : Char → Bool} {c : Char} (member : p c = true)
    (visible : Text.isBlank c = false)
    (noMark : ['(', ')', ',', '\'', '"'].all (fun mark => !p mark) = true) : IsPlain c := by
  simp only [List.all_cons, List.all_nil, Bool.and_true, Bool.and_eq_true, Bool.not_eq_true']
    at noMark
  obtain ⟨opening, closing, comma, single, double⟩ := noMark
  -- each mark is outside the class, and the character is not
  refine ⟨visible, Bool.eq_false_iff.mpr ?_, ?_, ?_⟩
  · intro delimiter
    simp only [isDelimiter, Bool.or_eq_true, beq_iff_eq] at delimiter
    rcases delimiter with (rfl | rfl) | rfl <;> simp_all
  · rintro rfl
    simp_all
  · rintro rfl
    simp_all

theorem isPlain_of_isNumberChar {c : Char} (numeric : isNumberChar c = true) : IsPlain c :=
  isPlain_of_class numeric (Literal.isBlank_of_isNumberChar numeric) (by decide)

theorem isPlain_of_isNameChar {c : Char} (name : Text.isNameChar c = true) : IsPlain c :=
  isPlain_of_class name (Text.isBlank_of_isNameChar name) (by decide +kernel)

structure IsPlainText (cs : List Char) : Prop where
  nonempty : cs ≠ []
  plain : ∀ c ∈ cs, IsPlain c

theorem IsPlainText.isRun {cs : List Char} (text : IsPlainText cs) : IsRun cs where
  nonempty := text.nonempty
  trimmed := Text.isTrimmed_of_forall fun c member => (text.plain c member).visible
  undelimited c member := (text.plain c member).undelimited

theorem IsPlainText.not_opensString {cs : List Char} (text : IsPlainText cs) (after : List Char) :
    ¬ OpensString (cs ++ after) := by
  obtain ⟨c, tail, rfl⟩ := List.exists_cons_of_ne_nil text.nonempty
  exact Expr.not_opensString (text.plain c List.mem_cons_self).noQuote (tail ++ after)

theorem isPlainText_of_isName {name : String} (named : Text.isName name = true) :
    IsPlainText name.toList := by
  simp only [Text.isName, Bool.and_eq_true, List.all_eq_true] at named
  exact ⟨by simpa using named.1, fun c member => isPlain_of_isNameChar (named.2 c member)⟩

theorem isPlainText_of_isNumberText {text : String} (nonempty : text.toList ≠ [])
    (number : Literal.IsNumberText text) : IsPlainText text.toList :=
  ⟨nonempty, fun c member => isPlain_of_isNumberChar (number.numeric c member)⟩

theorem isPlainText_render {literal : Literal} (fromRun : literal.FromRun)
    (noIdentifier : literal.identifier? = none) : IsPlainText literal.render.toList := by
  cases fromRun with
  | bool value => cases value <;> exact isPlainText_of_isName (by decide +kernel)
  | int value =>
    refine isPlainText_of_isNumberText ?_ ⟨Decimal.isNumberChar_intText⟩
    intro empty
    have read := Numeral.integer?_intText value.toInt
    simp [Literal.render] at empty
    simp [empty, Numeral.integer?, Numeral.splitSign, Numeral.isDigits] at read
  | @float value finite =>
    cases value with
    | infinite negative => cases finite
    | nan => cases finite
    | finite negative rank =>
      refine isPlainText_of_isNumberText ?_ (Literal.isNumberText_floatText negative rank)
      obtain ⟨c, member, -⟩ := Literal.layout.exists_mark_write (rank.shortest Literal.layout.tie)
      rw [Literal.render, Literal.floatText_finite, String.toList_ofList]
      exact List.ne_nil_of_mem (List.mem_append_right _ member)
  | identifier classified => cases noIdentifier

/-- A tree of strings, literals that a run stands for, and calls by name. -/
inductive Spelled : Expr → Prop where
  | quoted (text : String) : Spelled (.literal (.str text))
  | run {text : String} (isRun : IsRun text.toList) : Spelled (.literal (.classify text))
  | call {name : String} {arguments : List Expr} (named : Text.isName name = true)
      (spelled : ∀ argument ∈ arguments, Spelled argument) : Spelled (.call name arguments)

theorem Derives.spelled {lexemes : List Lexeme} {node : Expr} (derived : Derives lexemes node)
    (runs : ∀ text, .run text ∈ lexemes → IsRun text.toList) : Spelled node := by
  induction derived with
  | quoted text => exact .quoted text
  | run text => exact .run (runs text (by simp))
  | @call name arguments named derived ih =>
    refine .call named ?_
    intro node isNode
    obtain ⟨argument, member, rfl⟩ := List.mem_map.mp isNode
    apply ih argument member
    intro text inside
    have within := mem_separated (List.mem_map_of_mem member) inside
    exact runs text (by simp [within])

theorem spelled_of_parse {limit : Nat} {text : String} {node : Expr}
    (parsed : parse limit text = .ok node) : Spelled node :=
  (parse_eq_ok_iff.mp parsed).1.spelled fun _ => isRun_of_mem_lexemes

mutual

def lexemes : Expr → List Lexeme
  | .literal (.str text) => [.quoted text]
  | .literal value => [.run value.render]
  | .call operation arguments =>
    .run operation :: .opening :: (separated (lexemesEach arguments) ++ [.closing])
termination_by structural node => node

def lexemesEach : List Expr → List (List Lexeme)
  | [] => []
  | node :: rest => lexemes node :: lexemesEach rest
termination_by structural nodes => nodes

end

theorem lexemesEach_eq_map (nodes : List Expr) : lexemesEach nodes = nodes.map lexemes := by
  induction nodes with
  | nil => rfl
  | cons node rest ih => rw [lexemesEach, ih, List.map_cons]

theorem lexemes_call (name : String) (arguments : List Expr) :
    (Expr.call name arguments).lexemes =
      .run name :: .opening :: (separated (arguments.map lexemes) ++ [.closing]) := by
  rw [lexemes, lexemesEach_eq_map]

structure Place where
  name : String
  after : List Char

def Place.text (place : Place) : List Char := place.name.toList ++ place.after

mutual

/-- The identifiers of a tree's rendering that stands before some text. -/
def places : Expr → List Char → List Place
  | .literal value, after => value.identifier?.toList.map (⟨·, after⟩)
  | .call _ arguments, after => placesEach arguments (')' :: after)
termination_by structural node => node

def placesEach : List Expr → List Char → List Place
  | [], _ => []
  | node :: rest, after =>
    places node ((renderRest rest).toList ++ after) ++ placesEach rest after
termination_by structural nodes => nodes

end

def Faithful (places : List Place) : Prop := ∀ place ∈ places, ¬ OpensString place.text

theorem faithful_append {first second : List Place} :
    Faithful (first ++ second) ↔ Faithful first ∧ Faithful second := List.forall_mem_append

theorem mem_places_literal {value : Literal} {after : List Char} {place : Place} :
    place ∈ (Expr.literal value).places after ↔
      value.identifier? = some place.name ∧ place.after = after := by
  obtain ⟨name, rest⟩ := place
  simp [places]
  tauto

def Stops (after : List Char) : Prop := ∀ c ∈ after.head?, c = ',' ∨ c = ')'

theorem Stops.isDelimiter {after : List Char} (stops : Stops after) :
    ∀ c ∈ after.head?, isDelimiter c = true := by
  intro c first
  rcases stops c first with rfl | rfl <;> rfl

theorem Stops.mayFollowString {after : List Char} (stops : Stops after) :
    mayFollowString after = true := by
  cases after with
  | nil => rfl
  | cons c rest =>
    have visible := not_isBlank_of_isDelimiter (stops.isDelimiter c rfl)
    rcases stops c rfl with rfl | rfl <;> simp [Token.mayFollowString, visible]

theorem stops_closing (after : List Char) : Stops (')' :: after) := by simp [Stops]

theorem toList_renderRest_cons (node : Expr) (rest : List Expr) :
    (renderRest (node :: rest)).toList =
      ',' :: ' ' :: (node.render.toList ++ (renderRest rest).toList) := by
  simp [renderRest]

theorem toList_render_call (name : String) (first : Expr) (rest : List Expr) :
    (Expr.call name (first :: rest)).render.toList =
      name.toList ++ '(' :: (first.render.toList ++ ((renderRest rest).toList ++ [')'])) := by
  simp [render]

theorem Stops.renderRest {after : List Char} (stops : Stops after) (nodes : List Expr) :
    Stops ((renderRest nodes).toList ++ after) := by
  cases nodes with
  | nil => simpa [Expr.renderRest] using stops
  | cons node rest => simp [Stops, toList_renderRest_cons]

theorem lexemes_commaSpace (rest : List Char) :
    Token.lexemes (',' :: ' ' :: rest) = .comma :: Token.lexemes rest := by
  rw [Token.lexemes_comma, Token.lexemes_blank (by decide +kernel)]

theorem lexemes_name {name : String} (named : Text.isName name = true) (after : List Char) :
    Token.lexemes (name.toList ++ '(' :: after) = .run name :: .opening :: Token.lexemes after := by
  have text := isPlainText_of_isName named
  rw [text.isRun.lexemes_append (by simp [isDelimiter]) (text.not_opensString _),
    Token.lexemes_opening, String.ofList_toList]

section

variable {text : String} {after : List Char}

theorem lexemes_literal_classify : (Expr.literal (classify text)).lexemes =
    [.run (classify text).render] := by
  have fromRun := Literal.fromRun_classify text
  generalize classify text = value at fromRun
  cases fromRun <;> rfl

theorem render_of_identifier? (isRun : IsRun text.toList) {name : String}
    (isIdentifier : (classify text).identifier? = some name) :
    name = text ∧ (classify text).render = text := by
  cases classified : classify text with
  | identifier other =>
    obtain rfl : other = name := by simpa [classified, Literal.identifier?] using isIdentifier
    have same := Literal.name_of_classify classified
    rw [isRun.trimmed.trim_eq] at same
    exact ⟨same, same⟩
  | _ => simp [classified, Literal.identifier?] at isIdentifier

theorem lexemes_render_classify (isRun : IsRun text.toList) (stops : Stops after)
    (faithful : Faithful ((Expr.literal (classify text)).places after)) :
    Token.lexemes ((classify text).render.toList ++ after) =
      .run (classify text).render :: Token.lexemes after := by
  cases isIdentifier : (classify text).identifier? with
  | none =>
    -- rendered anew from its value, in characters that open no string
    have plain := isPlainText_render (Literal.fromRun_classify text) isIdentifier
    rw [plain.isRun.lexemes_append stops.isDelimiter (plain.not_opensString after),
      String.ofList_toList]
  | some name =>
    have noString := faithful ⟨name, after⟩ (mem_places_literal.mpr ⟨isIdentifier, rfl⟩)
    -- rendered as it was read
    obtain ⟨rfl, same⟩ := render_of_identifier? isRun isIdentifier
    rw [same, isRun.lexemes_append stops.isDelimiter noString, String.ofList_toList]

theorem lexemes_render_classify_of_opensString (isRun : IsRun text.toList) {place : Place}
    (member : place ∈ (Expr.literal (classify text)).places after)
    (string : OpensString place.text) :
    ∃ body rest, Token.lexemes ((classify text).render.toList ++ after) = .quoted body :: rest := by
  obtain ⟨isIdentifier, behind⟩ := mem_places_literal.mp member
  obtain ⟨name, same⟩ := render_of_identifier? isRun isIdentifier
  rw [Place.text, name, behind] at string
  rw [same]
  exact isRun.lexemes_append_of_opensString string

end

def ScansAs (node : Expr) : Prop :=
  ∀ after, Stops after → Faithful (node.places after) →
    Token.lexemes (node.render.toList ++ after) = node.lexemes ++ Token.lexemes after

theorem lexemes_renderRest {nodes : List Expr} (scans : ∀ node ∈ nodes, ScansAs node)
    {after : List Char} (stops : Stops after) (faithful : Faithful (placesEach nodes after)) :
    Token.lexemes ((renderRest nodes).toList ++ after) =
      (nodes.map lexemes).flatMap (.comma :: ·) ++ Token.lexemes after := by
  induction nodes with
  | nil => simp [renderRest]
  | cons node rest ih =>
    obtain ⟨scansNode, scansRest⟩ := List.forall_mem_cons.mp scans
    obtain ⟨faithfulNode, faithfulRest⟩ := faithful_append.mp faithful
    have front := scansNode _ (stops.renderRest rest) faithfulNode
    rw [toList_renderRest_cons, List.cons_append, List.cons_append, lexemes_commaSpace,
      List.append_assoc, front, ih scansRest faithfulRest]
    simp

theorem Spelled.scansAs {node : Expr} (spelled : Spelled node) : ScansAs node := by
  induction spelled with
  | quoted text =>
    intro after stops faithful
    have string := Token.lexemes_string text.toList stops.mayFollowString
    simpa [render, Literal.render, lexemes] using string
  | run isRun =>
    intro after stops faithful
    rw [render, lexemes_render_classify isRun stops faithful, lexemes_literal_classify]
    rfl
  | @call name arguments named spelled ih =>
    intro after stops faithful
    rw [lexemes_call]
    cases arguments with
    | nil =>
      have scanned := lexemes_name named (')' :: after)
      rw [Token.lexemes_closing] at scanned
      simpa [render] using scanned
    | cons first rest =>
      -- with its arguments each after a comma, the call is a list as above
      have scanned := lexemes_renderRest ih (stops_closing after) faithful
      rw [toList_renderRest_cons, List.cons_append, List.cons_append, lexemes_commaSpace,
        Token.lexemes_closing, List.append_assoc, List.map_cons, List.flatMap_cons,
        List.cons_append, List.cons_append, List.cons.injEq] at scanned
      rw [toList_render_call, List.map_cons, separated_cons]
      simp only [List.append_assoc, List.cons_append, List.nil_append]
      rw [lexemes_name named, scanned.2, List.append_assoc]

theorem Spelled.isTrimmed_render {node : Expr} (spelled : Spelled node) :
    node.render.toList ≠ [] ∧ Text.IsTrimmed node.render.toList := by
  cases spelled with
  | quoted text =>
    have visible : Text.isBlank '\'' = false := by decide +kernel
    have ends := Text.isTrimmed_of_ends visible visible (text.toList.flatMap Literal.escape)
    rw [render, Literal.render, String.toList_ofList]
    exact ⟨List.cons_ne_nil _ _, ends⟩
  | @run text isRun =>
    rw [render]
    cases isIdentifier : (classify text).identifier? with
    | none =>
      have run := (isPlainText_render (Literal.fromRun_classify text) isIdentifier).isRun
      exact ⟨run.nonempty, run.trimmed⟩
    | some name =>
      rw [(render_of_identifier? isRun isIdentifier).2]
      exact ⟨isRun.nonempty, isRun.trimmed⟩
  | @call name arguments named spelled =>
    obtain ⟨c, rest, start, visible, -, -⟩ := (isPlainText_of_isName named).isRun.head
    have closing : Text.isBlank ')' = false := not_isBlank_of_isDelimiter rfl
    cases arguments with
    | nil =>
      have ends := Text.isTrimmed_of_ends visible closing (rest ++ ['('])
      simpa [render, start] using ends
    | cons first others =>
      have ends := Text.isTrimmed_of_ends visible closing
        (rest ++ '(' :: (first.render.toList ++ (renderRest others).toList))
      rw [toList_render_call, start]
      simpa using ends

end StreamPlan.Expr
