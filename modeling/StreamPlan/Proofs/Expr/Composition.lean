import StreamPlan.Proofs.Expr.Arguments
import StreamPlan.Proofs.Expr.Rendering

/-! Calls made of texts. In general a text does not keep its tokens when others are put behind it: a
quote in it may find its counterpart there. Where no run begins with a quote every token stays what
it is in front of the end of an argument, so that the text of a call with blanks anywhere between its
parts is parsed to the call of what the parts are parsed to. -/

set_option autoImplicit false

namespace StreamPlan.Expr

open Text (isBlank)
open Token (isDelimiter mayFollowString)

def Lexeme.Unquoted : Lexeme → Prop
  | .run text => ∀ c ∈ text.toList.head?, c ≠ '\'' ∧ c ≠ '"'
  | _ => True

structure Padded where
  before : String
  core : String
  behind : String
  blankBefore : Text.isAllBlank before = true := by decide +kernel
  blankBehind : Text.isAllBlank behind = true := by decide +kernel

def Padded.text (padded : Padded) : String := padded.before ++ padded.core ++ padded.behind

/-- The text of a call, with blanks around its name and its arguments and behind it. -/
def callText (name : Padded) (arguments : List Padded) (behind : String) : String :=
  name.text ++ "(" ++ ",".intercalate (arguments.map Padded.text) ++ ")" ++ behind

theorem forall_firstVisible?_append {p : Char → Prop} {front rest : List Char}
    (first : ∀ c ∈ firstVisible? front, p c) (second : ∀ c ∈ firstVisible? rest, p c) :
    ∀ c ∈ firstVisible? (front ++ rest), p c := by
  unfold firstVisible? at *
  rw [List.find?_append]
  cases found : front.find? (!isBlank ·) with
  | none => exact second
  | some c => rwa [found] at first

/-- The end of an argument may be put behind any token but a run that begins with a quote. -/
theorem ScannedBefore.append_unquoted {middle after span : List Char} {lexeme : Lexeme}
    (scanned : ScannedBefore middle lexeme span) (follows : mayFollowString after = true)
    (unquoted : lexeme.Unquoted) : ScannedBefore (middle ++ after) lexeme span := by
  rw [mayFollowString_iff] at follows
  cases scanned with
  | delimiter mark => exact .delimiter mark
  | quoted isQuote denotes follows' =>
    rw [mayFollowString_iff] at follows'
    exact .quoted isQuote denotes
      (mayFollowString_iff.mpr (forall_firstVisible?_append follows' follows))
  | run isRun ends noString =>
    obtain ⟨c, rest, rfl⟩ := List.exists_cons_of_ne_nil isRun.nonempty
    have isStop : ∀ c ∈ firstVisible? after, isDelimiter c = true := by
      intro c first
      rcases follows c first with rfl | rfl <;> rfl
    exact .run isRun (forall_firstVisible?_append ends isStop)
      (not_opensString (unquoted c (by simp)) _)

theorem lexemes_append_unquoted {cs after : List Char} (follows : mayFollowString after = true)
    (unquoted : ∀ token ∈ Token.scanFrom 0 cs, token.lexeme.Unquoted) :
    Token.lexemes (cs ++ after) = Token.lexemes cs ++ Token.lexemes after := by
  refine ((scans_scanFrom 0 cs).exchange fun token member span middle scanned => ?_).lexemes_append
  rw [List.append_nil] at scanned
  exact scanned.append_unquoted follows (unquoted token member)

namespace Padded

variable (padded : Padded)

theorem toList_text :
    padded.text.toList = padded.before.toList ++ (padded.core.toList ++ padded.behind.toList) := by
  simp [text]

theorem blank_before : ∀ c ∈ padded.before.toList, isBlank c = true :=
  List.all_eq_true.mp padded.blankBefore

theorem blank_behind : ∀ c ∈ padded.behind.toList, isBlank c = true :=
  List.all_eq_true.mp padded.blankBehind

theorem lexemes_name (named : Text.isName padded.core = true) (after : List Char) :
    Token.lexemes (padded.text.toList ++ '(' :: after) =
      .run padded.core :: .opening :: Token.lexemes after := by
  have text := isPlainText_of_isName named
  have scanned : ScannedBefore (padded.behind.toList ++ '(' :: after)
      (.run (String.ofList padded.core.toList)) padded.core.toList := by
    refine .run text.isRun ?_ (text.not_opensString _)
    rw [firstVisible?_append padded.blank_behind, firstVisible?_cons (by decide +kernel)]
    simp [isDelimiter]
  rw [padded.toList_text, List.append_assoc, List.append_assoc, lexemes_blanks padded.blank_before,
    scanned.lexemes_append, lexemes_blanks padded.blank_behind, Token.lexemes_opening,
    String.ofList_toList]

theorem lexemes_argument {stop : Char} (isStop : stop = ',' ∨ stop = ')')
    (unquoted : ∀ token ∈ Token.scan padded.core, token.lexeme.Unquoted) (after : List Char) :
    Token.lexemes (padded.text.toList ++ stop :: after) =
      Token.lexemes padded.core.toList ++ Token.lexemes (stop :: after) := by
  have visible : isBlank stop = false := by rcases isStop with rfl | rfl <;> decide +kernel
  have follows : mayFollowString (padded.behind.toList ++ stop :: after) = true := by
    rw [mayFollowString_iff, firstVisible?_append padded.blank_behind, firstVisible?_cons visible]
    simpa using isStop
  rw [padded.toList_text, List.append_assoc, List.append_assoc, lexemes_blanks padded.blank_before,
    lexemes_append_unquoted follows unquoted, lexemes_blanks padded.blank_behind]

end Padded

theorem lexemes_arguments {first : Padded} {rest : List Padded}
    (unquoted : ∀ argument ∈ first :: rest, ∀ token ∈ Token.scan argument.core,
      token.lexeme.Unquoted) (after : List Char) :
    Token.lexemes ([','].intercalate ((first :: rest).map (·.text.toList)) ++ ')' :: after) =
      separated ((first :: rest).map (Token.lexemes ·.core.toList)) ++
        .closing :: Token.lexemes after := by
  induction rest generalizing first with
  | nil =>
    have argument := first.lexemes_argument (Or.inr rfl) (unquoted first (by simp)) after
    rw [Token.lexemes_closing] at argument
    simpa using argument
  | cons second rest ih =>
    obtain ⟨unquotedFirst, unquotedRest⟩ := List.forall_mem_cons.mp unquoted
    have argument := first.lexemes_argument (Or.inl rfl) unquotedFirst
    rw [List.map_cons, List.map_cons, List.intercalate_cons_cons, List.append_assoc,
      List.append_assoc, List.singleton_append, argument, Token.lexemes_comma]
    have others := ih unquotedRest
    rw [List.map_cons] at others
    rw [others]
    simp

theorem lexemes_callText {name : Padded} {arguments : List Padded} {behind : String}
    (named : Text.isName name.core = true) (filled : arguments ≠ [])
    (unquoted : ∀ argument ∈ arguments, ∀ token ∈ Token.scan argument.core,
      token.lexeme.Unquoted)
    (blank : Text.isAllBlank behind = true) :
    (Token.scan (callText name arguments behind)).map (·.lexeme) = .run name.core :: .opening ::
      (separated (arguments.map (Token.lexemes ·.core.toList)) ++ [.closing]) := by
  obtain ⟨first, rest, rfl⟩ := List.exists_cons_of_ne_nil filled
  have nothing := lexemes_blanks (List.all_eq_true.mp blank) []
  rw [List.append_nil, Token.lexemes_nil] at nothing
  have text : (callText name (first :: rest) behind).toList = name.text.toList ++
      '(' :: ([','].intercalate ((first :: rest).map (·.text.toList)) ++ ')' :: behind.toList) := by
    simp [callText, String.toList_intercalate, Function.comp_def]
  rw [Token.scan, Token.map_scanFrom, text, name.lexemes_name named, lexemes_arguments unquoted,
    nothing]

/-- A name and the texts of arguments, each with blanks around it, and the marks of a call between
them are parsed to the call of the arguments, one call deeper than each of them. No argument may
have a run that begins with a quote. -/
theorem parse_callText {limit : Nat} {name : Padded} {arguments : List Padded} {nodes : List Expr}
    {behind : String} (named : Text.isName name.core = true) (filled : arguments ≠ [])
    (parsed : List.Forall₂ (fun argument node => parse limit argument.core = .ok node)
      arguments nodes)
    (unquoted : ∀ argument ∈ arguments, ∀ token ∈ Token.scan argument.core,
      token.lexeme.Unquoted)
    (blank : Text.isAllBlank behind = true) :
    parse (limit + 1) (callText name arguments behind) = .ok (.call name.core nodes) := by
  have pieces : List.Forall₂ (fun piece node => parse limit piece = .ok node)
      (arguments.map Padded.core) nodes := List.forall₂_map_left_iff.mpr parsed
  obtain ⟨derived, fits⟩ := forall₂_parse_iff.mp pieces
  rw [parse_eq_ok_iff, lexemes_callText named filled unquoted blank, derives_call_iff]
  rw [List.map_map] at derived
  refine ⟨⟨named, _, rfl, derived⟩, ?_⟩
  rw [depth, Nat.add_le_add_iff_right, depthMax_le_iff]
  exact fits

/-- The first argument ends in a backslash, the second is a string with the marks of a call in it,
and the third is itself a call. -/
theorem parse_callText_blanks :
    let name : Padded := { before := "\t", core := "concat", behind := " " }
    let first : Padded := { before := "", core := "a\\", behind := "  " }
    let second : Padded := { before := " ", core := "'x,)'", behind := "\n" }
    let third : Padded := { before := " ", core := "lower(it's)", behind := "" }
    callText name [first, second, third] " " = "\tconcat (a\\  , 'x,)'\n, lower(it's)) " ∧
      parse 2 (callText name [first, second, third] " ") = .ok (.call "concat"
        [.literal (.identifier "a\\"), .literal (.str "x,)"),
          .call "lower" [.literal (.identifier "it's")]]) := by
  intro name first second third
  have parsed : List.Forall₂ (fun argument node => parse 1 (Padded.core argument) = .ok node)
      [first, second, third] [.literal (.identifier "a\\"), .literal (.str "x,)"),
        .call "lower" [.literal (.identifier "it's")]] := by
    refine .cons ?_ (.cons ?_ (.cons ?_ .nil)) <;> decide +kernel
  have scanned : Token.scan first.core = [⟨0, .run "a\\"⟩] ∧
      Token.scan second.core = [⟨0, .quoted "x,)"⟩] ∧
      Token.scan third.core =
        [⟨0, .run "lower"⟩, ⟨5, .opening⟩, ⟨6, .run "it's"⟩, ⟨10, .closing⟩] := by decide +kernel
  have unquoted : ∀ argument ∈ [first, second, third], ∀ token ∈ Token.scan argument.core,
      token.lexeme.Unquoted := by
    simp [scanned, Lexeme.Unquoted]
  exact ⟨by decide +kernel,
    parse_callText (by decide +kernel) (by simp) parsed unquoted (by decide +kernel)⟩

end StreamPlan.Expr
