import StreamPlan.Proofs.Expr.Cutting
import StreamPlan.Proofs.Expr.Parsing

/-! Calls as texts. The text between the parentheses of a call, cut at the commas outside all inner
parentheses, gives the texts of its arguments; parsing a call is the same as parsing each of them
by itself. -/

set_option autoImplicit false

namespace StreamPlan.Expr

open Token (scanFrom)

def Lexeme.depthAfter (depth : Nat) : Lexeme → Nat
  | .opening => depth + 1
  | .closing => depth - 1
  | _ => depth

/-- Tokens, each with the number of parentheses open before it. -/
def nested (depth : Nat) : List Token → List (Nat × Token)
  | [] => []
  | token :: rest => (depth, token) :: nested (token.lexeme.depthAfter depth) rest

def topCommas (tokens : List Token) : List Nat :=
  ((nested 0 tokens).filter fun (depth, token) => depth == 0 && token.lexeme == .comma).map
    (·.2.position)

def insideCall (tokens : List Token) : List Token :=
  ((nested 0 tokens).takeWhile fun (depth, token) => !(depth == 0 && token.lexeme == .closing)).map
    (·.2)

/-- The pieces between these places of a text that has `start` characters before it. -/
def cutAt (start : Nat) (cs : List Char) : List Nat → List (List Char)
  | [] => [cs]
  | place :: rest => cs.take (place - start) :: cutAt (place + 1) (cs.drop (place + 1 - start)) rest

def argumentTexts (start : Nat) (cs : List Char) (inside : List Token) : List String :=
  if inside = [] then [] else (cutAt start cs (topCommas inside)).map String.ofList

def between (text : String) (start stop : Nat) : List Char :=
  (text.toList.take stop).drop (start + 1)

/-- The operation and the texts of the arguments, if the text is a name and a parenthesis that is
closed at the end. -/
def splitCall? (text : String) : Option (String × List String) :=
  match Token.scan text with
  | ⟨_, .run operation⟩ :: ⟨start, .opening⟩ :: rest =>
    let inside := insideCall rest
    match rest.drop inside.length with
    | [⟨stop, .closing⟩] =>
      some (operation, argumentTexts (start + 1) (between text start stop) inside)
    | _ => none
  | _ => none

@[simp] theorem map_snd_nested (depth : Nat) (tokens : List Token) :
    (nested depth tokens).map (·.2) = tokens := by
  induction tokens generalizing depth with
  | nil => rfl
  | cons token rest ih => rw [nested, List.map_cons, ih]

theorem nested_eq_append_cons {depth inner : Nat} {tokens : List Token} {token : Token}
    {front back : List (Nat × Token)}
    (split : nested depth tokens = front ++ (inner, token) :: back) :
    ∃ before after, tokens = before ++ token :: after ∧
      back = nested (token.lexeme.depthAfter inner) after := by
  induction tokens generalizing depth front with
  | nil => simp [nested] at split
  | cons first rest ih =>
    rw [nested] at split
    cases front with
    | nil =>
      obtain ⟨same, rfl⟩ := List.cons.inj split
      cases same
      exact ⟨[], rest, rfl, rfl⟩
    | cons entry front =>
      obtain ⟨before, after, rfl, same⟩ := ih (List.cons.inj split).2
      exact ⟨first :: before, after, rfl, same⟩

/-- The depth comes back to where it began, without going below it; no mark of the list stands at
that depth. -/
structure Encloses (marks : List Lexeme) (tokens : List Token) : Prop where
  returns : ∀ depth rest, nested depth (tokens ++ rest) = nested depth tokens ++ nested depth rest
  above : ∀ depth, ∀ entry ∈ nested depth tokens,
    depth ≤ entry.1 ∧ (entry.1 = depth → entry.2.lexeme ∉ marks)

namespace Encloses

variable {marks : List Lexeme} {tokens : List Token}

theorem nil : Encloses marks [] := ⟨fun _ _ => rfl, by simp [nested]⟩

theorem single {token : Token} (level : ∀ depth, token.lexeme.depthAfter depth = depth)
    (unmarked : token.lexeme ∉ marks) : Encloses marks [token] where
  returns depth rest := by simp [nested, level]
  above depth entry member := by
    obtain rfl : entry = (depth, token) := by simpa [nested] using member
    exact ⟨le_rfl, fun _ => unmarked⟩

theorem append {others : List Token} (first : Encloses marks tokens)
    (second : Encloses marks others) : Encloses marks (tokens ++ others) where
  returns depth rest := by
    rw [List.append_assoc, first.returns, second.returns, first.returns, List.append_assoc]
  above depth entry member := by
    rw [first.returns, List.mem_append] at member
    exact member.elim (first.above depth entry) (second.above depth entry)

theorem weaken {fewer : List Lexeme} (encloses : Encloses marks tokens) (within : fewer ⊆ marks) :
    Encloses fewer tokens where
  returns := encloses.returns
  above depth entry member :=
    ⟨(encloses.above depth entry member).1,
      fun same marked => (encloses.above depth entry member).2 same (within marked)⟩

-- Inside a pair of parentheses everything is deeper.
theorem parentheses {opening closing : Token} (encloses : Encloses [] tokens)
    (isOpening : opening.lexeme = .opening) (isClosing : closing.lexeme = .closing)
    (unmarked : .opening ∉ marks) : Encloses marks (opening :: (tokens ++ [closing])) where
  returns depth rest := by
    simp [nested, isOpening, isClosing, Lexeme.depthAfter, encloses.returns]
  above depth entry member := by
    simp only [nested, isOpening, Lexeme.depthAfter, encloses.returns, List.mem_cons,
      List.mem_append, List.not_mem_nil, or_false] at member
    rcases member with rfl | inner | rfl
    · exact ⟨le_rfl, fun _ => by rwa [isOpening]⟩
    · have := (encloses.above (depth + 1) entry inner).1
      exact ⟨by omega, by omega⟩
    · exact ⟨Nat.le_succ depth, fun same => absurd same (Nat.succ_ne_self depth)⟩

end Encloses

def IsArgument (lexemes : List Lexeme) : Prop :=
  ∀ tokens : List Token, tokens.map (·.lexeme) = lexemes → Encloses [.comma, .closing] tokens

theorem encloses_separated {pieces : List (List Lexeme)}
    (each : ∀ piece ∈ pieces, IsArgument piece) {tokens : List Token}
    (spelled : tokens.map (·.lexeme) = separated pieces) : Encloses [.closing] tokens := by
  induction pieces generalizing tokens with
  | nil =>
    obtain rfl : tokens = [] := by simpa using spelled
    exact .nil
  | cons first rest ih =>
    obtain ⟨isFirst, isRest⟩ := List.forall_mem_cons.mp each
    cases rest with
    | nil => exact (isFirst tokens (by simpa using spelled)).weaken (by simp)
    | cons second rest =>
      rw [separated_cons_cons] at spelled
      obtain ⟨front, comma, after, rfl, spelledFront, isComma, spelledAfter⟩ :=
        exists_of_map_comma spelled
      have mark : Encloses [.closing] [comma] :=
        .single (by simp [isComma, Lexeme.depthAfter]) (by simp [isComma])
      have before : Encloses [.closing] front := (isFirst front spelledFront).weaken (by simp)
      exact before.append (mark.append (ih isRest spelledAfter))

theorem Derives.isArgument {lexemes : List Lexeme} {node : Expr} (derived : Derives lexemes node) :
    IsArgument lexemes := by
  induction derived with
  | quoted text =>
    intro tokens spelled
    obtain ⟨token, rfl, isQuoted⟩ := List.map_eq_singleton_iff.mp spelled
    exact .single (by simp [isQuoted, Lexeme.depthAfter]) (by simp [isQuoted])
  | run text =>
    intro tokens spelled
    obtain ⟨token, rfl, isRun⟩ := List.map_eq_singleton_iff.mp spelled
    exact .single (by simp [isRun, Lexeme.depthAfter]) (by simp [isRun])
  | @call name arguments named derived ih =>
    intro tokens spelled
    obtain ⟨run, opening, inside, closing, rfl, isRun, isOpening, spelledInside, isClosing⟩ :=
      exists_of_map_call spelled
    have word : Encloses [.comma, .closing] [run] :=
      .single (by simp [isRun, Lexeme.depthAfter]) (by simp [isRun])
    have enclosed := (encloses_separated (List.forall_mem_map.mpr ih) spelledInside).weaken
      (List.nil_subset _)
    exact word.append (enclosed.parentheses isOpening isClosing (by simp))

theorem topCommas_of_encloses {tokens : List Token}
    (argument : Encloses [.comma, .closing] tokens) :
    topCommas tokens = [] := by
  rw [topCommas, List.map_eq_nil_iff, List.filter_eq_nil_iff]
  rintro ⟨depth, token⟩ member
  have unmarked := (argument.above 0 _ member).2
  simp_all

theorem topCommas_append_comma {tokens after : List Token} {comma : Token}
    (argument : Encloses [.comma, .closing] tokens) (isComma : comma.lexeme = .comma) :
    topCommas (tokens ++ comma :: after) = comma.position :: topCommas after := by
  have none := topCommas_of_encloses argument
  rw [topCommas, List.map_eq_nil_iff] at none
  rw [topCommas, argument.returns, List.filter_append, none, List.nil_append, nested]
  simp [isComma, Lexeme.depthAfter, topCommas]

theorem exists_of_topCommas {tokens : List Token} {place : Nat} {rest : List Nat}
    (found : topCommas tokens = place :: rest) :
    ∃ before comma after, tokens = before ++ comma :: after ∧ comma.lexeme = .comma ∧
      comma.position = place ∧ topCommas after = rest := by
  unfold topCommas at found
  obtain ⟨⟨depth, comma⟩, entries, filtered, rfl, rfl⟩ := List.map_eq_cons_iff.mp found
  obtain ⟨front, back, split, -, isTop, rfl⟩ := List.filter_eq_cons_iff.mp filtered
  obtain ⟨before, after, rfl, rfl⟩ := nested_eq_append_cons split
  simp only [Bool.and_eq_true, beq_iff_eq] at isTop
  obtain ⟨rfl, isComma⟩ := isTop
  refine ⟨before, comma, after, rfl, isComma, rfl, ?_⟩
  rw [isComma]
  rfl

theorem insideCall_append_closing {tokens : List Token} {closing : Token}
    (encloses : Encloses [.closing] tokens) (isClosing : closing.lexeme = .closing) :
    insideCall (tokens ++ [closing]) = tokens := by
  have inside : ∀ entry ∈ nested 0 tokens,
      (fun (depth, token) => !(depth == 0 && token.lexeme == .closing)) entry = true := by
    rintro ⟨depth, token⟩ member
    have unmarked := (encloses.above 0 _ member).2
    by_contra closes
    simp_all
  rw [insideCall, encloses.returns, List.takeWhile_append_of_pos inside]
  simp [nested, isClosing]

theorem insideCall_append_drop (tokens : List Token) :
    insideCall tokens ++ tokens.drop (insideCall tokens).length = tokens := by
  have whole : insideCall tokens <+: (nested 0 tokens).map (·.2) :=
    (List.takeWhile_prefix _).map _
  rw [map_snd_nested] at whole
  exact List.prefix_iff_eq_append.mp whole

theorem cutAt_comma {start : Nat} (front back : List Char) (rest : List Nat) :
    cutAt start (front ++ ',' :: back) ((start + front.length) :: rest) =
      front :: cutAt (start + front.length + 1) back rest := by
  have beyond : start + front.length + 1 - start = (front ++ [',']).length := by simp; omega
  rw [cutAt, Nat.add_sub_cancel_left, List.take_left, beyond,
    List.append_cons front ',' back, List.drop_left]

/-- The pieces of a text that spells arguments spell them one by one. -/
theorem map_lexemes_cutAt {first : List Lexeme} {rest : List (List Lexeme)}
    (each : ∀ spelled ∈ first :: rest, IsArgument spelled) {start : Nat} {cs : List Char}
    (whole : (scanFrom start cs).map (·.lexeme) = separated (first :: rest)) :
    (cutAt start cs (topCommas (scanFrom start cs))).map Token.lexemes = first :: rest := by
  induction rest generalizing first start cs with
  | nil =>
    have isFirst := each first (by simp)
    rw [separated_singleton] at whole
    rw [topCommas_of_encloses (isFirst _ whole), cutAt, List.map_singleton, ← whole,
      Token.map_scanFrom]
  | cons second rest ih =>
    obtain ⟨isFirst, isRest⟩ := List.forall_mem_cons.mp each
    rw [separated_cons_cons] at whole
    obtain ⟨front, comma, after, scanned, spelledFront, isComma, spelledAfter⟩ :=
      exists_of_map_comma whole
    obtain ⟨piece, others, rfl, cut⟩ := exists_cut (c := ',') (by rw [isComma]; rfl) scanned
    rw [scanned, topCommas_append_comma (isFirst _ spelledFront) isComma, cut.place, cutAt_comma,
      List.map_cons]
    rw [cut.inFront (Or.inl rfl), Token.map_scanFrom] at spelledFront
    rw [cut.behind, cut.place] at spelledAfter ⊢
    rw [spelledFront, ih isRest spelledAfter]

theorem cutAt_ne_nil (start : Nat) (cs : List Char) (places : List Nat) :
    cutAt start cs places ≠ [] := by
  cases places <;> simp [cutAt]

/-- The lexemes of a text are those of its pieces, with the commas between them. -/
theorem separated_cutAt (start : Nat) (cs : List Char) :
    separated ((cutAt start cs (topCommas (scanFrom start cs))).map Token.lexemes) =
      Token.lexemes cs := by
  generalize places : topCommas (scanFrom start cs) = found
  induction found generalizing start cs with
  | nil => rw [cutAt, List.map_singleton, separated_singleton]
  | cons place rest ih =>
    obtain ⟨before, comma, after, scanned, isComma, rfl, later⟩ := exists_of_topCommas places
    obtain ⟨piece, others, rfl, cut⟩ := exists_cut (c := ',') (by rw [isComma]; rfl) scanned
    rw [cut.behind, cut.place] at later
    have spelledOthers := ih _ _ later
    obtain ⟨second, pieces, split⟩ := List.exists_cons_of_ne_nil (cutAt_ne_nil _ others rest)
    have spelled := congrArg (List.map (·.lexeme)) scanned
    rw [List.map_append, List.map_cons, isComma, cut.inFront (Or.inl rfl), cut.behind,
      Token.map_scanFrom, Token.map_scanFrom, Token.map_scanFrom] at spelled
    rw [split, List.map_cons] at spelledOthers
    rw [cut.place, cutAt_comma, split, List.map_cons, List.map_cons, separated_cons_cons,
      spelledOthers, spelled]

theorem splitCall?_eq_some_iff {text operation : String} {pieces : List String} :
    splitCall? text = some (operation, pieces) ↔ ∃ position start stop inside,
      Token.scan text =
        ⟨position, .run operation⟩ :: ⟨start, .opening⟩ :: (inside ++ [⟨stop, .closing⟩]) ∧
      insideCall (inside ++ [⟨stop, .closing⟩]) = inside ∧
      pieces = argumentTexts (start + 1) (between text start stop) inside := by
  constructor
  · intro split
    unfold splitCall? at split
    split at split
    · rename_i position operation' start rest scanned
      dsimp only at split
      split at split
      · rename_i stop isLast
        cases split
        have whole := insideCall_append_drop rest
        rw [isLast] at whole
        exact ⟨position, start, stop, insideCall rest, by rw [whole, scanned], by rw [whole], rfl⟩
      · cases split
    · cases split
  · rintro ⟨position, start, stop, inside, scanned, same, rfl⟩
    simp [splitCall?, scanned, same]

/-- The tokens inside a call are scanned from the text between its parentheses. -/
theorem inside_eq_scanFrom {text : String} {start stop : Nat} {name : Token} {inside : List Token}
    (scanned : Token.scan text =
      name :: ⟨start, .opening⟩ :: (inside ++ [⟨stop, .closing⟩])) :
    inside = scanFrom (start + 1) (between text start stop) := by
  obtain ⟨front, rest, whole, opens⟩ :=
    @exists_cut '(' 0 [name] _ ⟨start, .opening⟩ text.toList rfl scanned
  obtain ⟨middle, back, rfl, closes⟩ := exists_cut (c := ')') rfl opens.behind.symm
  have begins : (front ++ ['(']).length = start + 1 := by
    have place : start = front.length := by simpa using opens.place
    simp [place]
  have ends : ((front ++ ['(']) ++ middle).length = stop := by
    have place : stop = start + 1 + middle.length := closes.place
    rw [List.length_append, begins, place]
  have same : between text start stop = middle := by
    rw [between, whole, List.append_cons, ← List.append_assoc, ← ends, List.take_left, ← begins,
      List.drop_left]
  rw [same]
  exact closes.inFront (Or.inr rfl)

theorem lexemes_of_splitCall? {text operation : String} {pieces : List String}
    (split : splitCall? text = some (operation, pieces)) :
    (Token.scan text).map (·.lexeme) = .run operation :: .opening ::
      (separated (pieces.map (Token.lexemes ·.toList)) ++ [.closing]) := by
  obtain ⟨position, start, stop, inside, scanned, -, rfl⟩ := splitCall?_eq_some_iff.mp split
  have spelled : inside.map (·.lexeme) = separated
      ((argumentTexts (start + 1) (between text start stop) inside).map
        (Token.lexemes ·.toList)) := by
    unfold argumentTexts
    split_ifs with empty
    · rw [empty]
      rfl
    · rw [inside_eq_scanFrom scanned, Token.map_scanFrom, ← separated_cutAt (start + 1)]
      simp [Function.comp_def]
  rw [scanned, ← spelled]
  simp

theorem exists_splitCall? {text operation : String} {spelled : List (List Lexeme)}
    (each : ∀ piece ∈ spelled, piece ≠ [] ∧ IsArgument piece)
    (whole : (Token.scan text).map (·.lexeme) =
      .run operation :: .opening :: (separated spelled ++ [.closing])) :
    ∃ pieces, splitCall? text = some (operation, pieces) ∧
      pieces.map (Token.lexemes ·.toList) = spelled := by
  obtain ⟨⟨position, _⟩, ⟨start, _⟩, inside, ⟨stop, _⟩, scanned, rfl, rfl, spelledInside, rfl⟩ :=
    exists_of_map_call whole
  have encloses := encloses_separated (fun piece member => (each piece member).2) spelledInside
  have same := @insideCall_append_closing inside ⟨stop, .closing⟩ encloses rfl
  refine ⟨_, splitCall?_eq_some_iff.mpr ⟨position, start, stop, inside, scanned, same, rfl⟩, ?_⟩
  cases spelled with
  | nil =>
    obtain rfl : inside = [] := by simpa using spelledInside
    rfl
  | cons first rest =>
    have nonempty : inside ≠ [] := by
      rintro rfl
      have := (each first (by simp)).1
      simp [separated_cons, this] at spelledInside
    rw [inside_eq_scanFrom scanned] at spelledInside
    have cut := map_lexemes_cutAt (fun piece member => (each piece member).2) spelledInside
    rw [← inside_eq_scanFrom scanned] at cut
    rw [argumentTexts, if_neg nonempty, ← cut]
    simp [Function.comp_def]

theorem forall₂_parse_iff {limit : Nat} {pieces : List String} {nodes : List Expr} :
    List.Forall₂ (fun piece node => parse limit piece = .ok node) pieces nodes ↔
      List.Forall₂ Derives (pieces.map (Token.lexemes ·.toList)) nodes ∧
      ∀ node ∈ nodes, node.depth ≤ limit := by
  rw [List.forall₂_map_left_iff]
  induction pieces generalizing nodes with
  | nil => simp +contextual
  | cons piece rest ih =>
    cases nodes with
    | nil => simp
    | cons node nodes =>
      rw [List.forall₂_cons, List.forall₂_cons, ih, parse_eq_ok_iff, List.forall_mem_cons]
      exact and_and_and_comm

/-- Parsing a call gives the children that its pieces give by themselves, one call less deep. -/
theorem parse_call_iff {limit : Nat} {text operation : String} {children : List Expr} :
    parse (limit + 1) text = .ok (.call operation children) ↔ ∃ pieces,
      splitCall? text = some (operation, pieces) ∧ Text.isName operation = true ∧
      List.Forall₂ (fun piece child => parse limit piece = .ok child) pieces children := by
  have fits : (Expr.call operation children).depth ≤ limit + 1 ↔
      ∀ child ∈ children, child.depth ≤ limit := by
    have counted := @depth_call_le_iff operation children 0 (limit + 1)
    simpa [Nat.add_comm 1] using counted
  rw [parse_eq_ok_iff, derives_call_iff, fits]
  simp only [forall₂_parse_iff]
  constructor
  · rintro ⟨⟨named, spelled, whole, derived⟩, depth⟩
    have each : ∀ piece ∈ spelled, piece ≠ [] ∧ IsArgument piece :=
      ((List.forall₂_and_left spelled children).mp
        (derived.imp fun _ _ spells => ⟨⟨spells.ne_nil, spells.isArgument⟩, spells⟩)).1
    obtain ⟨pieces, split, rfl⟩ := exists_splitCall? each whole
    exact ⟨pieces, split, named, derived, depth⟩
  · rintro ⟨pieces, split, named, derived, depth⟩
    exact ⟨⟨named, _, lexemes_of_splitCall? split, derived⟩, depth⟩

example : splitCall? "f(a, g(b, c),', (')" = some ("f", ["a", " g(b, c)", "', ('"]) := by
  decide +kernel

end StreamPlan.Expr
