import StreamPlan.Proofs.Aggregation.Shape

/-! The words and marks that a text is spelled with. Blanks may stand anywhere but inside a word, so
there are many spellings of the same pieces, and each text is a spelling of one list of them. -/

set_option autoImplicit false

namespace StreamPlan.Aggregation

open Text (isBlank isName isNameChar isWordChar trim)

def isMark (c : Char) : Bool := c == '(' || c == ')' || c == ',' || c == ':'

def isSolid (c : Char) : Bool := !isBlank c && !isMark c

inductive Piece where
  | word (cs : List Char)
  | mark (c : Char)
  deriving DecidableEq

def Piece.chars : Piece → List Char
  | word cs => cs
  | mark c => [c]

/-- The pieces that a text is spelled with. There may be any blanks before, between and behind them,
and there must be one between two words. -/
inductive HasPieces : List Char → List Piece → Prop where
  | nil : HasPieces [] []
  | blank {c : Char} {rest : List Char} {pieces : List Piece} (blank : isBlank c = true)
      (others : HasPieces rest pieces) : HasPieces (c :: rest) pieces
  | mark {c : Char} {rest : List Char} {pieces : List Piece} (marked : isMark c = true)
      (others : HasPieces rest pieces) : HasPieces (c :: rest) (.mark c :: pieces)
  | word {c : Char} {cs rest : List Char} {pieces : List Piece}
      (solid : ∀ d ∈ c :: cs, isSolid d = true) (apart : ∀ d ∈ rest.head?, isSolid d = false)
      (others : HasPieces rest pieces) : HasPieces (c :: (cs ++ rest)) (.word (c :: cs) :: pieces)

theorem isSolid_eq_true_iff {c : Char} :
    isSolid c = true ↔ isBlank c = false ∧ isMark c = false := by
  simp [isSolid]

theorem not_isBlank_of_isMark {c : Char} (marked : isMark c = true) : isBlank c = false := by
  simp only [isMark, Bool.or_eq_true, beq_iff_eq] at marked
  rcases marked with ((rfl | rfl) | rfl) | rfl <;> decide

theorem isSolid_of_class {p : Char → Bool} (visible : ∀ c, p c = true → isBlank c = false)
    (marks : ['(', ')', ',', ':'].any p = false) {c : Char} (member : p c = true) :
    isSolid c = true := by
  refine isSolid_eq_true_iff.mpr ⟨visible c member, Bool.eq_false_iff.mpr fun marked => ?_⟩
  have inside : c ∈ ['(', ')', ',', ':'] := by simpa [isMark, or_assoc] using marked
  rw [List.any_eq_true.mpr ⟨c, inside, member⟩] at marks
  cases marks

theorem isSolid_of_isWordChar {c : Char} (word : isWordChar c = true) : isSolid c = true :=
  isSolid_of_class (fun _ => Text.isBlank_of_isWordChar) (by decide +kernel) word

theorem isSolid_of_isNameChar {c : Char} (named : isNameChar c = true) : isSolid c = true :=
  isSolid_of_class (fun _ => Text.isBlank_of_isNameChar) (by decide +kernel) named

section

variable {c : Char} {cs rest blanks : List Char} {pieces : List Piece}

theorem hasPieces_nil_iff : HasPieces [] pieces ↔ pieces = [] := by
  constructor
  · rintro ⟨⟩
    rfl
  · rintro rfl
    exact .nil

theorem hasPieces_cons_iff_of_isBlank (blank : isBlank c = true) :
    HasPieces (c :: rest) pieces ↔ HasPieces rest pieces := by
  constructor
  · intro spelled
    cases spelled with
    | blank _ others => exact others
    | mark marked => rw [not_isBlank_of_isMark marked] at blank; cases blank
    | word solid =>
      rw [(isSolid_eq_true_iff.mp (solid c List.mem_cons_self)).1] at blank
      cases blank
  · exact .blank blank

theorem hasPieces_blanks_append_iff (blank : ∀ c ∈ blanks, isBlank c = true) :
    HasPieces (blanks ++ rest) pieces ↔ HasPieces rest pieces := by
  induction blanks with
  | nil => rfl
  | cons c blanks ih =>
    obtain ⟨first, others⟩ := List.forall_mem_cons.mp blank
    rw [List.cons_append, hasPieces_cons_iff_of_isBlank first, ih others]

theorem hasPieces_cons_iff_of_isMark (marked : isMark c = true) :
    HasPieces (c :: rest) pieces ↔
      ∃ others, pieces = .mark c :: others ∧ HasPieces rest others := by
  constructor
  · intro spelled
    cases spelled with
    | blank blank => rw [not_isBlank_of_isMark marked] at blank; cases blank
    | mark _ others => exact ⟨_, rfl, others⟩
    | word solid =>
      rw [(isSolid_eq_true_iff.mp (solid c List.mem_cons_self)).2] at marked
      cases marked
  · rintro ⟨others, rfl, spelled⟩
    exact .mark marked spelled

theorem hasPieces_append_iff_of_isSolid (nonempty : cs ≠ []) (solid : ∀ c ∈ cs, isSolid c = true)
    (apart : ∀ c ∈ rest.head?, isSolid c = false) :
    HasPieces (cs ++ rest) pieces ↔
      ∃ others, pieces = .word cs :: others ∧ HasPieces rest others := by
  obtain ⟨c, cs, rfl⟩ := List.exists_cons_of_ne_nil nonempty
  have first := isSolid_eq_true_iff.mp (solid c List.mem_cons_self)
  constructor
  · intro spelled
    generalize same : c :: cs ++ rest = text at spelled
    cases spelled with
    | nil => cases same
    | blank blank =>
      cases same
      rw [first.1] at blank
      cases blank
    | mark marked =>
      cases same
      rw [first.2] at marked
      cases marked
    | @word c' cs' rest' others solid' apart' spelled' =>
      rw [← List.cons_append] at same
      -- both words go up to the first character that is not solid
      have words := congrArg (List.takeWhile isSolid) same
      rw [Text.takeWhile_append_stop solid apart, Text.takeWhile_append_stop solid' apart'] at words
      rw [words] at same ⊢
      rw [List.append_cancel_left same]
      exact ⟨others, rfl, spelled'⟩
  · rintro ⟨others, rfl, spelled⟩
    exact .word solid apart spelled

theorem hasPieces_word_mark_iff (nonempty : cs ≠ []) (solid : ∀ c ∈ cs, isSolid c = true)
    (blank : ∀ c ∈ blanks, isBlank c = true) (marked : isMark c = true) :
    HasPieces (cs ++ (blanks ++ c :: rest)) pieces ↔
      ∃ others, pieces = .word cs :: .mark c :: others ∧ HasPieces rest others := by
  have apart : ∀ d ∈ (blanks ++ c :: rest).head?, isSolid d = false := by
    cases blanks with
    | nil => simp [isSolid, marked]
    | cons b blanks => simp [isSolid, blank b List.mem_cons_self]
  rw [hasPieces_append_iff_of_isSolid nonempty solid apart]
  simp only [hasPieces_blanks_append_iff blank, hasPieces_cons_iff_of_isMark marked]
  constructor
  · rintro ⟨_, rfl, others, rfl, spelled⟩
    exact ⟨others, rfl, spelled⟩
  · rintro ⟨others, rfl, spelled⟩
    exact ⟨_, rfl, others, rfl, spelled⟩

end

section

variable {c : Char} {cs word : List Char} {pieces : List Piece}

theorem HasPieces.of_nil (spelled : HasPieces cs []) : ∀ c ∈ cs, isBlank c = true := by
  generalize none : ([] : List Piece) = pieces at spelled
  induction spelled with
  | nil => simp
  | blank blank _ ih => exact List.forall_mem_cons.mpr ⟨blank, ih none⟩
  | mark | word => cases none

theorem HasPieces.of_cons {piece : Piece} (spelled : HasPieces cs (piece :: pieces)) :
    ∃ blanks rest, (∀ c ∈ blanks, isBlank c = true) ∧ cs = blanks ++ (piece.chars ++ rest) ∧
      HasPieces rest pieces := by
  generalize same : piece :: pieces = all at spelled
  induction spelled with
  | nil => cases same
  | @blank c rest _ blank _ ih =>
    obtain ⟨blanks, behind, others, rfl, spelled⟩ := ih same
    exact ⟨c :: blanks, behind, List.forall_mem_cons.mpr ⟨blank, others⟩, rfl, spelled⟩
  | mark _ others =>
    cases same
    exact ⟨[], _, List.forall_mem_nil _, rfl, others⟩
  | word _ _ others =>
    cases same
    exact ⟨[], _, List.forall_mem_nil _, rfl, others⟩

theorem HasPieces.solid (spelled : HasPieces cs pieces) (member : .word word ∈ pieces) :
    word ≠ [] ∧ ∀ c ∈ word, isSolid c = true := by
  induction spelled with
  | nil => cases member
  | blank _ _ ih => exact ih member
  | mark _ _ ih => exact ih (by simpa using member)
  | word solid _ _ ih =>
    rcases List.mem_cons.mp member with same | later
    · cases same
      exact ⟨List.cons_ne_nil _ _, solid⟩
    · exact ih later

end

section

variable {cs : List Char} {pieces : List Piece}

theorem HasPieces.unique {pieces' : List Piece} (first : HasPieces cs pieces)
    (second : HasPieces cs pieces') : pieces = pieces' := by
  induction first generalizing pieces' with
  | nil => exact (hasPieces_nil_iff.mp second).symm
  | blank blank _ ih => exact ih ((hasPieces_cons_iff_of_isBlank blank).mp second)
  | mark marked _ ih =>
    obtain ⟨others, rfl, rest⟩ := (hasPieces_cons_iff_of_isMark marked).mp second
    rw [ih rest]
  | word solid apart _ ih =>
    rw [← List.cons_append] at second
    obtain ⟨others, rfl, rest⟩ :=
      (hasPieces_append_iff_of_isSolid (List.cons_ne_nil _ _) solid apart).mp second
    rw [ih rest]

def piecesOf : List Char → List Piece
  | [] => []
  | c :: rest =>
    if isBlank c then piecesOf rest
    else if isMark c then .mark c :: piecesOf rest
    else if rest.head?.any isSolid then
      match piecesOf rest with
      | .word cs :: pieces => .word (c :: cs) :: pieces
      | pieces => .word [c] :: pieces
    else .word [c] :: piecesOf rest

theorem hasPieces_piecesOf (cs : List Char) : HasPieces cs (piecesOf cs) := by
  induction cs with
  | nil => exact .nil
  | cons c rest ih =>
    rw [piecesOf]
    split
    · rename_i blank
      exact .blank blank ih
    split
    · rename_i marked
      exact .mark marked ih
    rename_i visible unmarked
    have solid : isSolid c = true := by simp [isSolid, visible, unmarked]
    generalize piecesOf rest = pieces at ih
    split
    · rename_i joined
      cases ih with
      | nil => simp at joined
      | blank blank => simp [isSolid, blank] at joined
      | mark marked => simp [isSolid, marked] at joined
      | word others apart spelled =>
        exact @HasPieces.word c _ _ _ (List.forall_mem_cons.mpr ⟨solid, others⟩) apart spelled
    · rename_i alone
      have apart : ∀ d ∈ rest.head?, isSolid d = false := by
        cases rest <;> simp_all
      exact @HasPieces.word c [] rest pieces (by simpa using solid) apart ih

instance (cs : List Char) (pieces : List Piece) : Decidable (HasPieces cs pieces) :=
  decidable_of_iff (piecesOf cs = pieces)
    ⟨fun same => same ▸ hasPieces_piecesOf cs, (hasPieces_piecesOf cs).unique⟩

theorem hasPieces_append_blanks_iff {blanks : List Char} (blank : ∀ c ∈ blanks, isBlank c = true) :
    HasPieces (cs ++ blanks) pieces ↔ HasPieces cs pieces := by
  have extend {pieces : List Piece} (spelled : HasPieces cs pieces) :
      HasPieces (cs ++ blanks) pieces := by
    induction spelled with
    | nil =>
      have none := (@hasPieces_blanks_append_iff [] blanks [] blank).mpr .nil
      rwa [List.append_nil] at none
    | blank blank _ ih => exact .blank blank ih
    | mark marked _ ih => exact .mark marked ih
    | @word c cs rest pieces solid apart _ ih =>
      have apart : ∀ d ∈ (rest ++ blanks).head?, isSolid d = false := by
        cases rest with
        | nil =>
          intro d first
          simp [isSolid, blank d (List.mem_of_mem_head? first)]
        | cons d rest => simpa using apart
      rw [List.cons_append, List.append_assoc]
      exact .word solid apart ih
  refine ⟨fun spelled => ?_, extend⟩
  have whole := hasPieces_piecesOf cs
  rwa [spelled.unique (extend whole)]

theorem hasPieces_trim_iff {text : String} :
    HasPieces (trim text).toList pieces ↔ HasPieces text.toList pieces := by
  obtain ⟨front, back, blankFront, blankBack, whole⟩ := Text.exists_append_trim_append text
  rw [whole, hasPieces_blanks_append_iff blankFront, hasPieces_append_blanks_iff blankBack]

theorem HasPieces.allowed_iff (spelled : HasPieces cs pieces) :
    (∀ c ∈ cs, AllowedChar c) ↔ ∀ piece ∈ pieces, ∀ c ∈ piece.chars, AllowedChar c := by
  induction spelled with
  | nil => simp
  | blank blank _ ih =>
    rw [List.forall_mem_cons, ih]
    exact and_iff_right (Or.inr (Or.inl blank))
  | mark _ _ ih => simp [ih, Piece.chars]
  | word _ _ _ ih => simp [ih, Piece.chars, or_imp, forall_and, and_assoc]

end

end StreamPlan.Aggregation
