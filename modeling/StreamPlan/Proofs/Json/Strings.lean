import StreamPlan.Json.Token

/-! A string is scanned back from its escaped form. Escapes of controls give pieces that are
joined one by one, since none is half of a surrogate pair. -/

set_option autoImplicit false

namespace StreamPlan.Json.Token

theorem hexValue?_hexDigit : ∀ n < 16, hexValue? (hexDigit n) = some n := by decide

/-- The piece that a character's escaped form is scanned as: controls without a short form of
their own are written as units. -/
def piece (c : Char) : Piece :=
  if c.toNat < 0x20 ∧ c ∉ ['\x08', '\x0c', '\n', '\r', '\t'] then .unit c.toNat else .char c

theorem scanString_short {letter c : Char} (escapes : unescape? letter = some c)
    (read : List Piece) (rest : List Char) :
    scanString read ('\\' :: letter :: rest) = scanString (.char c :: read) rest := by
  have notUnit : letter ≠ 'u' := by
    rintro rfl
    cases escapes
  rw [scanString]
  · simp [escapes]
  · simp [notUnit]

theorem scanString_control {c : Char} (low : c.toNat < 0x20) (read : List Piece)
    (rest : List Char) :
    scanString read ('\\' :: 'u' :: '0' :: '0' :: hexDigit (c.toNat / 16) ::
      hexDigit (c.toNat % 16) :: rest) = scanString (.unit c.toNat :: read) rest := by
  have zero : hexValue? '0' = some 0 := by decide
  have high := hexValue?_hexDigit (c.toNat / 16) (by omega)
  have units := hexValue?_hexDigit (c.toNat % 16) (by omega)
  have code : ((0 * 16 + 0) * 16 + c.toNat / 16) * 16 + c.toNat % 16 = c.toNat := by omega
  rw [scanString]
  simp only [zero, high, units, code]

theorem scanString_plain {c : Char} (notQuote : c ≠ '"') (notEscape : c ≠ '\\')
    (visible : ¬ c.toNat < 0x20) (read : List Piece) (rest : List Char) :
    scanString read (c :: rest) = scanString (.char c :: read) rest := by
  rw [scanString]
  · simp [notEscape, visible]
  · simp [notQuote]
  · simp [notEscape]
  · simp [notEscape]

-- Scanning a character's escaped form gives its piece, case by case as it is escaped.
theorem scanString_escape (c : Char) (read : List Piece) (rest : List Char) :
    scanString read (escape c ++ rest) = scanString (piece c :: read) rest := by
  unfold escape
  -- the short forms come first
  iterate 7
    split
    · subst c
      exact scanString_short rfl read rest
  split
  · rename_i low
    have unit : piece c = .unit c.toNat := by simp_all [piece]
    rw [unit]
    exact scanString_control low read rest
  · rename_i notQuote notEscape _ _ _ _ _ visible
    have char : piece c = .char c := by simp_all [piece]
    rw [char]
    exact scanString_plain notQuote notEscape visible read rest

theorem scanString_quote (text : List Char) (read : List Piece) (rest : List Char) :
    scanString read (text.flatMap escape ++ '"' :: rest) =
      some (read.reverse ++ text.map piece, rest) := by
  induction text generalizing read with
  | nil => simp [scanString]
  | cons c text ih =>
    rw [List.flatMap_cons, List.append_assoc, scanString_escape, ih]
    simp

theorem joinPieces_unit {code : Nat} (low : code < 0xD800) (joined : List Char)
    (pieces : List Piece) :
    joinPieces joined (.unit code :: pieces) = joinPieces (Char.ofNat code :: joined) pieces := by
  have notHigh : isHigh code = false := by simp [isHigh]; omega
  have notLow : isLow code = false := by simp [isLow]; omega
  cases pieces with
  | nil => simp [joinPieces, notHigh, notLow]
  | cons first rest =>
    cases first with
    | char c => simp [joinPieces, notHigh, notLow]
    | unit next => rw [joinPieces]; simp [notHigh, notLow]

theorem joinPieces_map_piece (text joined : List Char) :
    joinPieces joined (text.map piece) = some (joined.reverse ++ text) := by
  induction text generalizing joined with
  | nil => simp [joinPieces]
  | cons c text ih =>
    rw [List.map_cons, piece]
    split
    · rename_i control
      rw [joinPieces_unit (by omega), Char.ofNat_toNat, ih]
      simp
    · rw [joinPieces, ih]
      simp

theorem next?_quote (text : String) (rest : List Char) :
    next? '"' (text.toList.flatMap escape ++ '"' :: rest) = some (.string (some text), rest) := by
  have joined := joinPieces_map_piece text.toList []
  simp [next?, punctuation?, scanString_quote, joined]

end StreamPlan.Json.Token
