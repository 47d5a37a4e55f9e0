import StreamPlan.Proofs.Expr.Context

/-! Text that is cut where a comma or a parenthesis is scanned. The text behind the mark is scanned
as if nothing came before it, and the text in front of a comma or closing parenthesis as if nothing
came behind: whether a quote opens a string there does not depend on what follows the argument. -/

set_option autoImplicit false

namespace StreamPlan.Expr

open Token (delimiter? scanFrom)

variable {c : Char} {position : Nat} {before after : List Token} {token : Token}

/-- Text with a mark between `front` and `back`, and the tokens before and after the mark's. -/
structure Cut (c : Char) (position : Nat) (before : List Token) (token : Token)
    (after : List Token) (front back : List Char) : Prop where
  place : token.position = position + front.length
  behind : after = scanFrom (token.position + 1) back
  inFront : c = ',' ∨ c = ')' → before = scanFrom position front

/-- The text is cut at every mark that is scanned. -/
theorem exists_cut {cs : List Char} (mark : delimiter? c = some token.lexeme)
    (scanned : scanFrom position cs = before ++ token :: after) :
    ∃ front back, cs = front ++ c :: back ∧ Cut c position before token after front back := by
  have scans := scans_scanFrom position cs
  rw [scanned] at scans
  obtain ⟨front, span, back, rfl, place, scansFront, scannedMark, scansBack⟩ := scans.exists_token
  obtain rfl := scannedMark.eq_of_delimiter? mark
  refine ⟨front, back, rfl, place, scansBack.scanFrom_eq.symm, fun isStop => ?_⟩
  refine (scansFront.exchange fun token _ span middle scanned => ?_).scanFrom_eq.symm
  rw [List.append_nil] at scanned ⊢
  exact scanned.of_append_stop isStop

theorem getElem?_position {text : String} (mark : delimiter? c = some token.lexeme)
    (member : token ∈ Token.scan text) : text.toList[token.position]? = some c := by
  obtain ⟨before, after, scanned⟩ := List.append_of_mem member
  obtain ⟨front, back, whole, cut⟩ := exists_cut mark scanned
  rw [whole, cut.place, Nat.zero_add, List.getElem?_append_right le_rfl, Nat.sub_self]
  rfl

end StreamPlan.Expr
