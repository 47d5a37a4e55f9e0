import StreamPlan.Expr.Literal
import StreamPlan.Proofs.Binary64.Shortest
import StreamPlan.Proofs.Decimal.Layout
import StreamPlan.Proofs.Text.Class
import StreamPlan.Proofs.Text.Trim

/-! The text of a constant or an identifier, as it is written in an expression, is classified as
that constant or identifier. -/

set_option autoImplicit false

namespace StreamPlan.Literal

open Decimal (intText)
open Json.Token (isNumberChar)
open Numeral (sign)
open Text (isTrimmed_of_forall)

theorem isBlank_of_isNumberChar {c : Char} (numeric : isNumberChar c = true) :
    Text.isBlank c = false := by
  simp only [isNumberChar, Bool.or_eq_true, beq_iff_eq, or_assoc] at numeric
  rcases numeric with digit | rfl | rfl | rfl | rfl | rfl
  · have bounds := Char.isDigit_iff_toNat.mp digit
    have zero : ('0').toNat = 48 := rfl
    have nine : ('9').toNat = 57 := rfl
    exact Text.isBlank_of_ascii (by omega) (by omega)
  all_goals exact Text.isBlank_of_ascii (by decide) (by decide)

structure IsNumberText (text : String) : Prop where
  numeric : ∀ c ∈ text.toList, isNumberChar c = true

namespace IsNumberText

variable {text : String}

theorem trim_eq (number : IsNumberText text) : Text.trim text = text :=
  (isTrimmed_of_forall fun c member => isBlank_of_isNumberChar (number.numeric c member)).trim_eq

theorem ne (number : IsNumberText text) {word : String} {c : Char} (letter : c ∈ word.toList)
    (other : isNumberChar c = false) : text ≠ word := by
  rintro rfl
  simp [number.numeric c letter] at other

-- Text like a number's is no truth value, and has nothing to trim.
theorem classify_eq (number : IsNumberText text) :
    classify text = (number? text.toList).getD (.identifier text) := by
  have notTrue : text ≠ "True" := number.ne (c := 'T') (by simp) (by decide)
  have notFalse : text ≠ "False" := number.ne (c := 'F') (by simp) (by decide)
  unfold classify
  dsimp only
  rw [number.trim_eq, if_neg notTrue, if_neg notFalse]

end IsNumberText

theorem classify_intText (value : Int64) : classify (intText value.toInt) = .int value := by
  have number : IsNumberText (intText value.toInt) := ⟨Decimal.isNumberChar_intText⟩
  have read : int64? (intText value.toInt).toList = some value := by
    rw [int64?, Numeral.integer?_intText, Option.bind_some, Numeral.int64?_toInt]
  rw [number.classify_eq, number?, read]
  rfl

theorem floatText_finite (negative : Bool) (rank : Binary64.Rank) :
    floatText (.finite negative rank) =
      String.ofList (sign negative ++ layout.write (rank.shortest layout.tie)) := rfl

theorem isNumberText_floatText (negative : Bool) (rank : Binary64.Rank) :
    IsNumberText (floatText (.finite negative rank)) := by
  constructor
  rw [floatText_finite, String.toList_ofList]
  intro c member
  rcases List.mem_append.mp member with isSign | written
  · cases negative with
    | true => simp_all [sign, isNumberChar]
    | false => cases isSign
  · exact layout.isNumberChar_write _ c written

theorem classify_floatText {x : Binary64} (finite : x.isFinite = true) :
    classify (floatText x) = .float x := by
  cases x with
  | infinite negative => cases finite
  | nan => cases finite
  | finite negative rank =>
    rw [(isNumberText_floatText negative rank).classify_eq, floatText_finite, String.toList_ofList]
    obtain ⟨c, member, isMark⟩ := layout.exists_mark_write (rank.shortest layout.tie)
    have notInteger : int64? (sign negative ++ layout.write (rank.shortest layout.tie)) = none := by
      rw [int64?, @Numeral.integer?_eq_none _ c (List.mem_append_right _ member)]
      · rfl
      · rcases isMark with rfl | rfl <;> decide
      · rcases isMark with rfl | rfl <;> decide
    obtain ⟨numeral, read, value⟩ :=
      layout.write_denotes (rank.shortest layout.tie) negative
    rw [Binary64.Rank.shortest_readsBack] at value
    rw [number?, notInteger]
    dsimp only
    rw [finite?, read]
    simp [value, Binary64.isFinite]

inductive FromRun : Literal → Prop where
  | bool (value : Bool) : FromRun (.bool value)
  | int (value : Int64) : FromRun (.int value)
  | float {value : Binary64} (finite : value.isFinite = true) : FromRun (.float value)
  | identifier {name : String} (classified : classify name = .identifier name) :
      FromRun (.identifier name)

theorem finite?_isFinite {cs : List Char} {value : Binary64} (found : finite? cs = some value) :
    value.isFinite = true := by
  unfold finite? at found
  obtain ⟨numeral, -, finite⟩ := Option.bind_eq_some_iff.mp found
  split at finite
  · rename_i isFinite
    cases finite
    exact isFinite
  · cases finite

theorem number?_fromRun {cs : List Char} {literal : Literal} (found : number? cs = some literal) :
    FromRun literal ∧ ∀ name, literal ≠ .identifier name := by
  unfold number? at found
  split at found
  · cases found
    exact ⟨.int _, by simp⟩
  · obtain ⟨value, finite, rfl⟩ := Option.map_eq_some_iff.mp found
    exact ⟨.float (finite?_isFinite finite), by simp⟩

theorem fromRun_classify (text : String) : FromRun (classify text) := by
  unfold classify
  dsimp only
  split
  · exact .bool true
  split
  · exact .bool false
  cases found : number? (Text.trim text).toList with
  | some literal => exact (number?_fromRun found).1
  | none =>
    refine .identifier ?_
    simp [classify, *]

theorem number?_eq_none_iff {cs : List Char} :
    number? cs = none ↔ int64? cs = none ∧ finite? cs = none := by
  unfold number?
  cases int64? cs <;> simp

/-- Identifiers are what is left when truth values and numbers are taken away. -/
theorem classify_eq_identifier_iff {text name : String} :
    classify text = .identifier name ↔ name = Text.trim text ∧ (name ≠ "True" ∧ name ≠ "False") ∧
      int64? name.toList = none ∧ finite? name.toList = none := by
  unfold classify
  dsimp only
  split
  · simp_all
  split
  · simp_all
  rename_i notTrue notFalse
  cases found : number? (Text.trim text).toList with
  | some literal =>
    constructor
    · intro same
      exact absurd same ((number?_fromRun found).2 name)
    · rintro ⟨rfl, -, none⟩
      rw [number?_eq_none_iff.mpr none] at found
      cases found
  | none =>
    constructor
    · intro same
      cases same
      exact ⟨rfl, ⟨notTrue, notFalse⟩, number?_eq_none_iff.mp found⟩
    · rintro ⟨rfl, -⟩
      rfl

theorem name_of_classify {text name : String} (classified : classify text = .identifier name) :
    name = Text.trim text :=
  (classify_eq_identifier_iff.mp classified).1

theorem FromRun.classify_render {literal : Literal} (fromRun : FromRun literal) :
    classify literal.render = literal := by
  cases fromRun with
  | bool value =>
    have trimTrue : Text.trim "True" = "True" := by decide +kernel
    have trimFalse : Text.trim "False" = "False" := by decide +kernel
    cases value <;> simp [render, classify, trimTrue, trimFalse]
  | int value => exact classify_intText value
  | float finite => exact classify_floatText finite
  | identifier classified => exact classified

/-- The literals that are read back from their text are those that some text stands for. -/
theorem classify_render_iff {literal : Literal} :
    classify literal.render = literal ↔ FromRun literal := by
  constructor
  · intro readBack
    rw [← readBack]
    exact fromRun_classify literal.render
  · exact FromRun.classify_render

theorem fromRun_float_iff {x : Binary64} : FromRun (.float x) ↔ x.isFinite = true := by
  constructor
  · rintro (_ | _ | finite)
    exact finite
  · exact FromRun.float

-- Not-a-number is no literal of a text, so floats may be compared as numbers here.
theorem FromRun.sameValue_self {literal : Literal} (fromRun : FromRun literal) :
    literal.sameValue literal = true := by
  cases fromRun with
  | @float x finite =>
    cases x with
    | finite negative rank => simp [sameValue, Binary64.sameNumber]
    | infinite negative => cases finite
    | nan => cases finite
  | _ => simp [sameValue]

/-- What a text stands for is written as a text that stands for the same, and for an equal value;
so is every integer, and of the floats every finite one, but no other. -/
theorem classify_stable :
    (∀ text, classify (classify text).render = classify text ∧
      (classify (classify text).render).sameValue (classify text) = true) ∧
    (∀ value : Int64, classify (Literal.int value).render = .int value) ∧
    ∀ x : Binary64, classify (Literal.float x).render = .float x ↔ x.isFinite = true := by
  refine ⟨fun text => ?_, classify_intText, fun x => classify_render_iff.trans fromRun_float_iff⟩
  have fromRun := fromRun_classify text
  have same := fromRun.classify_render
  refine ⟨same, ?_⟩
  rw [same]
  exact fromRun.sameValue_self

-- Integers beyond 64 bits are written as the floats that they stand for, and what is beyond the
-- floats as it was.
example :
    ["-0", "-.0", "+007", "-9223372036854775809", "100000000000000000000", "1E-7", "1e400"].map
        (fun text => (classify text).render) =
      ["0", "-0.0", "7", "-9.223372036854776e18", "1e20", "1e-7", "1e400"] := by
  decide +kernel

end StreamPlan.Literal
