import StreamPlan.Proofs.Binary64.Rounding

set_option autoImplicit false

namespace StreamPlan.Binary64

open Decimal (Tie)

theorem ofDecimal_of_readsBack (negative : Bool) {digits : Nat} {exponent : Int} {rank : Rank}
    (reads : ofDecimal false digits exponent = .finite false rank) :
    ofDecimal negative digits exponent = .finite negative rank := by
  cases negative with
  | false => exact reads
  | true =>
    rw [← ofDecimal_false_negate, reads]
    rfl

namespace Rank

theorem candidate?_readsBack {tie : Tie} {rank : Rank} {place digits : Nat}
    (found : rank.candidate? tie place = some digits) :
    ofDecimal false digits (place - 1074) = .finite false rank := by
  unfold candidate? at found
  have reads := List.find?_some found
  unfold readsBack at reads
  exact eq_of_beq reads

/-- Every grid on which the search stops has a decimal that reads back; the finest grid is that of
the value itself. -/
theorem search_readsBack (tie : Tie) {rank : Rank} (nonzero : rank.val ≠ 0) (place : Nat) :
    ofDecimal false (rank.search tie place).digits (rank.search tie place).exponent =
      .finite false rank := by
  induction place with
  | zero =>
    rw [search]
    exact ofDecimal_exact false nonzero
  | succ place ih =>
    rw [search]
    split
    · rename_i digits found
      exact candidate?_readsBack found
    · exact ih

theorem shortest_readsBack (tie : Tie) (negative : Bool) (rank : Rank) :
    ofDecimal negative (rank.shortest tie).digits (rank.shortest tie).exponent =
      .finite negative rank := by
  unfold shortest
  by_cases zero : rank.val = 0
  · rw [if_pos zero, ofDecimal_zero]
    have same : rank = ⟨0, by decide⟩ := Fin.ext zero
    rw [same]
    rfl
  · rw [if_neg zero]
    exact ofDecimal_of_readsBack negative (search_readsBack tie zero _)

end Rank
end StreamPlan.Binary64
