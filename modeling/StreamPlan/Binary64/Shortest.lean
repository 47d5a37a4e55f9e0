import StreamPlan.Binary64.Rounding
import StreamPlan.Decimal.Layout

set_option autoImplicit false

namespace StreamPlan.Binary64

open Decimal (Layout Tie)

def Rank.readsBack (rank : Rank) (digits place : Nat) : Bool :=
  ofDecimal false digits (place - 1074) == .finite false rank

/-- The value as a multiple of 10^-1074, which it always is. -/
@[irreducible] def Rank.exact (rank : Rank) : Nat := Nat.pow 5 1074 * rank.units

/-- The nearer of the value's two neighbours among the multiples of 10^(place-1074) that reads
back, if one does. -/
def Rank.candidate? (tie : Tie) (rank : Rank) (place : Nat) : Option Nat :=
  let grid := Nat.pow 10 place
  let below := rank.exact / grid
  let twice := 2 * (rank.exact % grid)
  let upper := decide (grid < twice) || (twice == grid && (tie == .upward || below % 2 == 1))
  let ordered := if upper then [below + 1, below] else [below, below + 1]
  ordered.find? (rank.readsBack · place)

-- The search goes from coarse to fine grids; the finest contains the value itself.
def Rank.search (tie : Tie) (rank : Rank) : Nat → Decimal
  | 0 => ⟨rank.exact, -1074⟩
  | place + 1 =>
    match rank.candidate? tie (place + 1) with
    | some digits => ⟨digits, (place + 1 : Nat) - 1074⟩
    | none => rank.search tie place

/-- The decimal with the fewest digits that reads back to this value, of several the nearest. -/
def Rank.shortest (tie : Tie) (rank : Rank) : Decimal :=
  if rank.val = 0 then ⟨0, 0⟩
  else rank.search tie (Nat.toDigits 10 rank.exact).length

def text? (layout : Layout) : Binary64 → Option String
  | .finite negative rank =>
    let sign := if negative then ['-'] else []
    some (String.ofList (sign ++ layout.write (rank.shortest layout.tie)))
  | _ => none

end StreamPlan.Binary64
