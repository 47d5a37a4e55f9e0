import StreamPlan.Json.Decode
import StreamPlan.Proofs.Json.Reading

set_option autoImplicit false

namespace StreamPlan.Json.Value

def ReadsBack (x : Binary64) : Prop := (Value.binary64 x).binary64? = some x

theorem isWritten_integer (n : Int) : (integer n).IsWritten :=
  .number (Token.isNumberText_intText n)

theorem isWritten_binary64 (x : Binary64) : (binary64 x).IsWritten := by
  unfold binary64
  split
  · rename_i text written
    exact .number (Binary64.isNumberText_text? written)
  · exact .null

theorem integer?_integer (n : Int) : (integer n).integer? = some n := by
  have notMinusZero : (Decimal.intText n).toList ≠ ['-', '0'] := by
    intro same
    have read := Numeral.integer?_intText n
    rw [same] at read
    have zero : Numeral.integer? ['-', '0'] = some 0 := by decide
    rw [zero] at read
    obtain rfl := Option.some.inj read
    simp [Decimal.intText, Decimal.natText] at same
  rw [integer, integer?, Number.integer?, if_neg notMinusZero, Numeral.integer?_intText]

theorem isWritten_nat (n : Nat) : (nat n).IsWritten := isWritten_integer n

theorem natBelow?_nat {bound n : Nat} (below : n < bound) : (nat n).natBelow? bound = some n := by
  rw [natBelow?, show nat n = integer n from rfl, integer?_integer, Option.bind_some,
    if_pos (by omega), Int.toNat_natCast]

theorem lt_of_natBelow? {bound n : Nat} {value : Value} (read : value.natBelow? bound = some n) :
    n < bound := by
  obtain ⟨whole, -, inside⟩ := Option.bind_eq_some_iff.mp read
  split at inside
  · cases inside
    omega
  · cases inside

theorem int64?_integer (value : Int64) : (integer value.toInt).int64? = some value := by
  rw [int64?, integer?_integer, Option.bind_some, Numeral.int64?_toInt]

@[simp] theorem nesting_tagged (tag : String) (content : Value) :
    (tagged tag content).nesting = content.nesting + 1 := by
  simp [tagged, record, nesting, nestingMembers]

@[simp] theorem nesting_text (s : String) : (text s).nesting = 0 := rfl

@[simp] theorem nesting_binary64 (x : Binary64) : (binary64 x).nesting = 0 := by
  unfold binary64
  split <;> rfl

theorem nestingItems_le_iff {items : List Value} {bound : Nat} :
    nestingItems items ≤ bound ↔ ∀ item ∈ items, item.nesting ≤ bound := by
  induction items with
  | nil => simp [nestingItems]
  | cons item rest ih => rw [nestingItems, Nat.max_le, ih, List.forall_mem_cons]

@[simp] theorem alternative?_tagged (tag : String) (content : Value) :
    (tagged tag content).alternative? = some (tag, some content) := rfl

theorem isWritten_record {members : List (String × Value)}
    (written : ∀ member ∈ members, member.2.IsWritten) : (record members).IsWritten := by
  refine .object ?_ ?_
  · intro member isMember
    obtain ⟨⟨name, value⟩, -, rfl⟩ := List.mem_map.mp isMember
    rfl
  · intro member isMember
    obtain ⟨⟨name, value⟩, inside, rfl⟩ := List.mem_map.mp isMember
    exact written _ inside

theorem isWritten_tagged (tag : String) {content : Value} (written : content.IsWritten) :
    (tagged tag content).IsWritten :=
  isWritten_record (by simpa using written)

section Lists

variable {α : Type} {write : α → Value} {read? : Value → Option α} {xs : List α}

-- What is read back item by item where it fits is read back as a list where all of it fits.
theorem mapM_map_eq_ite {fits : α → Prop} [DecidablePred fits]
    (reads : ∀ x ∈ xs, read? (write x) = if fits x then some x else none) :
    (xs.map write).mapM read? = if ∀ x ∈ xs, fits x then some xs else none := by
  induction xs with
  | nil => simp
  | cons first rest ih =>
    obtain ⟨readsFirst, readsRest⟩ := List.forall_mem_cons.mp reads
    rw [List.map_cons, List.mapM_cons, readsFirst, ih readsRest]
    simp only [List.forall_mem_cons]
    by_cases fit : fits first
    · by_cases others : ∀ x ∈ rest, fits x
      · rw [if_pos fit, if_pos others, if_pos ⟨fit, others⟩]
        rfl
      · rw [if_pos fit, if_neg others, if_neg (mt And.right others)]
        rfl
    · rw [if_neg fit, if_neg (mt And.left fit)]
      rfl

theorem mapM_map_eq_some (reads : ∀ x ∈ xs, read? (write x) = some x) :
    (xs.map write).mapM read? = some xs := by
  have all := @mapM_map_eq_ite α write read? xs (fun _ => True) _ (by simpa using reads)
  simpa using all

theorem isWritten_array_map (written : ∀ x ∈ xs, (write x).IsWritten) :
    (array (xs.map write)).IsWritten :=
  .array (List.forall_mem_map.mpr written)

theorem list?_array_map (reads : ∀ x ∈ xs, read? (write x) = some x) :
    (array (xs.map write)).list? read? = some xs := mapM_map_eq_some reads

end Lists

/-- The value's text, on one line or indented, is read as this. -/
def TextReads {α : Type} (read? : Value → Option α) (value : Value) (x : α) : Prop :=
  (Value.read? value.compact).bind read? = some x ∧
    (Value.read? (value.pretty 0)).bind read? = some x

theorem IsWritten.textReads {α : Type} {read? : Value → Option α} {value : Value} {x : α}
    (written : value.IsWritten) (reads : read? value = some x) : TextReads read? value x := by
  rw [TextReads, read?_compact written, read?_pretty written]
  exact ⟨reads, reads⟩

end StreamPlan.Json.Value
