import Mathlib.Data.List.Sort
import Mathlib.Data.String.Basic
import StreamPlan.Text.Names

/-! Sets of names have the members they were made of, each once, in ascending order; there is only
one such list. -/

set_option autoImplicit false

namespace StreamPlan.Names

theorem mem_dropRepeats {name : String} {names : List String} :
    name ∈ dropRepeats names ↔ name ∈ names := by
  fun_induction dropRepeats names with
  | case1 second rest ih => simp [ih]
  | case2 first second rest distinct ih => simp only [List.mem_cons, ih]
  | case3 => exact Iff.rfl

@[simp] theorem mem_ofList {name : String} {names : List String} :
    name ∈ ofList names ↔ name ∈ names := by
  rw [ofList, mem_dropRepeats, List.mem_mergeSort]

theorem pairwise_dropRepeats {names : List String} (sorted : names.Pairwise (· ≤ ·)) :
    (dropRepeats names).Pairwise (· < ·) := by
  fun_induction dropRepeats names with
  | case1 second rest ih => exact ih sorted.tail
  | case2 first second rest distinct ih =>
    obtain ⟨least, others⟩ := List.pairwise_cons.mp sorted
    have next : first < second := lt_of_le_of_ne (least second List.mem_cons_self) distinct
    refine List.pairwise_cons.mpr ⟨fun name member => ?_, ih others⟩
    rcases List.mem_cons.mp (mem_dropRepeats.mp member) with rfl | later
    · exact next
    · exact next.trans_le ((List.pairwise_cons.mp others).1 name later)
  | case3 names short =>
    match names, short with
    | [], _ => exact .nil
    | [name], _ => exact List.pairwise_singleton _ name
    | first :: second :: rest, short => exact absurd rfl (short first second rest)

structure Lists (property : String → Prop) (names : List String) : Prop where
  ascending : names.Pairwise (· < ·)
  mem_iff : ∀ name, name ∈ names ↔ property name

theorem Lists.unique {property : String → Prop} {first second : List String}
    (left : Lists property first) (right : Lists property second) : first = second :=
  left.ascending.eq_of_mem_iff right.ascending fun name =>
    (left.mem_iff name).trans (right.mem_iff name).symm

theorem Lists.eq_of_iff {property property' : String → Prop} {first second : List String}
    (left : Lists property first) (right : Lists property' second)
    (same : ∀ name, property' name ↔ property name) : second = first :=
  right.unique ⟨left.ascending, fun name => (left.mem_iff name).trans (same name).symm⟩

theorem Lists.eq_nil_iff {property : String → Prop} {names : List String}
    (lists : Lists property names) : names = [] ↔ ∀ name, ¬ property name := by
  rw [List.eq_nil_iff_forall_not_mem]
  exact forall_congr' fun name => not_congr (lists.mem_iff name)

theorem lists_ofList {property : String → Prop} {names : List String}
    (same : ∀ name, name ∈ names ↔ property name) : Lists property (ofList names) :=
  ⟨pairwise_dropRepeats (List.pairwise_mergeSort' (· ≤ ·) names),
    fun name => mem_ofList.trans (same name)⟩

@[simp] theorem ofList_eq_nil_iff {names : List String} : ofList names = [] ↔ names = [] := by
  simp only [List.eq_nil_iff_forall_not_mem, mem_ofList]

theorem difference_eq_nil_iff {first second : List String} :
    difference first second = [] ↔ ∀ name, name ∈ first ↔ name ∈ second := by
  rw [difference, ofList_eq_nil_iff, List.append_eq_nil_iff, List.filter_eq_nil_iff,
    List.filter_eq_nil_iff]
  simp only [Bool.not_eq_true', Bool.not_eq_false, List.contains_iff_mem]
  constructor
  · rintro ⟨left, right⟩ name
    exact ⟨left name, right name⟩
  · intro same
    exact ⟨fun name => (same name).mp, fun name => (same name).mpr⟩

end StreamPlan.Names
