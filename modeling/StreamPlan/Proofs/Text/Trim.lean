import StreamPlan.Proofs.Text.Split
import StreamPlan.Text.Trim
import Mathlib.Data.List.DropRight

set_option autoImplicit false

namespace StreamPlan.Text

def IsTrimmed (cs : List Char) : Prop :=
  (∀ c ∈ cs.head?, isBlank c = false) ∧ ∀ c ∈ cs.getLast?, isBlank c = false

theorem trimStart_eq_self {cs : List Char} (visible : ∀ c ∈ cs.head?, isBlank c = false) :
    trimStart cs = cs := by
  cases cs with
  | nil => rfl
  | cons c rest => simp [trimStart, visible c rfl]

theorem trimEnd_eq_self {cs : List Char} (visible : ∀ c ∈ cs.getLast?, isBlank c = false) :
    trimEnd cs = cs := by
  have reversed := @trimStart_eq_self cs.reverse (by simpa using visible)
  unfold trimStart at reversed
  unfold trimEnd
  rw [reversed, List.reverse_reverse]

theorem head?_trimStart {cs : List Char} : ∀ c ∈ (trimStart cs).head?, isBlank c = false :=
  head?_dropWhile isBlank cs

theorem getLast?_trimEnd {cs : List Char} : ∀ c ∈ (trimEnd cs).getLast?, isBlank c = false := by
  intro c same
  apply @head?_trimStart cs.reverse
  simpa [trimEnd, trimStart] using same

theorem trimStart_blanks_append {blanks : List Char} (blank : ∀ c ∈ blanks, isBlank c = true)
    (cs : List Char) : trimStart (blanks ++ cs) = trimStart cs :=
  List.dropWhile_append_of_pos blank

theorem trimEnd_append_blanks (cs : List Char) {blanks : List Char}
    (blank : ∀ c ∈ blanks, isBlank c = true) : trimEnd (cs ++ blanks) = trimEnd cs := by
  unfold trimEnd
  rw [List.reverse_append, List.dropWhile_append_of_pos (by simpa using blank)]

theorem exists_trimEnd_append (cs : List Char) :
    ∃ blanks : List Char, (∀ c ∈ blanks, isBlank c = true) ∧ cs = trimEnd cs ++ blanks :=
  ⟨cs.rtakeWhile isBlank, fun _ => List.mem_rtakeWhile_imp,
    List.rdropWhile_append_rtakeWhile.symm⟩

-- Nothing is cut off before the last visible character.
theorem head?_trimEnd {cs : List Char} (visible : ∀ c ∈ cs.head?, isBlank c = false) :
    ∀ c ∈ (trimEnd cs).head?, isBlank c = false := by
  intro c same
  obtain ⟨blanks, whole⟩ : trimEnd cs <+: cs := List.rdropWhile_prefix isBlank cs
  apply visible c
  rw [← whole, Option.mem_def, List.head?_append, Option.mem_def.mp same]
  rfl

theorem isTrimmed_trim (cs : List Char) : IsTrimmed (trimEnd (trimStart cs)) :=
  ⟨head?_trimEnd head?_trimStart, getLast?_trimEnd⟩

theorem IsTrimmed.trim_eq {text : String} (trimmed : IsTrimmed text.toList) : trim text = text := by
  unfold trim
  rw [trimStart_eq_self trimmed.1, trimEnd_eq_self trimmed.2, String.ofList_toList]

theorem isTrimmed_toList_trim (text : String) : IsTrimmed (trim text).toList := by
  rw [trim, String.toList_ofList]
  exact isTrimmed_trim text.toList

theorem isTrimmed_iff {text : String} : IsTrimmed text.toList ↔ trim text = text := by
  constructor
  · exact IsTrimmed.trim_eq
  · intro same
    rw [← same]
    exact isTrimmed_toList_trim text

theorem mem_of_mem_trim {text : String} {c : Char} (member : c ∈ (trim text).toList) :
    c ∈ text.toList := by
  rw [trim, String.toList_ofList] at member
  have fromEnd : trimEnd (trimStart text.toList) <+: trimStart text.toList :=
    List.rdropWhile_prefix isBlank _
  exact (List.dropWhile_suffix isBlank).subset (fromEnd.subset member)

theorem trim_blanks_append {blanks : List Char} (blank : ∀ c ∈ blanks, isBlank c = true)
    (cs : List Char) : trim (String.ofList (blanks ++ cs)) = trim (String.ofList cs) := by
  simp only [trim, String.toList_ofList, trimStart_blanks_append blank]

theorem trim_append_blanks (cs : List Char) {blanks : List Char}
    (blank : ∀ c ∈ blanks, isBlank c = true) :
    trim (String.ofList (cs ++ blanks)) = trim (String.ofList cs) := by
  simp only [trim, String.toList_ofList, trimStart, List.dropWhile_append]
  split
  · rename_i allBlank
    rw [List.isEmpty_iff.mp allBlank, List.dropWhile_eq_nil_iff.mpr blank]
  · rw [trimEnd_append_blanks _ blank]

/-- What is cut off are blanks, at both ends. -/
theorem exists_append_trim_append (text : String) :
    ∃ front back : List Char, (∀ c ∈ front, isBlank c = true) ∧ (∀ c ∈ back, isBlank c = true) ∧
      text.toList = front ++ ((trim text).toList ++ back) := by
  obtain ⟨back, blank, whole⟩ := exists_trimEnd_append (trimStart text.toList)
  refine ⟨text.toList.takeWhile isBlank, back, fun _ => List.mem_takeWhile_imp, blank, ?_⟩
  rw [trim, String.toList_ofList, ← whole]
  exact List.takeWhile_append_dropWhile.symm

theorem not_mem_of_visible {blanks : List Char} (blank : ∀ d ∈ blanks, isBlank d = true) {c : Char}
    (visible : isBlank c = false) : c ∉ blanks := by
  intro member
  rw [blank c member] at visible
  cases visible

theorem isAllBlank_eq_false_of_mem {text : String} {c : Char} (member : c ∈ text.toList)
    (visible : isBlank c = false) : isAllBlank text = false := by
  apply Bool.eq_false_iff.mpr
  intro blank
  exact not_mem_of_visible (List.all_eq_true.mp blank) visible member

theorem isAllBlank_iff_trim {text : String} :
    isAllBlank text = true ↔ (trim text).toList = [] := by
  constructor
  · intro blank
    cases start : (trim text).toList with
    | nil => rfl
    | cons c rest =>
      have visible : isBlank c = false := (isTrimmed_toList_trim text).1 c (by rw [start]; rfl)
      have member : c ∈ text.toList := mem_of_mem_trim (by rw [start]; exact List.mem_cons_self)
      rw [isAllBlank_eq_false_of_mem member visible] at blank
      cases blank
  · intro empty
    obtain ⟨front, back, blankFront, blankBack, whole⟩ := exists_append_trim_append text
    rw [empty, List.nil_append] at whole
    exact List.all_eq_true.mpr (whole ▸ List.forall_mem_append.mpr ⟨blankFront, blankBack⟩)

theorem toList_trim_ne_nil {text : String} (filled : isAllBlank text = false) :
    (trim text).toList ≠ [] := by
  intro empty
  rw [isAllBlank_iff_trim.mpr empty] at filled
  cases filled

theorem count_trim (cs : List Char) {c : Char} (visible : isBlank c = false) :
    (trim (String.ofList cs)).toList.count c = cs.count c := by
  have absent {blanks : List Char} (blank : ∀ d ∈ blanks, isBlank d = true) :
      blanks.count c = 0 := List.count_eq_zero.mpr (not_mem_of_visible blank visible)
  obtain ⟨front, back, blankFront, blankBack, whole⟩ :=
    exists_append_trim_append (String.ofList cs)
  have counted := congrArg (List.count c) whole
  rw [String.toList_ofList, List.count_append, List.count_append, absent blankFront,
    absent blankBack, Nat.zero_add, Nat.add_zero] at counted
  exact counted.symm

theorem mem_trim {text : String} {c : Char} (member : c ∈ text.toList)
    (visible : isBlank c = false) : c ∈ (trim text).toList := by
  have counted := count_trim text.toList visible
  rw [String.ofList_toList] at counted
  rw [← List.count_pos_iff, counted]
  exact List.count_pos_iff.mpr member

theorem trim_cons_blank {c : Char} (blank : isBlank c = true) (cs : List Char) :
    trim (String.ofList (c :: cs)) = trim (String.ofList cs) :=
  @trim_blanks_append [c] (by simpa using blank) cs

@[simp] theorem trim_trim (text : String) : trim (trim text) = trim text :=
  (isTrimmed_toList_trim text).trim_eq

theorem IsTrimmed.isAllBlank_eq_false {text : String} (trimmed : IsTrimmed text.toList)
    (filled : text.toList ≠ []) : isAllBlank text = false := by
  obtain ⟨c, rest, start⟩ := List.exists_cons_of_ne_nil filled
  exact isAllBlank_eq_false_of_mem (by simp [start]) (trimmed.1 c (by simp [start]))

theorem isTrimmed_of_forall {cs : List Char} (visible : ∀ c ∈ cs, isBlank c = false) :
    IsTrimmed cs :=
  ⟨fun c first => visible c (List.mem_of_head? first),
    fun c last => visible c (List.mem_of_getLast? last)⟩

theorem isTrimmed_of_ends {first last : Char} (firstVisible : isBlank first = false)
    (lastVisible : isBlank last = false) (inside : List Char) :
    IsTrimmed (first :: (inside ++ [last])) := by
  refine ⟨by simpa using firstVisible, ?_⟩
  rw [← List.cons_append, List.getLast?_concat]
  simpa using lastVisible

end StreamPlan.Text
