import Mathlib.Data.String.Basic
import StreamPlan.Proofs.Schema.Distinct

/-! The entries of a data-structure document in the order of their indices. Where all indices differ
every order of visiting the entries leads to the same schema. Where some are shared no order leads
to one, and the order decides which two entries of one index are reported. -/

set_option autoImplicit false

namespace StreamPlan.Schema

open Json (Value)

section Members

variable {α : Type} {members : List (String × α)}

def IsLast (members : List (String × α)) (name : String) (value : α) : Prop :=
  ∃ before after, members = before ++ (name, value) :: after ∧ ∀ later ∈ after, later.1 ≠ name

theorem isLast_cons_iff {member : String × α} {rest : List (String × α)} {name : String}
    {value : α} : IsLast (member :: rest) name value ↔
      IsLast rest name value ∨ member = (name, value) ∧ ∀ later ∈ rest, later.1 ≠ name := by
  constructor
  · rintro ⟨before, after, same, last⟩
    cases before with
    | nil =>
      obtain ⟨rfl, rfl⟩ := List.cons.inj same
      exact .inr ⟨rfl, last⟩
    | cons first before =>
      obtain ⟨rfl, rfl⟩ := List.cons.inj same
      exact .inl ⟨before, after, rfl, last⟩
  · rintro (⟨before, after, rfl, last⟩ | ⟨rfl, last⟩)
    · exact ⟨member :: before, after, rfl, last⟩
    · exact ⟨[], rest, rfl, last⟩

theorem lastOfEach_sublist (members : List (String × α)) :
    (lastOfEach members).Sublist members := by
  induction members with
  | nil => exact .slnil
  | cons member rest ih =>
    rw [lastOfEach]
    split
    · exact ih.cons member
    · exact ih.cons_cons member

theorem nodup_lastOfEach (members : List (String × α)) :
    ((lastOfEach members).map (·.1)).Nodup := by
  induction members with
  | nil => exact List.nodup_nil
  | cons member rest ih =>
    rw [lastOfEach]
    split
    · exact ih
    · rename_i only
      rw [List.map_cons, List.nodup_cons]
      refine ⟨fun again => only ?_, ih⟩
      obtain ⟨other, kept, same⟩ := List.mem_map.mp again
      exact List.any_eq_true.mpr ⟨other, (lastOfEach_sublist rest).mem kept, beq_iff_eq.mpr same⟩

theorem mem_lastOfEach_iff {name : String} {value : α} :
    (name, value) ∈ lastOfEach members ↔ IsLast members name value := by
  induction members with
  | nil => simp [lastOfEach, IsLast]
  | cons member rest ih =>
    rw [lastOfEach, isLast_cons_iff, ← ih]
    split
    · rename_i again
      obtain ⟨other, inside, same⟩ := List.any_eq_true.mp again
      constructor
      · exact .inl
      · rintro (kept | ⟨rfl, last⟩)
        · exact kept
        · exact absurd (beq_iff_eq.mp same) (last other inside)
    · rename_i only
      have last : ∀ later ∈ rest, later.1 ≠ member.1 := by
        intro later inside same
        exact only (List.any_eq_true.mpr ⟨later, inside, beq_iff_eq.mpr same⟩)
      rw [List.mem_cons, or_comm]
      refine or_congr_right ⟨?_, fun same => same.1.symm⟩
      rintro rfl
      exact ⟨rfl, last⟩

end Members

/-- The entries of a document's members in some order: for each name the last one. -/
structure Visits (members order : List (String × Entry)) : Prop where
  distinct : (order.map (·.1)).Nodup
  last : ∀ name entry, (name, entry) ∈ order ↔ IsLast members name entry

theorem visits_lastOfEach (members : List (String × Entry)) :
    Visits members (lastOfEach members) :=
  ⟨nodup_lastOfEach members, fun _ _ => mem_lastOfEach_iff⟩

section Orders

variable {members order order' : List (String × Entry)}

theorem Visits.perm (visits : Visits members order) (visits' : Visits members order') :
    order.Perm order' :=
  (List.perm_ext_iff_of_nodup visits.distinct.of_map visits'.distinct.of_map).mpr
    fun (name, entry) => (visits.last name entry).trans (visits'.last name entry).symm

theorem Visits.of_perm (visits : Visits members order) (same : order'.Perm order) :
    Visits members order' :=
  ⟨(same.map _).nodup_iff.mpr visits.distinct,
    fun name entry => same.mem_iff.trans (visits.last name entry)⟩

end Orders

def HasMembers (text : String) (members : List (String × Entry)) : Prop :=
  ∃ raw, Value.read? text = some (.object raw) ∧
    List.Forall₂ (fun given member => given.1 = some member.1 ∧
      entryOfJson? given.2 = some member.2) raw members

theorem mapM_eq_some {α β : Type} {f : α → Option β} {xs : List α} {ys : List β}
    (each : List.Forall₂ (fun x y => f x = some y) xs ys) : xs.mapM f = some ys := by
  induction each with
  | nil => rfl
  | cons first _ ih =>
    rw [List.mapM_cons, first, ih]
    rfl

theorem ofDocument_of_hasMembers {text : String} {members : List (String × Entry)}
    (has : HasMembers text members) : ofDocument text = ofEntries (lastOfEach members) := by
  obtain ⟨raw, read, wellFormed⟩ := has
  have entries : entries? (.object raw) = some (lastOfEach members) := by
    rw [entries?, mapM_eq_some (wellFormed.imp fun given member both => ?_)]
    · rfl
    · simp [both]
  rw [ofDocument, read, Option.bind_some, entries]

/-! Placing. -/

def placedEntry (entry : String × Entry) : Placed := (entry.2.index, ⟨entry.1, entry.2.type⟩)

/-- The fields of the entries visited, each once, in strictly ascending places. -/
structure IsPlacement (visited : List (String × Entry)) (placed : List Placed) : Prop where
  perm : placed.Perm (visited.map placedEntry)
  ascending : placed.Pairwise (·.1 < ·.1)

theorem insertByIndex_perm (new : Placed) (placed : List Placed) :
    (insertByIndex new placed).Perm (new :: placed) := by
  induction placed with
  | nil => exact .refl _
  | cons head rest ih =>
    rw [insertByIndex]
    split
    · exact .refl _
    · exact (ih.cons head).trans (.swap new head rest)

theorem pairwise_insertByIndex {new : Placed} {placed : List Placed}
    (ascending : placed.Pairwise (·.1 < ·.1)) (free : ∀ other ∈ placed, other.1 ≠ new.1) :
    (insertByIndex new placed).Pairwise (·.1 < ·.1) := by
  induction placed with
  | nil => exact List.pairwise_singleton _ new
  | cons head rest ih =>
    obtain ⟨least, others⟩ := List.pairwise_cons.mp ascending
    obtain ⟨freeHead, freeRest⟩ := List.forall_mem_cons.mp free
    rw [insertByIndex]
    split
    · rename_i before
      refine List.pairwise_cons.mpr ⟨List.forall_mem_cons.mpr ⟨before, ?_⟩, ascending⟩
      exact fun other later => before.trans (least other later)
    · refine List.pairwise_cons.mpr ⟨fun other member => ?_, ih others freeRest⟩
      rcases List.mem_cons.mp ((insertByIndex_perm new rest).mem_iff.mp member) with rfl | later
      · omega
      · exact least other later

def collision (index : Nat) (name other : String) : SchemaError :=
  if other < name then .duplicateIndex index other name else .duplicateIndex index name other

section Place

variable {placed longer : List Placed} {entry : String × Entry}

theorem place_eq_ok_iff : place placed entry = .ok longer ↔
    (∀ other ∈ placed, other.1 ≠ entry.2.index) ∧
      longer = insertByIndex (placedEntry entry) placed := by
  rw [place]
  cases found : placed.find? (·.1 == entry.2.index) with
  | none =>
    have free : ∀ other ∈ placed, other.1 ≠ entry.2.index := by simpa using found
    rw [Except.ok.injEq, eq_comm]
    exact (and_iff_right free).symm
  | some other =>
    have member := List.mem_of_find?_eq_some found
    have same : other.1 = entry.2.index := by simpa using List.find?_some found
    simp only
    split <;> simpa using fun free : _ => absurd same (free other.1 other.2 member)

/-- An entry is refused for one that stands in its place. -/
theorem place_eq_error {reason : SchemaError} (refused : place placed entry = .error reason) :
    ∃ other ∈ placed, other.1 = entry.2.index ∧
      reason = collision entry.2.index entry.1 other.2.name := by
  rw [place] at refused
  split at refused
  · rename_i index other found
    have same : index = entry.2.index := by simpa using List.find?_some found
    refine ⟨_, List.mem_of_find?_eq_some found, same, ?_⟩
    rw [collision]
    split at refused <;> simp_all
  · cases refused

end Place

namespace IsPlacement

variable {visited : List (String × Entry)} {placed : List Placed}

theorem nil : IsPlacement [] [] := ⟨.nil, .nil⟩

theorem unique {placed' : List Placed} (placement : IsPlacement visited placed)
    (placement' : IsPlacement visited placed') : placed = placed' :=
  (placement.perm.trans placement'.perm.symm).eq_of_pairwise
    (fun _ _ _ _ before behind => absurd behind (lt_asymm before)) placement.ascending
    placement'.ascending

theorem mem_iff (placement : IsPlacement visited placed) {other : Placed} :
    other ∈ placed ↔ ∃ entry ∈ visited, placedEntry entry = other := by
  rw [placement.perm.mem_iff, List.mem_map]

theorem nodup_indices (placement : IsPlacement visited placed) :
    (visited.map (·.2.index)).Nodup := by
  have ascending : (placed.map (·.1)).Pairwise (· < ·) := List.pairwise_map.mpr placement.ascending
  have indices : (placed.map (·.1)).Perm (visited.map (·.2.index)) := by
    simpa [placedEntry, Function.comp_def] using placement.perm.map (·.1)
  exact indices.nodup_iff.mp (ascending.imp fun before => before.ne)

theorem perm_names (placement : IsPlacement visited placed) :
    (Schema.names ⟨placed.map (·.2)⟩).Perm (visited.map (·.1)) := by
  simpa [names, placedEntry, Function.comp_def] using placement.perm.map (·.2.name)

theorem insert (placement : IsPlacement visited placed) {entry : String × Entry}
    (free : ∀ other ∈ placed, other.1 ≠ entry.2.index) :
    IsPlacement (visited ++ [entry]) (insertByIndex (placedEntry entry) placed) := by
  refine ⟨?_, pairwise_insertByIndex placement.ascending free⟩
  have visit : (placedEntry entry :: placed).Perm ((visited ++ [entry]).map placedEntry) := by
    rw [List.map_append, List.map_singleton]
    exact (placement.perm.cons _).trans (List.perm_append_singleton _ _).symm
  exact (insertByIndex_perm _ _).trans visit

theorem free_of_nodup (placement : IsPlacement visited placed) {entry : String × Entry}
    {after : List (String × Entry)}
    (distinct : ((visited ++ entry :: after).map (·.2.index)).Nodup) :
    ∀ other ∈ placed, other.1 ≠ entry.2.index := by
  intro other member
  obtain ⟨earlier, inside, rfl⟩ := placement.mem_iff.mp member
  rw [List.map_append, List.map_cons] at distinct
  intro same
  exact (List.nodup_append.mp distinct).2.2 _ (List.mem_map_of_mem inside) _ List.mem_cons_self same

end IsPlacement

/-- Visiting entries succeeds exactly if all of them have a placement, with that placement. -/
theorem foldlM_place_eq_ok_iff {entries visited : List (String × Entry)}
    {placed longer : List Placed} (placement : IsPlacement visited placed) :
    entries.foldlM place placed = .ok longer ↔ IsPlacement (visited ++ entries) longer := by
  induction entries generalizing visited placed with
  | nil =>
    rw [List.foldlM_nil, List.append_nil]
    constructor
    · rintro ⟨⟩
      exact placement
    · intro all
      rw [placement.unique all]
      rfl
  | cons entry rest ih =>
    simp only [List.foldlM_cons, bind_eq_ok_iff, place_eq_ok_iff]
    rw [List.append_cons]
    constructor
    · rintro ⟨next, ⟨free, rfl⟩, others⟩
      exact (ih (placement.insert free)).mp others
    · intro all
      have distinct := all.nodup_indices
      rw [← List.append_cons] at distinct
      have free := placement.free_of_nodup distinct
      exact ⟨_, ⟨free, rfl⟩, (ih (placement.insert free)).mpr all⟩

theorem exists_isPlacement_iff {entries : List (String × Entry)} :
    (∃ placed, IsPlacement entries placed) ↔ (entries.map (·.2.index)).Nodup := by
  constructor
  · rintro ⟨placed, placement⟩
    exact placement.nodup_indices
  · intro distinct
    induction entries using List.reverseRecOn with
    | nil => exact ⟨[], .nil⟩
    | append_singleton entries entry ih =>
      have front := distinct
      rw [List.map_append] at front
      obtain ⟨placed, placement⟩ := ih front.of_append_left
      exact ⟨_, placement.insert (placement.free_of_nodup distinct)⟩

/-! Schemas of entries. -/

section Entries

variable {entries : List (String × Entry)} (distinct : (entries.map (·.1)).Nodup)

include distinct

theorem ofFields_of_isPlacement {placed : List Placed} (placement : IsPlacement entries placed) :
    ofFields (placed.map (·.2)) = .ok ⟨placed.map (·.2)⟩ :=
  ofFields_eq_ok_iff.mpr ⟨rfl, placement.perm_names.nodup_iff.mpr distinct⟩

theorem ofEntries_eq_ok_iff {schema : Schema} : ofEntries entries = .ok schema ↔
    ∃ placed, IsPlacement entries placed ∧ schema = ⟨placed.map (·.2)⟩ := by
  simp only [ofEntries, bind_eq_ok_iff, foldlM_place_eq_ok_iff .nil, List.nil_append]
  refine exists_congr fun placed => and_congr_right fun placement => ?_
  rw [ofFields_of_isPlacement distinct placement, Except.ok.injEq, eq_comm]

theorem exists_ofEntries_iff : (∃ schema, ofEntries entries = .ok schema) ↔
    (entries.map (·.2.index)).Nodup := by
  simp only [ofEntries_eq_ok_iff distinct, ← exists_isPlacement_iff]
  constructor
  · rintro ⟨schema, placed, placement, -⟩
    exact ⟨placed, placement⟩
  · rintro ⟨placed, placement⟩
    exact ⟨_, placed, placement, rfl⟩

/-- The report is of the first entry that has the index of an earlier one, together with that. -/
theorem ofEntries_eq_error_iff {reason : SchemaError} : ofEntries entries = .error reason ↔
    ∃ before entry after other, entries = before ++ entry :: after ∧
      (before.map (·.2.index)).Nodup ∧ other ∈ before ∧ other.2.index = entry.2.index ∧
      reason = collision entry.2.index entry.1 other.1 := by
  constructor
  · intro failed
    rcases bind_eq_error_iff.mp failed with collided | ⟨placed, ok, impossible⟩
    · obtain ⟨before, entry, after, placed, same, ok, refused⟩ := foldlM_eq_error collided
      have placement := (foldlM_place_eq_ok_iff .nil).mp ok
      obtain ⟨_, member, index, reported⟩ := place_eq_error refused
      obtain ⟨other, inside, rfl⟩ := placement.mem_iff.mp member
      exact ⟨before, entry, after, other, same, placement.nodup_indices, inside, index, reported⟩
    · have placement := (foldlM_place_eq_ok_iff .nil).mp ok
      rw [ofFields_of_isPlacement distinct placement] at impossible
      cases impossible
  · rintro ⟨before, entry, after, other, rfl, indices, inside, index, rfl⟩
    obtain ⟨placed, placement⟩ := exists_isPlacement_iff.mpr indices
    have ok : before.foldlM place [] = .ok placed := (foldlM_place_eq_ok_iff .nil).mpr placement
    rw [ofEntries, List.foldlM_append, ok]
    change ((place placed entry >>= _) >>= _) = _
    cases refused : place placed entry with
    | ok longer =>
      have taken := placement.mem_iff.mpr ⟨other, inside, rfl⟩
      exact absurd index ((place_eq_ok_iff.mp refused).1 _ taken)
    | error reason =>
      obtain ⟨_, member, index', rfl⟩ := place_eq_error refused
      obtain ⟨other', inside', rfl⟩ := placement.mem_iff.mp member
      -- there is no second entry with the index
      have same : other' = other :=
        List.inj_on_of_nodup_map indices inside' inside (index'.trans index.symm)
      rw [same]
      rfl

end Entries

/-- Two names in ascending order whose entries have the same index. -/
structure SharesIndex (members : List (String × Entry)) (index : Nat) (first second : String) :
    Prop where
  ascending : first < second
  ofFirst : ∃ type, IsLast members first ⟨index, type⟩
  ofSecond : ∃ type, IsLast members second ⟨index, type⟩

section Documents

variable {members order : List (String × Entry)}

theorem Visits.sharesIndex_of_error (visits : Visits members order) {reason : SchemaError}
    (failed : ofEntries order = .error reason) : ∃ index first second,
      SharesIndex members index first second ∧ reason = .duplicateIndex index first second := by
  obtain ⟨before, entry, after, other, rfl, -, inside, index, rfl⟩ :=
    (ofEntries_eq_error_iff visits.distinct).mp failed
  have last : IsLast members entry.1 ⟨entry.2.index, entry.2.type⟩ :=
    (visits.last entry.1 entry.2).mp (by simp)
  have earlier : IsLast members other.1 ⟨entry.2.index, other.2.type⟩ := by
    rw [← index]
    exact (visits.last other.1 other.2).mp (List.mem_append_left _ inside)
  have different : entry.1 ≠ other.1 := by
    have names := visits.distinct
    rw [List.map_append, List.map_cons] at names
    exact ((List.nodup_append.mp names).2.2 _ (List.mem_map_of_mem inside) _
      List.mem_cons_self).symm
  rw [collision]
  rcases lt_or_gt_of_ne different with before | behind
  · exact ⟨_, _, _, ⟨before, ⟨_, last⟩, ⟨_, earlier⟩⟩, if_neg (lt_asymm before)⟩
  · exact ⟨_, _, _, ⟨behind, ⟨_, earlier⟩, ⟨_, last⟩⟩, if_pos behind⟩

/-- Two entries of one index are reported where they are visited first. -/
theorem SharesIndex.exists_report {index : Nat} {first second : String}
    (shares : SharesIndex members index first second) :
    ∃ order, Visits members order ∧
      ofEntries order = .error (.duplicateIndex index first second) := by
  obtain ⟨ascending, ⟨type, last⟩, ⟨type', last'⟩⟩ := shares
  have visits := visits_lastOfEach members
  have member := (visits.last _ _).mpr last
  have member' := (visits.last _ _).mpr last'
  obtain ⟨rest, front⟩ : ∃ rest, (lastOfEach members).Perm (_ :: rest) :=
    ⟨_, List.perm_cons_erase member⟩
  have behind : (second, (⟨index, type'⟩ : Entry)) ∈ rest := by
    rcases List.mem_cons.mp (front.mem_iff.mp member') with same | later
    · exact absurd (congrArg Prod.fst same) ascending.ne'
    · exact later
  have visits' := visits.of_perm (front.trans ((List.perm_cons_erase behind).cons _)).symm
  refine ⟨_, visits', (ofEntries_eq_error_iff visits'.distinct).mpr ?_⟩
  exact ⟨[_], _, _, _, rfl, List.nodup_singleton _, List.mem_singleton_self _, rfl,
    (if_pos ascending).symm⟩

theorem exists_error_iff {reason : SchemaError} :
    (∃ order, Visits members order ∧ ofEntries order = .error reason) ↔ ∃ index first second,
      SharesIndex members index first second ∧ reason = .duplicateIndex index first second := by
  constructor
  · rintro ⟨order, visits, failed⟩
    exact visits.sharesIndex_of_error failed
  · rintro ⟨index, first, second, shares, rfl⟩
    exact shares.exists_report

/-- The entries of a document, visited in any order, make a schema exactly if their indices differ,
and then the schema has their fields in ascending order of the indices. Otherwise two of them with
the same index are reported, and never two fields of one name. -/
theorem ofEntries_ascending (visits : Visits members order) :
    (∀ text, HasMembers text members →
      ∃ order', Visits members order' ∧ ofDocument text = ofEntries order') ∧
    ((∃ schema, ofEntries order = .ok schema) ↔ (order.map (·.2.index)).Nodup) ∧
    (∀ schema, ofEntries order = .ok schema ↔
      ∃ placed, IsPlacement order placed ∧ schema = ⟨placed.map (·.2)⟩) ∧
    (∀ name, ofEntries order ≠ .error (.duplicateField name)) ∧
    ∀ index first second, ofEntries order = .error (.duplicateIndex index first second) →
      SharesIndex members index first second := by
  refine ⟨?_, exists_ofEntries_iff visits.distinct,
    fun schema => ofEntries_eq_ok_iff visits.distinct, ?_, ?_⟩
  · intro text has
    exact ⟨_, visits_lastOfEach members, ofDocument_of_hasMembers has⟩
  · intro name failed
    obtain ⟨_, _, _, -, impossible⟩ := visits.sharesIndex_of_error failed
    cases impossible
  · intro index first second failed
    obtain ⟨_, _, _, shares, same⟩ := visits.sharesIndex_of_error failed
    cases same
    exact shares

/-- Of two members with one name the last is an entry, and the entries are put in order. -/
theorem ofEntries_ascending_replaced :
    let members : List (String × Entry) :=
      [("bytes", ⟨2, .long⟩), ("host", ⟨2, .string⟩), ("bytes", ⟨7, .integer⟩)]
    let order : List (String × Entry) := [("bytes", ⟨7, .integer⟩), ("host", ⟨2, .string⟩)]
    Visits members order ∧ ofEntries order = .ok ⟨[⟨"host", .string⟩, ⟨"bytes", .integer⟩]⟩ := by
  intro members order
  have visits : Visits members order :=
    (visits_lastOfEach members).of_perm (.swap _ _ [])
  have placement : IsPlacement order
      [(2, ⟨"host", .string⟩), (7, ⟨"bytes", .integer⟩)] :=
    ⟨.swap _ _ [], by decide⟩
  obtain ⟨-, -, ok_iff, -⟩ := ofEntries_ascending visits
  exact ⟨visits, (ok_iff _).mpr ⟨_, placement, rfl⟩⟩

/-- All pairs of names with one index can be reported, and the order of the visits decides which
pair is. It decides nothing exactly if there is one such pair at most. -/
theorem report_unique_iff (members : List (String × Entry)) :
    (∀ reason, (∃ order, Visits members order ∧ ofEntries order = .error reason) ↔
      ∃ index first second, SharesIndex members index first second ∧
        reason = .duplicateIndex index first second) ∧
    ((∀ order order' reason reason', Visits members order → Visits members order' →
        ofEntries order = .error reason → ofEntries order' = .error reason' → reason = reason') ↔
      ∀ index first second index' first' second', SharesIndex members index first second →
        SharesIndex members index' first' second' →
        index = index' ∧ first = first' ∧ second = second') := by
  refine ⟨fun reason => exists_error_iff, ?_, ?_⟩
  · intro same index first second index' first' second' shares shares'
    obtain ⟨order, visits, failed⟩ := shares.exists_report
    obtain ⟨order', visits', failed'⟩ := shares'.exists_report
    simpa using same _ _ _ _ visits visits' failed failed'
  · intro single order order' reason reason' visits visits' failed failed'
    obtain ⟨_, _, _, shares, rfl⟩ := visits.sharesIndex_of_error failed
    obtain ⟨_, _, _, shares', rfl⟩ := visits'.sharesIndex_of_error failed'
    obtain ⟨rfl, rfl, rfl⟩ := single _ _ _ _ _ _ shares shares'
    rfl

/-- With two shared indices, and with three names on one, the report is not that of the reversed
order. -/
theorem report_not_unique :
    let shared (index : Nat) : Entry := ⟨index, .long⟩
    let two := [("a", shared 0), ("b", shared 0), ("c", shared 1), ("d", shared 1)]
    let three := [("a", shared 0), ("b", shared 0), ("c", shared 0)]
    (Visits two two ∧ Visits two two.reverse ∧
      ofEntries two = .error (.duplicateIndex 0 "a" "b") ∧
      ofEntries two.reverse = .error (.duplicateIndex 1 "c" "d")) ∧
    Visits three three ∧ Visits three three.reverse ∧
      ofEntries three = .error (.duplicateIndex 0 "a" "b") ∧
      ofEntries three.reverse = .error (.duplicateIndex 0 "b" "c") := by
  intro shared two three
  have visitsTwo : Visits two two := visits_lastOfEach two
  have visitsThree : Visits three three := visits_lastOfEach three
  refine ⟨⟨visitsTwo, visitsTwo.of_perm two.reverse_perm, ?_, ?_⟩,
    visitsThree, visitsThree.of_perm three.reverse_perm, ?_, ?_⟩ <;> decide +kernel

end Documents

end StreamPlan.Schema
