import Mathlib.Algebra.BigOperators.Group.List.Basic
import Mathlib.Data.List.Nodup
import Mathlib.Tactic.Abel

/-! # Tables with a primary key

A `Table key` is a list of rows on which `key` is injective; the constraint is a
field, so that no table with two rows of one key can be built.  Rows keep their
place when they are replaced and new rows go to the end.

* `find`, `put`, `erase`, with one lemma for the key touched and one for all others;
* `restrict`, the rows that satisfy a predicate, and when it commutes with a write;
* `total`, a sum over the rows, and what one write changes in it.
-/

namespace StoreSaas

structure Table {Row Key : Type} (key : Row → Key) where
  rows : List Row
  nodup : (rows.map key).Nodup

namespace Table

variable {Row Key : Type} {key : Row → Key}

@[ext] theorem ext {left right : Table key} (same : left.rows = right.rows) : left = right := by
  cases left; cases right; cases same; rfl

def empty : Table key := ⟨[], List.nodup_nil⟩

def singleton (row : Row) : Table key := ⟨[row], List.nodup_singleton _⟩

/-- The rows that satisfy `keep`, as a table. -/
def restrict (table : Table key) (keep : Row → Bool) : Table key where
  rows := table.rows.filter keep
  nodup := table.nodup.sublist (List.filter_sublist.map key)

theorem mem_restrict {table : Table key} {keep : Row → Bool} {row : Row} :
    row ∈ (table.restrict keep).rows ↔ row ∈ table.rows ∧ keep row = true :=
  List.mem_filter

theorem eq_of_key_eq {table : Table key} {left right : Row} (inLeft : left ∈ table.rows)
    (inRight : right ∈ table.rows) (same : key left = key right) : left = right :=
  List.inj_on_of_nodup_map table.nodup inLeft inRight same

variable [DecidableEq Key]

def find (table : Table key) (id : Key) : Option Row :=
  table.rows.find? (fun row => key row = id)

theorem find_eq_some_iff {table : Table key} {id : Key} {row : Row} :
    table.find id = some row ↔ row ∈ table.rows ∧ key row = id := by
  constructor
  · intro found
    exact ⟨List.mem_of_find?_eq_some found, by simpa using List.find?_some found⟩
  · rintro ⟨present, rfl⟩
    cases found : table.rows.find? (fun other => key other = key row) with
    | none =>
      have absent := List.find?_eq_none.mp found row present
      simp at absent
    | some other =>
      have sameKey : key other = key row := by simpa using List.find?_some found
      have same := eq_of_key_eq (List.mem_of_find?_eq_some found) present sameKey
      exact found.trans (congrArg some same)

theorem find_eq_none_iff {table : Table key} {id : Key} :
    table.find id = none ↔ ∀ row ∈ table.rows, key row ≠ id := by
  simp [find, List.find?_eq_none]

theorem key_of_find {table : Table key} {id : Key} {row : Row} (found : table.find id = some row) :
    key row = id :=
  (find_eq_some_iff.mp found).2

theorem mem_of_find {table : Table key} {id : Key} {row : Row} (found : table.find id = some row) :
    row ∈ table.rows :=
  (find_eq_some_iff.mp found).1

theorem find_of_mem {table : Table key} {row : Row} (present : row ∈ table.rows) :
    table.find (key row) = some row :=
  find_eq_some_iff.mpr ⟨present, rfl⟩

/-! ## Writes -/

/-- The rows with `row` in the place of the row of the same key. -/
def replaceRow (key : Row → Key) (row : Row) (rows : List Row) : List Row :=
  rows.map (fun other => if key other = key row then row else other)

theorem map_key_replaceRow (row : Row) (rows : List Row) :
    (replaceRow key row rows).map key = rows.map key := by
  simp only [replaceRow, List.map_map]
  apply List.map_congr_left
  intro other _
  by_cases same : key other = key row <;> simp [same]

/-- Insert a row, or replace the row of the same key. -/
def put (table : Table key) (row : Row) : Table key :=
  if absent : ∀ other ∈ table.rows, key other ≠ key row then
    { rows := table.rows ++ [row]
      nodup := by
        rw [List.map_append, List.nodup_append]
        refine ⟨table.nodup, by simp, ?_⟩
        intro left inLeft right inRight
        obtain ⟨other, present, rfl⟩ := List.mem_map.mp inLeft
        simp only [List.map_cons, List.map_nil, List.mem_singleton] at inRight
        exact inRight ▸ absent other present }
  else
    { rows := replaceRow key row table.rows
      nodup := by rw [map_key_replaceRow]; exact table.nodup }

def erase (table : Table key) (id : Key) : Table key :=
  table.restrict (fun row => key row ≠ id)

theorem rows_put_of_absent {table : Table key} {row : Row} (absent : table.find (key row) = none) :
    (table.put row).rows = table.rows ++ [row] := by
  simp only [put, dif_pos (find_eq_none_iff.mp absent)]

theorem rows_put_of_present {table : Table key} {row old : Row}
    (present : table.find (key row) = some old) :
    (table.put row).rows = replaceRow key row table.rows := by
  have notAbsent : ¬ ∀ other ∈ table.rows, key other ≠ key row := by
    rw [← find_eq_none_iff, present]; simp
  simp only [put, dif_neg notAbsent]

theorem mem_replaceRow {row other : Row} {rows : List Row} :
    other ∈ replaceRow key row rows ↔
      (other = row ∧ ∃ old ∈ rows, key old = key row) ∨ (other ∈ rows ∧ key other ≠ key row) := by
  simp only [replaceRow, List.mem_map]
  constructor
  · rintro ⟨old, present, rfl⟩
    by_cases same : key old = key row
    · exact .inl ⟨by simp [same], old, present, same⟩
    · exact .inr ⟨by simp [same, present], by simp [same]⟩
  · rintro (⟨rfl, old, present, same⟩ | ⟨present, differs⟩)
    · exact ⟨old, present, by simp [same]⟩
    · exact ⟨other, present, by simp [differs]⟩

theorem mem_put {table : Table key} {row other : Row} :
    other ∈ (table.put row).rows ↔ other = row ∨ (other ∈ table.rows ∧ key other ≠ key row) := by
  cases found : table.find (key row) with
  | none =>
    rw [rows_put_of_absent found, List.mem_append, List.mem_singleton, or_comm]
    have absent := find_eq_none_iff.mp found
    exact or_congr_right ⟨fun present => ⟨present, absent other present⟩, And.left⟩
  | some old =>
    rw [rows_put_of_present found, mem_replaceRow]
    obtain ⟨present, same⟩ := find_eq_some_iff.mp found
    exact or_congr_left ⟨And.left, fun equal => ⟨equal, old, present, same⟩⟩

theorem mem_erase {table : Table key} {id : Key} {row : Row} :
    row ∈ (table.erase id).rows ↔ row ∈ table.rows ∧ key row ≠ id := by
  simp [erase, mem_restrict]

@[simp] theorem find_put_same (table : Table key) (row : Row) :
    (table.put row).find (key row) = some row :=
  find_eq_some_iff.mpr ⟨mem_put.mpr (.inl rfl), rfl⟩

theorem find_put_ne (table : Table key) {row : Row} {id : Key} (differs : id ≠ key row) :
    (table.put row).find id = table.find id := by
  apply Option.ext
  intro other
  simp only [find_eq_some_iff, mem_put]
  constructor
  · rintro ⟨rfl | ⟨present, _⟩, rfl⟩
    · exact absurd rfl differs
    · exact ⟨present, rfl⟩
  · rintro ⟨present, rfl⟩
    exact ⟨.inr ⟨present, differs⟩, rfl⟩

theorem find_put (table : Table key) (row : Row) (id : Key) :
    (table.put row).find id = if id = key row then some row else table.find id := by
  by_cases same : id = key row
  · rw [if_pos same, same, find_put_same]
  · rw [if_neg same, find_put_ne table same]

@[simp] theorem find_erase_same (table : Table key) (id : Key) : (table.erase id).find id = none :=
  find_eq_none_iff.mpr fun _ present => (mem_erase.mp present).2

theorem find_erase_ne (table : Table key) {id other : Key} (differs : other ≠ id) :
    (table.erase id).find other = table.find other := by
  apply Option.ext
  intro row
  simp only [find_eq_some_iff, mem_erase]
  exact ⟨fun found => ⟨found.1.1, found.2⟩, fun found => ⟨⟨found.1, found.2 ▸ differs⟩, found.2⟩⟩

theorem find_erase (table : Table key) (id other : Key) :
    (table.erase id).find other = if other = id then none else table.find other := by
  by_cases same : other = id
  · rw [if_pos same, same, find_erase_same]
  · rw [if_neg same, find_erase_ne table same]

theorem find_restrict (table : Table key) (keep : Row → Bool) (id : Key) :
    (table.restrict keep).find id = (table.find id).filter keep := by
  apply Option.ext
  intro row
  simp only [find_eq_some_iff, mem_restrict, Option.filter_eq_some_iff]
  exact ⟨fun found => ⟨⟨found.1.1, found.2⟩, found.1.2⟩, fun found => ⟨⟨found.1.1, found.2⟩, found.1.2⟩⟩

/-- Writing a row that is there already changes nothing. -/
theorem put_of_find {table : Table key} {row : Row} (present : table.find (key row) = some row) :
    table.put row = table := by
  apply ext
  rw [rows_put_of_present present, replaceRow]
  refine (List.map_congr_left fun other inTable => ?_).trans (List.map_id _)
  split
  next same => exact eq_of_key_eq (mem_of_find present) inTable same.symm
  next => rfl

/-- New rows with new keys go to the end, in their order. -/
theorem rows_foldl_put {table : Table key} {rows : List Row} (distinct : (rows.map key).Nodup)
    (absent : ∀ row ∈ rows, table.find (key row) = none) :
    (rows.foldl put table).rows = table.rows ++ rows := by
  induction rows generalizing table with
  | nil => exact (List.append_nil _).symm
  | cons row rest ih =>
    rw [List.map_cons, List.nodup_cons] at distinct
    rw [List.foldl_cons, ih distinct.2, rows_put_of_absent (absent row List.mem_cons_self), List.append_assoc,
      List.singleton_append]
    intro other inRest
    have differs : key other ≠ key row := fun same => distinct.1 (same ▸ List.mem_map_of_mem inRest)
    rw [find_put_ne table differs]
    exact absent other (List.mem_cons_of_mem _ inRest)

/-- Replacing rows of the table by rows with the same keys. -/
theorem rows_foldl_put_map {table : Table key} {rows : List Row} {change : Row → Row}
    (keeps : ∀ row, key (change row) = key row) (present : ∀ row ∈ rows, row ∈ table.rows)
    (distinct : (rows.map key).Nodup) :
    ((rows.map change).foldl put table).rows =
      table.rows.map fun row => if key row ∈ rows.map key then change row else row := by
  induction rows generalizing table with
  | nil => simp
  | cons first rest ih =>
    obtain ⟨firstNew, restDistinct⟩ := List.nodup_cons.mp distinct
    obtain ⟨firstPresent, restPresent⟩ := List.forall_mem_cons.mp present
    have found : table.find (key (change first)) = some first := by
      rw [keeps]
      exact find_of_mem firstPresent
    have rowsAfter := rows_put_of_present found
    have stillPresent : ∀ row ∈ rest, row ∈ (table.put (change first)).rows := by
      intro row inRest
      rw [rowsAfter, mem_replaceRow]
      refine .inr ⟨restPresent row inRest, fun same => firstNew ?_⟩
      exact List.mem_map.mpr ⟨row, inRest, same.trans (keeps first)⟩
    rw [List.map_cons, List.foldl_cons, ih stillPresent restDistinct, rowsAfter, replaceRow, List.map_map]
    refine List.map_congr_left fun row inTable => ?_
    simp only [Function.comp_apply, List.map_cons, List.mem_cons, keeps]
    by_cases isFirst : key row = key first
    · have same : row = first := eq_of_key_eq inTable firstPresent isFirst
      subst same
      have notInRest : key row ∉ rest.map key := firstNew
      simp [keeps, notInRest]
    · simp [isFirst]

/-- `UPDATE ... WHERE`: the rows that match are changed, in their places. -/
theorem rows_update_where (table : Table key) (matching : Row → Bool) {change : Row → Row}
    (keeps : ∀ row, key (change row) = key row) :
    (((table.rows.filter matching).map change).foldl put table).rows =
      table.rows.map fun row => if matching row then change row else row := by
  rw [rows_foldl_put_map keeps (fun row present => (List.mem_filter.mp present).1)
    (table.nodup.sublist (List.filter_sublist.map key))]
  refine List.map_congr_left fun row inTable => ?_
  have matches_iff : key row ∈ (table.rows.filter matching).map key ↔ matching row = true := by
    constructor
    · intro inKeys
      obtain ⟨other, inMatching, same⟩ := List.mem_map.mp inKeys
      obtain ⟨otherInTable, isMatch⟩ := List.mem_filter.mp inMatching
      exact eq_of_key_eq inTable otherInTable same.symm ▸ isMatch
    · exact fun isMatch => List.mem_map_of_mem (List.mem_filter.mpr ⟨inTable, isMatch⟩)
  by_cases isMatch : matching row = true
  · rw [if_pos (matches_iff.mpr isMatch), if_pos isMatch]
  · rw [if_neg fun inKeys => isMatch (matches_iff.mp inKeys), if_neg isMatch]

/-- A write to one row of a table. -/
inductive RowWrite (Row Key : Type) where
  | put (row : Row)
  | erase (id : Key)

omit [DecidableEq Key] in
/-- The key of the row a write is about. -/
def RowWrite.target (key : Row → Key) : RowWrite Row Key → Key
  | .put row => key row
  | .erase id => id

omit [DecidableEq Key] in
/-- What the row is after the write. -/
def RowWrite.value : RowWrite Row Key → Option Row
  | .put row => some row
  | .erase _ => none

def write (table : Table key) : RowWrite Row Key → Table key
  | .put row => table.put row
  | .erase id => table.erase id

theorem find_write_same (table : Table key) (change : RowWrite Row Key) :
    (table.write change).find (change.target key) = change.value := by
  cases change with
  | put row => exact find_put_same table row
  | erase id => exact find_erase_same table id

theorem find_write_ne (table : Table key) {change : RowWrite Row Key} {id : Key}
    (differs : id ≠ change.target key) : (table.write change).find id = table.find id := by
  cases change with
  | put row => exact find_put_ne table differs
  | erase _ => exact find_erase_ne table differs

/-! ## Restriction and writes -/

theorem filter_replaceRow {keep : Row → Bool} {row : Row} {rows : List Row}
    (same : ∀ old ∈ rows, key old = key row → keep old = keep row) :
    (replaceRow key row rows).filter keep = replaceRow key row (rows.filter keep) := by
  induction rows with
  | nil => rfl
  | cons old rest ih =>
    have tail := ih fun other present => same other (List.mem_cons_of_mem _ present)
    simp only [replaceRow, List.map_cons] at tail ⊢
    by_cases isOld : key old = key row
    · have agree := same old List.mem_cons_self isOld
      cases kept : keep row <;> simp [isOld, agree, kept, tail]
    · cases kept : keep old <;> simp [isOld, kept, tail]

theorem replaceRow_of_absent {row : Row} {rows : List Row} (absent : ∀ old ∈ rows, key old ≠ key row) :
    replaceRow key row rows = rows := by
  rw [replaceRow]
  exact (List.map_congr_left fun old present => by simp [absent old present]).trans (List.map_id _)

/-- A write of a kept row, over a row that was kept as well, is a write to the restriction. -/
theorem restrict_put {table : Table key} {keep : Row → Bool} {row : Row} (kept : keep row = true)
    (old : ∀ other, table.find (key row) = some other → keep other = true) :
    (table.put row).restrict keep = (table.restrict keep).put row := by
  apply ext
  cases found : table.find (key row) with
  | none =>
    have absent : (table.restrict keep).find (key row) = none := by rw [find_restrict, found]; rfl
    rw [rows_put_of_absent absent]
    simp [restrict, rows_put_of_absent found, List.filter_append, kept]
  | some other =>
    have present : (table.restrict keep).find (key row) = some other := by
      rw [find_restrict, found]; simp [old other found]
    rw [rows_put_of_present present]
    simp only [restrict, rows_put_of_present found]
    apply filter_replaceRow
    intro candidate inTable same
    rw [kept, old candidate (find_eq_some_iff.mpr ⟨inTable, same⟩)]

/-- A write of a row that is not kept, over none or over one that was not kept either,
    leaves the restriction as it was. -/
theorem restrict_put_of_not {table : Table key} {keep : Row → Bool} {row : Row}
    (dropped : keep row = false)
    (old : ∀ other, table.find (key row) = some other → keep other = false) :
    (table.put row).restrict keep = table.restrict keep := by
  apply ext
  cases found : table.find (key row) with
  | none => simp [restrict, rows_put_of_absent found, List.filter_append, dropped]
  | some other =>
    simp only [restrict, rows_put_of_present found]
    rw [filter_replaceRow fun candidate inTable same => by
      rw [dropped, old candidate (find_eq_some_iff.mpr ⟨inTable, same⟩)]]
    apply replaceRow_of_absent
    intro candidate inTable same
    obtain ⟨present, kept⟩ := List.mem_filter.mp inTable
    rw [old candidate (find_eq_some_iff.mpr ⟨present, same⟩)] at kept
    cases kept

theorem restrict_erase (table : Table key) (keep : Row → Bool) (id : Key) :
    (table.erase id).restrict keep = (table.restrict keep).erase id := by
  apply ext
  simp only [erase, restrict, List.filter_filter]
  exact List.filter_congr fun row _ => Bool.and_comm _ _

theorem restrict_erase_of_not {table : Table key} {keep : Row → Bool} {id : Key}
    (old : ∀ other, table.find id = some other → keep other = false) :
    (table.erase id).restrict keep = table.restrict keep := by
  apply ext
  simp only [erase, restrict, List.filter_filter]
  apply List.filter_congr
  intro row present
  by_cases same : key row = id
  · simp [same, old row (find_eq_some_iff.mpr ⟨present, same⟩)]
  · simp [same]

omit [DecidableEq Key] in
theorem restrict_restrict (table : Table key) (keep : Row → Bool) :
    (table.restrict keep).restrict keep = table.restrict keep := by
  apply ext
  simp only [restrict, List.filter_filter, Bool.and_self]

/-- The row that is written, before and after. -/
structure WritesOnly (keep : Row → Bool) (table : Table key) (change : RowWrite Row Key) : Prop where
  value : ∀ row, change.value = some row → keep row = true
  old : ∀ row, table.find (change.target key) = some row → keep row = true

theorem WritesOnly.restrict {keep : Row → Bool} {table : Table key} {change : RowWrite Row Key}
    (only : table.WritesOnly keep change) : (table.write change).restrict keep = (table.restrict keep).write change := by
  cases change with
  | put row => exact restrict_put (only.value row rfl) only.old
  | erase id => exact restrict_erase table keep id

theorem WritesOnly.restrict_other {own keep : Row → Bool} {table : Table key} {change : RowWrite Row Key}
    (only : table.WritesOnly own change) (apart : ∀ row, own row = true → keep row = false) :
    (table.write change).restrict keep = table.restrict keep := by
  cases change with
  | put row => exact restrict_put_of_not (apart row (only.value row rfl)) fun old found => apart old (only.old old found)
  | erase id => exact restrict_erase_of_not fun old found => apart old (only.old old found)

/-! ## Sums over the rows -/

section Total

variable {M : Type} [AddCommGroup M]

def total (table : Table key) (amount : Row → M) : M :=
  (table.rows.map amount).sum

theorem total_put_of_absent {table : Table key} {row : Row} (amount : Row → M)
    (absent : table.find (key row) = none) :
    (table.put row).total amount = table.total amount + amount row := by
  simp [total, rows_put_of_absent absent]

theorem sum_replaceRow {row old : Row} {rows : List Row} (amount : Row → M)
    (nodup : (rows.map key).Nodup) (present : old ∈ rows) (same : key old = key row) :
    ((replaceRow key row rows).map amount).sum =
      (rows.map amount).sum + (amount row - amount old) := by
  induction rows with
  | nil => cases present
  | cons head rest ih =>
    rw [List.map_cons, List.nodup_cons] at nodup
    by_cases isHead : key head = key row
    · have headIsOld : old = head := by
        rcases List.mem_cons.mp present with equal | inRest
        · exact equal
        · refine absurd (List.mem_map.mpr ⟨old, inRest, ?_⟩) nodup.1
          rw [same, isHead]
      have restSame : replaceRow key row rest = rest := by
        apply replaceRow_of_absent
        intro other inRest sameKey
        exact nodup.1 (List.mem_map.mpr ⟨other, inRest, sameKey.trans isHead.symm⟩)
      simp only [replaceRow, List.map_cons, List.sum_cons, isHead, if_true] at restSame ⊢
      rw [restSame, headIsOld]
      abel
    · have inRest : old ∈ rest := by
        rcases List.mem_cons.mp present with equal | inRest
        · exact absurd (equal ▸ same) isHead
        · exact inRest
      have tail := ih nodup.2 inRest
      simp only [replaceRow, List.map_cons, List.sum_cons, if_neg isHead] at tail ⊢
      rw [tail]
      abel

theorem total_put_of_present {table : Table key} {row old : Row} (amount : Row → M)
    (present : table.find (key row) = some old) :
    (table.put row).total amount = table.total amount + (amount row - amount old) := by
  obtain ⟨inTable, same⟩ := find_eq_some_iff.mp present
  simp only [total, rows_put_of_present present]
  exact sum_replaceRow amount table.nodup inTable same

omit [DecidableEq Key] in
theorem total_congr {table : Table key} {left right : Row → M}
    (same : ∀ row ∈ table.rows, left row = right row) : table.total left = table.total right :=
  congrArg List.sum (List.map_congr_left same)

end Total

end Table

end StoreSaas
