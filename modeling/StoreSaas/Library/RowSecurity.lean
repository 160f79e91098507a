import StoreSaas.Library.Table

/-! # Row security

A policy decides by a setting which rows of a table there are for a statement.  Its condition
is at once that of the rows that are read, changed or deleted and of the rows that result: a
statement that would leave another row behind is rejected.  Where nothing is set no row is
admitted.
-/

namespace StoreSaas

/-- A policy whose `USING` and `WITH CHECK` are one condition. -/
structure RowPolicy (Value Row : Type) where
  admits : Value → Row → Bool

/-- A statement on one table, with no filter but its own. -/
inductive TableStatement {Row Key : Type} (key : Row → Key) where
  | select (matching : Row → Bool)
  | insert (row : Row)
  | update (matching : Row → Bool) (change : Row → Row) (keeps : ∀ row, key (change row) = key row)
  | delete (matching : Row → Bool)

inductive RowError where
  | violatesPolicy
  | duplicateKey
  deriving DecidableEq

namespace RowPolicy

variable {Value Row Key : Type} {key : Row → Key} [DecidableEq Key] (policy : RowPolicy Value Row)
  (setting : Option Value)

def admitted (row : Row) : Bool := setting.any fun value => policy.admits value row

/-- The rows that the statement returns or has written, and the table after it. -/
def execute (table : Table key) : TableStatement key → Except RowError (List Row × Table key)
  | .select matching => .ok (table.rows.filter fun row => policy.admitted setting row && matching row, table)
  | .insert row =>
    if policy.admitted setting row = false then .error .violatesPolicy
    else if (table.find (key row)).isSome = true then .error .duplicateKey
    else .ok ([row], table.put row)
  | .update matching change _ =>
    let changed := (table.rows.filter fun row => policy.admitted setting row && matching row).map change
    if changed.all (policy.admitted setting) = true then .ok (changed, changed.foldl Table.put table)
    else .error .violatesPolicy
  | .delete matching =>
    .ok (table.rows.filter fun row => policy.admitted setting row && matching row,
      table.restrict fun row => !(policy.admitted setting row && matching row))

/-- The rows that the policy hides. -/
def hidden (table : Table key) : Table key := table.restrict fun row => !policy.admitted setting row

variable {policy setting} {table after : Table key} {rows : List Row}

omit [DecidableEq Key] in
theorem admitted_of_filter {matching : Row → Bool} {row : Row}
    (found : row ∈ table.rows.filter fun row => policy.admitted setting row && matching row) :
    policy.admitted setting row = true :=
  (Bool.and_eq_true_iff.mp (List.mem_filter.mp found).2).1

theorem hidden_put {row : Row} (isAdmitted : policy.admitted setting row = true) (absent : table.find (key row) = none) :
    policy.hidden setting (table.put row) = policy.hidden setting table := by
  apply Table.ext
  change (table.put row).rows.filter _ = table.rows.filter _
  rw [Table.rows_put_of_absent absent, List.filter_append, List.filter_singleton, isAdmitted]
  exact List.append_nil _

theorem hidden_update {matching : Row → Bool} {change : Row → Row} (keeps : ∀ row, key (change row) = key row)
    (stillAdmitted : ∀ row ∈ table.rows, policy.admitted setting row = true → matching row = true →
      policy.admitted setting (change row) = true) :
    policy.hidden setting (((table.rows.filter fun row => policy.admitted setting row && matching row).map change).foldl
      Table.put table) = policy.hidden setting table := by
  apply Table.ext
  change List.filter _ (Table.rows _) = List.filter _ table.rows
  rw [Table.rows_update_where table _ keeps, List.filter_map]
  have sameRows : table.rows.filter ((fun row => !policy.admitted setting row) ∘ fun row =>
      if (policy.admitted setting row && matching row) = true then change row else row) =
      table.rows.filter fun row => !policy.admitted setting row := by
    refine List.filter_congr fun row present => ?_
    rw [Function.comp_apply]
    split
    next isChanged =>
      obtain ⟨isAdmitted, isMatch⟩ := Bool.and_eq_true_iff.mp isChanged
      rw [isAdmitted, stillAdmitted row present isAdmitted isMatch]
    next => rfl
  rw [sameRows]
  refine (List.map_congr_left fun row present => ?_).trans (List.map_id _)
  have isHidden := (List.mem_filter.mp present).2
  rw [Bool.not_eq_true'] at isHidden
  rw [isHidden]
  rfl

omit [DecidableEq Key] in
theorem hidden_delete (matching : Row → Bool) :
    policy.hidden setting (table.restrict fun row => !(policy.admitted setting row && matching row)) =
      policy.hidden setting table := by
  apply Table.ext
  change List.filter _ (List.filter _ table.rows) = List.filter _ table.rows
  rw [List.filter_filter]
  refine List.filter_congr fun row _ => ?_
  cases policy.admitted setting row <;> rfl

/-- Whatever a statement returns or writes is admitted, and the rows that are hidden from it stay as they are. -/
theorem execute_confined {statement : TableStatement key}
    (ran : policy.execute setting table statement = .ok (rows, after)) :
    (∀ row ∈ rows, policy.admitted setting row = true) ∧ policy.hidden setting after = policy.hidden setting table := by
  cases statement with
  | select matching =>
    cases ran
    exact ⟨fun row found => admitted_of_filter found, rfl⟩
  | insert row =>
    simp only [execute] at ran
    split at ran
    next => cases ran
    next isAdmitted =>
      split at ran
      next => cases ran
      next absent =>
        cases ran
        have isAdmitted : policy.admitted setting row = true := by simpa using isAdmitted
        refine ⟨fun other isRow => List.mem_singleton.mp isRow ▸ isAdmitted, hidden_put isAdmitted ?_⟩
        exact Option.not_isSome_iff_eq_none.mp absent
  | update matching change keeps =>
    simp only [execute] at ran
    split at ran
    next all =>
      cases ran
      have stillAdmitted := List.all_eq_true.mp all
      refine ⟨stillAdmitted, hidden_update keeps fun row present isAdmitted isMatch => ?_⟩
      refine stillAdmitted _ (List.mem_map_of_mem (List.mem_filter.mpr ⟨present, ?_⟩))
      rw [isAdmitted, isMatch]
      rfl
    next => cases ran
  | delete matching =>
    cases ran
    exact ⟨fun row found => admitted_of_filter found, hidden_delete matching⟩

end RowPolicy

end StoreSaas
