import StoreSaas.Library.Protocol
import StoreSaas.Library.RelyGuarantee
import StoreSaas.Services.StoresService
import StoreSaas.Services.Calls
import StoreSaas.Verified.ServiceStatements

/-! # What was deleted

The edits of products, categories and staff find their row, and `save` selects it again
by its id; if the row is gone by then, `save` inserts it.  What their statements write is a
change of a row that is there, an insert, or a deletion (`execute_edit`).
-/

namespace StoreSaas

/-! ## The statements of the edits -/

namespace Statement

/-- The statements on products, categories and users. -/
def isEdit : Statement → Bool
  | .setCurrentStore _ | .product _ | .category _ | .user _ => true
  | .order _ | .outbox _ | .billing _ | .idempotency _ | .store _ | .audit _ | .enqueueMail _ => false

/-- The row that `save` selects again. -/
def reselected : Statement → Option RowKey
  | .product (.reselect entity) => some (.product entity.id)
  | .category (.reselect entity) => some (.category entity.id)
  | .user (.reselect entity) => some (.user entity.id)
  | _ => none

/-- `save` does not find the row again. -/
def misses : (statement : Statement) → statement.Reply → Bool
  | .product (.reselect _), none | .category (.reselect _), none | .user (.reselect _), none => true
  | _, _ => false

def inserted : Statement → Option RowKey
  | .product (.insert entity) => some (.product entity.id)
  | .category (.insert entity) => some (.category entity.id)
  | .user (.insert entity) => some (.user entity.id)
  | _ => none

def deleted : Statement → Option RowKey
  | .product (.delete id) => some (.product id)
  | .category (.delete id) => some (.category id)
  | .user (.delete id) => some (.user id)
  | _ => none

variable {statement : Statement} {db : Database} {reply : statement.Reply} {writes : List DbWrite} {key : RowKey}

/-- What a write of an edit is: a change of a row that is there, an insert, or a deletion. -/
inductive EditWrite (statement : Statement) (db : Database) (write : DbWrite) : Prop where
  | change (isPut : write.value.isSome = true) (present : (db.row write.key).isSome = true)
  | insert (isInserted : statement.inserted = some write.key) (isPut : write.value.isSome = true)
    (absent : db.row write.key = none)
  | delete (isDeleted : statement.deleted = some write.key) (isErased : write.value = none)

theorem execute_edit (isEdit : statement.isEdit = true) (executed : statement.execute db = .ok (reply, writes)) :
    ∀ write ∈ writes, EditWrite statement db write := by
  have reads (isRead : statement.isRead = true) : ∀ write ∈ writes, EditWrite statement db write := by
    rw [execute_read isRead executed]
    exact fun _ made => nomatch made
  cases statement with
  | setCurrentStore | enqueueMail => exact reads rfl
  -- the statements on these tables are no edits
  | order | outbox | billing | idempotency | store | audit => cases isEdit
  | product statement =>
    cases statement with
    | findOne | getManyAndCount | selectForUpdate | reselect => exact reads rfl
    | insert entity =>
      obtain ⟨row, isRow, absent, rfl⟩ := ProductStatement.execute_insert executed
      obtain ⟨sameId, -⟩ := ProductEntity.toRow?_eq_some isRow
      refine List.forall_mem_singleton.mpr (.insert ?_ rfl absent)
      exact congrArg (fun id => some (RowKey.product id)) sameId.symm
    | update id changes now =>
      obtain ⟨-, rfl⟩ | ⟨row, next, found, applied, -, rfl⟩ := ProductStatement.execute_update executed
      · exact fun _ made => nomatch made
      · obtain ⟨sameId, -⟩ := ProductChanges.applyTo?_eq_some applied
        refine List.forall_mem_singleton.mpr (.change rfl ?_)
        change (db.products.find next.id).isSome = true
        rw [sameId, Table.key_of_find found, found]
        rfl
    | increment id storeId quantity now =>
      obtain ⟨-, -, rfl⟩ | ⟨row, found, -, rfl⟩ := ProductStatement.execute_increment executed
      · exact fun _ made => nomatch made
      · obtain ⟨present, isId, -⟩ := Database.findProduct_eq_some found
        refine List.forall_mem_singleton.mpr (.change rfl ?_)
        change (db.products.find row.id).isSome = true
        rw [isId, present]
        rfl
    | delete id =>
      obtain ⟨-, rfl⟩ | ⟨row, present, rfl⟩ := ProductStatement.execute_delete executed
      · exact fun _ made => nomatch made
      -- ON DELETE SET NULL: the items of the product stay and lose their link
      · refine List.forall_mem_cons.mpr ⟨.delete ?_ rfl, fun write unlinks => ?_⟩
        · exact congrArg (fun id => some (RowKey.product id)) (Table.key_of_find present).symm
        · obtain ⟨item, isItem, rfl⟩ := List.mem_map.mp unlinks
          have inTable : db.orderItems.find item.id = some item := Table.find_of_mem (List.mem_filter.mp isItem).1
          exact .change rfl (Option.isSome_of_mem inTable)
  | category statement =>
    cases statement with
    | findOne | find | reselect => exact reads rfl
    -- an insert needs a name and a free id
    | insert entity =>
      simp only [execute, CategoryStatement.execute, CategoryEntity.toRow?] at executed
      cases isName : entity.name with
      | none =>
        rw [isName] at executed
        cases executed
      | some name =>
        rw [isName] at executed
        simp only [Option.map_some] at executed
        split at executed
        next => cases executed
        next absent =>
          split at executed
          next => cases executed
          next =>
            cases executed
            exact List.forall_mem_singleton.mpr (.insert rfl rfl (Option.not_isSome_iff_eq_none.mp absent))
    | update id name now =>
      simp only [execute, CategoryStatement.execute] at executed
      split at executed
      next => cases executed; exact fun _ made => nomatch made
      next => cases executed
      next row name found =>
        cases executed
        refine List.forall_mem_singleton.mpr (.change rfl ?_)
        change (db.categories.find row.id).isSome = true
        rw [Table.key_of_find found, found]
        rfl
    | delete id =>
      simp only [execute, CategoryStatement.execute] at executed
      split at executed
      next => cases executed; exact fun _ made => nomatch made
      next row present =>
        cases executed
        -- its products stay and lose their category
        refine List.forall_mem_cons.mpr ⟨.delete ?_ rfl, fun write unlinks => ?_⟩
        · exact congrArg (fun id => some (RowKey.category id)) (Table.key_of_find present).symm
        · obtain ⟨product, isProduct, rfl⟩ := List.mem_map.mp unlinks
          have inTable : db.products.find product.id = some product :=
            Table.find_of_mem (List.mem_filter.mp isProduct).1
          exact .change rfl (Option.isSome_of_mem inTable)
  | user statement =>
    cases statement with
    -- the lookups of users write nothing
    | findByEmail | findForLogin | findById | findByResetTokenHash | count | reselect =>
      cases executed
      exact fun _ made => nomatch made
    | findStaff id storeId =>
      cases id with
      | none => cases executed
      | some id =>
        cases executed
        exact fun _ made => nomatch made
    | insert entity =>
      obtain ⟨row, isRow, absent, rfl⟩ := UserStatement.execute_insert executed
      obtain ⟨passwordHash, -, rfl⟩ := Option.map_eq_some_iff.mp isRow
      exact List.forall_mem_singleton.mpr (.insert rfl rfl absent)
    | saveChanges id changes =>
      obtain ⟨-, rfl⟩ | ⟨row, found, rfl⟩ := UserStatement.execute_saveChanges executed
      · exact fun _ made => nomatch made
      · refine List.forall_mem_singleton.mpr (.change rfl ?_)
        change (db.users.find row.id).isSome = true
        rw [Table.key_of_find found, found]
        rfl
    | update id changes =>
      obtain ⟨-, rfl⟩ | ⟨row, found, rfl⟩ := UserStatement.execute_update executed
      · exact fun _ made => nomatch made
      · refine List.forall_mem_singleton.mpr (.change rfl ?_)
        change (db.users.find row.id).isSome = true
        rw [Table.key_of_find found, found]
        rfl
    | delete id =>
      obtain ⟨-, rfl⟩ | ⟨row, present, rfl⟩ := UserStatement.execute_delete executed
      · exact fun _ made => nomatch made
      · refine List.forall_mem_singleton.mpr (.delete ?_ rfl)
        exact congrArg (fun id => some (RowKey.user id)) (Table.key_of_find present).symm

end Statement

end StoreSaas
