import StoreSaas.Library.UniqueEntries
import StoreSaas.Verified.WrittenTables

/-! # The unique columns

`users.email` and `subscriptions.store_id` are unique: every statement compares what it
writes with its view and locks the entry (`keepsEntries`).
-/

namespace StoreSaas

/-- The entry of a row in the unique index of its table. -/
def RowKey.entry : (key : RowKey) → key.Row → Option RowKey
  | .user _, row => some (.uniqueEntry (.userEmail (User.email row)))
  | .subscription _, row => some (.uniqueEntry (.subscriptionStore (Subscription.storeId row)))
  | .store _, _ | .category _, _ | .product _, _ | .order _, _ | .orderItem _, _ | .webhookEvent _, _
  | .idempotencyRecord _, _ | .outboxEvent _, _ | .auditLog _, _ | .uniqueEntry _, _ => none

abbrev Database.EntriesUnique (db : Database) : Prop := shop.EntriesUnique RowKey.entry db

section Statements

variable {db : Database} {writes : List DbWrite} {locks : List (RowLock RowKey)}

theorem hasEntry_userEmail {key : RowKey} {email : String}
    (has : shop.HasEntry RowKey.entry db key (.uniqueEntry (.userEmail email))) :
    ∃ row, key = .user row.id ∧ db.users.find row.id = some row ∧ row.email = email := by
  obtain ⟨row, found, isEntry⟩ := has
  cases key with
  | user id =>
    have isId : User.id row = id := Table.key_of_find found
    cases isEntry
    exact ⟨row, congrArg RowKey.user isId.symm, isId ▸ found, rfl⟩
  | subscription id => cases isEntry
  | _ => cases isEntry

theorem hasEntry_subscriptionStore {key : RowKey} {storeId : Uuid}
    (has : shop.HasEntry RowKey.entry db key (.uniqueEntry (.subscriptionStore storeId))) :
    ∃ row, key = .subscription row.id ∧ db.subscriptions.find row.id = some row ∧ row.storeId = storeId := by
  obtain ⟨row, found, isEntry⟩ := has
  cases key with
  | subscription id =>
    have isId : Subscription.id row = id := Table.key_of_find found
    cases isEntry
    exact ⟨row, congrArg RowKey.subscription isId.symm, isId ▸ found, rfl⟩
  | user id => cases isEntry
  | _ => cases isEntry

theorem hasEntry_of_user {row : User} (present : row ∈ db.users.rows) :
    shop.HasEntry RowKey.entry db (.user row.id) (.uniqueEntry (.userEmail row.email)) :=
  ⟨row, Table.find_of_mem present, rfl⟩

theorem hasEntry_of_subscription {row : Subscription} (present : row ∈ db.subscriptions.rows) :
    shop.HasEntry RowKey.entry db (.subscription row.id) (.uniqueEntry (.subscriptionStore row.storeId)) :=
  ⟨row, Table.find_of_mem present, rfl⟩

/-- Rows of users with one email are one row. -/
theorem Database.EntriesUnique.user (unique : db.EntriesUnique) {left right : User} (isLeft : left ∈ db.users.rows)
    (isRight : right ∈ db.users.rows) (sameEmail : left.email = right.email) : left = right := by
  have hasRight := hasEntry_of_user isRight
  rw [← sameEmail] at hasRight
  have sameId := RowKey.user.inj (unique _ _ _ (hasEntry_of_user isLeft) hasRight)
  exact Option.some.inj ((Table.find_of_mem isLeft).symm.trans (sameId ▸ Table.find_of_mem isRight))

theorem Database.EntriesUnique.subscription (unique : db.EntriesUnique) {left right : Subscription}
    (isLeft : left ∈ db.subscriptions.rows) (isRight : right ∈ db.subscriptions.rows)
    (sameStore : left.storeId = right.storeId) : left = right := by
  have hasRight := hasEntry_of_subscription isRight
  rw [← sameStore] at hasRight
  have sameId := RowKey.subscription.inj (unique _ _ _ (hasEntry_of_subscription isLeft) hasRight)
  exact Option.some.inj ((Table.find_of_mem isLeft).symm.trans (sameId ▸ Table.find_of_mem isRight))

/-- An email that nobody else has. -/
theorem entries_put_user {row : User} (unique : db.EntriesUnique)
    (fresh : (∃ old, db.users.find row.id = some old ∧ old.email = row.email) ∨
      (uniqueLock (.userEmail row.email) ∈ locks ∧ db.emailTaken row.email row.id = false)) :
    shop.WritesEntries RowKey.entry db locks [.user (.put row)] := by
  refine Engine.writesEntries_put unique fun stored e isStored isEntry => ?_
  cases isStored
  cases isEntry
  rcases fresh with ⟨old, found, sameEmail⟩ | ⟨isLocked, free⟩
  · exact .inl ⟨old, found, congrArg (fun email => some (RowKey.uniqueEntry (.userEmail email))) sameEmail⟩
  · refine .inr ⟨isLocked, fun key has => ?_⟩
    obtain ⟨other, rfl, found, sameEmail⟩ := hasEntry_userEmail has
    by_contra differs
    have taken : db.emailTaken row.email row.id = true := by
      refine List.any_eq_true.mpr ⟨other, Table.mem_of_find found, decide_eq_true ⟨sameEmail, fun sameId => differs ?_⟩⟩
      exact congrArg RowKey.user sameId
    rw [free] at taken
    cases taken

theorem entries_user {statement : UserStatement} {reply : statement.Reply} (unique : db.EntriesUnique)
    (executed : statement.execute db = .ok (reply, writes)) :
    shop.WritesEntries RowKey.entry db (shop.locksOf (.user statement) db writes) writes := by
  cases statement with
  | findByEmail | findForLogin | findById | findByResetTokenHash | count | reselect =>
    cases executed
    exact Engine.writesEntries_nil unique
  | findStaff id storeId =>
    cases id with
    | none => cases executed
    | some id => cases executed; exact Engine.writesEntries_nil unique
  | update id changes =>
    obtain ⟨-, rfl⟩ | ⟨row, found, rfl⟩ := UserStatement.execute_update executed
    · exact Engine.writesEntries_nil unique
    · have isId : row.id = id := Table.key_of_find found
      subst isId
      -- the email stays
      exact entries_put_user unique (.inl ⟨row, found, rfl⟩)
  | insert entity =>
    simp only [UserStatement.execute] at executed
    split at executed
    next => cases executed
    next row isRow =>
      obtain ⟨hash, -, rfl⟩ := Option.map_eq_some_iff.mp isRow
      split at executed
      next => cases executed
      next isNew =>
        split at executed
        next => cases executed
        next =>
          cases executed
          simp only [Bool.or_eq_true, not_or, Bool.not_eq_true] at isNew
          -- the email is locked by this insert and free
          exact entries_put_user unique (.inr ⟨List.mem_append_left _ List.mem_cons_self, isNew.2⟩)
  | saveChanges id changes =>
    simp only [UserStatement.execute] at executed
    split at executed
    next => cases executed; exact Engine.writesEntries_nil unique
    next row found =>
      have isId : row.id = id := Table.key_of_find found
      subst isId
      split at executed
      next => cases executed
      next free =>
        cases executed
        refine entries_put_user unique ?_
        cases isChange : changes.email with
        | none => exact .inl ⟨row, found, by rw [StaffChanges.applyTo, isChange]; rfl⟩
        -- a new email is locked and free
        | some email =>
          refine .inr ⟨List.mem_append_left _ ?_, Bool.eq_false_of_not_eq_true free⟩
          change _ ∈ (changes.email.map fun email => uniqueLock (.userEmail email)).toList
          rw [isChange, StaffChanges.applyTo, isChange]
          exact List.mem_singleton_self _
  | delete id =>
    obtain ⟨-, rfl⟩ | ⟨row, -, rfl⟩ := UserStatement.execute_delete executed
    · exact Engine.writesEntries_nil unique
    · exact Engine.writesEntries_of_kept unique (List.forall_mem_singleton.mpr fun _ _ none => by cases none)

theorem entries_store {statement : StoreStatement} {reply : statement.Reply} (unique : db.EntriesUnique)
    (executed : statement.execute db = .ok (reply, writes)) :
    shop.WritesEntries RowKey.entry db (shop.locksOf (.store statement) db writes) writes := by
  cases statement with
  | findOne id =>
    cases id with
    | none => cases executed
    | some id => cases executed; exact Engine.writesEntries_nil unique
  | findAndCount =>
    rw [(replyOnce_eq_ok executed).2.2]
    exact Engine.writesEntries_nil unique
  | reselect => cases executed; exact Engine.writesEntries_nil unique
  | insert entity =>
    obtain ⟨row, -, -, rfl⟩ := StoreStatement.execute_insert executed
    exact Engine.writesEntries_of_kept unique (List.forall_mem_singleton.mpr fun _ _ _ isEntry => nomatch isEntry)
  | update id changes =>
    obtain ⟨-, rfl⟩ | ⟨row, next, -, -, rfl⟩ := StoreStatement.execute_update executed
    · exact Engine.writesEntries_nil unique
    · exact Engine.writesEntries_of_kept unique (List.forall_mem_singleton.mpr fun _ _ _ isEntry => nomatch isEntry)
  | insertSubscription row =>
    obtain ⟨-, free, rfl⟩ := StoreStatement.execute_insertSubscription executed
    refine Engine.writesEntries_put unique fun stored e isStored isEntry => .inr ?_
    cases isStored
    cases isEntry
    refine ⟨List.mem_append_left _ List.mem_cons_self, fun key has => ?_⟩
    obtain ⟨other, -, found, sameStore⟩ := hasEntry_subscriptionStore has
    exact absurd (decide_eq_true sameStore) (List.find?_eq_none.mp free other (Table.mem_of_find found))
  | updateOwner id changes =>
    obtain ⟨-, rfl⟩ | ⟨row, found, rfl⟩ := StoreStatement.execute_updateOwner executed
    · exact Engine.writesEntries_nil unique
    · have isId : row.id = id := Table.key_of_find found
      subst isId
      exact entries_put_user unique (.inl ⟨row, found, rfl⟩)

theorem entries_billing {statement : BillingStatement} {reply : statement.Reply} (unique : db.EntriesUnique)
    (executed : statement.execute db = .ok (reply, writes)) :
    shop.WritesEntries RowKey.entry db locks writes := by
  refine Engine.writesEntries_of_kept unique fun write made row e isRow isEntry => ?_
  obtain ⟨change, rfl⟩ | ⟨change, rfl⟩ := statement.execute_writes executed write made
  · cases statement with
    | updateSubscription storeId changes =>
      cases executed
      obtain ⟨old, present, same⟩ := List.mem_map.mp made
      cases same
      cases isRow
      cases isEntry
      exact ⟨old, Table.find_of_mem (List.mem_filter.mp present).1, rfl⟩
    | findWebhookEvent | reselectWebhookEvent | findSubscriptionOf | findByStripeSubscriptionId => cases executed; cases made
    | insertWebhookEvent row =>
      simp only [BillingStatement.execute] at executed
      split at executed
      next => cases executed
      next => cases executed; cases List.mem_singleton.mp made
    | updateWebhookEvent row =>
      simp only [BillingStatement.execute] at executed
      split at executed
      next => cases executed; cases made
      next => cases executed; cases List.mem_singleton.mp made
  · cases isEntry

/-- Emails and the stores of subscriptions stay unique under every statement, as far as it sees. -/
theorem keepsEntries : shop.KeepsEntries RowKey.entry := by
  intro op view reply writes unique executed
  have elsewhere (users : op.writesTo .users = false) (subscriptions : op.writesTo .subscriptions = false) :
      shop.WritesEntries RowKey.entry view (shop.locksOf op view writes) writes := by
    refine Engine.writesEntries_of_kept unique fun write made row e isRow isEntry => ?_
    have table := Statement.execute_table executed write made
    cases write with
    | user change => exact absurd (users.symm.trans table) Bool.false_ne_true
    | subscription change => exact absurd (subscriptions.symm.trans table) Bool.false_ne_true
    | _ => cases isEntry
  cases op with
  | user statement => exact entries_user unique executed
  | store statement => exact entries_store unique executed
  | billing statement => exact entries_billing unique executed
  | setCurrentStore | enqueueMail | idempotency | audit => exact elsewhere rfl rfl
  | product statement => cases statement <;> exact elsewhere rfl rfl
  | category statement => cases statement <;> exact elsewhere rfl rfl
  | order statement => cases statement <;> exact elsewhere rfl rfl
  | outbox statement => cases statement <;> exact elsewhere rfl rfl

end Statements

end StoreSaas
