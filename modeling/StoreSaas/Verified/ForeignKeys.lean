import StoreSaas.Library.ForeignKeys
import StoreSaas.Schema.Statements

/-! # The foreign keys of the shop

A product may name a category, an item names its order and may name a product.  Every
statement keeps them on its own view (`keepsForeignKeys`): what it refers to it finds and
locks, and a `DELETE` sets the references it sees to `NULL`.
-/

namespace StoreSaas

/-- The rows of other tables a row refers to. -/
def RowKey.references : (key : RowKey) → key.Row → List RowKey
  | .product _, row => ((Product.categoryId row).map RowKey.category).toList
  | .orderItem _, row => .order (OrderItem.orderId row) :: ((OrderItem.productId row).map RowKey.product).toList
  | .store _, _ | .user _, _ | .subscription _, _ | .category _, _ | .order _, _ | .webhookEvent _, _
  | .idempotencyRecord _, _ | .outboxEvent _, _ | .auditLog _, _ | .uniqueEntry _, _ => []

abbrev Database.RefsExist (db : Database) : Prop := shop.RefsExist RowKey.references db

section Statements

variable {db : Database} {writes : List DbWrite} {locks : List (RowLock RowKey)}

theorem mem_references_product {id : Uuid} {row : Product} {target : RowKey} :
    target ∈ RowKey.references (.product id) row ↔ ∃ c, row.categoryId = some c ∧ target = .category c := by
  simp only [RowKey.references, Option.mem_toList, Option.map_eq_some_iff, eq_comm]

theorem mem_references_orderItem {id : Uuid} {row : OrderItem} {target : RowKey} :
    target ∈ RowKey.references (.orderItem id) row ↔
      target = .order row.orderId ∨ ∃ p, row.productId = some p ∧ target = .product p := by
  simp only [RowKey.references, List.mem_cons, Option.mem_toList, Option.map_eq_some_iff, eq_comm]

/-- A product that is written with its category as it was, or with one that was found and locked. -/
theorem refs_put_product {row : Product}
    (category : ∀ c, row.categoryId = some c →
      (∃ old, db.products.find row.id = some old ∧ old.categoryId = some c) ∨
        ((db.categories.find c).isSome = true ∧ ∃ lock ∈ locks, lock.key = .category c))
    (exist : db.RefsExist) : shop.WritesRefs RowKey.references db locks [.product (.put row)] := by
  refine Engine.writesRefs_of_puts exist (List.forall_mem_singleton.mpr rfl) (List.forall_mem_singleton.mpr ?_)
  intro stored isStored target isRef
  cases isStored
  obtain ⟨c, isCategory, rfl⟩ := mem_references_product.mp isRef
  refine (category c isCategory).imp_left fun ⟨old, found, wasCategory⟩ => ⟨old, found, ?_⟩
  exact Option.mem_toList.mpr (Option.map_eq_some_iff.mpr ⟨c, wasCategory, rfl⟩)

theorem refs_of_nil (exist : db.RefsExist) : shop.WritesRefs RowKey.references db locks [] :=
  Engine.writesRefs_nil exist locks

/-- A row of a table without references that other rows may refer to. -/
theorem refs_put_order {row : Order} (exist : db.RefsExist) :
    shop.WritesRefs RowKey.references db locks [.order (.put row)] :=
  Engine.writesRefs_of_puts exist (List.forall_mem_singleton.mpr rfl)
    (List.forall_mem_singleton.mpr fun _ _ _ isRef => nomatch isRef)

theorem refs_put_category {row : Category} (exist : db.RefsExist) :
    shop.WritesRefs RowKey.references db locks [.category (.put row)] :=
  Engine.writesRefs_of_puts exist (List.forall_mem_singleton.mpr rfl)
    (List.forall_mem_singleton.mpr fun _ _ _ isRef => nomatch isRef)

/-- A `DELETE` with its `ON DELETE SET NULL`. -/
theorem refs_delete_product {p : Uuid} (exist : db.RefsExist) :
    shop.WritesRefs RowKey.references db locks (.product (.erase p) :: db.unlinkProduct p) := by
  have unlinked : ∀ write ∈ db.unlinkProduct p, ∃ item ∈ db.orderItems.rows, item.productId = some p ∧
      write = .orderItem (.put { item with productId := none }) := by
    intro write made
    obtain ⟨item, present, rfl⟩ := List.mem_map.mp made
    obtain ⟨inTable, isP⟩ := List.mem_filter.mp present
    exact ⟨item, inTable, of_decide_eq_true isP, rfl⟩
  refine Engine.writesRefs_of_erase exist rfl (fun write made => ?_) (fun write made => ?_) (fun write made => ?_) ?_
  · obtain ⟨item, -, -, rfl⟩ := unlinked write made
    exact fun same => nomatch same
  · obtain ⟨item, -, -, rfl⟩ := unlinked write made
    rfl
  · obtain ⟨item, inTable, isP, rfl⟩ := unlinked write made
    intro row isRow
    cases isRow
    refine ⟨fun isRef => ?_, item, Table.find_of_mem inTable, fun target isRef => ?_⟩
    · rcases List.mem_cons.mp isRef with same | none <;> contradiction
    · exact List.mem_cons.mpr (.inl ((List.mem_cons.mp isRef).resolve_right fun none => nomatch none))
  · intro key row found isRef
    cases key with
    | orderItem id =>
      have isId : OrderItem.id row = id := Table.key_of_find found
      obtain same | ⟨q, isProduct, same⟩ := mem_references_orderItem.mp isRef
      · cases same
      · cases same
        refine ⟨_, List.mem_map_of_mem (List.mem_filter.mpr ⟨Table.mem_of_find found, ?_⟩),
          congrArg RowKey.orderItem isId⟩
        exact decide_eq_true isProduct
    | product id =>
      obtain ⟨c, -, same⟩ := mem_references_product.mp isRef
      cases same
    | _ => cases isRef

theorem refs_delete_category {c : Uuid} (exist : db.RefsExist) :
    shop.WritesRefs RowKey.references db locks (.category (.erase c) :: db.unlinkCategory c) := by
  have unlinked : ∀ write ∈ db.unlinkCategory c, ∃ row ∈ db.products.rows, row.categoryId = some c ∧
      write = .product (.put { row with categoryId := none }) := by
    intro write made
    obtain ⟨row, present, rfl⟩ := List.mem_map.mp made
    obtain ⟨inTable, isC⟩ := List.mem_filter.mp present
    exact ⟨row, inTable, of_decide_eq_true isC, rfl⟩
  refine Engine.writesRefs_of_erase exist rfl (fun write made => ?_) (fun write made => ?_) (fun write made => ?_) ?_
  · obtain ⟨row, -, -, rfl⟩ := unlinked write made
    exact fun same => nomatch same
  · obtain ⟨row, -, -, rfl⟩ := unlinked write made
    rfl
  · obtain ⟨row, inTable, isC, rfl⟩ := unlinked write made
    intro stored isStored
    cases isStored
    exact ⟨fun isRef => (nomatch isRef), row, Table.find_of_mem inTable, fun _ isRef => nomatch isRef⟩
  · intro key row found isRef
    cases key with
    | product id =>
      have isId : Product.id row = id := Table.key_of_find found
      obtain ⟨d, isCategory, same⟩ := mem_references_product.mp isRef
      cases same
      refine ⟨_, List.mem_map_of_mem (List.mem_filter.mpr ⟨Table.mem_of_find found, ?_⟩),
        congrArg RowKey.product isId⟩
      exact decide_eq_true isCategory
    | orderItem id =>
      rcases List.mem_cons.mp isRef with same | isProduct
      · cases same
      · obtain ⟨p, -, same⟩ := Option.map_eq_some_iff.mp (Option.mem_toList.mp isProduct)
        cases same
    | _ => cases isRef

/-- An inserted product names a category that exists. -/
theorem categoryExists_of_insert {entity : ProductEntity} {row : Product} {reply : (ProductStatement.insert entity).Reply}
    (isRow : entity.toRow? = some row) (executed : (ProductStatement.insert entity).execute db = .ok (reply, writes)) :
    db.categoryExists row.categoryId = true := by
  simp only [ProductStatement.execute, isRow] at executed
  split at executed
  next => cases executed
  next =>
    split at executed
    next => cases executed
    next =>
      split at executed
      next => cases executed
      next exist =>
        simp only [Bool.not_eq_false, Bool.and_eq_true] at exist
        exact exist.2

theorem refs_product {statement : ProductStatement} {reply : statement.Reply} (exist : db.RefsExist)
    (executed : statement.execute db = .ok (reply, writes)) :
    shop.WritesRefs RowKey.references db (shop.locksOf (.product statement) db writes) writes := by
  cases statement with
  | findOne | getManyAndCount | selectForUpdate | reselect =>
    rw [ProductStatement.execute_read rfl executed]
    exact refs_of_nil exist
  | insert entity =>
    obtain ⟨row, isRow, -, rfl⟩ := ProductStatement.execute_insert executed
    -- the category is checked and locked FOR KEY SHARE by the insert
    have isThere := categoryExists_of_insert isRow executed
    obtain ⟨-, -, sameCategory, -⟩ := ProductEntity.toRow?_eq_some isRow
    refine refs_put_product (fun c isCategory => .inr ⟨?_, ⟨.category c, .keyShare⟩, ?_, rfl⟩) exist
    · rw [isCategory] at isThere
      exact isThere
    · refine List.mem_append_left _ (List.mem_map.mpr ⟨.category c, List.mem_cons_of_mem _ ?_, rfl⟩)
      rw [← sameCategory, isCategory]
      exact List.mem_singleton_self _
  | update id changes now =>
    obtain ⟨-, rfl⟩ | ⟨row, next, found, applied, isThere, rfl⟩ := ProductStatement.execute_update executed
    · exact refs_of_nil exist
    · obtain ⟨sameId, -, category, -⟩ := ProductChanges.applyTo?_eq_some applied
      refine refs_put_product (fun c isCategory => ?_) exist
      rw [category] at isCategory
      cases isChanged : changes.categoryId with
      | none =>
        rw [isChanged] at isCategory
        -- an update that keeps the category keeps a reference that held
        exact .inl ⟨row, by rw [sameId, Table.key_of_find found]; exact found, isCategory⟩
      | some given =>
        rw [isChanged] at isCategory isThere
        obtain rfl : given = some c := isCategory
        refine .inr ⟨isThere, ⟨.category c, .keyShare⟩, List.mem_append_left _ ?_, rfl⟩
        change _ ∈ referenceLocks ((changes.categoryId.join.map RowKey.category).toList)
        rw [isChanged]
        exact List.mem_singleton_self _
  | increment id storeId quantity now =>
    obtain ⟨-, -, rfl⟩ | ⟨row, found, -, rfl⟩ := ProductStatement.execute_increment executed
    · exact refs_of_nil exist
    · obtain ⟨present, rfl, -⟩ := Database.findProduct_eq_some found
      exact refs_put_product (fun c isCategory => .inl ⟨row, present, isCategory⟩) exist
  | delete id =>
    obtain ⟨-, rfl⟩ | ⟨row, found, rfl⟩ := ProductStatement.execute_delete executed
    · exact refs_of_nil exist
    -- ON DELETE SET NULL clears every reference to the product
    · exact refs_delete_product exist

theorem refs_category {statement : CategoryStatement} {reply : statement.Reply} (exist : db.RefsExist)
    (executed : statement.execute db = .ok (reply, writes)) :
    shop.WritesRefs RowKey.references db (shop.locksOf (.category statement) db writes) writes := by
  cases statement with
  | findOne | find | reselect =>
    rw [CategoryStatement.execute_read rfl executed]
    exact refs_of_nil exist
  | insert entity =>
    simp only [CategoryStatement.execute] at executed
    split at executed
    next => cases executed
    next =>
      split at executed
      next => cases executed
      next =>
        split at executed
        next => cases executed
        next => cases executed; exact refs_put_category exist
  | update id name now =>
    simp only [CategoryStatement.execute] at executed
    split at executed
    next => cases executed; exact refs_of_nil exist
    next => cases executed
    next => cases executed; exact refs_put_category exist
  | delete id =>
    simp only [CategoryStatement.execute] at executed
    split at executed
    next => cases executed; exact refs_of_nil exist
    next => cases executed; exact refs_delete_category exist

theorem refs_order {statement : OrderStatement} {reply : statement.Reply} (exist : db.RefsExist)
    (executed : statement.execute db = .ok (reply, writes)) :
    shop.WritesRefs RowKey.references db (shop.locksOf (.order statement) db writes) writes := by
  cases statement with
  | findOne | getMany | getCount | reselect =>
    rw [OrderStatement.execute_read rfl executed]
    exact refs_of_nil exist
  | insert row =>
    obtain ⟨-, rfl⟩ := OrderStatement.execute_insert executed
    exact refs_put_order exist
  | insertItems rows =>
    obtain ⟨checked, rfl⟩ := OrderStatement.execute_insertItems executed
    refine Engine.writesRefs_of_puts exist (fun write made => ?_) fun write made stored isStored target isRef => .inr ?_
    · obtain ⟨row, -, rfl⟩ := List.mem_map.mp made
      rfl
    · obtain ⟨row, present, rfl⟩ := List.mem_map.mp made
      cases isStored
      obtain ⟨-, orderExists, productExists⟩ := Database.checkItem_ok ((Database.checkItems_ok checked).2 row present)
      -- the order and the product of an item are locked by the insert of the item
      have locked (inReferences : target ∈ .order row.orderId :: (row.productId.map RowKey.product).toList) :
          ∃ lock ∈ shop.locksOf (.order (.insertItems rows)) db (rows.map fun row => .orderItem (.put row)),
            lock.key = target :=
        ⟨⟨target, .keyShare⟩, List.mem_append_left _ (List.mem_map_of_mem
          (List.mem_flatMap.mpr ⟨row, present, inReferences⟩)), rfl⟩
      refine ⟨?_, locked isRef⟩
      obtain rfl | ⟨p, isProduct, rfl⟩ := mem_references_orderItem.mp isRef
      · exact orderExists
      · rw [isProduct] at productExists
        exact productExists
  | updateStatus id status now =>
    obtain ⟨-, rfl⟩ | ⟨row, -, rfl⟩ := OrderStatement.execute_updateStatus executed
    · exact refs_of_nil exist
    · exact refs_put_order exist
  | updateItemProduct id productId =>
    simp only [OrderStatement.execute] at executed
    split at executed
    next => cases executed; exact refs_of_nil exist
    next item found =>
      split at executed
      next productExists =>
        cases executed
        have isItem : item.id = id := Table.key_of_find found
        refine Engine.writesRefs_of_puts exist (List.forall_mem_singleton.mpr rfl) (List.forall_mem_singleton.mpr ?_)
        intro stored isStored target isRef
        cases isStored
        rcases List.mem_cons.mp isRef with rfl | isProduct
        · exact .inl ⟨item, by rw [← isItem] at found; exact found, List.mem_cons_self⟩
        · obtain ⟨p, rfl, rfl⟩ := Option.map_eq_some_iff.mp (Option.mem_toList.mp isProduct)
          exact .inr ⟨productExists, ⟨.product p, .keyShare⟩, List.mem_append_left _ (List.mem_singleton_self _), rfl⟩
      next => cases executed

/-- The foreign keys hold after every statement, as far as it sees. -/
theorem keepsForeignKeys : shop.KeepsForeignKeys RowKey.references := by
  intro op view reply writes exist executed
  -- the other tables have no part in these references
  have apart (elsewhere : ∀ write ∈ writes, (∃ change, write = .outboxEvent change) ∨ (∃ change, write = .user change) ∨
      (∃ change, write = .subscription change) ∨ (∃ change, write = .webhookEvent change) ∨
      (∃ change, write = .idempotencyRecord change) ∨ (∃ change, write = .store change) ∨
      ∃ change, write = .auditLog change) :
      shop.WritesRefs RowKey.references view (shop.locksOf op view writes) writes := by
    refine Engine.writesRefs_of_apart exist (fun write made row => ?_) fun write made key row isRef => ?_
    · rcases elsewhere write made with
        ⟨_, rfl⟩ | ⟨_, rfl⟩ | ⟨_, rfl⟩ | ⟨_, rfl⟩ | ⟨_, rfl⟩ | ⟨_, rfl⟩ | ⟨_, rfl⟩ <;> rfl
    · have target : (∃ c, shop.keyOf write = .category c) ∨ (∃ o, shop.keyOf write = .order o) ∨
          ∃ p, shop.keyOf write = .product p := by
        cases key with
        | product id =>
          obtain ⟨c, -, same⟩ := Option.map_eq_some_iff.mp (Option.mem_toList.mp isRef)
          exact .inl ⟨c, same.symm⟩
        | orderItem id =>
          rcases List.mem_cons.mp isRef with same | isProduct
          · exact .inr (.inl ⟨_, same⟩)
          · obtain ⟨p, -, same⟩ := Option.map_eq_some_iff.mp (Option.mem_toList.mp isProduct)
            exact .inr (.inr ⟨p, same.symm⟩)
        | _ => cases isRef
      rcases elsewhere write made with
        ⟨_, rfl⟩ | ⟨_, rfl⟩ | ⟨_, rfl⟩ | ⟨_, rfl⟩ | ⟨_, rfl⟩ | ⟨_, rfl⟩ | ⟨_, rfl⟩ <;>
        rcases target with ⟨_, same⟩ | ⟨_, same⟩ | ⟨_, same⟩ <;> cases same
  cases op with
  | setCurrentStore | enqueueMail => cases executed; exact refs_of_nil exist
  | product statement => exact refs_product exist executed
  | category statement => exact refs_category exist executed
  | order statement => exact refs_order exist executed
  | outbox statement => exact apart fun write made => .inl (statement.execute_writes executed write made)
  | user statement => exact apart fun write made => .inr (.inl (statement.execute_writes executed write made))
  | billing statement =>
    exact apart fun write made => .inr (.inr ((statement.execute_writes executed write made).imp_right .inl))
  | idempotency statement =>
    exact apart fun write made => .inr (.inr (.inr (.inr (.inl (statement.execute_writes executed write made)))))
  | store statement =>
    refine apart fun write made => ?_
    obtain isStore | isSubscription | isUser := statement.execute_writes executed write made
    · exact .inr (.inr (.inr (.inr (.inr (.inl isStore)))))
    · exact .inr (.inr (.inl isSubscription))
    · exact .inr (.inl isUser)
  | audit statement =>
    exact apart fun write made => .inr (.inr (.inr (.inr (.inr (.inr (statement.execute_writes executed write made))))))

end Statements

end StoreSaas
