import StoreSaas.Verified.References
import StoreSaas.Verified.ServiceStatements
import StoreSaas.Verified.StockMoves

/-! # What a `PATCH` of a product changes

`save` writes the columns in which the entity differs from its row, so a column stays as
long as the dto leaves its field alone.  The dto is no copy of the body: a field with an
initializer is there in every body, and `stock` has one (`keepsOthers_iff`).
-/

namespace StoreSaas

/-! ## Saving an entity -/

/-- `next` is `row` with the columns that `save` sets from the entity. -/
structure SavedAs (entity : ProductEntity) (row next : Product) : Prop where
  id : next.id = row.id
  storeId : next.storeId = row.storeId
  categoryId : next.categoryId = entity.joinCategoryId
  name : some next.name = entity.name
  description : next.description = entity.description
  price : some next.price = entity.price
  stock : some next.stock = entity.stock
  imageUrl : next.imageUrl = entity.imageUrl

theorem eq_of_changed_eq_none {α : Type} [DecidableEq α] {inMemory inRow : α} (same : changed inMemory inRow = none) :
    inRow = inMemory := by
  have stored := changed_getD inMemory inRow
  rwa [same] at stored

theorem savedAs_of_unchanged {entity : ProductEntity} {row : Product} (unchanged : entity.changes row = .unchanged) :
    SavedAs entity row row where
  id := rfl
  storeId := rfl
  categoryId := eq_of_changed_eq_none (congrArg ProductChanges.categoryId unchanged)
  name := eq_of_changed_eq_none (congrArg ProductChanges.name unchanged)
  description := eq_of_changed_eq_none (congrArg ProductChanges.description unchanged)
  price := eq_of_changed_eq_none (congrArg ProductChanges.price unchanged)
  stock := eq_of_changed_eq_none (congrArg ProductChanges.stock unchanged)
  imageUrl := eq_of_changed_eq_none (congrArg ProductChanges.imageUrl unchanged)

theorem savedAs_of_applyTo? {entity : ProductEntity} {row next : Product} {now : Timestamp}
    (applied : (entity.changes row).applyTo? row now = some next) : SavedAs entity row next := by
  simp only [ProductChanges.applyTo?, ProductEntity.changes, changed_getD] at applied
  split at applied
  next name price stock isName isPrice isStock =>
    cases applied
    exact ⟨rfl, rfl, rfl, isName.symm, rfl, isPrice.symm, isStock.symm, rfl⟩
  next => cases applied

/-- `save` of an entity whose row is still there. -/
theorem ensures_saveProduct (env : Environment) (entity : ProductEntity) {db : Database} {row : Product}
    (present : db.products.find entity.id = some row) :
    Program.Ensures shop.executeOn (ProductsService.save env entity) db fun _ after =>
      ∃ next, after.products.find entity.id = some next ∧ SavedAs entity row next := by
  unfold ProductsService.save
  refine Program.ensures_perform_bind fun found after ran => ?_
  obtain ⟨writes, executed, rfl⟩ := Engine.executeOn_eq_ok ran
  obtain rfl : writes = [] := by cases executed; rfl
  obtain rfl : found = some row := (congrArg Prod.fst (Except.ok.inj executed)).symm.trans present
  rw [Engine.applyAll_nil]
  dsimp only
  split
  next unchanged => exact Program.ensures_done ⟨row, present, savedAs_of_unchanged unchanged⟩
  next =>
    refine Program.ensures_perform_bind fun reply after ran => ?_
    obtain ⟨writes, executed, rfl⟩ := Engine.executeOn_eq_ok ran
    obtain ⟨absent, -⟩ | ⟨stored, next, storedAt, applied, -, rfl⟩ := ProductStatement.execute_update executed
    · rw [absent] at present
      cases present
    · obtain rfl : stored = row := Option.some.inj (storedAt.symm.trans present)
      have saved := savedAs_of_applyTo? applied
      refine Program.ensures_done ⟨next, ?_, saved⟩
      rw [← Table.key_of_find present, ← saved.id]
      exact Table.find_put_same db.products next

/-! ## Updating a product -/

theorem ensures_findOneProduct (storeId id : Uuid) (db : Database) :
    Program.Ensures shop.executeOn (ProductsService.findOne storeId (some id)) db fun entity after =>
      after = db ∧ ∃ row, db.findProduct id storeId = some row ∧ entity = db.loadCategory row := by
  unfold ProductsService.findOne
  refine Program.ensures_perform_bind fun found after ran => ?_
  obtain ⟨writes, executed, rfl⟩ := Engine.executeOn_eq_ok ran
  cases executed
  split
  next entity isLoaded =>
    obtain ⟨row, isFound, rfl⟩ := Option.map_eq_some_iff.mp isLoaded
    exact Program.ensures_done ⟨rfl, row, isFound, rfl⟩
  next => exact Program.ensures_throw

theorem ensures_updateProduct (env : Environment) (storeId id : Uuid) (dto : UpdateProductDto) (db : Database) :
    Program.Ensures shop.executeOn (ProductsService.update env storeId (some id) dto) db fun _ after =>
      ∃ row next, db.products.find id = some row ∧ after.products.find id = some next ∧
        SavedAs (dto.assignTo (db.loadCategory row)) row next := by
  unfold ProductsService.update
  refine (ensures_findOneProduct storeId id db).bind fun product after found => ?_
  obtain ⟨rfl, row, isFound, rfl⟩ := found
  obtain ⟨present, rfl, -⟩ := Database.findProduct_eq_some isFound
  have reads : Program.Ensures shop.executeOn (ProductsService.requireCategory storeId dto.categoryId) after
      fun _ middle => middle = after := by
    intro _ final ran
    have unread := runWith_reads (only_requireCategory storeId dto.categoryId) after
    rwa [ran] at unread
  refine reads.bind fun _ middle same => ?_
  subst same
  refine (ensures_saveProduct env (dto.assignTo (middle.loadCategory row)) present).imp fun _ final saved => ?_
  obtain ⟨next, isNext, savedAs⟩ := saved
  exact ⟨row, next, present, isNext, savedAs⟩

/-! ## The columns that the body does not name -/

inductive ProductColumn where
  | id
  | storeId
  | categoryId
  | name
  | description
  | price
  | stock
  | imageUrl
  deriving DecidableEq, Repr

def ProductColumn.Same (before after : Product) : ProductColumn → Prop
  | .id => after.id = before.id
  | .storeId => after.storeId = before.storeId
  | .categoryId => after.categoryId = before.categoryId
  | .name => after.name = before.name
  | .description => after.description = before.description
  | .price => after.price = before.price
  | .stock => after.stock = before.stock
  | .imageUrl => after.imageUrl = before.imageUrl

def Field.isKey {α : Type} : Field α → Bool
  | .undefined => false
  | .null | .value _ => true

/-- The body has a key for the column's field. -/
def PatchProductBody.hasKey (body : PatchProductBody) : ProductColumn → Bool
  | .id => body.otherKeys.contains "id"
  | .storeId => body.otherKeys.contains "storeId"
  | .categoryId => body.categoryId.isKey
  | .name => body.name.isKey
  | .description => body.description.isKey
  | .price => body.price.isKey
  | .stock => body.stock.isKey
  | .imageUrl => body.otherKeys.contains "imageUrl"

theorem Field.eq_undefined {α : Type} {field : Field α} (noKey : field.isKey = false) : field = .undefined := by
  cases field with
  | undefined => rfl
  | null | value => cases noKey

/-- Loading the category does not change what its column is saved as. -/
theorem joinCategoryId_loadCategory (db : Database) (row : Product) :
    (db.loadCategory row).joinCategoryId = row.categoryId := by
  simp only [ProductEntity.joinCategoryId, Database.loadCategory, Product.toEntity]
  cases isCategory : row.categoryId with
  | none => rfl
  | some categoryId =>
    simp only [Option.bind_some]
    cases found : db.categories.find categoryId with
    | none => rfl
    | some category => exact congrArg some (Table.key_of_find found)

/-- All columns but `stock` are left alone by a body that does not name them. -/
theorem same_of_hasKey {db : Database} {row next : Product} {body : PatchProductBody}
    (saved : SavedAs ((ValidationPipe.transform body).assignTo (db.loadCategory row)) row next) {column : ProductColumn}
    (isOther : column ≠ .stock) (noKey : body.hasKey column = false) : column.Same row next := by
  cases column with
  | id => exact saved.id
  | storeId => exact saved.storeId
  | imageUrl => exact saved.imageUrl
  | stock => exact absurd rfl isOther
  | categoryId =>
    have absent : body.categoryId = .undefined := Field.eq_undefined noKey
    refine saved.categoryId.trans (Eq.trans ?_ (joinCategoryId_loadCategory db row))
    simp only [ProductEntity.joinCategoryId, UpdateProductDto.assignTo, ValidationPipe.transform, absent]
    rfl
  | name =>
    have absent : body.name = .undefined := Field.eq_undefined noKey
    have stored := saved.name
    simp only [UpdateProductDto.assignTo, ValidationPipe.transform, absent] at stored
    exact Option.some.inj stored
  | description =>
    have absent : body.description = .undefined := Field.eq_undefined noKey
    have stored := saved.description
    simp only [UpdateProductDto.assignTo, ValidationPipe.transform, absent] at stored
    exact stored
  | price =>
    have absent : body.price = .undefined := Field.eq_undefined noKey
    have stored := saved.price
    simp only [UpdateProductDto.assignTo, ValidationPipe.transform, absent] at stored
    exact Option.some.inj stored

/-- Without a key for it, the stock is set to what the class starts with. -/
theorem stock_of_hasKey {db : Database} {row next : Product} {body : PatchProductBody}
    (saved : SavedAs ((ValidationPipe.transform body).assignTo (db.loadCategory row)) row next)
    (noKey : body.hasKey .stock = false) : next.stock = 0 := by
  have absent : body.stock = .undefined := Field.eq_undefined noKey
  have stored := saved.stock
  simp only [UpdateProductDto.assignTo, ValidationPipe.transform, absent] at stored
  exact Option.some.inj stored

/-- Every column whose field is not a key of the body is as it was. -/
def KeepsOthers (body : PatchProductBody) (id : Uuid) (before after : Database) : Prop :=
  ∀ row, before.products.find id = some row →
    ∃ next, after.products.find id = some next ∧ ∀ column, body.hasKey column = false → column.Same row next

theorem keepsOthers_iff {env : Environment} {storeId id : Uuid} {body : PatchProductBody} {db after : Database}
    {entity : ProductEntity}
    (served : serve storeId (ProductsController.update env storeId (some id) body) db = (.ok entity, after)) :
    KeepsOthers body id db after ↔ body.hasKey .stock = true ∨ db.stockOf id = 0 := by
  rw [serve_eq_transact] at served
  obtain ⟨row, next, present, isNext, saved⟩ :=
    ensures_updateProduct env storeId id (ValidationPipe.transform body) db _ _ (Engine.transact_eq_ok served)
  have isStock : db.stockOf id = row.stock := by
    rw [Database.stockOf, present, Option.map_some, Option.getD_some]
  rw [isStock]
  constructor
  · intro keeps
    cases noKey : body.hasKey .stock with
    | true => exact .inl rfl
    | false =>
      obtain ⟨stored, isStored, same⟩ := keeps row present
      obtain rfl : stored = next := Option.some.inj (isStored.symm.trans isNext)
      have unchanged : stored.stock = row.stock := same .stock noKey
      exact .inr (unchanged.symm.trans (stock_of_hasKey saved noKey))
  · rintro condition other isOther
    obtain rfl : other = row := Option.some.inj (isOther.symm.trans present)
    refine ⟨next, isNext, fun column noKey => ?_⟩
    by_cases isStockColumn : column = .stock
    · subst isStockColumn
      have wasZero : other.stock = 0 := condition.resolve_left (by simp [noKey])
      exact (stock_of_hasKey saved noKey).trans wasZero.symm
    · exact same_of_hasKey saved isStockColumn noKey

/-! ## The tea of the small shop -/

namespace SmallShop

/-- The clock and the ids of one call. -/
def patchEnvironment : Environment := ⟨7, fun position => BitVec.ofNat 128 (100 + position), fun _ => 0⟩

/-- What the form of the web application sends for a product without description and category. -/
def formBody : PatchProductBody := ⟨.value "Green tea", .undefined, .value 450, .value 3, .undefined, []⟩

/-- Another name, and nothing else. -/
def renameBody : PatchProductBody := ⟨.value "Green tea", .undefined, .undefined, .undefined, .undefined, []⟩

def patched (body : PatchProductBody) : Except ApiError ProductEntity × Database :=
  serve 1 (ProductsController.update patchEnvironment 1 (some 2) body) db

end SmallShop

theorem keepsOthers_smallShop : ∃ entity, (SmallShop.patched SmallShop.formBody).1 = .ok entity ∧
    KeepsOthers SmallShop.formBody 2 SmallShop.db (SmallShop.patched SmallShop.formBody).2 := by
  have updated : (SmallShop.patched SmallShop.formBody).1 =
      .ok ⟨2, 1, none, some "Green tea", none, some 450, some 3, none, 0, 7, none⟩ := by decide +kernel
  exact ⟨_, updated, (keepsOthers_iff (Prod.ext updated rfl)).mpr (.inl rfl)⟩

/-- A new name alone sets the stock of three to zero. -/
theorem not_keepsOthers : ∃ entity, (SmallShop.patched SmallShop.renameBody).1 = .ok entity ∧
    ¬ KeepsOthers SmallShop.renameBody 2 SmallShop.db (SmallShop.patched SmallShop.renameBody).2 := by
  have updated : (SmallShop.patched SmallShop.renameBody).1 =
      .ok ⟨2, 1, none, some "Green tea", none, some 450, some 0, none, 0, 7, none⟩ := by decide +kernel
  refine ⟨_, updated, fun keeps => ?_⟩
  obtain ⟨next, isNext, same⟩ := keeps SmallShop.product rfl
  have emptied : (SmallShop.patched SmallShop.renameBody).2.stockOf 2 = 0 := by decide +kernel
  rw [Database.stockOf, isNext] at emptied
  have kept : next.stock = 3 := same .stock rfl
  rw [Option.map_some, Option.getD_some, kept] at emptied
  cases emptied

end StoreSaas
