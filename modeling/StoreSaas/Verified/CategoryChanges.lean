import StoreSaas.Verified.PatchedColumns
import StoreSaas.Verified.WrittenTables

/-! # Whether a category change is stored

The entity that an update assigns to was loaded with its category, and `save` takes the join
column from that object wherever there is one.
-/

namespace StoreSaas

/-- The category that the body asks for, if it has the field: one, or none at all. -/
def UpdateProductDto.askedCategory (dto : UpdateProductDto) : Option (Option Uuid) :=
  match dto.categoryId with
  | .undefined => none
  | .null => some none
  | .value categoryId => some (some categoryId)

/-- `findOne` shows the product with that category, as a column and as an object, or without one. -/
def ShowsCategory (storeId id : Uuid) (asked : Option Uuid) (db : Database) : Prop :=
  ∃ found, ((ProductsService.findOne storeId (some id)).runWith shop.executeOn db).1 = .ok found ∧
    found.categoryId = asked ∧ found.category.map Category.id = asked ∧ found.category = asked.bind db.categories.find

/-- The product had no category loaded, or the one that is asked for. -/
def KeepsLoadedCategory (id : Uuid) (asked : Option Uuid) (db : Database) : Prop :=
  ∀ row category, db.products.find id = some row → (db.loadCategory row).category = some category →
    asked = some category.id

/-! ## The update -/

section

variable {storeId id : Uuid} {dto : UpdateProductDto} {db : Database}

/-- An assigned `categoryId` becomes the join column only where no category is loaded. -/
theorem joinCategoryId_assignTo {asked : Option Uuid} (asks : dto.askedCategory = some asked) (product : ProductEntity) :
    (dto.assignTo product).joinCategoryId = (product.category.map Category.id).or asked := by
  have assigned : dto.categoryId.assign product.categoryId = asked := by
    unfold UpdateProductDto.askedCategory at asks
    cases isField : dto.categoryId with
    | undefined => rw [isField] at asks; cases asks
    | null => rw [isField] at asks; exact Option.some.inj asks
    | value => rw [isField] at asks; exact Option.some.inj asks
  unfold ProductEntity.joinCategoryId UpdateProductDto.assignTo
  rw [assigned]
  cases product.category <;> rfl

theorem sparesCategories_of_isRead {op : Statement} (reads : op.isRead = true) : op.writesTo .categories = false := by
  cases op with
  | category statement => cases statement <;> first | rfl | cases reads
  | product statement => cases statement <;> rfl
  | order statement => cases statement <;> rfl
  | outbox statement => cases statement <;> rfl
  | setCurrentStore | enqueueMail | user | billing | idempotency | store | audit => rfl

theorem ensures_findOneCategory (categoryId : Uuid) :
    Program.Ensures shop.executeOn (CategoriesService.findOne storeId (some categoryId)) db fun _ after =>
      after = db ∧ ∃ category, db.categories.find categoryId = some category := by
  unfold CategoriesService.findOne
  refine Program.ensures_perform_bind fun found after ran => ?_
  obtain ⟨writes, executed, rfl⟩ := Engine.executeOn_eq_ok ran
  cases executed
  split
  next entity isLoaded =>
    exact Program.ensures_done ⟨rfl, entity, (Option.filter_eq_some_iff.mp isLoaded).1⟩
  next => exact Program.ensures_throw

/-- The category of a body exists by the time the product is saved. -/
theorem ensures_requireCategory (categoryId : Field Uuid) :
    Program.Ensures shop.executeOn (ProductsService.requireCategory storeId categoryId) db fun _ after =>
      after = db ∧ ∀ asked, categoryId = .value asked → ∃ category, db.categories.find asked = some category := by
  cases categoryId with
  | undefined | null => exact Program.ensures_done ⟨rfl, nofun⟩
  | value asked =>
    refine (ensures_findOneCategory asked).bind fun _ after ⟨same, exist⟩ => Program.ensures_done ⟨same, ?_⟩
    rintro _ ⟨⟩
    exact exist

theorem ensures_update_exists (env : Environment) :
    Program.Ensures shop.executeOn (ProductsService.update env storeId (some id) dto) db fun _ _ =>
      (∃ row, db.findProduct id storeId = some row) ∧
        ∀ asked, dto.categoryId = .value asked → ∃ category, db.categories.find asked = some category := by
  refine (ensures_findOneProduct storeId id db).bind fun product after ⟨same, row, isFound, _⟩ => ?_
  subst same
  refine (ensures_requireCategory dto.categoryId).bind fun _ middle ⟨_, exist⟩ => ?_
  exact fun _ _ _ => ⟨⟨row, isFound⟩, exist⟩

/-- An update of a product leaves the categories alone. -/
theorem categories_update (env : Environment) (categoryId : Uuid) :
    ((ProductsService.update env storeId (some id) dto).runWith shop.executeOn db).2.categories.find categoryId =
      db.categories.find categoryId := by
  have spares : (ProductsService.update env storeId (some id) dto).Only fun op : Statement =>
      op.writesTo .categories = false := by
    refine ((only_findOneProduct storeId (some id)).imp fun _ => sparesCategories_of_isRead).bind fun product => ?_
    refine ((only_requireCategory storeId dto.categoryId).imp fun _ => sparesCategories_of_isRead).bind fun _ => ?_
    exact (only_saveProduct_saves env _).imp fun op saves => by cases saves <;> rfl
  have keeps (op : Statement) (state : Database) (isSpared : op.writesTo .categories = false)
      (same : state.row (.category categoryId) = db.row (.category categoryId)) :
      (shop.executeOn op state).2.row (.category categoryId) = db.row (.category categoryId) :=
    (row_executeOn_of_table (.category categoryId) isSpared).trans same
  exact Program.runWith_of_only shop.executeOn spares keeps rfl

theorem categories_of_updated {env : Environment} {entity : ProductEntity} {after : Database}
    (updated : (ProductsService.update env storeId (some id) dto).runWith shop.executeOn db = (.ok entity, after)) :
    after.categories.find = db.categories.find := by
  funext categoryId
  have same : ((ProductsService.update env storeId (some id) dto).runWith shop.executeOn db).2.categories.find
      categoryId = db.categories.find categoryId := categories_update env categoryId
  rwa [updated] at same

/-! ## What a later `findOne` shows -/

theorem runWith_findOne {row : Product} (found : db.findProduct id storeId = some row) :
    (ProductsService.findOne storeId (some id)).runWith shop.executeOn db = (.ok (db.loadCategory row), db) := by
  have executed : shop.execute (.product (.findOne (some id) storeId)) db = .ok (some (db.loadCategory row), []) := by
    change ProductStatement.execute (.findOne (some id) storeId) db = _
    rw [ProductStatement.execute, found]
    rfl
  have ran : shop.executeOn (.product (.findOne (some id) storeId)) db = (.ok (some (db.loadCategory row)), db) := by
    unfold Engine.executeOn
    rw [executed]
    rfl
  exact Program.runWith_perform_ok shop.executeOn ran

/-- The join column is what a later `findOne` shows, so far as its category exists. -/
theorem showsCategory_of_row {asked : Option Uuid} {row : Product} (found : db.findProduct id storeId = some row)
    (exist : ∀ categoryId, asked = some categoryId → ∃ category, db.categories.find categoryId = some category) :
    ShowsCategory storeId id asked db ↔ row.categoryId = asked := by
  unfold ShowsCategory
  rw [runWith_findOne found]
  constructor
  · rintro ⟨_, ⟨⟩, isAsked, -⟩
    exact isAsked
  · rintro rfl
    refine ⟨_, rfl, rfl, ?_, rfl⟩
    change (row.categoryId.bind db.categories.find).map Category.id = row.categoryId
    cases isCategory : row.categoryId with
    | none => rfl
    | some categoryId =>
      obtain ⟨category, isFound⟩ := exist categoryId isCategory
      rw [Option.bind_some, isFound, Option.map_some, Table.key_of_find isFound]

/-- A category change is stored exactly if no other category was loaded with the product. -/
theorem showsCategory_iff {env : Environment} {asked : Option Uuid} {entity : ProductEntity} {after : Database}
    (asks : dto.askedCategory = some asked)
    (updated : (ProductsService.update env storeId (some id) dto).runWith shop.executeOn db = (.ok entity, after)) :
    ShowsCategory storeId id asked after ↔ KeepsLoadedCategory id asked db := by
  obtain ⟨row, next, present, isNext, saved⟩ := ensures_updateProduct env storeId id dto db _ _ updated
  obtain ⟨⟨stored, isFound⟩, exist⟩ := ensures_update_exists env _ _ updated
  obtain ⟨isStored, -, inStore⟩ := Database.findProduct_eq_some isFound
  obtain rfl : stored = row := Option.some.inj (isStored.symm.trans present)
  have categories := categories_of_updated updated
  have found : after.findProduct id storeId = some next := by
    rw [Database.findProduct, isNext, Option.filter_some, saved.storeId, inStore]
    simp
  have askedExists (categoryId : Uuid) (isAsked : asked = some categoryId) :
      ∃ category, after.categories.find categoryId = some category := by
    rw [categories]
    refine exist categoryId ?_
    subst isAsked
    unfold UpdateProductDto.askedCategory at asks
    cases isField : dto.categoryId with
    | undefined | null => rw [isField] at asks; cases asks
    | value given => rw [isField] at asks; cases asks; rfl
  rw [showsCategory_of_row found askedExists, saved.categoryId, joinCategoryId_assignTo asks]
  constructor
  · intro isAsked other category isOther isLoaded
    obtain rfl : other = stored := Option.some.inj (isOther.symm.trans present)
    rw [isLoaded] at isAsked
    exact isAsked.symm
  · intro keeps
    cases isLoaded : (db.loadCategory stored).category with
    | none => rfl
    | some category => exact (keeps stored category present isLoaded).symm

end

/-! ## The tea among the drinks -/

namespace SmallShop

def drinks : Category := ⟨6, 1, "Drinks", 0, 0⟩
def pantry : Category := ⟨7, 1, "Pantry", 0, 0⟩

/-- The small shop with two categories, and the tea in the given one. -/
def shelved (categoryId : Option Uuid) : Database :=
  { db with
    categories := ⟨[drinks, pantry], by decide⟩
    products := ⟨[{ product with categoryId }], List.nodup_singleton _⟩ }

/-- A body with the category and the stock there is, as it reaches the service. -/
def moveTo (categoryId : Field Uuid) : UpdateProductDto :=
  ValidationPipe.transform ⟨.undefined, .undefined, .undefined, .value 3, categoryId, []⟩

def moved (before : Option Uuid) (categoryId : Field Uuid) : Except ApiError ProductEntity × Database :=
  (ProductsService.update patchEnvironment 1 (some 2) (moveTo categoryId)).runWith shop.executeOn (shelved before)

end SmallShop

theorem showsCategory_uncategorised : ShowsCategory 1 2 (some 6) (SmallShop.moved none (.value 6)).2 := by
  have updated : (SmallShop.moved none (.value 6)).1 =
      .ok ⟨2, 1, some 6, some "Tea", none, some 450, some 3, none, 0, 7, none⟩ := by decide +kernel
  have asks : (SmallShop.moveTo (.value 6)).askedCategory = some (some 6) := rfl
  refine (showsCategory_iff asks (Prod.ext updated rfl)).mpr ?_
  intro row category present isLoaded
  cases present
  cases isLoaded

/-- Tea among the drinks stays there, whether it is moved to the pantry or out of every category. -/
theorem not_showsCategory :
    (∃ entity, (SmallShop.moved (some 6) (.value 7)).1 = .ok entity) ∧
      ¬ ShowsCategory 1 2 (some 7) (SmallShop.moved (some 6) (.value 7)).2 ∧
      (∃ entity, (SmallShop.moved (some 6) .null).1 = .ok entity) ∧
      ¬ ShowsCategory 1 2 none (SmallShop.moved (some 6) .null).2 := by
  have toPantry : (SmallShop.moved (some 6) (.value 7)).2.findProduct 2 1 = some
      { SmallShop.product with categoryId := some 6 } := by decide +kernel
  have toNone : (SmallShop.moved (some 6) .null).2.findProduct 2 1 = some
      { SmallShop.product with categoryId := some 6 } := by decide +kernel
  refine ⟨⟨_, rfl⟩, ?_, ⟨_, rfl⟩, ?_⟩
  · rintro ⟨_, shown, isAsked, -⟩
    rw [runWith_findOne toPantry] at shown
    cases shown
    exact absurd isAsked (by decide)
  · rintro ⟨_, shown, isAsked, -⟩
    rw [runWith_findOne toNone] at shown
    cases shown
    cases isAsked

end StoreSaas
