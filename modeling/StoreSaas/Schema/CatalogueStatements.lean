import Mathlib.Data.List.Sort
import StoreSaas.Library.ReadCommitted
import StoreSaas.Schema.Database

/-! # Statements on `products` and `categories`

What each statement of `ProductsService`, `CategoriesService` and `OrdersService`
on these two tables replies and writes, with the constraints of the migrations:
primary keys, `NOT NULL`, the ranges of `integer` and `numeric(10,2)`, and the
foreign keys with their `ON DELETE SET NULL`.
-/

namespace StoreSaas

/-- The `:id` of a route, as Postgres reads it: `none` for text that is no UUID. -/
abbrev RouteId := Option Uuid

/-- A field of a validated body: absent, `null`, or a value. -/
inductive Field (α : Type) where
  | undefined
  | null
  | value (given : α)
  deriving DecidableEq, Repr

/-! ## Column ranges -/

def fitsInteger (value : Int) : Bool := decide (-2147483648 ≤ value ∧ value ≤ 2147483647)

/-- Below 10^8 in absolute value, counted in hundredths. -/
def fitsNumeric (value : Cents) : Bool := decide (-9999999999 ≤ value ∧ value ≤ 9999999999)

def Product.fitsColumns (row : Product) : Bool := fitsInteger row.stock && fitsNumeric row.price

/-! ## The order of rows -/

/-- `ORDER BY created_at DESC`; `rank` decides between rows that this leaves equal. -/
def newestFirst {Row : Type} (createdAt : Row → Timestamp) (id : Row → Uuid) (rank : Uuid → Nat)
    (rows : List Row) : List Row :=
  rows.insertionSort fun left right =>
    createdAt right < createdAt left ∨ (createdAt left = createdAt right ∧ rank (id left) ≤ rank (id right))

/-- `ORDER BY name ASC`, by code points; `rank` decides between equal names. -/
def byName {Row : Type} (name : Row → String) (id : Row → Uuid) (rank : Uuid → Nat) (rows : List Row) :
    List Row :=
  rows.insertionSort fun left right =>
    (name left).toList.map Char.toNat < (name right).toList.map Char.toNat ∨
      (name left = name right ∧ rank (id left) ≤ rank (id right))

/-! ## Pages -/

/-- The nearest double, the even one of two; past the largest one it is 2^1024, for `Infinity`. -/
def nearestDouble (value : Nat) : Nat :=
  let spacing := 2 ^ (value.log2 - 52)
  let below := value / spacing
  if 2 * (value % spacing) < spacing ∨ (2 * (value % spacing) = spacing ∧ below % 2 = 0) then below * spacing
  else (below + 1) * spacing

/-- `(page - 1) * limit`, in the arithmetic of `number`. -/
def offsetOf (page limit : Nat) : Nat := nearestDouble (nearestDouble (nearestDouble page - 1) * limit)

/-- `OFFSET` takes a `bigint`, and `Infinity` for a column. -/
def checkOffset (page limit : Nat) : Except ApiError Unit :=
  if offsetOf page limit < 2 ^ 63 then .ok ()
  else if offsetOf page limit < 2 ^ 1024 then .error .numericValueOutOfRange
  else .error .undefinedColumn

/-- The rows behind the `OFFSET`, which is exact as far as there are rows: no table has 2^53. -/
def pageOf {Row : Type} (page limit : Nat) (rows : List Row) : List Row :=
  (rows.drop ((page - 1) * limit)).take limit

/-- A page of rows that are joined with others: TypeORM first takes its ids, by `created_at` and primary key, then reads
    the rows of these ids, by `created_at` alone. -/
def joinedPageOf {Row : Type} (createdAt : Row → Timestamp) (id : Row → Uuid) (rank : Uuid → Nat) (page limit : Nat)
    (rows : List Row) : List Row :=
  newestFirst createdAt id rank (pageOf page limit (newestFirst createdAt id (fun key => key.toNat) rows))

theorem mem_of_mem_pageOf {Row : Type} {page limit : Nat} {rows : List Row} {row : Row}
    (present : row ∈ pageOf page limit rows) : row ∈ rows :=
  List.mem_of_mem_drop (List.mem_of_mem_take present)

theorem mem_newestFirst {Row : Type} {createdAt : Row → Timestamp} {id : Row → Uuid} {rank : Uuid → Nat}
    {rows : List Row} {row : Row} : row ∈ newestFirst createdAt id rank rows ↔ row ∈ rows :=
  (List.perm_insertionSort _ rows).mem_iff

theorem mem_of_mem_joinedPageOf {Row : Type} {createdAt : Row → Timestamp} {id : Row → Uuid} {rank : Uuid → Nat}
    {page limit : Nat} {rows : List Row} {row : Row} (present : row ∈ joinedPageOf createdAt id rank page limit rows) :
    row ∈ rows :=
  mem_newestFirst.mp (mem_of_mem_pageOf (mem_newestFirst.mp present))

/-- A query that replies, once its parameters and its `OFFSET` are accepted. -/
def replyOnce {Reply : Type} (check : Except ApiError Unit) (reply : Reply) : Except ApiError (Reply × List DbWrite) :=
  check.map fun _ => (reply, [])

theorem replyOnce_eq_ok {Reply : Type} {check : Except ApiError Unit} {reply given : Reply} {writes : List DbWrite}
    (executed : replyOnce check reply = .ok (given, writes)) : check = .ok () ∧ given = reply ∧ writes = [] := by
  cases check with
  | ok => cases executed; exact ⟨rfl, rfl, rfl⟩
  | error error => cases executed

/-! ## `ILIKE` -/

/-- Whether a text matches a `LIKE` pattern: `%` any text, `_` any character, `\` takes the
    next character literally. -/
def likeMatches : List Char → List Char → Bool
  | [], text => text.isEmpty
  | '%' :: pattern, text => text.tails.any (likeMatches pattern)
  | '_' :: pattern, text => match text with
    | [] => false
    | _ :: rest => likeMatches pattern rest
  | '\\' :: literal :: pattern, text => match text with
    | [] => false
    | head :: rest => head == literal && likeMatches pattern rest
  | letter :: pattern, text => match text with
    | [] => false
    | head :: rest => head == letter && likeMatches pattern rest

def ilike (text pattern : String) : Bool :=
  likeMatches (pattern.toList.map Char.toLower) (text.toList.map Char.toLower)

/-! ## Products -/

/-- `QueryProductDto` -/
structure QueryProductDto where
  page : Option Nat
  limit : Option Nat
  search : Option String
  category : Option Uuid
  minPrice : Option Rat
  maxPrice : Option Rat
  deriving DecidableEq

/-- What Postgres checks of the query: no text has a NUL in it. -/
def QueryProductDto.check (query : QueryProductDto) : Except ApiError Unit :=
  if query.search.any fun search => search.toList.contains '\x00' then .error .characterNotInRepertoire
  else checkOffset (query.page.getD 1) (query.limit.getD 20)

/-- The `where` clauses of `ProductsService.findAll`; an empty `search` adds none. -/
def QueryProductDto.selects (query : QueryProductDto) (storeId : Uuid) (row : Product) : Bool :=
  decide (row.storeId = storeId) &&
  (match query.search with
    | some search => search.isEmpty || ilike row.name ("%" ++ search ++ "%")
    | none => true) &&
  (match query.category with
    | some category => decide (row.categoryId = some category)
    | none => true) &&
  (match query.minPrice with
    | some minPrice => decide (minPrice * 100 ≤ row.price)
    | none => true) &&
  (match query.maxPrice with
    | some maxPrice => decide (row.price ≤ maxPrice * 100)
    | none => true)

/-- The `SET` clause of the `UPDATE` that `save` issues: the columns that differ. -/
structure ProductChanges where
  categoryId : Option (Option Uuid)
  name : Option (Option String)
  description : Option (Option String)
  price : Option (Option Cents)
  stock : Option (Option Int)
  imageUrl : Option (Option String)
  deriving DecidableEq

def changed {α : Type} [DecidableEq α] (inMemory inRow : α) : Option α :=
  if inMemory = inRow then none else some inMemory

theorem changed_getD {α : Type} [DecidableEq α] (inMemory inRow : α) :
    (changed inMemory inRow).getD inRow = inMemory := by
  unfold changed
  split
  next same => rw [Option.getD_none, same]
  next => rfl

/-- The join column of `category`: taken from the loaded relation when there is one. -/
def ProductEntity.joinCategoryId (entity : ProductEntity) : Option Uuid :=
  match entity.category with
  | some category => some category.id
  | none => entity.categoryId

def ProductEntity.changes (entity : ProductEntity) (row : Product) : ProductChanges where
  categoryId := changed entity.joinCategoryId row.categoryId
  name := changed entity.name (some row.name)
  description := changed entity.description row.description
  price := changed entity.price (some row.price)
  stock := changed entity.stock (some row.stock)
  imageUrl := changed entity.imageUrl row.imageUrl

def ProductChanges.unchanged : ProductChanges := ⟨none, none, none, none, none, none⟩

/-- The entity as a row, unless a `NOT NULL` column would be null. -/
def ProductEntity.toRow? (entity : ProductEntity) : Option Product :=
  match entity.name, entity.price, entity.stock with
  | some name, some price, some stock => some {
      id := entity.id
      storeId := entity.storeId
      categoryId := entity.joinCategoryId
      name := name
      description := entity.description
      price := price
      stock := stock
      imageUrl := entity.imageUrl
      createdAt := entity.createdAt
      updatedAt := entity.updatedAt }
  | _, _, _ => none

/-- The row after the `UPDATE`, unless a `NOT NULL` column would be null. -/
def ProductChanges.applyTo? (changes : ProductChanges) (row : Product) (now : Timestamp) : Option Product :=
  match changes.name.getD (some row.name), changes.price.getD (some row.price),
    changes.stock.getD (some row.stock) with
  | some name, some price, some stock => some { row with
      categoryId := changes.categoryId.getD row.categoryId
      name := name
      description := changes.description.getD row.description
      price := price
      stock := stock
      imageUrl := changes.imageUrl.getD row.imageUrl
      updatedAt := now }
  | _, _, _ => none

inductive ProductStatement where
  | findOne (id : RouteId) (storeId : Uuid)
  | getManyAndCount (storeId : Uuid) (query : QueryProductDto) (rank : Uuid → Nat)
  | selectForUpdate (id storeId : Uuid)
  /-- The `SELECT` by primary key with which `save` starts. -/
  | reselect (entity : ProductEntity)
  | insert (entity : ProductEntity)
  | update (id : Uuid) (changes : ProductChanges) (now : Timestamp)
  | increment (id storeId : Uuid) (quantity : Nat) (now : Timestamp)
  | delete (id : Uuid)

namespace ProductStatement

def Reply : ProductStatement → Type
  | .findOne _ _ => Option ProductEntity
  | .getManyAndCount _ _ _ => List ProductEntity × Nat
  | .selectForUpdate _ _ => Option Product
  | .reselect _ => Option Product
  | .insert _ | .update _ _ _ | .delete _ => Unit
  | .increment _ _ _ _ => Nat

end ProductStatement

namespace Database

def findProduct (db : Database) (id storeId : Uuid) : Option Product :=
  (db.products.find id).filter fun row => row.storeId = storeId

/-- The row with its `category` relation loaded. -/
def loadCategory (db : Database) (row : Product) : ProductEntity :=
  row.toEntity (row.categoryId.bind db.categories.find)

def storeExists (db : Database) (id : Uuid) : Bool := (db.stores.find id).isSome

def productExists (db : Database) (productId : Option Uuid) : Bool :=
  match productId with
  | some id => (db.products.find id).isSome
  | none => true

def categoryExists (db : Database) (categoryId : Option Uuid) : Bool :=
  match categoryId with
  | some id => (db.categories.find id).isSome
  | none => true

/-- `ON DELETE SET NULL` of `order_items.product_id`. -/
def unlinkProduct (db : Database) (id : Uuid) : List DbWrite :=
  (db.orderItems.rows.filter fun item => item.productId = some id).map fun item =>
    .orderItem (.put { item with productId := none })

/-- `ON DELETE SET NULL` of `products.category_id`. -/
def unlinkCategory (db : Database) (id : Uuid) : List DbWrite :=
  (db.products.rows.filter fun row => row.categoryId = some id).map fun row =>
    .product (.put { row with categoryId := none })

end Database

open Database in
def ProductStatement.execute : (statement : ProductStatement) → Database →
    Except ApiError (statement.Reply × List DbWrite)
  | .findOne none _, _ => .error .invalidTextRepresentation
  | .findOne (some id) storeId, db => .ok ((db.findProduct id storeId).map db.loadCategory, [])
  | .getManyAndCount storeId query rank, db =>
    let matching := db.products.rows.filter (query.selects storeId)
    let page := joinedPageOf Product.createdAt Product.id rank (query.page.getD 1) (query.limit.getD 20) matching
    replyOnce query.check (page.map db.loadCategory, matching.length)
  | .selectForUpdate id storeId, db => .ok (db.findProduct id storeId, [])
  | .reselect entity, db => .ok (db.products.find entity.id, [])
  | .insert entity, db =>
    match entity.toRow? with
    | none => .error .notNullViolation
    | some row =>
      if row.fitsColumns = false then .error .numericValueOutOfRange
      else if (db.products.find row.id).isSome then .error .uniqueViolation
      else if (db.storeExists row.storeId && db.categoryExists row.categoryId) = false then
        .error .foreignKeyViolation
      else .ok ((), [.product (.put row)])
  | .update id changes now, db =>
    match db.products.find id with
    | none => .ok ((), [])
    | some row =>
      match changes.applyTo? row now with
      | none => .error .notNullViolation
      | some next =>
        if next.fitsColumns = false then .error .numericValueOutOfRange
        else if db.categoryExists changes.categoryId.join = false then .error .foreignKeyViolation
        else .ok ((), [.product (.put next)])
  | .increment id storeId quantity now, db =>
    match db.findProduct id storeId with
    | none => .ok ((0 : Nat), [])
    | some row =>
      if fitsInteger (row.stock + quantity) then
        .ok ((1 : Nat), [.product (.put { row with stock := row.stock + quantity, updatedAt := now })])
      else .error .numericValueOutOfRange
  | .delete id, db =>
    match db.products.find id with
    | none => .ok ((), [])
    | some row => .ok ((), .product (.erase row.id) :: db.unlinkProduct row.id)

/-- The locks on the rows that a new reference points to. -/
def referenceLocks (keys : List RowKey) : List (RowLock RowKey) :=
  keys.map fun key => ⟨key, .keyShare⟩

/-- `FOR UPDATE` locks the row it finds; a foreign key that is written locks the row it names. -/
def ProductStatement.locks : ProductStatement → Database → List (RowLock RowKey)
  | .selectForUpdate id storeId, db =>
    ((db.findProduct id storeId).map fun row => ⟨RowKey.product row.id, .update⟩).toList
  | .insert entity, _ =>
    referenceLocks (.store entity.storeId :: (entity.joinCategoryId.map RowKey.category).toList)
  | .update _ changes _, _ => referenceLocks ((changes.categoryId.join.map RowKey.category).toList)
  | _, _ => []

/-! ### What the statements on products write -/

theorem ProductChanges.applyTo?_eq_some {changes : ProductChanges} {row next : Product} {now : Timestamp}
    (applied : changes.applyTo? row now = some next) :
    next.id = row.id ∧ next.storeId = row.storeId ∧
      next.categoryId = changes.categoryId.getD row.categoryId ∧
      some next.stock = changes.stock.getD (some row.stock) := by
  simp only [applyTo?] at applied
  split at applied
  next name price stock _ _ sameStock =>
    cases applied
    exact ⟨rfl, rfl, rfl, sameStock.symm⟩
  next => cases applied

theorem ProductEntity.toRow?_eq_some {entity : ProductEntity} {row : Product} (isRow : entity.toRow? = some row) :
    row.id = entity.id ∧ row.storeId = entity.storeId ∧ row.categoryId = entity.joinCategoryId ∧
      some row.stock = entity.stock := by
  simp only [toRow?] at isRow
  split at isRow
  next name price stock _ _ sameStock =>
    cases isRow
    exact ⟨rfl, rfl, rfl, sameStock.symm⟩
  next => cases isRow

theorem Database.findProduct_eq_some {db : Database} {id storeId : Uuid} {row : Product}
    (found : db.findProduct id storeId = some row) :
    db.products.find id = some row ∧ row.id = id ∧ row.storeId = storeId := by
  obtain ⟨present, inStore⟩ := Option.filter_eq_some_iff.mp found
  exact ⟨present, Table.key_of_find present, of_decide_eq_true inStore⟩

namespace ProductStatement

/-- Whether a statement only reads. -/
def isRead : ProductStatement → Bool
  | .findOne _ _ | .getManyAndCount _ _ _ | .selectForUpdate _ _ | .reselect _ => true
  | .insert _ | .update _ _ _ | .increment _ _ _ _ | .delete _ => false

theorem execute_read {statement : ProductStatement} {db : Database} {reply : statement.Reply}
    {writes : List DbWrite} (reads : statement.isRead = true)
    (executed : statement.execute db = .ok (reply, writes)) : writes = [] := by
  cases statement with
  | findOne id storeId =>
    cases id with
    | none => cases executed
    | some id => cases executed; rfl
  | getManyAndCount => exact (replyOnce_eq_ok executed).2.2
  | selectForUpdate | reselect => cases executed; rfl
  | insert | update | increment | delete => cases reads

theorem execute_insert {entity : ProductEntity} {db : Database} {reply : (insert entity).Reply}
    {writes : List DbWrite} (executed : (insert entity).execute db = .ok (reply, writes)) :
    ∃ row, entity.toRow? = some row ∧ db.products.find row.id = none ∧ writes = [.product (.put row)] := by
  simp only [execute] at executed
  split at executed
  next => cases executed
  next row isRow =>
    split at executed
    next => cases executed
    next =>
      split at executed
      next => cases executed
      next absent =>
        split at executed
        next => cases executed
        next => cases executed; exact ⟨row, isRow, by simpa using absent, rfl⟩

theorem execute_delete {id : Uuid} {db : Database} {reply : (delete id).Reply} {writes : List DbWrite}
    (executed : (delete id).execute db = .ok (reply, writes)) :
    (db.products.find id = none ∧ writes = []) ∨
      ∃ row, db.products.find id = some row ∧ writes = .product (.erase row.id) :: db.unlinkProduct row.id := by
  simp only [execute] at executed
  split at executed
  next absent => cases executed; exact .inl ⟨absent, rfl⟩
  next row present => cases executed; exact .inr ⟨row, present, rfl⟩

theorem execute_update {id : Uuid} {changes : ProductChanges} {now : Timestamp} {db : Database}
    {reply : (update id changes now).Reply} {writes : List DbWrite}
    (executed : (update id changes now).execute db = .ok (reply, writes)) :
    (db.products.find id = none ∧ writes = []) ∨
      ∃ row next, db.products.find id = some row ∧ changes.applyTo? row now = some next ∧
        db.categoryExists changes.categoryId.join = true ∧ writes = [.product (.put next)] := by
  simp only [execute] at executed
  split at executed
  next absent => cases executed; exact .inl ⟨absent, rfl⟩
  next row present =>
    split at executed
    next => cases executed
    next next applied =>
      split at executed
      next => cases executed
      next =>
        split at executed
        next => cases executed
        next exist =>
          cases executed
          exact .inr ⟨row, next, present, applied, by simpa using exist, rfl⟩

theorem execute_increment {id storeId : Uuid} {quantity : Nat} {now : Timestamp} {db : Database}
    {reply : (increment id storeId quantity now).Reply} {writes : List DbWrite}
    (executed : (increment id storeId quantity now).execute db = .ok (reply, writes)) :
    (db.findProduct id storeId = none ∧ reply = (0 : Nat) ∧ writes = []) ∨
      ∃ row, db.findProduct id storeId = some row ∧ reply = (1 : Nat) ∧
        writes = [.product (.put { row with stock := row.stock + quantity, updatedAt := now })] := by
  simp only [execute] at executed
  split at executed
  next absent => cases executed; exact .inl ⟨absent, rfl, rfl⟩
  next row present =>
    split at executed
    next => cases executed; exact .inr ⟨row, present, rfl, rfl⟩
    next => cases executed

end ProductStatement

/-! ## Categories -/

inductive CategoryStatement where
  | findOne (id : RouteId) (storeId : Uuid)
  | find (storeId : Uuid) (rank : Uuid → Nat)
  | reselect (entity : CategoryEntity)
  | insert (entity : CategoryEntity)
  | update (id : Uuid) (name : Option String) (now : Timestamp)
  | delete (id : Uuid)

def CategoryStatement.Reply : CategoryStatement → Type
  | .findOne _ _ => Option Category
  | .find _ _ => List Category
  | .reselect _ => Option Category
  | .insert _ | .update _ _ _ | .delete _ => Unit

def Database.findCategory (db : Database) (id storeId : Uuid) : Option Category :=
  (db.categories.find id).filter fun row => row.storeId = storeId

def CategoryEntity.toRow? (entity : CategoryEntity) : Option Category :=
  entity.name.map fun name => ⟨entity.id, entity.storeId, name, entity.createdAt, entity.updatedAt⟩

def CategoryStatement.execute : (statement : CategoryStatement) → Database →
    Except ApiError (statement.Reply × List DbWrite)
  | .findOne none _, _ => .error .invalidTextRepresentation
  | .findOne (some id) storeId, db => .ok (db.findCategory id storeId, [])
  | .find storeId rank, db =>
    .ok (byName Category.name Category.id rank
      (db.categories.rows.filter fun row => row.storeId = storeId), [])
  | .reselect entity, db => .ok (db.categories.find entity.id, [])
  | .insert entity, db =>
    match entity.toRow? with
    | none => .error .notNullViolation
    | some row =>
      if (db.categories.find row.id).isSome then .error .uniqueViolation
      else if db.storeExists row.storeId = false then .error .foreignKeyViolation
      else .ok ((), [.category (.put row)])
  | .update id name now, db =>
    match db.categories.find id, name with
    | none, _ => .ok ((), [])
    | some _, none => .error .notNullViolation
    | some row, some name => .ok ((), [.category (.put { row with name := name, updatedAt := now })])
  | .delete id, db =>
    match db.categories.find id with
    | none => .ok ((), [])
    | some row => .ok ((), .category (.erase row.id) :: db.unlinkCategory row.id)

/-- Whether a statement only reads. -/
def CategoryStatement.isRead : CategoryStatement → Bool
  | .findOne _ _ | .find _ _ | .reselect _ => true
  | .insert _ | .update _ _ _ | .delete _ => false

theorem CategoryStatement.execute_read {statement : CategoryStatement} {db : Database} {reply : statement.Reply}
    {writes : List DbWrite} (reads : statement.isRead = true)
    (executed : statement.execute db = .ok (reply, writes)) : writes = [] := by
  cases statement with
  | findOne id storeId =>
    cases id with
    | none => cases executed
    | some id => cases executed; rfl
  | find | reselect => cases executed; rfl
  | insert | update | delete => cases reads

/-- All but a `DELETE` leave the other tables alone. -/
theorem CategoryStatement.execute_writes {statement : CategoryStatement} {db : Database} {reply : statement.Reply}
    {writes : List DbWrite} (keeps : ∀ id, statement ≠ .delete id)
    (executed : statement.execute db = .ok (reply, writes)) :
    ∀ write ∈ writes, ∃ change, write = .category change := by
  cases statement with
  | findOne | find | reselect =>
    rw [execute_read rfl executed]
    exact fun _ made => nomatch made
  | insert entity =>
    simp only [execute] at executed
    split at executed
    next => cases executed
    next =>
      split at executed
      next => cases executed
      next =>
        split at executed
        next => cases executed
        next => cases executed; exact fun _ made => ⟨_, List.mem_singleton.mp made⟩
  | update id name now =>
    simp only [execute] at executed
    split at executed
    next => cases executed; exact fun _ made => nomatch made
    next => cases executed
    next => cases executed; exact fun _ made => ⟨_, List.mem_singleton.mp made⟩
  | delete id => exact absurd rfl (keeps id)

def CategoryStatement.locks : CategoryStatement → Database → List (RowLock RowKey)
  | .insert entity, _ => referenceLocks [.store entity.storeId]
  | _, _ => []

end StoreSaas
