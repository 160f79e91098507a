import StoreSaas.Library.Transactions
import StoreSaas.Verified.StockMoves

/-! # The stock a transaction is about to change

While other transactions commit, the view of a running one and the committed
database differ in the products it has written, and it holds the lock of each of
them.  `StockTally` says by how much they differ; it is stable under everything the
others may do (`StockTally.stable`), and each statement of the services moves it by
what the statement writes.
-/

namespace StoreSaas

/-- A transaction of the shop, between two of its operations. -/
abbrev ShopSession : Type := Session RowKey DbWrite statements ApiError

/-- The contract of one request to the shop. -/
abbrev ShopContract : Type := Contract Database RowKey DbWrite statements ApiError

/-- The stock of a row, 0 if there is none. -/
def stockIn (row : Option Product) : Int := (row.map Product.stock).getD 0

/-- The product row `p` changes by `amount`: it may appear only where `creates` allows it, with
    `amount` in stock, and where `keeps` holds it does not disappear. -/
structure StockChange (creates : Uuid → Prop) (keeps : Prop) (p : Uuid) (amount : Int)
    (before after : Option Product) : Prop where
  stock : ∀ row, after = some row → row.stock = stockIn before + amount
  nonneg : ∀ row, after = some row → 0 ≤ stockIn before → 0 ≤ row.stock
  appears : before = none → after.isSome = true → creates p
  absent : before = none → after = none → amount = 0
  remains : keeps → before.isSome = true → after.isSome = true

namespace StockChange

variable {creates : Uuid → Prop} {keeps : Prop} {p : Uuid} {first second : Int}
  {before middle after : Option Product}

theorem refl (row : Option Product) : StockChange creates keeps p 0 row row where
  stock _ isRow := by rw [isRow]; exact (Int.add_zero _).symm
  nonneg _ isRow := by rw [isRow]; exact id
  appears isNone isSome := by rw [isNone] at isSome; cases isSome
  absent _ _ := rfl
  remains _ isSome := isSome

/-- A row that is written over. -/
theorem update {old new : Product} (moved : new.stock = old.stock + first)
    (nonneg : 0 ≤ old.stock → 0 ≤ new.stock) : StockChange creates keeps p first (some old) (some new) where
  stock row isRow := by cases isRow; exact moved
  nonneg row isRow := by cases isRow; exact nonneg
  appears isNone := nomatch isNone
  absent isNone := nomatch isNone
  remains _ _ := rfl

/-- Two changes in a row, if the second one neither brings a row nor takes it away. -/
theorem trans (left : StockChange creates keeps p first before middle)
    (right : StockChange creates keeps p second middle after) (same : after.isSome = middle.isSome) :
    StockChange creates keeps p (first + second) before after := by
  cases middle with
  | some row =>
    have rowStock := left.stock row rfl
    obtain ⟨new, rfl⟩ := Option.isSome_iff_exists.mp same
    have newStock := right.stock new rfl
    simp only [stockIn, Option.map_some, Option.getD_some] at newStock
    refine ⟨fun last isLast => ?_, fun last isLast nonneg => ?_, fun isNone _ => left.appears isNone rfl,
      fun _ isNone => (nomatch isNone), fun _ _ => rfl⟩
    · cases isLast
      rw [newStock, rowStock, stockIn]
      omega
    · exact right.nonneg last isLast (left.nonneg row rfl nonneg)
  | none =>
    have isNone : after = none := Option.isNone_iff_eq_none.mp (by simpa using same)
    subst isNone
    refine ⟨fun _ isLast => (nomatch isLast), fun _ isLast => (nomatch isLast), fun _ isSome => (nomatch isSome),
      fun absentBefore _ => ?_, fun keep isSome => left.remains keep isSome⟩
    rw [left.absent absentBefore rfl, right.absent rfl rfl]
    rfl

end StockChange

/-! ## The tally -/

/-- The transaction has the row to itself. -/
def Owns (session : ShopSession) (key : RowKey) : Prop :=
  ∃ lock ∈ session.held, lock.key = key ∧ lock.mode ≠ .keyShare

/-- The transaction has changed the stock of each product by `amount`, as far as it has come. -/
structure StockTally (creates : Uuid → Prop) (keeps : Prop) (amount : Uuid → Int) (session : ShopSession)
    (db : Database) : Prop where
  locked : ∀ write ∈ session.pending, shop.lockOf write ∈ session.held
  owned : ∀ p, amount p ≠ 0 → Owns session (.product p)
  change : ∀ p, StockChange creates keeps p (amount p) (db.products.find p) ((shop.view db session).products.find p)

theorem owns_of_pending {session : ShopSession} (locked : ∀ write ∈ session.pending, shop.lockOf write ∈ session.held)
    {write : DbWrite} (pending : write ∈ session.pending) : Owns session write.key := by
  refine ⟨shop.lockOf write, locked write pending, rfl, ?_⟩
  unfold Engine.lockOf
  dsimp only
  split <;> decide

/-- A row that nobody but the transaction may write: its view of it does not move. -/
theorem view_of_owns {rely : Database → Database → Prop} {session : ShopSession} {db after : Database} {key : RowKey}
    (owns : Owns session key) (interferes : shop.Interferes rely session.held db after) :
    after.row key = db.row key ∧ (shop.view after session).row key = (shop.view db session).row key := by
  obtain ⟨lock, held, rfl, own⟩ := owns
  have same : after.row lock.key = db.row lock.key := interferes.unchanged lock held own
  exact ⟨same, shop.get_applyAll_congr session.pending same⟩

/-- A row the transaction has not locked is as it was committed last. -/
theorem view_of_not_owns {session : ShopSession}
    (locked : ∀ write ∈ session.pending, shop.lockOf write ∈ session.held) {key : RowKey}
    (free : ¬ Owns session key) (db : Database) : (shop.view db session).row key = db.row key :=
  shop.get_applyAll_of_untouched fun write pending sameKey =>
    free (by rw [← show write.key = key from sameKey]; exact owns_of_pending locked pending)

namespace StockTally

variable {creates : Uuid → Prop} {keeps : Prop} {amount more : Uuid → Int} {session : ShopSession}
  {db after : Database}

theorem congr (tally : StockTally creates keeps amount session db) (same : ∀ p, amount p = more p) :
    StockTally creates keeps more session db := by
  rw [← funext same]
  exact tally

theorem stable {rely : Database → Database → Prop} (tally : StockTally creates keeps amount session db)
    (interferes : shop.Interferes rely session.held db after) : StockTally creates keeps amount session after := by
  refine ⟨tally.locked, tally.owned, fun p => ?_⟩
  by_cases owns : Owns session (.product p)
  · obtain ⟨same, sameView⟩ := view_of_owns owns interferes
    have before := tally.change p
    rw [← show after.products.find p = db.products.find p from same,
      ← show (shop.view after session).products.find p = (shop.view db session).products.find p from sameView] at before
    exact before
  · have nothing : amount p = 0 := by
      by_contra moved
      exact owns (tally.owned p moved)
    rw [nothing, show (shop.view after session).products.find p = after.products.find p from
      view_of_not_owns tally.locked owns after]
    exact .refl _

/-- A transaction that has written nothing. -/
theorem start (noWrites : session.pending = []) (db : Database) :
    StockTally creates keeps (fun _ => 0) session db := by
  have noLocks : ∀ write ∈ session.pending, shop.lockOf write ∈ session.held := by
    rw [noWrites]
    exact fun _ pending => nomatch pending
  refine ⟨noLocks, fun _ moved => absurd rfl moved, fun p => ?_⟩
  rw [show shop.view db session = db by rw [Engine.view, noWrites]; rfl]
  exact .refl _

theorem locked_afterQuery (locked : ∀ write ∈ session.pending, shop.lockOf write ∈ session.held) (op : Statement)
    (view : Database) (reply : op.Reply) (writes : List DbWrite) :
    ∀ write ∈ (shop.afterQuery session op view reply writes).pending,
      shop.lockOf write ∈ (shop.afterQuery session op view reply writes).held := by
  intro write pending
  rcases List.mem_append.mp pending with earlier | now
  · exact List.mem_append_right _ (locked write earlier)
  · exact List.mem_append_left _ (List.mem_append_right _ (List.mem_map_of_mem now))

theorem owns_afterQuery {key : RowKey} (owns : Owns session key) (op : Statement) (view : Database)
    (reply : op.Reply) (writes : List DbWrite) : Owns (shop.afterQuery session op view reply writes) key := by
  obtain ⟨lock, held, isKey, own⟩ := owns
  exact ⟨lock, List.mem_append_right _ held, isKey, own⟩

/-- A statement that changes existing product rows, each by `more`. -/
theorem afterQuery (tally : StockTally creates keeps amount session db) {op : Statement} {reply : op.Reply}
    {writes : List DbWrite}
    (changes : ∀ p, StockChange creates keeps p (more p) ((shop.view db session).products.find p)
      ((shop.applyAll (shop.view db session) writes).products.find p))
    (same : ∀ p, ((shop.applyAll (shop.view db session) writes).products.find p).isSome =
      ((shop.view db session).products.find p).isSome)
    (touches : ∀ p, more p ≠ 0 → ∃ write ∈ writes, write.key = .product p) :
    StockTally creates keeps (fun p => amount p + more p)
      (shop.afterQuery session op (shop.view db session) reply writes) db := by
  have locked := locked_afterQuery tally.locked op (shop.view db session) reply writes
  refine ⟨locked, fun p moved => ?_, fun p => ?_⟩
  · by_cases before : amount p = 0
    · obtain ⟨write, made, isKey⟩ := touches p (by omega)
      rw [← isKey]
      exact owns_of_pending locked (List.mem_append_right _ made)
    · exact owns_afterQuery (tally.owned p before) op _ reply writes
  · rw [Engine.view_afterQuery]
    exact (tally.change p).trans (changes p) (same p)

/-- A statement that writes no product. -/
theorem spared (tally : StockTally creates keeps amount session db) {op : Statement} {reply : op.Reply}
    {writes : List DbWrite} (spares : ∀ write ∈ writes, ∀ p, write.key ≠ .product p) :
    StockTally creates keeps amount (shop.afterQuery session op (shop.view db session) reply writes) db := by
  have sameRow (p : Uuid) : (shop.applyAll (shop.view db session) writes).products.find p =
      (shop.view db session).products.find p :=
    shop.get_applyAll_of_untouched fun write made sameKey => spares write made p sameKey
  have moved : StockTally creates keeps (fun p => amount p + 0)
      (shop.afterQuery session op (shop.view db session) reply writes) db :=
    tally.afterQuery (fun p => by rw [sameRow]; exact .refl _) (fun p => by rw [sameRow])
      fun _ moved => absurd rfl moved
  simpa only [Int.add_zero] using moved

/-- A statement that writes nothing at all. -/
theorem read (tally : StockTally creates keeps amount session db) (op : Statement) (reply : op.Reply) :
    StockTally creates keeps amount (shop.afterQuery session op (shop.view db session) reply []) db :=
  tally.spared fun _ made => nomatch made

/-- A statement that writes over one product row. -/
theorem put (tally : StockTally creates keeps amount session db) {op : Statement} {reply : op.Reply}
    {old new : Product} (present : (shop.view db session).products.find new.id = some old)
    (nonneg : 0 ≤ old.stock → 0 ≤ new.stock) :
    StockTally creates keeps (fun p => amount p + if p = new.id then new.stock - old.stock else 0)
      (shop.afterQuery session op (shop.view db session) reply [.product (.put new)]) db := by
  have row (p : Uuid) : (shop.applyAll (shop.view db session) [.product (.put new)]).products.find p =
      if p = new.id then some new else (shop.view db session).products.find p :=
    Table.find_put (shop.view db session).products new p
  refine tally.afterQuery (fun p => ?_) (fun p => ?_) fun p moved => ?_
  · rw [row]
    split
    next same =>
      rw [same, present]
      exact .update (by omega) nonneg
    next => exact .refl _
  · rw [row]
    split
    next same => rw [same, present]; rfl
    next => rfl
  · refine ⟨_, List.mem_singleton_self _, ?_⟩
    by_contra differs
    refine moved (if_neg fun same => differs ?_)
    rw [same]
    rfl

end StockTally

end StoreSaas
