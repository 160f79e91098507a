import StoreSaas.Library.Paging
import StoreSaas.Library.Sequential
import StoreSaas.Services.AdminService
import StoreSaas.Services.Audit
import StoreSaas.Services.OrdersService

/-! # Paging through the lists

Four operations list rows by `createdAt`, which leaves rows of one instant in any order.
They differ in their rows and filters; what a page of each is, is told once for all.
-/

namespace StoreSaas

/-! ## The order of rows -/

section

variable {Row : Type} (createdAt : Row → Nat) (id : Row → Uuid)

/-- Newer rows first, and those of one instant by rank. -/
def Precedes (rank : Uuid → Nat) (left right : Row) : Prop :=
  createdAt right < createdAt left ∨ (createdAt left = createdAt right ∧ rank (id left) ≤ rank (id right))

instance (rank : Uuid → Nat) : DecidableRel (Precedes createdAt id rank) :=
  fun _ _ => inferInstanceAs (Decidable (_ ∨ (_ ∧ _)))

instance (rank : Uuid → Nat) : Std.Total (Precedes createdAt id rank) where
  total left right := by unfold Precedes; omega

instance (rank : Uuid → Nat) : IsTrans Row (Precedes createdAt id rank) where
  trans left middle right := by unfold Precedes; omega

theorem newestFirst_eq (rank : Uuid → Nat) (rows : List Row) :
    newestFirst createdAt id rank rows = rows.insertionSort (Precedes createdAt id rank) := rfl

theorem arranges_newestFirst (rank : Uuid → Nat) (rows : List Row) :
    Paging.Arranges createdAt rows (newestFirst createdAt id rank rows) where
  perm := List.perm_insertionSort _ rows
  sorted := by
    rw [newestFirst_eq]
    refine (List.pairwise_insertionSort _ rows).imp fun precedes => ?_
    unfold Precedes at precedes
    omega

/-- Every order that SQL allows is the one of some rank. -/
theorem exists_rank {rows arranged : List Row} (ids : (rows.map id).Nodup)
    (arranges : Paging.Arranges createdAt rows arranged) : ∃ rank, newestFirst createdAt id rank rows = arranged := by
  let rank : Uuid → Nat := fun other => (arranged.map id).idxOf other
  have places : (arranged.map id).Nodup := (arranges.perm.map id).nodup_iff.mpr ids
  have isRank {left right : Row} (inLeft : left ∈ arranged) (inRight : right ∈ arranged)
      (same : rank (id left) = rank (id right)) : left = right := by
    have isId : id left = id right := (List.idxOf_inj (List.mem_map_of_mem inLeft)).mp same
    exact List.inj_on_of_nodup_map places inLeft inRight isId
  refine ⟨rank, List.Perm.eq_of_pairwise (fun left right inLeft inRight first second => ?_)
    (List.pairwise_insertionSort (Precedes createdAt id rank) rows) ?_
    ((List.perm_insertionSort _ rows).trans arranges.perm.symm)⟩
  · have inList : left ∈ arranged := arranges.perm.mem_iff.mpr ((List.mem_insertionSort _).mp inLeft)
    refine isRank inList inRight ?_
    unfold Precedes at first second
    omega
  · have rankAt (place : Nat) (inside : place < arranged.length) : rank (id arranged[place]) = place := by
      have inMap : place < (arranged.map id).length := (List.length_map id).symm ▸ inside
      have isId : (arranged.map id)[place] = id arranged[place] := List.getElem_map id
      exact isId ▸ places.idxOf_getElem place inMap
    rw [List.pairwise_iff_getElem]
    intro first second inFirst inSecond before
    have descends := (List.pairwise_iff_getElem.mp arranges.sorted) first second inFirst inSecond before
    rw [Precedes, rankAt first inFirst, rankAt second inSecond]
    omega

end

/-! ## Queries that are checked -/

section

variable {α : Type} {op : Statement} {check : Except ApiError Unit} {reply : op.Reply} {next : op.Reply → Tx α}
  {db : Database}

/-- A query by itself, once its check is passed. -/
theorem runWith_accepted (accepted : check = .ok ()) (replies : op.execute db = replyOnce check reply) :
    (Program.perform (S := statements) op >>= next).runWith shop.executeOn db = (next reply).runWith shop.executeOn db := by
  subst accepted
  refine Program.runWith_perform_ok shop.executeOn ?_
  simp only [Engine.executeOn, show shop.execute op db = _ from replies, replyOnce, Except.map]
  rfl

theorem runWith_refused {error : ApiError} (refused : check = .error error)
    (replies : op.execute db = replyOnce check reply) :
    (Program.perform (S := statements) op >>= next).runWith shop.executeOn db = (.error error, db) := by
  subst refused
  have fails : shop.executeOn op db = (.error error, db) := by
    simp only [Engine.executeOn, show shop.execute op db = _ from replies, replyOnce, Except.map]
  rw [Program.runWith_perform_bind, fails]
  rfl

/-- What has been answered was accepted. -/
theorem accepted_of_runWith {answer : α} (replies : op.execute db = replyOnce check reply)
    (ran : ((Program.perform (S := statements) op >>= next).runWith shop.executeOn db).1 = .ok answer) :
    check = .ok () := by
  cases checked : check with
  | ok => rfl
  | error error => cases (congrArg Prod.fst (runWith_refused checked replies)).symm.trans ran

end

/-- What `findForStore` replies: the page and the number of the store's rows. -/
theorem runWith_findForStore (rank : Uuid → Nat) (storeId : Uuid) (page limit : Option Nat) (db : Database) :
    (AuditLogService.findForStore rank storeId page limit).runWith shop.executeOn db =
      ((checkOffset (page.getD 1) (limit.getD 20)).map fun _ =>
        let matching := newestFirst AuditLog.createdAt AuditLog.id rank (db.auditLogs.rows.filter fun row => row.concerns storeId)
        ⟨pageOf (page.getD 1) (limit.getD 20) matching,
          buildPaginationMeta matching.length (page.getD 1) (limit.getD 20)⟩, db) := by
  cases accepted : checkOffset (page.getD 1) (limit.getD 20) with
  | error error => exact runWith_refused accepted rfl
  | ok => exact (runWith_accepted accepted rfl).trans rfl

/-! ## The four lists -/

theorem Product.eq_of_toEntity {left right : Product} {category other : Option Category}
    (same : left.toEntity category = right.toEntity other) : left = right := by
  cases left
  cases right
  simp only [Product.toEntity, ProductEntity.mk.injEq, Option.some.injEq] at same
  obtain ⟨rfl, rfl, rfl, rfl, rfl, rfl, rfl, rfl, rfl, rfl, -⟩ := same
  rfl

/-- A list operation with its filter. -/
inductive ListCall where
  | products (storeId : Uuid) (query : QueryProductDto)
  | orders (storeId : Uuid) (query : QueryOrderDto)
  | stores
  | auditLogs (storeId : Uuid)

namespace ListCall

def Row : ListCall → Type
  | .products _ _ => Product
  | .orders _ _ => Order
  | .stores => Store
  | .auditLogs _ => AuditLog

/-- A row as the operation returns it, with its relations. -/
def Shown : ListCall → Type
  | .products _ _ => ProductEntity
  | .orders _ _ => OrderEntity
  | .stores => Store × Option Subscription
  | .auditLogs _ => AuditLog

def createdAt : (call : ListCall) → call.Row → Nat
  | .products _ _ => Product.createdAt
  | .orders _ _ => Order.createdAt
  | .stores => Store.createdAt
  | .auditLogs _ => AuditLog.createdAt

def id : (call : ListCall) → call.Row → Uuid
  | .products _ _ => Product.id
  | .orders _ _ => Order.id
  | .stores => Store.id
  | .auditLogs _ => AuditLog.id

/-- The rows that the filter of the operation selects. -/
def matching (db : Database) : (call : ListCall) → List call.Row
  | .products storeId query => db.products.rows.filter (query.selects storeId)
  | .orders storeId query => db.orders.rows.filter (query.selects storeId)
  | .stores => db.stores.rows
  | .auditLogs storeId => db.auditLogs.rows.filter fun row => row.concerns storeId

def shown (db : Database) : (call : ListCall) → call.Row → call.Shown
  | .products _ _ => db.loadCategory
  | .orders _ _ => db.loadItems
  | .stores => fun row => (row, db.subscriptionOf row.id)
  | .auditLogs _ => fun row => row

/-- One request for one page. -/
def run (env : Environment) (number limit : Nat) : (call : ListCall) → Tx (Paginated call.Shown)
  | .products storeId query => ProductsService.findAll env storeId { query with page := some number, limit := some limit }
  | .orders storeId query => OrdersService.findAll env storeId { query with page := some number, limit := some limit }
  | .stores => AdminService.findAllStores env.rank (some number) (some limit)
  | .auditLogs storeId => AuditLogService.findForStore env.rank storeId (some number) (some limit)

/-- Whether the rows are joined with others, so that the query orders them by primary key where they are of one time. -/
def joins : ListCall → Bool
  | .products _ _ | .orders _ _ | .stores => true
  | .auditLogs _ => false

/-- What Postgres checks of the request. -/
def check (number limit : Nat) : ListCall → Except ApiError Unit
  | .products _ query => { query with page := some number, limit := some limit : QueryProductDto }.check
  | .orders _ query => { query with page := some number, limit := some limit : QueryOrderDto }.check
  | .stores | .auditLogs _ => checkOffset number limit

variable (call : ListCall) (db : Database)

/-- The rows in the order in which the query takes its page from them. -/
def arranged (env : Environment) : List call.Row :=
  newestFirst call.createdAt call.id (if call.joins then fun key => key.toNat else env.rank) (call.matching db)

/-- The rows of one page, in the order in which they are returned. -/
def pageRows (env : Environment) (number limit : Nat) : List call.Row :=
  if call.joins then newestFirst call.createdAt call.id env.rank (pageOf number limit (call.arranged db env))
  else pageOf number limit (call.arranged db env)

/-- What the request replies, if it is accepted. -/
def reply (env : Environment) (number limit : Nat) : Paginated call.Shown where
  data := (call.pageRows db env number limit).map (call.shown db)
  pagination := buildPaginationMeta (call.matching db).length number limit

theorem arranges_arranged (env : Environment) :
    Paging.Arranges call.createdAt (call.matching db) (call.arranged db env) := arranges_newestFirst ..

theorem pageRows_perm (env : Environment) (number limit : Nat) :
    (call.pageRows db env number limit).Perm (Paging.page limit number (call.arranged db env)) := by
  unfold pageRows
  split
  · exact List.perm_insertionSort _ _
  · exact .refl _

/-- Rows that are joined with others come in one order only. -/
theorem arranged_of_joins (joined : call.joins = true) (env other : Environment) :
    call.arranged db env = call.arranged db other := by
  rw [arranged, arranged, if_pos joined, if_pos joined]

theorem runWith_run (env : Environment) (number limit : Nat) :
    (call.run env number limit).runWith shop.executeOn db =
      ((call.check number limit).map fun _ => call.reply db env number limit, db) := by
  cases accepted : call.check number limit with
  | error error =>
    cases call with
    | products | orders | stores | auditLogs => exact runWith_refused accepted rfl
  | ok =>
    cases call with
    | products | stores => exact (runWith_accepted accepted rfl).trans rfl
    | orders storeId query =>
      refine (runWith_accepted accepted rfl).trans ?_
      exact runWith_accepted (QueryOrderDto.checkDates_of_check accepted) rfl
    | auditLogs storeId =>
      have counted : ((auditLogs storeId).arranged db env).length = ((auditLogs storeId).matching db).length :=
        List.length_insertionSort _ _
      have same (rows : List AuditLog) : rows.map (shown db (.auditLogs storeId)) = rows := List.map_id rows
      refine (runWith_findForStore ..).trans ?_
      simp only [Option.getD_some, show checkOffset number limit = .ok _ from accepted, Except.map, reply, ← counted]
      exact congrArg (fun data => (Except.ok (⟨data, _⟩ : Paginated AuditLog), db)) (same _).symm

theorem nodup_ids : ((call.matching db).map call.id).Nodup := by
  cases call with
  | products => exact db.products.nodup.sublist (List.filter_sublist.map Product.id)
  | orders => exact db.orders.nodup.sublist (List.filter_sublist.map Order.id)
  | stores => exact db.stores.nodup
  | auditLogs => exact db.auditLogs.nodup.sublist (List.filter_sublist.map AuditLog.id)

theorem shown_injective : Function.Injective (call.shown db) := by
  cases call with
  | products => exact fun left right same => Product.eq_of_toEntity same
  | orders => exact fun left right same => congrArg OrderEntity.order same
  | stores => exact fun left right same => congrArg Prod.fst same
  | auditLogs => exact fun left right same => same

/-! ## All pages -/

variable (limit : Nat) (environments : Nat → Environment) (beyond : Nat)

/-- The pages up to the last one hold every matching row once, and page `beyond`, if it comes later, is empty. -/
def PagesPartition : Prop :=
  ∃ (found : Nat → Paginated call.Shown) (totalPages : Nat),
    (∀ number, 1 ≤ number ∧ number ≤ totalPages ∨ number = beyond →
      ((call.run (environments number) number limit).runWith shop.executeOn db).1 = .ok (found number) ∧
        (found number).pagination.totalPages = totalPages) ∧
    ((List.range' 1 totalPages).flatMap fun number => (found number).data).Perm ((call.matching db).map (call.shown db)) ∧
    (totalPages < beyond → (found beyond).data = [])

variable {db limit}

/-- The rows on all pages are those that the queries take. -/
theorem flatMap_reply (count : Nat) :
    ((List.range' 1 count).flatMap fun number => (call.reply db (environments number) number limit).data).Perm
      ((Paging.firstPages limit (fun number => call.arranged db (environments number)) count).map (call.shown db)) := by
  rw [Paging.firstPages_eq_flatMap, List.map_flatMap]
  refine List.Perm.flatMap_left _ fun number _ => ?_
  exact (call.pageRows_perm db (environments number) number limit).map _

/-- What is asked for on the pages is what the rows are, once all of the pages are accepted. -/
theorem pagesPartition_iff_perm (positive : 1 ≤ limit) :
    call.PagesPartition db limit environments beyond ↔
      (∀ number, 1 ≤ number ∧ number ≤ Paging.pageCount (call.matching db).length limit ∨ number = beyond →
        call.check number limit = .ok ()) ∧
      ((Paging.firstPages limit (fun number => call.arranged db (environments number))
        (Paging.pageCount (call.matching db).length limit)).map (call.shown db)).Perm
          ((call.matching db).map (call.shown db)) := by
  constructor
  · rintro ⟨found, totalPages, ran, once, -⟩
    have replies {number : Nat} (asked : 1 ≤ number ∧ number ≤ totalPages ∨ number = beyond) :
        call.check number limit = .ok () ∧ found number = call.reply db (environments number) number limit := by
      have isFound := (ran number asked).1
      rw [runWith_run] at isFound
      cases accepted : call.check number limit with
      | ok =>
        rw [accepted] at isFound
        exact ⟨rfl, (Except.ok.inj isFound).symm⟩
      | error error =>
        rw [accepted] at isFound
        cases isFound
    obtain rfl : Paging.pageCount (call.matching db).length limit = totalPages := by
      rw [← (ran beyond (.inr rfl)).2, (replies (.inr rfl)).2]
      rfl
    refine ⟨fun number asked => (replies asked).1, (call.flatMap_reply environments _).symm.trans ?_⟩
    refine List.Perm.trans (List.Perm.of_eq (List.flatMap_congr fun number inRange => ?_)) once
    obtain ⟨first, last⟩ := List.mem_range'_1.mp inRange
    rw [(replies (.inl ⟨first, by omega⟩)).2]
  · rintro ⟨accepted, once⟩
    refine ⟨fun number => call.reply db (environments number) number limit, _, fun number asked => ⟨?_, rfl⟩,
      (call.flatMap_reply environments _).trans once,
      fun (later : Paging.pageCount (call.matching db).length limit < beyond) => ?_⟩
    · rw [runWith_run, accepted number asked]
      rfl
    · have behind : (call.arranged db (environments beyond)).length ≤ (beyond - 1) * limit := by
        rw [(call.arranges_arranged db _).perm.length_eq]
        exact (Paging.length_le_pageCount positive _).trans (Nat.mul_le_mul_right limit (by omega))
      have none := call.pageRows_perm db (environments beyond) beyond limit
      rw [Paging.page_eq_nil behind] at none
      change (call.pageRows db (environments beyond) beyond limit).map _ = []
      rw [List.perm_nil.mp none, List.map_nil]

/-- Whatever order each query chooses, the pages hold every row once exactly if each query is accepted and, unless it
    orders by primary key, no boundary between two pages falls among rows of one instant. -/
theorem pagesPartition_iff (positive : 1 ≤ limit) :
    (∀ environments, call.PagesPartition db limit environments beyond) ↔
      (∀ number, 1 ≤ number ∧ number ≤ Paging.pageCount (call.matching db).length limit ∨ number = beyond →
        call.check number limit = .ok ()) ∧
      (call.joins = false → ∀ number, ¬ Paging.Cuts call.createdAt (call.matching db) (number * limit)) := by
  simp only [pagesPartition_iff_perm call _ beyond positive]
  let ranked (rank : Uuid → Nat) : Environment := ⟨0, fun _ => 0, rank⟩
  constructor
  · refine fun once => ⟨(once fun _ => ranked fun _ => 0).1, fun apart number cut => ?_⟩
    obtain ⟨swapped, arranges, twice⟩ := Paging.exists_firstPages_not_nodup
      (arranges_newestFirst call.createdAt call.id (fun _ => 0) (call.matching db)) positive cut
    obtain ⟨rank, rfl⟩ := exists_rank call.createdAt call.id (call.nodup_ids db) arranges
    have perm := (once fun query => ranked (if query ≤ number then fun _ => 0 else rank)).2
    have distinct := ((call.nodup_ids db).of_map _).map (call.shown_injective db)
    have once := List.Nodup.of_map (call.shown db) (perm.nodup_iff.mpr distinct)
    have chosen (query : Nat) : call.arranged db (ranked (if query ≤ number then fun _ => 0 else rank)) =
        if query ≤ number then newestFirst call.createdAt call.id (fun _ => 0) (call.matching db)
          else newestFirst call.createdAt call.id rank (call.matching db) := by
      rw [arranged, if_neg (ne_true_of_eq_false apart)]
      split <;> rfl
    simp only [chosen] at once
    exact twice once
  · rintro ⟨accepted, clean⟩ environments
    refine ⟨accepted, List.Perm.map _ ?_⟩
    cases joined : call.joins with
    | true =>
      -- One order is all there is, and the pages are its pieces.
      simp only [call.arranged_of_joins db joined _ (ranked fun _ => 0)]
      exact Paging.firstPages_const_perm (call.arranges_arranged db _) positive
    | false => exact Paging.firstPages_pageCount_perm (fun number => call.arranges_arranged db _) (clean joined) positive

/-- Two entries of the audit trail with one time stamp. -/
def twinEntries : Database :=
  { Database.empty with
    auditLogs := ⟨[⟨1, 9, "owner@corner.example", .storeOwner, some 5, "STAFF_INVITED", none, none, 0⟩,
      ⟨2, 9, "owner@corner.example", .storeOwner, some 5, "STAFF_REMOVED", none, none, 0⟩], by decide⟩ }

theorem pagesPartition_twinEntries :
    (∀ environments, (ListCall.auditLogs 5).PagesPartition twinEntries 2 environments 3) ↔
      (∀ number, 1 ≤ number ∧ number ≤ Paging.pageCount ((ListCall.auditLogs 5).matching twinEntries).length 2 ∨ number = 3 →
        (ListCall.auditLogs 5).check number 2 = .ok ()) ∧
      ((ListCall.auditLogs 5).joins = false → ∀ number,
        ¬ Paging.Cuts (ListCall.auditLogs 5).createdAt ((ListCall.auditLogs 5).matching twinEntries) (number * 2)) :=
  pagesPartition_iff _ _ (by decide)

/-- One entry on each page, and the second query has them the other way round. -/
theorem not_pagesPartition_twinEntries :
    ¬ (ListCall.auditLogs 5).PagesPartition twinEntries 1
      (fun number => ⟨0, fun _ => 0, fun id => if number ≤ 1 then id.toNat else 9 - id.toNat⟩) 3 := by
  rw [pagesPartition_iff_perm _ _ _ (Nat.le_refl 1)]
  rintro ⟨-, perm⟩
  have ids := perm.map AuditLog.id
  revert ids
  decide

/-- A page behind 2^63 rows is an error, and not an empty page. -/
example : checkOffset 100000000000000000 100 = .error .numericValueOutOfRange := by decide +kernel

end ListCall

end StoreSaas
