import StoreSaas.Verified.ListPages

/-! # The days of an order query

A bound may be a day or an instant, or a text that Postgres refuses.  As a lower bound a day
begins at its midnight, as the comparison has it; as an upper bound it lasts until the next one.
-/

namespace StoreSaas

namespace DateString

/-- Created on or after the day or the instant. -/
def isReachedBy (bound : DateString) (createdAt : Timestamp) : Bool :=
  match bound with
  | .date day => day * 86400000 ≤ createdAt
  | .dateTime instant => instant ≤ createdAt
  | .refused _ => false

/-- Created on or before the day or the instant. -/
def isNotPassedBy (bound : DateString) (createdAt : Timestamp) : Bool :=
  match bound with
  | .date day => createdAt < (day + 1) * 86400000
  | .dateTime instant => createdAt ≤ instant
  | .refused _ => false

end DateString

namespace QueryOrderDto

variable (query : QueryOrderDto) (storeId : Uuid)

/-- What the query asks for apart from the end of its time. -/
def Begins (row : Order) : Prop :=
  row.storeId = storeId ∧ (∀ status ∈ query.status, row.status = status) ∧
    ∀ fromDate ∈ query.fromDate, fromDate.isReachedBy row.createdAt = true

instance (row : Order) : Decidable (query.Begins storeId row) := inferInstanceAs (Decidable (_ ∧ _ ∧ _))

/-- The order is one that the query is after. -/
def AsksFor (row : Order) : Prop :=
  query.Begins storeId row ∧ ∀ toDate ∈ query.toDate, toDate.isNotPassedBy row.createdAt = true

instance (row : Order) : Decidable (query.AsksFor storeId row) := inferInstanceAs (Decidable (_ ∧ _))

variable {query storeId} {row : Order}

end QueryOrderDto

namespace OrdersService

variable (env : Environment) (storeId : Uuid) (query : QueryOrderDto) (db : Database)

/-- `findAll` counts the orders that the query is after, and shows their page. -/
def FindsWhatIsAskedFor : Prop :=
  ∃ found, ((findAll env storeId query).runWith shop.executeOn db).1 = .ok found ∧
    found.pagination.total = db.orders.rows.countP (query.AsksFor storeId ·) ∧
      found.data = (joinedPageOf Order.createdAt Order.id env.rank (query.page.getD 1) (query.limit.getD 20)
        (db.orders.rows.filter (query.AsksFor storeId ·))).map db.loadItems

variable {env storeId query db} in
theorem FindsWhatIsAskedFor.accepted (finds : FindsWhatIsAskedFor env storeId query db) : query.check = .ok () := by
  obtain ⟨found, ran, -⟩ := finds
  exact accepted_of_runWith rfl ran

/-- The thirtieth of February is no day. -/
example : QueryOrderDto.check ⟨none, none, none, none, some (.refused "22008")⟩ = .error (.queryFailed "22008") := rfl

end OrdersService

end StoreSaas
