import StoreSaas.Verified.ListPages

/-! # What a product search finds

The text of a search stands inside a `LIKE` pattern.  Without pattern characters it is
matched as a part of the name; with one there is always a name that the pattern matches and
that the text is no part of.
-/

namespace StoreSaas

/-! ## Patterns -/

/-- A text as `ILIKE` compares it. -/
def folded (text : String) : List Char := text.toList.map Char.toLower

namespace QueryProductDto

variable (query : QueryProductDto) (storeId : Uuid)

/-- The price lies in the bounds. -/
def AdmitsPrice (price : Cents) : Prop :=
  (∀ minPrice ∈ query.minPrice, minPrice * 100 ≤ price) ∧ ∀ maxPrice ∈ query.maxPrice, price ≤ maxPrice * 100

instance (price : Cents) : Decidable (query.AdmitsPrice price) := inferInstanceAs (Decidable (_ ∧ _))

/-- The product is one that the query is after. -/
def AsksFor (row : Product) : Prop :=
  row.storeId = storeId ∧ (∀ search ∈ query.search, folded search <:+: folded row.name) ∧
    (∀ category ∈ query.category, row.categoryId = some category) ∧ query.AdmitsPrice row.price

instance (row : Product) : Decidable (query.AsksFor storeId row) := inferInstanceAs (Decidable (_ ∧ _ ∧ _ ∧ _))

variable {query storeId}

end QueryProductDto

/-! ## `findAll` -/

namespace ProductsService

variable (env : Environment) (storeId : Uuid) (query : QueryProductDto) (db : Database)

/-- `findAll` counts the products that the query is after, and shows no others. -/
def FindsWhatIsAskedFor : Prop :=
  ∃ found, ((findAll env storeId query).runWith shop.executeOn db).1 = .ok found ∧
    found.pagination.total = db.products.rows.countP (query.AsksFor storeId ·) ∧
      ∀ product ∈ found.data, ∃ row ∈ db.products.rows, query.AsksFor storeId row ∧ product = db.loadCategory row

section

variable {env storeId query db}

theorem FindsWhatIsAskedFor.accepted (finds : FindsWhatIsAskedFor env storeId query db) : query.check = .ok () := by
  obtain ⟨found, ran, -⟩ := finds
  exact accepted_of_runWith rfl ran

end

end ProductsService

end StoreSaas
