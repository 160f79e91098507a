import StoreSaas.Verified.OwnCalls

/-! # No store notices the others

Requests that are served one after the other, by any stores in any order.  What a store is
answered and what its rows become depends on its own requests and its own rows only
(`stores_noninterfering`): an id of another store is an id that does not exist.
-/

namespace StoreSaas

namespace ShopRequest

/-- The request with the database to itself. -/
def serve (request : ShopRequest) (db : Database) : Except ApiError CallResult × Database :=
  shop.alone request.program db

variable {request : ShopRequest} {db : Database}

theorem serve_eq (request : ShopRequest) (db : Database) :
    request.serve db = shop.transact (request.call.handler request.env request.storeId) db :=
  serve_eq_transact request.storeId (request.call.handler request.env request.storeId) db

/-- An answer comes with what the handler leaves, a failure with what was there. -/
theorem serve_db (request : ShopRequest) (db : Database) :
    (request.serve db).2 = ((request.call.handler request.env request.storeId).runWith shop.executeOn db).2 ∨
      (request.serve db).2 = db := by
  rw [serve_eq, Engine.transact]
  cases ran : (request.call.handler request.env request.storeId).runWith shop.executeOn db with
  | mk result after =>
    cases result with
    | ok value => exact .inl rfl
    | error error => exact .inr rfl

/-! ## Requests that can be served in turn -/

/-- The references are within the stores, and the ids of the requests are new, each for one request. -/
structure Ready (requests : List ShopRequest) (db : Database) : Prop where
  linked : db.Linked
  unused : ∀ request ∈ requests, ∀ key, request.Inserts key → db.row key = none
  distinct : requests.Pairwise fun first second => ∀ key, first.Inserts key → ¬ second.Inserts key

theorem linked_serve (linked : db.Linked) (unused : ∀ key, request.Inserts key → db.row key = none) :
    (request.serve db).2.Linked := by
  have fresh : FreshKeys db fun _ : Unit => request :=
    ⟨fun _ key makes => unused key (.inl makes), fun _ _ _ _ _ => rfl⟩
  rcases serve_db request db with ran | same
  · rw [ran]
    have writes : shop.Writes (InHome (homes fresh)) (fun _ => True)
        (request.call.handler request.env request.storeId) :=
      homes_handler request (fun key makes => .inr ⟨(), makes, rfl⟩) fun item makes => .inr ⟨(), makes, rfl⟩
    refine linked_of_homeRows (writes.runWith (homeRows_start linked fresh)) ?_
    refine Program.runWith_of_only shop.executeOn (Program.only_any _) (fun op state _ exist => ?_)
      (refsExist_start linked)
    unfold Engine.executeOn
    cases executed : shop.execute op state with
    | error error => exact exist
    | ok result => exact (keepsForeignKeys op state result.1 result.2 exist executed).exist
  · rw [same]
    exact linked

theorem known_serve (linked : db.Linked) (unused : ∀ key, request.Inserts key → db.row key = none) {key : RowKey}
    (present : ((request.serve db).2.row key).isSome = true) : (db.row key).isSome = true ∨ request.Inserts key := by
  rcases serve_db request db with ran | same
  · rw [ran] at present
    refine (own_handler request linked unused).keeps
      (fun after => ∀ key, (after.row key).isSome = true → (db.row key).isSome = true ∨ request.Inserts key)
      (fun state op own known key found => ?_) (fun key found => .inl found) key present
    exact (known_executeOn own found).elim (known key) .inr
  · rw [same] at present
    exact .inl present

theorem Ready.next {rest : List ShopRequest} (ready : Ready (request :: rest) db) : Ready rest (request.serve db).2 where
  linked := linked_serve ready.linked (ready.unused request List.mem_cons_self)
  unused other inRest key inserts := by
    refine Option.not_isSome_iff_eq_none.mp fun present => ?_
    rcases known_serve ready.linked (ready.unused request List.mem_cons_self) present with before | inserted
    · rw [ready.unused other (List.mem_cons_of_mem _ inRest) key inserts] at before
      cases before
    · exact (List.pairwise_cons.mp ready.distinct).1 other inRest key inserted inserts
  distinct := (List.pairwise_cons.mp ready.distinct).2

/-! ## Noninterference -/

theorem respects_serve (linked : db.Linked) (unused : ∀ key, request.Inserts key → db.row key = none) {storeId : Uuid}
    (differs : request.storeId ≠ storeId) : (request.serve db).2.forStore storeId = db.forStore storeId := by
  rcases serve_db request db with ran | same
  · rw [ran]
    exact (own_handler request linked unused).view_eq (fun db => db.forStore storeId) fun state op own =>
      respects_executeOn own differs
  · rw [same]

theorem consistent_serve {other : Database} (linked : db.Linked) (linkedToo : other.Linked)
    (unused : ∀ key, request.Inserts key → db.row key = none)
    (unusedToo : ∀ key, request.Inserts key → other.row key = none)
    (same : db.forStore request.storeId = other.forStore request.storeId) :
    (request.serve db).1 = (request.serve other).1 ∧
      (request.serve db).2.forStore request.storeId = (request.serve other).2.forStore request.storeId := by
  have alike := (own_handler request linked unused).alike (fun db => db.forStore request.storeId)
    (own_handler request linkedToo unusedToo) (fun left right op => consistent_executeOn) same
  rw [serve_eq, serve_eq, Engine.transact, Engine.transact]
  cases ran : (request.call.handler request.env request.storeId).runWith shop.executeOn db with
  | mk result after =>
    cases ranToo : (request.call.handler request.env request.storeId).runWith shop.executeOn other with
    | mk resultToo afterToo =>
      rw [ran, ranToo] at alike
      obtain ⟨rfl, sameAfter⟩ : result = resultToo ∧
        after.forStore request.storeId = afterToo.forStore request.storeId := alike
      cases result with
      | ok value => exact ⟨rfl, sameAfter⟩
      | error error => exact ⟨rfl, same⟩

theorem unwinds : Unwinding.Unwinds serve ShopRequest.storeId (fun storeId db => db.forStore storeId) Ready where
  next _ _ _ ready := ready.next
  respects request _ _ _ ready differs :=
    respects_serve ready.linked (ready.unused request List.mem_cons_self) differs
  consistent request _ _ _ _ ready readyToo same :=
    consistent_serve ready.linked readyToo.linked (ready.unused request List.mem_cons_self)
      (readyToo.unused request List.mem_cons_self) same

end ShopRequest

open Unwinding in
/-- Two runs with the same requests of a store, from databases with the same rows of it: the store is answered the
    same, and its rows are the same at the end. -/
theorem stores_noninterfering (storeId : Uuid) {first second : List ShopRequest} {left right : Database}
    (readyLeft : ShopRequest.Ready first left) (readyRight : ShopRequest.Ready second right)
    (sameRows : left.forStore storeId = right.forStore storeId)
    (sameRequests : first.filter (fun request => request.storeId = storeId) =
      second.filter fun request => request.storeId = storeId) :
    answersTo ShopRequest.serve ShopRequest.storeId storeId first left =
        answersTo ShopRequest.serve ShopRequest.storeId storeId second right ∧
      (runAll ShopRequest.serve first left).forStore storeId =
        (runAll ShopRequest.serve second right).forStore storeId :=
  ShopRequest.unwinds.answers_eq storeId readyLeft readyRight sameRows sameRequests

/-! ### A tea is ordered while another store tries to remove it -/

namespace SmallShop

def removeTea : ShopRequest := ⟨⟨8, fun n => 500 + n, fun _ => 0⟩, 2, .removeProduct (some 2)⟩

theorem unused_orderTea (key : RowKey) (inserts : orderTea.Inserts key) : db.row key = none := by
  rcases inserts with makes | ⟨dto, -, rfl⟩
  · exact freshKeys.unused false key makes
  · rfl

theorem inserts_removeTea (key : RowKey) : ¬ removeTea.Inserts key := by
  rintro (makes | ⟨dto, isCall, -⟩)
  · cases key <;> exact makes
  · cases isCall

theorem ready_orderTea : ShopRequest.Ready [orderTea] db where
  linked := linked
  unused request present := by
    cases List.mem_singleton.mp present
    exact unused_orderTea
  distinct := List.pairwise_singleton ..

theorem ready_removeTea : ShopRequest.Ready [removeTea, orderTea] db where
  linked := linked
  unused := List.forall_mem_cons.mpr
    ⟨fun key inserts => absurd inserts (inserts_removeTea key), ready_orderTea.unused⟩
  distinct := List.pairwise_cons.mpr
    ⟨fun _ _ key inserts => absurd inserts (inserts_removeTea key), ready_orderTea.distinct⟩

end SmallShop

open Unwinding in
theorem stores_noninterfering_smallShop :
    answersTo ShopRequest.serve ShopRequest.storeId 1 [SmallShop.removeTea, SmallShop.orderTea] SmallShop.db =
        answersTo ShopRequest.serve ShopRequest.storeId 1 [SmallShop.orderTea] SmallShop.db ∧
      (runAll ShopRequest.serve [SmallShop.removeTea, SmallShop.orderTea] SmallShop.db).forStore 1 =
        (runAll ShopRequest.serve [SmallShop.orderTea] SmallShop.db).forStore 1 :=
  stores_noninterfering 1 SmallShop.ready_removeTea SmallShop.ready_orderTea rfl rfl

/-! ## A store for itself -/

theorem Database.Linked.forStore {db : Database} (linked : db.Linked) (storeId : Uuid) : (db.forStore storeId).Linked where
  itemOrder item present := by
    rw [find_order_forStore]
    exact (List.mem_filter.mp present).2
  itemProduct item present order orderFound p isProduct := by
    rw [find_order_forStore] at orderFound
    obtain ⟨found, -, inStore⟩ := findOrder_eq_some orderFound
    obtain ⟨product, productFound, sameStore⟩ :=
      linked.itemProduct item (List.mem_filter.mp present).1 order found p isProduct
    refine ⟨product, ?_, sameStore⟩
    rw [find_product_forStore]
    exact Option.filter_eq_some_iff.mpr ⟨productFound, decide_eq_true (sameStore.trans inStore)⟩
  productCategory row present c isCategory := by
    obtain ⟨inTable, inStore⟩ := List.mem_filter.mp present
    obtain ⟨category, found, sameStore⟩ := linked.productCategory row inTable c isCategory
    refine ⟨category, ?_, sameStore⟩
    rw [find_category_forStore]
    exact Option.filter_eq_some_iff.mpr ⟨found, decide_eq_true (sameStore.trans (of_decide_eq_true inStore))⟩
  positive item present := linked.positive item (List.mem_filter.mp present).1

end StoreSaas
