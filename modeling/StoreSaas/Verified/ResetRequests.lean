import StoreSaas.Library.Outages
import StoreSaas.Verified.AuthMethods

/-! # What a reset request tells its caller

With an account the request updates a row and enqueues a mail, without one it does
neither; a failure of either is thrown, and so only an account can show it.
-/

namespace StoreSaas

/-- Which of the calls of a reset request fail, whatever they are about. -/
structure ResetOutages where
  lookup : Option ApiError
  update : Option ApiError
  enqueue : Option ApiError

def ResetOutages.operation (outages : ResetOutages) : RequestOp statements → Option ApiError
  | .auto (.user (.findByEmail _)) => outages.lookup
  | .auto (.user (.update _ _)) => outages.update
  | .auto (.enqueueMail _) => outages.enqueue
  | _ => none

/-- Some user has the email address. -/
def Database.hasAccount (db : Database) (email : String) : Bool := db.users.rows.any fun user => user.email = email

/-- The states agree on everything but the user with the email address. -/
structure SameButFor (email : String) (left right : Database) : Prop where
  others : (left.users.rows.filter fun user => user.email ≠ email) = right.users.rows.filter fun user => user.email ≠ email
  tables : { left with users := .empty } = { right with users := .empty }

namespace AuthService

variable {crypto : Crypto} {config : AuthConfig} {env : AuthEnvironment} {outages : ResetOutages}
  {dto : RequestPasswordResetDto} {db : Database}

/-- What the caller of a reset request sees: that it resolves, or the error. -/
def resetRequested (crypto : Crypto) (config : AuthConfig) (env : AuthEnvironment) (outages : ResetOutages)
    (dto : RequestPasswordResetDto) (db : Database) : Except ApiError Unit :=
  (shop.aloneDuring outages.operation (requestPasswordReset crypto config env dto).autocommit db).1

/-- A failure of the lookup is seen, and with an account one of the update or else of the queue. -/
def resetFailure (outages : ResetOutages) (hasAccount : Bool) : Option ApiError :=
  outages.lookup.or (if hasAccount = true then outages.update.or outages.enqueue else none)

theorem resetRequested_eq : resetRequested crypto config env outages dto db =
    match resetFailure outages (db.hasAccount dto.email) with
    | some error => .error error
    | none => .ok () := by
  have ends : shop.EndsDuring outages.operation (requestPasswordReset crypto config env dto).autocommit db _ _ :=
    Engine.endsDuring_autocommit rfl
  unfold resetRequested
  rw [ends.aloneDuring]
  unfold resetFailure
  cases looks : outages.lookup with
  | some error => exact congrArg Prod.fst (Engine.runWith_statement_error shop looks db)
  | none =>
    have looked : shop.executeOn (.user (.findByEmail dto.email)) db =
      (.ok (db.users.rows.find? fun row => row.email = dto.email), db) := rfl
    refine (congrArg Prod.fst (Engine.runWith_statement_ok shop looks looked)).trans ?_
    cases isFound : db.users.rows.find? fun row => row.email = dto.email with
    | none =>
      have noAccount : db.hasAccount dto.email = false := List.any_eq_false.mpr (List.find?_eq_none.mp isFound)
      rw [noAccount]
      rfl
    | some user =>
      have isUser := List.find?_some isFound
      have hasAccount : db.hasAccount dto.email = true :=
        List.any_eq_true.mpr ⟨user, List.mem_of_find?_eq_some isFound, isUser⟩
      rw [hasAccount]
      cases updates : outages.update with
      | some error => exact congrArg Prod.fst (Engine.runWith_statement_error shop updates db)
      | none =>
        have updated := Database.executeOn_updateUser db user.id { UserChanges.nothing with
          passwordResetTokenHash := some (some (hashResetToken crypto (utf8 env.rawResetToken)))
          passwordResetExpiresAt := some (some (env.now + resetTokenTtl)) }
        refine (congrArg Prod.fst (Engine.runWith_statement_ok shop updates updated)).trans ?_
        refine (congrArg Prod.fst (Program.runWith_perform _ _ _)).trans ?_
        cases enqueues : outages.enqueue with
        | some error => exact congrArg Prod.fst (Engine.executeDuring_of_some shop enqueues _)
        | none => exact congrArg Prod.fst (Engine.executeDuring_of_none shop enqueues _)

/-- Two states are told apart exactly by a failure of the update or the queue, of which one of them has none. -/
theorem resetRequested_eq_iff {left right : Database} :
    resetRequested crypto config env outages dto left = resetRequested crypto config env outages dto right ↔
      outages.lookup ≠ none ∨ left.hasAccount dto.email = right.hasAccount dto.email ∨
        outages.update = none ∧ outages.enqueue = none := by
  rw [resetRequested_eq, resetRequested_eq]
  unfold resetFailure
  cases outages.lookup with
  | some error => simp
  | none =>
    cases outages.update <;> cases outages.enqueue <;> cases left.hasAccount dto.email <;>
      cases right.hasAccount dto.email <;> simp

end AuthService

/-! ## A reset request while the queue is down -/

namespace SmallShop

def mailless : ResetOutages := ⟨none, none, some (.queryFailed "ECONNREFUSED")⟩

end SmallShop

/-- The states differ only in the owner, and only with him the request rejects. -/
theorem AuthService.resetRequested_ne : SameButFor "owner@corner.example" SmallShop.ownerOnly .empty ∧
    resetRequested SmallShop.crypto SmallShop.longLived SmallShop.morning SmallShop.mailless ⟨"owner@corner.example"⟩
      SmallShop.ownerOnly = .error (.queryFailed "ECONNREFUSED") ∧
    resetRequested SmallShop.crypto SmallShop.longLived SmallShop.morning SmallShop.mailless ⟨"owner@corner.example"⟩ .empty =
      .ok () := by
  refine ⟨⟨by decide, rfl⟩, ?_, ?_⟩
  · exact resetRequested_eq
  · exact resetRequested_eq

end StoreSaas
