import StoreSaas.Library.Base64Url
import StoreSaas.Schema.Statements
import StoreSaas.Services.CategoriesService

/-! # `AuthService` and `JwtRefreshStrategy`

Tokens are byte strings, laid out as `jwt.sign` lays them out.  The functions of
`bcrypt` and `crypto` are a parameter.
-/

namespace StoreSaas

/-- What the service uses of `bcrypt` and `crypto`. -/
structure Crypto where
  bcryptHash : (salt password : Bytes) → Bytes
  bcryptCompare : (password hash : Bytes) → Bool
  hmacSha256 : (secret message : Bytes) → Bytes
  sha256Hex : Bytes → Bytes

/-- The settings of `ConfigService`, the lifetimes in seconds. -/
structure AuthConfig where
  jwtAccessSecret : Bytes
  jwtAccessExpiry : Nat
  jwtRefreshSecret : Bytes
  jwtRefreshExpiry : Nat
  webAppUrl : String

/-- What one call takes from its surroundings. -/
structure AuthEnvironment where
  now : Timestamp
  salt : Bytes
  /-- `randomBytes(RESET_TOKEN_BYTES).toString('hex')` -/
  rawResetToken : String

def utf8 (text : String) : Bytes := text.toList.flatMap String.utf8EncodeChar

/-! ## JSON web tokens -/

structure JwtPayload where
  sub : Uuid
  email : String
  role : Role
  storeId : Option Uuid
  deriving DecidableEq, Repr

/-- A character inside a string of `JSON.stringify`. -/
def jsonEscape (letter : Char) : List Char :=
  if letter = '"' then "\\\"".toList
  else if letter = '\\' then "\\\\".toList
  else if letter.toNat = 8 then "\\b".toList
  else if letter.toNat = 9 then "\\t".toList
  else if letter.toNat = 10 then "\\n".toList
  else if letter.toNat = 12 then "\\f".toList
  else if letter.toNat = 13 then "\\r".toList
  else if letter.toNat < 32 then
    "\\u00".toList ++ [Uuid.hexDigit (letter.toNat / 16), Uuid.hexDigit (letter.toNat % 16)]
  else [letter]

def jsonString (text : String) : String :=
  "\"" ++ String.ofList (text.toList.flatMap jsonEscape) ++ "\""

namespace JwtPayload

/-- What stands before the fields that differ between two tokens of one user. -/
def jsonHead (payload : JwtPayload) : String := "\x7b\"sub\":\"" ++ payload.sub.text

def jsonTail (payload : JwtPayload) (iat exp : Nat) : String :=
  "\",\"email\":" ++ jsonString payload.email ++ ",\"role\":" ++ jsonString payload.role.text ++
    ",\"storeId\":" ++ (match payload.storeId with
      | some storeId => jsonString storeId.text
      | none => "null") ++
    ",\"iat\":" ++ toString iat ++ ",\"exp\":" ++ toString exp ++ "\x7d"

/-- The claims set, the text of its JSON as bytes. -/
def json (payload : JwtPayload) (iat exp : Nat) : Bytes :=
  utf8 payload.jsonHead ++ utf8 (payload.jsonTail iat exp)

end JwtPayload

def jwtHeader : Bytes := utf8 "\x7b\"alg\":\"HS256\",\"typ\":\"JWT\"\x7d"

/-- `jwt.sign(payload, { secret, expiresIn })` at the second `iat`. -/
def sign (crypto : Crypto) (secret : Bytes) (payload : JwtPayload) (iat expiresIn : Nat) : Bytes :=
  let signed := Base64Url.encode jwtHeader ++ utf8 "." ++ Base64Url.encode (payload.json iat (iat + expiresIn))
  signed ++ utf8 "." ++ Base64Url.encode (crypto.hmacSha256 secret signed)

/-- A token that was signed with the refresh secret. -/
structure SignedToken where
  payload : JwtPayload
  iat : Nat
  deriving DecidableEq, Repr

def SignedToken.text (crypto : Crypto) (config : AuthConfig) (token : SignedToken) : Bytes :=
  sign crypto config.jwtRefreshSecret token.payload token.iat config.jwtRefreshExpiry

/-- What `jwt.verify` says of a token's `exp`. -/
def SignedToken.isExpired (config : AuthConfig) (now : Timestamp) (token : SignedToken) : Bool :=
  token.iat + config.jwtRefreshExpiry ≤ now / 1000

structure RefreshTokenUser where
  id : Uuid
  email : String
  role : Role
  storeId : Option Uuid
  refreshToken : Bytes
  deriving DecidableEq

def JwtRefreshStrategy.validate (refreshToken : Bytes) (payload : JwtPayload) : RefreshTokenUser where
  id := payload.sub
  email := payload.email
  role := payload.role
  storeId := payload.storeId
  refreshToken := refreshToken

/-! ## The service -/

structure LoginDto where
  email : String
  password : Bytes
  deriving DecidableEq

structure RequestPasswordResetDto where
  email : String
  deriving DecidableEq

structure ResetPasswordDto where
  token : Bytes
  newPassword : Bytes
  deriving DecidableEq

structure TokenPair where
  accessToken : Bytes
  refreshToken : Bytes
  deriving DecidableEq

/-- One hour, in milliseconds. -/
def resetTokenTtl : Nat := 60 * 60 * 1000

def User.jwtPayload (user : User) : JwtPayload := ⟨user.id, user.email, user.role, user.storeId⟩

namespace AuthService

section

variable (crypto : Crypto) (config : AuthConfig) (env : AuthEnvironment)

def hashResetToken (rawToken : Bytes) : Bytes := crypto.sha256Hex rawToken

def issueTokens (user : User) : Tx TokenPair := do
  let iat := env.now / 1000
  let accessToken := sign crypto config.jwtAccessSecret user.jwtPayload iat config.jwtAccessExpiry
  let refreshToken := sign crypto config.jwtRefreshSecret user.jwtPayload iat config.jwtRefreshExpiry
  let refreshTokenHash := crypto.bcryptHash env.salt refreshToken
  let _ ← Tx.user (.update user.id { UserChanges.nothing with refreshTokenHash := some (some refreshTokenHash) })
  return ⟨accessToken, refreshToken⟩

def staffLimitExceeded : ApiError :=
  .unauthorized
    "This store's plan no longer covers the current number of staff members. Ask the store owner to upgrade the plan or remove staff."

/-- The check that keeps staff out while the store is over its plan's limit. -/
def assertStaffAdmitted (row : LoginRow) : Tx Unit :=
  match row.store with
  | none => return ()
  | some (store, subscription) =>
    if row.user.role = .staff then do
      let plan := (subscription.map Subscription.plan).getD .free
      let staffCount : Nat ← Tx.user (.count store.id .staff)
      if staffCount > plan.maxStaff then Tx.raise staffLimitExceeded
    else return ()

def login (dto : LoginDto) : Tx TokenPair := do
  let found : Option LoginRow ← Tx.user (.findForLogin dto.email)
  match found with
  | none => Tx.raise (.unauthorized "Invalid email or password")
  | some row =>
    if crypto.bcryptCompare dto.password row.user.passwordHash = false then
      Tx.raise (.unauthorized "Invalid email or password")
    else if (row.store.map fun loaded => loaded.1.isSuspended) = some true then
      Tx.raise (.unauthorized "This store has been suspended. Contact support.")
    else do
      assertStaffAdmitted row
      issueTokens crypto config env row.user

def refresh (userId : Uuid) (presentedRefreshToken : Bytes) : Tx TokenPair := do
  let found : Option User ← Tx.user (.findById userId)
  match found.bind fun user => user.refreshTokenHash.map fun hash => (user, hash) with
  | none => Tx.raise (.unauthorized "Invalid refresh token")
  | some (user, refreshTokenHash) =>
    if crypto.bcryptCompare presentedRefreshToken refreshTokenHash = false then
      Tx.raise (.unauthorized "Invalid refresh token")
    else issueTokens crypto config env user

def logout (userId : Uuid) : Tx Unit :=
  Tx.user (.update userId { UserChanges.nothing with refreshTokenHash := some none })

def requestPasswordReset (dto : RequestPasswordResetDto) : Tx Unit := do
  let found : Option User ← Tx.user (.findByEmail dto.email)
  match found with
  | none => return ()
  | some user =>
    let _ ← Tx.user (.update user.id { UserChanges.nothing with
      passwordResetTokenHash := some (some (hashResetToken crypto (utf8 env.rawResetToken)))
      passwordResetExpiresAt := some (some (env.now + resetTokenTtl)) })
    let resetUrl := s!"{config.webAppUrl}/reset-password?token={env.rawResetToken}"
    Tx.enqueueMail {
      toAddress := user.email
      subject := "Reset your password"
      html := s!"<p>We received a request to reset your password. This link expires in 1 hour and can only be used once.</p><p><a href=\"{resetUrl}\">{resetUrl}</a></p><p>If you didn't request this, you can safely ignore this email - your password won't be changed.</p>" }

def invalidResetToken : ApiError := .unauthorized "Invalid or expired reset token"

def resetPassword (dto : ResetPasswordDto) : Tx Unit := do
  let tokenHash := hashResetToken crypto dto.token
  let found : Option User ← Tx.user (.findByResetTokenHash tokenHash)
  match found.bind fun user => user.passwordResetExpiresAt.map fun expiresAt => (user, expiresAt) with
  | none => Tx.raise invalidResetToken
  | some (user, expiresAt) =>
    if expiresAt < env.now then Tx.raise invalidResetToken
    else
      let passwordHash := crypto.bcryptHash env.salt dto.newPassword
      let _ ← Tx.user (.update user.id ⟨some passwordHash, some none, some none, some none⟩)
      return ()

end

end AuthService

/-- `POST /auth/refresh` behind `JwtRefreshGuard`, which lets no expired token through. -/
def AuthController.refresh (crypto : Crypto) (config : AuthConfig) (env : AuthEnvironment) (token : SignedToken) :
    Tx TokenPair :=
  if token.isExpired config env.now then Tx.raise (.unauthorized "Unauthorized")
  else
    let user := JwtRefreshStrategy.validate (token.text crypto config) token.payload
    AuthService.refresh crypto config env user.id user.refreshToken

end StoreSaas
