import NetOps.Conc.Store
import NetOps.Discovery.Contracts

/-!
# Auth.Service

Users, roles and tokens (`auth/`): the repositories, `TokenService`, `AuthenticationService`,
`AuthorizationService`, and the dependencies of the API routes that use them.

The JSON text of a token's claims is represented by the claims themselves, and the digests
(`hashlib.sha256`, `hashlib.pbkdf2_hmac`) by arbitrary functions (`Crypto`). A request that
creates a user is given the random salt and the fresh id it will draw. Audit events are left out.
-/

namespace NetOps
namespace Auth

open Conc
open Discovery (UUID)

/-! ## Records -/

structure Permission where
  id : UUID
  name : String
  deriving DecidableEq

structure Role where
  id : UUID
  name : String
  permissions : List Permission
  deriving DecidableEq

/-- What `hash_password` stores. -/
structure PasswordHash where
  iterations : Nat
  salt : String
  hash : String
  deriving DecidableEq

/-- A row of `auth_user`, with its rows of `auth_user_roles`. -/
structure AuthUser where
  id : UUID
  username : String
  email : String
  passwordHash : PasswordHash
  isActive : Bool := true
  roles : List UUID
  deriving DecidableEq

/-- The domain `User`. -/
structure User where
  id : UUID
  username : String
  email : String
  passwordHash : PasswordHash
  isActive : Bool
  roles : List Role
  deriving DecidableEq

structure AuthDb where
  users : Tbl AuthUser AuthUser.id
  roles : Tbl Role Role.id

inductive AuthError where
  | value (message : String)
  | integrity
  deriving DecidableEq

/-! ## Repositories -/

namespace AuthDb

/-- `_to_domain`. -/
def toDomain (db : AuthDb) (row : AuthUser) : User where
  id := row.id
  username := row.username
  email := row.email
  passwordHash := row.passwordHash
  isActive := row.isActive
  roles := row.roles.filterMap db.roles.get

/-- `UserRepository.get`. -/
def getUser (db : AuthDb) (userId : UUID) : Option User := (db.users.get userId).map db.toDomain

def findUsername (db : AuthDb) (username : String) : Option AuthUser :=
  db.users.rows.find? fun u => u.username == username

/-- `UserRepository.get_by_username`. -/
def getByUsername (db : AuthDb) (username : String) : Option User :=
  (db.findUsername username).map db.toDomain

/-- `RoleRepository.get_by_name`. -/
def getRole (db : AuthDb) (name : String) : Option Role :=
  db.roles.rows.find? fun r => r.name == name

/-- The insert breaks the primary key or a unique constraint of `auth_user`, or the primary key of
`auth_user_roles`. -/
def conflicts (db : AuthDb) (row : AuthUser) : Bool :=
  (db.users.get row.id).isSome ||
    db.users.rows.any (fun u => u.username == row.username || u.email == row.email) ||
    !decide row.roles.Nodup

/-- `UserRepository.create`. -/
def createUser (db : AuthDb) (row : AuthUser) : Except AuthError AuthDb :=
  if db.conflicts row then .error .integrity else .ok { db with users := db.users.set row }

end AuthDb

/-! ## Tokens -/

inductive TokenType where
  | access
  | refresh
  deriving DecidableEq

/-- The claims of a token. -/
structure Claims where
  sub : UUID
  type : TokenType
  username : String
  iat : Int
  exp : Int
  deriving DecidableEq

/-- `"{body}.{signature}"`. -/
structure Token where
  body : Claims
  signature : String
  deriving DecidableEq

/-- The text of a bearer credential: a token, or a text that `_verify` cannot take apart. -/
inductive Bearer where
  | token (t : Token)
  | malformed (text : String)
  deriving DecidableEq

/-- The digests. `sha256` is the hex digest of a body with the secret key behind it. -/
structure Crypto where
  sha256 : Claims → String → String
  pbkdf2 : String → String → Nat → String

/-- What the services are set up with. -/
structure Settings where
  crypto : Crypto
  secretKey : String := "development-secret"
  iterations : Nat := 200000
  accessTokenTtlSeconds : Int := 900
  refreshTokenTtlSeconds : Int := 2592000

namespace TokenService

/-- `_sign`. -/
def sign (cfg : Settings) (payload : Claims) : Token :=
  ⟨payload, cfg.crypto.sha256 payload cfg.secretKey⟩

/-- `encode`, at time `now`. -/
def encode (cfg : Settings) (sub : UUID) (type : TokenType) (username : String) (now ttl : Int) :
    Token :=
  sign cfg ⟨sub, type, username, now, now + ttl⟩

/-- `_verify`. -/
def verify (cfg : Settings) : Bearer → Except AuthError Claims
  | .malformed _ => .error (.value "Invalid token payload")
  | .token t =>
    if t.signature = cfg.crypto.sha256 t.body cfg.secretKey then .ok t.body
    else .error (.value "Invalid token signature")

/-- `decode`, at time `now`. -/
def decode (cfg : Settings) (token : Bearer) (now : Int) : Except AuthError Claims := do
  let payload ← verify cfg token
  if payload.exp ≤ now then .error (.value "Token expired") else .ok payload

theorem decode_sign (cfg : Settings) (payload : Claims) (now : Int) :
    decode cfg (.token (sign cfg payload)) now =
      if payload.exp ≤ now then .error (.value "Token expired") else .ok payload := by
  simp [decode, verify, sign, bind, Except.bind]

/-- A token that decodes carries the right signature and has not expired. -/
theorem decode_ok {cfg : Settings} {token : Bearer} {now : Int} {claims : Claims}
    (h : decode cfg token now = .ok claims) :
    token = .token (sign cfg claims) ∧ now < claims.exp := by
  unfold decode at h
  cases token with
  | malformed text => simp [verify, bind, Except.bind] at h
  | token t =>
    simp only [verify] at h
    split at h
    · rename_i hsig
      simp only [bind, Except.bind] at h
      split at h
      · cases h
      · rename_i hexp
        cases h
        obtain ⟨body, signature⟩ := t
        have hsig : signature = cfg.crypto.sha256 body cfg.secretKey := hsig
        exact ⟨by rw [sign, ← hsig], Int.not_le.1 hexp⟩
    · simp [bind, Except.bind] at h

end TokenService

/-! ## AuthenticationService -/

/-- The body of `POST /auth/register`, as its schema admits it. -/
structure RegisterRequest where
  username : String
  email : String
  password : String
  roles : List String := []
  username_nonempty : 1 ≤ username.length
  password_long : 8 ≤ password.length

structure TokenPair where
  accessToken : Token
  refreshToken : Bearer

namespace AuthenticationService

def hashPassword (cfg : Settings) (salt password : String) : PasswordHash :=
  ⟨cfg.iterations, salt, cfg.crypto.pbkdf2 password salt cfg.iterations⟩

def verifyPassword (cfg : Settings) (password : String) (h : PasswordHash) : Bool :=
  cfg.crypto.pbkdf2 password h.salt h.iterations == h.hash

/-- The roles of the given names, in order. -/
def resolveRoles (db : AuthDb) : List String → Except AuthError (List Role)
  | [] => .ok []
  | name :: names =>
    match db.getRole name with
    | none => .error (.value s!"Role not found: {name}")
    | some role => (resolveRoles db names).map (role :: ·)

/-- The row `register_user` creates. -/
def newUser (cfg : Settings) (payload : RegisterRequest) (userId : UUID) (salt : String)
    (roles : List Role) : AuthUser where
  id := userId
  username := payload.username
  email := payload.email
  passwordHash := hashPassword cfg salt payload.password
  roles := roles.map (·.id)

@[simp] theorem newUser_id (cfg : Settings) (payload : RegisterRequest) (userId : UUID)
    (salt : String) (roles : List Role) : (newUser cfg payload userId salt roles).id = userId := rfl

/-- `register_user`. -/
def registerUser (cfg : Settings) (db : AuthDb) (payload : RegisterRequest) (userId : UUID)
    (salt : String) : Except AuthError AuthDb :=
  if (db.getByUsername payload.username).isSome then .error (.value "User already exists")
  else do
    let roles ← resolveRoles db payload.roles
    db.createUser (newUser cfg payload userId salt roles)

/-- `authenticate_user`. -/
def authenticateUser (cfg : Settings) (db : AuthDb) (username password : String) (now : Int) :
    Except AuthError TokenPair :=
  match db.getByUsername username with
  | none => .error (.value "Invalid credentials")
  | some user =>
    if verifyPassword cfg password user.passwordHash = false then
      .error (.value "Invalid credentials")
    else if user.isActive = false then .error (.value "User is inactive")
    else .ok {
      accessToken :=
        TokenService.encode cfg user.id .access user.username now cfg.accessTokenTtlSeconds
      refreshToken := .token
        (TokenService.encode cfg user.id .refresh user.username now cfg.refreshTokenTtlSeconds) }

/-- `refresh_access_token`. -/
def refreshAccessToken (cfg : Settings) (db : AuthDb) (refreshToken : Bearer) (now : Int) :
    Except AuthError TokenPair := do
  let claims ← TokenService.decode cfg refreshToken now
  if claims.type ≠ .refresh then .error (.value "Invalid token type")
  else match db.getUser claims.sub with
    | none => .error (.value "Invalid refresh token")
    | some user =>
      if user.isActive = false then .error (.value "Invalid refresh token")
      else .ok {
        accessToken := TokenService.encode cfg user.id .access user.username now 900
        refreshToken := refreshToken }

/-- `get_current_user` of the service. It does not look at `is_active`. -/
def getCurrentUser (cfg : Settings) (db : AuthDb) (token : Bearer) (now : Int) : Option User :=
  match TokenService.decode cfg token now with
  | .error _ => none
  | .ok claims => if claims.type ≠ .access then none else db.getUser claims.sub

end AuthenticationService

/-! ## Authorization -/

/-- `AuthorizationService.authorize`. -/
def authorize (user : User) (permissionName : String) : Bool :=
  user.roles.any fun role => role.permissions.any fun p => p.name == permissionName

/-- The status codes of the dependencies. -/
inductive HttpError where
  | unauthorized (detail : String)
  | forbidden
  deriving DecidableEq

/-- `get_current_user` of the routes. -/
def currentUser (cfg : Settings) (db : AuthDb) (credentials : Option Bearer) (now : Int) :
    Except HttpError User :=
  match credentials with
  | none => .error (.unauthorized "Missing token")
  | some token =>
    match AuthenticationService.getCurrentUser cfg db token now with
    | none => .error (.unauthorized "Invalid token")
    | some user => .ok user

/-- `require_permission`. -/
def requirePermission (cfg : Settings) (db : AuthDb) (credentials : Option Bearer) (now : Int)
    (permissionName : String) : Except HttpError User := do
  let user ← currentUser cfg db credentials now
  if authorize user permissionName then .ok user else .error .forbidden

/-- Settings for examples. -/
def sampleSettings : Settings where
  crypto := { sha256 := fun _ key => key, pbkdf2 := fun password salt _ => password ++ salt }

/-! ## What the operations answer -/

theorem conflicts_false {db : AuthDb} {row : AuthUser} : db.conflicts row = false ↔
    db.users.get row.id = none ∧
      (∀ id u, db.users.get id = some u → u.username ≠ row.username ∧ u.email ≠ row.email) ∧
      row.roles.Nodup := by
  unfold AuthDb.conflicts
  simp only [Bool.or_eq_false_iff, Option.isSome_eq_false_iff, Option.isNone_iff_eq_none,
    List.any_eq_false, Bool.not_eq_false', decide_eq_true_eq, and_assoc, beq_iff_eq,
    Bool.or_eq_true, not_or]
  refine and_congr_right fun _ => and_congr_left fun _ => ?_
  constructor
  · intro h id u hu
    exact h u (Tbl.mem_rows_of_get hu)
  · intro h u hu
    exact h u.id u (Tbl.mem_rows.1 hu)

namespace AuthenticationService

/-- A registration that succeeds finds the username free and adds one user, with the roles it
names. -/
theorem registerUser_ok {cfg : Settings} {db db' : AuthDb} {payload : RegisterRequest}
    {userId : UUID} {salt : String} (h : registerUser cfg db payload userId salt = .ok db') :
    ∃ roles, resolveRoles db payload.roles = .ok roles ∧
      db.conflicts (newUser cfg payload userId salt roles) = false ∧
      db' = { db with users := db.users.set (newUser cfg payload userId salt roles) } := by
  unfold registerUser at h
  split at h
  · cases h
  · cases hroles : resolveRoles db payload.roles with
    | error e => simp [hroles, bind, Except.bind] at h
    | ok roles =>
      simp only [hroles, bind, Except.bind, AuthDb.createUser] at h
      split at h
      · cases h
      · rename_i hfree
        cases h
        exact ⟨roles, rfl, Bool.eq_false_iff.2 hfree, rfl⟩

/-- A registration changes no user that is there. -/
theorem registerUser_keeps {cfg : Settings} {db db' : AuthDb} {payload : RegisterRequest}
    {userId : UUID} {salt : String} {id : UUID} {row : AuthUser}
    (hok : registerUser cfg db payload userId salt = .ok db')
    (h : db.users.get id = some row) : db'.users.get id = some row := by
  obtain ⟨roles, _, hfree, rfl⟩ := registerUser_ok hok
  have hfresh : db.users.get userId = none := (conflicts_false.1 hfree).1
  have hne : id ≠ userId := by
    rintro rfl
    rw [hfresh] at h
    cases h
  rw [Tbl.get_set, newUser_id, if_neg hne]
  exact h

theorem resolveRoles_length {db : AuthDb} {names : List String} {roles : List Role}
    (h : resolveRoles db names = .ok roles) : roles.length = names.length := by
  induction names generalizing roles with
  | nil => cases h; rfl
  | cons name names ih =>
    unfold resolveRoles at h
    split at h
    · cases h
    · cases hrest : resolveRoles db names with
      | error e => simp [hrest, Except.map] at h
      | ok rest =>
        rw [hrest] at h
        cases h
        rw [List.length_cons, List.length_cons, ih hrest]

/-- The tokens of a login are for a user of that name, who is active. -/
theorem authenticateUser_ok {cfg : Settings} {db : AuthDb} {username password : String} {now : Int}
    {pair : TokenPair} (h : authenticateUser cfg db username password now = .ok pair) :
    ∃ row, db.findUsername username = some row ∧
      verifyPassword cfg password row.passwordHash = true ∧ row.isActive = true ∧
      pair.accessToken =
        TokenService.encode cfg row.id .access row.username now cfg.accessTokenTtlSeconds ∧
      pair.refreshToken = .token
        (TokenService.encode cfg row.id .refresh row.username now cfg.refreshTokenTtlSeconds) := by
  unfold authenticateUser AuthDb.getByUsername at h
  cases hrow : db.findUsername username with
  | none => simp [hrow] at h
  | some row =>
    simp only [hrow, Option.map_some] at h
    split at h
    · cases h
    · rename_i hverify
      split at h
      · cases h
      · rename_i hactive
        cases h
        exact ⟨row, rfl, by simpa [AuthDb.toDomain] using hverify,
          by simpa [AuthDb.toDomain] using hactive, rfl, rfl⟩

/-- A refreshed token is for the user of the refresh token, who is active. -/
theorem refreshAccessToken_ok {cfg : Settings} {db : AuthDb} {token : Bearer} {now : Int}
    {pair : TokenPair} (h : refreshAccessToken cfg db token now = .ok pair) :
    ∃ row, (∃ claims, TokenService.decode cfg token now = .ok claims ∧ claims.type = .refresh ∧
        db.users.get claims.sub = some row) ∧ row.isActive = true ∧
      pair.accessToken = TokenService.encode cfg row.id .access row.username now 900 ∧
      pair.refreshToken = token := by
  unfold refreshAccessToken at h
  cases hdec : TokenService.decode cfg token now with
  | error e => simp [hdec, bind, Except.bind] at h
  | ok claims =>
    simp only [hdec, bind, Except.bind, AuthDb.getUser] at h
    split at h
    · cases h
    · rename_i htype
      cases hrow : db.users.get claims.sub with
      | none => simp [hrow] at h
      | some row =>
        simp only [hrow, Option.map_some] at h
        split at h
        · cases h
        · rename_i hactive
          cases h
          exact ⟨row, ⟨claims, rfl, by simpa using htype, hrow⟩,
            by simpa [AuthDb.toDomain] using hactive, rfl, rfl⟩

/-- A token is accepted if and only if it is an access token of the service that has not expired,
of a user that exists. -/
theorem getCurrentUser_some {cfg : Settings} {db : AuthDb} {token : Bearer} {now : Int}
    {user : User} : getCurrentUser cfg db token now = some user ↔
      ∃ claims row, token = .token (TokenService.sign cfg claims) ∧ now < claims.exp ∧
        claims.type = .access ∧ db.users.get claims.sub = some row ∧ user = db.toDomain row := by
  constructor
  · intro h
    unfold getCurrentUser at h
    split at h
    · cases h
    · rename_i claims hdec
      split at h
      · cases h
      · rename_i htype
        obtain ⟨htoken, hexp⟩ := TokenService.decode_ok hdec
        obtain ⟨row, hrow, hdom⟩ := Option.map_eq_some_iff.1 h
        exact ⟨claims, row, htoken, hexp, by simpa using htype, hrow, hdom.symm⟩
  · rintro ⟨claims, row, rfl, hexp, htype, hrow, rfl⟩
    unfold getCurrentUser
    rw [TokenService.decode_sign, if_neg (Int.not_le.2 hexp)]
    simp [htype, AuthDb.getUser, hrow]

end AuthenticationService

theorem currentUser_ok {cfg : Settings} {db : AuthDb} {token : Bearer} {now : Int} {user : User} :
    currentUser cfg db (some token) now = .ok user ↔
      AuthenticationService.getCurrentUser cfg db token now = some user := by
  simp only [currentUser]
  cases AuthenticationService.getCurrentUser cfg db token now <;> simp

theorem requirePermission_ok {cfg : Settings} {db : AuthDb} {credentials : Option Bearer}
    {now : Int} {permissionName : String} {user : User} :
    requirePermission cfg db credentials now permissionName = .ok user ↔
      currentUser cfg db credentials now = .ok user ∧ authorize user permissionName = true := by
  unfold requirePermission
  cases hu : currentUser cfg db credentials now with
  | error e => simp [bind, Except.bind]
  | ok u =>
    simp only [bind, Except.bind, Except.ok.injEq]
    constructor
    · intro h
      split at h
      · rename_i hp
        cases h
        exact ⟨rfl, hp⟩
      · cases h
    · rintro ⟨rfl, hp⟩
      rw [if_pos hp]

/-- A token the service has signed is accepted if and only if it is a live access token of a user
that exists. -/
theorem currentUser_sign {cfg : Settings} {db : AuthDb} {claims : Claims} {now : Int}
    {user : User} :
    currentUser cfg db (some (.token (TokenService.sign cfg claims))) now = .ok user ↔
      claims.type = .access ∧ now < claims.exp ∧ db.getUser claims.sub = some user := by
  rw [currentUser_ok, AuthenticationService.getCurrentUser_some]
  constructor
  · rintro ⟨claims', row, htok, hexp, htype, hrow, rfl⟩
    injection htok with hsign
    have hsame : claims = claims' := congrArg Token.body hsign
    subst hsame
    exact ⟨htype, hexp, by rw [AuthDb.getUser, hrow]; rfl⟩
  · rintro ⟨htype, hexp, huser⟩
    obtain ⟨row, hrow, hdom⟩ := Option.map_eq_some_iff.1 huser
    exact ⟨claims, row, rfl, hexp, htype, hrow, hdom.symm⟩

end Auth
end NetOps
