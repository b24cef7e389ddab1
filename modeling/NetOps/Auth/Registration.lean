import NetOps.Auth.Service

/-!
# Auth.Registration

The `/auth` routes as clients use them who hold no credentials. Registration resolves the role
names a client sends and grants them, so clients gain nothing if and only if no registration that
names roles is admitted (`no_escalation_iff`).
-/

namespace NetOps
namespace Auth

open Conc AuthenticationService
open Discovery (UUID)

/-! ## Requests -/

/-- A request to `/auth`. A registration comes with the id and the salt it will draw, the others
with the time they come at. -/
inductive AuthRequest where
  | register (payload : RegisterRequest) (userId : UUID) (salt : String)
  | login (username password : String) (now : Int)
  | me (credentials : Option Bearer) (now : Int)

/-- What the routes answer. -/
inductive AuthResponse where
  | user (u : User)
  | tokens (pair : TokenPair)
  | failure (status : Nat) (detail : String)

/-- The database, and the tokens the clients have been given. -/
structure AuthState where
  db : AuthDb
  tokens : List Bearer := []

/-- The status and detail of a failed registration. -/
def AuthError.registerFailure : AuthError → AuthResponse
  | .value message => .failure 400 message
  | .integrity => .failure 500 "Internal Server Error"

/-- The status and detail of a failed login. -/
def AuthError.loginFailure : AuthError → AuthResponse
  | .value message => .failure 401 message
  | .integrity => .failure 500 "Internal Server Error"

/-- One request. -/
def handle (cfg : Settings) (s : AuthState) : AuthRequest → AuthResponse × AuthState
  | .register payload userId salt =>
    match registerUser cfg s.db payload userId salt with
    | .error e => (e.registerFailure, s)
    | .ok db =>
      match db.getUser userId with
      | none => (.failure 500 "Internal Server Error", { s with db := db })
      | some user => (.user user, { s with db := db })
  | .login username password now =>
    match authenticateUser cfg s.db username password now with
    | .error e => (e.loginFailure, s)
    | .ok pair => (.tokens pair,
        { s with tokens := s.tokens ++ [.token pair.accessToken, pair.refreshToken] })
  | .me credentials now =>
    match currentUser cfg s.db credentials now with
    | .error (.unauthorized detail) => (.failure 401 detail, s)
    | .error .forbidden => (.failure 403 "Forbidden", s)
    | .ok user => (.user user, s)

/-- The state after a request. -/
def after (cfg : Settings) (s : AuthState) (e : AuthRequest) : AuthState := (handle cfg s e).2

/-- The state after a sequence of requests. -/
def serve (cfg : Settings) (s : AuthState) (es : List AuthRequest) : AuthState :=
  es.foldl (after cfg) s

theorem serve_cons (cfg : Settings) (s : AuthState) (e : AuthRequest) (es : List AuthRequest) :
    serve cfg s (e :: es) = serve cfg (after cfg s e) es := rfl

/-! ## Clients without credentials -/

/-- No login of the sequence knows the password of a user that is there at the start. -/
def NoCredentials (cfg : Settings) (db : AuthDb) (es : List AuthRequest) : Prop :=
  ∀ username password now, AuthRequest.login username password now ∈ es →
    ∀ id row, db.users.get id = some row → row.username = username →
      verifyPassword cfg password row.passwordHash = false

/-- The clients have gained nothing over the database `db`: the users they created or can act as
carry no role, and no permission accepts their tokens, whenever they use them. -/
structure NothingGained (cfg : Settings) (db : AuthDb) (s : AuthState) : Prop where
  created : ∀ id row, s.db.users.get id = some row → db.users.get id = none → row.roles = []
  reachable : ∀ token ∈ s.tokens, ∀ now user,
    currentUser cfg s.db (some token) now = .ok user → user.roles = []
  refused : ∀ token ∈ s.tokens, ∀ now permissionName user,
    requirePermission cfg s.db (some token) now permissionName ≠ .ok user

/-- The registration is admitted: the user is new, and the roles are there and different. -/
structure Admits (db : AuthDb) (payload : RegisterRequest) (userId : UUID) : Prop where
  fresh : db.users.get userId = none
  free : ∀ id row, db.users.get id = some row →
    row.username ≠ payload.username ∧ row.email ≠ payload.email
  known : ∀ name ∈ payload.roles, (db.getRole name).isSome = true
  distinct : payload.roles.Nodup

/-- The request is no admitted registration that names roles. -/
def GrantsNothing (s : AuthState) : AuthRequest → Prop
  | .register payload userId _ => payload.roles ≠ [] → ¬ Admits s.db payload userId
  | _ => True

/-- No registration of the sequence that names roles is admitted in the state it meets. -/
def RolesRefused (cfg : Settings) : AuthState → List AuthRequest → Prop
  | _, [] => True
  | s, e :: es => GrantsNothing s e ∧ RolesRefused cfg (after cfg s e) es

/-! ## Registration -/

theorem getRole_some {db : AuthDb} {name : String} {role : Role} (h : db.getRole name = some role) :
    db.roles.get role.id = some role ∧ role.name = name := by
  have hmem := List.mem_of_find?_eq_some h
  have hname := List.find?_some h
  exact ⟨Tbl.mem_rows.1 hmem, by simpa using hname⟩

/-- The names resolve if and only if each is there, to its role. -/
theorem resolveRoles_ok {db : AuthDb} {names : List String} {roles : List Role} :
    resolveRoles db names = .ok roles ↔ names.map db.getRole = roles.map some := by
  induction names generalizing roles with
  | nil => cases roles <;> simp [resolveRoles]
  | cons name names ih =>
    unfold resolveRoles
    cases hrole : db.getRole name with
    | none => cases roles <;> simp [hrole]
    | some role =>
      cases hrest : resolveRoles db names with
      | error e =>
        have hnone : ∀ rest : List Role, names.map db.getRole ≠ rest.map some := by
          intro rest he
          rw [ih.2 he] at hrest
          cases hrest
        cases roles with
        | nil => simp [Except.map]
        | cons r rest => simp [Except.map, hnone]
      | ok rest =>
        have hmap := ih.1 hrest
        cases roles with
        | nil => simp [Except.map]
        | cons r rest' =>
          simp only [Except.map, Except.ok.injEq, List.cons.injEq, List.map_cons, hrole,
            Option.some.injEq, hmap]
          refine and_congr_right fun _ => ?_
          exact (List.map_inj_right fun _ _ h => Option.some.inj h).symm

theorem resolved_nodup {db : AuthDb} {names : List String} {roles : List Role}
    (h : names.map db.getRole = roles.map some) :
    (roles.map (·.id)).Nodup ↔ names.Nodup := by
  have hnames : roles.map (·.name) = names := by
    induction names generalizing roles with
    | nil => cases roles <;> simp at h ⊢
    | cons name names ih =>
      cases roles with
      | nil => simp at h
      | cons role roles =>
        simp only [List.map_cons, List.cons.injEq] at h ⊢
        exact ⟨(getRole_some h.1).2, ih h.2⟩
  have hget : ∀ role ∈ roles, db.roles.get role.id = some role := by
    intro role hr
    have hsome : some role ∈ names.map db.getRole := by rw [h]; exact List.mem_map_of_mem hr
    obtain ⟨name, _, hname⟩ := List.mem_map.1 hsome
    exact (getRole_some hname).1
  have hstored : ∀ role ∈ roles, db.getRole role.name = some role := by
    intro role hr
    have hsome : some role ∈ names.map db.getRole := by rw [h]; exact List.mem_map_of_mem hr
    obtain ⟨name, _, hname⟩ := List.mem_map.1 hsome
    rw [(getRole_some hname).2]
    exact hname
  rw [← hnames]
  constructor
  · intro hid
    refine (List.nodup_map_iff_inj_on (List.Nodup.of_map _ hid)).2 fun a ha b hb he => ?_
    have hsame : some a = some b := by rw [← hstored a ha, ← hstored b hb, he]
    exact Option.some.inj hsame
  · intro hname
    refine (List.nodup_map_iff_inj_on (List.Nodup.of_map _ hname)).2 fun a ha b hb he => ?_
    have hsame : some a = some b := by rw [← hget a ha, ← hget b hb, he]
    exact Option.some.inj hsame

theorem getByUsername_none {db : AuthDb} {username : String}
    (h : ∀ id row, db.users.get id = some row → row.username ≠ username) :
    (db.getByUsername username).isSome = false := by
  have hnone : db.findUsername username = none := by
    refine List.find?_eq_none.2 fun u hu => ?_
    have hne := h u.id u (Tbl.mem_rows.1 hu)
    simpa using hne
  rw [AuthDb.getByUsername, hnone]
  rfl

/-- A registration succeeds if and only if it is admitted. It adds the new user, with one role for
each name. -/
theorem registerUser_admits (cfg : Settings) {db : AuthDb} {payload : RegisterRequest}
    {userId : UUID} (salt : String) : Admits db payload userId ↔
      ∃ roles, roles.length = payload.roles.length ∧
        registerUser cfg db payload userId salt =
          .ok { db with users := db.users.set (newUser cfg payload userId salt roles) } := by
  constructor
  · intro h
    have hroles : ∃ roles : List Role, payload.roles.map db.getRole = roles.map some := by
      have hknown := h.known
      generalize payload.roles = names at hknown
      induction names with
      | nil => exact ⟨[], rfl⟩
      | cons name names ih =>
        obtain ⟨role, hrole⟩ := Option.isSome_iff_exists.1 (hknown name List.mem_cons_self)
        obtain ⟨roles, hmap⟩ := ih fun n hn => hknown n (List.mem_cons_of_mem _ hn)
        exact ⟨role :: roles, by simp [hrole, hmap]⟩
    obtain ⟨roles, hmap⟩ := hroles
    have hfree : db.conflicts (newUser cfg payload userId salt roles) = false :=
      conflicts_false.2 ⟨h.fresh, h.free, (resolved_nodup hmap).2 h.distinct⟩
    have hresolve := resolveRoles_ok.2 hmap
    have hname := getByUsername_none fun id row hrow => (h.free id row hrow).1
    refine ⟨roles, resolveRoles_length hresolve, ?_⟩
    unfold registerUser
    rw [hname, hresolve]
    simp [bind, Except.bind, AuthDb.createUser, hfree]
  · rintro ⟨_, _, hok⟩
    obtain ⟨roles, hresolve, hfree, _⟩ := registerUser_ok hok
    obtain ⟨hfresh, hnames, hnodup⟩ := conflicts_false.1 hfree
    have hmap := resolveRoles_ok.1 hresolve
    refine ⟨hfresh, hnames, ?_, (resolved_nodup hmap).1 hnodup⟩
    intro name hname
    have hsome : db.getRole name ∈ roles.map some := by
      rw [← hmap]
      exact List.mem_map_of_mem hname
    obtain ⟨role, _, hrole⟩ := List.mem_map.1 hsome
    rw [← hrole]
    rfl

/-! ## Sequences of requests -/

/-- No request changes a user that is there. -/
theorem after_keeps {cfg : Settings} {s : AuthState} {e : AuthRequest} {id : UUID} {row : AuthUser}
    (h : s.db.users.get id = some row) : (after cfg s e).db.users.get id = some row := by
  unfold after
  cases e with
  | login username password now =>
    simp only [handle]
    split <;> exact h
  | me credentials now =>
    simp only [handle]
    split <;> exact h
  | register payload userId salt =>
    simp only [handle]
    split
    · exact h
    · rename_i db hok
      have hkept := registerUser_keeps hok h
      split <;> exact hkept

theorem serve_keeps {cfg : Settings} {s : AuthState} {es : List AuthRequest} {id : UUID}
    {row : AuthUser} (h : s.db.users.get id = some row) :
    (serve cfg s es).db.users.get id = some row := by
  induction es generalizing s with
  | nil => exact h
  | cons e es ih => exact ih (after_keeps h)

/-- What holds of the state as long as no registration is admitted that names roles: the users of
`db` are kept, new ones have no roles, and the tokens are for new ones. -/
structure Unprivileged (cfg : Settings) (db : AuthDb) (s : AuthState) : Prop where
  kept : ∀ id row, db.users.get id = some row → s.db.users.get id = some row
  created : ∀ id row, s.db.users.get id = some row → db.users.get id = none → row.roles = []
  held : ∀ token ∈ s.tokens, ∃ claims row, token = .token (TokenService.sign cfg claims) ∧
    db.users.get claims.sub = none ∧ s.db.users.get claims.sub = some row

theorem Unprivileged.start (cfg : Settings) (db : AuthDb) : Unprivileged cfg db ⟨db, []⟩ where
  kept _ _ h := h
  created id row h hnew := by
    rw [hnew] at h
    cases h
  held _ h := by cases h

theorem Unprivileged.nothingGained {cfg : Settings} {db : AuthDb} {s : AuthState}
    (h : Unprivileged cfg db s) : NothingGained cfg db s := by
  have hreach : ∀ token ∈ s.tokens, ∀ now user,
      currentUser cfg s.db (some token) now = .ok user → user.roles = [] := by
    intro token htoken now user huser
    obtain ⟨claims, row, htok, hnew, hrow⟩ := h.held token htoken
    rw [htok] at huser
    obtain ⟨_, _, hget⟩ := currentUser_sign.1 huser
    rw [AuthDb.getUser, hrow] at hget
    cases hget
    have hempty := h.created _ row hrow hnew
    simp [AuthDb.toDomain, hempty]
  refine ⟨h.created, hreach, ?_⟩
  intro token htoken now permissionName user hok
  obtain ⟨huser, hauth⟩ := requirePermission_ok.1 hok
  have hroles := hreach token htoken now user huser
  simp [authorize, hroles] at hauth

/-- An admitted registration that names no roles, of a user that is not there, keeps the
invariant. -/
theorem Unprivileged.register {cfg : Settings} {db : AuthDb} {s : AuthState}
    (h : Unprivileged cfg db s) {db' : AuthDb} {payload : RegisterRequest} {userId : UUID}
    {salt : String} (hgrants : GrantsNothing s (.register payload userId salt))
    (hok : registerUser cfg s.db payload userId salt = .ok db') :
    Unprivileged cfg db { s with db := db' } := by
  obtain ⟨roles, hresolve, hfree, rfl⟩ := registerUser_ok hok
  have hadmits : Admits s.db payload userId :=
    (registerUser_admits _ _).2 ⟨roles, resolveRoles_length hresolve, hok⟩
  have hnames : payload.roles = [] := by
    by_contra hne
    exact hgrants hne hadmits
  have hroles : roles = [] := by
    rw [hnames] at hresolve
    cases hresolve
    rfl
  subst hroles
  constructor
  · intro id row hrow
    exact registerUser_keeps hok (h.kept id row hrow)
  · intro id row hrow hnew
    rw [Tbl.get_set] at hrow
    split at hrow
    · cases hrow
      rfl
    · exact h.created id row hrow hnew
  · intro token htoken
    obtain ⟨claims, row, htok, hnew, hrow⟩ := h.held token htoken
    exact ⟨claims, row, htok, hnew, registerUser_keeps hok hrow⟩

/-- A login keeps the invariant: whoever can log in is a new user. -/
theorem Unprivileged.login {cfg : Settings} {db : AuthDb} {s : AuthState}
    (h : Unprivileged cfg db s) {username password : String} {now : Int} {pair : TokenPair}
    (hunknown : ∀ id row, db.users.get id = some row → row.username = username →
      verifyPassword cfg password row.passwordHash = false)
    (hok : authenticateUser cfg s.db username password now = .ok pair) :
    Unprivileged cfg db
      { s with tokens := s.tokens ++ [.token pair.accessToken, pair.refreshToken] } := by
  obtain ⟨row, hfind, hverify, _, haccess, hrefresh⟩ := authenticateUser_ok hok
  have hrow : s.db.users.get row.id = some row :=
    Tbl.mem_rows.1 (List.mem_of_find?_eq_some hfind)
  have hname : row.username = username := by simpa using List.find?_some hfind
  have hnew : db.users.get row.id = none := by
    rw [Option.eq_none_iff_forall_not_mem]
    intro row' hold
    have hsame := h.kept row.id row' hold
    rw [hrow] at hsame
    cases hsame
    rw [hunknown row.id row hold hname] at hverify
    cases hverify
  refine ⟨h.kept, h.created, ?_⟩
  intro token htoken
  rcases List.mem_append.1 htoken with hheld | hissued
  · exact h.held token hheld
  · simp only [List.mem_cons, List.not_mem_nil, or_false, haccess, hrefresh] at hissued
    rcases hissued with rfl | rfl
    · exact ⟨_, row, rfl, hnew, hrow⟩
    · exact ⟨_, row, rfl, hnew, hrow⟩

theorem Unprivileged.after {cfg : Settings} {db : AuthDb} {s : AuthState}
    (h : Unprivileged cfg db s) {e : AuthRequest} (hcred : NoCredentials cfg db [e])
    (hgrants : GrantsNothing s e) : Unprivileged cfg db (after cfg s e) := by
  unfold Auth.after
  cases e with
  | me credentials now =>
    simp only [handle]
    split <;> exact h
  | login username password now =>
    simp only [handle]
    split
    · exact h
    · rename_i pair hok
      exact h.login (hcred username password now List.mem_cons_self) hok
  | register payload userId salt =>
    simp only [handle]
    split
    · exact h
    · rename_i db' hok
      have hdone := h.register hgrants hok
      split <;> exact hdone

theorem Unprivileged.serve {cfg : Settings} {db : AuthDb} {es : List AuthRequest} {s : AuthState}
    (h : Unprivileged cfg db s) (hcred : NoCredentials cfg db es)
    (hrefused : RolesRefused cfg s es) : Unprivileged cfg db (serve cfg s es) := by
  induction es generalizing s with
  | nil => exact h
  | cons e es ih =>
    have hone : NoCredentials cfg db [e] := by
      intro username password now hmem
      rw [List.mem_singleton] at hmem
      exact hcred username password now (by rw [hmem]; exact List.mem_cons_self)
    have hrest : NoCredentials cfg db es := fun username password now hmem =>
      hcred username password now (List.mem_cons_of_mem _ hmem)
    exact ih (h.after hone hrefused.1) hrest hrefused.2

/-- Whoever registers with roles keeps them to the end of the sequence. -/
theorem granted_kept (cfg : Settings) {s : AuthState} {payload : RegisterRequest} {userId : UUID}
    (salt : String) (es : List AuthRequest) (hroles : payload.roles ≠ [])
    (hadmits : Admits s.db payload userId) :
    ∃ row, (serve cfg s (.register payload userId salt :: es)).db.users.get userId = some row ∧
      row.roles ≠ [] := by
  obtain ⟨roles, hlen, hok⟩ := (registerUser_admits cfg salt).1 hadmits
  refine ⟨newUser cfg payload userId salt roles, ?_, ?_⟩
  · have hnow : (after cfg s (.register payload userId salt)).db.users.get userId =
        some (newUser cfg payload userId salt roles) := by
      unfold after
      simp only [handle, hok]
      split <;> simp
    rw [serve_cons]
    exact serve_keeps hnow
  · intro hnil
    have hzero : roles = [] := List.map_eq_nil_iff.1 hnil
    rw [hzero, List.length_nil] at hlen
    exact hroles (List.length_eq_zero_iff.1 hlen.symm)

/-- Clients without credentials gain no role and no permission, in whatever order they register,
log in and ask who they are, if and only if no registration of theirs that names roles is
admitted. -/
theorem no_escalation_iff (cfg : Settings) (db : AuthDb) (es : List AuthRequest)
    (hcred : NoCredentials cfg db es) :
    NothingGained cfg db (serve cfg ⟨db, []⟩ es) ↔ RolesRefused cfg ⟨db, []⟩ es := by
  constructor
  · intro hgained
    have hcreated := hgained.created
    have hkept : ∀ id row, db.users.get id = some row →
        (⟨db, []⟩ : AuthState).db.users.get id = some row := fun _ _ h => h
    clear hgained hcred
    generalize (⟨db, []⟩ : AuthState) = s at hcreated hkept
    induction es generalizing s with
    | nil => trivial
    | cons e es ih =>
      refine ⟨?_, ih (after cfg s e) hcreated fun id row hrow => after_keeps (hkept id row hrow)⟩
      cases e with
      | login username password now => trivial
      | me credentials now => trivial
      | register payload userId salt =>
        intro hroles hadmits
        obtain ⟨row, hrow, hne⟩ := granted_kept cfg salt es hroles hadmits
        have hnew : db.users.get userId = none := by
          rw [Option.eq_none_iff_forall_not_mem]
          intro row' hold
          have hthere := hkept userId row' hold
          rw [hadmits.fresh] at hthere
          cases hthere
        exact hne (hcreated userId row hrow hnew)
  · intro hrefused
    exact ((Unprivileged.start cfg db).serve hcred hrefused).nothingGained

/-! ## A client that asks for a role -/

/-- The role of administrators is there, no user yet. -/
def adminDb : AuthDb where
  users := .empty
  roles := Tbl.empty.set ⟨1, "admin", [⟨2, "discovery:target:write"⟩]⟩

theorem samplePassword_long : 8 ≤ "password".length := by decide

/-- A client registers with the given roles and logs in. -/
def registersAndLogsIn (roles : List String) : List AuthRequest :=
  [.register ⟨"mallory", "mallory@example.org", "password", roles, by decide,
     samplePassword_long⟩ 7 "salt",
   .login "mallory" "password" 0]

theorem adminDb_noCredentials (es : List AuthRequest) :
    NoCredentials sampleSettings adminDb es := by
  intro _ _ _ _ id row hrow
  cases hrow

theorem no_escalation_iff_plain :
    NothingGained sampleSettings adminDb
        (serve sampleSettings ⟨adminDb, []⟩ (registersAndLogsIn [])) ↔
      RolesRefused sampleSettings ⟨adminDb, []⟩ (registersAndLogsIn []) :=
  no_escalation_iff sampleSettings adminDb (registersAndLogsIn []) (adminDb_noCredentials _)

/-- Whoever registers as an administrator is one: the client had no credentials, and its token
has the permission. -/
theorem admin_registers :
    NoCredentials sampleSettings adminDb (registersAndLogsIn ["admin"]) ∧
      ¬ NothingGained sampleSettings adminDb
        (serve sampleSettings ⟨adminDb, []⟩ (registersAndLogsIn ["admin"])) := by
  refine ⟨adminDb_noCredentials _, fun h => ?_⟩
  have haccepted : ((serve sampleSettings ⟨adminDb, []⟩ (registersAndLogsIn ["admin"])).tokens.any
      fun token => (requirePermission sampleSettings
        (serve sampleSettings ⟨adminDb, []⟩ (registersAndLogsIn ["admin"])).db
        (some token) 0 "discovery:target:write").isOk) = true := by
    decide
  obtain ⟨token, htoken, hok⟩ := List.any_eq_true.1 haccepted
  have hrefused := h.refused token htoken 0 "discovery:target:write"
  cases hres : requirePermission sampleSettings
      (serve sampleSettings ⟨adminDb, []⟩ (registersAndLogsIn ["admin"])).db
      (some token) 0 "discovery:target:write" with
  | error e =>
    rw [hres] at hok
    cases hok
  | ok user => exact hrefused user hres

end Auth
end NetOps
