import NetOps.Auth.Service

/-!
# Auth.Activity

Histories of users who register, log in, refresh and use tokens, and are deactivated.
`authenticate_user` and `refresh_access_token` look at `is_active`, so no token is issued to an
inactive user. `get_current_user` does not, so an access token is good until it expires, whatever
becomes of its user: inactive users are never authorised if and only if none presents an access
token before it expires (`never_authorised_iff`).
-/

namespace NetOps
namespace Auth

open Conc AuthenticationService
open Discovery (UUID)

/-! ## Histories -/

inductive AuthEvent where
  | register (payload : RegisterRequest) (userId : UUID) (salt : String)
  | login (username password : String)
  | refresh (token : Bearer)
  /-- `is_active` is set to false. -/
  | deactivate (userId : UUID)
  /-- A request to a route that depends on `get_current_user` or, where a permission is given, on
  `require_permission`. -/
  | request (credentials : Option Bearer) (permission : Option String)

/-- The database, and the tokens issued so far. -/
structure History where
  db : AuthDb
  issued : List Bearer := []

/-- The user a token is for. -/
def Bearer.subject : Bearer → Option UUID
  | .token t => some t.body.sub
  | .malformed _ => none

def TokenPair.tokens (pair : TokenPair) : List Bearer :=
  [.token pair.accessToken, pair.refreshToken]

/-- The tokens an event at time `now` issues. -/
def issues (cfg : Settings) (db : AuthDb) (now : Int) : AuthEvent → List Bearer
  | .login username password =>
    match authenticateUser cfg db username password now with
    | .error _ => []
    | .ok pair => pair.tokens
  | .refresh token =>
    match refreshAccessToken cfg db token now with
    | .error _ => []
    | .ok pair => pair.tokens
  | _ => []

/-- The database after an event. -/
def stores (cfg : Settings) (db : AuthDb) : AuthEvent → AuthDb
  | .register payload userId salt =>
    match registerUser cfg db payload userId salt with
    | .error _ => db
    | .ok db' => db'
  | .deactivate userId =>
    match db.users.get userId with
    | none => db
    | some row => { db with users := db.users.set { row with isActive := false } }
  | _ => db

/-- One event, at its time. -/
def History.next (cfg : Settings) (s : History) (e : Int × AuthEvent) : History where
  db := stores cfg s.db e.2
  issued := s.issued ++ issues cfg s.db e.1 e.2

/-- The request passes its dependency. -/
def accepted (cfg : Settings) (db : AuthDb) (credentials : Option Bearer) (now : Int) :
    Option String → Bool
  | none => (currentUser cfg db credentials now).isOk
  | some permissionName => (requirePermission cfg db credentials now permissionName).isOk

/-- `P` of every event of a history, in the state the event meets. -/
def Along (cfg : Settings) (P : History → Int × AuthEvent → Prop) :
    History → List (Int × AuthEvent) → Prop
  | _, [] => True
  | s, e :: es => P s e ∧ Along cfg P (s.next cfg e) es

/-! ## The law -/

def Inactive (db : AuthDb) (userId : UUID) : Prop :=
  ∃ row, db.users.get userId = some row ∧ row.isActive = false

/-- The event authorises no inactive user: no token of such a user is accepted, and none is
issued. -/
structure Lawful (cfg : Settings) (s : History) (e : Int × AuthEvent) : Prop where
  refused : ∀ token ∈ s.issued, ∀ permission, e.2 = .request (some token) permission →
    ∀ userId, token.subject = some userId → Inactive s.db userId →
      accepted cfg s.db (some token) e.1 permission = false
  unissued : ∀ token ∈ issues cfg s.db e.1 e.2, ∀ userId, token.subject = some userId →
    ¬ Inactive s.db userId

/-- The token opens nothing: it is a refresh token, it has expired, or its user lacks the
permission asked for. -/
def Spent (db : AuthDb) (now : Int) (t : Token) (permission : Option String) : Prop :=
  t.body.type = .refresh ∨ t.body.exp ≤ now ∨
    ∃ permissionName user, permission = some permissionName ∧
      db.getUser t.body.sub = some user ∧ authorize user permissionName = false

/-- The event is no request with a live access token of an inactive user. -/
def NoLateUse (s : History) (e : Int × AuthEvent) : Prop :=
  ∀ t, .token t ∈ s.issued → ∀ permission, e.2 = .request (some (.token t)) permission →
    Inactive s.db t.body.sub → Spent s.db e.1 t permission

/-! ## Tokens in circulation -/

theorem stores_keeps (cfg : Settings) {db : AuthDb} (e : AuthEvent) {userId : UUID} {row : AuthUser}
    (h : db.users.get userId = some row) :
    ∃ row', (stores cfg db e).users.get userId = some row' := by
  cases e with
  | login username password => exact ⟨row, h⟩
  | refresh token => exact ⟨row, h⟩
  | request credentials permission => exact ⟨row, h⟩
  | register payload id salt =>
    simp only [stores]
    split
    · exact ⟨row, h⟩
    · rename_i db' hok
      exact ⟨row, registerUser_keeps hok h⟩
  | deactivate id =>
    simp only [stores]
    split
    · exact ⟨row, h⟩
    · rw [Tbl.get_set]
      split
      · exact ⟨_, rfl⟩
      · exact ⟨row, h⟩

/-- Every token issued is signed, and for a user of the database. -/
def Circulating (cfg : Settings) (s : History) : Prop :=
  ∀ token ∈ s.issued, ∃ claims row, token = .token (TokenService.sign cfg claims) ∧
    s.db.users.get claims.sub = some row

/-- A token an event issues is signed, and for a user of the database who is active. -/
theorem issues_active {cfg : Settings} {db : AuthDb} {now : Int} {e : AuthEvent} {token : Bearer}
    (h : token ∈ issues cfg db now e) :
    ∃ claims row, token = .token (TokenService.sign cfg claims) ∧
      db.users.get claims.sub = some row ∧ row.isActive = true := by
  cases e with
  | register payload id salt => cases h
  | deactivate id => cases h
  | request credentials permission => cases h
  | login username password =>
    simp only [issues] at h
    split at h
    · cases h
    · rename_i pair hok
      obtain ⟨row, hfind, _, hactive, haccess, hrefresh⟩ := authenticateUser_ok hok
      have hrow : db.users.get row.id = some row :=
        Tbl.mem_rows.1 (List.mem_of_find?_eq_some hfind)
      simp only [TokenPair.tokens, haccess, hrefresh, List.mem_cons, List.not_mem_nil,
        or_false] at h
      rcases h with rfl | rfl
      · exact ⟨_, row, rfl, hrow, hactive⟩
      · exact ⟨_, row, rfl, hrow, hactive⟩
  | refresh presented =>
    simp only [issues] at h
    split at h
    · cases h
    · rename_i pair hok
      obtain ⟨row, ⟨claims, hdecode, _, hget⟩, hactive, haccess, hrefresh⟩ :=
        refreshAccessToken_ok hok
      have hid : row.id = claims.sub := db.users.keyed _ _ hget
      simp only [TokenPair.tokens, haccess, hrefresh, List.mem_cons, List.not_mem_nil,
        or_false] at h
      rcases h with rfl | rfl
      · exact ⟨_, row, rfl, by rw [hid]; exact hget, hactive⟩
      · exact ⟨claims, row, (TokenService.decode_ok hdecode).1, hget, hactive⟩

theorem Circulating.next {cfg : Settings} {s : History} (h : Circulating cfg s)
    (e : Int × AuthEvent) : Circulating cfg (s.next cfg e) := by
  intro token htoken
  have hold : ∃ claims row, token = .token (TokenService.sign cfg claims) ∧
      s.db.users.get claims.sub = some row := by
    rcases List.mem_append.1 htoken with hissued | hnew
    · exact h token hissued
    · obtain ⟨claims, row, htok, hrow, _⟩ := issues_active hnew
      exact ⟨claims, row, htok, hrow⟩
  obtain ⟨claims, row, htok, hrow⟩ := hold
  obtain ⟨row', hrow'⟩ := stores_keeps cfg e.2 hrow
  exact ⟨claims, row', htok, hrow'⟩

theorem isOk_false {ε α : Type} {x : Except ε α} : x.isOk = false ↔ ∀ a, x ≠ .ok a := by
  cases x <;> simp [Except.isOk, Except.toBool]

/-- A signed token of a user of the database is refused if and only if it is spent. -/
theorem refused_iff {cfg : Settings} {db : AuthDb} {now : Int} {claims : Claims} {row : AuthUser}
    {permission : Option String} (hrow : db.users.get claims.sub = some row) :
    accepted cfg db (some (.token (TokenService.sign cfg claims))) now permission = false ↔
      Spent db now (TokenService.sign cfg claims) permission := by
  have hget : db.getUser claims.sub = some (db.toDomain row) := by
    rw [AuthDb.getUser, hrow]
    rfl
  have htype : claims.type = .refresh ↔ claims.type ≠ .access := by
    cases claims.type <;> simp
  unfold Spent
  simp only [TokenService.sign, hget]
  cases permission with
  | none =>
    simp only [accepted, isOk_false]
    constructor
    · intro h
      have hnot := h (db.toDomain row)
      rw [Ne, ← TokenService.sign, currentUser_sign] at hnot
      by_cases hacc : claims.type = .access
      · exact .inr (.inl (Int.not_lt.1 fun hlt => hnot ⟨hacc, hlt, hget⟩))
      · exact .inl (htype.2 hacc)
    · intro h user huser
      obtain ⟨hacc, hlt, _⟩ := currentUser_sign.1 huser
      rcases h with href | hexp | ⟨_, _, hnone, _⟩
      · exact htype.1 href hacc
      · omega
      · cases hnone
  | some permissionName =>
    simp only [accepted, isOk_false]
    constructor
    · intro h
      have hnot := h (db.toDomain row)
      rw [Ne, requirePermission_ok, ← TokenService.sign, currentUser_sign] at hnot
      by_cases hacc : claims.type = .access
      · by_cases hlt : now < claims.exp
        · refine .inr (.inr ⟨permissionName, db.toDomain row, rfl, rfl, ?_⟩)
          rw [← Bool.not_eq_true]
          intro hauth
          exact hnot ⟨⟨hacc, hlt, hget⟩, hauth⟩
        · exact .inr (.inl (Int.not_lt.1 hlt))
      · exact .inl (htype.2 hacc)
    · intro h user huser
      obtain ⟨hcur, hauth⟩ := requirePermission_ok.1 huser
      obtain ⟨hacc, hlt, hsome⟩ := currentUser_sign.1 hcur
      rcases h with href | hexp | ⟨_, _, hname, hrow', hauth'⟩
      · exact htype.1 href hacc
      · omega
      · cases hname
        rw [hget] at hsome
        cases hsome
        cases hrow'
        rw [hauth] at hauth'
        cases hauth'

/-! ## Inactive users -/

/-- One event authorises no inactive user if and only if it is no request with a live access token
of one. -/
theorem lawful_iff {cfg : Settings} {s : History} (h : Circulating cfg s) (e : Int × AuthEvent) :
    Lawful cfg s e ↔ NoLateUse s e := by
  constructor
  · intro hlaw t ht permission hreq hinactive
    obtain ⟨claims, row, htok, hrow⟩ := h _ ht
    injection htok with hsign
    subst hsign
    exact (refused_iff hrow).1
      (hlaw.refused _ ht permission hreq claims.sub rfl hinactive)
  · intro hlate
    constructor
    · intro token htoken permission hreq userId hsub hinactive
      obtain ⟨claims, row, rfl, hrow⟩ := h token htoken
      cases hsub
      exact (refused_iff hrow).2 (hlate _ htoken permission hreq hinactive)
    · intro token htoken userId hsub hinactive
      obtain ⟨claims, row, rfl, hrow, hactive⟩ := issues_active htoken
      cases hsub
      obtain ⟨row', hrow', hfalse⟩ := hinactive
      have hsame : some row = some row' := by rw [← hrow, ← hrow']; rfl
      cases hsame
      rw [hactive] at hfalse
      cases hfalse

/-- In every history, no token of an inactive user is accepted and none is issued to one, if and
only if no request presents an access token of an inactive user before it expires. -/
theorem never_authorised_iff (cfg : Settings) (db : AuthDb) (es : List (Int × AuthEvent)) :
    Along cfg (Lawful cfg) ⟨db, []⟩ es ↔ Along cfg NoLateUse ⟨db, []⟩ es := by
  have hstart : Circulating cfg ⟨db, []⟩ := by
    intro token htoken
    cases htoken
  generalize (⟨db, []⟩ : History) = s at hstart
  induction es generalizing s with
  | nil => exact Iff.rfl
  | cons e es ih => exact and_congr (lawful_iff hstart e) (ih (s.next cfg e) (hstart.next e))

/-! ## A token that outlives its user -/

def leaverToken : Bearer := .token (TokenService.encode sampleSettings 7 .access "dana" 0 900)

/-- A user registers and logs in, is deactivated a second later, and uses the access token. -/
def leaverHistory : List (Int × AuthEvent) :=
  [(0, .register ⟨"dana", "dana@example.org", "password", [], by decide, by decide⟩ 7 "salt"),
   (0, .login "dana" "password"),
   (1, .deactivate 7),
   (2, .request (some leaverToken) none)]

/-- The history up to the request. -/
def leaverState : History :=
  (leaverHistory.take 3).foldl (History.next sampleSettings) ⟨⟨.empty, .empty⟩, []⟩

theorem leaver_inactive : Inactive leaverState.db 7 :=
  ⟨{ id := 7, username := "dana", email := "dana@example.org",
     passwordHash := hashPassword sampleSettings "salt" "password", isActive := false,
     roles := [] },
    by decide, rfl⟩

/-- The token of the deactivated user is accepted. -/
theorem leaver_accepted : ¬ Along sampleSettings (Lawful sampleSettings)
    ⟨⟨.empty, .empty⟩, []⟩ leaverHistory := by
  intro h
  have hlaw : Lawful sampleSettings leaverState
      (2, .request (some leaverToken) none) := h.2.2.2.1
  have hrefused := hlaw.refused leaverToken (by decide) none rfl 7 rfl leaver_inactive
  revert hrefused
  decide

end Auth
end NetOps
