import Mathlib.Data.List.DropRight
import NetOps.Auth.Service
import NetOps.Dict
import NetOps.Json.Canonical
import NetOps.Snapshot.Encodings

/-!
# Auth.Codec

The texts of tokens: `TokenService` (`auth/application/services.py`), and `refresh_access_token` and
`get_current_user` for an arbitrary text.

* `decode_encode`: a token decodes to the claims it was made of, while it has not expired.
* `decode_issued`: with an ideal signature nothing else decodes.
* `codec_iff`: the codec is what it should be if and only if the claims can be written, the
  signature of the text is in ASCII, and a valid access token names its user by a UUID.

The digest and the texts of floats are parameters.
-/

namespace NetOps
namespace Auth
namespace Codec

open Discovery (UUID uuidOfText textOfUuid)
open Json (Scalar Doc)
open Snapshot.Encodings (Floats numbers maxDigits)

/-! ## Texts -/

/-- `text.rsplit(".", 1)`, when it gives two parts. -/
def rsplit (text : String) : Option (String × String) :=
  let dotted := text.toList.rdropWhile (· != '.')
  if dotted = [] then none
  else some (String.ofList dotted.dropLast, String.ofList (text.toList.rtakeWhile (· != '.')))

def isAscii (text : String) : Bool := text.toList.all fun c => c.toNat < 128

/-- `hexdigest`. -/
def hexdigest (bytes : ByteArray) : String :=
  String.ofList (bytes.toList.flatMap fun b =>
    [(b.toNat / 16).digitChar, (b.toNat % 16).digitChar])

inductive TokenError where
  | value (message : String)
  | type
  | key
  deriving DecidableEq

/-- `hmac.compare_digest` of two texts. -/
def compareDigest (a b : String) : Except TokenError Bool :=
  if isAscii a && isAscii b then .ok (a = b) else .error .type

/-! ## Claims -/

/-- A dictionary of JSON values. -/
structure Claims (F : Type) extends Dict String (Doc (Scalar F)) where
  keyed : (Doc.obj items).keyed

/-- What the services take from their libraries: the texts of floats, `int` of a float, and the
digest. -/
structure Runtime (F : Type) where
  floats : Floats F
  truncate : F → Int
  sha256 : ByteArray → ByteArray

variable {F : Type}

def isText (text : String) : Option (Doc (Scalar F)) → Bool
  | some (.leaf (.str s)) => s == text
  | _ => false

/-- `UUID(str(value))`: the text of another value is no UUID. -/
def uuidOf : Doc (Scalar F) → Option UUID
  | .leaf (.str s) => uuidOfText s
  | .leaf (.int n) => uuidOfText (String.ofList (Json.writeInt n))
  | _ => none

variable (rt : Runtime F)

/-- The style of `json.dumps` with `separators=(",", ":")`. -/
def style : Json.Style (numbers rt.floats) where
  blanks := []
  plain c := 32 ≤ c.toNat && c.toNat < 127
  float := rt.floats.repr.text
  blanks_blank := Json.blank_nil
  plain_printable := Snapshot.Encodings.ascii_printable
  float_chars := rt.floats.repr.chars
  float_marked := rt.floats.repr.marked
  float_read := rt.floats.repr.read_text

/-- `int(value)`. -/
def intOf : Doc (Scalar F) → Except TokenError Int
  | .leaf (.int n) => .ok n
  | .leaf (.bool b) => .ok (if b then 1 else 0)
  | .leaf (.float x) => .ok (rt.truncate x)
  | .leaf (.str s) =>
    match Digits.int (String.ofList (Digits.trim s.toList)) with
    | .ok n => .ok n
    | .error _ => .error (.value "invalid literal for int() with base 10")
  | _ => .error .type

/-! ## TokenService -/

structure TokenService where
  secretKey : Option String := none

namespace TokenService

variable (s : TokenService)

/-- `secret_key or "development-secret"`. -/
def key : String := Text.orElse (s.secretKey.getD "") "development-secret"

/-- The signature of a body. -/
def signature (body : String) : String := hexdigest (rt.sha256 (body.toUTF8 ++ s.key.toUTF8))

/-- `json.dumps(payload, separators=(",", ":"), sort_keys=True)`. -/
def body (payload : Dict String (Doc (Scalar F))) : String :=
  String.ofList ((style rt).write (Doc.obj payload.items).sortKeys)

/-- `_sign`. An integer of too many digits has no text. -/
def sign (payload : Dict String (Doc (Scalar F))) : Except TokenError String :=
  if (Doc.obj payload.items).all (·.within maxDigits) then
    .ok (body rt payload ++ "." ++ s.signature rt (body rt payload))
  else .error (.value "Exceeds the limit for integer string conversion")

/-- `_verify`. -/
def verify (token : String) : Except TokenError (Dict String (Doc (Scalar F))) :=
  match rsplit token with
  | none => .error (.value "not enough values to unpack")
  | some (body, signature) => do
    let same ← compareDigest signature (s.signature rt body)
    if same = false then .error (.value "Invalid token signature")
    else match Json.read (numbers rt.floats) body.toList with
      | none => .error (.value "Expecting value")
      | some (.obj members) => .ok (Dict.ofList members)
      | some _ => .error (.value "Invalid token payload")

/-- The payload of `encode`, at time `now`. -/
def payload (claims : Claims F) (expiresInSeconds now : Int) : Dict String (Doc (Scalar F)) :=
  (claims.toDict.insert "iat" (.leaf (.int now))).insert "exp"
    (.leaf (.int (now + expiresInSeconds)))

/-- `encode`. -/
def encode (claims : Claims F) (expiresInSeconds now : Int) : Except TokenError String :=
  s.sign rt (payload claims expiresInSeconds now)

/-- `decode`. -/
def decode (token : String) (now : Int) : Except TokenError (Dict String (Doc (Scalar F))) := do
  let payload ← s.verify rt token
  match payload.get? "exp" with
  | none => .error .key
  | some exp => do
    let exp ← intOf rt exp
    if exp ≤ now then .error (.value "Token expired") else .ok payload

end TokenService

/-! ## AuthenticationService -/

namespace AuthenticationService

variable (s : TokenService) (db : AuthDb)

/-- The claims of a refreshed access token. -/
def accessClaims (user : User) : Claims F where
  toDict := Dict.ofList [("sub", .leaf (.str (textOfUuid user.id))),
    ("type", .leaf (.str "access")), ("username", .leaf (.str user.username))]
  keyed := ⟨Dict.nodup _, trivial, trivial, trivial, trivial⟩

/-- The user a token's claims name. -/
def subject (claims : Dict String (Doc (Scalar F))) : Except TokenError UUID :=
  match claims.get? "sub" with
  | none => .error .key
  | some sub =>
    match uuidOf sub with
    | none => .error (.value "badly formed hexadecimal UUID string")
    | some id => .ok id

/-- `refresh_access_token`: the new access token and the refresh token. -/
def refreshAccessToken (refreshToken : String) (now : Int) :
    Except TokenError (String × String) := do
  let claims ← s.decode rt refreshToken now
  if isText "refresh" (claims.get? "type") = false then .error (.value "Invalid token type")
  else do
    let userId ← subject claims
    match db.getUser userId with
    | none => .error (.value "Invalid refresh token")
    | some user =>
      if user.isActive = false then .error (.value "Invalid refresh token")
      else do
        let accessToken ← s.encode rt (accessClaims user) 900 now
        .ok (accessToken, refreshToken)

/-- `get_current_user`. -/
def getCurrentUser (token : String) (now : Int) : Except TokenError (Option User) :=
  match s.decode rt token now with
  | .error (.value _) => .ok none
  | .error e => .error e
  | .ok claims =>
    if isText "access" (claims.get? "type") = false then .ok none
    else (subject claims).map db.getUser

end AuthenticationService

/-! ## Splitting -/

theorem rsplit_append (body : String) {signature : String} (h : '.' ∉ signature.toList) :
    rsplit (body ++ "." ++ signature) = some (body, signature) := by
  have hplain : ∀ c ∈ signature.toList.reverse, (c != '.') = true := by
    intro c hc
    rw [bne_iff_ne]
    rintro rfl
    exact h (List.mem_reverse.1 hc)
  have hlist : (body ++ "." ++ signature).toList.reverse =
      signature.toList.reverse ++ '.' :: body.toList.reverse := by
    simp
  have hdrop : (body ++ "." ++ signature).toList.rdropWhile (· != '.') = body.toList ++ ['.'] := by
    rw [List.rdropWhile, hlist, List.dropWhile_append_of_pos hplain]
    simp
  have htake : (body ++ "." ++ signature).toList.rtakeWhile (· != '.') = signature.toList := by
    rw [List.rtakeWhile, hlist, List.takeWhile_append_of_pos hplain]
    simp
  simp only [rsplit, hdrop, htake, List.dropLast_concat, String.ofList_toList]
  rw [if_neg (by simp)]

theorem rsplit_some {text body signature : String} (h : rsplit text = some (body, signature)) :
    text = body ++ "." ++ signature := by
  simp only [rsplit] at h
  split at h
  · cases h
  · rename_i hne
    cases h
    have hlast : (text.toList.rdropWhile (· != '.')).getLast hne = '.' := by
      have h := List.rdropWhile_last_not (· != '.') text.toList hne
      simpa using h
    have hdotted := List.dropLast_append_getLast hne
    rw [hlast] at hdotted
    have hwhole : text.toList.rdropWhile (· != '.') ++ text.toList.rtakeWhile (· != '.') =
        text.toList := List.rdropWhile_append_rtakeWhile
    refine String.toList_inj.1 ?_
    simp only [String.toList_append, String.toList_ofList]
    exact hwhole.symm.trans (congrArg (· ++ _) hdotted.symm)

theorem digitChar_plain : ∀ d, d < 16 → (d.digitChar != '.' && d.digitChar.toNat < 128) = true := by
  decide

theorem mem_hexdigest {bytes : ByteArray} {c : Char} (h : c ∈ (hexdigest bytes).toList) :
    c ≠ '.' ∧ c.toNat < 128 := by
  rw [hexdigest, String.toList_ofList, List.mem_flatMap] at h
  obtain ⟨b, _, hc⟩ := h
  have hdigit : ∃ d, d < 16 ∧ c = d.digitChar := by
    rcases List.mem_cons.1 hc with rfl | hc
    · exact ⟨b.toNat / 16, by have := b.toNat_lt; omega, rfl⟩
    · exact ⟨b.toNat % 16, Nat.mod_lt _ (by decide), List.mem_singleton.1 hc⟩
  obtain ⟨d, hd, rfl⟩ := hdigit
  simpa using digitChar_plain d hd

/-! ## Tokens -/

theorem isText_map (text : String) (value : Option (Doc (Scalar F))) :
    isText text (value.map Doc.sortKeys) = isText text value := by
  cases value with
  | none => rfl
  | some t => cases t <;> rfl

theorem isText_ne {text other : String} {value : Option (Doc (Scalar F))}
    (h : isText text value = true) (hne : text ≠ other) : isText other value = false := by
  unfold isText at h ⊢
  split at h
  · rw [beq_iff_eq] at h
    rw [h]
    simpa using hne
  · cases h

theorem uuidOf_sortKeys (t : Doc (Scalar F)) : uuidOf t.sortKeys = uuidOf t := by
  cases t <;> rfl

/-- A payload as it is read back: in the order of its keys. -/
def sorted (payload : Dict String (Doc (Scalar F))) : Dict String (Doc (Scalar F)) :=
  Dict.ofList (Doc.sortMembers payload.items)

theorem sorted_items (payload : Dict String (Doc (Scalar F))) :
    (sorted payload).items = Doc.sortMembers payload.items :=
  Dict.items_ofList ((Doc.keys_sortMembers payload.items).nodup_iff.2 payload.nodup)

theorem get?_sorted (payload : Dict String (Doc (Scalar F))) (key : String) :
    (sorted payload).get? key = (payload.get? key).map Doc.sortKeys := by
  refine Option.ext fun u => ?_
  rw [← Dict.mem_items, sorted_items, Doc.mem_sortMembers, Option.map_eq_some_iff]
  simp only [Dict.mem_items]

theorem same_sorted {payload : Dict String (Doc (Scalar F))}
    (h : (Doc.obj payload.items).keyed) :
    (Doc.obj payload.items).Same (.obj (sorted payload).items) := by
  rw [sorted_items]
  exact Doc.same_sortKeys _ h

namespace TokenService

variable {rt} {s : TokenService}

theorem keyed_payload (claims : Claims F) (expiresInSeconds now : Int) :
    (Doc.obj (payload claims expiresInSeconds now).items).keyed := by
  refine ⟨Dict.nodup _, Doc.keyedMembers_iff.2 fun key t h => ?_⟩
  have hclaims := Doc.keyedMembers_iff.1 claims.keyed.2
  rw [Dict.mem_items, payload, Dict.get?_insert, Dict.get?_insert] at h
  split at h
  · cases h
    trivial
  · split at h
    · cases h
      trivial
    · exact hclaims key t (Dict.mem_items.2 h)

/-- A text that carries its own signature is checked by reading its body. -/
theorem verify_signed (body : String) :
    s.verify rt (body ++ "." ++ s.signature rt body) =
      match Json.read (numbers rt.floats) body.toList with
      | none => .error (.value "Expecting value")
      | some (.obj members) => .ok (Dict.ofList members)
      | some _ => .error (.value "Invalid token payload") := by
  have hdot : '.' ∉ (s.signature rt body).toList := fun h => (mem_hexdigest h).1 rfl
  have hascii : isAscii (s.signature rt body) = true :=
    List.all_eq_true.2 fun c hc => by simpa using (mem_hexdigest hc).2
  simp only [verify, rsplit_append body hdot, compareDigest, hascii, bind, Except.bind]
  simp

theorem sign_ok {payload : Dict String (Doc (Scalar F))} {token : String}
    (h : s.sign rt payload = .ok token) :
    (Doc.obj payload.items).all (·.within maxDigits) = true ∧
      token = body rt payload ++ "." ++ s.signature rt (body rt payload) := by
  unfold sign at h
  split at h
  · rename_i hwithin
    cases h
    exact ⟨hwithin, rfl⟩
  · cases h

theorem verify_sign {payload : Dict String (Doc (Scalar F))} {token : String}
    (h : s.sign rt payload = .ok token) : s.verify rt token = .ok (sorted payload) := by
  obtain ⟨hwithin, rfl⟩ := sign_ok h
  have hread : Json.read (numbers rt.floats) (body rt payload).toList =
      some (Doc.obj payload.items).sortKeys := by
    rw [body, String.toList_ofList]
    refine (style rt).read_write ?_
    rw [Doc.all_sortKeys]
    exact hwithin
  rw [verify_signed, hread]
  rfl

/-- Decoding what was signed with an expiry. -/
theorem decode_sign {payload : Dict String (Doc (Scalar F))} {token : String} {expiry : Int}
    (h : s.sign rt payload = .ok token) (hexp : payload.get? "exp" = some (.leaf (.int expiry)))
    (now : Int) : s.decode rt token now =
      if expiry ≤ now then .error (.value "Token expired") else .ok (sorted payload) := by
  have hget : (sorted payload).get? "exp" = some (.leaf (.int expiry)) := by
    rw [get?_sorted, hexp]
    rfl
  simp only [decode, verify_sign h, bind, Except.bind, hget, intOf]

/-- What does not verify is refused with a `ValueError`, if what follows its last dot is in
ASCII. -/
theorem verify_error {token : String} {e : TokenError} (h : s.verify rt token = .error e)
    (hascii : ∀ body signature, rsplit token = some (body, signature) →
      isAscii signature = true) : ∃ message, e = .value message := by
  cases hsplit : rsplit token with
  | none =>
    simp only [verify, hsplit, Except.error.injEq] at h
    exact ⟨_, h.symm⟩
  | some parts =>
    obtain ⟨body, signature⟩ := parts
    have hexpected : isAscii (s.signature rt body) = true :=
      List.all_eq_true.2 fun c hc => by simpa using (mem_hexdigest hc).2
    simp only [verify, hsplit, compareDigest, hascii body signature hsplit, hexpected,
      Bool.and_self, if_true, bind, Except.bind] at h
    split at h
    · cases h
      exact ⟨_, rfl⟩
    · split at h <;> cases h <;> exact ⟨_, rfl⟩

/-- A signature with a character outside ASCII is not compared. -/
theorem verify_type {token body signature : String} (hsplit : rsplit token = some (body, signature))
    (hascii : isAscii signature = false) : s.verify rt token = .error .type := by
  simp [verify, hsplit, compareDigest, hascii, bind, Except.bind]

theorem verify_ok {token : String} {payload : Dict String (Doc (Scalar F))}
    (h : s.verify rt token = .ok payload) :
    ∃ body, token = body ++ "." ++ s.signature rt body := by
  cases hsplit : rsplit token with
  | none => simp [verify, hsplit] at h
  | some parts =>
    obtain ⟨body, signature⟩ := parts
    simp only [verify, hsplit, bind, Except.bind] at h
    split at h
    · cases h
    · rename_i same hsame
      split at h
      · cases h
      · rename_i htrue
        unfold compareDigest at hsame
        split at hsame
        · cases hsame
          have hsig : signature = s.signature rt body := by simpa using htrue
          exact ⟨body, hsig ▸ rsplit_some hsplit⟩
        · cases hsame

end TokenService

/-! ## Issued tokens -/

/-- A call of `encode`. -/
structure Issuance (F : Type) where
  claims : Claims F
  lifetime : Int
  time : Int

namespace Issuance

variable (s : TokenService) (i : Issuance F)

def payload : Dict String (Doc (Scalar F)) := TokenService.payload i.claims i.lifetime i.time

def token : Except TokenError String := s.encode rt i.claims i.lifetime i.time

def expiry : Int := i.time + i.lifetime

variable {rt s i}

/-- Decoding an issued token. -/
theorem decode_token {token : String} (h : i.token rt s = .ok token) (now : Int) :
    s.decode rt token now =
      if i.expiry ≤ now then .error (.value "Token expired") else .ok (sorted i.payload) :=
  TokenService.decode_sign h (by simp [TokenService.payload, expiry]) now

theorem get?_payload {key : String} (hiat : key ≠ "iat") (hexp : key ≠ "exp") :
    i.payload.get? key = i.claims.get? key := by
  rw [payload, TokenService.payload, Dict.get?_insert, Dict.get?_insert, if_neg hexp, if_neg hiat]

theorem isText_sorted (text : String) :
    isText text ((sorted i.payload).get? "type") = isText text (i.claims.get? "type") := by
  rw [get?_sorted, isText_map, get?_payload (by decide) (by decide)]

end Issuance

/-- An ideal signature: a text that carries its own was issued. -/
def Ideal (rt : Runtime F) (s : TokenService) (issued : List (Issuance F)) (text : String) : Prop :=
  ∀ body, text = body ++ "." ++ s.signature rt body → ∃ i ∈ issued, i.token rt s = .ok text

/-- The text is an issued token of this type. -/
def Typed (rt : Runtime F) (s : TokenService) (type text : String) (i : Issuance F) : Prop :=
  i.token rt s = .ok text ∧ isText type (i.claims.get? "type") = true

variable {rt} {s : TokenService} {issued : List (Issuance F)} {text : String} {now : Int}

/-- With an ideal signature, only issued tokens decode. -/
theorem decode_issued (hideal : Ideal rt s issued text) {payload : Dict String (Doc (Scalar F))}
    (h : s.decode rt text now = .ok payload) :
    ∃ i ∈ issued, i.token rt s = .ok text ∧ now < i.expiry ∧ payload = sorted i.payload := by
  cases hverify : s.verify rt text with
  | error e => simp [TokenService.decode, hverify, bind, Except.bind] at h
  | ok p =>
    obtain ⟨body, hbody⟩ := TokenService.verify_ok hverify
    obtain ⟨i, hi, htoken⟩ := hideal body hbody
    rw [Issuance.decode_token htoken] at h
    split at h
    · cases h
    · rename_i hexpiry
      cases h
      exact ⟨i, hi, htoken, Int.not_le.1 hexpiry, rfl⟩

/-- And every other text in ASCII is refused with a `ValueError`. -/
theorem decode_refused (hideal : Ideal rt s issued text) {e : TokenError}
    (h : s.decode rt text now = .error e)
    (hascii : ∀ body signature, rsplit text = some (body, signature) →
      isAscii signature = true) : ∃ message, e = .value message := by
  cases hverify : s.verify rt text with
  | error e' =>
    simp only [TokenService.decode, hverify, bind, Except.bind, Except.error.injEq] at h
    exact h ▸ TokenService.verify_error hverify hascii
  | ok p =>
    obtain ⟨body, hbody⟩ := TokenService.verify_ok hverify
    obtain ⟨i, _, htoken⟩ := hideal body hbody
    rw [Issuance.decode_token htoken] at h
    split at h
    · cases h
      exact ⟨_, rfl⟩
    · cases h

namespace AuthenticationService

theorem subject_ok {claims : Dict String (Doc (Scalar F))} {id : UUID} :
    subject claims = .ok id ↔ ∃ sub, claims.get? "sub" = some sub ∧ uuidOf sub = some id := by
  unfold subject
  cases claims.get? "sub" with
  | none => simp
  | some sub => cases huuid : uuidOf sub <;> simp [huuid]

theorem subject_sorted {i : Issuance F} {id : UUID} :
    subject (sorted i.payload) = .ok id ↔
      ∃ sub, i.claims.get? "sub" = some sub ∧ uuidOf sub = some id := by
  rw [subject_ok, get?_sorted, Issuance.get?_payload (by decide) (by decide)]
  cases i.claims.get? "sub" with
  | none => simp
  | some sub => simp [uuidOf_sortKeys]

variable {db : AuthDb}

/-- The user of an issued token that has not expired. -/
theorem getCurrentUser_token {i : Issuance F} (htoken : i.token rt s = .ok text)
    (hexpiry : now < i.expiry) : getCurrentUser rt s db text now =
      if isText "access" (i.claims.get? "type") = false then .ok none
      else (subject (sorted i.payload)).map db.getUser := by
  have hdecode : s.decode rt text now = .ok (sorted i.payload) := by
    rw [Issuance.decode_token htoken, if_neg (Int.not_le.2 hexpiry)]
  simp only [getCurrentUser, hdecode, Issuance.isText_sorted]

/-- A text in ASCII that is no unexpired access token has no user. -/
theorem getCurrentUser_none (hideal : Ideal rt s issued text)
    (hascii : ∀ body signature, rsplit text = some (body, signature) → isAscii signature = true)
    (hexpired : ∀ i ∈ issued, Typed rt s "access" text i → i.expiry ≤ now) :
    getCurrentUser rt s db text now = .ok none := by
  cases hdecode : s.decode rt text now with
  | error e =>
    obtain ⟨message, rfl⟩ := decode_refused hideal hdecode hascii
    simp [getCurrentUser, hdecode]
  | ok payload =>
    obtain ⟨i, hi, htoken, hexpiry, rfl⟩ := decode_issued hideal hdecode
    rw [getCurrentUser_token htoken hexpiry, if_pos]
    rw [Bool.eq_false_iff]
    exact fun htype => absurd (hexpired i hi ⟨htoken, htype⟩) (Int.not_le.2 hexpiry)

/-- A token of another type has no user. -/
theorem getCurrentUser_typed {i : Issuance F} (h : Typed rt s "refresh" text i) (user : User) :
    getCurrentUser rt s db text now ≠ .ok (some user) := by
  have hdecode := Issuance.decode_token h.1 now
  intro hok
  by_cases hexpiry : i.expiry ≤ now
  · rw [if_pos hexpiry] at hdecode
    simp [getCurrentUser, hdecode] at hok
  · rw [getCurrentUser_token h.1 (Int.not_le.1 hexpiry), if_pos (isText_ne h.2 (by decide))] at hok
    cases hok

/-- An access token is not refreshed. -/
theorem refreshAccessToken_typed {i : Issuance F} (h : Typed rt s "access" text i)
    (pair : String × String) : refreshAccessToken rt s db text now ≠ .ok pair := by
  have hdecode := Issuance.decode_token h.1 now
  intro hok
  by_cases hexpiry : i.expiry ≤ now
  · rw [if_pos hexpiry] at hdecode
    simp [refreshAccessToken, hdecode, bind, Except.bind] at hok
  · rw [if_neg hexpiry] at hdecode
    have htype : isText "refresh" ((sorted i.payload).get? "type") = false := by
      rw [Issuance.isText_sorted]
      exact isText_ne h.2 (by decide)
    simp [refreshAccessToken, hdecode, htype, bind, Except.bind] at hok

end AuthenticationService

/-! ## The codec -/

open Codec.AuthenticationService

/-- Tokens and texts are what they should be: the claims come back with their times until they
expire; a text decodes to the claims of an issued token that has not expired, or is refused with a
`ValueError`; only an access token has a user, and only a refresh token is refreshed. -/
structure Sound (rt : Runtime F) (s : TokenService) (issued : List (Issuance F)) (db : AuthDb)
    (i : Issuance F) (text : String) (now : Int) : Prop where
  roundTrip : ∀ later, later < i.time + i.lifetime → ∃ token payload,
    s.encode rt i.claims i.lifetime i.time = .ok token ∧
      s.decode rt token later = .ok payload ∧
      (Doc.obj ((i.claims.insert "iat" (.leaf (.int i.time))).insert "exp"
        (.leaf (.int (i.time + i.lifetime)))).items).Same (.obj payload.items)
  decoded : ∀ payload, s.decode rt text now = .ok payload →
    ∃ j ∈ issued, j.token rt s = .ok text ∧ now < j.expiry ∧
      (Doc.obj j.payload.items).Same (.obj payload.items)
  refused : ∀ e, s.decode rt text now = .error e → ∃ message, e = .value message
  current : ∃ user, getCurrentUser rt s db text now = .ok user ∧
    ((∀ j ∈ issued, Typed rt s "access" text j → j.expiry ≤ now) → user = none)
  refresh : ∀ j ∈ issued, Typed rt s "access" text j →
    ∀ pair, refreshAccessToken rt s db text now ≠ .ok pair
  access : ∀ j ∈ issued, Typed rt s "refresh" text j →
    ∀ user, getCurrentUser rt s db text now ≠ .ok (some user)

/-- The claims have no integer too long to be written, what follows the last dot of the text is in
ASCII, and if the text is an unexpired access token, its subject is a UUID. -/
structure Plain (rt : Runtime F) (s : TokenService) (issued : List (Issuance F))
    (i : Issuance F) (text : String) (now : Int) : Prop where
  written : (Doc.obj i.payload.items).all (·.within maxDigits) = true
  ascii : ∀ body signature, rsplit text = some (body, signature) → isAscii signature = true
  subject : ∀ j ∈ issued, Typed rt s "access" text j → now < j.expiry →
    ∃ id sub, j.claims.get? "sub" = some sub ∧ uuidOf sub = some id

theorem codec_iff {db : AuthDb} {i : Issuance F} (hlifetime : 0 < i.lifetime)
    (hideal : Ideal rt s issued text) :
    Sound rt s issued db i text now ↔ Plain rt s issued i text now := by
  constructor
  · intro h
    refine ⟨?_, fun body signature hsplit => ?_, fun j hj htyped hexpiry => ?_⟩
    · obtain ⟨token, payload, htoken, _⟩ := h.roundTrip i.time (by omega)
      exact (TokenService.sign_ok htoken).1
    · by_contra hascii
      rw [Bool.not_eq_true] at hascii
      have hdecode : s.decode rt text now = .error .type := by
        simp [TokenService.decode, TokenService.verify_type hsplit hascii, bind, Except.bind]
      obtain ⟨message, hmessage⟩ := h.refused _ hdecode
      cases hmessage
    · obtain ⟨user, huser, _⟩ := h.current
      rw [getCurrentUser_token htyped.1 hexpiry, htyped.2, if_neg (by decide)] at huser
      cases hsubject : subject (sorted j.payload) with
      | error e =>
        rw [hsubject] at huser
        cases huser
      | ok id => exact ⟨id, subject_sorted.1 hsubject⟩
  · intro h
    refine ⟨fun later hlater => ?_, fun payload hdecode => ?_,
      fun e hdecode => decode_refused hideal hdecode h.ascii, ?_,
      fun j _ htyped => refreshAccessToken_typed htyped,
      fun j _ htyped => getCurrentUser_typed htyped⟩
    · have htoken : i.token rt s = .ok (TokenService.body rt i.payload ++ "." ++
          s.signature rt (TokenService.body rt i.payload)) := if_pos h.written
      have hexpiry : ¬ i.expiry ≤ later := Int.not_le.2 hlater
      have hdecode := Issuance.decode_token htoken later
      rw [if_neg hexpiry] at hdecode
      exact ⟨_, _, htoken, hdecode, same_sorted (TokenService.keyed_payload _ _ _)⟩
    · obtain ⟨j, hj, htoken, hexpiry, rfl⟩ := decode_issued hideal hdecode
      exact ⟨j, hj, htoken, hexpiry, same_sorted (TokenService.keyed_payload _ _ _)⟩
    · by_cases hexpired : ∀ j ∈ issued, Typed rt s "access" text j → j.expiry ≤ now
      · exact ⟨none, getCurrentUser_none hideal h.ascii hexpired, fun _ => rfl⟩
      · simp only [not_forall, Int.not_le] at hexpired
        obtain ⟨j, hj, htyped, hexpiry⟩ := hexpired
        obtain ⟨id, hsub⟩ := h.subject j hj htyped hexpiry
        refine ⟨db.getUser id, ?_, fun hall => ?_⟩
        · rw [getCurrentUser_token htyped.1 hexpiry, htyped.2, if_neg (by decide),
            subject_sorted.2 hsub]
          rfl
        · exact absurd (hall j hj htyped) (Int.not_le.2 hexpiry)

/-! ### A text outside ASCII -/

/-- A digest for examples. -/
def sampleRuntime : Runtime Snapshot.Encodings.Whole where
  floats := Snapshot.Encodings.Whole.texts
  truncate x := x.val
  sha256 bytes := bytes

/-- An access token of a minute. -/
def sampleIssuance : Issuance Snapshot.Encodings.Whole where
  claims := { toDict := Dict.empty.insert "type" (.leaf (.str "access"))
              keyed := ⟨Dict.nodup _, trivial, trivial⟩ }
  lifetime := 60
  time := 1000

example : TokenService.body sampleRuntime sampleIssuance.payload =
    "\x7b\"exp\":1060,\"iat\":1000,\"type\":\"access\"\x7d" := by decide

theorem ideal_of_not_signed {F : Type} {rt : Runtime F} {s : TokenService}
    {issued : List (Issuance F)} {text : String}
    (h : ∀ body, rsplit text ≠ some (body, s.signature rt body)) : Ideal rt s issued text := by
  rintro body rfl
  have hdot : '.' ∉ (s.signature rt body).toList := fun hmem => (mem_hexdigest hmem).1 rfl
  exact absurd (rsplit_append body hdot) (h body)

/-- An access token of user 7. -/
def userIssuance : Issuance Snapshot.Encodings.Whole where
  claims := { toDict := Dict.ofList [("type", .leaf (.str "access")),
                ("sub", .leaf (.str "00000000-0000-0000-0000-000000000007"))]
              keyed := ⟨Dict.nodup _, trivial, trivial, trivial⟩ }
  lifetime := 60
  time := 1000

/-- The text of its token. -/
def userToken : String :=
  TokenService.body sampleRuntime userIssuance.payload ++ "." ++
    TokenService.signature sampleRuntime {} (TokenService.body sampleRuntime userIssuance.payload)

theorem userToken_issued : userIssuance.token sampleRuntime {} = .ok userToken := by
  unfold Issuance.token TokenService.encode TokenService.sign
  exact if_pos (by decide)

/-- The issued token is what it should be. -/
theorem codec_iff_issued :
    Sound sampleRuntime {} [userIssuance] ⟨.empty, .empty⟩ userIssuance userToken 1001 := by
  refine (codec_iff (by decide) fun _ _ => ⟨userIssuance, List.mem_singleton_self _,
    userToken_issued⟩).2 ⟨by decide, fun body signature hsplit => ?_, fun j hj _ _ => ?_⟩
  · have hdot : '.' ∉ (TokenService.signature sampleRuntime {}
        (TokenService.body sampleRuntime userIssuance.payload)).toList :=
      fun hmem => (mem_hexdigest hmem).1 rfl
    rw [userToken, rsplit_append _ hdot, Option.some.injEq, Prod.mk.injEq] at hsplit
    rw [← hsplit.2]
    exact List.all_eq_true.2 fun c hc => by simpa using (mem_hexdigest hc).2
  · rw [List.mem_singleton.1 hj]
    exact ⟨7, .leaf (.str "00000000-0000-0000-0000-000000000007"), rfl, by decide⟩

/-- The text `x.é` was never issued, and is refused with a `TypeError`. -/
theorem codec_fails :
    Ideal sampleRuntime {} [] "x.é" ∧
      ¬ Sound sampleRuntime {} [] ⟨.empty, .empty⟩ sampleIssuance "x.é" 1001 := by
  have hsplit : rsplit "x.é" = some ("x", "é") := by decide
  have hascii : isAscii "é" = false := by decide
  refine ⟨ideal_of_not_signed fun body h => ?_, fun hsound => ?_⟩
  · rw [hsplit, Option.some.injEq, Prod.mk.injEq] at h
    have hsignature : isAscii (TokenService.signature sampleRuntime {} body) = true :=
      List.all_eq_true.2 fun c hc => by simpa using (mem_hexdigest hc).2
    rw [← h.2, hascii] at hsignature
    cases hsignature
  · have hdecode : TokenService.decode sampleRuntime {} "x.é" 1001 = .error .type := by
      simp [TokenService.decode, TokenService.verify_type hsplit hascii, bind, Except.bind]
    obtain ⟨message, hmessage⟩ := hsound.refused _ hdecode
    cases hmessage

end Codec
end Auth
end NetOps
