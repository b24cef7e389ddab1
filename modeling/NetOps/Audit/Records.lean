import NetOps.Json.RoundTrip
import NetOps.Text

/-!
# Audit.Records

Audit records (`audit/domain/models.py`) and the rows they are stored in
(`audit/infrastructure/repositories.py`). The metadata is sanitized, written as JSON and read back
from the row: what is read has every leaf of the metadata but those below a sensitive key
(`stored_leaf`). Tuples are not looked into, so a sensitive key in one of them is stored.
-/

namespace NetOps
namespace Audit

open Json (Doc Scalar Style Numbers)

/-- A Python object of dictionaries with string keys, lists, tuples and leaves. -/
inductive Metadata (A : Type) where
  | leaf (a : A)
  | list (items : List (Metadata A))
  | tuple (items : List (Metadata A))
  | dict (members : List (String × Metadata A))

/-- `_is_sensitive_key`. -/
def isSensitiveKey (key : String) : Bool :=
  Text.hasAny ["password", "secret", "token", "authorization", "jwt", "credential", "cookie",
    "private_key"] (Text.lower key)

namespace Metadata

variable {A : Type}

mutual

/-- `_sanitize_value`. -/
def sanitize : Metadata A → Metadata A
  | leaf a => leaf a
  | list items => list (sanitizeItems items)
  | tuple items => tuple items
  | dict members => dict (sanitizeMembers members)

def sanitizeItems : List (Metadata A) → List (Metadata A)
  | [] => []
  | m :: items => m.sanitize :: sanitizeItems items

def sanitizeMembers : List (String × Metadata A) → List (String × Metadata A)
  | [] => []
  | (key, m) :: members =>
    if isSensitiveKey key then sanitizeMembers members
    else (key, m.sanitize) :: sanitizeMembers members

end

mutual

/-- What `json.dumps` writes of it. -/
def toDoc : Metadata A → Doc A
  | leaf a => .leaf a
  | list items => .arr (toDocs items)
  | tuple items => .arr (toDocs items)
  | dict members => .obj (toMembers members)

def toDocs : List (Metadata A) → List (Doc A)
  | [] => []
  | m :: items => m.toDoc :: toDocs items

def toMembers : List (String × Metadata A) → List (String × Doc A)
  | [] => []
  | (key, m) :: members => (key, m.toDoc) :: toMembers members

end

/-! ## Leaves -/

end Metadata

/-- A step into a value. -/
inductive Step where
  | key (key : String)
  | index (i : Nat)
  deriving DecidableEq

/-- The first member of a key. -/
def member {V : Type} (members : List (String × V)) (key : String) : Option V :=
  (members.find? fun e => e.1 == key).map Prod.snd

theorem member_cons {V : Type} (key : String) (v : V) (members : List (String × V)) (k : String) :
    member ((key, v) :: members) k = if key = k then some v else member members k := by
  by_cases hk : key = k <;> simp [member, hk]

/-- The leaf at the end of a path. -/
def leafAt {A : Type} : List Step → Doc A → Option A
  | [], .leaf a => some a
  | .index i :: path, .arr items => (items[i]?).bind (leafAt path)
  | .key k :: path, .obj members => (member members k).bind (leafAt path)
  | _, _ => none

namespace Metadata

variable {A : Type}

def leafAt : List Step → Metadata A → Option A
  | [], leaf a => some a
  | .index i :: path, list items => (items[i]?).bind (leafAt path)
  | .index i :: path, tuple items => (items[i]?).bind (leafAt path)
  | .key k :: path, dict members => (member members k).bind (leafAt path)
  | _, _ => none

/-- The path goes through a sensitive key, before any tuple. -/
def hides : List Step → Metadata A → Bool
  | .index i :: path, list items => (items[i]?).any (hides path)
  | .key k :: path, dict members => isSensitiveKey k || (member members k).any (hides path)
  | _, _ => false

theorem toDocs_eq (items : List (Metadata A)) : toDocs items = items.map toDoc := by
  induction items with
  | nil => rfl
  | cons m items ih => rw [toDocs, ih, List.map_cons]

theorem sanitizeItems_eq (items : List (Metadata A)) :
    sanitizeItems items = items.map sanitize := by
  induction items with
  | nil => rfl
  | cons m items ih => rw [sanitizeItems, ih, List.map_cons]

theorem member_toMembers (members : List (String × Metadata A)) (k : String) :
    member (toMembers members) k = (member members k).map toDoc := by
  induction members with
  | nil => rfl
  | cons e members ih =>
    obtain ⟨key, m⟩ := e
    rw [toMembers, member, member, List.find?_cons, List.find?_cons]
    cases key == k with
    | true => rfl
    | false => exact ih

/-- Sanitizing removes the sensitive members, and sanitizes the others. -/
theorem member_sanitizeMembers (members : List (String × Metadata A)) (k : String) :
    member (sanitizeMembers members) k =
      if isSensitiveKey k then none else (member members k).map sanitize := by
  induction members with
  | nil => simp [sanitizeMembers, member]
  | cons e members ih =>
    obtain ⟨key, m⟩ := e
    rw [sanitizeMembers]
    by_cases hsensitive : isSensitiveKey key = true
    · rw [if_pos hsensitive, ih, member_cons]
      by_cases hk : key = k
      · rw [← hk, if_pos hsensitive, if_pos hsensitive]
      · rw [if_neg hk]
    · rw [if_neg hsensitive, member_cons, member_cons, ih]
      by_cases hk : key = k
      · rw [if_pos hk, if_pos hk, ← hk, if_neg hsensitive, Option.map_some]
      · rw [if_neg hk, if_neg hk]

/-- A JSON text keeps the leaves where they are. -/
theorem leafAt_toDoc (path : List Step) (m : Metadata A) :
    Audit.leafAt path m.toDoc = m.leafAt path := by
  induction path generalizing m with
  | nil => cases m <;> rfl
  | cons s path ih =>
    have hitems : ∀ (items : List (Metadata A)) (i : Nat),
        ((items.map toDoc)[i]?).bind (Audit.leafAt path) = (items[i]?).bind (leafAt path) := by
      intro items i
      rw [List.getElem?_map, Option.bind_map]
      exact congrArg _ (funext ih)
    cases s with
    | key k =>
      cases m with
      | dict members =>
        rw [toDoc, Audit.leafAt, leafAt, member_toMembers, Option.bind_map]
        exact congrArg _ (funext ih)
      | _ => rfl
    | index i =>
      cases m with
      | list items =>
        rw [toDoc, Audit.leafAt, leafAt, toDocs_eq]
        exact hitems items i
      | tuple items =>
        rw [toDoc, Audit.leafAt, leafAt, toDocs_eq]
        exact hitems items i
      | _ => rfl

/-- Sanitizing removes the leaves on the paths that it hides, and no others. -/
theorem leafAt_sanitize (path : List Step) (m : Metadata A) :
    m.sanitize.leafAt path = if m.hides path then none else m.leafAt path := by
  induction path generalizing m with
  | nil => cases m <;> rfl
  | cons s path ih =>
    have hnext : ∀ x : Option (Metadata A), (x.map sanitize).bind (leafAt path) =
        if x.any (hides path) then none else x.bind (leafAt path) := by
      intro x
      cases x with
      | none => rfl
      | some m => exact ih m
    cases s with
    | key k =>
      cases m with
      | dict members =>
        rw [sanitize, leafAt, hides, leafAt, member_sanitizeMembers]
        by_cases hsensitive : isSensitiveKey k = true
        · rw [if_pos hsensitive, hsensitive, Bool.true_or, if_pos rfl, Option.bind_none]
        · rw [if_neg hsensitive, (Bool.not_eq_true _).mp hsensitive, Bool.false_or]
          exact hnext _
      | _ => rfl
    | index i =>
      cases m with
      | list items =>
        rw [sanitize, leafAt, hides, leafAt, sanitizeItems_eq, List.getElem?_map]
        exact hnext _
      | _ => rfl

end Metadata

/-! ## Stored records -/

section

variable {F : Type} {num : Numbers F}

/-- The row of a record, as far as its metadata goes: `json.dumps` of the sanitized metadata. -/
def store (style : Style num) (metadata : List (String × Metadata (Scalar F))) : List Char :=
  style.write (Metadata.dict metadata).sanitize.toDoc

/-- `json.loads` of the row. -/
def load (num : Numbers F) (row : List Char) : Option (Doc (Scalar F)) := Json.read num row

mutual

theorem all_sanitize {p : Scalar F → Bool} {m : Metadata (Scalar F)}
    (h : m.toDoc.all p = true) : m.sanitize.toDoc.all p = true := by
  cases m with
  | leaf a => exact h
  | tuple items => exact h
  | list items =>
    rw [Metadata.toDoc, Doc.all] at h
    rw [Metadata.sanitize, Metadata.toDoc, Doc.all]
    exact all_sanitizeItems h
  | dict members =>
    rw [Metadata.toDoc, Doc.all] at h
    rw [Metadata.sanitize, Metadata.toDoc, Doc.all]
    exact all_sanitizeMembers h

theorem all_sanitizeItems {p : Scalar F → Bool} {items : List (Metadata (Scalar F))}
    (h : Doc.allItems p (Metadata.toDocs items) = true) :
    Doc.allItems p (Metadata.toDocs (Metadata.sanitizeItems items)) = true := by
  cases items with
  | nil => rfl
  | cons m items =>
    rw [Metadata.toDocs, Doc.allItems, Bool.and_eq_true] at h
    rw [Metadata.sanitizeItems, Metadata.toDocs, Doc.allItems, Bool.and_eq_true]
    exact ⟨all_sanitize h.1, all_sanitizeItems h.2⟩

theorem all_sanitizeMembers {p : Scalar F → Bool} {members : List (String × Metadata (Scalar F))}
    (h : Doc.allMembers p (Metadata.toMembers members) = true) :
    Doc.allMembers p (Metadata.toMembers (Metadata.sanitizeMembers members)) = true := by
  cases members with
  | nil => rfl
  | cons e members =>
    obtain ⟨key, m⟩ := e
    rw [Metadata.toMembers, Doc.allMembers, Bool.and_eq_true] at h
    rw [Metadata.sanitizeMembers]
    split
    · exact all_sanitizeMembers h.2
    · rw [Metadata.toMembers, Doc.allMembers, Bool.and_eq_true]
      exact ⟨all_sanitize h.1, all_sanitizeMembers h.2⟩

end

/-- The metadata read back from a row has exactly those leaves of the recorded metadata that are not
below a sensitive key; what stands in a tuple counts as not below the keys in it. -/
theorem stored_leaf (style : Style num) (metadata : List (String × Metadata (Scalar F)))
    (hfit : (Metadata.dict metadata).toDoc.all (·.within num.maxDigits) = true) :
    ∃ doc, load num (store style metadata) = some doc ∧
      ∀ path, leafAt path doc =
        if (Metadata.dict metadata).hides path then none
        else (Metadata.dict metadata).leafAt path := by
  refine ⟨(Metadata.dict metadata).sanitize.toDoc, style.read_write (all_sanitize hfit),
    fun path => ?_⟩
  rw [Metadata.leafAt_toDoc, Metadata.leafAt_sanitize]

end

/-! ## A login with a nested credential -/

theorem space_blank (c : Char) (h : c ∈ [' ']) : Json.blank c = true := by
  rw [List.mem_singleton.1 h]
  rfl

theorem printable_ascii (c : Char) (h : (32 ≤ c.toNat && c.toNat < 127) = true) :
    32 ≤ c.toNat := by
  rw [Bool.and_eq_true, decide_eq_true_eq] at h
  exact h.1

def noFloats : Numbers Empty := ⟨4300, fun _ => none⟩

/-- `json.dumps` of a metadata without floats. -/
def pythonStyle : Style noFloats where
  blanks := [' ']
  plain c := 32 ≤ c.toNat && c.toNat < 127
  float := Empty.elim
  blanks_blank := space_blank
  plain_printable := printable_ascii
  float_chars := fun x => x.elim
  float_marked := fun x => x.elim
  float_read := fun x => x.elim

def login : List (String × Metadata (Scalar Empty)) :=
  [("user", .leaf (.str "ops")), ("Auth_Token", .leaf (.str "t0")),
    ("request", .list [.dict [("attempts", .leaf (.int 3)), ("password", .leaf (.str "p"))],
      .tuple [.dict [("cookie", .leaf (.str "c"))]]])]

theorem stored_leaf_login : ∃ doc, load noFloats (store pythonStyle login) = some doc ∧
    leafAt [.key "request", .index 0, .key "attempts"] doc = some (.int 3) ∧
    leafAt [.key "Auth_Token"] doc = none ∧
    leafAt [.key "request", .index 0, .key "password"] doc = none ∧
    leafAt [.key "request", .index 1, .index 0, .key "cookie"] doc = some (.str "c") := by
  obtain ⟨doc, hdoc, hleaf⟩ := stored_leaf pythonStyle login (by decide +kernel)
  refine ⟨doc, hdoc, ?_, ?_, ?_, ?_⟩
  · rw [hleaf, if_neg (by decide +kernel)]
    rfl
  · rw [hleaf, if_pos (by decide +kernel)]
  · rw [hleaf, if_pos (by decide +kernel)]
  · rw [hleaf, if_neg (by decide +kernel)]
    rfl

end Audit
end NetOps
