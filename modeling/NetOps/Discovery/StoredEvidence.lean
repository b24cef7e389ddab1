import NetOps.Clock.Datetimes
import NetOps.Discovery.Evidence
import NetOps.Discovery.Samples
import NetOps.Json.Canonical
import NetOps.Outcomes
import NetOps.Snapshot.Encodings

/-!
# Discovery.StoredEvidence

The evidence of `_build_evidence`, its hash (`DiscoveryEvidence` of `discovery/contracts.py`) and
`DiscoveryEvidenceRepository.create`, for payloads that JSON can write. The JSON column gives tuples
back as lists, and the members of an object in an order of its own.

* `sanitizePayload_twice`: sanitizing is done once.
* `canonical_reread`: a payload that is read back has the canonical form of the stored one.
* `evidence_verifies`: evidence is stored, and its hash verifies on the payload read back.
-/

namespace NetOps
namespace Discovery

open Patterns Substitution Text Words
open Conc (Db)
open Json (Scalar Doc)
open Snapshot.Encodings (Floats numbers maxDigits python dumps loads)

/-! ## Sanitizing twice -/

/-- What replaces the word after a keyword, as a piece of the text. -/
def redactedPiece : Piece Char := ⟨[' '], "[REDACTED]".toList⟩

/-- The pieces of a redacted text. -/
def redactedPieces : Bool → List (Piece Char) → List (Piece Char)
  | _, [] => []
  | true, _ :: ps => redactedPiece :: redactedPieces false ps
  | false, p :: ps => p :: redactedPieces (endsInKeyword p.word) ps

theorem render_redactedPieces (armed : Bool) (ps : List (Piece Char)) (trailing : List Char) :
    render (redactedPieces armed ps) trailing = redactPieces armed ps trailing := by
  induction ps generalizing armed with
  | nil => cases armed <;> rfl
  | cons p ps ih => cases armed with
    | true => rw [redactedPieces, render, redactPieces, ih]; rfl
    | false => rw [redactedPieces, render, redactPieces, ih]

/-- The words that replace secrets are no keywords. -/
theorem redactPieces_redactedPieces (armed : Bool) (ps : List (Piece Char))
    (trailing : List Char) :
    redactPieces armed (redactedPieces armed ps) trailing = redactPieces armed ps trailing := by
  induction ps generalizing armed with
  | nil => cases armed <;> rfl
  | cons p ps ih => cases armed with
    | true => rw [redactedPieces, redactPieces, redactPieces, ih]
    | false => rw [redactedPieces, redactPieces, redactPieces, ih]

theorem proper_redactedPieces (armed : Bool) {ps : List (Piece Char)} {trailing : List Char}
    (h : Proper isSpace ps trailing) :
    Proper isSpace (redactedPieces armed ps) trailing ∧
      ((∀ q ∈ ps.head?, q.gap ≠ []) → ∀ q ∈ (redactedPieces armed ps).head?, q.gap ≠ []) := by
  induction h generalizing armed with
  | nil htrailing =>
    cases armed <;> exact ⟨.nil htrailing, fun h => h⟩
  | @cons p ps trailing hgap hne hword hnext _ ih =>
    cases armed with
    | true =>
      have hspaces : ∀ c ∈ redactedPiece.gap, isSpace c = true := List.all_eq_true.1 (by decide)
      have hmark : (redactedPiece.word.all fun c => !isSpace c) = true := by decide
      have hplain : ∀ c ∈ redactedPiece.word, isSpace c = false := by
        intro c hc
        exact Bool.not_eq_true' _ ▸ List.all_eq_true.1 hmark c hc
      refine ⟨.cons hspaces (by decide) hplain ((ih false).2 hnext) (ih false).1, fun _ q hq => ?_⟩
      cases hq
      decide
    | false => exact ⟨.cons hgap hne hword ((ih _).2 hnext) (ih _).1, fun h => h⟩

/-- A redacted text is not redacted again. -/
theorem redact_redact (text : String) : redact (redact text) = redact text := by
  have hproper : Proper isSpace (pieces text) (trailing text) := proper_split text.toList
  have hredacted := (sub_render (proper_redactedPieces false hproper).1).1
  rw [redact_eq text, redact, String.toList_ofList, ← render_redactedPieces, hredacted,
    redactPieces_redactedPieces, render_redactedPieces]

mutual

theorem sanitizePayload_twice {O : Type} :
    ∀ payload : Payload O, sanitizePayload (sanitizePayload payload) = sanitizePayload payload
  | .dict entries => by
    rw [sanitizePayload, sanitizePayload, sanitizeEntries_twice entries]
  | .list items => by rw [sanitizePayload, sanitizePayload, sanitizeItems_twice items]
  | .tuple items => by rw [sanitizePayload, sanitizePayload, sanitizeItems_twice items]
  | .text value => by rw [sanitizePayload, sanitizePayload, redact_redact]
  | .other value => rfl

theorem sanitizeEntries_twice {O : Type} :
    ∀ entries : List (Key O × Payload O),
      sanitizeEntries (sanitizeEntries entries) = sanitizeEntries entries
  | [] => rfl
  | (key, value) :: entries => by
    rw [sanitizeEntries, sanitizeEntries, sanitizeEntries_twice entries]
    cases key.isSensitive with
    | true => rfl
    | false =>
      simp only [Bool.false_eq_true, if_false]
      rw [sanitizePayload_twice value]

theorem sanitizeItems_twice {O : Type} :
    ∀ items : List (Payload O), sanitizeItems (sanitizeItems items) = sanitizeItems items
  | [] => rfl
  | item :: items => by
    rw [sanitizeItems, sanitizeItems, sanitizePayload_twice item, sanitizeItems_twice items]

end

/-! ## Values of JSON -/

/-- A Python value that JSON can write: dictionaries have texts for keys. -/
inductive JsonValue (F : Type) where
  | dict (entries : List (String × JsonValue F))
  | list (items : List (JsonValue F))
  | tuple (items : List (JsonValue F))
  | leaf (a : Scalar F)

namespace JsonValue

variable {F : Type}

/-- A leaf as a value that is gone through. -/
def leafPayload : Scalar F → Payload (Scalar F)
  | .str s => .text s
  | a => .other a

/-- `_sanitize_payload` of a leaf. -/
def sanitizeLeaf : Scalar F → Scalar F
  | .str s => .str (redact s)
  | a => a

mutual

/-- The value as one that is gone through. -/
def payload : JsonValue F → Payload (Scalar F)
  | dict entries => .dict (payloadEntries entries)
  | list items => .list (payloadItems items)
  | tuple items => .tuple (payloadItems items)
  | leaf a => leafPayload a

def payloadEntries : List (String × JsonValue F) → List (Key (Scalar F) × Payload (Scalar F))
  | [] => []
  | (key, value) :: entries => (.text key, payload value) :: payloadEntries entries

def payloadItems : List (JsonValue F) → List (Payload (Scalar F))
  | [] => []
  | item :: items => payload item :: payloadItems items

end

mutual

/-- `_sanitize_payload`. -/
def sanitize : JsonValue F → JsonValue F
  | dict entries => dict (sanitizeFields entries)
  | list items => list (sanitizeList items)
  | tuple items => tuple (sanitizeList items)
  | leaf a => leaf (sanitizeLeaf a)

def sanitizeFields : List (String × JsonValue F) → List (String × JsonValue F)
  | [] => []
  | (key, value) :: entries =>
    (key, if isSensitive key then leaf (.str "[REDACTED]") else sanitize value) ::
      sanitizeFields entries

def sanitizeList : List (JsonValue F) → List (JsonValue F)
  | [] => []
  | item :: items => sanitize item :: sanitizeList items

end

mutual

theorem payload_sanitize : ∀ v : JsonValue F, v.sanitize.payload = sanitizePayload v.payload
  | dict entries => by
    rw [sanitize, payload, payload, sanitizePayload, payloadEntries_sanitize entries]
  | list items => by rw [sanitize, payload, payload, sanitizePayload, payloadItems_sanitize items]
  | tuple items => by
    rw [sanitize, payload, payload, sanitizePayload, payloadItems_sanitize items]
  | leaf a => by cases a <;> rfl

theorem payloadEntries_sanitize : ∀ entries : List (String × JsonValue F),
    payloadEntries (sanitizeFields entries) = sanitizeEntries (payloadEntries entries)
  | [] => rfl
  | (key, value) :: entries => by
    rw [sanitizeFields, payloadEntries, payloadEntries, sanitizeEntries,
      payloadEntries_sanitize entries, ← payload_sanitize value]
    cases hsensitive : isSensitive key with
    | true => simp [Key.isSensitive, hsensitive, payload, leafPayload]
    | false => simp [Key.isSensitive, hsensitive]

theorem payloadItems_sanitize : ∀ items : List (JsonValue F),
    payloadItems (sanitizeList items) = sanitizeItems (payloadItems items)
  | [] => rfl
  | item :: items => by
    rw [sanitizeList, payloadItems, payloadItems, sanitizeItems, payload_sanitize item,
      payloadItems_sanitize items]

end

/-! ## What JSON makes of a value -/

mutual

/-- The value in JSON: a tuple is an array too. -/
def doc : JsonValue F → Doc (Scalar F)
  | dict entries => .obj (docMembers entries)
  | list items => .arr (docItems items)
  | tuple items => .arr (docItems items)
  | leaf a => .leaf a

def docMembers : List (String × JsonValue F) → List (String × Doc (Scalar F))
  | [] => []
  | (key, value) :: entries => (key, doc value) :: docMembers entries

def docItems : List (JsonValue F) → List (Doc (Scalar F))
  | [] => []
  | item :: items => doc item :: docItems items

end

mutual

/-- The value that JSON is read as. -/
def ofDoc : Doc (Scalar F) → JsonValue F
  | .obj members => dict (ofMembers members)
  | .arr items => list (ofItems items)
  | .leaf a => leaf a

def ofMembers : List (String × Doc (Scalar F)) → List (String × JsonValue F)
  | [] => []
  | (key, t) :: members => (key, ofDoc t) :: ofMembers members

def ofItems : List (Doc (Scalar F)) → List (JsonValue F)
  | [] => []
  | t :: items => ofDoc t :: ofItems items

end

mutual

theorem doc_ofDoc : ∀ t : Doc (Scalar F), (ofDoc t).doc = t
  | .obj members => by rw [ofDoc, doc, docMembers_ofMembers members]
  | .arr items => by rw [ofDoc, doc, docItems_ofItems items]
  | .leaf a => rfl

theorem docMembers_ofMembers : ∀ members : List (String × Doc (Scalar F)),
    docMembers (ofMembers members) = members
  | [] => rfl
  | (key, t) :: members => by
    rw [ofMembers, docMembers, doc_ofDoc t, docMembers_ofMembers members]

theorem docItems_ofItems : ∀ items : List (Doc (Scalar F)), docItems (ofItems items) = items
  | [] => rfl
  | t :: items => by rw [ofItems, docItems, doc_ofDoc t, docItems_ofItems items]

end

theorem keys_sanitizeFields (entries : List (String × JsonValue F)) :
    (docMembers (sanitizeFields entries)).map Prod.fst = (docMembers entries).map Prod.fst := by
  induction entries with
  | nil => rfl
  | cons entry entries ih =>
    simp only [sanitizeFields, docMembers, List.map_cons, ih]

mutual

theorem keyed_sanitize : ∀ v : JsonValue F, v.doc.keyed → v.sanitize.doc.keyed
  | dict entries, h => by
    rw [sanitize, doc]
    rw [doc] at h
    refine ⟨?_, keyedMembers_sanitize entries h.2⟩
    rw [keys_sanitizeFields]
    exact h.1
  | list items, h => keyedItems_sanitize items h
  | tuple items, h => keyedItems_sanitize items h
  | leaf a, _ => trivial

theorem keyedMembers_sanitize : ∀ entries : List (String × JsonValue F),
    Doc.keyedMembers (docMembers entries) → Doc.keyedMembers (docMembers (sanitizeFields entries))
  | [], _ => trivial
  | (key, value) :: entries, h => by
    refine ⟨?_, keyedMembers_sanitize entries h.2⟩
    split
    · trivial
    · exact keyed_sanitize value h.1

theorem keyedItems_sanitize : ∀ items : List (JsonValue F),
    Doc.keyedItems (docItems items) → Doc.keyedItems (docItems (sanitizeList items))
  | [], _ => trivial
  | item :: items, h => ⟨keyed_sanitize item h.1, keyedItems_sanitize items h.2⟩

end

/-! ## Texts of values -/

/-- What CPython raises for an integer of too many digits. -/
def tooManyDigits : Exn :=
  .valueError ("Exceeds the limit (4300 digits) for integer string conversion; " ++
    "use sys.set_int_max_str_digits() to increase the limit")

section Repr

variable (floats : Floats F) (quote : String → String)

/-- `repr` of a leaf, over `repr` of texts. -/
def reprLeaf : Scalar F → Except Exn String
  | .null => .ok "None"
  | .bool true => .ok "True"
  | .bool false => .ok "False"
  | .int n =>
    if Scalar.within maxDigits (.int n : Scalar F) then .ok (toString n) else .error tooManyDigits
  | .float x => .ok (String.ofList (floats.repr.text x))
  | .str s => .ok (quote s)

def reprTuple : List String → String
  | [item] => "(" ++ item ++ ",)"
  | items => "(" ++ String.intercalate ", " items ++ ")"

mutual

/-- `repr(value)`. -/
def repr : JsonValue F → Except Exn String
  | dict entries => do
    let shown ← reprEntries entries
    return "\x7b" ++ String.intercalate ", " shown ++ "\x7d"
  | list items => do
    let shown ← reprItems items
    return "[" ++ String.intercalate ", " shown ++ "]"
  | tuple items => do
    let shown ← reprItems items
    return reprTuple shown
  | leaf a => reprLeaf floats quote a

def reprEntries : List (String × JsonValue F) → Except Exn (List String)
  | [] => .ok []
  | (key, value) :: entries => do
    let shown ← repr value
    let rest ← reprEntries entries
    return (quote key ++ ": " ++ shown) :: rest

def reprItems : List (JsonValue F) → Except Exn (List String)
  | [] => .ok []
  | item :: items => do
    let shown ← repr item
    let rest ← reprItems items
    return shown :: rest

end

/-- `str(value)`. -/
def str : JsonValue F → Except Exn String
  | leaf (.str s) => .ok s
  | value => repr floats quote value

theorem reprLeaf_within {a : Scalar F} (h : a.within maxDigits = true) :
    ∃ shown, reprLeaf floats quote a = .ok shown := by
  cases a with
  | bool b => cases b <;> exact ⟨_, rfl⟩
  | int n => exact ⟨_, if_pos h⟩
  | _ => exact ⟨_, rfl⟩

mutual

/-- A value whose integers can be written has a text. -/
theorem repr_within : ∀ v : JsonValue F, v.doc.all (·.within maxDigits) = true →
    ∃ shown, repr floats quote v = .ok shown
  | dict entries, h => by
    obtain ⟨shown, hshown⟩ := reprEntries_within entries h
    exact ⟨_, by rw [repr, hshown]; rfl⟩
  | list items, h => by
    obtain ⟨shown, hshown⟩ := reprItems_within items h
    exact ⟨_, by rw [repr, hshown]; rfl⟩
  | tuple items, h => by
    obtain ⟨shown, hshown⟩ := reprItems_within items h
    exact ⟨_, by rw [repr, hshown]; rfl⟩
  | leaf a, h => by
    rw [repr]
    exact reprLeaf_within floats quote h

theorem reprEntries_within : ∀ entries : List (String × JsonValue F),
    Doc.allMembers (·.within maxDigits) (docMembers entries) = true →
    ∃ shown, reprEntries floats quote entries = .ok shown
  | [], _ => ⟨[], rfl⟩
  | (key, value) :: entries, h => by
    rw [docMembers, Doc.allMembers, Bool.and_eq_true] at h
    obtain ⟨shown, hshown⟩ := repr_within value h.1
    obtain ⟨rest, hrest⟩ := reprEntries_within entries h.2
    exact ⟨_, by rw [reprEntries, hshown, hrest]; rfl⟩

theorem reprItems_within : ∀ items : List (JsonValue F),
    Doc.allItems (·.within maxDigits) (docItems items) = true →
    ∃ shown, reprItems floats quote items = .ok shown
  | [], _ => ⟨[], rfl⟩
  | item :: items, h => by
    rw [docItems, Doc.allItems, Bool.and_eq_true] at h
    obtain ⟨shown, hshown⟩ := repr_within item h.1
    obtain ⟨rest, hrest⟩ := reprItems_within items h.2
    exact ⟨_, by rw [reprItems, hshown, hrest]; rfl⟩

end

theorem str_within {v : JsonValue F} (h : v.doc.all (·.within maxDigits) = true) :
    ∃ shown, str floats quote v = .ok shown := by
  unfold str
  split
  · exact ⟨_, rfl⟩
  · exact repr_within floats quote v h

end Repr

end JsonValue

/-! ## Evidence -/

/-- A dictionary that JSON can write; no dictionary in it has a key twice. -/
structure JsonDict (F : Type) where
  entries : List (String × JsonValue F)
  keyed : (JsonValue.dict entries).doc.keyed

namespace JsonDict

variable {F : Type}

def doc (d : JsonDict F) : Doc (Scalar F) := (JsonValue.dict d.entries).doc

/-- `_sanitize_payload`. -/
def sanitize (d : JsonDict F) : JsonDict F :=
  ⟨JsonValue.sanitizeFields d.entries, JsonValue.keyed_sanitize (.dict d.entries) d.keyed⟩

theorem evidencePayload_eq (d : JsonDict F) : evidencePayload (JsonValue.dict d.entries).payload =
    JsonValue.payloadEntries d.sanitize.entries := by
  unfold evidencePayload
  rw [← JsonValue.payload_sanitize, JsonValue.sanitize, JsonValue.payload]
  rfl

end JsonDict

structure DiscoveryTraceability where
  tenantId : String
  targetId : UUID
  jobId : UUID
  discoveryRunId : UUID
  required : strip tenantId ≠ ""

/-- `DiscoveryTraceability(...)`. -/
def traceability (tenantId : String) (targetId jobId discoveryRunId : UUID) :
    Except Exn DiscoveryTraceability :=
  if h : strip tenantId = "" then
    .error (.valueError "Tenant ID is required for discovery traceability.")
  else .ok ⟨tenantId, targetId, jobId, discoveryRunId, h⟩

structure DiscoveryEvidence (F : Type) where
  traceability : DiscoveryTraceability
  collectorName : String
  platform : String
  transport : String
  evidenceType : String
  commandOrProbe : String
  payload : JsonDict F
  capturedAt : Clock.Datetime
  sequence : Int
  parserVersion : Option String := none
  normalizationVersion : Option String := none
  id : UUID
  contentHash : String := ""

section Hash

variable {F : Type} (floats : Floats F) (quote : String → String) (sha256 : ByteArray → String)

/-- The style of `json.dumps` with `separators=(",", ":")`. -/
def compactPython : Json.Style (numbers floats) :=
  { python floats with
    blanks := []
    blanks_blank := Json.blank_nil }

/-- `json.dumps(payload, sort_keys=True, separators=(",", ":"))`. -/
def sortedDumps (t : Doc (Scalar F)) : Except Exn String :=
  if t.all (·.within maxDigits) then
    .ok (String.ofList ((compactPython floats).write t.sortKeys))
  else .error JsonValue.tooManyDigits

namespace DiscoveryEvidence

def canonicalPayload (e : DiscoveryEvidence F) : Except Exn String :=
  sortedDumps floats e.payload.doc

def computeHash (e : DiscoveryEvidence F) : Except Exn String :=
  (e.canonicalPayload floats).map fun text => sha256 text.toUTF8

def verifyHash (e : DiscoveryEvidence F) : Except Exn Bool :=
  (e.computeHash floats sha256).map fun hash => e.contentHash == hash

/-- `__post_init__`. -/
def postInit (e : DiscoveryEvidence F) : Except Exn (DiscoveryEvidence F) :=
  if e.sequence < 0 then .error (.valueError "Evidence sequence cannot be negative.")
  else if strip e.collectorName = "" ∨ strip e.evidenceType = "" then
    .error (.valueError "Evidence collector and type are required.")
  else if e.capturedAt.aware = false then
    .error (.valueError "Evidence timestamp must be timezone-aware.")
  else if e.contentHash = "" then
    (e.computeHash floats sha256).map fun hash => { e with contentHash := hash }
  else .ok e

end DiscoveryEvidence

/-- `str(payload.get(key, metadata.get(fallbackKey, "unknown")))`. The metadata is of a JSON column:
its values have a text. -/
def labelText (payload : JsonDict F) (metadata : PyDict) (key fallbackKey : String) :
    Except Exn String :=
  match payload.entries.lookup key with
  | some value => value.str floats quote
  | none => .ok ((metadata.get? fallbackKey).getD (.str "unknown")).text

/-- `_build_evidence`, at a time in UTC and with the id of the new evidence. -/
def buildEvidence (job : DiscoveryJobRecord) (target : DiscoveryTargetRecordView)
    (collectorName : String) (payload : JsonDict F) (now : Clock.Wall) (id : UUID) :
    Except Exn (DiscoveryEvidence F) := do
  let traceability ← traceability target.tenantId target.id job.id job.runId
  let platform ← labelText floats quote payload target.metadata "platform_family" "platform_family"
  let transport ← labelText floats quote payload target.metadata "transport" "transport_name"
  DiscoveryEvidence.postInit floats sha256 {
    traceability, collectorName, platform, transport, id
    evidenceType := "raw_discovery"
    commandOrProbe := "collector.collect"
    payload := payload.sanitize
    capturedAt := ⟨now, some 0⟩
    sequence := 0 }

/-! ## The repository -/

/-- A row of `discovery_evidence` with its payload. -/
structure StoredEvidence (F : Type) where
  id : UUID
  tenantId : String
  jobId : UUID
  targetId : UUID
  runId : UUID
  evidenceType : String
  source : String
  observedAt : Clock.Datetime
  payload : JsonDict F
  payloadHash : String
  collector : String
  collectorVersion : Option String
  commandOrProbe : String
  sequence : Int
  parserVersion : Option String
  normalizationVersion : Option String

namespace DiscoveryEvidenceRepository

/-- `_canonical_payload`. -/
def canonicalPayload (payload : JsonDict F) : Except Exn String := sortedDumps floats payload.doc

/-- `_payload_hash`. -/
def payloadHash (payload : JsonDict F) : Except Exn String :=
  (canonicalPayload floats payload).map fun text => sha256 text.toUTF8

/-- A row that is there and the tenant's. -/
def found {R : Type} (row : Option R) (own : R → Bool) (message : String) : Except Exn R :=
  match row.filter own with
  | some r => .ok r
  | none => .error (.resourceNotFound message)

/-- `DiscoveryEvidenceRepository.create`. -/
def create (db : Db schema) (evidence : DiscoveryEvidence F)
    (collectorVersion : Option String := none) : Except Exn (StoredEvidence F) := do
  let tenantId := evidence.traceability.tenantId
  let job ← found ((db .jobs).get evidence.traceability.jobId) (·.tenantId == tenantId)
    "Discovery job was not found."
  let target ← found ((db .targets).get evidence.traceability.targetId) (·.tenantId == tenantId)
    "Discovery target was not found."
  let run ← found ((db .runs).get evidence.traceability.discoveryRunId)
    (fun r => r.tenantId == none || r.tenantId == some tenantId) "Discovery run was not found."
  if job.targetId ≠ target.id ∨ job.runId ≠ run.id then
    .error (.persistence "Evidence relationships do not match the discovery job.")
  else do
    let payloadHash ← payloadHash floats sha256 evidence.payload
    if payloadHash ≠ evidence.contentHash then
      .error (.persistence "Evidence payload hash does not match.")
    else .ok {
      id := evidence.id
      tenantId
      jobId := evidence.traceability.jobId
      targetId := evidence.traceability.targetId
      runId := evidence.traceability.discoveryRunId
      evidenceType := evidence.evidenceType
      source := evidence.collectorName
      observedAt := evidence.capturedAt
      payload := evidence.payload
      payloadHash
      collector := evidence.collectorName
      collectorVersion
      commandOrProbe := evidence.commandOrProbe
      sequence := evidence.sequence
      parserVersion := evidence.parserVersion
      normalizationVersion := evidence.normalizationVersion }

end DiscoveryEvidenceRepository

/-! ## Reading back -/

/-- What may be read of the JSON column: the payload is written and the text is read, and the
members of an object come in any order. -/
def Reread (d d' : JsonDict F) : Prop :=
  ∃ t text members, Doc.Same d.doc t ∧ t.keyed ∧ dumps floats t = some text ∧
    loads floats text = some (.obj members) ∧ d'.entries = JsonValue.ofMembers members

variable {floats}

theorem doc_reread {d d' : JsonDict F} (h : Reread floats d d') : Doc.Same d.doc d'.doc := by
  obtain ⟨t, text, members, hsame, hkeyed, hdumps, hloads, hentries⟩ := h
  unfold dumps at hdumps
  split at hdumps
  · rename_i hshort
    rw [← Option.some.inj hdumps, Snapshot.Encodings.loads_write hshort] at hloads
    have hdoc : d'.doc = .obj members := by
      unfold JsonDict.doc
      rw [hentries, JsonValue.doc, JsonValue.docMembers_ofMembers]
    rw [hdoc, ← Option.some.inj hloads]
    exact hsame
  · cases hdumps

/-- A payload that is read back has the canonical form of the stored one. -/
theorem canonical_reread {d d' : JsonDict F} (h : Reread floats d d') :
    sortedDumps floats d'.doc = sortedDumps floats d.doc := by
  have hsorted : d.doc.sortKeys = d'.doc.sortKeys :=
    Doc.sortKeys_eq_of_same d.doc d'.doc (doc_reread h) d.keyed d'.keyed
  have hshort : d'.doc.all (·.within maxDigits) = d.doc.all (·.within maxDigits) := by
    rw [← Doc.all_sortKeys, ← hsorted, Doc.all_sortKeys]
  unfold sortedDumps
  rw [hshort, hsorted]

theorem exists_reread {d : JsonDict F} (h : d.doc.all (·.within maxDigits) = true) :
    ∃ d', Reread floats d d' := by
  have hdumps : dumps floats d.doc = some ((python floats).write d.doc) := if_pos h
  have hdoc : (JsonValue.dict (JsonValue.ofMembers (JsonValue.docMembers d.entries))).doc =
      d.doc := by
    rw [JsonValue.doc, JsonValue.docMembers_ofMembers]
    rfl
  refine ⟨⟨JsonValue.ofMembers (JsonValue.docMembers d.entries), ?_⟩, d.doc, _, _,
    Doc.same_refl d.doc d.keyed, d.keyed, hdumps, Snapshot.Encodings.loads_write h, rfl⟩
  rw [hdoc]
  exact d.keyed

/-! ## Evidence of a job -/

/-- The rows of a job that is executed for a target. -/
structure EvidenceRows (db : Db schema) (job : DiscoveryJobRecord)
    (target : DiscoveryTargetRecordView) : Prop where
  named : strip target.tenantId ≠ ""
  jobRow : (db .jobs).get job.id = some job
  jobTenant : job.tenantId = target.tenantId
  jobTarget : job.targetId = target.id
  targetRow : ∃ row, (db .targets).get target.id = some row ∧ row.tenantId = target.tenantId
  runRow : ∃ row, (db .runs).get job.runId = some row ∧
    (row.tenantId = none ∨ row.tenantId = some target.tenantId)

variable (floats)

theorem found_eq {R : Type} {row : Option R} {own : R → Bool} {r : R} (message : String)
    (hrow : row = some r) (hown : own r = true) :
    DiscoveryEvidenceRepository.found row own message = .ok r := by
  rw [DiscoveryEvidenceRepository.found, hrow, Option.filter_some, if_pos hown]

/-- The checks of `create` before the hashes are compared. -/
theorem create_rows {db : Db schema} {job : DiscoveryJobRecord}
    {target : DiscoveryTargetRecordView} (hrows : EvidenceRows db job target)
    {evidence : DiscoveryEvidence F} (htenant : evidence.traceability.tenantId = target.tenantId)
    (hjob : evidence.traceability.jobId = job.id)
    (htarget : evidence.traceability.targetId = target.id)
    (hrun : evidence.traceability.discoveryRunId = job.runId)
    (hhash : DiscoveryEvidenceRepository.payloadHash floats sha256 evidence.payload =
      .ok evidence.contentHash) (collectorVersion : Option String) :
    ∃ row, DiscoveryEvidenceRepository.create floats sha256 db evidence collectorVersion = .ok row ∧
      row.payload = evidence.payload ∧ row.payloadHash = evidence.contentHash := by
  obtain ⟨targetRow, htargetRow, htargetTenant⟩ := hrows.targetRow
  obtain ⟨runRow, hrunRow, hrunTenant⟩ := hrows.runRow
  have hjobFound : DiscoveryEvidenceRepository.found ((db .jobs).get job.id)
      (fun r => r.tenantId == target.tenantId) "Discovery job was not found." = .ok job :=
    found_eq _ hrows.jobRow (beq_iff_eq.2 hrows.jobTenant)
  have htargetFound : DiscoveryEvidenceRepository.found ((db .targets).get target.id)
      (fun r => r.tenantId == target.tenantId) "Discovery target was not found." =
        .ok targetRow :=
    found_eq _ htargetRow (beq_iff_eq.2 htargetTenant)
  have hrunFound : DiscoveryEvidenceRepository.found ((db .runs).get job.runId)
      (fun r => r.tenantId == none || r.tenantId == some target.tenantId)
        "Discovery run was not found." = .ok runRow := by
    refine found_eq _ hrunRow ?_
    rw [Bool.or_eq_true, beq_iff_eq, beq_iff_eq]
    exact hrunTenant
  have hrelated : ¬(job.targetId ≠ targetRow.id ∨ job.runId ≠ runRow.id) := by
    have htargetKey : targetRow.id = target.id := (db .targets).keyed _ _ htargetRow
    have hrunKey : runRow.id = job.runId := (db .runs).keyed _ _ hrunRow
    rw [hrows.jobTarget, htargetKey, hrunKey]
    simp
  unfold DiscoveryEvidenceRepository.create
  dsimp only [bind, Except.bind]
  rw [htenant, hjob, htarget, hrun, hjobFound, htargetFound, hrunFound]
  dsimp only
  rw [if_neg hrelated, hhash]
  exact ⟨_, if_neg (not_not_intro rfl), rfl, rfl⟩

/-- The value of a key is in its text, unredacted, when evidence is built. -/
def Labelled (payload : JsonDict F) (key : String) : Prop :=
  ∀ value ∈ payload.entries.lookup key, value.doc.all (·.within maxDigits) = true

theorem labelText_labelled {payload : JsonDict F} {key : String} (h : Labelled payload key)
    (metadata : PyDict) (fallbackKey : String) :
    ∃ shown, labelText floats quote payload metadata key fallbackKey = .ok shown := by
  unfold labelText
  cases hvalue : payload.entries.lookup key with
  | none => exact ⟨_, rfl⟩
  | some value => exact JsonValue.str_within floats quote (h value hvalue)

/-- The evidence that is built carries the hash of its payload. -/
theorem buildEvidence_ok (job : DiscoveryJobRecord) {target : DiscoveryTargetRecordView}
    {collectorName : String} {payload : JsonDict F} (hnamed : strip target.tenantId ≠ "")
    (hcollector : strip collectorName ≠ "")
    (hshort : payload.sanitize.doc.all (·.within maxDigits) = true)
    (hplatform : Labelled payload "platform_family") (htransport : Labelled payload "transport")
    (now : Clock.Wall) (id : UUID) :
    ∃ evidence,
      buildEvidence floats quote sha256 job target collectorName payload now id = .ok evidence ∧
      evidence.traceability = ⟨target.tenantId, target.id, job.id, job.runId, hnamed⟩ ∧
      evidence.payload = payload.sanitize ∧
      DiscoveryEvidence.computeHash floats sha256 evidence = .ok evidence.contentHash := by
  have hkind : ¬(strip collectorName = "" ∨ strip "raw_discovery" = "") := by
    rintro (hblank | hblank)
    · exact hcollector hblank
    · exact absurd hblank (by decide)
  have hcanonical : sortedDumps floats payload.sanitize.doc =
      .ok (String.ofList ((compactPython floats).write payload.sanitize.doc.sortKeys)) :=
    if_pos hshort
  obtain ⟨platform, hplatform⟩ :=
    labelText_labelled floats quote hplatform target.metadata "platform_family"
  obtain ⟨transport, htransport⟩ :=
    labelText_labelled floats quote htransport target.metadata "transport_name"
  unfold buildEvidence traceability DiscoveryEvidence.postInit
  rw [dif_neg hnamed, hplatform, htransport]
  dsimp only [bind, Except.bind]
  rw [if_neg (Int.lt_irrefl 0), if_neg hkind, if_neg Bool.noConfusion, if_pos rfl]
  unfold DiscoveryEvidence.computeHash DiscoveryEvidence.canonicalPayload
  dsimp only
  rw [hcanonical]
  exact ⟨_, rfl, rfl, rfl, congrArg _ hcanonical⟩

/-- There is no evidence of a payload with an integer of too many digits. -/
theorem buildEvidence_long (job : DiscoveryJobRecord) (target : DiscoveryTargetRecordView)
    (collectorName : String) {payload : JsonDict F}
    (hlong : ¬payload.sanitize.doc.all (·.within maxDigits) = true) (now : Clock.Wall) (id : UUID)
    (evidence : DiscoveryEvidence F) :
    buildEvidence floats quote sha256 job target collectorName payload now id ≠ .ok evidence := by
  intro hbuilt
  obtain ⟨trace, _, hlabels⟩ := Outcomes.bind_ok hbuilt
  obtain ⟨platform, _, hlabels⟩ := Outcomes.bind_ok hlabels
  obtain ⟨transport, _, hpost⟩ := Outcomes.bind_ok hlabels
  have hcanonical : sortedDumps floats payload.sanitize.doc = _ := if_neg hlong
  unfold DiscoveryEvidence.postInit DiscoveryEvidence.computeHash
    DiscoveryEvidence.canonicalPayload at hpost
  dsimp only at hpost
  rw [if_pos rfl, hcanonical] at hpost
  split at hpost
  · cases hpost
  · split at hpost
    · cases hpost
    · split at hpost <;> cases hpost

/-- Evidence is built and stored, and its hash verifies on what is read back. -/
theorem evidence_verifies {db : Db schema} {job : DiscoveryJobRecord}
    {target : DiscoveryTargetRecordView} {collectorName : String} {payload : JsonDict F}
    (hrows : EvidenceRows db job target) (hcollector : strip collectorName ≠ "")
    (hshort : payload.sanitize.doc.all (·.within maxDigits) = true)
    (hplatform : Labelled payload "platform_family") (htransport : Labelled payload "transport")
    (now : Clock.Wall) (id : UUID)
    (collectorVersion : Option String) :
    ∃ evidence row,
      buildEvidence floats quote sha256 job target collectorName payload now id = .ok evidence ∧
      evidence.payload = payload.sanitize ∧
      DiscoveryEvidenceRepository.create floats sha256 db evidence collectorVersion = .ok row ∧
      row.payload = evidence.payload ∧ row.payloadHash = evidence.contentHash ∧
      (∃ d, Reread floats row.payload d) ∧
      (∀ d, Reread floats row.payload d →
        sortedDumps floats d.doc = evidence.canonicalPayload floats ∧
        DiscoveryEvidence.verifyHash floats sha256
          { evidence with payload := d, contentHash := row.payloadHash } = .ok true) ∧
      sanitizePayload (JsonValue.dict payload.sanitize.entries).payload =
        (JsonValue.dict payload.sanitize.entries).payload := by
  obtain ⟨evidence, hbuilt, htrace, hpayload, hhash⟩ :=
    buildEvidence_ok floats quote sha256 job hrows.named hcollector hshort hplatform htransport now
      id
  obtain ⟨row, hcreated, hstored, hstoredHash⟩ := create_rows floats sha256 hrows
    (by rw [htrace]) (by rw [htrace]) (by rw [htrace]) (by rw [htrace]) hhash collectorVersion
  refine ⟨evidence, row, hbuilt, hpayload, hcreated, hstored, hstoredHash, ?_, ?_, ?_⟩
  · rw [hstored, hpayload]
    exact exists_reread hshort
  · intro d hd
    rw [hstored] at hd
    have hreread := canonical_reread hd
    have hcomputed : DiscoveryEvidence.computeHash floats sha256
        { evidence with payload := d, contentHash := row.payloadHash } =
          .ok evidence.contentHash := by
      rw [← hhash]
      unfold DiscoveryEvidence.computeHash DiscoveryEvidence.canonicalPayload
      rw [hreread]
    refine ⟨hreread, ?_⟩
    rw [DiscoveryEvidence.verifyHash, hcomputed, hstoredHash]
    simp [Except.map]
  · have hsanitized : (JsonValue.dict payload.sanitize.entries).payload =
        sanitizePayload (JsonValue.dict payload.entries).payload :=
      JsonValue.payload_sanitize (.dict payload.entries)
    rw [hsanitized, sanitizePayload_twice]

end Hash

/-! ## A job of the samples -/

open Snapshot.Encodings (Whole)

def deviceView : DiscoveryTargetRecordView where
  id := 2
  tenantId := Samples.tenant
  identifier := "lab:10.0.0.1"
  address := "10.0.0.1"
  enabled := true
  metadata := []

def builtAt : Clock.Wall :=
  .midnight ⟨2026, 5, 1, Clock.year_2026, Clock.month_may, Clock.first_of_may⟩

theorem evidenceRows_deviceJob :
    EvidenceRows (Samples.tables [Samples.deviceJob] []) Samples.deviceJob deviceView where
  named := by decide
  jobRow := rfl
  jobTenant := rfl
  jobTarget := rfl
  targetRow := ⟨Samples.deviceTarget, rfl, rfl⟩
  runRow := ⟨Samples.deviceRun, rfl, .inr rfl⟩

/-- A secret in the text of a command, a tuple, a sensitive key, and the transport. -/
def interfaces : JsonDict Whole where
  entries := [("show run", .leaf (.str "enable secret hunter2")),
    ("ports", .tuple [.leaf (.int 1), .leaf (.int 2)]), ("snmp_community", .leaf (.str "public")),
    ("transport", .list [.leaf (.str "ssh"), .leaf (.int 22)])]
  keyed := ⟨by decide, trivial, ⟨trivial, trivial, trivial⟩, trivial, ⟨trivial, trivial, trivial⟩,
    trivial⟩

theorem interfaces_labelled :
    Labelled interfaces "platform_family" ∧ Labelled interfaces "transport" := by
  constructor
  · rintro value ⟨⟩
  · rintro value ⟨⟩
    decide

theorem evidence_verifies_interfaces : ∃ evidence row,
    buildEvidence Whole.texts id (fun _ => "digest") Samples.deviceJob deviceView "ssh" interfaces
      builtAt 41 = .ok evidence ∧
    evidence.payload = interfaces.sanitize ∧
    DiscoveryEvidenceRepository.create Whole.texts (fun _ => "digest")
      (Samples.tables [Samples.deviceJob] []) evidence none = .ok row ∧
    row.payload = evidence.payload ∧ row.payloadHash = evidence.contentHash ∧
    (∃ d, Reread Whole.texts row.payload d) ∧
    (∀ d, Reread Whole.texts row.payload d →
      sortedDumps Whole.texts d.doc = evidence.canonicalPayload Whole.texts ∧
      DiscoveryEvidence.verifyHash Whole.texts (fun _ => "digest")
        { evidence with payload := d, contentHash := row.payloadHash } = .ok true) ∧
    sanitizePayload (JsonValue.dict interfaces.sanitize.entries).payload =
      (JsonValue.dict interfaces.sanitize.entries).payload := by
  have hcollector : strip "ssh" ≠ "" := by decide
  have hshort : interfaces.sanitize.doc.all (·.within maxDigits) = true := by decide
  exact evidence_verifies Whole.texts id (fun _ => "digest") evidenceRows_deviceJob hcollector
    hshort interfaces_labelled.1 interfaces_labelled.2 builtAt 41 none

/-- A counter of 4301 digits. -/
def oversized : JsonDict Whole where
  entries := [("octets", .leaf (.int (10 ^ maxDigits : Nat)))]
  keyed := ⟨by decide, trivial, trivial⟩

theorem oversized_is_not_built :
    EvidenceRows (Samples.tables [Samples.deviceJob] []) Samples.deviceJob deviceView ∧
      strip "snmp" ≠ "" ∧ ∀ evidence,
        buildEvidence Whole.texts id (fun _ => "digest") Samples.deviceJob deviceView "snmp"
          oversized
          builtAt 41 ≠ .ok evidence := by
  have hplain : isSensitive "octets" = false := by decide
  have hdoc : oversized.sanitize.doc = .obj [("octets", .leaf (.int (10 ^ maxDigits : Nat)))] := by
    simp only [JsonDict.doc, JsonDict.sanitize, oversized, JsonValue.sanitizeFields, hplain,
      Bool.false_eq_true, if_false, JsonValue.sanitize, JsonValue.sanitizeLeaf, JsonValue.doc,
      JsonValue.docMembers]
  have hlong : ¬(Json.digits (10 ^ maxDigits)).length ≤ maxDigits := fun h =>
    Nat.lt_irrefl _ ((Nat.length_toDigits_le_iff (by decide) (by decide)).1 h)
  have hdumps : ¬oversized.sanitize.doc.all (·.within maxDigits) = true := by
    rw [hdoc]
    simpa only [Doc.all, Doc.allMembers, Json.Scalar.within, Int.natAbs_natCast, Bool.and_true,
      decide_eq_true_eq] using hlong
  exact ⟨evidenceRows_deviceJob, by decide, buildEvidence_long _ _ _ _ _ _ hdumps _ _⟩

end Discovery
end NetOps
