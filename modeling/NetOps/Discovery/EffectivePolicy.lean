import NetOps.Discovery.Reach

/-!
# Discovery.EffectivePolicy

The policy `_resolve_transport_policy` computes for a target with a credential profile, against
what the profile and the opt-ins of the target say: the listed protocols the target allows, each
once and in the profile's order, the preferred one first.

* `policy_names`: the transports of the policy, when the profile lists one that is allowed: plain
  HTTP is dropped if Telnet is not allowed, and fallbacks that are protocols in lower case only are
  added.
* `ssh_mem_policy`: without one, the policy has SSH.
* `effective_policy_iff`: the policy is the one described if and only if none of this happens, and
  no protocol is listed in two spellings.
-/

namespace NetOps
namespace Discovery

open Conc Text DiscoveryExecutionService CiscoReach

/-! ## What a profile offers -/

/-- The opt-in a transport needs. -/
def permits (allowInsecure allowInsecureHttp : Bool) : TransportCapability → Bool
  | .telnet => allowInsecure
  | .http => allowInsecureHttp
  | _ => true

/-- The listed transport type is a protocol with a service, and has its opt-in. -/
def offered (allowInsecure allowInsecureHttp : Bool) (text : String) : Bool :=
  match TransportCapability.ofValue (upper text) with
  | none => false
  | some capability =>
    (capabilityToService capability).isSome && permits allowInsecure allowInsecureHttp capability

/-- The names of the offered transports, each once, in the order of the list. -/
def offeredNames (allowInsecure allowInsecureHttp : Bool) (transportTypes : List String) :
    List String :=
  ((transportTypes.filter (offered allowInsecure allowInsecureHttp)).map lower).eraseDups

/-- The names with the preferred one first, if it is among them. -/
def inFront (preferred : Option String) (names : List String) : List String :=
  names.filter (fun name => some name == preferred) ++
    names.filter fun name => some name != preferred

/-- The transport a target prefers, in lower case. -/
def preferredName (metadata : PyDict) : Option String :=
  match metadata.getD "transport_name" with
  | .str preferred => some (lower preferred)
  | _ => none

/-- `transport_names`. -/
def MultiTransportPolicy.transportNames (policy : MultiTransportPolicy) : List String :=
  policy.transports.map (·.transportName)

/-! ## Keeping the first -/

@[simp] theorem mem_inFront {preferred : Option String} {names : List String} {name : String} :
    name ∈ inFront preferred names ↔ name ∈ names := by
  unfold inFront
  rw [List.mem_append, List.mem_filter, List.mem_filter, ← and_or_left]
  exact and_iff_left (by by_cases h : some name = preferred <;> simp [h])

theorem inFront_filter (preferred : Option String) (names : List String) (p : String → Bool) :
    inFront preferred (names.filter p) = (inFront preferred names).filter p := by
  unfold inFront
  rw [List.filter_append]
  simp only [List.filter_filter, Bool.and_comm]

theorem nodup_inFront {preferred : Option String} {names : List String} (h : names.Nodup) :
    (inFront preferred names).Nodup := by
  refine List.Nodup.append (h.filter _) (h.filter _) ?_
  intro name hfront hrest
  have hsame := (List.mem_filter.1 hfront).2
  have hother := (List.mem_filter.1 hrest).2
  rw [bne, hsame] at hother
  cases hother

@[simp] theorem inFront_none (names : List String) : inFront none names = names := by
  have hall : names.filter (fun name => some name != none) = names :=
    List.filter_eq_self.2 fun _ _ => rfl
  have hfront : names.filter (fun name => some name == none) = [] :=
    List.filter_eq_nil_iff.2 fun _ _ => nofun
  rw [inFront, hall, hfront, List.nil_append]

/-- Moving the preferred transport to the front. -/
theorem preferFirst_eq {metadata : PyDict} {names : List String} (h : names.Nodup) :
    preferFirst metadata names = inFront (preferredName metadata) names := by
  cases hvalue : metadata.getD "transport_name"
  case str preferred =>
    simp only [preferFirst, preferredName, hvalue]
    have hfront : inFront (some (lower preferred)) names =
        names.filter (· == lower preferred) ++ names.filter (· != lower preferred) := rfl
    rw [hfront, ← h.erase_eq_filter, List.filter_beq]
    split
    · rename_i hin
      rw [List.count_eq_one_of_mem h (by simpa using hin)]
      rfl
    · rename_i hout
      have hnot : lower preferred ∉ names := by simpa using hout
      rw [List.count_eq_zero_of_not_mem hnot, List.erase_of_not_mem hnot]
      rfl
  all_goals simp [preferFirst, preferredName, hvalue]

theorem dedupeBy_map {α β : Type} (f : β → String) (g : α → β) (as : List α) :
    (dedupeBy (fun a => f (g a)) as).map g = dedupeBy f (as.map g) := by
  induction as with
  | nil => rfl
  | cons a as ih =>
    rw [dedupeBy, List.map_cons, List.map_cons, dedupeBy, ← ih, List.filter_map]
    rfl

theorem dedupeBy_filter (names : List String) (p : String → Bool) :
    dedupeBy id (names.filter p) = (dedupeBy id names).filter p := by
  induction names with
  | nil => rfl
  | cons name names ih =>
    rw [dedupeBy, List.filter_cons, List.filter_cons]
    split
    · rw [dedupeBy, ih, List.filter_filter, List.filter_filter]
      simp only [Bool.and_comm]
    · rename_i hp
      rw [ih, List.filter_filter]
      refine (List.filter_congr fun other _ => ?_).symm
      by_cases hother : other = name <;> simp [hother, hp]

theorem dedupeBy_id (names : List String) : dedupeBy id names = names.eraseDups := by
  match names with
  | [] => rfl
  | name :: names =>
    rw [List.eraseDups_cons, dedupeBy, ← dedupeBy_id, dedupeBy_filter]
    rfl
termination_by names.length
decreasing_by
  simp only [List.length_cons]
  exact Nat.lt_succ_of_le (List.length_filter_le _ _)

theorem dedupeBy_of_nodup {names : List String} (h : names.Nodup) : dedupeBy id names = names := by
  induction names with
  | nil => rfl
  | cons name names ih =>
    rw [List.nodup_cons] at h
    rw [dedupeBy, ih h.2, List.filter_eq_self.2]
    intro other hother
    rw [bne_iff_ne]
    rintro rfl
    exact h.1 hother

theorem mem_offeredNames {allowInsecure allowInsecureHttp : Bool} {transportTypes : List String}
    {name : String} : name ∈ offeredNames allowInsecure allowInsecureHttp transportTypes ↔
      ∃ text ∈ transportTypes, offered allowInsecure allowInsecureHttp text = true ∧
        lower text = name := by
  rw [offeredNames, List.mem_eraseDups, List.mem_map]
  simp only [List.mem_filter, and_assoc]

theorem nodup_offeredNames {allowInsecure allowInsecureHttp : Bool} {transportTypes : List String} :
    (offeredNames allowInsecure allowInsecureHttp transportTypes).Nodup := by
  have hnodup := nodup_dedupeBy id ((transportTypes.filter
    (offered allowInsecure allowInsecureHttp)).map lower)
  rw [List.map_id] at hnodup
  rw [offeredNames, ← dedupeBy_id]
  exact hnodup

/-! ## The names of a profile -/

theorem ofValue_none_of_mem {text : String} {c : Char} (hc : c ∈ text.toList)
    (h : ∀ capability : TransportCapability, c ∉ capability.value.toList) :
    TransportCapability.ofValue text = none := by
  cases hvalue : TransportCapability.ofValue text with
  | none => rfl
  | some capability =>
    rw [value_of_ofValue hvalue] at hc
    exact absurd hc (h capability)

/-- The names of the protocols are in ASCII, without `K`. -/
theorem value_plain (capability : TransportCapability) :
    ∀ l ∈ capability.value.toList, l.toNat < 128 ∧ l ≠ 'K' := by
  intro l hl
  have hall : (capability.value.toList.all fun l => decide (l.toNat < 128 ∧ l ≠ 'K')) =
      true := by
    cases capability <;> decide
  exact of_decide_eq_true (List.all_eq_true.1 hall l hl)

/-- A character outside ASCII whose upper case is not in ASCII is not in the name of a protocol. -/
theorem ofValue_none_of_foreign {text : String} {c : Char} (hc : c ∈ text.toList)
    (hlarge : 128 ≤ c.toNat) (h : upperChars c = [c.toUpper]) :
    TransportCapability.ofValue (upper text) = none := by
  have hsame : c.toUpper = c := by
    rcases toUpper_cases c with ⟨heq, _⟩ | ⟨_, hle, _⟩
    · exact heq
    · omega
  refine ofValue_none_of_mem (c := c) ?_ fun capability hmem => ?_
  · rw [upper, String.toList_ofList, List.mem_flatMap]
    exact ⟨c, hc, by rw [h, hsame]; exact List.mem_singleton_self c⟩
  · have := (value_plain capability c hmem).1
    omega

/-- What names a protocol names it in lower case too. -/
theorem ofValue_upper_lower {text : String} {capability : TransportCapability}
    (h : TransportCapability.ofValue (upper text) = some capability) :
    TransportCapability.ofValue (upper (lower text)) = some capability := by
  rw [upper_lower, h]
  intro c hc
  refine ⟨fun hkelvin => ?_, fun hsharp => ?_⟩
  · rw [ofValue_none_of_foreign hc (by omega) (by rw [upperChars, hkelvin]; rfl)] at h
    cases h
  · rw [ofValue_none_of_foreign hc (by omega) (by rw [upperChars, hsharp]; rfl)] at h
    cases h

/-- An offered transport type names its protocol in lower case too. -/
theorem offered_lower {allowInsecure allowInsecureHttp : Bool} {text : String}
    (h : offered allowInsecure allowInsecureHttp text = true) :
    TransportCapability.ofValue (upper (lower text)) =
      TransportCapability.ofValue (upper text) := by
  unfold offered at h
  cases hcap : TransportCapability.ofValue (upper text) with
  | none => rw [hcap] at h; cases h
  | some capability => exact ofValue_upper_lower hcap

/-- The only protocol a text names in lower case alone is SSH: the lower case of a capital sharp s
has `SS` as its upper case. -/
theorem ssh_of_lower {text : String} {capability : TransportCapability}
    (hnone : TransportCapability.ofValue (upper text) = none)
    (h : TransportCapability.ofValue (upper (lower text)) = some capability) :
    capability = .ssh := by
  by_cases hsharp : ∃ c ∈ text.toList, c.toNat = 0x1e9e
  · obtain ⟨c, hc, hnat⟩ := hsharp
    have hpart : ['S', 'S'] <:+: (upper (lower text)).toList := by
      obtain ⟨front, back, htext⟩ := List.append_of_mem hc
      have hlow : lowerChar c = 'ß' := by
        unfold lowerChar
        rw [if_neg (by omega), if_pos hnat]
      refine ⟨(front.map lowerChar).flatMap upperChars, (back.map lowerChar).flatMap upperChars, ?_⟩
      rw [upper, lower, String.toList_ofList, String.toList_ofList, htext, List.map_append,
        List.map_cons, hlow, List.flatMap_append, List.flatMap_cons, List.append_assoc]
      rfl
    rw [value_of_ofValue h] at hpart
    cases capability <;> first | rfl | exact absurd hpart (by decide)
  · by_cases hkelvin : ∃ c ∈ text.toList, c.toNat = 0x212a
    · obtain ⟨c, hc, hnat⟩ := hkelvin
      have hmem : 'K' ∈ (upper (lower text)).toList := by
        rw [upper, lower, String.toList_ofList, String.toList_ofList, List.mem_flatMap]
        exact ⟨'k', List.mem_map.2 ⟨c, hc, if_pos hnat⟩, by decide⟩
      rw [ofValue_none_of_mem hmem fun capability hl => (value_plain capability 'K' hl).2 rfl] at h
      cases h
    · rw [upper_lower fun c hc => ⟨fun hnat => hkelvin ⟨c, hc, hnat⟩,
        fun hnat => hsharp ⟨c, hc, hnat⟩⟩, hnone] at h
      cases h

/-- Nothing outside ASCII has the upper case of `http`. -/
theorem lower_of_ofValue_http {text : String}
    (h : TransportCapability.ofValue (upper text) = some .http) : lower text = "http" := by
  have hupper : upper (lower text) = String.ofList ("http".toList.map Char.toUpper) := by
    rw [value_of_ofValue (ofValue_upper_lower h)]
    decide
  refine lower_of_upper (fun l hl => ?_) hupper
  obtain ⟨hletter, hs, hi, hf, _⟩ := http_letters l hl
  exact ⟨hletter, hs, hi, hf⟩

theorem ofValue_telnet {text : String} (h : lower text = "telnet") :
    TransportCapability.ofValue (upper text) = some .telnet := by
  have hletters : ("telnet".toList.all fun l =>
      decide ((97 ≤ l.toNat ∧ l.toNat ≤ 122) ∧ l ≠ 'k')) = true := by
    decide
  rw [upper_of_lower (fun l hl => of_decide_eq_true (List.all_eq_true.1 hletters l hl)) h]
  decide

theorem profileEntry_name (credentialType : Option String) (allowInsecure allowInsecureHttp : Bool)
    (text : String) :
    (profileEntry credentialType allowInsecure allowInsecureHttp text).map (·.transportName) =
      if offered allowInsecure allowInsecureHttp text then some (lower text) else none := by
  unfold profileEntry offered
  cases TransportCapability.ofValue (upper text) with
  | none => rfl
  | some capability =>
    cases capability <;> cases allowInsecure <;> cases allowInsecureHttp <;> rfl

/-- The names a profile brings in: what it offers, or SSH. -/
theorem profileNames_eq {profile : CredentialProfileRecord} (htypes : profile.transportTypes ≠ [])
    (allowInsecure allowInsecureHttp : Bool) :
    profileNames (some profile) allowInsecure allowInsecureHttp =
      .ok (if offeredNames allowInsecure allowInsecureHttp profile.transportTypes = [] then ["ssh"]
        else offeredNames allowInsecure allowInsecureHttp profile.transportTypes) := by
  obtain ⟨policy, hpolicy, _⟩ := fromCredentialProfile_named profile allowInsecure allowInsecureHttp
  simp only [profileNames, hpolicy, bind, Except.bind, pure, Except.pure]
  unfold MultiTransportPolicy.fromCredentialProfile at hpolicy
  rw [if_neg htypes] at hpolicy
  have htransports := (policy_new_ok hpolicy).1
  -- the filter by opt-in keeps what the profile's own policy lets in
  have hkept : policy.transports.filter (fun t =>
      !t.isInsecure || (t.capability == .telnet && allowInsecure) ||
        (t.capability == .http && allowInsecureHttp)) = policy.transports := by
    rw [List.filter_eq_self]
    intro entry hentry
    rw [htransports] at hentry
    obtain ⟨text, _, hsome⟩ := List.mem_filterMap.1 (mem_of_mem_dedupeBy hentry)
    obtain ⟨hallowed, _, hinsecure, _⟩ := profileEntry_some hsome
    unfold TransportPolicyEntry.Allowed at hallowed
    rw [hinsecure] at hallowed ⊢
    cases hcap : entry.capability <;> rw [hcap] at hallowed <;>
      simp_all [insecureTransports]
  have hnames : policy.transports.map (·.transportName) =
      offeredNames allowInsecure allowInsecureHttp profile.transportTypes := by
    rw [htransports, offeredNames, ← dedupeBy_id]
    refine (dedupeBy_map id TransportPolicyEntry.transportName _).trans ?_
    rw [List.map_filterMap]
    simp only [profileEntry_name]
    rw [← List.filterMap_eq_map, List.filterMap_filter]
    rfl
  rw [hkept, hnames]

/-! ## The chain -/

/-- The chain has an entry for a name: every insecure transport asks for the Telnet opt-in. -/
def chained (allowInsecure : Bool) (name : String) : Bool :=
  match TransportCapability.ofValue (upper name) with
  | none => false
  | some capability =>
    (capabilityToService capability).isSome &&
      (allowInsecure || !insecureTransports.contains capability)

theorem chainEntry_name (credentialType : Option String) (allowInsecure : Bool) (text : String) :
    (chainEntry credentialType allowInsecure (lower text)).map (·.transportName) =
      if chained allowInsecure (lower text) then some (lower text) else none := by
  unfold chainEntry chained
  cases TransportCapability.ofValue (upper (lower text)) with
  | none => rfl
  | some capability => cases capability <;> cases allowInsecure <;> simp <;> rfl

/-- An offered name is in the chain, unless it is plain HTTP and Telnet is not allowed. -/
theorem chained_offered {allowInsecure allowInsecureHttp : Bool} {text : String}
    (h : offered allowInsecure allowInsecureHttp text = true) :
    chained allowInsecure (lower text) =
      (allowInsecure || TransportCapability.ofValue (upper text) != some .http) := by
  unfold offered at h
  unfold chained
  cases hcap : TransportCapability.ofValue (upper text) with
  | none => rw [hcap] at h; cases h
  | some capability =>
    rw [ofValue_upper_lower hcap]
    rw [hcap] at h
    cases capability <;> cases allowInsecure <;> first | rfl | cases h

/-- A name that is not offered is in the chain if and only if it is a protocol in lower case only,
unless it is plain HTTP. -/
theorem chained_stray {allowInsecure allowInsecureHttp : Bool} {text : String}
    (h : offered allowInsecure allowInsecureHttp text = false)
    (hhttp : lower text = "http" → allowInsecureHttp = true) :
    chained allowInsecure (lower text) = true ↔
      TransportCapability.ofValue (upper text) = none ∧
        TransportCapability.ofValue (upper (lower text)) ≠ none := by
  unfold offered at h
  unfold chained
  cases hcap : TransportCapability.ofValue (upper text) with
  | none =>
    cases hlow : TransportCapability.ofValue (upper (lower text)) with
    | none => simp
    | some capability =>
      cases ssh_of_lower hcap hlow
      cases allowInsecure <;> simp [capabilityToService, insecureTransports]
  | some capability =>
    rw [ofValue_upper_lower hcap]
    rw [hcap] at h
    refine iff_of_false ?_ fun hnone => absurd hnone.1 (Option.some_ne_none _)
    cases capability
    case http =>
      have hname : lower text = "http" := lower_of_ofValue_http hcap
      rw [hhttp hname] at h
      cases h
    case telnet =>
      have hflag : allowInsecure = false := h
      rw [hflag]
      exact Bool.false_ne_true
    all_goals first | exact Bool.false_ne_true | cases h

/-- What the fallbacks of the target add to the names of its profile. -/
theorem fallbacks_eq (supported : Option (List String)) (allowInsecure allowInsecureHttp : Bool)
    (fallbacks names : List String) :
    ∃ extra, fallbacks.foldl (addFallback supported allowInsecure allowInsecureHttp) names =
        names ++ extra ∧
      (names.Nodup → (names ++ extra).Nodup) ∧
      (∀ name ∈ extra, name ∈ fallbacks ∧ name ∉ names ∧
        (∀ listed, supported = some listed → name ∈ listed) ∧
        (name = "http" → allowInsecureHttp = true)) ∧
      ∀ name ∈ fallbacks, (∀ listed, supported = some listed → name ∈ listed) →
        name ≠ "telnet" → name ≠ "http" → name ∈ names ++ extra := by
  induction fallbacks generalizing names with
  | nil => exact ⟨[], by simp, by simp, by simp, by simp⟩
  | cons fallback fallbacks ih =>
    rw [List.foldl_cons, addFallback]
    split
    · rename_i hskip
      obtain ⟨extra, heq, hnodup, hextra, hadded⟩ := ih names
      refine ⟨extra, heq, hnodup, fun name hname => ?_, fun name hname hlisted htelnet hhttp => ?_⟩
      · obtain ⟨hmem, hrest⟩ := hextra name hname
        exact ⟨List.mem_cons_of_mem _ hmem, hrest⟩
      · rcases List.mem_cons.1 hname with rfl | hname
        · -- skipped although it is supported: the name was there before
          simp only [Bool.or_eq_true, Bool.and_eq_true, beq_iff_eq, List.contains_iff_mem] at hskip
          rcases hskip with ((hmissing | hold) | ⟨hname, _⟩) | ⟨hname, _⟩
          · cases hsupported : supported with
            | none => rw [hsupported] at hmissing; cases hmissing
            | some listed =>
              rw [hsupported] at hmissing
              have hin := hlisted listed hsupported
              simp [hin] at hmissing
          · exact List.mem_append_left _ hold
          · exact absurd hname htelnet
          · exact absurd hname hhttp
        · exact hadded name hname hlisted htelnet hhttp
    · rename_i hadd
      simp only [Bool.or_eq_true, Bool.and_eq_true, beq_iff_eq, not_or, not_and,
        List.contains_iff_mem] at hadd
      obtain ⟨⟨⟨hsupported, hnew⟩, _⟩, hhttp⟩ := hadd
      obtain ⟨extra, heq, hnodup, hextra, hadded⟩ := ih (names ++ [fallback])
      rw [List.append_assoc, List.singleton_append] at heq hnodup hadded
      refine ⟨fallback :: extra, heq, fun h => hnodup ?_, ?_, ?_⟩
      · exact h.append (List.nodup_singleton fallback) (by simpa using hnew)
      · intro name hname
        rcases List.mem_cons.1 hname with rfl | hname
        · refine ⟨List.mem_cons_self, hnew, ?_, by simpa using hhttp⟩
          rintro listed rfl
          simpa using hsupported
        · obtain ⟨hmem, hold, hlisted, hopt⟩ := hextra name hname
          exact ⟨List.mem_cons_of_mem _ hmem, fun h => hold (List.mem_append_left _ h), hlisted,
            hopt⟩
      · intro name hname
        rcases List.mem_cons.1 hname with rfl | hname
        · exact fun _ _ _ => List.mem_append_right _ List.mem_cons_self
        · exact hadded name hname

theorem filterMap_chainEntry (credentialType : Option String) (allowInsecure : Bool)
    {names : List String} (h : ∀ name ∈ names, ∃ text, name = lower text) :
    (names.filterMap (chainEntry credentialType allowInsecure)).map (·.transportName) =
      names.filter (chained allowInsecure) := by
  rw [List.map_filterMap, ← List.filterMap_eq_filter]
  refine List.filterMap_congr fun name hname => ?_
  obtain ⟨text, rfl⟩ := h name hname
  rw [chainEntry_name]
  rfl

/-- The names of a target's policy, when the names `profileNames` gives are `names`. -/
theorem transportPolicy_names {metadata : PyDict} {profile : CredentialProfileRecord}
    {names : List String} {allowInsecure allowInsecureHttp : Bool}
    (hflag : (metadata.getD "allow_insecure_telnet").truthy = allowInsecure)
    (hhttp : (metadata.getD "allow_insecure_http").truthy = allowInsecureHttp)
    (hnames : profileNames (some profile) allowInsecure allowInsecureHttp = .ok names)
    (hnodup : names.Nodup) :
    ∃ policy extra, transportPolicy metadata (some profile) = .ok policy ∧
      policy.transportNames =
        (inFront (preferredName metadata) (names ++ extra)).filter (chained allowInsecure) ∧
      (∀ name ∈ extra, name ∈ fallbackNames metadata ∧ name ∉ names ∧
        (∃ text ∈ profile.transportTypes, name = lower text) ∧
        (name = "http" → allowInsecureHttp = true)) ∧
      ∀ name ∈ fallbackNames metadata, name ∈ profile.transportTypes.map lower →
        name ≠ "telnet" → name ≠ "http" → name ∈ names ++ extra := by
  obtain ⟨policy, hpolicy, _⟩ := transportPolicy_total metadata (some profile)
  have hlower : ∀ name ∈ names, ∃ text, name = lower text := by
    obtain ⟨named, hok, hnamed⟩ := profileNames_named (some profile) allowInsecure
      allowInsecureHttp
    rw [hnames, Except.ok.injEq] at hok
    exact fun name hname => (hnamed name (hok ▸ hname)).1
  obtain ⟨extra, hfold, hdistinct, hextra, hadded⟩ :=
    fallbacks_eq (supportedTransports (some profile))
    allowInsecure allowInsecureHttp (fallbackNames metadata) names
  have hlisted : ∀ name ∈ extra, ∃ text ∈ profile.transportTypes, name = lower text := by
    intro name hname
    obtain ⟨text, htext, rfl⟩ := List.mem_map.1 ((hextra name hname).2.2.1 _ rfl)
    exact ⟨text, htext, rfl⟩
  have hin : ∀ name ∈ fallbackNames metadata, name ∈ profile.transportTypes.map lower →
      name ≠ "telnet" → name ≠ "http" → name ∈ names ++ extra := by
    intro name hname hmem
    refine hadded name hname fun listed hsupported => ?_
    cases hsupported
    exact hmem
  refine ⟨policy, extra, hpolicy, ?_, fun name hname => ?_, hin⟩
  case refine_2 =>
    obtain ⟨hmem, hnew, _, hopt⟩ := hextra name hname
    exact ⟨hmem, hnew, hlisted name hname, hopt⟩
  unfold transportPolicy at hpolicy
  simp only [hflag, hhttp, hnames, bind, Except.bind] at hpolicy
  rw [hfold, dedupeBy_of_nodup (hdistinct hnodup), preferFirst_eq (hdistinct hnodup)] at hpolicy
  rw [MultiTransportPolicy.transportNames, (policy_new_ok hpolicy).1]
  refine filterMap_chainEntry _ allowInsecure fun name hname => ?_
  rcases List.mem_append.1 (mem_inFront.1 hname) with hname | hname
  · exact hlower name hname
  · obtain ⟨text, _, rfl⟩ := hlisted name hname
    exact ⟨text, rfl⟩

/-- A fallback that the profile lists and does not offer, a protocol in lower case only. -/
def Stray (metadata : PyDict) (names transportTypes : List String) (name : String) : Prop :=
  name ∈ fallbackNames metadata ∧ name ∉ names ∧ ∃ text ∈ transportTypes, lower text = name ∧
    TransportCapability.ofValue (upper text) = none ∧
      TransportCapability.ofValue (upper name) ≠ none

/-- A policy of offered transports: the offered names, without plain HTTP if Telnet is not
allowed, and the stray fallbacks. -/
theorem policy_names {metadata : PyDict} {profile : CredentialProfileRecord}
    {allowInsecure allowInsecureHttp : Bool}
    (hflag : (metadata.getD "allow_insecure_telnet").truthy = allowInsecure)
    (hhttp : (metadata.getD "allow_insecure_http").truthy = allowInsecureHttp)
    (hoffered : offeredNames allowInsecure allowInsecureHttp profile.transportTypes ≠ []) :
    ∃ policy strays, transportPolicy metadata (some profile) = .ok policy ∧
      policy.transportNames = inFront (preferredName metadata)
        ((offeredNames allowInsecure allowInsecureHttp profile.transportTypes).filter (fun name =>
          allowInsecure || TransportCapability.ofValue (upper name) != some .http) ++ strays) ∧
      ∀ name, name ∈ strays ↔ Stray metadata
        (offeredNames allowInsecure allowInsecureHttp profile.transportTypes)
          profile.transportTypes name := by
  have htypes : profile.transportTypes ≠ [] := by
    intro hnil
    rw [hnil] at hoffered
    exact hoffered rfl
  have hnames := profileNames_eq htypes allowInsecure allowInsecureHttp
  rw [if_neg hoffered] at hnames
  obtain ⟨policy, extra, hpolicy, htransports, hextra, hadded⟩ :=
    transportPolicy_names hflag hhttp hnames nodup_offeredNames
  have hnot : ∀ {text}, text ∈ profile.transportTypes → lower text ∉
      offeredNames allowInsecure allowInsecureHttp profile.transportTypes →
      offered allowInsecure allowInsecureHttp text = false := by
    intro text htext hnew
    by_contra hoff
    rw [Bool.not_eq_false] at hoff
    exact hnew (mem_offeredNames.2 ⟨text, htext, hoff, rfl⟩)
  refine ⟨policy, extra.filter (chained allowInsecure), hpolicy, ?_, fun name => ?_⟩
  · rw [htransports, ← inFront_filter, List.filter_append]
    congr 2
    refine List.filter_congr fun name hname => ?_
    obtain ⟨text, _, hoff, rfl⟩ := mem_offeredNames.1 hname
    rw [chained_offered hoff, offered_lower hoff]
  · rw [List.mem_filter]
    constructor
    · rintro ⟨hname, hchained⟩
      obtain ⟨hfallback, hnew, ⟨text, htext, rfl⟩, hopt⟩ := hextra name hname
      obtain ⟨hnone, hlow⟩ := (chained_stray (hnot htext hnew) hopt).1 hchained
      exact ⟨hfallback, hnew, text, htext, rfl, hnone, hlow⟩
    · rintro ⟨hfallback, hnew, text, htext, rfl, hnone, hlow⟩
      have hnothttp : lower text ≠ "http" := by
        intro heq
        rw [ofValue_http heq] at hnone
        cases hnone
      have hnottelnet : lower text ≠ "telnet" := by
        intro heq
        rw [ofValue_telnet heq] at hnone
        cases hnone
      have hmem := hadded _ hfallback (List.mem_map_of_mem htext) hnottelnet hnothttp
      refine ⟨(List.mem_append.1 hmem).resolve_left hnew, ?_⟩
      exact (chained_stray (hnot htext hnew) fun heq => absurd heq hnothttp).2 ⟨hnone, hlow⟩

/-- A profile that offers nothing leads to a policy with SSH. -/
theorem ssh_mem_policy {metadata : PyDict} {profile : CredentialProfileRecord}
    {allowInsecure allowInsecureHttp : Bool}
    (hflag : (metadata.getD "allow_insecure_telnet").truthy = allowInsecure)
    (hhttp : (metadata.getD "allow_insecure_http").truthy = allowInsecureHttp)
    (htypes : profile.transportTypes ≠ [])
    (hoffered : offeredNames allowInsecure allowInsecureHttp profile.transportTypes = []) :
    ∃ policy, transportPolicy metadata (some profile) = .ok policy ∧
      "ssh" ∈ policy.transportNames := by
  have hnames := profileNames_eq htypes allowInsecure allowInsecureHttp
  rw [if_pos hoffered] at hnames
  obtain ⟨policy, extra, hpolicy, htransports, _, _⟩ :=
    transportPolicy_names hflag hhttp hnames (List.nodup_singleton "ssh")
  refine ⟨policy, hpolicy, ?_⟩
  rw [htransports, List.mem_filter, mem_inFront]
  exact ⟨List.mem_append_left _ List.mem_cons_self, by cases allowInsecure <;> decide⟩

/-! ## The effective policy -/

/-- The transports the target allows out of those its profile lists. -/
def DiscoveryTargetRecord.offeredNames (target : DiscoveryTargetRecord)
    (profile : CredentialProfileRecord) : List String :=
  Discovery.offeredNames target.allowInsecureTelnet target.httpOptIn profile.transportTypes

/-- The policy is what the profile and the target say: the listed protocols that the target allows,
each once, in the profile's order with the preferred one first. -/
structure Effective (target : DiscoveryTargetRecord) (profile : CredentialProfileRecord)
    (policy : MultiTransportPolicy) : Prop where
  names : policy.transportNames =
    inFront (preferredName target.view.metadata) (target.offeredNames profile)
  capability : ∀ entry ∈ policy.transports,
    TransportCapability.ofValue (upper entry.transportName) = some entry.capability
  once : (policy.transports.map (·.capability)).Nodup

/-- The profile lists a protocol that the target allows, the target does not allow plain HTTP
without Telnet if HTTP is listed, no allowed protocol is listed in two spellings, and no fallback
is stray. -/
structure Resolves (target : DiscoveryTargetRecord) (profile : CredentialProfileRecord) : Prop where
  offers : ∃ text ∈ profile.transportTypes,
    offered target.allowInsecureTelnet target.httpOptIn text = true
  http : (∃ text ∈ profile.transportTypes,
      TransportCapability.ofValue (upper text) = some .http) →
    target.httpOptIn = true → target.allowInsecureTelnet = true
  spelling : ∀ text ∈ profile.transportTypes, ∀ other ∈ profile.transportTypes,
    offered target.allowInsecureTelnet target.httpOptIn text = true →
    TransportCapability.ofValue (upper text) = TransportCapability.ofValue (upper other) →
      lower text = lower other
  fallback : ∀ name, ¬ Stray target.view.metadata (target.offeredNames profile)
    profile.transportTypes name

/-- The profile a target names, when the profiles table holds `profiles`. -/
def profileFor (profiles : Tbl (Row .profiles) (primaryKey .profiles))
    (target : DiscoveryTargetRecord) : Option CredentialProfileRecord :=
  (profileId target.view.metadata).bind fun id =>
    profiles.rows.find? fun p => p.id == id && p.tenantId == target.tenantId

theorem capability_of_policy {metadata : PyDict} {profile : Option CredentialProfileRecord}
    {policy : MultiTransportPolicy} (h : transportPolicy metadata profile = .ok policy) :
    ∀ entry ∈ policy.transports,
      TransportCapability.ofValue (upper entry.transportName) = some entry.capability := by
  intro entry hentry
  obtain ⟨_, _, text, hchain⟩ := transportPolicy_lower h entry hentry
  obtain ⟨hcap, hname⟩ := chainEntry_ok hchain
  rw [hname, lower_lower]
  exact hcap

/-- The offered names have distinct protocols if and only if no protocol has two spellings. -/
theorem once_iff {target : DiscoveryTargetRecord} {profile : CredentialProfileRecord}
    {policy : MultiTransportPolicy}
    (hnames : policy.transportNames =
      inFront (preferredName target.view.metadata) (target.offeredNames profile))
    (hcapability : ∀ entry ∈ policy.transports,
      TransportCapability.ofValue (upper entry.transportName) = some entry.capability) :
    (policy.transports.map (·.capability)).Nodup ↔
      ∀ text ∈ profile.transportTypes, ∀ other ∈ profile.transportTypes,
        offered target.allowInsecureTelnet target.httpOptIn text = true →
        TransportCapability.ofValue (upper text) = TransportCapability.ofValue (upper other) →
          lower text = lower other := by
  have hdistinct : (policy.transports.map (·.transportName)).Nodup := by
    rw [← MultiTransportPolicy.transportNames, hnames]
    exact nodup_inFront nodup_offeredNames
  have hmem : ∀ name, (∃ entry ∈ policy.transports, entry.transportName = name) ↔
      ∃ text ∈ profile.transportTypes,
        offered target.allowInsecureTelnet target.httpOptIn text = true ∧ lower text = name := by
    intro name
    rw [← mem_offeredNames, ← DiscoveryTargetRecord.offeredNames, ← mem_inFront, ← hnames,
      MultiTransportPolicy.transportNames, List.mem_map]
  constructor
  · intro honce text htext other hother hoff hsame
    have hoff' : offered target.allowInsecureTelnet target.httpOptIn other = true := by
      unfold offered at hoff ⊢
      rwa [← hsame]
    obtain ⟨entry, hentry, hname⟩ := (hmem (lower text)).2 ⟨text, htext, hoff, rfl⟩
    obtain ⟨entry', hentry', hname'⟩ := (hmem (lower other)).2 ⟨other, hother, hoff', rfl⟩
    have hcap := hcapability entry hentry
    have hcap' := hcapability entry' hentry'
    have hprotocol := offered_lower hoff
    rw [← hname, hcap] at hprotocol
    have hprotocol' := offered_lower hoff'
    rw [← hname', hcap', ← hsame, ← hprotocol, Option.some.injEq] at hprotocol'
    rw [← hname, ← hname', List.inj_on_of_nodup_map honce hentry hentry' hprotocol'.symm]
  · intro hspelling
    refine List.Nodup.map_on (fun entry hentry entry' hentry' hcap => ?_) hdistinct.of_map
    obtain ⟨text, htext, hoff, hname⟩ := (hmem entry.transportName).1 ⟨entry, hentry, rfl⟩
    obtain ⟨other, hother, hoff', hname'⟩ := (hmem entry'.transportName).1 ⟨entry', hentry', rfl⟩
    have hsame : TransportCapability.ofValue (upper text) =
        TransportCapability.ofValue (upper other) := by
      rw [← offered_lower hoff, ← offered_lower hoff', hname, hname',
        hcapability entry hentry, hcapability entry' hentry', hcap]
    have hlower := hspelling text htext other hother hoff hsame
    rw [hname, hname'] at hlower
    exact List.inj_on_of_nodup_map hdistinct hentry hentry' hlower

/-- Resolving the policy of a target with a credential profile never raises, and the policy is the
effective one if and only if the target and the profile resolve. -/
theorem effective_policy_iff {profiles : Tbl (Row .profiles) (primaryKey .profiles)}
    {target : DiscoveryTargetRecord} {profile : CredentialProfileRecord}
    (hprofile : profileFor profiles target = some profile)
    (htypes : profile.transportTypes ≠ []) :
    ∃ policy, policyFor profiles target = .ok policy ∧
      (Effective target profile policy ↔ Resolves target profile) := by
  have hflag : (target.view.metadata.getD "allow_insecure_telnet").truthy =
      target.allowInsecureTelnet := congrArg PyVal.truthy (resolvedMetadata_optIns target).1
  have hhttp : (target.view.metadata.getD "allow_insecure_http").truthy = target.httpOptIn :=
    congrArg PyVal.truthy (resolvedMetadata_optIns target).2
  have hpolicyFor : policyFor profiles target =
      transportPolicy target.view.metadata (some profile) := by
    rw [← hprofile]
    rfl
  rw [hpolicyFor]
  by_cases hoffered : target.offeredNames profile = []
  · -- SSH takes the place of what the profile lists
    obtain ⟨policy, hpolicy, hssh⟩ := ssh_mem_policy hflag hhttp htypes hoffered
    refine ⟨policy, hpolicy, fun heffective => ?_, fun hresolves => ?_⟩
    · rw [heffective.names, mem_inFront, hoffered] at hssh
      cases hssh
    · obtain ⟨text, htext, hoff⟩ := hresolves.offers
      have hname : lower text ∈ target.offeredNames profile :=
        mem_offeredNames.2 ⟨text, htext, hoff, rfl⟩
      rw [hoffered] at hname
      cases hname
  · obtain ⟨policy, strays, hpolicy, hnames, hstray⟩ := policy_names hflag hhttp hoffered
    have hcapability := capability_of_policy hpolicy
    refine ⟨policy, hpolicy, fun heffective => ?_, fun hresolves => ?_⟩
    · have hall := hnames.symm.trans heffective.names
      rw [← DiscoveryTargetRecord.offeredNames] at hall hstray
      have hnone : strays = [] := by
        refine List.eq_nil_iff_forall_not_mem.2 fun name hname => ?_
        have hin : name ∈ inFront (preferredName target.view.metadata)
            (target.offeredNames profile) := by
          rw [← hall, mem_inFront]
          exact List.mem_append_right _ hname
        exact ((hstray name).1 hname).2.1 (mem_inFront.1 hin)
      refine ⟨?_, ?_, (once_iff heffective.names hcapability).1 heffective.once, ?_⟩
      · obtain ⟨name, hname⟩ := List.exists_mem_of_ne_nil _ hoffered
        obtain ⟨text, htext, hoff, _⟩ := mem_offeredNames.1 hname
        exact ⟨text, htext, hoff⟩
      · rintro ⟨text, htext, hcap⟩ hopt
        have hoff : offered target.allowInsecureTelnet target.httpOptIn text = true := by
          rw [offered, hcap]
          exact hopt
        rw [hnone, List.append_nil, inFront_filter, List.filter_eq_self] at hall
        have hkept := hall (lower text)
          (mem_inFront.2 (mem_offeredNames.2 ⟨text, htext, hoff, rfl⟩))
        rw [ofValue_upper_lower hcap] at hkept
        simpa using hkept
      · intro name hname
        have hin := (hstray name).2 hname
        rw [hnone] at hin
        cases hin
    · have hnone : strays = [] :=
        List.eq_nil_iff_forall_not_mem.2 fun name hname =>
          hresolves.fallback name ((hstray name).1 hname)
      have heffective : policy.transportNames =
          inFront (preferredName target.view.metadata) (target.offeredNames profile) := by
        rw [hnames, hnone, List.append_nil, DiscoveryTargetRecord.offeredNames, inFront_filter,
          List.filter_eq_self]
        intro name hname
        obtain ⟨text, htext, hoff, rfl⟩ := mem_offeredNames.1 (mem_inFront.1 hname)
        rw [offered_lower hoff]
        by_cases hcap : TransportCapability.ofValue (upper text) = some .http
        · have hopt : target.httpOptIn = true := by
            rw [offered, hcap] at hoff
            exact hoff
          rw [hresolves.http ⟨text, htext, hcap⟩ hopt, Bool.true_or]
        · rw [bne_iff_ne.2 hcap, Bool.or_true]
      exact ⟨heffective, hcapability, (once_iff heffective hcapability).2 hresolves.spelling⟩

/-! ### A profile for SSH and plain HTTP -/

/-- A target with the HTTP opt-in and without the Telnet opt-in. -/
def plainHttpTarget : DiscoveryTargetRecord :=
  { profiledTarget with allowInsecureHttp := true }

def plainHttpProfile : CredentialProfileRecord :=
  { sshProfile with transportTypes := ["ssh", "http"] }

theorem effective_policy_iff_ssh :
    ∃ policy, policyFor (Tbl.empty.set sshProfile) profiledTarget =
        .ok policy ∧
      (Effective profiledTarget sshProfile policy ↔
        Resolves profiledTarget sshProfile) :=
  effective_policy_iff rfl (by decide)

/-- Its policy has SSH alone. -/
theorem plainHttp_dropped :
    ((policyFor (Tbl.empty.set plainHttpProfile) plainHttpTarget).toOption.map
      (·.transportNames)) = some ["ssh"] := by
  decide

theorem effective_policy_fails :
    ¬ ∃ policy, policyFor (Tbl.empty.set plainHttpProfile) plainHttpTarget = .ok policy ∧
      Effective plainHttpTarget plainHttpProfile policy := by
  rintro ⟨policy, hpolicy, heffective⟩
  have hnames := plainHttp_dropped
  rw [hpolicy] at hnames
  simp only [Except.toOption, Option.map_some, Option.some.injEq] at hnames
  rw [heffective.names] at hnames
  exact absurd hnames (by decide)

end Discovery
end NetOps
