import NetOps.Conc.TwoRuns
import NetOps.Discovery.Execution

/-!
# Discovery.LikeCollectors

Collectors that do the same but for the exceptions they raise.

`Conversation.Like E`, `Collector.Like E` and `CollectorRegistry.Like E` relate collectors whose
exceptions are related by `E`. A chain of transports reads of an exception its classification and
its redacted text: with collectors that raise exceptions of one classification and one redacted
text it is the same program (`executeMultiTransport_eq`).
-/

namespace NetOps
namespace Discovery

open Conc Text MultiTransportDiscoveryOrchestrator DiscoveryExecutionService

variable {E E' E'' : Exn → Exn → Prop} {α β : Type}

inductive Conversation.Like (E : Exn → Exn → Prop) : Conversation α → Conversation α → Prop where
  | ok (a : α) : Like E (.done (.ok a)) (.done (.ok a))
  | error {e e' : Exn} (h : E e e') : Like E (.done (.error e)) (.done (.error e'))
  | network (request : NetworkRequest) {k k'} (h : ∀ r, Like E (k r) (k' r)) :
      Like E (.network request k) (.network request k')
  | checkCancellation {k k'} (h : ∀ r, Like E (k r) (k' r)) :
      Like E (.checkCancellation k) (.checkCancellation k')

structure Collector.Like (E : Exn → Exn → Prop) (c c' : Collector) : Prop where
  name : c.name = c'.name
  capabilities : c.capabilities = c'.capabilities
  parser : c.parser = c'.parser
  healthCheck : ∀ context, (c.healthCheck context).Like E (c'.healthCheck context)
  collect : ∀ context, (c.collect context).Like E (c'.collect context)
  normalize : ∀ context payload,
    Raises.Raised E (c.normalize context payload) (c'.normalize context payload)

/-- The same names, for collectors that do the same but for the exceptions. -/
def CollectorRegistry.Like (E : Exn → Exn → Prop) (registry registry' : CollectorRegistry) : Prop :=
  List.Forall₂ (fun c c' => c.1 = c'.1 ∧ c.2.Like E c'.2) registry.collectors registry'.collectors

/-! ## Two relations in one -/

section Both

variable (hE : ∀ e e', E e e' → E' e e' → E'' e e')

include hE

theorem Conversation.Like.both {c c' : Conversation α} (h : c.Like E c') (h' : c.Like E' c') :
    c.Like E'' c' := by
  induction h with
  | ok a => exact .ok a
  | error h =>
    cases h' with
    | error h' => exact .error (hE _ _ h h')
  | network request _ ih =>
    cases h' with
    | network _ h' => exact .network request fun r => ih r (h' r)
  | checkCancellation _ ih =>
    cases h' with
    | checkCancellation h' => exact .checkCancellation fun r => ih r (h' r)

theorem raised_both {r r' : Except Exn α} (h : Raises.Raised E r r') (h' : Raises.Raised E' r r') :
    Raises.Raised E'' r r' := by
  cases h with
  | ok a => exact .ok a
  | error h =>
    cases h' with
    | error h' => exact .error (hE _ _ h h')

theorem Collector.Like.both {c c' : Collector} (h : c.Like E c') (h' : c.Like E' c') :
    c.Like E'' c' where
  name := h.name
  capabilities := h.capabilities
  parser := h.parser
  healthCheck context := (h.healthCheck context).both hE (h'.healthCheck context)
  collect context := (h.collect context).both hE (h'.collect context)
  normalize context payload :=
    raised_both hE (h.normalize context payload) (h'.normalize context payload)

theorem CollectorRegistry.Like.both {registry registry' : CollectorRegistry}
    (h : registry.Like E registry') (h' : registry.Like E' registry') :
    registry.Like E'' registry' := by
  obtain ⟨cs⟩ := registry
  obtain ⟨cs'⟩ := registry'
  unfold CollectorRegistry.Like at h h' ⊢
  dsimp only at h h' ⊢
  induction h with
  | nil => exact .nil
  | cons hc _ ih =>
    cases h' with
    | cons hc' h' => exact .cons ⟨hc.1, hc.2.both hE hc'.2⟩ (ih h')

end Both

/-! ## Attempts -/

/-- Configurations of one transport with like collectors. -/
def ConfigsLike (E : Exn → Exn → Prop) (c c' : TransportAttemptConfig) : Prop :=
  ∃ collector, c' = { c with collector := collector } ∧ c.collector.Like E collector

theorem unwrap_leaves {r r' : Except Exn α} (h : Raises.Raised E r r') :
    Raises.Leaves E (unwrap r) (unwrap r') := by
  cases h with
  | ok a => exact .pure (.ok a)
  | error h => exact .pure (.error h)

theorem run_leaves (hE : ∀ e, E e e) {c c' : Conversation α} (h : c.Like E c') (jobId : UUID)
    (check : M Unit) : Raises.Leaves E (c.run jobId check) (c'.run jobId check) := by
  induction h with
  | ok a => exact Raises.leaves_refl hE _
  | error h => exact unwrap_leaves (.error h)
  | network request _ ih => exact Raises.leaves_bind (Raises.leaves_refl hE _) ih
  | checkCancellation _ ih => exact Raises.leaves_bind (Raises.leaves_refl hE _) ih

theorem callCollector_leaves (hE : ∀ e, E e e) {c c' : Conversation α} (h : c.Like E c')
    (context : CollectorContext) (check : M Unit) :
    Raises.Leaves E (callCollector context check c) (callCollector context check c') :=
  Raises.leaves_bind (Raises.leaves_refl hE _) fun _ => run_leaves hE h _ _

theorem attemptPayload_leaves (hE : ∀ e, E e e) {c c' : TransportAttemptConfig}
    (h : ConfigsLike E c c') : Raises.Leaves E (attemptPayload c) (attemptPayload c') := by
  obtain ⟨collector, rfl, hcollector⟩ := h
  refine Raises.leaves_bind (callCollector_leaves hE (hcollector.healthCheck _) _ _) fun _ => ?_
  refine Raises.leaves_bind (callCollector_leaves hE (hcollector.collect _) _ _) fun payload => ?_
  split
  · exact Raises.leaves_refl hE _
  · refine Raises.leaves_bind (unwrap_leaves ?_) fun _ => Raises.leaves_refl hE _
    unfold validates
    rw [← hcollector.parser]
    split
    · exact hcollector.normalize c.context payload
    · exact .ok false

/-- A handler of every exception goes on from the result. -/
theorem run_catching_bind (m : M α) (f : Except Exn α → M β) :
    ExceptT.run (catching m >>= f) = (ExceptT.run m).bind fun r => ExceptT.run (f r) := by
  have hassoc : ExceptT.run (catching m >>= f) =
      (((ExceptT.run m).bind _).bind _).bind _ := rfl
  rw [hassoc, Prog.bind_assoc', Prog.bind_assoc']
  congr 1
  funext r
  cases r with
  | ok a => rfl
  | error e => rfl

/-- What is done after an exception depends on what two exceptions have in common. -/
theorem catching_bind_eq {m m' : M α} (h : Raises.Leaves E m m') {f : Except Exn α → M β}
    (hf : ∀ e e', E e e' → f (.error e) = f (.error e')) :
    (catching m >>= f) = (catching m' >>= f) := by
  have hrun : ExceptT.run (catching m >>= f) = ExceptT.run (catching m' >>= f) := by
    rw [run_catching_bind, run_catching_bind]
    refine Prog.Leaves.bind_eq h fun r r' hr => ?_
    cases hr with
    | ok a => rfl
    | error h => exact congrArg ExceptT.run (hf _ _ h)
  exact hrun

/-- Exceptions with one classification and one redacted text, for a chain of transports. -/
structure OneFailure (redact : String → String) (e e' : Exn) : Prop where
  code : classifyException e = classifyException e'
  message : safeFailureMessage redact e.text = safeFailureMessage redact e'.text

theorem OneFailure.refl (redact : String → String) (e : Exn) : OneFailure redact e e := ⟨rfl, rfl⟩

variable {redact : String → String}

theorem executeTransportAttempt_eq {c c' : TransportAttemptConfig}
    (h : ConfigsLike (OneFailure redact) c c') (attemptOrder : Nat) :
    executeTransportAttempt redact c attemptOrder =
      executeTransportAttempt redact c' attemptOrder := by
  have hpayload := attemptPayload_leaves (OneFailure.refl redact) h
  obtain ⟨collector, rfl, -⟩ := h
  refine catching_bind_eq hpayload fun e e' he => ?_
  dsimp only
  rw [he.code, he.message]

theorem attemptAll_eq {configs configs' : List TransportAttemptConfig}
    (h : List.Forall₂ (ConfigsLike (OneFailure redact)) configs configs')
    (deviceResult : DiscoveryDeviceResultRecord) (attemptOrder : Nat) (p : Progress) :
    attemptAll redact deviceResult attemptOrder p configs =
      attemptAll redact deviceResult attemptOrder p configs' := by
  induction h generalizing attemptOrder p with
  | nil => rfl
  | @cons c c' _ _ hc _ ih =>
    have hname : c.transportName = c'.transportName := by
      obtain ⟨_, rfl, -⟩ := hc
      rfl
    rw [attemptAll, attemptAll, hname, executeTransportAttempt_eq hc]
    simp only [ih]

/-! ## Chains -/

theorem find_like {α β : Type} {R : α → β → Prop} {p : α → Bool} {p' : β → Bool}
    (hp : ∀ a b, R a b → p a = p' b) {as : List α} {bs : List β} (h : List.Forall₂ R as bs) :
    Option.Rel R (as.find? p) (bs.find? p') := by
  induction h with
  | nil => exact .none
  | @cons a b _ _ hab _ ih =>
    rw [List.find?_cons, List.find?_cons, hp a b hab]
    cases p' b with
    | true => exact .some hab
    | false => exact ih

theorem head_like {α β : Type} {R : α → β → Prop} {as : List α} {bs : List β}
    (h : List.Forall₂ R as bs) : Option.Rel R as.head? bs.head? := by
  cases h with
  | nil => exact .none
  | cons hab _ => exact .some hab

theorem getLast_like {α β : Type} {R : α → β → Prop} {as : List α} {bs : List β}
    (h : List.Forall₂ R as bs) : Option.Rel R as.getLast? bs.getLast? := by
  rw [← List.head?_reverse, ← List.head?_reverse]
  exact head_like (List.rel_reverse h)

theorem orElse_like {α β : Type} {R : α → β → Prop} {o₁ o₂ : Option α} {o₁' o₂' : Option β}
    (h₁ : Option.Rel R o₁ o₁') (h₂ : Option.Rel R o₂ o₂') :
    Option.Rel R (o₁ <|> o₂) (o₁' <|> o₂') := by
  cases h₁ with
  | none => exact h₂
  | some h => exact .some h

theorem get_like {registry registry' : CollectorRegistry} (h : registry.Like E registry')
    (name : String) :
    Option.Rel (Collector.Like E) (registry.get name) (registry'.get name) := by
  unfold CollectorRegistry.get
  have hfind : Option.Rel _ (registry.collectors.find? fun e => e.1 == name)
      (registry'.collectors.find? fun e => e.1 == name) :=
    find_like (fun c c' hc => by rw [hc.1]) h
  generalize registry.collectors.find? _ = o at hfind ⊢
  generalize registry'.collectors.find? _ = o' at hfind ⊢
  cases hfind with
  | none => exact .none
  | some hc => exact .some hc.2

theorem select_like {registry registry' : CollectorRegistry} (h : registry.Like E registry')
    (capabilities : List CollectorCapability) :
    List.Forall₂ (Collector.Like E) (registry.select capabilities)
      (registry'.select capabilities) := by
  refine List.rel_filter (fun c c' hc => by simp only [hc.capabilities]) ?_
  exact List.rel_map (fun c c' hc => hc.2) h

theorem chainCollector_like {registry registry' : CollectorRegistry}
    (h : registry.Like E registry') (job : DiscoveryJobRecord) (transportName : String) :
    Raises.Results (Option.Rel (Collector.Like E)) (chainCollector registry job transportName)
      (chainCollector registry' job transportName) := by
  have hfound : ∀ capabilities : List CollectorCapability, Option.Rel (Collector.Like E)
      ((requestedCollector job).bind registry.get <|> (registry.select capabilities).head? <|>
        (registry.select []).head?)
      ((requestedCollector job).bind registry'.get <|> (registry'.select capabilities).head? <|>
        (registry'.select []).head?) := by
    intro capabilities
    refine orElse_like ?_ (orElse_like (head_like (select_like h _)) (head_like (select_like h _)))
    cases requestedCollector job with
    | none => exact .none
    | some name => exact get_like h name
  unfold chainCollector
  cases transportToCollectorCapability (lower transportName) with
  | some c => exact .ok (hfound [c])
  | none =>
    cases requestedCapabilities job with
    | ok capabilities => exact .ok (hfound capabilities)
    | error e => exact .error e

theorem chainConfig_like {registry registry' : CollectorRegistry} (h : registry.Like E registry')
    (job : DiscoveryJobRecord) (target : DiscoveryTargetRecordView) (policy : MultiTransportPolicy)
    (w : Watch) (entry : TransportPolicyEntry) :
    Option.Rel (ConfigsLike E) (chainConfig registry job target policy w entry)
      (chainConfig registry' job target policy w entry) := by
  unfold chainConfig
  split
  · exact .none
  · have hcollector := chainCollector_like h job entry.transportName
    generalize chainCollector registry job entry.transportName = r at hcollector ⊢
    generalize chainCollector registry' job entry.transportName = r' at hcollector ⊢
    cases hcollector with
    | error e => exact .none
    | ok ho =>
      cases ho with
      | none => exact .none
      | some hc => exact .some ⟨_, rfl, hc⟩

theorem buildTransportConfigs_like {registry registry' : CollectorRegistry}
    (h : registry.Like E registry') (job : DiscoveryJobRecord)
    (target : DiscoveryTargetRecordView) (policy : MultiTransportPolicy) (w : Watch) :
    List.Forall₂ (ConfigsLike E) (buildTransportConfigs registry job target policy w)
      (buildTransportConfigs registry' job target policy w) := by
  refine List.rel_filterMap ?_ (List.forall₂_same.2 fun _ _ => rfl)
  rintro entry _ rfl
  exact chainConfig_like h job target policy w entry

theorem publishDiscovered_eq {c c' : Collector} (h : c.name = c'.name) (w : Work)
    (deviceResult : DiscoveryDeviceResultRecord) (mt : MultiTransportDiscoveryResult)
    (payload : PyDict) :
    publishDiscovered w deviceResult c mt payload =
      publishDiscovered w deviceResult c' mt payload := by
  unfold publishDiscovered createEvidence
  rw [h]

theorem evidenceCollector_name {configs configs' : List TransportAttemptConfig}
    (h : List.Forall₂ (ConfigsLike E) configs configs') {last last' : Collector}
    (hlast : last.name = last'.name) (selectedTransport : Option String) :
    (evidenceCollector configs selectedTransport last).name =
      (evidenceCollector configs' selectedTransport last').name := by
  have hfind : Option.Rel (ConfigsLike E)
      (configs.find? fun c => some c.transportName == selectedTransport)
      (configs'.find? fun c => some c.transportName == selectedTransport) := by
    refine find_like (fun c c' hc => ?_) h
    obtain ⟨_, rfl, -⟩ := hc
    rfl
  unfold evidenceCollector
  generalize configs.find? _ = o at hfind ⊢
  generalize configs'.find? _ = o' at hfind ⊢
  cases hfind with
  | none => exact hlast
  | some hc =>
    obtain ⟨_, rfl, hc⟩ := hc
    exact hc.name

theorem concludeChain_eq {configs configs' : List TransportAttemptConfig}
    (h : List.Forall₂ (ConfigsLike E) configs configs') {last last' : Collector}
    (hlast : last.name = last'.name) (w : Work) (deviceResult : DiscoveryDeviceResultRecord)
    (mt : MultiTransportDiscoveryResult) :
    concludeChain w deviceResult configs last mt =
      concludeChain w deviceResult configs' last' mt := by
  have hname := evidenceCollector_name h hlast mt.selectedTransport
  unfold concludeChain
  split
  · dsimp only
    rw [publishDiscovered_eq hname]
  · rfl

theorem discoverWithFallback_eq {configs configs' : List TransportAttemptConfig}
    (h : List.Forall₂ (ConfigsLike (OneFailure redact)) configs configs')
    (deviceResult : DiscoveryDeviceResultRecord) :
    discoverWithFallback redact configs deviceResult =
      discoverWithFallback redact configs' deviceResult := by
  unfold discoverWithFallback
  rw [attemptAll_eq h]

/-- Collectors whose exceptions have one classification and one redacted text make one program. -/
theorem executeMultiTransport_eq {registry registry' : CollectorRegistry}
    (h : registry.Like (OneFailure redact) registry') (w : Work) :
    executeMultiTransport ⟨registry, redact⟩ w = executeMultiTransport ⟨registry', redact⟩ w := by
  unfold executeMultiTransport
  refine bind_congr fun policy => bind_congr fun deviceResult => bind_congr fun _ => ?_
  have hconfigs := buildTransportConfigs_like h w.job w.target policy w.watch
  have hlast := getLast_like hconfigs
  dsimp only
  generalize buildTransportConfigs registry w.job w.target policy w.watch = configs
    at hconfigs hlast ⊢
  generalize buildTransportConfigs registry' w.job w.target policy w.watch = configs'
    at hconfigs hlast ⊢
  generalize configs.getLast? = o at hlast ⊢
  generalize configs'.getLast? = o' at hlast ⊢
  cases hlast with
  | none => rfl
  | some hc =>
    obtain ⟨collector, rfl, hcollector⟩ := hc
    dsimp only
    rw [discoverWithFallback_eq hconfigs]
    refine bind_congr fun mt => bind_congr fun _ => bind_congr fun deviceResult => ?_
    exact concludeChain_eq hconfigs hcollector.name w deviceResult mt

end Discovery
end NetOps
