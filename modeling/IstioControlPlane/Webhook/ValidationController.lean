import IstioControlPlane.Go
import Mathlib.Data.List.GetD
import Mathlib.Data.List.Infix

namespace IstioControlPlane.Webhook.ValidationController

open Go

abbrev FailurePolicyType := String

def ignore : FailurePolicyType := "Ignore"

def fail : FailurePolicyType := "Fail"

/-- The options `reconcileRequest` reads; the names it passes to listers and clients are folded
into the answers of `Observation`. -/
structure Options where
  unregisterValidationWebhook : Bool

structure StatusError where
  reason : String
  message : String
  deriving DecidableEq

def isNotFound (err : StatusError) : Bool := err.reason == "NotFound"

def isAlreadyExists (err : StatusError) : Bool := err.reason == "AlreadyExists"

structure EndpointSubset where
  addresses : List String

structure Endpoints where
  subsets : List EndpointSubset

structure ValidatingWebhook where
  caBundle : String
  failurePolicy : Option FailurePolicyType
  deriving DecidableEq

structure ValidatingWebhookConfiguration where
  webhooks : List ValidatingWebhook
  deriving DecidableEq

structure Controller where
  o : Options
  endpointReadyOnce : Bool
  dryRunOfInvalidConfigRejected : Bool

def newController (o : Options) : Controller := ⟨o, false, false⟩

/-- What the cluster and the file system answer during one reconcile: listers, the dry runs,
the CA file and its verification, and the clients' `Update` and `Delete`. -/
structure Observation where
  endpoint : Except StatusError Endpoints
  dryRunCreate : Option StatusError
  dryRunUpdate : Option StatusError
  readFile : Except String String
  verifyCABundle : Option String
  current : Except StatusError ValidatingWebhookConfiguration
  update : Option StatusError
  delete : Option StatusError

/-- What a reconcile does, in order: its readiness checks with their verdicts, the retry it
queues, and its calls and writes on the webhook configuration. -/
inductive Action
  | isEndpointReady (ready : Bool)
  | isDryRunOfInvalidConfigRejected (rejected : Bool)
  | retryDryRun
  | deleteValidatingWebhookConfiguration
  | updateValidatingWebhookConfiguration (caBundle : String) (failurePolicy : FailurePolicyType)
  | update (config : ValidatingWebhookConfiguration)
  deriving DecidableEq

def deniedRequestMessageFragment : String :=
  "admission webhook \"validation.istio.io\" denied the request"

def stringsContains (s substr : String) : Bool := decide (substr.toList <:+: s.toList)

def isEndpointReady (endpoint : Endpoints) : Bool × String :=
  if endpoint.subsets.isEmpty then (false, "no subsets")
  else if endpoint.subsets.any (!·.addresses.isEmpty) then (true, "")
  else (false, "no subset addresses ready")

namespace Controller

def isEndpointReady (endpoint : Except StatusError Endpoints) :
    Bool × String × Option StatusError :=
  match endpoint with
  | .error err =>
    if isNotFound err then (false, "resource not found", none)
    else (false, "error getting resource: " ++ err.message, some err)
  | .ok endpoint =>
    ((ValidationController.isEndpointReady endpoint).1,
      (ValidationController.isEndpointReady endpoint).2, none)

def isDryRunOfInvalidConfigRejected (create update : Option StatusError) : Bool × String :=
  let err := match create with
    | some err => if isAlreadyExists err then update else some err
    | none => none
  match err with
  | none => (false, "dummy invalid config not rejected")
  | some err =>
    if !stringsContains err.message deniedRequestMessageFragment then
      (false, "dummy invalid rejected for the wrong reason: " ++ err.message)
    else (true, "")

def dryRunCheck (c : Controller) (obs : Observation) :
    Controller × List Action × Except StatusError Bool :=
  if !c.dryRunOfInvalidConfigRejected then
    let rejected := (isDryRunOfInvalidConfigRejected obs.dryRunCreate obs.dryRunUpdate).1
    if !rejected then (c, [.isDryRunOfInvalidConfigRejected false, .retryDryRun], .ok false)
    else ({ c with dryRunOfInvalidConfigRejected := true },
      [.isDryRunOfInvalidConfigRejected true], .ok true)
  else (c, [], .ok true)

def readyForFailClose (c : Controller) (obs : Observation) :
    Controller × List Action × Except StatusError Bool :=
  if !c.endpointReadyOnce then
    match isEndpointReady obs.endpoint with
    | (_, _, some err) => (c, [.isEndpointReady false], .error err)
    | (false, _, none) => (c, [.isEndpointReady false], .ok false)
    | (true, _, none) =>
      let r := dryRunCheck { c with endpointReadyOnce := true } obs
      (r.1, .isEndpointReady true :: r.2.1, r.2.2)
  else dryRunCheck c obs

def loadCABundle (obs : Observation) : Except (String × String) String :=
  match obs.readFile with
  | .error err => .error (err, "could not read caBundle file")
  | .ok caBundle =>
    match obs.verifyCABundle with
    | some err => .error (err, "could not verify caBundle")
    | none => .ok caBundle

/-- `updateValidatingWebhookConfiguration`: its writes and its error. On a lister error other
than not-found, `current` is nil and the type assertion on its deep copy panics. -/
def updateValidatingWebhookConfiguration (caBundle : String) (failurePolicy : FailurePolicyType)
    (obs : Observation) : List Action × Except Panic (Option String) :=
  match obs.current with
  | .error err =>
    if isNotFound err then ([], .ok none)
    else ([], .error ⟨"interface conversion: runtime.Object is nil, " ++
      "not *v1beta1.ValidatingWebhookConfiguration"⟩)
  | .ok current =>
    let updated : ValidatingWebhookConfiguration :=
      ⟨current.webhooks.map fun wh ↦
        { wh with caBundle, failurePolicy := some failurePolicy }⟩
    if updated ≠ current then ([.update updated], .ok (obs.update.map (·.message)))
    else ([], .ok none)

def reconcileRequest (c : Controller) (obs : Observation) :
    Controller × List Action × Except Panic (Option String) :=
  if c.o.unregisterValidationWebhook then
    (c, [.deleteValidatingWebhookConfiguration], .ok (obs.delete.map (·.message)))
  else
    let r := readyForFailClose c obs
    match r.2.2 with
    | .error err => (r.1, r.2.1, .ok (some err.message))
    | .ok ready =>
      let failurePolicy := if ready then fail else ignore
      match loadCABundle obs with
      | .error _ => (r.1, r.2.1, .ok none)
      | .ok caBundle =>
        let u := updateValidatingWebhookConfiguration caBundle failurePolicy obs
        (r.1, r.2.1 ++ .updateValidatingWebhookConfiguration caBundle failurePolicy :: u.1, u.2)

end Controller

def run (c : Controller) : List Observation → List (List Action)
  | [] => []
  | obs :: rest =>
    let r := c.reconcileRequest obs
    r.2.1 :: match r.2.2 with
      | .error _ => []
      | .ok _ => run r.1 rest

/-- How a reconcile may set the latches: the endpoint latch only by a check that found the
endpoint ready, the dry-run latch only after it, by a check that found the config rejected. -/
structure LatchesSet (c c' : Controller) (acts : List Action) : Prop where
  endpoint : c'.endpointReadyOnce → c.endpointReadyOnce ∨ .isEndpointReady true ∈ acts
  dryRun : c'.dryRunOfInvalidConfigRejected → c.dryRunOfInvalidConfigRejected ∨
    (.isDryRunOfInvalidConfigRejected true ∈ acts ∧
      (c.endpointReadyOnce ∨ .isEndpointReady true ∈ acts))

theorem LatchesSet.refl (c : Controller) (acts : List Action) : LatchesSet c c acts :=
  ⟨.inl, .inl⟩

theorem LatchesSet.append {c c' : Controller} {acts : List Action} (h : LatchesSet c c' acts)
    (more : List Action) : LatchesSet c c' (acts ++ more) :=
  ⟨fun hc ↦ (h.endpoint hc).imp_right (List.mem_append_left more),
    fun hc ↦ (h.dryRun hc).imp_right fun ⟨hd, he⟩ ↦
      ⟨List.mem_append_left more hd, he.imp_right (List.mem_append_left more)⟩⟩

namespace Controller

variable (c : Controller) (obs : Observation)

theorem dryRunCheck_latches (hE : c.endpointReadyOnce) :
    LatchesSet c (dryRunCheck c obs).1 (dryRunCheck c obs).2.1 ∧
      (dryRunCheck c obs).1.endpointReadyOnce ∧
      ((dryRunCheck c obs).2.2 = .ok true →
        (dryRunCheck c obs).1.dryRunOfInvalidConfigRejected) := by
  unfold dryRunCheck
  dsimp only
  split_ifs with hD
  · exact ⟨LatchesSet.refl c _, hE, nofun⟩
  · exact ⟨⟨.inl, fun _ ↦ .inr ⟨.head _, .inl hE⟩⟩, hE, fun _ ↦ rfl⟩
  · exact ⟨LatchesSet.refl c _, hE, fun _ ↦ by simpa using hD⟩

theorem readyForFailClose_latches :
    LatchesSet c (readyForFailClose c obs).1 (readyForFailClose c obs).2.1 ∧
      ((readyForFailClose c obs).2.2 = .ok true →
        (readyForFailClose c obs).1.endpointReadyOnce ∧
          (readyForFailClose c obs).1.dryRunOfInvalidConfigRejected) := by
  unfold readyForFailClose
  by_cases hE : c.endpointReadyOnce
  · simp only [hE, Bool.not_true, if_false]
    obtain ⟨hl, hE', hD⟩ := dryRunCheck_latches c obs hE
    exact ⟨hl, fun h ↦ ⟨hE', hD h⟩⟩
  · simp only [hE, Bool.not_false, if_true]
    split
    · exact ⟨⟨fun h ↦ .inl h, fun h ↦ .inl h⟩, nofun⟩
    · exact ⟨⟨fun h ↦ .inl h, fun h ↦ .inl h⟩, nofun⟩
    · obtain ⟨hl, hE', hD⟩ := dryRunCheck_latches { c with endpointReadyOnce := true } obs rfl
      refine ⟨⟨fun _ ↦ .inr (.head _), fun h ↦ ?_⟩, fun h ↦ ⟨hE', hD h⟩⟩
      rcases hl.dryRun h with hd | ⟨hd, -⟩
      · exact .inl hd
      · exact .inr ⟨.tail _ hd, .inr (.head _)⟩

variable (caBundle : String) (failurePolicy : FailurePolicyType)

theorem updateCall_not_mem_dryRunCheck :
    .updateValidatingWebhookConfiguration caBundle failurePolicy ∉ (dryRunCheck c obs).2.1 := by
  unfold dryRunCheck
  dsimp only
  split_ifs <;> simp

theorem updateCall_not_mem_readyForFailClose :
    .updateValidatingWebhookConfiguration caBundle failurePolicy ∉
      (readyForFailClose c obs).2.1 := by
  unfold readyForFailClose
  split_ifs
  · split
    · simp
    · simp
    · simpa using updateCall_not_mem_dryRunCheck _ obs caBundle failurePolicy
  · exact updateCall_not_mem_dryRunCheck c obs caBundle failurePolicy

theorem updateCall_not_mem_writes (caBundle' : String) (failurePolicy' : FailurePolicyType) :
    .updateValidatingWebhookConfiguration caBundle failurePolicy ∉
      (updateValidatingWebhookConfiguration caBundle' failurePolicy' obs).1 := by
  unfold updateValidatingWebhookConfiguration
  split
  · split_ifs <;> simp
  · dsimp only
    split_ifs <;> simp

theorem reconcileRequest_latches :
    LatchesSet c (reconcileRequest c obs).1 (reconcileRequest c obs).2.1 ∧
      ∀ caBundle failurePolicy,
        .updateValidatingWebhookConfiguration caBundle failurePolicy ∈
            (reconcileRequest c obs).2.1 →
          (failurePolicy = fail ∨ failurePolicy = ignore) ∧
          (failurePolicy = fail → (reconcileRequest c obs).1.endpointReadyOnce ∧
            (reconcileRequest c obs).1.dryRunOfInvalidConfigRejected) := by
  obtain ⟨hl, hready⟩ := readyForFailClose_latches c obs
  unfold reconcileRequest
  split_ifs with hU
  · exact ⟨LatchesSet.refl c _, fun _ _ h ↦ by simp at h⟩
  · dsimp only
    have hnot := fun ca p ↦ updateCall_not_mem_readyForFailClose c obs ca p
    generalize readyForFailClose c obs = r at hl hready hnot ⊢
    obtain ⟨c', acts, res⟩ := r
    cases res with
    | error err => exact ⟨hl, fun ca p h ↦ absurd h (hnot ca p)⟩
    | ok ready =>
      cases loadCABundle obs with
      | error e => exact ⟨hl, fun ca p h ↦ absurd h (hnot ca p)⟩
      | ok caBundle =>
        dsimp only at hl hready hnot ⊢
        refine ⟨hl.append _, fun ca p h ↦ ?_⟩
        rcases List.mem_append.mp h with h | h
        · exact absurd h (hnot ca p)
        rcases List.mem_cons.mp h with h | h
        · obtain ⟨rfl, rfl⟩ := Action.updateValidatingWebhookConfiguration.inj h
          cases ready
          · exact ⟨.inr rfl, fun h ↦ absurd h (by decide)⟩
          · exact ⟨.inl rfl, fun _ ↦ hready rfl⟩
        · exact absurd h (updateCall_not_mem_writes obs _ _ _ _)

end Controller

section Runs

variable {past : List (List Action)} {a : Action}

theorem mem_getD_append_of_mem {i : ℕ} (more : List (List Action)) (h : a ∈ past.getD i []) :
    a ∈ (past ++ more).getD i [] := by
  by_cases hi : i < past.length
  · rwa [List.getD_append _ _ _ _ hi]
  · rw [List.getD_eq_default _ _ (Nat.le_of_not_lt hi)] at h
    cases h

theorem getD_append_length (acts : List Action) : (past ++ [acts]).getD past.length [] = acts := by
  rw [List.getD_append_right _ _ _ _ le_rfl, Nat.sub_self]
  rfl

def LatchesBacked (past : List (List Action)) (c : Controller) : Prop :=
  (c.endpointReadyOnce → ∃ i < past.length, .isEndpointReady true ∈ past.getD i []) ∧
  (c.dryRunOfInvalidConfigRejected → ∃ i j, i ≤ j ∧ j < past.length ∧
    .isEndpointReady true ∈ past.getD i [] ∧
      .isDryRunOfInvalidConfigRejected true ∈ past.getD j [])

/-- Every call with `Fail` in `trace` comes after a check that found the endpoint ready and,
not before it, one that found the invalid config rejected. -/
def FailJustified (trace : List (List Action)) : Prop :=
  ∀ k caBundle failurePolicy,
    .updateValidatingWebhookConfiguration caBundle failurePolicy ∈ trace.getD k [] →
    (failurePolicy = fail ∨ failurePolicy = ignore) ∧
    (failurePolicy = fail → ∃ i j, i ≤ j ∧ j ≤ k ∧
      .isEndpointReady true ∈ trace.getD i [] ∧
      .isDryRunOfInvalidConfigRejected true ∈ trace.getD j [])

theorem latchesBacked_snoc {c c' : Controller} {acts : List Action} (hb : LatchesBacked past c)
    (hl : LatchesSet c c' acts) : LatchesBacked (past ++ [acts]) c' := by
  have hlen : (past ++ [acts]).length = past.length + 1 := by simp
  have hnow : (past ++ [acts]).getD past.length [] = acts := getD_append_length acts
  refine ⟨fun hE ↦ ?_, fun hD ↦ ?_⟩
  · rcases hl.endpoint hE with hE | hE
    · obtain ⟨i, hi, he⟩ := hb.1 hE
      exact ⟨i, by omega, mem_getD_append_of_mem _ he⟩
    · exact ⟨past.length, by omega, by rwa [hnow]⟩
  · rcases hl.dryRun hD with hD | ⟨hd, hE | hE⟩
    · obtain ⟨i, j, hij, hj, he, hd⟩ := hb.2 hD
      exact ⟨i, j, hij, by omega, mem_getD_append_of_mem _ he, mem_getD_append_of_mem _ hd⟩
    · obtain ⟨i, hi, he⟩ := hb.1 hE
      exact ⟨i, past.length, by omega, by omega, mem_getD_append_of_mem _ he, by rwa [hnow]⟩
    · exact ⟨past.length, past.length, le_rfl, by omega, by rwa [hnow], by rwa [hnow]⟩

theorem failJustified_snoc {c' : Controller} {acts : List Action} (hf : FailJustified past)
    (hb : LatchesBacked (past ++ [acts]) c')
    (hcall : ∀ caBundle failurePolicy,
      .updateValidatingWebhookConfiguration caBundle failurePolicy ∈ acts →
      (failurePolicy = fail ∨ failurePolicy = ignore) ∧
      (failurePolicy = fail → c'.endpointReadyOnce ∧ c'.dryRunOfInvalidConfigRejected)) :
    FailJustified (past ++ [acts]) := by
  intro k caBundle failurePolicy h
  rcases Nat.lt_trichotomy k past.length with hk | rfl | hk
  · rw [List.getD_append _ _ _ _ hk] at h
    obtain ⟨hp, hfail⟩ := hf k caBundle failurePolicy h
    refine ⟨hp, fun hp ↦ ?_⟩
    obtain ⟨i, j, hij, hj, he, hd⟩ := hfail hp
    exact ⟨i, j, hij, hj, mem_getD_append_of_mem _ he, mem_getD_append_of_mem _ hd⟩
  · rw [getD_append_length] at h
    obtain ⟨hp, hfail⟩ := hcall caBundle failurePolicy h
    refine ⟨hp, fun hp ↦ ?_⟩
    obtain ⟨i, j, hij, hj, he, hd⟩ := hb.2 (hfail hp).2
    exact ⟨i, j, hij, Nat.lt_succ_iff.mp (by simpa using hj), he, hd⟩
  · rw [List.getD_eq_default _ _ (by simpa using hk)] at h
    cases h

theorem failJustified_run :
    ∀ (observations : List Observation) (past : List (List Action)) (c : Controller),
      LatchesBacked past c → FailJustified past → FailJustified (past ++ run c observations)
  | [], past, _, _, hf => by simpa [run] using hf
  | obs :: rest, past, c, hb, hf => by
    obtain ⟨hl, hcall⟩ := c.reconcileRequest_latches obs
    have hb' := latchesBacked_snoc hb hl
    have hf' := failJustified_snoc hf hb' hcall
    simp only [run]
    split
    · exact hf'
    · simpa using failJustified_run rest _ _ hb' hf'

end Runs

/-- In every run, whatever each reconcile observes, `Fail` is written only after a reconcile
found the endpoint ready and a later or the same one found the invalid Gateway denied. -/
theorem fail_policy_only_after_checks (o : Options) (observations : List Observation) :
    ∀ k caBundle failurePolicy, .updateValidatingWebhookConfiguration caBundle failurePolicy ∈
        (run (newController o) observations).getD k [] →
      (failurePolicy = fail ∨ failurePolicy = ignore) ∧
      (failurePolicy = fail → ∃ i j, i ≤ j ∧ j ≤ k ∧
        .isEndpointReady true ∈ (run (newController o) observations).getD i [] ∧
        .isDryRunOfInvalidConfigRejected true ∈ (run (newController o) observations).getD j []) :=
  failJustified_run observations [] _ ⟨nofun, nofun⟩ (fun _ _ _ h ↦ by simp at h)

def readyObservation : Observation :=
  ⟨.ok ⟨[⟨["10.0.0.1"]⟩]⟩,
    some ⟨"BadRequest",
      deniedRequestMessageFragment ++ ": gateway must have at least one server"⟩,
    none, .ok "ca", none, .ok ⟨[⟨"", none⟩]⟩, none, none⟩

theorem fail_policy_on_first_ready_reconcile :
    .updateValidatingWebhookConfiguration "ca" fail ∈
        (run (newController ⟨false⟩) [readyObservation]).getD 0 [] ∧
      ∃ i j, i ≤ j ∧ j ≤ 0 ∧
        .isEndpointReady true ∈ (run (newController ⟨false⟩) [readyObservation]).getD i [] ∧
        .isDryRunOfInvalidConfigRejected true ∈
          (run (newController ⟨false⟩) [readyObservation]).getD j [] :=
  have h : .updateValidatingWebhookConfiguration "ca" fail ∈
      (run (newController ⟨false⟩) [readyObservation]).getD 0 [] := by decide
  ⟨h, (fail_policy_only_after_checks ⟨false⟩ [readyObservation] 0 "ca" fail h).2 rfl⟩


/-- Both latches are set: from here `readyForFailClose` answers true without checking. -/
def Controller.FailClosed (c : Controller) : Prop := c.endpointReadyOnce ∧ c.dryRunOfInvalidConfigRejected

namespace Controller

variable (c : Controller) (obs : Observation)

theorem readyForFailClose_of_failClosed (h : c.FailClosed) :
    readyForFailClose c obs = (c, [], .ok true) := by
  simp [readyForFailClose, dryRunCheck, h.1, h.2]

theorem reconcileRequest_of_failClosed (h : c.FailClosed) :
    (reconcileRequest c obs).1.FailClosed ∧
      ∀ caBundle failurePolicy, .updateValidatingWebhookConfiguration caBundle failurePolicy ∈
        (reconcileRequest c obs).2.1 → failurePolicy = fail := by
  unfold reconcileRequest
  split_ifs with hU
  · exact ⟨h, fun _ _ h ↦ by simp at h⟩
  · rw [readyForFailClose_of_failClosed c obs h]
    dsimp only
    cases loadCABundle obs with
    | error e => exact ⟨h, fun _ _ h ↦ by simp at h⟩
    | ok caBundle =>
      refine ⟨h, fun ca p hp ↦ ?_⟩
      simp only [↓reduceIte, List.nil_append, List.mem_cons] at hp
      rcases hp with hp | hp
      · exact (Action.updateValidatingWebhookConfiguration.inj hp).2
      · exact absurd hp (updateCall_not_mem_writes obs _ _ _ _)

theorem failClosed_of_update_fail {caBundle : String}
    (h : .updateValidatingWebhookConfiguration caBundle fail ∈ (reconcileRequest c obs).2.1) :
    (reconcileRequest c obs).1.FailClosed :=
  ((reconcileRequest_latches c obs).2 caBundle fail h).2 rfl

end Controller

theorem run_of_failClosed : ∀ (observations : List Observation) (c : Controller), c.FailClosed →
    ∀ j caBundle failurePolicy, .updateValidatingWebhookConfiguration caBundle failurePolicy ∈
      (run c observations).getD j [] → failurePolicy = fail
  | [], _, _, _, _, _, h => by simp [run] at h
  | obs :: rest, c, hc, j, ca, p, h => by
    obtain ⟨hc', hp⟩ := c.reconcileRequest_of_failClosed obs hc
    cases j with
    | zero => exact hp ca p (by simpa [run] using h)
    | succ j =>
      simp only [run, List.getD_cons_succ] at h
      split at h
      · simp at h
      · exact run_of_failClosed rest _ hc' j ca p h

/-- Once a reconcile has written `Fail`, every later reconcile of the run writes `Fail`, from any
controller state and whatever each reconcile observes. -/
theorem fail_policy_never_reverts (c : Controller) (observations : List Observation) {i j : ℕ}
    (hij : i < j) {caBundle : String}
    (hi : .updateValidatingWebhookConfiguration caBundle fail ∈ (run c observations).getD i [])
    {caBundle' : String} {failurePolicy : FailurePolicyType}
    (hj : .updateValidatingWebhookConfiguration caBundle' failurePolicy ∈
      (run c observations).getD j []) :
    failurePolicy = fail := by
  induction observations generalizing c i j with
  | nil => simp [run] at hi
  | cons obs rest ih =>
    obtain ⟨j, rfl⟩ : ∃ j', j = j' + 1 := ⟨j - 1, by omega⟩
    simp only [run, List.getD_cons_succ] at hj
    split at hj
    · simp at hj
    · cases i with
      | zero =>
        exact run_of_failClosed rest _
          (c.failClosed_of_update_fail obs (by simpa [run] using hi)) j _ _ hj
      | succ i =>
        simp only [run, List.getD_cons_succ] at hi
        rw [‹(c.reconcileRequest obs).2.2 = _›] at hi
        exact ih _ (by omega) hi hj

def unreadyObservation : Observation :=
  ⟨.error ⟨"NotFound", "endpoints \"istio-galley\" not found"⟩, none, none, .ok "ca", none,
    .ok ⟨[⟨"", none⟩]⟩, none, none⟩

theorem fail_policy_kept_when_endpoint_lost :
    0 < 1 ∧
      .updateValidatingWebhookConfiguration "ca" fail ∈
        (run (newController ⟨false⟩) [readyObservation, unreadyObservation]).getD 0 [] ∧
      .updateValidatingWebhookConfiguration "ca" fail ∈
        (run (newController ⟨false⟩) [readyObservation, unreadyObservation]).getD 1 [] ∧
      fail = fail :=
  have h₀ : .updateValidatingWebhookConfiguration "ca" fail ∈
      (run (newController ⟨false⟩) [readyObservation, unreadyObservation]).getD 0 [] := by decide
  have h₁ : .updateValidatingWebhookConfiguration "ca" fail ∈
      (run (newController ⟨false⟩) [readyObservation, unreadyObservation]).getD 1 [] := by decide
  ⟨by decide, h₀, h₁, fail_policy_never_reverts _ _ (by decide) h₀ h₁⟩

end IstioControlPlane.Webhook.ValidationController
