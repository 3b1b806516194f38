import IstioControlPlane.Webhook.ValidationController

namespace IstioControlPlane.Webhook.WorkQueue

open ValidationController

structure GroupVersionKind where
  groupVersion : String
  kind : String

structure MetaObject where
  name : String
  resourceVersion : String
  key : Except String String

/-- An informer notification. An object `meta.Accessor` fails on is `none`, and a delete's
tombstone is the object it wraps. -/
inductive Notification where
  | add (curr : Option MetaObject)
  | update (prev curr : Option MetaObject)
  | delete (curr : Option MetaObject)

def filterWatchedObject (obj : MetaObject) (name : String) : Bool × String :=
  if name ≠ "" ∧ obj.name ≠ name then (true, "")
  else
    match obj.key with
    | .error _ => (true, "")
    | .ok key => (false, key)

/-- The handlers `makeHandler(queue, gvk, name)` registers: the request each adds, if any; an
update that keeps the resource version adds none. -/
def makeHandler (gvk : GroupVersionKind) (name : String) : Notification → Option String
  | .add (some curr) => request "add" curr
  | .update (some prev) (some curr) =>
    if curr.resourceVersion = prev.resourceVersion then none else request "update" curr
  | .delete (some curr) => request "delete" curr
  | _ => none
where
  request (event : String) (obj : MetaObject) : Option String :=
    match filterWatchedObject obj name with
    | (true, _) => none
    | (false, key) =>
      some (event ++ " event (" ++ gvk.groupVersion ++ ", Kind=" ++ gvk.kind ++ ") " ++ key)

/-- The controller with its rate-limited work queue: the requests ready and those waiting out a
delay, and whether a panic has ended the process. -/
structure Worker where
  c : Controller
  queue : List String
  waiting : List String
  stopped : Bool

def kickstartDescription : String := "initial request to kickstart reconciliation"

def retryDescription : String := "retry dry-run creation of invalid config"

def start (o : Options) : Worker := ⟨newController o, [kickstartDescription], [], false⟩

/-- `processNextWorkItem`: the head request is reconciled; the dry-run retry waits out its
delay, a failed request is put back rate-limited, and a panic ends the process. -/
def processNextWorkItem (w : Worker) (obs : Observation) : Worker :=
  match w.queue with
  | [] => w
  | req :: rest =>
    let r := w.c.reconcileRequest obs
    let waiting := w.waiting ++ if .retryDryRun ∈ r.2.1 then [retryDescription] else []
    match r.2.2 with
    | .error _ => ⟨r.1, rest, waiting, true⟩
    | .ok (some _) => ⟨r.1, rest, waiting ++ [req], false⟩
    | .ok none => ⟨r.1, rest, waiting, false⟩

/-- What can happen next: a notification, a CA file event, a worker iteration, or the delay
of the `i`-th waiting request running out. -/
inductive Step where
  | notify (gvk : GroupVersionKind) (name : String) (n : Notification)
  | caFileChanged (ev : String)
  | processNext (obs : Observation)
  | delayElapsed (i : Nat)

def step (w : Worker) (s : Step) : Worker :=
  if w.stopped then w
  else
    match s with
    | .notify gvk name n =>
      match makeHandler gvk name n with
      | some req => { w with queue := w.queue ++ [req] }
      | none => w
    | .caFileChanged ev => { w with queue := w.queue ++ ["CA file changed: " ++ ev] }
    | .processNext obs => processNextWorkItem w obs
    | .delayElapsed i =>
      if h : i < w.waiting.length then
        { w with queue := w.queue ++ [w.waiting.get ⟨i, h⟩], waiting := w.waiting.eraseIdx i }
      else w

def run (w : Worker) (steps : List Step) : Worker := steps.foldl step w

section Retry

variable (c : Controller) (obs : Observation)

theorem retryDryRun_mem_dryRunCheck
    (hD : (Controller.dryRunCheck c obs).1.dryRunOfInvalidConfigRejected = false) :
    .retryDryRun ∈ (Controller.dryRunCheck c obs).2.1 := by
  unfold Controller.dryRunCheck at hD ⊢
  dsimp only at hD ⊢
  split_ifs at hD ⊢ <;> simp_all

theorem retryDryRun_mem_readyForFailClose
    (hE : (Controller.readyForFailClose c obs).1.endpointReadyOnce = true)
    (hD : (Controller.readyForFailClose c obs).1.dryRunOfInvalidConfigRejected = false) :
    .retryDryRun ∈ (Controller.readyForFailClose c obs).2.1 := by
  revert hE hD
  unfold Controller.readyForFailClose
  split_ifs with h
  · split
    · simp_all
    · simp_all
    · exact fun _ hD ↦ .tail _ (retryDryRun_mem_dryRunCheck _ obs hD)
  · exact fun _ ↦ retryDryRun_mem_dryRunCheck c obs

theorem reconcileRequest_of_register (hU : c.o.unregisterValidationWebhook = false) :
    (c.reconcileRequest obs).1 = (c.readyForFailClose obs).1 ∧
      (c.readyForFailClose obs).2.1 <+: (c.reconcileRequest obs).2.1 := by
  unfold Controller.reconcileRequest
  rw [if_neg (by simp [hU])]
  dsimp only
  split
  · exact ⟨rfl, List.prefix_refl _⟩
  · split
    · exact ⟨rfl, List.prefix_refl _⟩
    · exact ⟨rfl, List.prefix_append _ _⟩

theorem reconcileRequest_of_unregister (hU : c.o.unregisterValidationWebhook = true) :
    (c.reconcileRequest obs).1 = c := by
  simp [Controller.reconcileRequest, hU]

theorem dryRunCheck_o : (c.dryRunCheck obs).1.o = c.o := by
  unfold Controller.dryRunCheck
  dsimp only
  split_ifs <;> rfl

theorem readyForFailClose_o : (c.readyForFailClose obs).1.o = c.o := by
  unfold Controller.readyForFailClose
  split_ifs
  · split
    · rfl
    · rfl
    · exact dryRunCheck_o _ obs
  · exact dryRunCheck_o c obs

theorem reconcileRequest_o : (c.reconcileRequest obs).1.o = c.o := by
  cases hU : c.o.unregisterValidationWebhook
  · rw [(reconcileRequest_of_register c obs hU).1, readyForFailClose_o]
  · rw [reconcileRequest_of_unregister c obs hU]

theorem retryDryRun_mem_reconcileRequest (hU : c.o.unregisterValidationWebhook = false)
    (hE : (c.reconcileRequest obs).1.endpointReadyOnce = true)
    (hD : (c.reconcileRequest obs).1.dryRunOfInvalidConfigRejected = false) :
    .retryDryRun ∈ (c.reconcileRequest obs).2.1 := by
  obtain ⟨h₁, h₂⟩ := reconcileRequest_of_register c obs hU
  rw [h₁] at hE hD
  exact h₂.subset (retryDryRun_mem_readyForFailClose c obs hE hD)

end Retry

/-- While the endpoint has been seen ready and the dry run not yet rejected, a request is
pending; and the endpoint latch stays unset when the controller only unregisters. -/
def SwitchRetried (w : Worker) : Prop :=
  (w.c.o.unregisterValidationWebhook = true → w.c.endpointReadyOnce = false) ∧
    (w.c.endpointReadyOnce = true → w.c.dryRunOfInvalidConfigRejected = false →
      w.queue ++ w.waiting ≠ [])

theorem processNextWorkItem_cons {w : Worker} {req : String} {rest : List String}
    (hq : w.queue = req :: rest) (obs : Observation) :
    (processNextWorkItem w obs).c = (w.c.reconcileRequest obs).1 ∧
      (.retryDryRun ∈ (w.c.reconcileRequest obs).2.1 →
        retryDescription ∈ (processNextWorkItem w obs).waiting) := by
  unfold processNextWorkItem
  rw [hq]
  dsimp only
  split <;> exact ⟨rfl, fun h ↦ by simp [h]⟩

theorem switchRetried_processNextWorkItem {w : Worker} (hw : SwitchRetried w)
    (obs : Observation) : SwitchRetried (processNextWorkItem w obs) := by
  cases hq : w.queue with
  | nil => simpa [processNextWorkItem, hq] using hw
  | cons req rest =>
    obtain ⟨hc, hretry⟩ := processNextWorkItem_cons hq obs
    rw [SwitchRetried, hc, reconcileRequest_o]
    cases hU : w.c.o.unregisterValidationWebhook
    · refine ⟨nofun, fun hE hD ↦ ?_⟩
      have hmem := hretry (retryDryRun_mem_reconcileRequest _ obs hU hE hD)
      exact List.ne_nil_of_mem (List.mem_append_right _ hmem)
    · rw [reconcileRequest_of_unregister _ obs hU]
      exact ⟨fun _ ↦ hw.1 hU, fun hE ↦ absurd (hw.1 hU) (by simp [hE])⟩

theorem switchRetried_step {w : Worker} (hw : SwitchRetried w) (s : Step) :
    SwitchRetried (step w s) := by
  unfold step
  split_ifs
  · exact hw
  cases s with
  | notify gvk name n =>
    dsimp only
    split
    · exact ⟨hw.1, fun _ _ ↦ by simp⟩
    · exact hw
  | caFileChanged ev => exact ⟨hw.1, fun _ _ ↦ by simp⟩
  | processNext obs => exact switchRetried_processNextWorkItem hw obs
  | delayElapsed i =>
    dsimp only
    split
    · exact ⟨hw.1, fun _ _ ↦ by simp⟩
    · exact hw

/-- The fail-closed switch never stalls: from `Start`, after any interleaving of steps, while the
endpoint has been seen ready but the dry run not rejected, a request is queued or waiting. -/
theorem switch_to_fail_closed_always_retried (o : Options) (steps : List Step) :
    (run (start o) steps).c.endpointReadyOnce = true →
      (run (start o) steps).c.dryRunOfInvalidConfigRejected = false →
        (run (start o) steps).queue ++ (run (start o) steps).waiting ≠ [] := by
  have hrun : ∀ (steps : List Step) (w : Worker), SwitchRetried w → SwitchRetried (run w steps) :=
    fun steps ↦ steps.rec (fun _ h ↦ h) fun s _ ih w hw ↦ ih _ (switchRetried_step hw s)
  exact (hrun steps (start o) ⟨fun _ ↦ rfl, nofun⟩).2

def notRejectedObservation : Observation :=
  ⟨.ok ⟨[⟨["10.0.0.1"]⟩]⟩, none, none, .ok "ca", none, .ok ⟨[⟨"", none⟩]⟩, none, none⟩

theorem dry_run_retry_pending :
    (run (start ⟨false⟩) [.processNext notRejectedObservation]).c.endpointReadyOnce = true ∧
      (run (start ⟨false⟩) [.processNext notRejectedObservation]).c.dryRunOfInvalidConfigRejected =
        false ∧
      (run (start ⟨false⟩) [.processNext notRejectedObservation]).queue ++
          (run (start ⟨false⟩) [.processNext notRejectedObservation]).waiting ≠ [] :=
  ⟨rfl, rfl, switch_to_fail_closed_always_retried _ _ rfl rfl⟩

end IstioControlPlane.Webhook.WorkQueue
