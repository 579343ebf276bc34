import DeepKernel.Lib.LastEffect
import DeepKernel.Server.Integrity
import DeepKernel.System.Enforcement

/-!
# Deployments that explain a window

`GitHubChangeContextAdapter` keeps the last deployment of every container, which
`DemoChangeContextController` registers, and the ingestion of a window asks it for a deployment of
the last half hour. Here both run on one server. Without the language model a flagged window leads to
a policy exactly if every deployment of its container, registered or seeded, is more than half an
hour before the request or before the window (`policy_iff_deployments_old`).
-/

set_option autoImplicit false

namespace DeepKernel.System

open DeepKernel.Lib DeepKernel.Server

/-! ## The adapter -/

/-- `recentDeployments`. Instants are in nanoseconds. -/
abbrev Deployments := Table String ChangeContext

/-- `DEPLOYMENT_WINDOW_MINUTES`, in nanoseconds. -/
def deploymentWindow : Int := 30 * 60 * 1000000000

namespace Deployments

/-- `getChangeContext`. -/
def getChangeContext (d : Deployments) (now : Int) (containerId : String) (since : Option Int) :
    Option ChangeContext :=
  match d.find? containerId with
  | none => none
  | some context =>
      if context.deployedAt.any fun t => since.any fun s => decide (t < s) then none
      else if context.deployedAt.any fun t => decide (t < now - deploymentWindow) then none
      else some context

/-- `registerDeployment`. -/
def registerDeployment (d : Deployments) (context : ChangeContext) : Deployments :=
  d.set context.containerId context

/-- A deployment of the demonstration. -/
def demoDeployment (containerId commitId repoUrl : String) (changedFiles : List String)
    (diffSummary : String) (deployedAt : Int) : ChangeContext :=
  ⟨containerId, commitId, repoUrl, some changedFiles, some diffSummary, some deployedAt⟩

/-- `seedDemoDeployments`. -/
def seedDemoDeployments (now : Int) : Deployments :=
  [demoDeployment "prod/billing-api" "a1b2c3d4e5f6789" "https://github.com/acme/billing-service"
      ["src/api/payments.ts", "src/services/stripe-integration.ts", "src/db/transactions.sql"]
      "Added Stripe payment processing integration with webhook handlers" (now - 15 * 60 * 1000000000),
    demoDeployment "prod/frontend" "f6e5d4c3b2a1098" "https://github.com/acme/frontend-app"
      ["src/components/CheckoutForm.tsx", "src/hooks/usePayment.ts"]
      "Updated checkout flow with new payment form validation" (now - 10 * 60 * 1000000000),
    demoDeployment "bachat-bank_backend_1" "deadbeef12345678"
      "https://github.com/deepkernel-lab/bachat-bank"
      ["demo-apps/bachat-bank/backend/main.py", "demo-apps/bachat-bank/backend/routes.py"]
      "Updated transaction processing with new validation rules" (now - 5 * 60 * 1000000000)].foldl
    registerDeployment Table.empty

end Deployments

/-! ## The endpoint -/

/-- A field of a body that is read under two names, with a default. -/
def fieldOr {α : Type} (snake camel : Option α) (default : α) : α := (snake.or camel).getD default

/-- The body of `POST /api/ui/demo/change-context`. A field that is null is `some none`, and so is a
list of files that is no list. -/
structure ChangeContextBody where
  container_id : Option (Option String)
  containerId : Option (Option String)
  commit_id : Option (Option String)
  commitId : Option (Option String)
  repo_url : Option (Option String)
  repoUrl : Option (Option String)
  diff_summary : Option (Option String)
  diffSummary : Option (Option String)
  changed_files : Option (Option (List String))
  changedFiles : Option (Option (List String))

/-- The container of a body. -/
def ChangeContextBody.container (body : ChangeContextBody) : Option String :=
  fieldOr body.container_id body.containerId (some "")

/-- A string where it is only printed. -/
def printed (s : Option String) : String := s.getD "null"

/-- The context that a body stands for. -/
def ChangeContextBody.context (body : ChangeContextBody) (containerId : String) (now : Int) :
    ChangeContext where
  containerId := containerId
  commitId := printed (fieldOr body.commit_id body.commitId (some "demo"))
  repoUrl := printed (fieldOr body.repo_url body.repoUrl (some "demo"))
  changedFiles := some ((fieldOr body.changed_files body.changedFiles none).getD [])
  diffSummary := fieldOr body.diff_summary body.diffSummary (some "")
  deployedAt := some now

/-- `DemoChangeContextController.upsert`: the deployments and the status of the response. -/
def upsert {R : Type} (p : Platform R) (body : ChangeContextBody) (now : Int) (d : Deployments) :
    Deployments × Nat :=
  match body.container with
  | none => (d, 400)
  | some containerId =>
      if p.isBlank containerId then (d, 400)
      else (d.registerDeployment (body.context containerId now), 200)

/-! ## The server -/

/-- The repositories and the deployments of a server. -/
structure Site (R : Type) where
  stores : ServerState R
  deployments : Deployments

/-- A request, with the reading of the clock when it touches the deployments. -/
inductive SiteInput (R : Type)
  | changeContext (body : ChangeContextBody) (now : Int)
  | window (req : IngestRequest R) (now : Int)

/-- The time of a request. -/
def SiteInput.time {R : Type} : SiteInput R → Int
  | .changeContext _ now => now
  | .window _ now => now

/-- The environment of a window on a server with these deployments: the port is the adapter. The
instants of a window are whole milliseconds. -/
def askingAdapter {R : Type} (d : Deployments) (now : Int) (env : IngestEnv R) : IngestEnv R :=
  { env with
    getChangeContext := fun containerId since =>
      some (d.getChangeContext now containerId (some (since * 1000000))) }

/-- The server when it is started. -/
def Site.start {R : Type} (boot : Int) : Site R := ⟨.init, .seedDemoDeployments boot⟩

variable {R : Type} [Field R] [LinearOrder R]

/-- One request. -/
def Site.next (ctl : Controller R) (site : Site R) : SiteInput R → Site R
  | .changeContext body now =>
      { site with deployments := (upsert ctl.platform body now site.deployments).1 }
  | .window req now =>
      { site with
        stores := (ctl.ingestWindow (askingAdapter site.deployments now req.env) req.payload
          site.stores).state }

/-- The server after some requests. -/
abbrev siteAfter (ctl : Controller R) (boot : Int) (is : List (SiteInput R)) : Site R :=
  is.foldl (Site.next ctl) (.start boot)

omit [Field R] [LinearOrder R]

/-- The deployment of a container that a request registers. -/
def registered (p : Platform R) (c : String) : SiteInput R → Option ChangeContext
  | .changeContext body now =>
      if body.container = some c ∧ ¬ p.isBlank c = true then some (body.context c now) else none
  | .window _ _ => none

/-- When a container was deployed: the seeded deployment and those that were registered. -/
def deploymentTimes (p : Platform R) (boot : Int) (is : List (SiteInput R)) (c : String) :
    List Int :=
  (((Deployments.seedDemoDeployments boot).find? c).bind ChangeContext.deployedAt).toList ++
    (is.filterMap (registered p c)).filterMap ChangeContext.deployedAt

/-! ## The last deployment -/

theorem deployedAt_of_registered {p : Platform R} {c : String} {i : SiteInput R}
    {context : ChangeContext} (h : registered p c i = some context) :
    context.deployedAt = some i.time := by
  cases i with
  | window req now => cases h
  | changeContext body now =>
      rw [registered] at h
      split at h
      · rw [← Option.some.inj h]
        rfl
      · cases h

theorem find?_registerDeployment (d : Deployments) (context : ChangeContext) (c : String) :
    (d.registerDeployment context).find? c =
      if c = context.containerId then some context else d.find? c :=
  Table.find?_set d _ _ _

/-- A seeded deployment is older than the server. -/
theorem seeded_le {boot : Int} {c : String} {context : ChangeContext}
    (h : (Deployments.seedDemoDeployments boot).find? c = some context) :
    ∃ t ≤ boot, context.deployedAt = some t := by
  rw [Deployments.seedDemoDeployments, List.foldl_cons, List.foldl_cons, List.foldl_cons,
    List.foldl_nil, find?_registerDeployment, find?_registerDeployment,
    find?_registerDeployment] at h
  split at h
  · rw [← Option.some.inj h]
    exact ⟨_, by omega, rfl⟩
  · split at h
    · rw [← Option.some.inj h]
      exact ⟨_, by omega, rfl⟩
    · split at h
      · rw [← Option.some.inj h]
        exact ⟨_, by omega, rfl⟩
      · cases h

section Last

variable [Field R] [LinearOrder R]

theorem find?_next (ctl : Controller R) (site : Site R) (c : String) (i : SiteInput R) :
    (site.next ctl i).deployments.find? c =
      ((registered ctl.platform c i).map some).getD (site.deployments.find? c) := by
  cases i with
  | window req now => rfl
  | changeContext body now =>
      rw [Site.next, upsert, registered]
      cases body.container with
      | none => simp
      | some containerId =>
          by_cases hblank : ctl.platform.isBlank containerId = true
          · -- a blank id is never registered
            have hno : ¬ (some containerId = some c ∧ ¬ ctl.platform.isBlank c = true) := by
              rintro ⟨hc, hnot⟩
              exact hnot (Option.some.inj hc ▸ hblank)
            simp only [if_pos hblank, if_neg hno, Option.map_none, Option.getD_none]
          · by_cases hc : containerId = c
            · subst hc
              have hyes : some containerId = some containerId ∧
                  ¬ ctl.platform.isBlank containerId = true := ⟨rfl, hblank⟩
              rw [if_pos hyes, Option.map_some, Option.getD_some]
              simp only [if_neg hblank, find?_registerDeployment]
              exact if_pos rfl
            · have hno : ¬ (some containerId = some c ∧ ¬ ctl.platform.isBlank c = true) :=
                fun h => hc (Option.some.inj h.1)
              simp only [if_neg hblank, if_neg hno, find?_registerDeployment, Option.map_none,
                Option.getD_none]
              exact if_neg (Ne.symm hc)

/-- The adapter knows the deployment that was registered last. -/
theorem find?_siteAfter (ctl : Controller R) (boot : Int) (is : List (SiteInput R)) (c : String) :
    (siteAfter ctl boot is).deployments.find? c =
      ((lastEffect (registered ctl.platform c) is).map some).getD
        ((Deployments.seedDemoDeployments boot).find? c) := by
  rw [← lastEffect_map]
  exact view_foldl (fun site : Site R => site.deployments.find? c)
    (fun i => (registered ctl.platform c i).map some) (I := fun _ => True) (fun _ _ _ => trivial)
    (fun site i _ => find?_next ctl site c i) trivial is

/-- The time of the deployment that the adapter knows is the last one. -/
theorem getLast?_deploymentTimes (ctl : Controller R) (boot : Int) (is : List (SiteInput R))
    (c : String) :
    (deploymentTimes ctl.platform boot is c).getLast? =
      ((siteAfter ctl boot is).deployments.find? c).bind ChangeContext.deployedAt := by
  rw [find?_siteAfter, deploymentTimes]
  rcases List.eq_nil_or_concat' (is.filterMap (registered ctl.platform c)) with
    hnil | ⟨earlier, context, hconcat⟩
  · rw [hnil, lastEffect, hnil, List.filterMap_nil, List.append_nil, List.getLast?_nil,
      Option.map_none, Option.getD_none]
    cases ((Deployments.seedDemoDeployments boot).find? c).bind ChangeContext.deployedAt <;> rfl
  · have hmem : context ∈ is.filterMap (registered ctl.platform c) := by rw [hconcat]; simp
    obtain ⟨i, -, hi⟩ := List.mem_filterMap.1 hmem
    have htime := deployedAt_of_registered hi
    have hlast : lastEffect (registered ctl.platform c) is = some context := by
      rw [lastEffect, hconcat, List.getLast?_concat]
    rw [hlast, hconcat, List.filterMap_append, List.filterMap_cons_some htime, List.filterMap_nil,
      ← List.append_assoc, List.getLast?_concat]
    exact htime.symm

end Last

/-- On a clock that does not run backwards the deployments come in the order of their times. -/
theorem pairwise_deploymentTimes (p : Platform R) {boot : Int} {is : List (SiteInput R)}
    (hclock : (boot :: is.map SiteInput.time).Pairwise (· ≤ ·)) (c : String) :
    (deploymentTimes p boot is c).Pairwise (· ≤ ·) := by
  obtain ⟨hboot, hsorted⟩ := List.pairwise_cons.1 hclock
  -- the times of the registrations are a part of the times of the requests
  have htimes : ∀ js : List (SiteInput R),
      ((js.filterMap (registered p c)).filterMap ChangeContext.deployedAt).Sublist
        (js.map SiteInput.time) := by
    intro js
    induction js with
    | nil => exact List.Sublist.slnil
    | cons j js ih =>
        cases hj : registered p c j with
        | none =>
            rw [List.filterMap_cons_none hj, List.map_cons]
            exact ih.cons _
        | some context =>
            rw [List.filterMap_cons_some hj,
              List.filterMap_cons_some (deployedAt_of_registered hj), List.map_cons]
            exact ih.cons_cons _
  rw [deploymentTimes, List.pairwise_append]
  refine ⟨?_, hsorted.sublist (htimes is), fun t ht u hu => ?_⟩
  · cases ((Deployments.seedDemoDeployments boot).find? c).bind ChangeContext.deployedAt <;> simp
  · obtain ⟨context, hcontext, hdeployed⟩ := Option.bind_eq_some_iff.1 (Option.mem_toList.1 ht)
    obtain ⟨t', hle, ht'⟩ := seeded_le hcontext
    obtain rfl : t' = t := Option.some.inj (ht'.symm.trans hdeployed)
    exact le_trans hle (hboot u ((htimes is).subset hu))

/-! ## The decision -/

/-- The port returns a recent deployment exactly if the last one is not too old. -/
theorem recentlyDeployed_iff (d : Deployments) (now : Int) (env : IngestEnv R)
    (payload : ShortWindowPayload) :
    RecentlyDeployed (askingAdapter d now env) payload ↔
      ∃ t, (d.find? payload.containerId).bind ChangeContext.deployedAt = some t ∧
        ¬ t < max (((payload.windowStartTsNs / 1000000).toInt - 1800 * 1000) * 1000000)
          (now - deploymentWindow) := by
  have hport : RecentlyDeployed (askingAdapter d now env) payload ↔
      ∃ context, d.getChangeContext now payload.containerId
          (some (((payload.windowStartTsNs / 1000000).toInt - 1800 * 1000) * 1000000)) =
            some context ∧
        context.deployedAt.isSome := by
    simp only [RecentlyDeployed, askingAdapter, Option.some.injEq]
  rw [hport, Deployments.getChangeContext]
  cases d.find? payload.containerId with
  | none => simp
  | some context =>
      cases hdeployed : context.deployedAt with
      | none => simp [hdeployed]
      | some t =>
          simp only [hdeployed, Option.any_some, decide_eq_true_eq, Option.bind_some,
            Option.some.injEq, lt_max_iff, not_or]
          by_cases hsince :
              t < ((payload.windowStartTsNs / 1000000).toInt - 1800 * 1000) * 1000000
          · simp only [if_pos hsince, reduceCtorEq, false_and, exists_false, false_iff]
            rintro ⟨u, rfl, hu, -⟩
            exact hu hsince
          · by_cases hcutoff : t < now - deploymentWindow
            · simp only [if_pos hcutoff, ite_self, reduceCtorEq, false_and, exists_false, false_iff]
              rintro ⟨u, rfl, -, hu⟩
              exact hu hcutoff
            · simp only [if_neg hsince, if_neg hcutoff, Option.some.injEq]
              refine iff_of_true ⟨context, rfl, by simp [hdeployed]⟩ ⟨t, rfl, hsince, hcutoff⟩

section Decision

variable [Field R] [LinearOrder R]

/-- Without the language model, and with either scorer, a window that arrives after some requests is
answered with a policy exactly if its score is flagged and every deployment of its container is more
than half an hour before the request or before the window. -/
theorem policy_iff_deployments_old [IsStrictOrderedRing R] (ctl : Controller R) {boot : Int}
    {is : List (SiteInput R)} (hclock : (boot :: is.map SiteInput.time).Pairwise (· ≤ ·))
    (req : IngestRequest R) (now : Int) {scorer : Scorer R}
    (hscorer : req.env.scoreWindow = scorer.scoreWindow)
    (hllm : req.env.llm.active ctl.platform = false) :
    (∃ policy, ctl.StoresAndSends
        (askingAdapter (siteAfter ctl boot is).deployments now req.env) req.payload
        (siteAfter ctl boot is).stores policy) ↔
      Flagged ctl req.env req.payload ∧
        ∀ t ∈ deploymentTimes ctl.platform boot is req.payload.containerId,
          t < max (((req.payload.windowStartTsNs / 1000000).toInt - 1800 * 1000) * 1000000)
            (now - deploymentWindow) := by
  have hthreat : ctl.TriagedAsThreat
        (askingAdapter (siteAfter ctl boot is).deployments now req.env) req.payload ↔
      Flagged ctl req.env req.payload ∧ ¬ RecentlyDeployed
        (askingAdapter (siteAfter ctl boot is).deployments now req.env) req.payload :=
    triagedAsThreat_iff hscorer hllm
  rw [forall_lt_iff_getLast (pairwise_deploymentTimes ctl.platform hclock _),
    getLast?_deploymentTimes]
  rw [recentlyDeployed_iff] at hthreat
  simp only [not_exists, not_and, not_not] at hthreat
  rw [← hthreat]
  -- a request that leaves the policies alone sends none
  rcases ctl.policies_cases (askingAdapter (siteAfter ctl boot is).deployments now req.env)
      req.payload (siteAfter ctl boot is).stores with ⟨hnot, hleaves⟩ | ⟨hyes, hstores⟩
  · refine iff_of_false ?_ hnot
    rintro ⟨policy, -, -, -, hsent⟩
    rw [hleaves.2] at hsent
    cases hsent
  · exact iff_of_true hstores hyes

end Decision

/-- A deployment one second after the start. -/
def earlyDeployment : List (SiteInput ℚ) :=
  [.changeContext ⟨some (some "prod/api"), none, none, none, none, none, none, none, none, none⟩
    1000000000]

theorem earlyDeployment_clock :
    ((0 : Int) :: earlyDeployment.map SiteInput.time).Pairwise (· ≤ ·) := by
  decide

theorem flaggedByService_scorer (agentReply : HttpOutcome) :
    (flaggedByService agentReply).scoreWindow =
      (Scorer.mlService fun _ _ => some (-7 / 10)).scoreWindow :=
  rfl

/-- Forty minutes after the start it no longer explains a flagged window. -/
theorem policy_after_earlyDeployment :
    ∃ policy, exampleController.StoresAndSends
      (askingAdapter (siteAfter exampleController 0 earlyDeployment).deployments 2400000000000
        (flaggedByService (.reply 200)))
      ⟨1, "node-1", "prod/api", 0, none⟩ (siteAfter exampleController 0 earlyDeployment).stores
      policy :=
  (policy_iff_deployments_old exampleController earlyDeployment_clock
    ⟨⟨1, "node-1", "prod/api", 0, none⟩, flaggedByService (.reply 200)⟩ 2400000000000
    (flaggedByService_scorer _) rfl).2 ⟨(flagged_flaggedByService _ _).1, by decide⟩

end DeepKernel.System
