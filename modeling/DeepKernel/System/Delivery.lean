import DeepKernel.Agent.Core
import DeepKernel.Server.Ingest

/-!
# Delivery of a window

The agent posts a window up to three times, until an exchange completes; it does not look at the
status of the reply. The server scores, stores and triages the window before it replies, and draws
a new id for every request. So every attempt that gets as far as the score leaves a stored window,
whether or not the agent hears of it (`windows_serveAll`).
-/

set_option autoImplicit false

namespace DeepKernel.System

open DeepKernel.Lib DeepKernel.Server

variable {R : Type} [Field R] [LinearOrder R]

/-! ## Attempts -/

/-- What happens to one attempt: the connection is refused, the request is answered with a 4xx or
5xx status before it reaches the controller, or the controller handles it and its reply, 2xx or
after an exception 5xx, reaches the agent in time or not. -/
inductive Attempt (R : Type)
  | refused
  | rejected (status : Nat)
  | handled (env : IngestEnv R) (replied : Bool)

namespace Attempt

omit [Field R] [LinearOrder R]

/-- The exchange completes, which is all that `curl_easy_perform` reports. -/
def completes : Attempt R → Bool
  | .refused => false
  | .rejected _ => true
  | .handled _ replied => replied

/-- The id that the server draws for the window. -/
def windowId : Attempt R → Option String
  | .handled env _ => some env.windowId
  | _ => none

end Attempt

section Serve

variable (ctl : Controller R) (payload : ShortWindowPayload)

/-- The server stores the window in this attempt: the request reaches the controller and the scorer
does not throw. -/
def Attempt.stores : Attempt R → Bool
  | .handled env _ => (env.scoreWindow payload.containerId (extract ctl.log payload)).isSome
  | _ => false

/-- The repositories after an attempt. -/
def serve (s : ServerState R) : Attempt R → ServerState R
  | .handled env _ => (ctl.ingestWindow env payload s).state
  | _ => s

/-- The ids drawn in some attempts. -/
def drawnIds (attempts : List (Attempt R)) : List String := attempts.filterMap Attempt.windowId

/-- The ids are different from each other and new to the server. -/
structure FreshIds (s : ServerState R) (attempts : List (Attempt R)) : Prop where
  nodup : (drawnIds attempts).Nodup
  new : ∀ w ∈ s.windows, w.id ∉ drawnIds attempts

/-- An attempt that reaches the controller adds the row of a new window, or none. -/
theorem windows_serve_handled {s : ServerState R} {env : IngestEnv R}
    (hfresh : ∀ w ∈ s.windows, w.id ≠ env.windowId) (replied : Bool) :
    ∃ new : Option (AnomalyWindow R),
      (serve ctl payload s (.handled env replied)).windows = s.windows ++ new.toList ∧
        (Attempt.handled env replied).stores ctl payload = new.isSome ∧
        ∀ w ∈ new, w.id = env.windowId := by
  rcases ctl.windows_cases env payload s with ⟨hscore, hsame⟩ | ⟨hscore, w, hid, hsave⟩
  · refine ⟨none, ?_, ?_, fun w hw => nomatch hw⟩
    · rw [serve, hsame, Option.toList_none, List.append_nil]
    · rw [Attempt.stores, hscore, Option.isSome_none, Option.isSome_none]
  · refine ⟨some w, ?_, ?_, fun w' hw' => ?_⟩
    · rw [serve, hsave, saveWindow_of_fresh fun w' hw' => hid ▸ hfresh w' hw']
      rfl
    · rw [Attempt.stores, hscore, Option.isSome_some]
    · rw [← Option.some.inj hw', hid]

/-- Every attempt that stores the window adds a row. -/
theorem windows_serveAll {s : ServerState R} {attempts : List (Attempt R)}
    (h : FreshIds s attempts) :
    ∃ added, (attempts.foldl (serve ctl payload) s).windows = s.windows ++ added ∧
      added.length = attempts.countP (Attempt.stores ctl payload) ∧
      ∀ w ∈ added, w.id ∈ drawnIds attempts := by
  induction attempts generalizing s with
  | nil => exact ⟨[], (List.append_nil _).symm, rfl, fun w hw => nomatch hw⟩
  | cons a attempts ih =>
      cases a with
      | refused => exact ih ⟨h.nodup, h.new⟩
      | rejected status => exact ih ⟨h.nodup, h.new⟩
      | handled env replied =>
          have hnodup : env.windowId ∉ drawnIds attempts ∧ (drawnIds attempts).Nodup :=
            List.nodup_cons.1 h.nodup
          have hold : ∀ w ∈ s.windows, w.id ≠ env.windowId ∧ w.id ∉ drawnIds attempts := by
            intro w hw
            have hmem := h.new w hw
            simp only [drawnIds, List.filterMap_cons, Attempt.windowId, List.mem_cons,
              not_or] at hmem
            exact hmem
          obtain ⟨new, hwindows, hstores, hid⟩ :=
            windows_serve_handled ctl payload (fun w hw => (hold w hw).1) replied
          -- The ids of the later attempts are new to the server with the added row, too.
          have hnext : FreshIds (serve ctl payload s (.handled env replied)) attempts := by
            refine ⟨hnodup.2, fun w hw => ?_⟩
            rw [hwindows, List.mem_append, Option.mem_toList] at hw
            rcases hw with hw | hw
            · exact (hold w hw).2
            · rw [hid w hw]
              exact hnodup.1
          obtain ⟨added, hadded, hlen, hids⟩ := ih hnext
          refine ⟨new.toList ++ added, ?_, ?_, fun w hw => ?_⟩
          · rw [List.foldl_cons, hadded, hwindows, List.append_assoc]
          · rw [List.countP_cons, List.length_append, hlen, hstores, Nat.add_comm]
            cases new <;> rfl
          · rcases List.mem_append.1 hw with hw | hw
            · rw [hid w (Option.mem_toList.1 hw)]
              exact List.mem_cons_self
            · exact List.mem_cons_of_mem _ (hids w hw)

end Serve

/-! ## The three attempts -/

section Deliver

variable (ctl : Controller R) (payload : ShortWindowPayload) (attempt : Nat → Attempt R)

omit [Field R] [LinearOrder R] in
/-- The post of the window by `processShortWindow`, over a network on which the attempts end as
given. -/
def postOf (url : ByteString) (body : Agent.Payload) : Agent.Post :=
  Agent.postJsonWithRetry (fun _ _ n => (attempt n).completes) url body 3

/-- The repositories when the server has handled the attempts of a post. -/
def delivered (post : Agent.Post) (s : ServerState R) : ServerState R :=
  ((List.range post.attempts).map attempt).foldl (serve ctl payload) s

/-- The stored rows with an id that was drawn for the window. -/
def storedRows (s : ServerState R) : Nat :=
  s.windows.countP fun w => decide (w.id ∈ drawnIds ((List.range 3).map attempt))

/-- The window is stored at most once, and once if the agent takes it as delivered. -/
structure DeliveredOnce (post : Agent.Post) (s : ServerState R) : Prop where
  at_most : storedRows attempt (delivered ctl payload attempt post s) ≤ 1
  exactly : post.ok = true → storedRows attempt (delivered ctl payload attempt post s) = 1

/-- The number of attempts before the `n`-th in which the server stored the window. -/
def storedBefore (n : Nat) : Nat :=
  (List.range n).countP fun m => (attempt m).stores ctl payload

/-- The first attempt that completes stored the window and none before it did, or it did not and
exactly one before it did; and if none completes, at most one of the three stored the window. -/
structure OneStored : Prop where
  completed : ∀ n < 3, (attempt n).completes = true → (∀ m < n, (attempt m).completes = false) →
    ((attempt n).stores ctl payload = true ∧ storedBefore ctl payload attempt n = 0) ∨
      ((attempt n).stores ctl payload = false ∧ storedBefore ctl payload attempt n = 1)
  silent : (∀ n < 3, (attempt n).completes = false) → storedBefore ctl payload attempt 3 ≤ 1

variable {ctl payload attempt}

omit [Field R] [LinearOrder R] in
theorem FreshIds.take {s : ServerState R} (h : FreshIds s ((List.range 3).map attempt)) {n : Nat}
    (hn : n ≤ 3) : FreshIds s ((List.range n).map attempt) := by
  have hsub : List.Sublist (drawnIds ((List.range n).map attempt))
      (drawnIds ((List.range 3).map attempt)) :=
    ((List.range_sublist.2 hn).map attempt).filterMap _
  exact ⟨h.nodup.sublist hsub, fun w hw hmem => h.new w hw (hsub.subset hmem)⟩

/-- The rows for the window are those of the attempts that stored it. -/
theorem storedRows_serveAll {s : ServerState R} (h : FreshIds s ((List.range 3).map attempt))
    {n : Nat} (hn : n ≤ 3) :
    storedRows attempt (((List.range n).map attempt).foldl (serve ctl payload) s) =
      storedBefore ctl payload attempt n := by
  obtain ⟨added, hadded, hlen, hids⟩ := windows_serveAll ctl payload (h.take hn)
  have hold : s.windows.countP
      (fun w => decide (w.id ∈ drawnIds ((List.range 3).map attempt))) = 0 := by
    rw [List.countP_eq_zero]
    intro w hw
    simpa using h.new w hw
  -- the ids of the attempts made are among those of all three
  have hnew : added.countP
      (fun w => decide (w.id ∈ drawnIds ((List.range 3).map attempt))) = added.length := by
    rw [List.countP_eq_length]
    intro w hw
    have hsub := ((List.range_sublist.2 hn).map attempt).filterMap Attempt.windowId
    exact decide_eq_true (hsub.subset (hids w hw))
  rw [storedRows, hadded, List.countP_append, hold, hnew, Nat.zero_add, hlen, List.countP_map]
  rfl

theorem storedBefore_succ (n : Nat) :
    storedBefore ctl payload attempt (n + 1) =
      storedBefore ctl payload attempt n + if (attempt n).stores ctl payload then 1 else 0 := by
  rw [storedBefore, List.range_succ, List.countP_append, List.countP_singleton]
  rfl

/-- A window is delivered at most once, and exactly once if reported so, exactly when the outcomes
of the attempts are such that it was stored in one of them. -/
theorem delivered_once_iff (ctl : Controller R) (payload : ShortWindowPayload)
    (attempt : Nat → Attempt R) (url : ByteString) (body : Agent.Payload)
    (s : ServerState R) (hids : FreshIds s ((List.range 3).map attempt)) :
    DeliveredOnce ctl payload attempt (postOf attempt url body) s ↔
      OneStored ctl payload attempt := by
  -- the loop of the agent: a first attempt completes, or none of the three does
  have hloop := Agent.retryLoop_cases (fun n => (attempt n).completes) 3 0
  simp only [Nat.zero_add] at hloop
  rcases hloop with ⟨n, hn, hcompletes, hbefore, hresult⟩ | ⟨hall, hresult⟩
  · -- The agent stops at the first exchange that completes and reports success.
    have hok : (postOf attempt url body).ok = true := congrArg Prod.fst hresult
    have hrows : storedRows attempt (delivered ctl payload attempt (postOf attempt url body) s) =
        storedBefore ctl payload attempt (n + 1) := by
      have hmade : (postOf attempt url body).attempts = n + 1 := congrArg Prod.snd hresult
      rw [delivered, hmade]
      exact storedRows_serveAll hids hn
    rw [storedBefore_succ] at hrows
    constructor
    · intro h
      have hone := h.exactly hok
      rw [hrows] at hone
      refine ⟨fun k hk hk' hkbefore => ?_, fun hsilent => ?_⟩
      · -- There is only one first attempt that completes.
        obtain rfl : k = n := by
          rcases Nat.lt_trichotomy k n with hlt | heq | hgt
          · rw [hbefore k hlt] at hk'
            cases hk'
          · exact heq
          · rw [hkbefore n hgt] at hcompletes
            cases hcompletes
        cases hstores : (attempt k).stores ctl payload with
        | true =>
            rw [hstores, if_pos rfl] at hone
            exact Or.inl ⟨rfl, by omega⟩
        | false =>
            rw [hstores, if_neg Bool.false_ne_true] at hone
            exact Or.inr ⟨rfl, hone⟩
      · rw [hsilent n hn] at hcompletes
        cases hcompletes
    · intro h
      have hone : storedRows attempt
          (delivered ctl payload attempt (postOf attempt url body) s) = 1 := by
        rw [hrows]
        rcases h.completed n hn hcompletes hbefore with ⟨hstores, hzero⟩ | ⟨hstores, hcount⟩
        · rw [hstores, hzero, if_pos rfl]
        · rw [hstores, hcount, if_neg Bool.false_ne_true]
      exact ⟨hone.le, fun _ => hone⟩
  · -- All three attempts are made and the post fails.
    have hok : (postOf attempt url body).ok = false := congrArg Prod.fst hresult
    have hrows : storedRows attempt (delivered ctl payload attempt (postOf attempt url body) s) =
        storedBefore ctl payload attempt 3 := by
      have hmade : (postOf attempt url body).attempts = 3 := congrArg Prod.snd hresult
      rw [delivered, hmade]
      exact storedRows_serveAll hids le_rfl
    constructor
    · intro h
      refine ⟨fun k hk hk' _ => ?_, fun _ => hrows ▸ h.at_most⟩
      rw [hall k hk] at hk'
      cases hk'
    · intro h
      refine ⟨hrows ▸ h.silent hall, fun htrue => ?_⟩
      rw [hok] at htrue
      cases htrue

end Deliver

/-! ## A late connection and a lost reply -/

/-- A window with one event, as the agent posts it. -/
def postedBody : Agent.Payload :=
  .window (Agent.ascii "node-1") (Agent.ascii "prod/api") 1000 [⟨1000, 1, 1, 1, 42, 2, 0⟩]

/-- The same window as the server reads it. -/
def postedPayload : ShortWindowPayload := ⟨1, "node-1", "prod/api", 1000, some [⟨0, 42, 2, 0⟩]⟩

/-- The connection is refused twice, the third attempt is answered. -/
def lateConnection : Nat → Attempt ℚ
  | 2 => .handled (exampleEnv ⟨0, false⟩ "w1" "t1" "p1" (.reply 200)) true
  | _ => .refused

theorem delivered_once_lateConnection :
    DeliveredOnce exampleController postedPayload lateConnection
      (postOf lateConnection (Agent.ascii "http://localhost:8080/api/v1/agent/windows")
        postedBody) .init := by
  refine (delivered_once_iff exampleController _ lateConnection _ _ .init ?_).2 ⟨?_, ?_⟩
  · exact ⟨by decide, fun w hw => nomatch hw⟩
  · intro n hn hcompletes _
    obtain rfl : n = 2 := by
      by_contra hne
      have hrefused : lateConnection n = .refused := by
        rw [lateConnection]
        exact fun h => hne h
      rw [hrefused] at hcompletes
      cases hcompletes
    exact Or.inl ⟨rfl, rfl⟩
  · intro hsilent
    cases hsilent 2 (by decide)

/-- The reply to the first attempt is lost, the second one is answered. -/
def lostReply : Nat → Attempt ℚ
  | 0 => .handled (exampleEnv ⟨0, false⟩ "w1" "t1" "p1" (.reply 200)) false
  | 1 => .handled (exampleEnv ⟨0, false⟩ "w2" "t2" "p2" (.reply 200)) true
  | _ => .refused

/-- The window is stored twice. -/
theorem not_delivered_once_lostReply :
    ¬ DeliveredOnce exampleController postedPayload lostReply
      (postOf lostReply (Agent.ascii "http://localhost:8080/api/v1/agent/windows")
        postedBody) .init := by
  intro h
  have hids : FreshIds (ServerState.init : ServerState ℚ) ((List.range 3).map lostReply) :=
    ⟨by decide, fun w hw => nomatch hw⟩
  have hrows := h.at_most
  have hmade : ∀ url, (postOf lostReply url postedBody).attempts = 2 := fun _ => rfl
  rw [delivered, hmade, storedRows_serveAll hids (by decide)] at hrows
  exact absurd hrows (by decide)

end DeepKernel.System
