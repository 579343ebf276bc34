import DeepKernel.Lib.LastEffect
import DeepKernel.Server.HybridAdapter

/-!
# The hybrid scorer after an outage

The breaker of `HybridAnomalyAdapter` keeps the remote scorer out after a failure until a health check
lets it in again. Here the remote has recovered: it answers all checks and all calls. The scores are
the remote ones again exactly from the first call more than five minutes after the last check before
the recovery, or from a forced check on (`recovered_score_iff`); what happened before the recovery has
no other influence.
-/

set_option autoImplicit false

namespace DeepKernel.Server

open DeepKernel.Lib

variable {R : Type} [Field R] [LinearOrder R]

/-! ## A healthy remote -/

/-- The time of a health check. -/
def HybridEvent.checkTime : HybridEvent R → Option Int
  | .healthCheck _ time _ => some time.toInt
  | _ => none

/-- The remote answers the call, and a check if it is made. -/
def HybridOp.Healthy : HybridOp R → Prop
  | .scoreWindow _ _ env remote => env.available = true ∧ remote.isSome
  | .trainModel _ _ env threw => env.available = true ∧ threw = false
  | .getModelMeta _ env remote => env.available = true ∧ remote.isSome
  | .refreshRemoteStatus _ available => available = true

/-- The call makes a health check for an adapter whose last one was at some time. -/
def HybridOp.checks (last : Int64) : HybridOp R → Bool
  | .scoreWindow _ _ env _ => decide (healthCheckIntervalMs < env.now - last)
  | .trainModel _ _ env _ => decide (healthCheckIntervalMs < env.now - last)
  | .getModelMeta _ env _ => decide (healthCheckIntervalMs < env.now - last)
  | .refreshRemoteStatus _ _ => true

/-- `refreshRemoteStatus`. -/
def HybridOp.isRefresh : HybridOp R → Bool
  | .refreshRemoteStatus _ _ => true
  | _ => false

/-- The first reading of the clock. -/
def HybridOp.now : HybridOp R → Int
  | .scoreWindow _ _ env _ => env.now.toInt
  | .trainModel _ _ env _ => env.now.toInt
  | .getModelMeta _ env _ => env.now.toInt
  | .refreshRemoteStatus time _ => time.toInt

/-! ## One call -/

section Call

omit [Field R] [LinearOrder R]

/-- A call of a healthy remote: it is available afterwards if it was before or a check is made, and
without a check the time of the last one stays. -/
theorem tryRemote_healthy {a : HybridAdapter R} (hprefer : a.preferRemote = true) {env : CallEnv}
    (havailable : env.available = true) :
    (a.tryRemote env false).1.preferRemote = true ∧
      (a.tryRemote env false).1.remoteAvailable =
        (a.remoteAvailable || decide (healthCheckIntervalMs < env.now - a.lastHealthCheck)) ∧
      (a.tryRemote env false).2.2 =
        (a.remoteAvailable || decide (healthCheckIntervalMs < env.now - a.lastHealthCheck)) ∧
      (¬ healthCheckIntervalMs < env.now - a.lastHealthCheck →
        (a.tryRemote env false).1.lastHealthCheck = a.lastHealthCheck) := by
  rw [HybridAdapter.tryRemote, HybridAdapter.shouldUseRemote, if_pos hprefer,
    HybridAdapter.periodicCheck]
  by_cases hdue : healthCheckIntervalMs < env.now - a.lastHealthCheck
  · simp [hdue, HybridAdapter.checkRemoteHealth, havailable, hprefer]
  · simp only [if_neg hdue, decide_eq_false hdue, Bool.or_false]
    cases ha : a.remoteAvailable with
    | true => simp [hprefer, ha]
    | false => simp [hprefer, ha]

end Call

theorem step_healthy {a : HybridAdapter R} (hprefer : a.preferRemote = true) {op : HybridOp R}
    (hop : op.Healthy) :
    (a.step op).1.preferRemote = true ∧
      (a.step op).1.remoteAvailable = (a.remoteAvailable || op.checks a.lastHealthCheck) ∧
      (op.checks a.lastHealthCheck = false →
        (a.step op).1.lastHealthCheck = a.lastHealthCheck) := by
  cases op with
  | scoreWindow c values env remote =>
      obtain ⟨score, rfl⟩ := Option.isSome_iff_exists.1 hop.2
      obtain ⟨h₁, h₂, -, h₄⟩ := tryRemote_healthy hprefer hop.1
      exact ⟨h₁, h₂, fun h => h₄ (of_decide_eq_false h)⟩
  | trainModel c data env threw =>
      obtain rfl := hop.2
      obtain ⟨h₁, h₂, -, h₄⟩ := tryRemote_healthy
        (a := { a with localAdapter := a.localAdapter.trainModel c data }) hprefer hop.1
      exact ⟨h₁, h₂, fun h => h₄ (of_decide_eq_false h)⟩
  | getModelMeta c env remote =>
      obtain ⟨found, rfl⟩ := Option.isSome_iff_exists.1 hop.2
      obtain ⟨h₁, h₂, -, h₄⟩ := tryRemote_healthy hprefer hop.1
      exact ⟨h₁, h₂, fun h => h₄ (of_decide_eq_false h)⟩
  | refreshRemoteStatus time available =>
      obtain rfl : available = true := hop
      refine ⟨hprefer, ?_, fun h => nomatch h⟩
      simp [HybridAdapter.step, HybridAdapter.checkRemoteHealth, HybridOp.checks]

/-! ## Checks and the clock -/

/-- With readings in order and not negative, the difference is exact. -/
theorem interval_lt_sub_iff {last now : Int64} (hlast : 0 ≤ last.toInt)
    (hle : last.toInt ≤ now.toInt) :
    healthCheckIntervalMs < now - last ↔ last.toInt + 5 * 60 * 1000 < now.toInt := by
  refine ⟨interval_lt_sub hle, fun h => ?_⟩
  have hinterval : healthCheckIntervalMs.toInt = 5 * 60 * 1000 := by decide
  have hnow := now.toInt_lt
  rw [Int64.lt_iff_toInt_lt, hinterval, Int64.toInt_sub, Int.bmod_eq_of_le (by omega) (by omega)]
  omega

omit [Field R] [LinearOrder R] in
theorem checks_iff {last : Int64} (hlast : 0 ≤ last.toInt) {op : HybridOp R}
    (hle : last.toInt ≤ op.now) :
    op.checks last = true ↔ op.isRefresh = true ∨ last.toInt + 5 * 60 * 1000 < op.now := by
  cases op with
  | refreshRemoteStatus time available => simp [HybridOp.checks, HybridOp.isRefresh]
  | _ =>
      simp only [HybridOp.checks, decide_eq_true_eq, HybridOp.isRefresh, Bool.false_eq_true,
        false_or]
      exact interval_lt_sub_iff hlast hle

/-! ## Calls of a healthy remote -/

/-- An available remote stays available. -/
theorem available_run {a : HybridAdapter R} (hprefer : a.preferRemote = true)
    (havailable : a.remoteAvailable = true) {ops : List (HybridOp R)}
    (hhealthy : ∀ op ∈ ops, op.Healthy) :
    (finalState HybridAdapter.step a ops).preferRemote = true ∧
      (finalState HybridAdapter.step a ops).remoteAvailable = true := by
  refine finalState_invariant
    (I := fun a : HybridAdapter R => a.preferRemote = true ∧ a.remoteAvailable = true)
    (fun a op hop h => ?_) ⟨hprefer, havailable⟩ hhealthy
  obtain ⟨hprefer', havailable', -⟩ := step_healthy h.1 hop
  exact ⟨hprefer', by rw [havailable', h.2, Bool.true_or]⟩

/-- After some calls the remote is available if it was at the beginning or one of the calls has made a
check; otherwise nothing has changed for the breaker. -/
theorem healthy_run {a : HybridAdapter R} (hprefer : a.preferRemote = true)
    {ops : List (HybridOp R)} (hhealthy : ∀ op ∈ ops, op.Healthy) :
    (finalState HybridAdapter.step a ops).preferRemote = true ∧
      (((finalState HybridAdapter.step a ops).remoteAvailable = true ∧
          (a.remoteAvailable = true ∨ ∃ op ∈ ops, op.checks a.lastHealthCheck = true)) ∨
        ((finalState HybridAdapter.step a ops).remoteAvailable = false ∧
          (finalState HybridAdapter.step a ops).lastHealthCheck = a.lastHealthCheck ∧
          ¬ (a.remoteAvailable = true ∨ ∃ op ∈ ops, op.checks a.lastHealthCheck = true))) := by
  induction ops generalizing a with
  | nil =>
      refine ⟨hprefer, ?_⟩
      cases havailable : a.remoteAvailable with
      | true => exact Or.inl ⟨havailable, Or.inl rfl⟩
      | false => exact Or.inr ⟨havailable, rfl, by simp⟩
  | cons op ops ih =>
      have hop := hhealthy op List.mem_cons_self
      have hops : ∀ op ∈ ops, op.Healthy := fun o ho => hhealthy o (List.mem_cons_of_mem _ ho)
      obtain ⟨hprefer', havailable', hlast⟩ := step_healthy hprefer hop
      by_cases hnow : (a.remoteAvailable || op.checks a.lastHealthCheck) = true
      · -- available from here on
        obtain ⟨hp, ha⟩ := available_run hprefer' (havailable'.trans hnow) hops
        refine ⟨hp, Or.inl ⟨ha, ?_⟩⟩
        rcases Bool.or_eq_true _ _ ▸ hnow with hbefore | hcheck
        · exact Or.inl hbefore
        · exact Or.inr ⟨op, List.mem_cons_self, hcheck⟩
      · obtain ⟨hbefore, hcheck⟩ := Bool.or_eq_false_iff.1 (eq_false_of_ne_true hnow)
        obtain ⟨hp, hrest⟩ := ih hprefer' hops
        rw [havailable', hlast hcheck, hbefore, hcheck] at hrest
        refine ⟨hp, ?_⟩
        rcases hrest with ⟨ha, hno | ⟨o, ho, hocheck⟩⟩ | ⟨ha, hl, hnone⟩
        · cases hno
        · exact Or.inl ⟨ha, Or.inr ⟨o, List.mem_cons_of_mem _ ho, hocheck⟩⟩
        · refine Or.inr ⟨ha, hl, ?_⟩
          rintro (hb | ⟨o, ho, hocheck⟩)
          · rw [hbefore] at hb
            cases hb
          · rcases List.mem_cons.1 ho with rfl | ho
            · rw [hcheck] at hocheck
              cases hocheck
            · exact hnone (Or.inr ⟨o, ho, hocheck⟩)

/-! ## What the log says before the recovery -/

/-- The log shows the state of the breaker and the time of the last check, which is not negative. -/
structure CheckInv (a : HybridAdapter R) (events : List (HybridEvent R)) (clock : Int) : Prop extends
    HybridInv a events clock where
  last_eq : lastEffect HybridEvent.checkTime events = some a.lastHealthCheck.toInt
  nonneg : 0 ≤ a.lastHealthCheck.toInt

section Log

variable {a : HybridAdapter R} {events : List (HybridEvent R)} {clock : Int}

omit [Field R] [LinearOrder R] in
/-- The last check of a call is the one that the adapter remembers. -/
theorem lastCheck_tryRemote (hprefer : a.preferRemote = true) (env : CallEnv) (threw : Bool)
    (scored : List (HybridEvent R)) (hscored : ∀ e ∈ scored, e.checkTime = none) :
    (a.tryRemote env threw).1.lastHealthCheck =
        (if healthCheckIntervalMs < env.now - a.lastHealthCheck then env.checkTime
          else a.lastHealthCheck) ∧
      (lastEffect HybridEvent.checkTime ((a.tryRemote env threw).2.1 ++ scored)).or
          (some a.lastHealthCheck.toInt) =
        some (a.tryRemote env threw).1.lastHealthCheck.toInt := by
  have hquiet : ∀ es : List (HybridEvent R), (∀ e ∈ es, e.checkTime = none) →
      ∀ front, lastEffect HybridEvent.checkTime (front ++ es) =
        lastEffect HybridEvent.checkTime front := by
    intro es hes front
    rw [lastEffect_append, (lastEffect_eq_none_iff _).2 hes, Option.none_or]
  have hcall : ∀ e ∈ [HybridEvent.remoteCall (R := R) threw], e.checkTime = none := by
    intro e he
    rw [List.mem_singleton.1 he]
    rfl
  rw [hquiet scored hscored, HybridAdapter.tryRemote, HybridAdapter.shouldUseRemote,
    if_pos hprefer, HybridAdapter.periodicCheck]
  by_cases hdue : healthCheckIntervalMs < env.now - a.lastHealthCheck
  · simp only [if_pos hdue, HybridAdapter.checkRemoteHealth]
    cases env.available with
    | true =>
        simp only [if_true, hquiet _ hcall]
        cases threw <;> exact ⟨rfl, rfl⟩
    | false => exact ⟨rfl, rfl⟩
  · simp only [if_neg hdue]
    cases a.remoteAvailable with
    | true =>
        simp only [if_true, hquiet _ hcall]
        cases threw <;> exact ⟨rfl, rfl⟩
    | false => exact ⟨rfl, rfl⟩

theorem lastCheck_step (hprefer : a.preferRemote = true) (op : HybridOp R)
    (hop : op.InOrder clock) (hle : a.lastHealthCheck.toInt ≤ clock) :
    a.lastHealthCheck.toInt ≤ (a.step op).1.lastHealthCheck.toInt ∧
      (lastEffect HybridEvent.checkTime (a.step op).2).or (some a.lastHealthCheck.toInt) =
        some (a.step op).1.lastHealthCheck.toInt := by
  have hgrows : ∀ {now checkTime : Int64},
      (clock :: [now, checkTime].map Int64.toInt).Pairwise (· ≤ ·) →
        a.lastHealthCheck.toInt ≤ (if healthCheckIntervalMs < now - a.lastHealthCheck then checkTime
          else a.lastHealthCheck).toInt := by
    intro now checkTime horder
    obtain ⟨hnow, hcheck⟩ := le_of_inOrder horder
    split_ifs
    · omega
    · exact le_rfl
  cases op with
  | scoreWindow c values env remote =>
      obtain ⟨hlast, hlog⟩ := lastCheck_tryRemote hprefer env remote.isNone
        [.scored (a.scoreWindow c values env remote).2.2] (by simp [HybridEvent.checkTime])
      refine ⟨?_, hlog⟩
      rw [HybridAdapter.step, HybridAdapter.scoreWindow]
      simp only [hlast]
      exact hgrows hop
  | trainModel c data env threw =>
      obtain ⟨hlast, hlog⟩ := lastCheck_tryRemote
        (a := { a with localAdapter := a.localAdapter.trainModel c data }) hprefer env threw []
        (by simp)
      rw [List.append_nil] at hlog
      refine ⟨?_, hlog⟩
      rw [HybridAdapter.step, HybridAdapter.trainModel]
      simp only [hlast]
      exact hgrows hop
  | getModelMeta c env remote =>
      obtain ⟨hlast, hlog⟩ := lastCheck_tryRemote hprefer env remote.isNone [] (by simp)
      rw [List.append_nil] at hlog
      refine ⟨?_, hlog⟩
      rw [HybridAdapter.step, HybridAdapter.getModelMeta]
      simp only [hlast]
      exact hgrows hop
  | refreshRemoteStatus time available =>
      have hclock : clock ≤ time.toInt := by simpa [HybridOp.InOrder, HybridOp.times] using hop
      exact ⟨hle.trans hclock, rfl⟩

theorem CheckInv.step (h : CheckInv a events clock) {op : HybridOp R} (hop : op.InOrder clock) :
    CheckInv (a.step op).1 (events ++ (a.step op).2) op.lastTime := by
  obtain ⟨hgrows, hlog⟩ := lastCheck_step h.preferRemote op hop h.last_le
  refine ⟨h.toHybridInv.step hop, ?_, h.nonneg.trans hgrows⟩
  rw [lastEffect_append, h.last_eq, hlog]

theorem CheckInv.run (h : CheckInv a events clock) {ops : List (HybridOp R)}
    (hops : (clock :: (ops.flatMap HybridOp.times).map Int64.toInt).Pairwise (· ≤ ·)) {bound : Int}
    (hbound : ∀ t ∈ clock :: (ops.flatMap HybridOp.times).map Int64.toInt, t ≤ bound) :
    CheckInv (finalState HybridAdapter.step a ops) (events ++ outputs HybridAdapter.step a ops)
      bound := by
  induction ops generalizing a events clock with
  | nil =>
      rw [finalState_nil, outputs_nil, List.append_nil]
      exact ⟨h.toHybridInv.mono (hbound _ List.mem_cons_self), h.last_eq, h.nonneg⟩
  | cons op ops ih =>
      rw [List.flatMap_cons, List.map_append, ← List.cons_append] at hops hbound
      obtain ⟨hop, hrest, hlater⟩ := List.pairwise_append.1 hops
      have hlast : op.lastTime ∈ clock :: op.times.map Int64.toInt := by
        cases op <;> simp [HybridOp.times, HybridOp.lastTime]
      rw [finalState_cons, outputs_cons, ← List.append_assoc]
      refine ih (h.step hop)
        (List.pairwise_cons.2 ⟨fun t ht => hlater _ hlast t ht, hrest⟩) fun t ht => ?_
      rcases List.mem_cons.1 ht with rfl | ht
      · exact hbound _ (List.mem_append_left _ hlast)
      · exact hbound t (List.mem_append_right _ ht)

omit [Field R] [LinearOrder R] in
theorem checkInv_create (localAdapter : LocalAdapter R) {time : Int64} (htime : 0 ≤ time.toInt)
    (available : Bool) :
    CheckInv (HybridAdapter.create true localAdapter time available).1
      (HybridAdapter.create true localAdapter time available).2 time.toInt :=
  ⟨hybridInv_create localAdapter time available, rfl, htime⟩

end Log

/-! ## Recovery -/

/-- The breaker lets the remote in again: it has never closed, or a check was forced since the
recovery, or the last check before the recovery is more than five minutes ago. -/
def Recovered (events : List (HybridEvent R)) (during : List (HybridOp R)) (now : Int) : Prop :=
  armed events = true ∨ (∃ op ∈ during, op.isRefresh = true) ∨
    ∃ t, lastEffect HybridEvent.checkTime events = some t ∧ t + 5 * 60 * 1000 < now

omit [Field R] [LinearOrder R] in
theorem now_mem_times (op : HybridOp R) : op.now ∈ op.times.map Int64.toInt := by
  cases op <;> simp [HybridOp.now, HybridOp.times]

/-- Whether the remote is used, with readings of the clock that come after the last check. -/
theorem used_iff_recovered {a : HybridAdapter R} {events : List (HybridEvent R)} {clock : Int}
    (h : CheckInv a events clock) {during : List (HybridOp R)}
    (hhealthy : ∀ op ∈ during, op.Healthy) {env : CallEnv} (havailable : env.available = true)
    (hnow : a.lastHealthCheck.toInt ≤ env.now.toInt)
    (hduring : ∀ op ∈ during, a.lastHealthCheck.toInt ≤ op.now ∧ op.now ≤ env.now.toInt) :
    ((finalState HybridAdapter.step a during).tryRemote env false).2.2 = true ↔
      Recovered events during env.now.toInt := by
  have hchecks : ∀ op ∈ during, op.checks a.lastHealthCheck = true ↔
      op.isRefresh = true ∨ a.lastHealthCheck.toInt + 5 * 60 * 1000 < op.now :=
    fun op hop => checks_iff h.nonneg (hduring op hop).1
  obtain ⟨hprefer, hcases⟩ := healthy_run h.preferRemote hhealthy
  rw [(tryRemote_healthy hprefer havailable).2.2.1]
  rcases hcases with ⟨havail, hwhy⟩ | ⟨hunavail, hlast, hnone⟩
  · refine iff_of_true (by rw [havail, Bool.true_or]) ?_
    rcases hwhy with hbefore | ⟨op, hop, hcheck⟩
    · exact Or.inl (h.available ▸ hbefore)
    · rcases (hchecks op hop).1 hcheck with hrefresh | hlate
      · exact Or.inr (Or.inl ⟨op, hop, hrefresh⟩)
      · exact Or.inr (Or.inr ⟨_, h.last_eq, hlate.trans_le (hduring op hop).2⟩)
  · -- nothing has been checked, so it is this call that may check
    rw [hunavail, hlast, Bool.false_or, decide_eq_true_eq, interval_lt_sub_iff h.nonneg hnow]
    refine ⟨fun hlate => Or.inr (Or.inr ⟨_, h.last_eq, hlate⟩), ?_⟩
    rintro (harmed | ⟨op, hop, hrefresh⟩ | ⟨t, ht, hlate⟩)
    · exact absurd (Or.inl (h.available.trans harmed)) hnone
    · exact absurd (Or.inr ⟨op, hop, (hchecks op hop).2 (Or.inl hrefresh)⟩) hnone
    · rw [h.last_eq] at ht
      exact Option.some.inj ht ▸ hlate

/-- After any calls, if the remote then answers all checks and all calls, a window is scored by the
remote exactly if the breaker had not closed, or a check was forced since, or the last check before the
recovery is more than five minutes ago; otherwise by the local adapter. -/
theorem recovered_score_iff (localAdapter : LocalAdapter R) (time : Int64)
    (htime : 0 ≤ time.toInt) (available : Bool) (before during : List (HybridOp R))
    (hhealthy : ∀ op ∈ during, op.Healthy) (c : String) (values : List R) (env : CallEnv)
    (havailable : env.available = true) (score : AnomalyScore R)
    (hclock : ((time :: (before ++ (during ++
      [HybridOp.scoreWindow c values env (some score)])).flatMap HybridOp.times).map
        Int64.toInt).Pairwise (· ≤ ·)) :
    let created := HybridAdapter.create true localAdapter time available
    let events := created.2 ++ outputs HybridAdapter.step created.1 before
    let a := finalState HybridAdapter.step created.1 (before ++ during)
    let result := a.scoreWindow c values env (some score)
    (.remoteCall false ∈ result.2.1 ↔ Recovered events during env.now.toInt) ∧
      (Recovered events during env.now.toInt → result.2.2 = score) ∧
      (¬ Recovered events during env.now.toInt →
        result.2.2 = a.localAdapter.scoreWindow c values) := by
  intro created events a result
  -- the readings before the recovery come before all later ones
  rw [List.flatMap_append, List.map_cons, List.map_append, ← List.cons_append] at hclock
  obtain ⟨hbefore, hlater, horder⟩ := List.pairwise_append.1 hclock
  have hinv : ∀ t ∈ ((during ++ [HybridOp.scoreWindow c values env (some score)]).flatMap
      HybridOp.times).map Int64.toInt,
      CheckInv (finalState HybridAdapter.step created.1 before) events t := fun t ht =>
    (checkInv_create localAdapter htime available).run hbefore fun t' ht' => horder t' ht' t ht
  have hcall : env.now.toInt ∈ ((during ++ [HybridOp.scoreWindow c values env (some score)]).flatMap
      HybridOp.times).map Int64.toInt := by
    simp [HybridOp.times]
  have hduring : ∀ op ∈ during,
      (finalState HybridAdapter.step created.1 before).lastHealthCheck.toInt ≤ op.now ∧
        op.now ≤ env.now.toInt := by
    intro op hop
    have hmem : op.now ∈ (during.flatMap HybridOp.times).map Int64.toInt := by
      obtain ⟨t, ht, heq⟩ := List.mem_map.1 (now_mem_times op)
      exact heq ▸ List.mem_map_of_mem (List.mem_flatMap.2 ⟨op, hop, ht⟩)
    rw [List.flatMap_append, List.map_append] at hlater hinv
    exact ⟨(hinv _ (List.mem_append_left _ hmem)).last_le,
      (List.pairwise_append.1 hlater).2.2 _ hmem _ (by simp [HybridOp.times])⟩
  have hused : (a.tryRemote env false).2.2 = true ↔ Recovered events during env.now.toInt := by
    have hsplit : a = finalState HybridAdapter.step
        (finalState HybridAdapter.step created.1 before) during := finalState_append _ _ _ _
    rw [hsplit]
    exact used_iff_recovered (hinv _ hcall) hhealthy havailable (hinv _ hcall).last_le hduring
  have hmem : .remoteCall false ∈ result.2.1 ↔ Recovered events during env.now.toInt := by
    rw [← hused]
    simp only [result, HybridAdapter.scoreWindow, List.mem_append, List.mem_singleton, reduceCtorEq,
      or_false, (tryRemote_spec a env _).2, Option.isNone_some, and_true]
  obtain ⟨hremote, hlocal⟩ := returnsScore a c values env (some score)
  exact ⟨hmem, fun h => (Option.some.inj (hremote (hmem.2 h))).symm,
    fun h => hlocal fun hcontra => h (hmem.1 hcontra)⟩

/-- An exception, and then a window after four minutes and one after six. -/
theorem recovered_after_six_minutes :
    let created := HybridAdapter.create true (LocalAdapter.init : LocalAdapter ℚ) 0 true
    ((finalState HybridAdapter.step created.1
      [.scoreWindow "a" [1 / 2, 3] ⟨1, 1, true⟩ none,
        .scoreWindow "a" [1 / 2, 4] ⟨240000, 240000, true⟩ (some ⟨7, true⟩)]).scoreWindow "a"
          [1 / 2, 5] ⟨360000, 360000, true⟩ (some ⟨9, true⟩)).2.2 = ⟨9, true⟩ :=
  (recovered_score_iff (LocalAdapter.init : LocalAdapter ℚ) 0 (by decide) true
    [.scoreWindow "a" [1 / 2, 3] ⟨1, 1, true⟩ none]
    [.scoreWindow "a" [1 / 2, 4] ⟨240000, 240000, true⟩ (some ⟨7, true⟩)]
    (by simp [HybridOp.Healthy]) "a" [1 / 2, 5] ⟨360000, 360000, true⟩ rfl ⟨9, true⟩
    (by decide)).2.1
    (Or.inr (Or.inr ⟨0, rfl, by decide⟩))

end DeepKernel.Server
