import DeepKernel.Agent.LongDump

/-!
# A second request for an active dump

A request for a container whose dump is still active leaves the state `Recording`. The `open` of the
second request fails, the stream stays open with its failbit set and drops every later record, while
path and counter are those of the second request (`Stale`). What the completion says is then true
only if the file it names happens to hold as many records already.
-/

set_option autoImplicit false

namespace DeepKernel.Agent

open DeepKernel.Lib

/-! ## A dump on a failed stream -/

/-- The stream of the dump drops what is written to it, and the file named by the plan is as it was
when the dump was requested. -/
structure Stale (c : ByteString) (plan : DumpPlan) (n : Nat) (content : Option ByteString)
    (a : AgentState) : Prop extends Follows c plan n a where
  failbit : (a.dump c).stream.failbit = true
  content : a.files.find? plan.path = content

/-- A call that does not end the dump counts its accepted event and writes nothing. -/
theorem Stale.next {cfg : Setup} {a : AgentState} {op : Op} {c : ByteString} {plan : DumpPlan}
    {n : Nat} {content : Option ByteString} (hs : Stale c plan n content a) (hreq : requests c op = false)
    (hclose : closes cfg plan.endTsNs op = false) (hopens : opens cfg a plan.path op = false) :
    Stale c plan (n + (acceptedFor cfg c op).toList.length) content (step cfg a op).1 := by
  have hfollows := hs.toFollows.next hreq hclose hopens
  have hdump := hs.toFollows.dump_step hreq hclose
  have hfiles := step_files cfg hs.synced op c hopens hs.others
  -- the failbit is never cleared, so every write is lost
  have hlost : ∀ ev, ((a.dump c).record a.files ev).1 = a.files ∧
      ((a.dump c).record a.files ev).2.stream = (a.dump c).stream := by
    intro ev
    rw [Dump.record, OfStream.write_of_failbit hs.failbit]
    exact ⟨rfl, rfl⟩
  cases hacc : acceptedFor cfg c op with
  | none =>
      rw [hacc] at hfollows hdump hfiles
      refine ⟨hfollows, ?_, ?_⟩
      · rw [hdump, hs.failbit]
      · rw [hfiles, hs.content]
  | some ev =>
      rw [hacc] at hfollows hdump hfiles
      refine ⟨hfollows, ?_, ?_⟩
      · rw [hdump]
        exact (congrArg OfStream.failbit (hlost ev).2).trans hs.failbit
      · rw [hfiles]
        simp only [(hlost ev).1, ite_self]
        exact hs.content

theorem Stale.run {cfg : Setup} {c : ByteString} {plan : DumpPlan} {n : Nat}
    {content : Option ByteString} {a : AgentState} (hs : Stale c plan n content a) {ops : List Op}
    (hquiet : ∀ op ∈ ops, quiet cfg c plan.endTsNs op = true)
    (hopens : neverOpens cfg plan.path a ops = true) :
    Stale c plan (n + (acceptedOf cfg c ops).length) content (after cfg a ops) := by
  induction ops generalizing a n with
  | nil => exact hs
  | cons op ops ih =>
      obtain ⟨hreq, hclose⟩ := quiet_iff.1 (hquiet op List.mem_cons_self)
      obtain ⟨hopen, hrest⟩ := neverOpens_cons.1 hopens
      have hrun := ih (hs.next hreq hclose hopen)
        (fun o ho => hquiet o (List.mem_cons_of_mem _ ho)) hrest
      rw [acceptedOf_cons, List.length_append, ← Nat.add_assoc]
      exact hrun

/-- A request on an open stream starts a dump that records nothing. -/
theorem stale_request {cfg : Setup} {a : AgentState} (ha : Synced a) {c : ByteString}
    (d : Int32) (env : DumpEnv) (hopen : (a.dump c).stream.isOpen = true)
    (hothers : ∀ k, k ≠ c → (a.dump k).stream.file ≠ some (dumpFilePath cfg c env.timestamp)) :
    Stale c (requestPlan cfg a c d env) 0 (a.files.find? (dumpFilePath cfg c env.timestamp))
      (step cfg a (.request c d env)).1 := by
  obtain ⟨hfiles, hdump⟩ := requestLongDump_of_isOpen cfg a c d env hopen
  change (step cfg a (.request c d env)).1.dump c = _ at hdump
  refine ⟨follows_request ha hdump hothers, ?_, congrArg (fun fs : FileSystem => fs.find? _) hfiles⟩
  rw [hdump]
  rfl

/-! ## Completions -/

/-- A file that consists of one header and a number of records. -/
def IsDumpFile (content : ByteString) (n : Nat) : Prop :=
  ∃ h recs, recs.length = n ∧ content = encodeDump h recs

/-- The file that a completion names exists and holds what the completion says. -/
def CompletionOk (files : FileSystem) (m : Completion) : Prop :=
  ∃ content, files.find? m.dumpPath = some content ∧ IsDumpFile content m.recordCount

/-- Every completion for a container that a run sends is true when it is sent. -/
def CompletionsOk (cfg : Setup) (c : ByteString) (a : AgentState) (ops : List Op) : Prop :=
  ∀ pre op post, ops = pre ++ op :: post →
    ∀ m ∈ completionsOf c (step cfg (after cfg a pre) op).2,
      CompletionOk (step cfg (after cfg a pre) op).1.files m

/-- Requests for other containers name other files than those for `c`. -/
def FilesApart (cfg : Setup) (c : ByteString) (ops : List Op) : Prop :=
  ∀ k d env, .request k d env ∈ ops → k ≠ c → ∀ d' env', .request c d' env' ∈ ops →
    dumpFilePath cfg k env.timestamp ≠ dumpFilePath cfg c env'.timestamp

/-- The state of the file that a second request names, at the time of the request: it holds as many
records as the container has accepted events between that request and the end of its dump. -/
def SecondRequestsHarmless (cfg : Setup) (c : ByteString) (a : AgentState) (ops : List Op) : Prop :=
  ∀ pre d env mid op post, ops = pre ++ .request c d env :: (mid ++ op :: post) →
    ((after cfg a pre).dump c).stream.isOpen = true →
    (∀ o ∈ mid, quiet cfg c (requestPlan cfg (after cfg a pre) c d env).endTsNs o = true) →
    closes cfg (requestPlan cfg (after cfg a pre) c d env).endTsNs op = true →
    ∃ content, (after cfg a pre).files.find? (dumpFilePath cfg c env.timestamp) = some content ∧
      IsDumpFile content (acceptedOf cfg c mid).length

section SecondRequest

variable {cfg : Setup} {c : ByteString} {ops : List Op}

theorem FilesApart.opens_eq_false (happart : FilesApart cfg c ops) {op : Op} (hop : op ∈ ops)
    (hreq : requests c op = false) {d : Int32} {env : DumpEnv}
    (hmem : .request c d env ∈ ops) (a : AgentState) :
    opens cfg a (dumpFilePath cfg c env.timestamp) op = false := by
  cases op with
  | event evt name net => rfl
  | request k d' env' =>
      have hk : k ≠ c := by simpa [requests] using hreq
      simp [opens, happart k d' env' hop hk d env hmem]

theorem FilesApart.neverOpens_eq_true (happart : FilesApart cfg c ops) {d : Int32} {env : DumpEnv}
    (hmem : .request c d env ∈ ops) {mid : List Op} (hsub : ∀ o ∈ mid, o ∈ ops)
    (hreq : ∀ o ∈ mid, requests c o = false) (a : AgentState) :
    neverOpens cfg (dumpFilePath cfg c env.timestamp) a mid = true := by
  induction mid generalizing a with
  | nil => rfl
  | cons o mid ih =>
      refine neverOpens_cons.2 ⟨happart.opens_eq_false (hsub o List.mem_cons_self)
        (hreq o List.mem_cons_self) hmem a, ?_⟩
      exact ih (fun p hp => hsub p (List.mem_cons_of_mem _ hp))
        (fun p hp => hreq p (List.mem_cons_of_mem _ hp)) _

/-- No other container ever has a file of `c` open. -/
theorem FilesApart.others_run (happart : FilesApart cfg c ops) {d : Int32} {env : DumpEnv}
    (hmem : .request c d env ∈ ops) {pre : List Op} (hsub : ∀ o ∈ pre, o ∈ ops) {a : AgentState}
    (ha : Synced a)
    (hothers : ∀ k, k ≠ c → (a.dump k).stream.file ≠ some (dumpFilePath cfg c env.timestamp)) :
    Synced (after cfg a pre) ∧ ∀ k, k ≠ c →
      ((after cfg a pre).dump k).stream.file ≠ some (dumpFilePath cfg c env.timestamp) := by
  induction pre generalizing a with
  | nil => exact ⟨ha, hothers⟩
  | cons o pre ih =>
      refine ih (fun p hp => hsub p (List.mem_cons_of_mem _ hp)) (step_synced cfg ha o) ?_
      intro k hk
      cases hreq : requests c o with
      | false =>
          exact step_stream_file cfg ha o k
            (happart.opens_eq_false (hsub o List.mem_cons_self) hreq hmem a) (hothers k hk)
      | true =>
          cases o with
          -- a call for `c` itself leaves the streams of the others alone
          | event evt name net => exact absurd hreq (by simp [requests])
          | request k' d' env' =>
              have hk' : k' = c := by simpa [requests] using hreq
              rw [step, dump_requestLongDump_of_ne cfg a k' d' env' (hk' ▸ hk)]
              exact hothers k hk

/-- The same at any point of a run of a new agent, whose second part is `tail`. -/
theorem FilesApart.others_of_split {pre tail : List Op} (happart : FilesApart cfg c (pre ++ tail))
    (files : FileSystem) {d : Int32} {env : DumpEnv} (hmem : .request c d env ∈ tail)
    {pre' post' : List Op} (hsplit : tail = pre' ++ post') {k : ByteString} (hk : k ≠ c) :
    ((after cfg (after cfg (.init files) pre) pre').dump k).stream.file ≠
      some (dumpFilePath cfg c env.timestamp) := by
  rw [← after_append]
  refine (happart.others_run (List.mem_append_right _ hmem) (fun o ho => ?_) (synced_init files)
    fun k _ => Option.some_ne_none _ ∘ Eq.symm).2 k hk
  rw [hsplit]
  rcases List.mem_append.1 ho with h | h
  · exact List.mem_append_left _ h
  · exact List.mem_append_right _ (List.mem_append_left _ h)

/-- While the dump of a container is active after a request, the last request for it, and that it
opened its file or found the stream open. -/
theorem active_lastRequest {a : AgentState} (ha : Synced a) (d₀ : Int32) (env₀ : DumpEnv)
    (hopen : (a.dump c).stream.isOpen = true) (rest : List Op)
    (hactive : ((after cfg a (.request c d₀ env₀ :: rest)).dump c).active = true) :
    ∃ pre d env mid, .request c d₀ env₀ :: rest = pre ++ .request c d env :: mid ∧
      (∀ o ∈ mid, quiet cfg c (requestPlan cfg (after cfg a pre) c d env).endTsNs o = true) ∧
      (((after cfg a pre).dump c).stream.isOpen = true ∨
        requestOpens cfg (after cfg a pre) c env = true) ∧
      ((after cfg a (.request c d₀ env₀ :: rest)).dump c).endTsNs =
        (requestPlan cfg (after cfg a pre) c d env).endTsNs := by
  induction rest using List.reverseRecOn with
  | nil =>
      have hdump := (requestLongDump_of_isOpen cfg a c d₀ env₀ hopen).2
      refine ⟨[], d₀, env₀, [], rfl, fun o ho => absurd ho List.not_mem_nil, Or.inl hopen, ?_⟩
      exact congrArg Dump.endTsNs hdump
  | append_singleton rest op ih =>
      have hsynced := synced_run cfg ha (.request c d₀ env₀ :: rest)
      rw [← List.cons_append, after_concat] at hactive ⊢
      cases hreq : requests c op with
      | true =>
          obtain ⟨d, env, rfl⟩ : ∃ d env, op = .request c d env := by
            cases op with
            | event evt name net => exact absurd hreq (by simp [requests])
            | request k d env =>
                have hk : k = c := by simpa [requests] using hreq
                exact ⟨d, env, by rw [hk]⟩
          refine ⟨.request c d₀ env₀ :: rest, d, env, [], rfl,
            fun o ho => absurd ho List.not_mem_nil, ?_⟩
          rcases request_cases cfg (after cfg a (.request c d₀ env₀ :: rest)) c env with
            hstill | hopens | ⟨hclosed, hcan⟩
          · exact ⟨Or.inl hstill,
              congrArg Dump.endTsNs (requestLongDump_of_isOpen cfg _ c d env hstill).2⟩
          · exact ⟨Or.inr hopens,
              congrArg Dump.endTsNs (requestLongDump_of_opens cfg _ c d env hopens).2.2⟩
          · have hdump := (requestLongDump_of_not_opens cfg _ c d env hclosed hcan).2
            have hidle := (congrArg Dump.active hdump).trans
              ((hsynced.sync c).trans hclosed)
            exact absurd (hactive.symm.trans hidle) (by decide)
      | false =>
          -- The dump was active before this call, and the call does not end it.
          have hbefore : ((after cfg a (.request c d₀ env₀ :: rest)).dump c).active = true := by
            by_contra hidle
            have hafter : ((step cfg _ op).1.dump c).active = false := step_inactive hsynced hreq
              (Or.inl (Bool.eq_false_iff.2 hidle))
            exact absurd (hactive.symm.trans hafter) (by decide)
          have hclose : closes cfg
              ((after cfg a (.request c d₀ env₀ :: rest)).dump c).endTsNs op = false := by
            by_contra hend
            have hafter : ((step cfg _ op).1.dump c).active = false := step_inactive hsynced hreq
              (Or.inr (Bool.eq_true_of_not_eq_false hend))
            exact absurd (hactive.symm.trans hafter) (by decide)
          obtain ⟨pre, d, env, mid, hsplit, hquiet, hstart, hend⟩ := ih hbefore
          rw [hend] at hclose
          refine ⟨pre, d, env, mid ++ [op], ?_, ?_, hstart, ?_⟩
          · rw [hsplit, List.append_assoc, List.cons_append]
          · intro o ho
            rcases List.mem_append.1 ho with h | h
            · exact hquiet o h
            · rw [List.mem_singleton.1 h]
              exact quiet_iff.2 ⟨hreq, hclose⟩
          · rw [← hend, step_dump_of_active hsynced hbefore hreq (hend ▸ hclose)]
            cases acceptedFor cfg c op with
            | none => rfl
            | some ev => rfl

/-- The completion that ends the dump of a second request. -/
theorem second_request_completion {a : AgentState} (ha : Synced a) {pre mid : List Op} {d : Int32}
    {env : DumpEnv} {op : Op} (happart : FilesApart cfg c ops)
    (hothers : ∀ k, k ≠ c →
      ((after cfg a pre).dump k).stream.file ≠ some (dumpFilePath cfg c env.timestamp))
    (hmem : .request c d env ∈ ops) (hsub : ∀ o ∈ mid ++ [op], o ∈ ops)
    (hopen : ((after cfg a pre).dump c).stream.isOpen = true)
    (hquiet : ∀ o ∈ mid,
      quiet cfg c (requestPlan cfg (after cfg a pre) c d env).endTsNs o = true)
    (hclose : closes cfg (requestPlan cfg (after cfg a pre) c d env).endTsNs op = true) :
    completionsOf c (step cfg (after cfg a (pre ++ .request c d env :: mid)) op).2 =
        [(requestPlan cfg (after cfg a pre) c d env).completion (acceptedOf cfg c mid).length] ∧
      (step cfg (after cfg a (pre ++ .request c d env :: mid)) op).1.files.find?
          (dumpFilePath cfg c env.timestamp) =
        (after cfg a pre).files.find? (dumpFilePath cfg c env.timestamp) := by
  have hreqs : ∀ o ∈ mid, requests c o = false := fun o ho => (quiet_iff.1 (hquiet o ho)).1
  -- the second request finds the stream open and breaks it, and so it stays up to the end
  have hstale := (stale_request (synced_run cfg ha pre) d env hopen hothers).run hquiet
    (happart.neverOpens_eq_true hmem (fun o ho => hsub o (List.mem_append_left _ ho)) hreqs _)
  have hfiles := hstale.toFollows.files_of_closes hclose
    (happart.opens_eq_false (hsub op (by simp)) (requests_of_closes hclose c) hmem _)
  rw [after_append, after, finalState_cons]
  constructor
  · rw [hstale.toFollows.completions, hclose, if_pos rfl, Nat.zero_add]
  · exact hfiles.trans hstale.content

/-- A completion that ends the dump of a successful request is true. -/
theorem first_request_completion {a : AgentState} (ha : Synced a) {pre mid : List Op} {d : Int32}
    {env : DumpEnv} {op : Op} (happart : FilesApart cfg c ops)
    (hothers : ∀ k, k ≠ c →
      ((after cfg a pre).dump k).stream.file ≠ some (dumpFilePath cfg c env.timestamp))
    (hmem : .request c d env ∈ ops) (hsub : ∀ o ∈ mid ++ [op], o ∈ ops)
    (hopens : requestOpens cfg (after cfg a pre) c env = true)
    (hquiet : ∀ o ∈ mid,
      quiet cfg c (requestPlan cfg (after cfg a pre) c d env).endTsNs o = true)
    (hclose : closes cfg (requestPlan cfg (after cfg a pre) c d env).endTsNs op = true) :
    ∀ m ∈ completionsOf c (step cfg (after cfg a (pre ++ .request c d env :: mid)) op).2,
      CompletionOk (step cfg (after cfg a (pre ++ .request c d env :: mid)) op).1.files m := by
  have hreqs : ∀ o ∈ mid, requests c o = false := fun o ho => (quiet_iff.1 (hquiet o ho)).1
  obtain ⟨recs, -, hrun, -⟩ :=
    (recording_request (synced_run cfg ha pre) d hopens hothers).1.run hquiet
      (happart.neverOpens_eq_true hmem (fun o ho => hsub o (List.mem_append_left _ ho)) hreqs _)
  have hfiles := (hrun.close hclose
    (happart.opens_eq_false (hsub op (by simp)) (requests_of_closes hclose c) hmem _)).1.content
  rw [after_append, after, finalState_cons]
  rw [hrun.toFollows.completions, hclose, if_pos rfl]
  intro m hm
  rw [List.mem_singleton.1 hm]
  exact ⟨_, hfiles, _, _, rfl, rfl⟩

theorem active_of_mem_completions {a : AgentState} (ha : Synced a) {op : Op} {m : Completion}
    (hm : m ∈ completionsOf c (step cfg a op).2) :
    (a.dump c).active = true ∧ closes cfg (a.dump c).endTsNs op = true := by
  rw [completionsOf_step cfg ha op c] at hm
  split at hm
  · rename_i h
    exact Bool.and_eq_true_iff.1 h
  · exact absurd hm List.not_mem_nil

/-- After a further request for a container whose dump is active, the completions for the container
are true if and only if every request that finds the stream open names a file which already holds
as many records as its dump will count. -/
theorem second_request_completions_iff (cfg : Setup) (files : FileSystem) (pre post : List Op)
    (c : ByteString) (d : Int32) (env : DumpEnv)
    (hactive : ((after cfg (.init files) pre).buffer c).isLongDumpActive = true)
    (happart : FilesApart cfg c (pre ++ .request c d env :: post)) :
    CompletionsOk cfg c (after cfg (.init files) pre) (.request c d env :: post) ↔
      SecondRequestsHarmless cfg c (after cfg (.init files) pre) (.request c d env :: post) := by
  have ha := synced_run cfg (synced_init files) pre
  have hopen : ((after cfg (.init files) pre).dump c).stream.isOpen = true :=
    (ha.sync c).symm.trans hactive
  constructor
  · intro hok pre' d' env' mid op post' hsplit hstill hquiet hclose
    have hmem : .request c d' env' ∈ .request c d env :: post := by rw [hsplit]; simp
    obtain ⟨hsent, hfile⟩ := second_request_completion ha happart
      (fun k hk => happart.others_of_split files hmem hsplit hk) (List.mem_append_right _ hmem)
      (fun o ho => List.mem_append_right _ (by
        rw [hsplit]
        simp only [List.mem_append, List.mem_cons, List.not_mem_nil, or_false] at ho ⊢
        tauto)) hstill hquiet hclose
    have hmok := hok (pre' ++ .request c d' env' :: mid) op post' (by rw [hsplit]; simp) _
      (by rw [hsent]; exact List.mem_singleton.2 rfl)
    obtain ⟨content, hcontent, hdump⟩ := hmok
    exact ⟨content, hfile.symm.trans hcontent, hdump⟩
  · intro hharmless pre' op post' hsplit m hm
    cases pre' with
    | nil =>
        rw [List.nil_append, List.cons.injEq] at hsplit
        obtain ⟨rfl, -⟩ := hsplit
        exact absurd hm (by simp [step, completionsOf])
    | cons o rest =>
        rw [List.cons_append, List.cons.injEq] at hsplit
        obtain ⟨rfl, hpost⟩ := hsplit
        -- The completion ends the dump of the last request before it.
        obtain ⟨hbefore, hclose⟩ := active_of_mem_completions (synced_run cfg ha _) hm
        obtain ⟨pre', d', env', mid, hsplit, hquiet, hstart, hend⟩ :=
          active_lastRequest ha d env hopen rest hbefore
        have hrun : .request c d env :: post =
            pre' ++ .request c d' env' :: (mid ++ op :: post') := by
          rw [hpost, ← List.cons_append, hsplit, List.append_assoc, List.cons_append]
        have hmem : .request c d' env' ∈ .request c d env :: post := by rw [hrun]; simp
        have hsub : ∀ o ∈ mid ++ [op], o ∈ pre ++ .request c d env :: post := by
          intro o ho
          rw [hrun]
          simp only [List.mem_append, List.mem_cons, List.not_mem_nil, or_false] at ho ⊢
          tauto
        rw [hend] at hclose
        rw [hsplit] at hm ⊢
        have hothers := fun k hk => happart.others_of_split files hmem hrun (k := k) hk
        rcases hstart with hstill | hopens
        · obtain ⟨hsent, hfile⟩ := second_request_completion ha happart hothers
            (List.mem_append_right _ hmem) hsub hstill hquiet hclose
          rw [hsent, List.mem_singleton] at hm
          obtain ⟨content, hcontent, hdump⟩ :=
            hharmless pre' d' env' mid op post' hrun hstill hquiet hclose
          rw [hm]
          exact ⟨content, hfile.trans hcontent, hdump⟩
        · exact first_request_completion ha happart hothers (List.mem_append_right _ hmem) hsub
            hopens hquiet hclose m hm

end SecondRequest

/-- The failing run: a second request, one second after the first, names a file that is never
opened; the dump ends and its completion names that file. -/
theorem second_request_completions_fail :
    ((after defaultSetup (.init Table.empty) [requestAt "20250101-000000"]).buffer
        (ascii "a")).isLongDumpActive = true ∧
      ¬ CompletionsOk defaultSetup (ascii "a")
        (after defaultSetup (.init Table.empty) [requestAt "20250101-000000"])
        [requestAt "20250101-000001", eventAt 20000000000] := by
  refine ⟨by decide, fun h => ?_⟩
  obtain ⟨content, hcontent, -⟩ := h [requestAt "20250101-000001"] (eventAt 20000000000) [] rfl
    { dumpPath := dumpFilePath defaultSetup (ascii "a") (ascii "20250101-000001")
      startTsNs := 1
      durationSec := 10
      recordCount := 0 } (by decide)
  have hnone : (step defaultSetup (after defaultSetup
      (after defaultSetup (.init Table.empty) [requestAt "20250101-000000"])
      [requestAt "20250101-000001"]) (eventAt 20000000000)).1.files.find?
      (dumpFilePath defaultSetup (ascii "a") (ascii "20250101-000001")) = none := by decide
  exact absurd (hnone.symm.trans hcontent) (by simp)

/-- A second request within the same second, with no event in between, does no harm. -/
theorem second_request_same_second :
    CompletionsOk defaultSetup (ascii "a")
      (after defaultSetup (.init Table.empty) [requestAt "20250101-000000"])
      [requestAt "20250101-000000", eventAt 20000000000] := by
  refine (second_request_completions_iff defaultSetup Table.empty [requestAt "20250101-000000"]
    [eventAt 20000000000] (ascii "a") 10
    { timestamp := ascii "20250101-000000", canOpen := true, monotonicNowNs := 1 }
    (by decide) ?_).2 ?_
  · intro k d env hmem hk
    simp only [requestAt, eventAt, List.cons_append, List.nil_append, List.mem_cons,
      Op.request.injEq, reduceCtorEq, List.not_mem_nil, or_false, or_self] at hmem
    exact absurd hmem.1 hk
  · intro pre d env mid op post hsplit _ _ _
    cases pre with
    | nil =>
        rw [List.nil_append, List.cons.injEq, Op.request.injEq] at hsplit
        obtain ⟨⟨-, -, rfl⟩, hmid⟩ := hsplit
        obtain rfl : mid = [] := by
          cases mid with
          | nil => rfl
          | cons o mid => simp at hmid
        exact ⟨_, (requestLongDump_of_opens defaultSetup (.init Table.empty) (ascii "a") 10 _
          (by decide)).1, _, [], rfl, (List.append_nil _).symm⟩
    | cons o pre =>
        cases pre with
        | nil => simp [eventAt] at hsplit
        | cons o' pre => simp at hsplit

end DeepKernel.Agent
