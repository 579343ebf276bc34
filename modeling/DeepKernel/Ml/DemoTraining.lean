import DeepKernel.Lib.Frequencies
import DeepKernel.Ml.DemoDump
import DeepKernel.Ml.Simulation
import DeepKernel.Server.FeatureShape

/-!
# The demo trainer

`train_demo_sensitive.py` on a dump file: its windows, the vector that it makes of a window, and the
request that it posts. A vector has the 594 positions of the feature vectors of the server and other
contents (`FocusedFeatures`): classes instead of symbols in the matrix, and five class ratios, the
duration and two totals behind the entropy, where the server has its timing and its buckets.

The model is trained under an id of its own. Containers whose model file differs from that of this
id do not notice the training (`demo_training`).
-/

set_option autoImplicit false

namespace DeepKernel.Ml.Demo

open DeepKernel.Lib

/-! ## The vector of a window -/

/-- `cls`: the class that a record counts for. -/
def classOf (argClass : Int) : Fin 5 :=
  if 0 ≤ argClass then ⟨min argClass.toNat 4, by omega⟩ else 0

/-- `class_to_alphabet`, the first symbol of each class. -/
def firstSymbol (cls : Fin 5) : Nat := [0, 5, 10, 15, 20].getD cls.val 0

/-- `matrix_idx`. -/
def matrixIdx (cell : Fin 5 × Fin 5) : Nat := firstSymbol cell.1 * 24 + firstSymbol cell.2

/-- The variables of the loop over the records. -/
structure Focus where
  classCounts : Fin 5 → Nat
  transitions : Table (Fin 5 × Fin 5) Nat
  prevClass : Option (Fin 5)

/-- The variables before the loop. -/
def Focus.init : Focus := ⟨fun _ => 0, Table.empty, none⟩

/-- The loop body for a class. -/
def Focus.step (s : Focus) (cls : Fin 5) : Focus where
  classCounts := Function.update s.classCounts cls (s.classCounts cls + 1)
  transitions :=
    match s.prevClass with
    | some prev =>
        s.transitions.set (prev, cls) ((s.transitions.find? (prev, cls)).getD 0 + 1)
    | none => s.transitions
  prevClass := some cls

/-- The classes of the records of a window. -/
def classesOf (syscalls : List Triple) : List (Fin 5) := syscalls.map fun t => classOf t.2.1

/-- The loop. -/
def Focus.run (syscalls : List Triple) : Focus := (classesOf syscalls).foldl Focus.step .init

/-- `total`. -/
def Focus.total (s : Focus) : Nat := ((List.finRange 5).map s.classCounts).sum

section Vector

variable {R : Type} [Field R] (log2 : R → R)

/-- The entropy of the classes. -/
def Focus.entropy (s : Focus) : R :=
  let probs : List R := ((List.finRange 5).filter fun c => decide (0 < s.classCounts c)).map
    fun c => (s.classCounts c : R) / (s.total : R)
  if probs = [] then 0 else -(probs.map fun p => p * log2 p).sum

/-- The assignments behind the matrix, in their order. -/
def Focus.statistics (s : Focus) (durationUs : Int) : List (Nat × R) :=
  [(576, (s.transitions.entries.length : R)),
    (577, s.entropy log2),
    (578, (s.classCounts 1 : R) / (s.total : R)),
    (579, (s.classCounts 2 : R) / (s.total : R)),
    (580, (s.classCounts 3 : R) / (s.total : R)),
    (581, (s.classCounts 4 : R) / (s.total : R)),
    (582, (s.classCounts 0 : R) / (s.total : R)),
    (583, (durationUs : R) / 1000000),
    (584, (s.total : R))]

/-- All assignments to `features`. -/
def Focus.assignments (s : Focus) (durationUs : Int) : List (Nat × R) :=
  ((s.transitions.entries.map fun e => (matrixIdx e.1, (e.2 : R) / (s.total : R))).filter
      fun w => decide (w.1 < 576)) ++
    s.statistics log2 durationUs ++
    if 1 < s.total ∧ 0 < durationUs then
      [(585, (durationUs : R) / ((s.total - 1 : Nat) : R))]
    else []

/-- `create_focused_feature_vector`. -/
def createFocusedFeatureVector (syscalls : List Triple) (durationUs : Int) : List R :=
  let features := List.replicate 594 0
  if syscalls.isEmpty then features
  else if (Focus.run syscalls).total = 0 then features
  else assignAll features ((Focus.run syscalls).assignments log2 durationUs)

end Vector

/-! ## What the loop counts -/

/-- The variables after the loop over some classes. -/
structure Focus.Counts (s : Focus) (classes : List (Fin 5)) : Prop where
  classCounts : ∀ c, s.classCounts c = classes.count c
  transitions : ∀ cell, s.transitions.find? cell =
    if cell ∈ neighbours classes then some ((neighbours classes).count cell) else none
  prevClass : s.prevClass = classes.getLast?

theorem Focus.Counts.step {s : Focus} {classes : List (Fin 5)} (h : s.Counts classes)
    (cls : Fin 5) : (s.step cls).Counts (classes ++ [cls]) := by
  refine ⟨fun c => ?_, fun cell => ?_, ?_⟩
  · simp only [Focus.step]
    rw [update_add_one, h.classCounts, List.count_append, List.count_singleton]
    simp only [beq_iff_eq]
  · rw [neighbours_append_singleton]
    simp only [Focus.step, h.prevClass]
    cases classes.getLast? with
    | none => simpa using h.transitions cell
    | some prev =>
        simp only [Option.map_some, Option.toList_some, Table.find?_set, h.transitions,
          List.mem_append, List.mem_singleton, List.count_append, List.count_singleton, beq_iff_eq]
        by_cases hcell : cell = (prev, cls)
        · subst hcell
          by_cases hmem : (prev, cls) ∈ neighbours classes
          · simp [hmem]
          · simp [hmem, List.count_eq_zero_of_not_mem hmem]
        · simp [hcell, Ne.symm hcell]
  · rw [List.getLast?_concat]
    rfl

theorem Focus.counts_run (syscalls : List Triple) :
    (Focus.run syscalls).Counts (classesOf syscalls) := by
  have hrun : ∀ (rest before : List (Fin 5)) (s : Focus), s.Counts before →
      (rest.foldl Focus.step s).Counts (before ++ rest) := by
    intro rest
    induction rest with
    | nil =>
        intro before s h
        rwa [List.append_nil]
    | cons cls rest ih =>
        intro before s h
        have hnext := ih _ _ (h.step cls)
        rwa [List.append_assoc] at hnext
  exact hrun (classesOf syscalls) [] Focus.init ⟨fun _ => rfl, fun _ => rfl, rfl⟩

theorem Focus.total_eq (syscalls : List Triple) :
    (Focus.run syscalls).total = syscalls.length := by
  have hcounts : (Focus.run syscalls).classCounts = fun c => (classesOf syscalls).count c :=
    funext (Focus.counts_run syscalls).classCounts
  rw [Focus.total, hcounts, ← Fin.sum_univ_def, sum_count, classesOf, List.length_map]

/-- The keys of the table are the transitions that occur. -/
theorem Focus.mem_keys (syscalls : List Triple) (cell : Fin 5 × Fin 5) :
    cell ∈ (Focus.run syscalls).transitions.entries.map Prod.fst ↔
      cell ∈ neighbours (classesOf syscalls) := by
  have hfind := (Focus.counts_run syscalls).transitions cell
  constructor
  · intro hcell
    obtain ⟨e, he, rfl⟩ := List.mem_map.1 hcell
    by_contra hnot
    rw [if_neg hnot, (Table.mem_entries_iff _ e.1 e.2).1 he] at hfind
    cases hfind
  · intro hcell
    rw [if_pos hcell] at hfind
    exact List.mem_map_of_mem ((Table.mem_entries_iff _ _ _).2 hfind)

theorem Focus.length_entries (syscalls : List Triple) :
    (Focus.run syscalls).transitions.entries.length =
      (neighbours (classesOf syscalls)).dedup.length := by
  have hperm : ((Focus.run syscalls).transitions.entries.map Prod.fst).Perm
      (neighbours (classesOf syscalls)).dedup := by
    refine (List.perm_ext_iff_of_nodup (Focus.run syscalls).transitions.nodup
      (List.nodup_dedup _)).2 fun cell => ?_
    rw [List.mem_dedup, Focus.mem_keys]
  rw [← hperm.length_eq, List.length_map]

/-! ## What the vector holds -/

theorem matrixIdx_lt : ∀ cell, matrixIdx cell < 576 := by decide

theorem matrixIdx_injective : Function.Injective matrixIdx := by
  have hinj : ∀ cell cell', matrixIdx cell = matrixIdx cell' → cell = cell' := by decide
  exact fun cell cell' => hinj cell cell'

section Features

variable {R : Type} [Field R] (log2 : R → R)

/-- The vector of a window, from the classes of its records. -/
structure FocusedFeatures (syscalls : List Triple) (durationUs : Int) (vec : List R) : Prop where
  length_eq : vec.length = 594
  transition_eq : ∀ cell, vec[matrixIdx cell]? =
    some (((neighbours (classesOf syscalls)).count cell : R) / (syscalls.length : R))
  unused_eq : ∀ i < 576, (∀ cell, matrixIdx cell ≠ i) → vec[i]? = some 0
  distinct_eq : vec[576]? = some ((neighbours (classesOf syscalls)).dedup.length : R)
  entropy_eq : vec[577]? = some (-(((List.finRange 5).filter
    fun c => decide (c ∈ classesOf syscalls)).map fun c =>
      ((classesOf syscalls).count c : R) / (syscalls.length : R) *
        log2 (((classesOf syscalls).count c : R) / (syscalls.length : R))).sum)
  ratio_eq : ∀ k : Fin 5, vec[578 + k.val]? =
    some (((classesOf syscalls).count (k + 1) : R) / (syscalls.length : R))
  duration_eq : vec[583]? = some ((durationUs : R) / 1000000)
  total_eq : vec[584]? = some (syscalls.length : R)
  mean_eq : vec[585]? = some (if 1 < syscalls.length ∧ 0 < durationUs then
    (durationUs : R) / ((syscalls.length - 1 : Nat) : R) else 0)
  rest_eq : ∀ i, 586 ≤ i → i < 594 → vec[i]? = some 0

theorem map_fst_assignments (s : Focus) (durationUs : Int) :
    (s.assignments log2 durationUs).map Prod.fst =
      (s.transitions.entries.map Prod.fst).map matrixIdx ++
        [576, 577, 578, 579, 580, 581, 582, 583, 584] ++
        if 1 < s.total ∧ 0 < durationUs then [585] else [] := by
  have hall : ∀ w ∈ s.transitions.entries.map fun e => (matrixIdx e.1, (e.2 : R) / (s.total : R)),
      decide (w.1 < 576) = true := by
    intro w hw
    obtain ⟨e, -, rfl⟩ := List.mem_map.1 hw
    exact decide_eq_true (matrixIdx_lt e.1)
  rw [Focus.assignments, List.filter_eq_self.2 hall]
  simp only [List.map_append, List.map_map]
  refine congrArg₂ (· ++ ·) rfl ?_
  split_ifs <;> rfl

theorem nodup_assignments (s : Focus) (durationUs : Int) :
    ((s.assignments log2 durationUs).map Prod.fst).Nodup := by
  have hcells := s.transitions.nodup.map matrixIdx_injective
  have hlt : ∀ i ∈ (s.transitions.entries.map Prod.fst).map matrixIdx, i < 576 := by
    intro i hi
    obtain ⟨cell, -, rfl⟩ := List.mem_map.1 hi
    exact matrixIdx_lt cell
  rw [map_fst_assignments, List.append_assoc]
  refine List.Nodup.append hcells ?_ fun i hi hi' => ?_
  · split_ifs <;> decide
  · have hi₁ := hlt i hi
    split_ifs at hi' <;> simp at hi' <;> omega

/-- The positions that are assigned. -/
theorem mem_positions (syscalls : List Triple) (durationUs : Int) {i : Nat} :
    i ∈ ((Focus.run syscalls).assignments log2 durationUs).map Prod.fst ↔
      (∃ cell ∈ neighbours (classesOf syscalls), matrixIdx cell = i) ∨ (576 ≤ i ∧ i ≤ 584) ∨
        (i = 585 ∧ 1 < syscalls.length ∧ 0 < durationUs) := by
  rw [map_fst_assignments, List.append_assoc, List.mem_append, List.mem_append, Focus.total_eq,
    List.mem_map]
  refine or_congr (exists_congr fun cell => and_congr (Focus.mem_keys syscalls cell) Iff.rfl)
    (or_congr ?_ ?_)
  · simp only [List.mem_cons, List.not_mem_nil, or_false]
    omega
  · split_ifs with hmean
    · simp [hmean]
    · simp [hmean]

theorem Focus.entropy_eq (syscalls : List Triple) :
    (Focus.run syscalls).entropy log2 = -(((List.finRange 5).filter
      fun c => decide (c ∈ classesOf syscalls)).map fun c =>
        ((classesOf syscalls).count c : R) / (syscalls.length : R) *
          log2 (((classesOf syscalls).count c : R) / (syscalls.length : R))).sum := by
  have hcounts := (Focus.counts_run syscalls).classCounts
  have hclasses :
      (List.finRange 5).filter (fun c => decide (0 < (Focus.run syscalls).classCounts c)) =
        (List.finRange 5).filter fun c => decide (c ∈ classesOf syscalls) := by
    refine List.filter_congr fun c _ => ?_
    rw [decide_eq_decide, hcounts, List.count_pos_iff]
  have hsum : ∀ probs : List R, (if probs = [] then 0 else -(probs.map fun p => p * log2 p).sum) =
      -(probs.map fun p => p * log2 p).sum := by
    intro probs
    split_ifs with hnil
    · rw [hnil, List.map_nil, List.sum_nil, neg_zero]
    · rfl
  rw [Focus.entropy, hsum, hclasses, List.map_map, Focus.total_eq]
  simp only [hcounts]
  rfl

/-- The vector of a window that is not empty. -/
theorem focusedFeatures_create {syscalls : List Triple} (hne : syscalls ≠ []) (durationUs : Int) :
    FocusedFeatures log2 syscalls durationUs
      (createFocusedFeatureVector log2 syscalls durationUs) := by
  have hcounts := Focus.counts_run syscalls
  have htotal := Focus.total_eq syscalls
  have hempty : syscalls.isEmpty = false := by simpa using hne
  have hpos : (Focus.run syscalls).total ≠ 0 := by
    rw [htotal]
    simpa using hne
  have hvec : createFocusedFeatureVector log2 syscalls durationUs =
      assignAll (List.replicate 594 0) ((Focus.run syscalls).assignments log2 durationUs) := by
    rw [createFocusedFeatureVector, hempty]
    simp only [Bool.false_eq_true, if_false, if_neg hpos]
  rw [hvec]
  -- what is assigned, and what is not
  have hget : ∀ {i : Nat} {v : R}, i < 594 →
      (i, v) ∈ (Focus.run syscalls).assignments log2 durationUs →
        (assignAll (List.replicate 594 0)
          ((Focus.run syscalls).assignments log2 durationUs))[i]? = some v :=
    fun hi hmem => getElem?_assignAll_of_mem (nodup_assignments log2 _ _)
      (by rwa [List.length_replicate]) hmem
  have hzero : ∀ {i : Nat}, i < 594 →
      i ∉ ((Focus.run syscalls).assignments log2 durationUs).map Prod.fst →
        (assignAll (List.replicate 594 0)
          ((Focus.run syscalls).assignments log2 durationUs))[i]? = some 0 := by
    intro i hi hnot
    rw [getElem?_assignAll_of_notMem _ hnot, List.getElem?_replicate, if_pos hi]
  have hfixed : ∀ (k : Nat) {w : Nat × R},
      ((Focus.run syscalls).statistics log2 durationUs)[k]? = some w →
        w ∈ (Focus.run syscalls).assignments log2 durationUs :=
    fun k w hw => List.mem_append_left _ (List.mem_append_right _ (List.mem_of_getElem? hw))
  have hposition := fun i => mem_positions log2 syscalls durationUs (i := i)
  refine ⟨by rw [length_assignAll, List.length_replicate], fun cell => ?_, fun i hi hunused => ?_,
    ?_, ?_, fun k => ?_, ?_, ?_, ?_, fun i hlow hhigh => ?_⟩
  · have hlt := matrixIdx_lt cell
    have hfind := hcounts.transitions cell
    by_cases hcell : cell ∈ neighbours (classesOf syscalls)
    · rw [if_pos hcell] at hfind
      refine hget (by omega) (List.mem_append_left _ (List.mem_append_left _ ?_))
      refine List.mem_filter.2 ⟨List.mem_map.2 ⟨_, (Table.mem_entries_iff _ _ _).2 hfind, ?_⟩,
        decide_eq_true hlt⟩
      rw [htotal]
    · -- a transition that does not occur is not assigned
      rw [if_neg hcell] at hfind
      rw [List.count_eq_zero_of_not_mem hcell, Nat.cast_zero, zero_div]
      refine hzero (by omega) fun hmem => ?_
      rcases (hposition _).1 hmem with ⟨cell', hcell', hidx⟩ | h | h
      · exact hcell (matrixIdx_injective hidx ▸ hcell')
      · omega
      · omega
  · refine hzero (by omega) fun hmem => ?_
    rcases (hposition _).1 hmem with ⟨cell, -, hidx⟩ | h | h
    · exact hunused cell hidx
    · omega
    · omega
  · rw [← Focus.length_entries]
    exact hget (by omega) (hfixed 0 rfl)
  · rw [← Focus.entropy_eq]
    exact hget (by omega) (hfixed 1 rfl)
  · rw [← hcounts.classCounts, ← htotal]
    refine hget (by omega) (hfixed (2 + k.val) ?_)
    fin_cases k <;> rfl
  · exact hget (by omega) (hfixed 7 rfl)
  · rw [← htotal]
    exact hget (by omega) (hfixed 8 rfl)
  · rw [← htotal]
    split_ifs with hmean
    · refine hget (by omega) (List.mem_append_right _ ?_)
      rw [if_pos hmean]
      exact List.mem_singleton.2 rfl
    · refine hzero (by omega) fun hmem => ?_
      rcases (hposition _).1 hmem with ⟨cell, -, hidx⟩ | h | h
      · exact absurd (matrixIdx_lt cell) (by omega)
      · omega
      · exact hmean (htotal ▸ h.2)
  · refine hzero hhigh fun hmem => ?_
    rcases (hposition _).1 hmem with ⟨cell, -, hidx⟩ | h | h
    · exact absurd (matrixIdx_lt cell) (by omega)
    · omega
    · omega

end Features

/-! ## The vectors that are scored -/

section Scored

variable {R : Type} [Field R] [LinearOrder R] [IsStrictOrderedRing R]

/-- The server has an argument bucket where the trainer has its window length of five seconds. -/
theorem focused_ne_extract (log2 log : R → R) {syscalls : List Triple} (hne : syscalls ≠ [])
    (payload : Server.ShortWindowPayload) :
    createFocusedFeatureVector log2 syscalls 5000000 ≠ Server.extract log payload := by
  intro heq
  have hfive : (Server.extract log payload)[583]? = some 5 := by
    rw [← heq, (focusedFeatures_create log2 hne 5000000).duration_eq]
    norm_num
  rcases hrecords : payload.records with _ | _ | ⟨r, rs⟩
  · rw [Server.extract, hrecords] at hfive
    cases hfive
  · rw [Server.extract, hrecords] at hfive
    cases hfive
  · have hshape : Server.FeatureShape (r :: rs) (Server.extract log payload) := by
      rw [Server.extract_of_ne_nil log hrecords (List.cons_ne_nil r rs)]
      exact (Server.counts_scanWindow payload.windowStartTsNs (r :: rs)).featureShape
        (List.cons_ne_nil r rs) log _
    have hle := Finset.single_le_sum (fun b _ => hshape.bucket_nonneg b)
      (Finset.mem_univ (1 : Fin 12))
    rw [hshape.bucket_sum] at hle
    have hvalue : (Server.extract log payload).getD (582 + (1 : Fin 12).val) 0 = 5 := by
      rw [List.getD_eq_getElem?_getD]
      exact congrArg (Option.getD · 0) hfive
    rw [hvalue] at hle
    exact absurd hle (by norm_num)

end Scored

/-! ## The windows of a dump -/

/-- All records of sixteen bytes are read. -/
theorem length_triples (bytes : ByteString) : (triples bytes).length = bytes.length / 16 := by
  induction bytes using triples.induct with
  | case1 b₀ b₁ b₂ b₃ b₄ b₅ b₆ b₇ c₀ c₁ c₂ c₃ c₄ c₅ c₆ c₇ rest ih =>
      rw [triples, List.length_cons, ih]
      simp only [List.length_cons]
      omega
  | case2 bytes hshort =>
      have hnil : triples bytes = [] := by
        rw [triples]
        exact hshort
      have hlt : bytes.length < 16 := by
        by_contra hlong
        have htake : (bytes.take 8).length = 8 := by
          rw [List.length_take]
          omega
        have hnext : ((bytes.drop 8).take 8).length = 8 := by
          rw [List.length_take, List.length_drop]
          omega
        obtain ⟨b₀, b₁, b₂, b₃, b₄, b₅, b₆, b₇, hfront⟩ := exists_eight htake
        obtain ⟨c₀, c₁, c₂, c₃, c₄, c₅, c₆, c₇, hback⟩ := exists_eight hnext
        have hsplit := List.take_append_drop 8 bytes
        rw [← List.take_append_drop 8 (bytes.drop 8), hfront, hback] at hsplit
        exact hshort _ _ _ _ _ _ _ _ _ _ _ _ _ _ _ _ _ hsplit.symm
      rw [hnil, List.length_nil]
      omega

/-- The windows have 500 records, except for the last one. -/
theorem length_readWindows {records : List Triple} (hrecords : records.length < 500)
    (windows : List (List Triple)) (bytes : ByteString) :
    (readWindows records windows bytes).length =
      windows.length + (records.length + (triples bytes).length + 499) / 500 := by
  induction bytes using triples.induct generalizing records windows with
  | case1 b₀ b₁ b₂ b₃ b₄ b₅ b₆ b₇ c₀ c₁ c₂ c₃ c₄ c₅ c₆ c₇ rest ih =>
      rw [readWindows, triples]
      split_ifs with hfull
      · rw [List.length_append, List.length_singleton] at hfull
        rw [ih (by simp), List.length_append, List.length_singleton]
        simp only [List.length_nil, List.length_cons]
        omega
      · rw [ih (not_le.1 hfull)]
        simp only [List.length_append, List.length_cons, List.length_nil]
        omega
  | case2 bytes hshort =>
      have htriples : triples bytes = [] := by
        rw [triples]
        exact hshort
      rw [htriples, readWindows]
      · split_ifs with hempty
        · simp [hempty]
        · have hpos := List.length_pos_of_ne_nil hempty
          rw [List.length_append, List.length_singleton, List.length_nil]
          omega
      · exact hshort

/-- A window has a record and at most 500. -/
def IsWindow (w : List Triple) : Prop := 1 ≤ w.length ∧ w.length ≤ 500

theorem isWindow_of_mem_readWindows {records : List Triple} {windows : List (List Triple)}
    (hrecords : records.length < 500) (hwindows : ∀ w ∈ windows, IsWindow w) (bytes : ByteString)
    {w : List Triple} (hw : w ∈ readWindows records windows bytes) : IsWindow w := by
  have happend : ∀ {windows : List (List Triple)} {last : List Triple},
      (∀ w ∈ windows, IsWindow w) → IsWindow last → ∀ w ∈ windows ++ [last], IsWindow w := by
    intro windows last hwindows hlast w hw
    rcases List.mem_append.1 hw with hw | hw
    · exact hwindows w hw
    · rw [List.mem_singleton.1 hw]
      exact hlast
  induction bytes using triples.induct generalizing records windows with
  | case1 b₀ b₁ b₂ b₃ b₄ b₅ b₆ b₇ c₀ c₁ c₂ c₃ c₄ c₅ c₆ c₇ rest ih =>
      rw [readWindows] at hw
      split_ifs at hw with hfull
      · -- the records are a window of 500 now
        refine ih (by decide) (happend hwindows ⟨?_, ?_⟩) hw
        · rw [List.length_append, List.length_singleton]
          omega
        · rw [List.length_append, List.length_singleton]
          omega
      · exact ih (Nat.lt_of_not_le hfull) hwindows hw
  | case2 bytes hshort =>
      rw [readWindows] at hw
      · split_ifs at hw with hempty
        · exact hwindows w hw
        · exact happend hwindows ⟨List.length_pos_of_ne_nil hempty, hrecords.le⟩ w hw
      · exact hshort

/-! ## The tool -/

/-- The arguments `--container` and `--samples`. -/
structure DemoArgs where
  containerId : String
  samples : Int := 50

/-- How the tool ends with a dump file: an exception of the reader, the `IndexError` of
`training_data[0]`, or a request. -/
inductive DemoEnd (R : Type)
  | readError (e : ReadError)
  | indexError
  | posted (containerId : String) (trainingData : List (List R))

/-- `windows[:args.samples]`, where a negative number counts from the end. -/
def firstSamples {α : Type} (samples : Int) (windows : List α) : List α :=
  if 0 ≤ samples then windows.take samples.toNat
  else windows.take (windows.length - (-samples).toNat)

/-- `main` with `--dump-file` up to the request of `train_model`. -/
def trainDemo {R : Type} [Field R] (log2 : R → R) (args : DemoArgs) (file : ByteString) :
    DemoEnd R :=
  match parseDumpFile file with
  | .error e => .readError e
  | .ok windows =>
      let trainingData := (firstSamples args.samples windows).map fun w =>
        createFocusedFeatureVector log2 w 5000000
      if trainingData = [] then .indexError
      else .posted (args.containerId ++ "_test") (trainingData.take 50)

/-- The number of vectors that are posted for a file. -/
def sampleCount (args : DemoArgs) (file : ByteString) : Nat :=
  min 50 (firstSamples args.samples
    (List.replicate (((file.length - 64) / 16 + 499) / 500) ())).length

theorem length_firstSamples {α : Type} (samples : Int) (windows : List α) :
    (firstSamples samples windows).length =
      (firstSamples samples (List.replicate windows.length ())).length := by
  rw [firstSamples, firstSamples, List.length_replicate]
  split_ifs <;> simp

theorem mem_of_mem_firstSamples {α : Type} {samples : Int} {windows : List α} {w : α}
    (h : w ∈ firstSamples samples windows) : w ∈ windows := by
  rw [firstSamples] at h
  split_ifs at h
  · exact List.mem_of_mem_take h
  · exact List.mem_of_mem_take h

theorem parseDumpFile_eq_ok_iff {file : ByteString} {windows : List (List Triple)} :
    parseDumpFile file = .ok windows ↔
      (64 ≤ file.length ∧ (decodeUtf8 (slice (file.take 64) 8 32)).isSome) ∧
        windows = readWindows [] [] (file.drop 64) := by
  have hheader : (file.take 64).length < 64 ↔ ¬ 64 ≤ file.length := by
    rw [List.length_take]
    omega
  rw [parseDumpFile]
  by_cases hlen : 64 ≤ file.length
  · rw [if_neg (fun h => hheader.1 h hlen)]
    cases hdecoded : decodeUtf8 (slice (file.take 64) 8 32) with
    | none => simp
    | some text => simp [hlen, eq_comm]
  · rw [if_pos (hheader.2 hlen)]
    refine iff_of_false ?_ fun h => hlen h.1.1
    rintro ⟨⟩

theorem sampleCount_eq (args : DemoArgs) (file : ByteString) :
    sampleCount args file =
      ((firstSamples args.samples (readWindows [] [] (file.drop 64))).take 50).length := by
  have hempty : ([] : List Triple).length < 500 := by decide
  have hwindows := length_readWindows hempty [] (file.drop 64)
  rw [length_triples, List.length_drop, List.length_nil, List.length_nil, Nat.zero_add,
    Nat.zero_add] at hwindows
  rw [sampleCount, List.length_take, length_firstSamples args.samples (readWindows _ _ _), hwindows]

/-- What is posted, and when. -/
theorem trainDemo_eq_posted_iff {R : Type} [Field R] (log2 : R → R) {args : DemoArgs}
    {file : ByteString} {containerId : String} {data : List (List R)} :
    trainDemo log2 args file = .posted containerId data ↔
      ((64 ≤ file.length ∧ (decodeUtf8 (slice (file.take 64) 8 32)).isSome) ∧
        sampleCount args file ≠ 0) ∧ containerId = args.containerId ++ "_test" ∧
      data = ((firstSamples args.samples (readWindows [] [] (file.drop 64))).take 50).map
        fun w => createFocusedFeatureVector log2 w 5000000 := by
  have hnil : ∀ windows : List (List Triple), windows = [] ↔ (windows.take 50).length = 0 := by
    intro windows
    rw [List.length_take, ← List.length_eq_zero_iff]
    omega
  rw [trainDemo, sampleCount_eq, ne_eq, ← hnil]
  by_cases hread : 64 ≤ file.length ∧ (decodeUtf8 (slice (file.take 64) 8 32)).isSome
  · simp only [parseDumpFile_eq_ok_iff.2 ⟨hread, rfl⟩, List.map_eq_nil_iff, ← List.map_take]
    split_ifs with hempty
    · exact iff_of_false (fun h => nomatch h) fun h => h.1.2 hempty
    · simp only [DemoEnd.posted.injEq, hread, hempty, and_self, not_false_eq_true, true_and,
        eq_comm]
  · have herror : ∀ windows, parseDumpFile file ≠ .ok windows :=
      fun windows h => hread (parseDumpFile_eq_ok_iff.1 h).1
    refine iff_of_false (fun h => ?_) fun h => hread h.1.1
    cases hparse : parseDumpFile file with
    | error e =>
        rw [hparse] at h
        cases h
    | ok windows => exact herror windows hparse

/-! ## The other models -/

theorem modelPath_test_ne (containerId : String) :
    modelPath containerId ≠ modelPath (containerId ++ "_test") := by
  intro heq
  have hlength := congrArg (fun s => s.toList.length) heq
  simp [modelPath] at hlength

section Service

variable {F R : Type} [Zero R] [LT R] [DecidableLT R]
variable (sk : Sklearn (List R) F R) (anomalyThreshold : R) (featureVectorDim : Nat)
variable (failures : Failures F R)

/-- Two services agree on the file of a container and on the simulations. -/
structure Alike (b : String) (s s' : Service F R) : Prop where
  file : SameFile (modelPath b) s.registry s'.registry
  simulation : s.simulation = s'.simulation

theorem Alike.handle {b : String} {s s' : Service F R} (h : Alike b s s') (i : ServiceInput R) :
    Alike b (s.handle sk anomalyThreshold featureVectorDim failures i).1
      (s'.handle sk anomalyThreshold featureVectorDim failures i).1 := by
  rw [handle_fst, handle_fst, h.simulation]
  refine ⟨?_, rfl⟩
  cases forward featureVectorDim s'.simulation i with
  | none => exact h.file
  | some op => exact (h.file.apply sk anomalyThreshold op).1

/-- From then on the container gets the same answers. -/
theorem Alike.record_eq {b : String} {s s' : Service F R} (h : Alike b s s')
    (is : List (ServiceInput R)) :
    (serviceRecord sk anomalyThreshold featureVectorDim failures s is).filter
        (fun e => e.1.about b) =
      (serviceRecord sk anomalyThreshold featureVectorDim failures s' is).filter
        fun e => e.1.about b := by
  induction is generalizing s s' with
  | nil => rfl
  | cons i is ih =>
      rw [serviceRecord, outputs_cons, List.filter_append, serviceRecord, outputs_cons,
        List.filter_append]
      refine congrArg₂ (· ++ ·) ?_ (ih (h.handle sk anomalyThreshold featureVectorDim failures i))
      simp only [Service.step, List.filter_cons, List.filter_nil]
      cases habout : i.about b with
      | false => rfl
      | true =>
          have hsim : s.simulation.simulated b = s'.simulation.simulated b := by
            rw [h.simulation]
          simp only [h.file.answer_eq sk anomalyThreshold featureVectorDim failures hsim habout]

/-- A training is not noticed at other files. -/
theorem alike_trained {b c : String} (hfile : modelPath b ≠ modelPath c) (s : Service F R)
    (data : List (List R)) (now : Int) :
    Alike b s
      (s.handle sk anomalyThreshold featureVectorDim failures (.trainModel c data now)).1 := by
  rw [handle_fst]
  refine ⟨?_, rfl⟩
  have hrefl : SameFile (modelPath b) s.registry s.registry := ⟨fun _ _ => rfl, rfl⟩
  rw [forward]
  split_ifs
  · exact hrefl.applyForwarded_right sk anomalyThreshold rfl (Ne.symm hfile)
  · exact hrefl

end Service

/-! ## The request -/

section Request

variable {R : Type} [Field R] [LinearOrder R] [IsStrictOrderedRing R]
variable (log2 log : R → R) (args : DemoArgs) (file : ByteString)

/-- A request of the tool: the vectors of the first windows of the file, of at most 500 records each,
none of which the server ever scores. The service takes it from ten vectors on. Containers with
other files keep their answers, the container of the arguments among them. -/
structure DemoRequest (containerId : String) (data : List (List R)) : Prop where
  id_eq : containerId = args.containerId ++ "_test"
  vectors : ∃ windows, parseDumpFile file = .ok windows ∧ (∀ w ∈ windows, IsWindow w) ∧
    List.Forall₂ (fun w vec => FocusedFeatures log2 w 5000000 vec)
      ((firstSamples args.samples windows).take 50) data
  unscored : ∀ vec ∈ data, ∀ payload, vec ≠ Server.extract log payload
  length_eq : data.length = sampleCount args file
  accepted_iff : validateTrainingData 594 data = none ↔ 10 ≤ sampleCount args file
  file_ne : modelPath args.containerId ≠ modelPath containerId
  unnoticed : ∀ {F : Type} (sk : Sklearn (List R) F R) (anomalyThreshold : R)
    (failures : Failures F R) (s : Service F R) (now : Int) (b : String)
    (is : List (ServiceInput R)), modelPath b ≠ modelPath containerId →
      (serviceRecord sk anomalyThreshold 594 failures
          (s.handle sk anomalyThreshold 594 failures
            (.trainModel containerId data now)).1 is).filter
            (fun e => e.1.about b) =
        (serviceRecord sk anomalyThreshold 594 failures s is).filter fun e => e.1.about b

/-- The tool posts a request exactly if the file has a header with an id in UTF-8 and its arguments
leave some window, and the request is as it should be. -/
theorem demo_training :
    ((∃ containerId data, trainDemo log2 args file = .posted containerId data) ↔
        (64 ≤ file.length ∧ (decodeUtf8 (slice (file.take 64) 8 32)).isSome) ∧
          sampleCount args file ≠ 0) ∧
      ∀ containerId data, trainDemo log2 args file = .posted containerId data →
        DemoRequest log2 log args file containerId data := by
  refine ⟨⟨fun h => ?_, fun h => ?_⟩, fun containerId data h => ?_⟩
  · obtain ⟨_, _, hposted⟩ := h
    exact ((trainDemo_eq_posted_iff log2).1 hposted).1
  · exact ⟨_, _, (trainDemo_eq_posted_iff log2).2 ⟨h, rfl, rfl⟩⟩
  obtain ⟨⟨hread, -⟩, rfl, rfl⟩ := (trainDemo_eq_posted_iff log2).1 h
  have hwindows : ∀ w ∈ readWindows [] [] (file.drop 64), IsWindow w := fun w hw =>
    isWindow_of_mem_readWindows (by decide) (fun _ h => absurd h List.not_mem_nil) _ hw
  have hwindow : ∀ w ∈ (firstSamples args.samples (readWindows [] [] (file.drop 64))).take 50,
      w ≠ [] := fun w hw =>
    List.ne_nil_of_length_pos (hwindows w (mem_of_mem_firstSamples (List.mem_of_mem_take hw))).1
  have hlength : (((firstSamples args.samples (readWindows [] [] (file.drop 64))).take 50).map
      fun w => createFocusedFeatureVector log2 w 5000000).length = sampleCount args file := by
    rw [List.length_map, sampleCount_eq]
  refine ⟨rfl, ⟨_, parseDumpFile_eq_ok_iff.2 ⟨hread, rfl⟩, hwindows, ?_⟩, fun vec hvec => ?_,
    hlength, ?_, modelPath_test_ne _, fun sk anomalyThreshold failures s now b is hb => ?_⟩
  · rw [List.forall₂_map_right_iff, List.forall₂_same]
    exact fun w hw => focusedFeatures_create log2 (hwindow w hw) 5000000
  · obtain ⟨w, hw, rfl⟩ := List.mem_map.1 hvec
    exact focused_ne_extract log2 log (hwindow w hw)
  · rw [validateTrainingData_eq_none, hlength]
    refine and_iff_left fun vec hvec => ?_
    obtain ⟨w, hw, rfl⟩ := List.mem_map.1 hvec
    exact (focusedFeatures_create log2 (hwindow w hw) 5000000).length_eq
  · have halike := alike_trained sk anomalyThreshold 594 failures hb s
      (((firstSamples args.samples (readWindows [] [] (file.drop 64))).take 50).map
        fun w => createFocusedFeatureVector log2 w 5000000) now
    exact (halike.record_eq sk anomalyThreshold 594 failures is).symm

end Request

/-- A header and 5000 records, all of zeros. -/
def zeroDump : ByteString := List.replicate (64 + 16 * 5000) 0

/-- Ten windows are posted and accepted, and the container itself is still without a model. -/
theorem demo_training_zeroDump :
    ∃ data, trainDemo (fun x : ℚ => x) { containerId := "web" } zeroDump =
        .posted "web_test" data ∧ validateTrainingData 594 data = none ∧
      serviceRecord rememberingForest (-65 / 100) 594 silentFailures
          ((Service.start Table.empty).handle rememberingForest (-65 / 100) 594 silentFailures
            (.trainModel "web_test" data 0)).1 [.getModelMeta "web"] =
        [(.getModelMeta "web", .ok (.model (untrainedMeta "web")))] := by
  have hcount : sampleCount { containerId := "web" } zeroDump = 10 := by
    rw [sampleCount, zeroDump, List.length_replicate]
    decide
  have hheader : (decodeUtf8 (slice (zeroDump.take 64) 8 32)).isSome := by
    rw [zeroDump, List.take_replicate]
    decide +kernel
  have hlong : 64 ≤ zeroDump.length := by
    rw [zeroDump, List.length_replicate]
    decide
  obtain ⟨hposted, hrequest⟩ :=
    demo_training (fun x : ℚ => x) (fun x => x) { containerId := "web" } zeroDump
  obtain ⟨containerId, data, h⟩ := hposted.2 ⟨⟨hlong, hheader⟩, by rw [hcount]; decide⟩
  have hr := hrequest containerId data h
  obtain rfl : containerId = "web_test" := hr.id_eq
  refine ⟨data, h, hr.accepted_iff.2 (by rw [hcount]), ?_⟩
  have hsame := hr.unnoticed rememberingForest (-65 / 100) silentFailures
    (Service.start Table.empty) 0
    "web" [.getModelMeta "web"] hr.file_ne
  exact hsame

end DeepKernel.Ml.Demo
