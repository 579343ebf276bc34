import Mathlib.Tactic

/-!
# Runs of a step function with outputs

A program that reacts to inputs is a step function `σ → ι → σ × List ω`. `finalState` and
`outputs` iterate it over a list of inputs. A property of every run is proved from what one step
preserves (`finalState_invariant`) or does not emit (`filterMap_outputs_eq_nil`). A property that
not every step keeps is characterised by the steps that do (`forall_prefix_iff`).
-/

set_option autoImplicit false

namespace DeepKernel.Lib

universe u v w

variable {σ : Type u} {ι : Type v} {ω : Type w} (step : σ → ι → σ × List ω)

/-- The state after a list of inputs. -/
def finalState (s : σ) : List ι → σ
  | [] => s
  | i :: is => finalState (step s i).1 is

/-- Everything emitted on the way through a list of inputs. -/
def outputs (s : σ) : List ι → List ω
  | [] => []
  | i :: is => (step s i).2 ++ outputs (step s i).1 is

@[simp] theorem finalState_nil (s : σ) : finalState step s [] = s := rfl

@[simp] theorem finalState_cons (s : σ) (i : ι) (is : List ι) :
    finalState step s (i :: is) = finalState step (step s i).1 is := rfl

@[simp] theorem outputs_nil (s : σ) : outputs step s [] = [] := rfl

@[simp] theorem outputs_cons (s : σ) (i : ι) (is : List ι) :
    outputs step s (i :: is) = (step s i).2 ++ outputs step (step s i).1 is := rfl

theorem finalState_append (s : σ) (is js : List ι) :
    finalState step s (is ++ js) = finalState step (finalState step s is) js := by
  induction is generalizing s with
  | nil => rfl
  | cons i is ih => exact ih (step s i).1

theorem outputs_append (s : σ) (is js : List ι) :
    outputs step s (is ++ js) =
      outputs step s is ++ outputs step (finalState step s is) js := by
  induction is generalizing s with
  | nil => rfl
  | cons i is ih =>
      rw [List.cons_append, outputs_cons, outputs_cons, finalState_cons, ih, List.append_assoc]

theorem finalState_concat (s : σ) (is : List ι) (i : ι) :
    finalState step s (is ++ [i]) = (step (finalState step s is) i).1 := by
  rw [finalState_append]
  rfl

theorem outputs_concat (s : σ) (is : List ι) (i : ι) :
    outputs step s (is ++ [i]) = outputs step s is ++ (step (finalState step s is) i).2 := by
  rw [outputs_append]
  simp

variable {step}

/-- What every step on an admitted input preserves holds after every run on such inputs. -/
theorem finalState_invariant {I : σ → Prop} {P : ι → Prop}
    (hstep : ∀ s i, P i → I s → I (step s i).1) {s : σ} (hs : I s) {is : List ι}
    (his : ∀ i ∈ is, P i) : I (finalState step s is) := by
  induction is generalizing s with
  | nil => exact hs
  | cons i is ih =>
      exact ih (hstep s i (his i List.mem_cons_self) hs)
        fun j hj => his j (List.mem_cons_of_mem _ hj)

/-- What does not hold before a run and holds after it was made true by one of its steps. -/
theorem exists_step_of_finalState {Q : σ → Prop} {s : σ} (hs : ¬ Q s) {is : List ι}
    (hrun : Q (finalState step s is)) :
    ∃ pre i post, is = pre ++ i :: post ∧ ¬ Q (finalState step s pre) ∧
      Q (step (finalState step s pre) i).1 := by
  induction is generalizing s with
  | nil => exact absurd hrun hs
  | cons i is ih =>
      by_cases hnext : Q (step s i).1
      · exact ⟨[], i, is, rfl, hs, hnext⟩
      · obtain ⟨pre, j, post, rfl, hbefore, hafter⟩ := ih hnext hrun
        exact ⟨i :: pre, j, post, rfl, hbefore, hafter⟩

/-- If, in states that satisfy an invariant, no step on an admitted input emits an item that `f`
keeps, no run does. -/
theorem filterMap_outputs_eq_nil {β : Type*} {I : σ → Prop} {P : ι → Prop} {f : ω → Option β}
    (hstep : ∀ s i, P i → I s → I (step s i).1 ∧ (step s i).2.filterMap f = []) {s : σ} (hs : I s)
    {is : List ι} (his : ∀ i ∈ is, P i) : (outputs step s is).filterMap f = [] := by
  induction is generalizing s with
  | nil => rfl
  | cons i is ih =>
      obtain ⟨hI, hout⟩ := hstep s i (his i List.mem_cons_self) hs
      rw [outputs_cons, List.filterMap_append, hout, List.nil_append]
      exact ih hI fun j hj => his j (List.mem_cons_of_mem _ hj)

/-- If steps on an admitted input from related states lead to related states and emit the same items
as far as `f` keeps them, so do runs. -/
theorem filterMap_outputs_congr {β : Type*} {Rel : σ → σ → Prop} {P : ι → Prop} {f : ω → Option β}
    (hstep : ∀ s s' i, P i → Rel s s' →
      Rel (step s i).1 (step s' i).1 ∧ (step s i).2.filterMap f = (step s' i).2.filterMap f)
    {s s' : σ} (hs : Rel s s') {is : List ι} (his : ∀ i ∈ is, P i) :
    (outputs step s is).filterMap f = (outputs step s' is).filterMap f := by
  induction is generalizing s s' with
  | nil => rfl
  | cons i is ih =>
      obtain ⟨hRel, hout⟩ := hstep s s' i (his i List.mem_cons_self) hs
      rw [outputs_cons, outputs_cons, List.filterMap_append, List.filterMap_append, hout,
        ih hRel fun j hj => his j (List.mem_cons_of_mem _ hj)]

/-- Two machines on the same inputs: if steps from related states lead to related states and emit the
same items as far as `f` and `f'` keep them, so do runs. -/
theorem related_runs {σ' ω' β : Type*} {step' : σ' → ι → σ' × List ω'} {Q : σ → σ' → Prop}
    {f : ω → Option β} {f' : ω' → Option β}
    (hstep : ∀ s s' i, Q s s' →
      Q (step s i).1 (step' s' i).1 ∧ (step s i).2.filterMap f = (step' s' i).2.filterMap f')
    {s : σ} {s' : σ'} (hs : Q s s') (is : List ι) :
    Q (finalState step s is) (finalState step' s' is) ∧
      (outputs step s is).filterMap f = (outputs step' s' is).filterMap f' := by
  induction is generalizing s s' with
  | nil => exact ⟨hs, rfl⟩
  | cons i is ih =>
      obtain ⟨hnext, hout⟩ := hstep s s' i hs
      obtain ⟨hfinal, hrest⟩ := ih hnext
      refine ⟨hfinal, ?_⟩
      rw [outputs_cons, outputs_cons, List.filterMap_append, List.filterMap_append, hout, hrest]

/-- If, in states that satisfy an invariant, what a step on an admitted input emits depends on the
input alone, a run emits it input by input. -/
theorem outputs_eq_map {I : σ → Prop} {P : ι → Prop} {f : ι → ω}
    (hstep : ∀ s i, P i → I s → I (step s i).1 ∧ (step s i).2 = [f i]) {s : σ} (hs : I s)
    {is : List ι} (his : ∀ i ∈ is, P i) : outputs step s is = is.map f := by
  induction is generalizing s with
  | nil => rfl
  | cons i is ih =>
      obtain ⟨hI, hout⟩ := hstep s i (his i List.mem_cons_self) hs
      rw [outputs_cons, hout, ih hI fun j hj => his j (List.mem_cons_of_mem _ hj)]
      rfl

/-- If every step emits one item, a prefix of the output comes from a prefix of the input. -/
theorem exists_of_concat_prefix_outputs (hstep : ∀ s i, ∃ o, (step s i).2 = [o]) {s : σ}
    {is : List ι} {pre : List ω} {o : ω} (h : pre ++ [o] <+: outputs step s is) :
    ∃ js i, js ++ [i] <+: is ∧ pre = outputs step s js ∧
      (step (finalState step s js) i).2 = [o] := by
  induction is generalizing s pre with
  | nil => simp at h
  | cons i is ih =>
      obtain ⟨o', ho'⟩ := hstep s i
      rw [outputs_cons, ho'] at h
      cases pre with
      | nil =>
          obtain ⟨rfl, -⟩ := List.cons_prefix_cons.1 h
          exact ⟨[], i, List.prefix_append [i] is, rfl, ho'⟩
      | cons b pre =>
          obtain ⟨rfl, hrest⟩ := List.cons_prefix_cons.1 h
          obtain ⟨js, j, hinit, rfl, hlast⟩ := ih hrest
          refine ⟨i :: js, j, List.cons_prefix_cons.2 ⟨rfl, hinit⟩, ?_, hlast⟩
          rw [outputs_cons, ho']
          rfl

/-! ## Every state of a run

For a step function without outputs a run is a left fold. -/

section Prefixes

variable {next : σ → ι → σ}

/-- What every admitted step preserves holds after every run. -/
theorem foldl_invariant {I : σ → Prop} {P : ι → Prop}
    (hstep : ∀ s i, P i → I s → I (next s i)) {s : σ} (hs : I s) {is : List ι}
    (his : ∀ i ∈ is, P i) : I (is.foldl next s) := by
  induction is generalizing s with
  | nil => exact hs
  | cons i is ih =>
      exact ih (hstep s i (his i List.mem_cons_self) hs)
        fun j hj => his j (List.mem_cons_of_mem _ hj)

/-- Two occurrences in one list: one comes before the other. -/
theorem mem_of_append_cons_eq {pre post pre' post' : List ι} {a b : ι}
    (h : pre ++ a :: post = pre' ++ b :: post') (hne : a ≠ b) :
    a ∈ post' ∨ ∃ between rest, post = between ++ b :: rest ∧ pre' = pre ++ a :: between := by
  -- either of the two elements stands before the other
  rcases List.append_eq_append_iff.1 h with ⟨l, hpre', hl⟩ | ⟨l, hpre, hl⟩
  · cases l with
    | nil =>
        simp only [List.nil_append, List.cons.injEq] at hl
        exact absurd hl.1 hne
    | cons x l =>
        obtain ⟨rfl, hpost⟩ := List.cons.injEq .. ▸ hl
        exact Or.inr ⟨l, post', hpost, hpre'⟩
  · cases l with
    | nil =>
        simp only [List.nil_append, List.cons.injEq] at hl
        exact absurd hl.1.symm hne
    | cons x l =>
        left
        obtain ⟨-, hpost⟩ := List.cons.injEq .. ▸ hl
        rw [hpost]
        simp

/-- The steps of a run are its first step and those of the rest. -/
theorem forall_concat_prefix_cons {P : List ι → ι → Prop} {a : ι} {is : List ι} :
    (∀ pre i, pre ++ [i] <+: a :: is → P pre i) ↔
      P [] a ∧ ∀ pre i, pre ++ [i] <+: is → P (a :: pre) i := by
  constructor
  · intro h
    refine ⟨h [] a (List.prefix_append [a] is), fun pre i hpre => ?_⟩
    exact h (a :: pre) i (List.cons_prefix_cons.2 ⟨rfl, hpre⟩)
  · rintro ⟨ha, his⟩ pre i hpre
    cases pre with
    | nil =>
        obtain rfl : i = a := (List.cons_prefix_cons.1 hpre).1
        exact ha
    | cons b pre =>
        obtain ⟨rfl, hrest⟩ := List.cons_prefix_cons.1 hpre
        exact his pre i hrest

/-- If one step keeps a property exactly when it is safe, then a run has the property in all of its
states exactly when all of its steps are safe. `I` is an invariant of every step. -/
theorem forall_prefix_iff {I Q : σ → Prop} {P : ι → Prop} {Safe : σ → ι → Prop}
    (hI : ∀ s i, P i → I s → I (next s i))
    (hstep : ∀ s i, P i → I s → Q s → (Q (next s i) ↔ Safe s i)) {s : σ} (hs : I s) (hq : Q s)
    {is : List ι} (his : ∀ i ∈ is, P i) :
    (∀ pre, pre <+: is → Q (pre.foldl next s)) ↔
      ∀ pre i, pre ++ [i] <+: is → Safe (pre.foldl next s) i := by
  have hmem : ∀ {pre : List ι} {i : ι}, pre ++ [i] <+: is →
      (∀ j ∈ pre, P j) ∧ P i := by
    intro pre i hpre
    have hsub := hpre.subset
    exact ⟨fun j hj => his j (hsub (List.mem_append_left _ hj)),
      his i (hsub (List.mem_append_right _ List.mem_cons_self))⟩
  constructor
  · intro h pre i hpre
    obtain ⟨hpreP, hi⟩ := hmem hpre
    have hnext := h (pre ++ [i]) hpre
    rw [List.foldl_concat] at hnext
    exact (hstep _ i hi (foldl_invariant hI hs hpreP)
      (h pre ((List.prefix_append pre [i]).trans hpre))).1 hnext
  · intro h pre
    -- By induction on the prefix from its end: its last step is safe.
    induction pre using List.reverseRecOn with
    | nil => exact fun _ => hq
    | append_singleton pre i ih =>
        intro hpre
        obtain ⟨hpreP, hi⟩ := hmem hpre
        rw [List.foldl_concat]
        exact (hstep _ i hi (foldl_invariant hI hs hpreP)
          (ih ((List.prefix_append pre [i]).trans hpre))).2 (h pre i hpre)

variable (next)

theorem forall_steps_nil (Safe : σ → ι → Prop) {s : σ} :
    ∀ pre i, pre ++ [i] <+: ([] : List ι) → Safe (pre.foldl next s) i := by
  intro pre i hpre
  simp at hpre

/-- All steps of a run are safe when the first one and those of the rest are. -/
theorem forall_steps_cons (Safe : σ → ι → Prop) {s : σ} {a : ι} {is : List ι} (ha : Safe s a)
    (his : ∀ pre i, pre ++ [i] <+: is → Safe (pre.foldl next (next s a)) i) :
    ∀ pre i, pre ++ [i] <+: a :: is → Safe (pre.foldl next s) i :=
  forall_concat_prefix_cons.2 ⟨ha, his⟩

end Prefixes

/-! ## Loops that remember the previous input -/

section Loop

variable {loop : Option ι → σ → List ι → σ} {body : Option ι → σ → ι → σ}
  (hnil : ∀ prev s, loop prev s [] = s)
  (hcons : ∀ prev s i is, loop prev s (i :: is) = loop (some i) (body prev s i) is)

include hnil hcons

/-- A counter that each input of a class increments. -/
theorem count_loop {count : σ → Nat} {p : ι → Bool}
    (hbody : ∀ prev s i, count (body prev s i) = count s + if p i then 1 else 0)
    (prev : Option ι) (s : σ) (is : List ι) : count (loop prev s is) = count s + is.countP p := by
  induction is generalizing prev s with
  | nil => rw [hnil, List.countP_nil, Nat.add_zero]
  | cons i is ih =>
      rw [hcons, ih, hbody, List.countP_cons]
      omega

/-- A value that each input sets. -/
theorem last_loop {τ : Type*} {value : σ → τ} {f : ι → τ}
    (hbody : ∀ prev s i, value (body prev s i) = f i) {is : List ι} {last : ι}
    (hlast : is.getLast? = some last) (prev : Option ι) (s : σ) :
    value (loop prev s is) = f last := by
  induction is generalizing prev s with
  | nil => cases hlast
  | cons i is ih =>
      cases is with
      | nil =>
          rw [List.getLast?_singleton, Option.some.injEq] at hlast
          rw [hcons, hnil, hbody, hlast]
      | cons j is =>
          rw [List.getLast?_cons_cons] at hlast
          rw [hcons]
          exact ih hlast _ _

end Loop

end DeepKernel.Lib
