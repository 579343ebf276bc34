import Mathlib.Data.List.Basic

/-!
# Path patterns

A pattern of a router is a list of segments, each a text or a parameter. It is matched against the
pieces of a path between its separators, and a match gives the pieces in the place of the
parameters. Matching and filling in are inverse (`matchPath_eq_some_iff`), so a piece that a
parameter stands for is never empty and has no separator.
-/

set_option autoImplicit false

namespace DeepKernel.Lib

variable {α : Type}

/-- A segment of a pattern. -/
inductive Segment (α : Type)
  | text (t : List α)
  | parameter

/-- The number of parameters. -/
def parameters : List (Segment α) → Nat
  | [] => 0
  | .text _ :: ps => parameters ps
  | .parameter :: ps => parameters ps + 1

/-- The pieces of a path with the arguments in the place of the parameters. -/
def fill : List (Segment α) → List (List α) → List (List α)
  | .text t :: ps, args => t :: fill ps args
  | .parameter :: ps, arg :: args => arg :: fill ps args
  | _, _ => []

@[simp] theorem fill_nil (args : List (List α)) : fill [] args = [] := by
  cases args <;> rfl

theorem length_fill {ps : List (Segment α)} {args : List (List α)}
    (h : args.length = parameters ps) : (fill ps args).length = ps.length := by
  induction ps generalizing args with
  | nil =>
      rw [fill_nil]
      rfl
  | cons p ps ih =>
      cases p with
      | text t => exact congrArg (· + 1) (ih h)
      | parameter =>
          cases args with
          | nil => cases h
          | cons arg args => exact congrArg (· + 1) (ih (Nat.succ.inj h))

theorem mem_fill {ps : List (Segment α)} {args : List (List α)} {x : List α}
    (h : x ∈ fill ps args) : .text x ∈ ps ∨ x ∈ args := by
  induction ps generalizing args with
  | nil => simp at h
  | cons p ps ih =>
      cases p with
      | text t =>
          rcases List.mem_cons.1 h with rfl | h
          · exact Or.inl List.mem_cons_self
          · exact (ih h).imp_left (List.mem_cons_of_mem _)
      | parameter =>
          cases args with
          | nil => cases h
          | cons arg args =>
              rcases List.mem_cons.1 h with rfl | h
              · exact Or.inr List.mem_cons_self
              · exact (ih h).imp (List.mem_cons_of_mem _) (List.mem_cons_of_mem _)

/-- Every argument is a piece. -/
theorem mem_fill_of_mem {ps : List (Segment α)} {args : List (List α)}
    (hlength : args.length = parameters ps) {arg : List α} (h : arg ∈ args) :
    arg ∈ fill ps args := by
  induction ps generalizing args with
  | nil =>
      rw [List.length_eq_zero_iff.1 hlength] at h
      cases h
  | cons p ps ih =>
      cases p with
      | text t => exact List.mem_cons_of_mem _ (ih hlength h)
      | parameter =>
          cases args with
          | nil => cases h
          | cons first args =>
              rcases List.mem_cons.1 h with rfl | h
              · exact List.mem_cons_self
              · exact List.mem_cons_of_mem _ (ih (Nat.succ.inj hlength) h)

section Match

variable [DecidableEq α]

/-- The arguments with which the pieces match the segments. -/
def matchSegments : List (Segment α) → List (List α) → Option (List (List α))
  | [], [] => some []
  | .text t :: ps, x :: xs => if t = x then matchSegments ps xs else none
  | .parameter :: ps, x :: xs =>
      -- the empty piece is no argument
      if x = [] then none else (matchSegments ps xs).map fun args => x :: args
  | _, _ => none

/-- The arguments with which a path matches a pattern. -/
def matchPath (sep : α) (ps : List (Segment α)) (path : List α) : Option (List (List α)) :=
  matchSegments ps (path.splitOn sep)

theorem matchSegments_eq_some_iff {ps : List (Segment α)} {xs args : List (List α)} :
    matchSegments ps xs = some args ↔
      args.length = parameters ps ∧ (∀ arg ∈ args, arg ≠ []) ∧ xs = fill ps args := by
  induction ps generalizing xs args with
  | nil =>
      rw [parameters, List.length_eq_zero_iff, fill_nil]
      cases xs with
      | nil => simp +contextual [matchSegments, eq_comm]
      | cons x xs => simp [matchSegments]
  | cons p ps ih =>
      cases p with
      | text t =>
          rw [parameters, fill]
          cases xs with
          | nil => simp [matchSegments]
          | cons x xs =>
              rw [matchSegments, List.cons.injEq]
              split_ifs with h
              · rw [ih]
                simp [h]
              · simp [Ne.symm h]
      | parameter =>
          rw [parameters]
          cases xs with
          | nil => cases args <;> simp [matchSegments, fill]
          | cons x xs =>
              rw [matchSegments]
              split_ifs with h
              · refine iff_of_false (fun h' => nomatch h') fun h' => ?_
                cases args with
                | nil => cases h'.1
                | cons arg args =>
                    obtain ⟨-, hne, hfill⟩ := h'
                    exact hne arg List.mem_cons_self ((List.cons.inj hfill).1 ▸ h)
              · rw [Option.map_eq_some_iff]
                constructor
                · rintro ⟨args, hargs, rfl⟩
                  obtain ⟨hlength, hne, rfl⟩ := ih.1 hargs
                  exact ⟨by rw [List.length_cons, hlength], List.forall_mem_cons.2 ⟨h, hne⟩, rfl⟩
                · rintro ⟨hlength, hne, hfill⟩
                  cases args with
                  | nil => cases hlength
                  | cons arg args =>
                      obtain ⟨rfl, rfl⟩ := List.cons.inj hfill
                      exact ⟨args, ih.2 ⟨Nat.succ.inj hlength, (List.forall_mem_cons.1 hne).2, rfl⟩,
                        rfl⟩

theorem notMem_of_mem_splitOn {sep : α} {path x : List α} (h : x ∈ path.splitOn sep) :
    sep ∉ x := by
  induction path generalizing x with
  | nil => simp_all
  | cons b path ih =>
      rw [List.splitOn_cons_eq_if_modifyHead] at h
      split_ifs at h with hb
      · rcases List.mem_cons.1 h with rfl | h
        · exact List.not_mem_nil
        · exact ih h
      · obtain ⟨piece, pieces, hsplit⟩ :=
          List.exists_cons_of_ne_nil (List.splitOn_ne_nil sep path)
        rw [hsplit, List.modifyHead_cons] at h
        rcases List.mem_cons.1 h with rfl | h
        · -- the first piece gets the character in front
          have hpiece := ih (hsplit ▸ List.mem_cons_self)
          rw [List.mem_cons, not_or]
          exact ⟨fun heq => hb (by simp [heq]), hpiece⟩
        · exact ih (hsplit ▸ List.mem_cons_of_mem _ h)

/-- A path matches a pattern with some arguments exactly if it is the pattern with these arguments
filled in, none of which is empty or has a separator. -/
theorem matchPath_eq_some_iff {sep : α} {ps : List (Segment α)} (hps : ps ≠ [])
    (htext : ∀ t, .text t ∈ ps → sep ∉ t) {path : List α} {args : List (List α)} :
    matchPath sep ps path = some args ↔
      args.length = parameters ps ∧ (∀ arg ∈ args, arg ≠ [] ∧ sep ∉ arg) ∧
        path = [sep].intercalate (fill ps args) := by
  rw [matchPath, matchSegments_eq_some_iff]
  constructor
  · rintro ⟨hlength, hne, hsplit⟩
    refine ⟨hlength, fun arg harg => ⟨hne arg harg, ?_⟩, ?_⟩
    · exact notMem_of_mem_splitOn (hsplit ▸ mem_fill_of_mem hlength harg)
    · rw [← hsplit, List.intercalate_splitOn]
  · rintro ⟨hlength, hargs, rfl⟩
    refine ⟨hlength, fun arg harg => (hargs arg harg).1, ?_⟩
    refine List.splitOn_intercalate sep (fun x hx => ?_) ?_
    · rcases mem_fill hx with hx | hx
      · exact htext x hx
      · exact (hargs x hx).2
    · intro hnil
      have hzero := length_fill hlength
      rw [hnil, List.length_nil] at hzero
      exact hps (List.length_eq_zero_iff.1 hzero.symm)

end Match

end DeepKernel.Lib
