import Mathlib.Data.List.Infix
import Mathlib.Data.List.TakeWhile

/-!
# Patterns and leftmost search

The part of ECMAScript regular expressions in which a pattern is a sequence of classes and of
repetitions of one class, and a group is one repetition. Matching tries the lengths of a repetition
in the order of its quantifier, longest first or shortest first, and backtracks; a search takes the
first position at which there is a match. The result of a match is the list of its groups.
-/

set_option autoImplicit false

namespace DeepKernel.Lib

universe u

variable {α : Type u}

/-- One element of a pattern: one character of a class, or a repetition of a class between `min` and
`max` times, which may be lazy and may be a group. -/
inductive Item (α : Type u)
  | one (p : α → Bool)
  | run (p : α → Bool) (min : Nat) (max : Option Nat) (lazy group : Bool)

abbrev Pattern (α : Type u) := List (Item α)

/-- The longest repetition that the text allows. -/
def longestRun (p : α → Bool) (max : Option Nat) (s : List α) : Nat :=
  match max with
  | some m => Nat.min m (s.takeWhile p).length
  | none => (s.takeWhile p).length

/-- The lengths of a repetition, in the order in which they are tried. -/
def runLengths (p : α → Bool) (min : Nat) (max : Option Nat) (lazy : Bool) (s : List α) :
    List Nat :=
  let lengths := List.range' min (longestRun p max s + 1 - min)
  if lazy then lengths else lengths.reverse

/-- The groups of a match at the beginning of the text. -/
def matchHere : Pattern α → List α → Option (List (List α))
  | [], _ => some []
  | .one _ :: _, [] => none
  | .one p :: ps, x :: s => if p x then matchHere ps s else none
  | .run p min max lazy group :: ps, s =>
      (runLengths p min max lazy s).findSome? fun k =>
        (matchHere ps (s.drop k)).map fun groups => if group then s.take k :: groups else groups

/-- The groups of the first match in the text. -/
def search (ps : Pattern α) : List α → Option (List (List α))
  | [] => matchHere ps []
  | x :: s =>
      match matchHere ps (x :: s) with
      | some groups => some groups
      | none => search ps s

/-! ## One item -/

@[simp] theorem matchHere_nil (s : List α) : matchHere [] s = some [] := by
  rw [matchHere]

theorem matchHere_one_of_pos {p : α → Bool} {x : α} (h : p x = true) (ps : Pattern α)
    (s : List α) : matchHere (.one p :: ps) (x :: s) = matchHere ps s := by
  rw [matchHere, if_pos h]

theorem matchHere_one_of_neg {p : α → Bool} {x : α} (h : p x = false) (ps : Pattern α)
    (s : List α) : matchHere (.one p :: ps) (x :: s) = none := by
  rw [matchHere, if_neg (by rw [h]; exact Bool.false_ne_true)]

theorem mem_runLengths {p : α → Bool} {min : Nat} {max : Option Nat} {lazy : Bool} {s : List α}
    {k : Nat} : k ∈ runLengths p min max lazy s ↔ min ≤ k ∧ k ≤ longestRun p max s := by
  have hrange : k ∈ List.range' min (longestRun p max s + 1 - min) ↔
      min ≤ k ∧ k ≤ longestRun p max s := by
    rw [List.mem_range'_1]
    omega
  rw [runLengths]
  cases lazy with
  | true => exact hrange
  | false => exact List.mem_reverse.trans hrange

theorem longestRun_le_takeWhile (p : α → Bool) (max : Option Nat) (s : List α) :
    longestRun p max s ≤ (s.takeWhile p).length := by
  cases max with
  | none => exact le_refl _
  | some m => exact Nat.min_le_right _ _

theorem longestRun_le_max (p : α → Bool) (m : Nat) (s : List α) :
    longestRun p (some m) s ≤ m := Nat.min_le_left _ _

/-- A repetition takes characters of its class only. -/
theorem forall_mem_take_of_le {p : α → Bool} {max : Option Nat} {s : List α} {k : Nat}
    (hk : k ≤ longestRun p max s) : ∀ x ∈ s.take k, p x = true := by
  intro x hx
  have hle := hk.trans (longestRun_le_takeWhile p max s)
  obtain ⟨rest, hrest⟩ := List.takeWhile_prefix (l := s) p
  rw [← hrest, List.take_append_of_le_length hle] at hx
  exact List.mem_takeWhile_imp (List.mem_of_mem_take hx)

/-- What a match of a repetition takes, and the match of the rest. -/
theorem exists_of_matchHere {p : α → Bool} {min : Nat} {max : Option Nat} {lazy group : Bool}
    {ps : Pattern α} {s : List α} {groups : List (List α)}
    (h : matchHere (.run p min max lazy group :: ps) s = some groups) :
    ∃ w rest groups', s = w ++ rest ∧ min ≤ w.length ∧ (∀ m, max = some m → w.length ≤ m) ∧
      (∀ x ∈ w, p x = true) ∧ matchHere ps rest = some groups' ∧
      groups = if group then w :: groups' else groups' := by
  rw [matchHere] at h
  obtain ⟨k, hk, hrest⟩ := List.exists_of_findSome?_eq_some h
  obtain ⟨hmin, hmax⟩ := mem_runLengths.1 hk
  obtain ⟨groups', hmatch, hgroups⟩ := Option.map_eq_some_iff.1 hrest
  have hle := hmax.trans (longestRun_le_takeWhile p max s)
  -- the run is the first `k` elements, and there are so many
  have hlen : (s.take k).length = k := by
    rw [List.length_take]
    exact Nat.min_eq_left (hle.trans (List.takeWhile_prefix p).length_le)
  refine ⟨s.take k, s.drop k, groups', (List.take_append_drop k s).symm, ?_, ?_,
    forall_mem_take_of_le hmax, hmatch, hgroups.symm⟩
  · rw [hlen]
    exact hmin
  · rintro m rfl
    rw [hlen]
    exact hmax.trans (longestRun_le_max p m s)

/-! ## Groups -/

/-- The groups have the lengths and the characters that the pattern asks for. -/
def FitsGroups : Pattern α → List (List α) → Prop
  | [], groups => groups = []
  | .one _ :: ps, groups => FitsGroups ps groups
  | .run _ _ _ _ false :: ps, groups => FitsGroups ps groups
  | .run p min max _ true :: ps, groups =>
      ∃ g rest, groups = g :: rest ∧ min ≤ g.length ∧ (∀ m, max = some m → g.length ≤ m) ∧
        (∀ x ∈ g, p x = true) ∧ FitsGroups ps rest

theorem fitsGroups_of_matchHere {ps : Pattern α} {s : List α} {groups : List (List α)}
    (h : matchHere ps s = some groups) : FitsGroups ps groups := by
  induction ps generalizing s groups with
  | nil => exact (Option.some.inj ((matchHere_nil s).symm.trans h)).symm
  | cons item ps ih =>
      cases item with
      | one p =>
          cases s with
          | nil => cases h
          | cons x s =>
              rw [matchHere] at h
              split at h
              · exact ih h
              · cases h
      | run p min max lazy group =>
          obtain ⟨w, rest, groups', -, hmin, hmax, hw, hmatch, hgroups⟩ := exists_of_matchHere h
          cases group with
          | false =>
              rw [hgroups]
              exact ih hmatch
          | true => exact ⟨w, groups', hgroups, hmin, hmax, hw, ih hmatch⟩

/-! ## Search -/

theorem search_of_match {ps : Pattern α} {s : List α} {groups : List (List α)}
    (h : matchHere ps s = some groups) : search ps s = some groups := by
  cases s with
  | nil => exact h
  | cons x s => rw [search, h]

theorem search_cons_of_none {ps : Pattern α} {x : α} {s : List α}
    (h : matchHere ps (x :: s) = none) : search ps (x :: s) = search ps s := by
  rw [search, h]

/-- A search finds a match at some position. -/
theorem exists_match_of_search {ps : Pattern α} {s : List α} {groups : List (List α)}
    (h : search ps s = some groups) : ∃ t, t <:+ s ∧ matchHere ps t = some groups := by
  induction s with
  | nil => exact ⟨[], List.suffix_refl _, h⟩
  | cons x s ih =>
      cases hm : matchHere ps (x :: s) with
      | some found =>
          rw [search_of_match hm] at h
          exact ⟨x :: s, List.suffix_refl _, hm.trans h⟩
      | none =>
          rw [search_cons_of_none hm] at h
          obtain ⟨t, ht, hmatch⟩ := ih h
          exact ⟨t, ht.trans (List.suffix_cons x s), hmatch⟩

/-- A match at some position is found, or one before it. -/
theorem exists_search_of_match {ps : Pattern α} (before : List α) {t : List α}
    {groups : List (List α)} (h : matchHere ps t = some groups) :
    ∃ found, search ps (before ++ t) = some found := by
  induction before with
  | nil => exact ⟨groups, search_of_match h⟩
  | cons x before ih =>
      cases hm : matchHere ps (x :: (before ++ t)) with
      | some found => exact ⟨found, search_of_match hm⟩
      | none =>
          rw [List.cons_append, search_cons_of_none hm]
          exact ih

/-- A search finds the leftmost match. -/
theorem search_eq_some_iff {ps : Pattern α} {s : List α} {groups : List (List α)} :
    search ps s = some groups ↔ ∃ before t, s = before ++ t ∧ matchHere ps t = some groups ∧
      ∀ before' t', s = before' ++ t' → before'.length < before.length →
        matchHere ps t' = none := by
  constructor
  · intro h
    induction s with
    | nil => exact ⟨[], [], rfl, h, fun _ _ _ hlt => absurd hlt (Nat.not_lt_zero _)⟩
    | cons x s ih =>
        cases hm : matchHere ps (x :: s) with
        | some found =>
            rw [search_of_match hm] at h
            exact ⟨[], x :: s, rfl, hm.trans h, fun _ _ _ hlt => absurd hlt (Nat.not_lt_zero _)⟩
        | none =>
            rw [search_cons_of_none hm] at h
            obtain ⟨before, t, rfl, hmatch, hleft⟩ := ih h
            refine ⟨x :: before, t, rfl, hmatch, fun before' t' heq hlt => ?_⟩
            cases before' with
            | nil =>
                rw [List.nil_append] at heq
                rw [← heq, hm]
            | cons y before' =>
                exact hleft before' t' (List.cons.inj heq).2 (Nat.lt_of_succ_lt_succ hlt)
  · rintro ⟨before, t, rfl, hmatch, hleft⟩
    induction before with
    | nil => exact search_of_match hmatch
    | cons x before ih =>
        rw [List.cons_append, search_cons_of_none
          (hleft [] (x :: (before ++ t)) rfl (Nat.succ_pos _))]
        refine ih fun before' t' heq hlt => ?_
        exact hleft (x :: before') t' (congrArg (x :: ·) heq) (Nat.succ_lt_succ hlt)

theorem fitsGroups_of_search {ps : Pattern α} {s : List α} {groups : List (List α)}
    (h : search ps s = some groups) : FitsGroups ps groups := by
  obtain ⟨t, -, hmatch⟩ := exists_match_of_search h
  exact fitsGroups_of_matchHere hmatch

/-! ## Repetitions by what they take -/

theorem le_longestRun {p : α → Bool} {max : Option Nat} {w : List α} (hw : ∀ x ∈ w, p x = true)
    (hmax : ∀ m, max = some m → w.length ≤ m) (rest : List α) :
    w.length ≤ longestRun p max (w ++ rest) := by
  have hle : w.length ≤ ((w ++ rest).takeWhile p).length := by
    rw [List.takeWhile_append_of_pos hw, List.length_append]
    exact Nat.le_add_right _ _
  cases max with
  | none => exact hle
  | some m => exact Nat.le_min.2 ⟨hmax m rfl, hle⟩

/-- A greedy group at the end of a pattern shows the shortest text that it may take. -/
theorem matchHere_group_iff {p : α → Bool} {min max : Nat} (hle : min ≤ max) {s w : List α} :
    (∃ g, matchHere [.run p min (some max) false true] s = some [g] ∧ g.take min = w) ↔
      ∃ rest, s = w ++ rest ∧ w.length = min ∧ ∀ x ∈ w, p x = true := by
  constructor
  · rintro ⟨g, hmatch, rfl⟩
    obtain ⟨g', rest, groups', rfl, hmin, -, hg, hnil, heq⟩ := exists_of_matchHere hmatch
    rw [matchHere_nil] at hnil
    obtain rfl := Option.some.inj hnil
    obtain rfl : g = g' := (List.cons.inj heq).1
    refine ⟨g.drop min ++ rest, ?_, ?_, fun x hx => hg x (List.mem_of_mem_take hx)⟩
    · rw [← List.append_assoc, List.take_append_drop]
    · rw [List.length_take, Nat.min_eq_left hmin]
  · rintro ⟨rest, rfl, rfl, hw⟩
    have hlong := le_longestRun hw
      (fun m (hm : some max = some m) => Option.some.inj hm ▸ hle) rest
    -- the longest repetition is tried first
    obtain ⟨n, hn⟩ := Nat.exists_eq_add_of_le hlong
    have hlengths : runLengths p w.length (some max) false (w ++ rest) =
        longestRun p (some max) (w ++ rest) :: (List.range' w.length n).reverse := by
      have hsucc : w.length + n + 1 - w.length = n + 1 := by omega
      rw [runLengths, hn, hsucc, List.range'_concat, Nat.one_mul]
      simp
    refine ⟨(w ++ rest).take (longestRun p (some max) (w ++ rest)), ?_, ?_⟩
    · rw [matchHere, hlengths, List.findSome?_cons, matchHere_nil]
      rfl
    · rw [List.take_take, Nat.min_eq_left hlong, List.take_left]

/-- A repetition of a fixed length. -/
theorem matchHere_run_exact {p : α → Bool} {n : Nat} {lazy group : Bool} {ps : Pattern α}
    {w : List α} (hw : ∀ x ∈ w, p x = true) (hn : w.length = n) (rest : List α) :
    matchHere (.run p n (some n) lazy group :: ps) (w ++ rest) =
      (matchHere ps rest).map fun groups => if group then w :: groups else groups := by
  subst hn
  have hrun : longestRun p (some w.length) (w ++ rest) = w.length :=
    le_antisymm (longestRun_le_max _ _ _)
      (le_longestRun hw (fun m hm => (Option.some.inj hm).le) rest)
  have hlengths : runLengths p w.length (some w.length) lazy (w ++ rest) = [w.length] := by
    rw [runLengths, hrun, Nat.add_sub_cancel_left]
    cases lazy <;> rfl
  rw [matchHere, hlengths, List.findSome?_cons, List.drop_left, List.take_left]
  cases matchHere ps rest with
  | none => rfl
  | some groups => rfl

theorem findSome?_range_eq_some {β : Type*} {f : Nat → Option β} {n : Nat} {b : β} :
    (List.range n).findSome? f = some b ↔ ∃ k < n, f k = some b ∧ ∀ j < k, f j = none := by
  have hnone : ∀ m, (List.range m).findSome? f = none ↔ ∀ j < m, f j = none := by
    intro m
    simp
  induction n with
  | zero => simp
  | succ n ih =>
      rw [List.range_succ, List.findSome?_append]
      constructor
      · intro h
        cases hn : (List.range n).findSome? f with
        | none =>
            rw [hn, Option.none_or, List.findSome?_singleton] at h
            exact ⟨n, Nat.lt_succ_self n, h, (hnone n).1 hn⟩
        | some b' =>
            rw [hn, Option.some_or] at h
            obtain ⟨k, hk, hfound⟩ := ih.1 (hn.trans h)
            exact ⟨k, Nat.lt_succ_of_lt hk, hfound⟩
      · rintro ⟨k, hk, hfound, hleft⟩
        rcases Nat.lt_succ_iff_lt_or_eq.1 hk with hk | rfl
        · rw [ih.2 ⟨k, hk, hfound, hleft⟩, Option.some_or]
        · rw [(hnone k).2 hleft, Option.none_or, List.findSome?_singleton, hfound]

/-- A lazy repetition takes the shortest text behind which the rest matches. -/
theorem matchHere_run_lazy_iff {p : α → Bool} {ps : Pattern α} {s : List α}
    {groups : List (List α)} :
    matchHere (.run p 0 none true false :: ps) s = some groups ↔
      ∃ gap t, s = gap ++ t ∧ (∀ x ∈ gap, p x = true) ∧ matchHere ps t = some groups ∧
        ∀ gap' t', s = gap' ++ t' → gap'.length < gap.length → matchHere ps t' = none := by
  have hlengths : runLengths p 0 none true s = List.range ((s.takeWhile p).length + 1) := by
    rw [runLengths, longestRun, List.range_eq_range']
    rfl
  have hmap : ∀ k, ((matchHere ps (s.drop k)).map fun groups =>
      if false = true then s.take k :: groups else groups) = matchHere ps (s.drop k) := by
    intro k
    cases matchHere ps (s.drop k) <;> rfl
  have hstep : matchHere (.run p 0 none true false :: ps) s =
      (List.range ((s.takeWhile p).length + 1)).findSome? fun k => matchHere ps (s.drop k) := by
    rw [matchHere, hlengths]
    exact congrArg (fun f => List.findSome? f _) (funext hmap)
  rw [hstep, findSome?_range_eq_some]
  constructor
  · rintro ⟨k, hk, hmatch, hleft⟩
    refine ⟨s.take k, s.drop k, (List.take_append_drop k s).symm, ?_, hmatch, ?_⟩
    · have hle : k ≤ longestRun p none s := Nat.le_of_lt_succ hk
      exact forall_mem_take_of_le hle
    · rintro gap' t' rfl hlt
      rw [List.length_take] at hlt
      have hdrop := hleft gap'.length (lt_of_lt_of_le hlt (Nat.min_le_left _ _))
      rwa [List.drop_left] at hdrop
  · rintro ⟨gap, t, rfl, hgap, hmatch, hleft⟩
    refine ⟨gap.length, ?_, ?_, fun j hj => ?_⟩
    · rw [List.takeWhile_append_of_pos hgap, List.length_append]
      omega
    · rw [List.drop_left, hmatch]
    · refine hleft ((gap ++ t).take j) _ (List.take_append_drop j _).symm ?_
      rw [List.length_take, List.length_append]
      omega

/-! ## Texts and repetitions that stand in a pattern -/

/-- The pattern of a fixed text. -/
def exactly [BEq α] (l : List α) : Pattern α := l.map fun a => .one (· == a)

section Exactly

variable [BEq α] [LawfulBEq α]

theorem matchHere_exactly (l : List α) (ps : Pattern α) (s : List α) :
    matchHere (exactly l ++ ps) (l ++ s) = matchHere ps s := by
  induction l with
  | nil => rfl
  | cons a l ih =>
      refine Eq.trans ?_ ih
      exact matchHere_one_of_pos BEq.rfl _ _

theorem exists_of_matchHere_exactly {l : List α} {ps : Pattern α} {s : List α}
    {groups : List (List α)} (h : matchHere (exactly l ++ ps) s = some groups) :
    ∃ rest, s = l ++ rest ∧ matchHere ps rest = some groups := by
  induction l generalizing s with
  | nil => exact ⟨s, rfl, h⟩
  | cons a l ih =>
      cases s with
      | nil => cases h
      | cons x s =>
          by_cases hx : (x == a) = true
          · have hrest : matchHere (exactly l ++ ps) s = some groups :=
              (matchHere_one_of_pos (p := (· == a)) hx _ _).symm.trans h
            obtain ⟨rest, rfl, hmatch⟩ := ih hrest
            rw [eq_of_beq hx]
            exact ⟨rest, rfl, hmatch⟩
          · have hnone := matchHere_one_of_neg (p := (· == a)) (eq_false_of_ne_true hx)
              (exactly l ++ ps) s
            exact absurd (hnone.symm.trans h) nofun

end Exactly

theorem takeWhile_length_append {p : α → Bool} {w rest : List α} (hw : ∀ x ∈ w, p x = true)
    (hrest : ∀ x ∈ rest.head?, p x = false) : ((w ++ rest).takeWhile p).length = w.length := by
  rw [List.takeWhile_append_of_pos hw]
  cases rest with
  | nil => simp
  | cons x rest =>
      have hx := hrest x rfl
      simp [hx]

/-- A greedy repetition takes all characters of its class if the rest then matches. -/
theorem matchHere_run_greedy {p : α → Bool} {min : Nat} {group : Bool} {ps : Pattern α}
    {w rest : List α} {groups : List (List α)} (hw : ∀ x ∈ w, p x = true)
    (hrest : ∀ x ∈ rest.head?, p x = false) (hmin : min ≤ w.length)
    (h : matchHere ps rest = some groups) :
    matchHere (.run p min none false group :: ps) (w ++ rest) =
      some (if group then w :: groups else groups) := by
  have hlengths : runLengths p min none false (w ++ rest) =
      w.length :: (List.range' min (w.length - min)).reverse := by
    have hsucc : w.length + 1 - min = (w.length - min) + 1 := by omega
    rw [runLengths, longestRun, takeWhile_length_append hw hrest]
    simp only [Bool.false_eq_true, if_false]
    rw [hsucc, List.range'_concat, List.reverse_append, Nat.one_mul, Nat.add_sub_cancel' hmin]
    rfl
  rw [matchHere, hlengths, List.findSome?_cons, List.drop_left, List.take_left, h]
  rfl

/-- Texts without a mark can be read back from the two parts around one. -/
theorem append_mark_injective {mark : α} {a b a' b' : List α} (ha : mark ∉ a) (ha' : mark ∉ a')
    (h : a ++ mark :: b = a' ++ mark :: b') : a = a' ∧ b = b' := by
  induction a generalizing a' with
  | nil =>
      cases a' with
      | nil => exact ⟨rfl, (List.cons.inj h).2⟩
      | cons x a' => exact absurd ((List.cons.inj h).1 ▸ List.mem_cons_self) ha'
  | cons x a ih =>
      cases a' with
      | nil => exact absurd ((List.cons.inj h).1 ▸ List.mem_cons_self) ha
      | cons y a' =>
          obtain ⟨hxy, hrest⟩ := List.cons.inj h
          obtain ⟨haa, hbb⟩ := ih (fun hmem => ha (List.mem_cons_of_mem _ hmem))
            (fun hmem => ha' (List.mem_cons_of_mem _ hmem)) hrest
          exact ⟨by rw [hxy, haa], hbb⟩

/-- The same for the last mark. -/
theorem append_last_mark_injective {mark : α} {a b a' b' : List α} (hb : mark ∉ b)
    (hb' : mark ∉ b') (h : a ++ mark :: b = a' ++ mark :: b') : a = a' ∧ b = b' := by
  have hreverse := congrArg List.reverse h
  rw [List.reverse_append, List.reverse_append, List.reverse_cons, List.reverse_cons,
    List.append_assoc, List.append_assoc] at hreverse
  obtain ⟨hback, hfront⟩ := append_mark_injective (mt List.mem_reverse.1 hb)
    (mt List.mem_reverse.1 hb') hreverse
  exact ⟨List.reverse_injective hfront, List.reverse_injective hback⟩

end DeepKernel.Lib
