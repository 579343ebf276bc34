import DeepKernel.Lib.Table

/-!
# Caches with expiry

A map whose entries are good up to a point in time. A lookup returns an entry that is still good and
removes one that is not. What holds of every value that was ever stored holds of every value that a
lookup returns (`Holds.hit`).
-/

set_option autoImplicit false

namespace DeepKernel.Lib

universe u v

variable {κ : Type u} {ν : Type v} [DecidableEq κ]

/-- A value and the time from which on it is not used any more. -/
structure CacheEntry (ν : Type v) where
  value : ν
  expiresAtNs : UInt64

abbrev ExpiringCache (κ : Type u) (ν : Type v) := Table κ (CacheEntry ν)

namespace ExpiringCache

/-- The value of an entry that is still good. -/
def hit (cache : ExpiringCache κ ν) (k : κ) (nowNs : UInt64) : Option ν :=
  (cache.find? k).bind fun e => if nowNs < e.expiresAtNs then some e.value else none

/-- The cache after a lookup: an entry that is not good any more is removed. -/
def afterLookup (cache : ExpiringCache κ ν) (k : κ) (nowNs : UInt64) : ExpiringCache κ ν :=
  match cache.find? k with
  | some e => if nowNs < e.expiresAtNs then cache else cache.erase k
  | none => cache

/-- Store a value. -/
def store (cache : ExpiringCache κ ν) (k : κ) (value : ν) (expiresAtNs : UInt64) :
    ExpiringCache κ ν :=
  cache.set k ⟨value, expiresAtNs⟩

/-- A property of the stored values. -/
def Holds (P : κ → ν → Prop) (cache : ExpiringCache κ ν) : Prop :=
  ∀ k e, cache.find? k = some e → P k e.value

variable {P : κ → ν → Prop} {cache : ExpiringCache κ ν}

theorem holds_empty : Holds P (Table.empty : ExpiringCache κ ν) := by
  intro k e h
  cases h

theorem Holds.hit (h : Holds P cache) {k : κ} {nowNs : UInt64} {value : ν}
    (hhit : cache.hit k nowNs = some value) : P k value := by
  obtain ⟨e, he, hgood⟩ := Option.bind_eq_some_iff.1 hhit
  split at hgood
  · rw [← Option.some.inj hgood]
    exact h k e he
  · cases hgood

theorem Holds.afterLookup (h : Holds P cache) (k : κ) (nowNs : UInt64) :
    Holds P (cache.afterLookup k nowNs) := by
  rw [ExpiringCache.afterLookup]
  split
  · split
    · exact h
    · intro k' e he
      rw [Table.find?_erase] at he
      split at he
      · cases he
      · exact h k' e he
  · exact h

theorem Holds.store (h : Holds P cache) {k : κ} {value : ν} (hvalue : P k value)
    (expiresAtNs : UInt64) : Holds P (cache.store k value expiresAtNs) := by
  intro k' e he
  rw [ExpiringCache.store, Table.find?_set] at he
  split at he
  · rename_i hk
    rw [← Option.some.inj he, hk]
    exact hvalue
  · exact h k' e he

theorem hit_store (cache : ExpiringCache κ ν) (k : κ) (value : ν) {nowNs expiresAtNs : UInt64}
    (h : nowNs < expiresAtNs) : (cache.store k value expiresAtNs).hit k nowNs = some value := by
  rw [ExpiringCache.hit, ExpiringCache.store, Table.find?_set_self, Option.bind_some, if_pos h]

end ExpiringCache

end DeepKernel.Lib
