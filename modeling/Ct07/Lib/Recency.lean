/-
# The most recent keys

A list of entries with different keys, the most recent one first: an entry that is remembered
moves to the front, with its new value, and the last entry is dropped when there is no room.

* `remember` : one more entry;
* `recent` : the entries that a history leaves, told from the history;
* `recent_concat` : one more entry of the history is remembered;
* `mem_keys_recent_iff` : which keys they have.
-/
import Mathlib.Data.Finset.Card
import Mathlib.Data.List.Sigma

open List

namespace Recency

variable {κ : Type*} {β : κ → Type*} [DecidableEq κ]

/-- An entry moves to the front of at most `n`. -/
def remember (n : ℕ) (l : List (Sigma β)) (e : Sigma β) : List (Sigma β) :=
  (kinsert e.1 e.2 l).take n

/-- The latest entries of the `n` keys that occurred last, the last one first. -/
def recent (n : ℕ) (es : List (Sigma β)) : List (Sigma β) := (dedupKeys es.reverse).take n

variable {n : ℕ} {es : List (Sigma β)}

/-! ## Remembering a history -/

/-- What has no room does not come back. -/
theorem take_kerase_take (n : ℕ) (k : κ) (l : List (Sigma β)) :
    (kerase k (l.take (n + 1))).take n = (kerase k l).take n := by
  induction l generalizing n with
  | nil => rfl
  | cons e l ih =>
      rw [take_succ_cons]
      by_cases hk : k = e.1
      · rw [kerase_cons_eq hk, kerase_cons_eq hk, take_take, Nat.min_self]
      · rw [kerase_cons_ne hk, kerase_cons_ne hk]
        cases n with
        | zero => rfl
        | succ n => rw [take_succ_cons, take_succ_cons, ih]

theorem remember_take (n : ℕ) (l : List (Sigma β)) (e : Sigma β) :
    remember n (l.take n) e = (kinsert e.1 e.2 l).take n := by
  cases n with
  | zero => rfl
  | succ n =>
      rw [remember, kinsert_def, kinsert_def, take_succ_cons, take_succ_cons, take_kerase_take]

/-- One more entry of the history is remembered. -/
theorem recent_concat (n : ℕ) (es : List (Sigma β)) (e : Sigma β) :
    recent n (es ++ [e]) = remember n (recent n es) e := by
  rw [recent, reverse_concat, dedupKeys_cons, recent, remember_take]

/-! ## The recent entries -/

theorem length_recent_le (n : ℕ) (es : List (Sigma β)) : (recent n es).length ≤ n :=
  length_take_le n _

theorem nodupKeys_recent (n : ℕ) (es : List (Sigma β)) : (recent n es).NodupKeys :=
  (nodupKeys_dedupKeys es.reverse).sublist (take_sublist n _)

/-- A recent entry is the latest one of its key. -/
theorem dlookup_of_mem_recent {e : Sigma β} (h : e ∈ recent n es) :
    dlookup e.1 es.reverse = some e.2 := by
  rw [← dlookup_dedupKeys]
  exact (mem_dlookup_iff (nodupKeys_dedupKeys _)).2 (mem_of_mem_take h)

theorem mem_of_mem_recent {e : Sigma β} (h : e ∈ recent n es) : e ∈ es :=
  mem_reverse.1 (of_mem_dlookup (dlookup_of_mem_recent h))

theorem mem_keys_dedupKeys {k : κ} {l : List (Sigma β)} :
    k ∈ (dedupKeys l).keys ↔ k ∈ l.keys := by
  rw [← dlookup_isSome, dlookup_dedupKeys, dlookup_isSome]

/-- One entry for each key. -/
theorem length_dedupKeys (l : List (Sigma β)) :
    (dedupKeys l).length = l.keys.toFinset.card := by
  have hsame : l.keys.toFinset = (dedupKeys l).keys.toFinset := by
    ext k
    rw [mem_toFinset, mem_toFinset, mem_keys_dedupKeys]
  rw [hsame, toFinset_card_of_nodup (nodupKeys_dedupKeys l), keys, length_map]

/-- The entries before the first one of a key stay before it. -/
theorem dedupKeys_append_cons {k : κ} {newer : List (Sigma β)} (h : k ∉ newer.keys) (v : β k)
    (older : List (Sigma β)) :
    ∃ rest, dedupKeys (newer ++ ⟨k, v⟩ :: older) = dedupKeys newer ++ ⟨k, v⟩ :: rest := by
  induction newer with
  | nil => exact ⟨_, rfl⟩
  | cons e newer ih =>
      rw [keys_cons, mem_cons, not_or] at h
      obtain ⟨rest, hrest⟩ := ih h.2
      rw [cons_append, dedupKeys_cons, dedupKeys_cons, hrest, kinsert_def, kinsert_def]
      by_cases hmem : e.1 ∈ (dedupKeys newer).keys
      · exact ⟨rest, by rw [kerase_append_left hmem, cons_append]⟩
      · refine ⟨kerase e.1 rest, ?_⟩
        rw [kerase_append_right hmem, kerase_cons_ne (Ne.symm h.1), kerase_of_notMem_keys hmem,
          cons_append]

/-- A key is among the first `n` when fewer than `n` other keys come before it. -/
theorem mem_keys_take_dedupKeys {k : κ} {newer : List (Sigma β)} (h : k ∉ newer.keys) (v : β k)
    (older : List (Sigma β)) :
    k ∈ ((dedupKeys (newer ++ ⟨k, v⟩ :: older)).take n).keys ↔ newer.keys.toFinset.card < n := by
  obtain ⟨rest, hrest⟩ := dedupKeys_append_cons h v older
  rw [hrest, ← length_dedupKeys]
  constructor
  · intro hmem
    by_contra hle
    rw [take_append_of_le_length (by omega)] at hmem
    obtain ⟨e, he, rfl⟩ := mem_map.1 hmem
    exact h (mem_keys_dedupKeys.1 (mem_keys_of_mem (mem_of_mem_take he)))
  · intro hlt
    obtain ⟨m, rfl⟩ : ∃ m, n = (dedupKeys newer).length + (m + 1) :=
      ⟨n - (dedupKeys newer).length - 1, by omega⟩
    rw [take_length_add_append, take_succ_cons, keys_append, keys_cons, mem_append]
    exact .inr mem_cons_self

/-- **A key is recent** when fewer than `n` other keys have occurred after it. -/
theorem mem_keys_recent_iff {k : κ} :
    k ∈ (recent n es).keys ↔
      ∃ (earlier : List (Sigma β)) (v : β k) (later : List (Sigma β)),
        es = earlier ++ ⟨k, v⟩ :: later ∧ k ∉ later.keys ∧
          later.keys.toFinset.card < n := by
  constructor
  · intro h
    have hmem : k ∈ es.reverse.keys := by
      obtain ⟨e, he, rfl⟩ := mem_map.1 h
      exact mem_keys_of_mem (mem_reverse.2 (mem_of_mem_recent he))
    obtain ⟨v, newer, older, hnewer, hes, -⟩ := exists_of_kerase hmem
    rw [recent, hes, mem_keys_take_dedupKeys hnewer] at h
    refine ⟨older.reverse, v, newer.reverse, ?_, ?_, ?_⟩
    · rw [← reverse_reverse es, hes, reverse_append, reverse_cons, append_assoc, singleton_append]
    · rwa [keys, map_reverse, mem_reverse]
    · rwa [keys, map_reverse, toFinset_reverse]
  · rintro ⟨earlier, v, later, rfl, hlater, hcard⟩
    have hnewer : k ∉ later.reverse.keys := by
      rwa [keys, map_reverse, mem_reverse]
    rw [recent, reverse_append, reverse_cons, append_assoc, singleton_append,
      mem_keys_take_dedupKeys hnewer, keys, map_reverse, toFinset_reverse]
    exact hcard

end Recency
