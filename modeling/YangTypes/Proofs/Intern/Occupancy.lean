import Mathlib.Data.Finset.Card
import YangTypes.Proofs.Intern.Sharing

/-!
How large a table gets.

Dead entries stay until a purge, so a table can be larger than what is held. The
excess is bounded by the number of cells that were made since the last purge
that was set off, and a purge that is asked for in between does no harm.

* `InternSession.peak`: how many values are alive while an operation is
  performed. The value that is handed out is one of them, and so is the one that
  its slot lets go for it;
* `InternSession.Occupied`: the invariant, the excess over a limit is at most
  the count of cells since the last multiple of `purgeInterval`.
  `Occupied.perform` is the step, `occupied_run` the run;
* `size_le_of_peak_le`: if the values that are alive at once stay within a
  limit, the table never exceeds it by `purgeInterval` entries.
-/

namespace YangTypes

variable {σ κ α : Type}

/-- Entries with different identities are at most as many as there are
identities. -/
lemma InternTable.WellFormed.size_le_card {t : InternTable κ α} (h : t.WellFormed) {ids : Finset ℕ}
    (hids : ∀ cell ∈ t.cells, cell.id ∈ ids) : t.size ≤ ids.card := by
  have hsubset : (t.cells.map Cell.id).toFinset ⊆ ids := by
    intro id hid
    obtain ⟨cell, hcell, rfl⟩ := List.mem_map.mp (List.mem_toFinset.mp hid)
    exact hids cell hcell
  calc t.size = (t.cells.map Cell.id).length := (List.length_map _).symm
    _ = (t.cells.map Cell.id).toFinset.card := (List.toFinset_card_of_nodup h.ids).symm
    _ ≤ ids.card := Finset.card_le_card hsubset

namespace InternSession

variable {s : InternSession σ κ α} {limit : ℕ}

/-- The identities of the values that are held. -/
def live (s : InternSession σ κ α) : Finset ℕ := (s.held.map fun entry => entry.2.id).toFinset

lemma mem_live_iff {id : ℕ} : id ∈ s.live ↔ s.alive id = true := by
  simp [live, alive]

variable [DecidableEq σ] [DecidableEq κ]

/-- The number of values that are alive while an operation is performed. What is
handed out is alive before its slot lets go of what it held. -/
def peak (s : InternSession σ κ α) : InternOp σ κ α → ℕ
  | .intern key value slot => (insert (s.intern key value slot).1.id s.live).card
  | .drop _ => s.live.card
  | .purge => s.live.card

/-- The entries beyond a limit are at most as many as the cells that were made
since the last purge that was set off. -/
def Occupied (limit : ℕ) (s : InternSession σ κ α) : Prop :=
  s.table.size ≤ limit + s.table.made % purgeInterval

/-- A cell that is made sets off a purge, which leaves only what is alive, or it
adds one to the count and at most one to the entries. -/
lemma Occupied.make (h : s.Occupied limit) (hs : s.Coherent) {key : κ}
    (hkey : key ∉ s.handles.map Prod.snd) (value : α) (slot : Option σ)
    (hpeak : s.peak (.intern key value slot) ≤ limit) :
    (s.intern key value slot).2.2.Occupied limit := by
  have htable := (hs.intern key value slot).table
  rw [hs.intern_of_not_mem hkey, keep_table] at htable
  rw [peak, hs.intern_of_not_mem hkey] at hpeak
  rw [hs.intern_of_not_mem hkey, Occupied, keep_table]
  by_cases hpurge : (s.table.made + 1) % purgeInterval = 0
  · -- every entry that is left is the new one or is held, and both are in the peak
    refine le_trans (le_trans (htable.size_le_card fun cell hcell => ?_) hpeak)
      (Nat.le_add_right _ _)
    rcases List.mem_cons.mp hcell with rfl | hkept
    · exact Finset.mem_insert_self _ _
    · rw [InternTable.kept, if_pos hpurge] at hkept
      exact Finset.mem_insert_of_mem (mem_live_iff.mpr (List.mem_filter.mp hkept).2)
  · have hlength : (s.table.kept s.alive key).length ≤ s.table.size :=
      InternTable.kept_sublist.length_le
    have hcount : (s.table.made + 1) % purgeInterval = s.table.made % purgeInterval + 1 := by
      simp only [purgeInterval] at hpurge ⊢
      omega
    rw [Occupied] at h
    rw [InternTable.size, List.length_cons, hcount]
    omega

lemma Occupied.perform (h : s.Occupied limit) (hs : s.Coherent) {op : InternOp σ κ α}
    (hpeak : s.peak op ≤ limit) : (s.perform op).Occupied limit := by
  cases op with
  | intern key value slot =>
      by_cases hkey : key ∈ s.handles.map Prod.snd
      · obtain ⟨entry, hentry, rfl⟩ := mem_keys_iff.mp hkey
        rw [InternSession.perform, hs.intern_of_mem hentry, Occupied, keep_table]
        exact h
      · exact h.make hs hkey value slot hpeak
  | drop slot => exact h
  | purge =>
      -- entries go, and the count stays
      have hlength : s.purge.2.table.size ≤ s.table.size := List.length_filter_le _ _
      exact le_trans hlength h

lemma run_concat (ops : List (InternOp σ κ α)) (op : InternOp σ κ α) :
    run (ops ++ [op]) = (run ops).perform op := by
  rw [run, List.foldl_append]
  rfl

lemma occupied_run {ops : List (InternOp σ κ α)}
    (hpeak : ∀ k (hk : k < ops.length), (run (ops.take k)).peak ops[k] ≤ limit) :
    ∀ k, (run (ops.take k)).Occupied limit := by
  intro k
  induction k with
  | zero => exact Nat.zero_le _
  | succ k ih =>
      by_cases hk : k < ops.length
      · rw [List.take_succ_eq_append_getElem hk, run_concat]
        exact ih.perform (coherent_run _) (hpeak k hk)
      · rw [List.take_of_length_le (by omega)] at ih ⊢
        exact ih

/-- Nothing is held if everything is let go at once. -/
lemma live_run_of_let_go {ops : List (InternOp σ κ α)}
    (h : ∀ op ∈ ops, ∃ key value, op = .intern key value none) : (run ops).live = ∅ := by
  induction ops using List.reverseRecOn with
  | nil => rfl
  | append_singleton ops op ih =>
      obtain ⟨hops, hop⟩ := List.forall_mem_append.mp h
      obtain ⟨key, value, rfl⟩ := hop op List.mem_cons_self
      rw [run_concat, InternSession.perform, intern_eq]
      exact ih hops

end InternSession

/-- **Dead entries stay bounded.** If at most `limit` values are alive at any one
moment of a run, the one that was just made among them, then after each of its
operations the table has less than `purgeInterval` entries more than that, for
any number of keys. -/
theorem size_le_of_peak_le [DecidableEq σ] [DecidableEq κ] (ops : List (InternOp σ κ α))
    (limit : ℕ)
    (hpeak : ∀ k (hk : k < ops.length),
      (InternSession.run (ops.take k)).peak ops[k] ≤ limit) :
    ∀ k, (InternSession.run (ops.take k)).table.size ≤ limit + purgeInterval - 1 := by
  intro k
  have hoccupied : (InternSession.run (ops.take k)).table.size ≤
      limit + (InternSession.run (ops.take k)).table.made % purgeInterval :=
    InternSession.occupied_run hpeak k
  have hcount : (InternSession.run (ops.take k)).table.made % purgeInterval < purgeInterval :=
    Nat.mod_lt _ (by decide)
  omega

/-- Any number of keys, each of them let go before the next one. -/
theorem size_le_of_peak_le_let_go :
    let ops : List (InternOp Char ℕ Unit) := (List.range 5000).map fun key => .intern key () none
    (∀ k (hk : k < ops.length), (InternSession.run (ops.take k)).peak ops[k] ≤ 1) ∧
      ∀ k, (InternSession.run (ops.take k)).table.size ≤ 1024 := by
  intro ops
  have hpeak : ∀ k (hk : k < ops.length), (InternSession.run (ops.take k)).peak ops[k] ≤ 1 := by
    intro k hk
    have hlive : (InternSession.run (ops.take k)).live = ∅ :=
      InternSession.live_run_of_let_go fun op hop => by
        obtain ⟨key, -, rfl⟩ := List.mem_map.mp (List.mem_of_mem_take hop)
        exact ⟨key, (), rfl⟩
    have hop : ops[k] = .intern k () none := by simp [ops]
    rw [hop, InternSession.peak, hlive]
    simp
  exact ⟨hpeak, size_le_of_peak_le ops 1 hpeak⟩

end YangTypes
