import YangTypes.InternTable
import Mathlib.Data.List.Nodup

/-!
Tables of cells: what makes them well-formed, and what interning does to them.

* `InternTable.WellFormed`: one entry per key, and one cell per identity;
* `InternTable.intern_of_alive`: the cell that is held is found again, and
  nothing changes;
* `InternTable.intern_of_dead`: a cell is made where no cell of the key is held,
  and `InternTable.kept` are the entries that stay beside it.
-/

namespace YangTypes.InternTable

variable {κ α : Type} {t : InternTable κ α} {key : κ}

/-- There is one entry for a key, and the cells have different identities that
were given away before. -/
structure WellFormed (t : InternTable κ α) : Prop where
  keys : (t.cells.map Cell.key).Nodup
  ids : (t.cells.map Cell.id).Nodup
  lt_made : ∀ cell ∈ t.cells, cell.id < t.made

lemma wellFormed_empty : (empty : InternTable κ α).WellFormed where
  keys := List.nodup_nil
  ids := List.nodup_nil
  lt_made := nofun

namespace WellFormed

lemma eq_of_key (h : t.WellFormed) {c d : Cell κ α} (hc : c ∈ t.cells) (hd : d ∈ t.cells)
    (hkey : c.key = d.key) : c = d :=
  List.inj_on_of_nodup_map h.keys hc hd hkey

lemma eq_of_id (h : t.WellFormed) {c d : Cell κ α} (hc : c ∈ t.cells) (hd : d ∈ t.cells)
    (hid : c.id = d.id) : c = d :=
  List.inj_on_of_nodup_map h.ids hc hd hid

/-- Entries can be removed. -/
lemma sublist (h : t.WellFormed) {cells : List (Cell κ α)} (hsub : cells.Sublist t.cells) :
    (⟨cells, t.made⟩ : InternTable κ α).WellFormed where
  keys := h.keys.sublist (hsub.map Cell.key)
  ids := h.ids.sublist (hsub.map Cell.id)
  lt_made cell hcell := h.lt_made cell (hsub.subset hcell)

/-- A cell can be made for a key that has no entry. -/
lemma cons (h : t.WellFormed) (value : α) (hkey : ∀ cell ∈ t.cells, cell.key ≠ key) :
    (⟨⟨t.made, key, value⟩ :: t.cells, t.made + 1⟩ : InternTable κ α).WellFormed where
  keys := by
    refine List.nodup_cons.mpr ⟨fun hmem => ?_, h.keys⟩
    obtain ⟨cell, hcell, heq⟩ := List.mem_map.mp hmem
    exact hkey cell hcell heq
  ids := by
    refine List.nodup_cons.mpr ⟨fun hmem => ?_, h.ids⟩
    obtain ⟨cell, hcell, heq⟩ := List.mem_map.mp hmem
    exact Nat.ne_of_lt (h.lt_made cell hcell) heq
  lt_made := by
    rintro cell (_ | ⟨_, hcell⟩)
    · exact Nat.lt_succ_self t.made
    · exact Nat.lt_succ_of_lt (h.lt_made cell hcell)

end WellFormed

/-! ### Interning -/

variable [DecidableEq κ] {alive : ℕ → Bool}

lemma find?_eq_some (h : t.WellFormed) {cell : Cell κ α} (hcell : cell ∈ t.cells) :
    t.find? cell.key = some cell := by
  cases hfind : t.find? cell.key with
  | none => simpa using List.find?_eq_none.mp hfind cell hcell
  | some found =>
      have hkey : found.key = cell.key := by simpa using List.find?_some hfind
      rw [h.eq_of_key (List.mem_of_find?_eq_some hfind) hcell hkey]

lemma intern_of_alive (h : t.WellFormed) {cell : Cell κ α} (hcell : cell ∈ t.cells)
    (halive : alive cell.id = true) (value : α) :
    t.intern alive cell.key value = (cell, false, t) := by
  rw [intern, find?_eq_some h hcell]
  exact if_pos halive

/-- The entries that stay when a cell is made for a key: in a purge those whose
cells are held, and else those of the other keys. -/
def kept (alive : ℕ → Bool) (t : InternTable κ α) (key : κ) : List (Cell κ α) :=
  if (t.made + 1) % purgeInterval = 0 then t.cells.filter fun cell => alive cell.id
  else t.cells.filter fun cell => cell.key ≠ key

lemma kept_sublist : (t.kept alive key).Sublist t.cells := by
  unfold kept
  split_ifs
  · exact List.filter_sublist
  · exact List.filter_sublist

lemma key_ne_of_mem_kept (hdead : ∀ cell ∈ t.cells, alive cell.id = true → cell.key ≠ key)
    {cell : Cell κ α} (hcell : cell ∈ t.kept alive key) : cell.key ≠ key := by
  have hmem := kept_sublist.subset hcell
  unfold kept at hcell
  split_ifs at hcell
  · exact hdead cell hmem (List.mem_filter.mp hcell).2
  · simpa using (List.mem_filter.mp hcell).2

lemma store_erase (h : t.WellFormed)
    (hdead : ∀ cell ∈ t.cells, alive cell.id = true → cell.key ≠ key) (value : α) :
    (t.erase key).store alive key value =
      (⟨t.made, key, value⟩, ⟨⟨t.made, key, value⟩ :: t.kept alive key, t.made + 1⟩) := by
  by_cases hpurge : (t.made + 1) % purgeInterval = 0
  · -- the new cell counts as held, but no old one has its identity
    have hfilter : (t.erase key).cells.filter (fun cell => cell.id == t.made || alive cell.id) =
        t.kept alive key := by
      rw [kept, if_pos hpurge, erase, List.filter_filter]
      refine List.filter_congr fun cell hcell => ?_
      have hne : (cell.id == t.made) = false := by
        simpa using Nat.ne_of_lt (h.lt_made cell hcell)
      cases halive : alive cell.id with
      | false => rw [hne, Bool.false_or, Bool.false_and]
      | true => simpa using hdead cell hcell halive
    rw [← hfilter]
    simp [store, erase, purge, hpurge]
  · simp [store, erase, kept, hpurge]

lemma intern_of_dead (h : t.WellFormed)
    (hdead : ∀ cell ∈ t.cells, alive cell.id = true → cell.key ≠ key) (value : α) :
    t.intern alive key value =
      (⟨t.made, key, value⟩, true, ⟨⟨t.made, key, value⟩ :: t.kept alive key, t.made + 1⟩) := by
  have hstore := store_erase h hdead value
  unfold intern
  cases hfind : t.find? key with
  | none =>
      have herase : t.erase key = t := by
        have hne := List.find?_eq_none.mp hfind
        rw [erase, List.filter_eq_self.mpr fun cell hcell => by simpa using hne cell hcell]
      rw [herase] at hstore
      simp only [hstore]
  | some cell =>
      have hkey : cell.key = key := by simpa using List.find?_some hfind
      have hcell := List.mem_of_find?_eq_some hfind
      have halive : ¬ alive cell.id = true := fun halive => hdead cell hcell halive hkey
      simp only [halive, hstore]
      rfl

end YangTypes.InternTable
