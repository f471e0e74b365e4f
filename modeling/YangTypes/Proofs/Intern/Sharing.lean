import YangTypes.Proofs.Intern.Table

/-!
Sessions with a table: who holds what after any sequence of operations.

A session is run by a list of `InternOp`s. `handlesAfter` tells from that list
alone which slots hold something and for which keys they asked, and the theorems
compare the table with it.

* `InternSession.Coherent`: the table is well-formed and has every cell that is
  held. `Coherent.perform` is the step, `coherent_run` the run;
* `InternSession.Coherent.alive_iff`: a cell of the table is held if its key is;
* `one_live_cell_per_key`: cells are shared, made and purged by the keys that
  are held.
-/

namespace YangTypes

variable {σ κ α : Type}

/-- What is done with a table and the cells that it hands out. -/
inductive InternOp (σ κ α : Type) where
  /-- Interns a key. The cell goes into a slot or is let go at once. -/
  | intern (key : κ) (value : α) (slot : Option σ)
  /-- Lets go of what a slot holds. -/
  | drop (slot : σ)
  | purge

/-- The slots that hold something after an operation, with the keys that it was
interned for. -/
def InternOp.handles [DecidableEq σ] (before : List (σ × κ)) : InternOp σ κ α → List (σ × κ)
  | intern key _ (some slot) => (before.filter fun handle => handle.1 ≠ slot) ++ [(slot, key)]
  | intern _ _ none => before
  | drop slot => before.filter fun handle => handle.1 ≠ slot
  | purge => before

/-- The slots that hold something after operations, with the keys that it was
interned for. -/
def handlesAfter [DecidableEq σ] (ops : List (InternOp σ κ α)) : List (σ × κ) :=
  ops.foldl InternOp.handles []

namespace InternSession

variable {s : InternSession σ κ α} {cell : Cell κ α}

/-- The slots that hold something, with the keys of the cells. -/
def handles (s : InternSession σ κ α) : List (σ × κ) :=
  s.held.map fun entry => (entry.1, entry.2.key)

/-- The table is well-formed and has every cell that is held. -/
structure Coherent (s : InternSession σ κ α) : Prop where
  table : s.table.WellFormed
  held : ∀ entry ∈ s.held, entry.2 ∈ s.table.cells

lemma coherent_start : (start : InternSession σ κ α).Coherent :=
  ⟨InternTable.wellFormed_empty, nofun⟩

/-! ### What is held, by keys -/

lemma mem_keys_iff {key : κ} :
    key ∈ s.handles.map Prod.snd ↔ ∃ entry ∈ s.held, entry.2.key = key := by
  simp [handles]

lemma alive_of_held {entry : σ × Cell κ α} (hentry : entry ∈ s.held) :
    s.alive entry.2.id = true :=
  List.any_eq_true.mpr ⟨entry, hentry, by simp⟩

/-- A cell of the table is held if some cell of its key is. -/
lemma Coherent.alive_iff (h : s.Coherent) (hcell : cell ∈ s.table.cells) :
    s.alive cell.id = true ↔ cell.key ∈ s.handles.map Prod.snd := by
  rw [mem_keys_iff]
  constructor
  · intro halive
    obtain ⟨entry, hentry, hid⟩ := List.any_eq_true.mp halive
    have heq := h.table.eq_of_id (h.held entry hentry) hcell (by simpa using hid)
    exact ⟨entry, hentry, congrArg Cell.key heq⟩
  · rintro ⟨entry, hentry, hkey⟩
    rw [← h.table.eq_of_key (h.held entry hentry) hcell hkey]
    exact alive_of_held hentry

lemma Coherent.key_ne_of_alive (h : s.Coherent) {key : κ} (hkey : key ∉ s.handles.map Prod.snd) :
    ∀ cell ∈ s.table.cells, s.alive cell.id = true → cell.key ≠ key := by
  rintro cell hcell halive rfl
  exact hkey ((h.alive_iff hcell).mp halive)

/-! ### Purging -/

lemma Coherent.purge (h : s.Coherent) : s.purge.2.Coherent where
  table := h.table.sublist List.filter_sublist
  held entry hentry := List.mem_filter.mpr ⟨h.held entry hentry, alive_of_held hentry⟩

section

variable [DecidableEq κ]

lemma Coherent.filter_alive (h : s.Coherent) :
    (s.table.cells.filter fun cell => s.alive cell.id) =
      s.table.cells.filter fun cell => cell.key ∈ s.handles.map Prod.snd :=
  List.filter_congr fun cell hcell => by
    rw [Bool.eq_iff_iff, h.alive_iff hcell, decide_eq_true_iff]

/-- Making a cell removes no entry whose cell is held. -/
lemma Coherent.mem_kept (h : s.Coherent) {key : κ} (hkey : key ∉ s.handles.map Prod.snd)
    {entry : σ × Cell κ α} (hentry : entry ∈ s.held) :
    entry.2 ∈ s.table.kept s.alive key := by
  have hne : entry.2.key ≠ key := fun heq => hkey (mem_keys_iff.mpr ⟨entry, hentry, heq⟩)
  unfold InternTable.kept
  split_ifs
  · exact List.mem_filter.mpr ⟨h.held entry hentry, alive_of_held hentry⟩
  · exact List.mem_filter.mpr ⟨h.held entry hentry, by simpa using hne⟩

lemma Coherent.purge_cells (h : s.Coherent) :
    s.purge.2.table.cells =
      s.table.cells.filter fun cell => cell.key ∈ s.handles.map Prod.snd :=
  h.filter_alive

lemma Coherent.purge_count (h : s.Coherent) :
    s.purge.1 = s.table.cells.countP fun cell => cell.key ∉ s.handles.map Prod.snd := by
  have hsplit := List.length_eq_countP_add_countP
    (fun cell : Cell κ α => decide (cell.key ∈ s.handles.map Prod.snd)) (l := s.table.cells)
  have hkept : (s.table.purge s.alive).size =
      s.table.cells.countP fun cell => cell.key ∈ s.handles.map Prod.snd := by
    rw [InternTable.size, List.countP_eq_length_filter, ← h.filter_alive]
    rfl
  have hremoved : s.purge.1 = s.table.cells.length - (s.table.purge s.alive).size := rfl
  rw [hremoved, hkept, hsplit]
  simp

end

/-! ### Handing out a cell -/

variable [DecidableEq σ] {slot : Option σ} {table : InternTable κ α}

/-- The session after a cell was handed out: it goes into a slot, in place of
what it held, or is let go at once. -/
def keep (s : InternSession σ κ α) (slot : Option σ) (cell : Cell κ α) (table : InternTable κ α) :
    InternSession σ κ α :=
  match slot with
  | none => { s with table := table }
  | some slot => ⟨table, (s.drop slot).held ++ [(slot, cell)]⟩

@[simp] lemma keep_table : (s.keep slot cell table).table = table := by
  cases slot <;> rfl

lemma mem_keep_held : ∀ holder ∈ slot, (holder, cell) ∈ (s.keep slot cell table).held := by
  rintro holder ⟨⟩
  exact List.mem_append_right _ List.mem_cons_self

lemma held_of_mem_keep {entry : σ × Cell κ α} (h : entry ∈ (s.keep slot cell table).held) :
    entry ∈ s.held ∨ entry.2 = cell := by
  cases slot with
  | none => exact .inl h
  | some slot =>
      rcases List.mem_append.mp h with hold | hnew
      · exact .inl (List.mem_filter.mp hold).1
      · rw [List.mem_singleton.mp hnew]
        exact .inr rfl

lemma handles_drop (slot : σ) :
    (s.drop slot).handles = s.handles.filter fun handle => handle.1 ≠ slot := by
  rw [handles, handles, drop, List.filter_map]
  rfl

lemma handles_keep (value : α) :
    (s.keep slot cell table).handles =
      (InternOp.intern cell.key value slot).handles s.handles := by
  cases slot with
  | none => rfl
  | some slot =>
      rw [InternOp.handles, ← handles_drop, handles, handles, keep, List.map_append]
      rfl

lemma Coherent.keep (htable : table.WellFormed) (hcell : cell ∈ table.cells)
    (hheld : ∀ entry ∈ s.held, entry.2 ∈ table.cells) :
    (s.keep slot cell table).Coherent where
  table := by rwa [keep_table]
  held entry hentry := by
    rw [keep_table]
    rcases held_of_mem_keep hentry with hold | hnew
    · exact hheld entry hold
    · rwa [hnew]

lemma Coherent.drop (h : s.Coherent) (slot : σ) : (s.drop slot).Coherent :=
  ⟨h.table, fun entry hentry => h.held entry (List.mem_filter.mp hentry).1⟩

/-! ### Interning -/

variable [DecidableEq κ]

lemma intern_eq (key : κ) (value : α) :
    s.intern key value slot =
      ((s.table.intern s.alive key value).1, (s.table.intern s.alive key value).2.1,
        s.keep slot (s.table.intern s.alive key value).1
          (s.table.intern s.alive key value).2.2) := by
  cases slot <;> rfl

/-- A key that is held: its cell is handed out again. -/
lemma Coherent.intern_of_mem (h : s.Coherent) {entry : σ × Cell κ α} (hentry : entry ∈ s.held)
    (value : α) :
    s.intern entry.2.key value slot = (entry.2, false, s.keep slot entry.2 s.table) := by
  rw [intern_eq, InternTable.intern_of_alive h.table (h.held entry hentry) (alive_of_held hentry)]

/-- A key that is not held: a cell is made for it. -/
lemma Coherent.intern_of_not_mem (h : s.Coherent) {key : κ}
    (hkey : key ∉ s.handles.map Prod.snd) (value : α) :
    s.intern key value slot = (⟨s.table.made, key, value⟩, true,
      s.keep slot ⟨s.table.made, key, value⟩
        ⟨⟨s.table.made, key, value⟩ :: s.table.kept s.alive key, s.table.made + 1⟩) := by
  rw [intern_eq, InternTable.intern_of_dead h.table (h.key_ne_of_alive hkey)]

lemma Coherent.intern (h : s.Coherent) (key : κ) (value : α) (slot : Option σ) :
    (s.intern key value slot).2.2.Coherent := by
  by_cases hkey : key ∈ s.handles.map Prod.snd
  · obtain ⟨entry, hentry, rfl⟩ := mem_keys_iff.mp hkey
    rw [h.intern_of_mem hentry]
    exact .keep h.table (h.held entry hentry) h.held
  · rw [h.intern_of_not_mem hkey]
    have hstored := (h.table.sublist InternTable.kept_sublist).cons value fun cell hcell =>
      InternTable.key_ne_of_mem_kept (h.key_ne_of_alive hkey) hcell
    exact .keep hstored List.mem_cons_self fun entry hentry =>
      List.mem_cons_of_mem _ (h.mem_kept hkey hentry)

/-! ### Runs -/

/-- Performs an operation. -/
def perform (s : InternSession σ κ α) : InternOp σ κ α → InternSession σ κ α
  | .intern key value slot => (s.intern key value slot).2.2
  | .drop slot => s.drop slot
  | .purge => s.purge.2

/-- Performs operations from the start. -/
def run (ops : List (InternOp σ κ α)) : InternSession σ κ α := ops.foldl perform start

lemma Coherent.perform (h : s.Coherent) (op : InternOp σ κ α) : (s.perform op).Coherent := by
  cases op with
  | intern key value slot => exact h.intern key value slot
  | drop slot => exact h.drop slot
  | purge => exact h.purge

lemma Coherent.handles_perform (h : s.Coherent) (op : InternOp σ κ α) :
    (s.perform op).handles = op.handles s.handles := by
  cases op with
  | intern key value slot =>
      by_cases hkey : key ∈ s.handles.map Prod.snd
      · obtain ⟨entry, hentry, rfl⟩ := mem_keys_iff.mp hkey
        rw [InternSession.perform, h.intern_of_mem hentry]
        exact handles_keep value
      · rw [InternSession.perform, h.intern_of_not_mem hkey]
        exact handles_keep value
  | drop slot => exact handles_drop slot
  | purge => rfl

lemma Coherent.foldl_perform (h : s.Coherent) (ops : List (InternOp σ κ α)) :
    (ops.foldl InternSession.perform s).Coherent ∧
      (ops.foldl InternSession.perform s).handles = ops.foldl InternOp.handles s.handles := by
  induction ops generalizing s with
  | nil => exact ⟨h, rfl⟩
  | cons op ops ih =>
      obtain ⟨hcoherent, hhandles⟩ := ih (h.perform op)
      exact ⟨hcoherent, by rw [List.foldl_cons, hhandles, h.handles_perform, List.foldl_cons]⟩

lemma coherent_run (ops : List (InternOp σ κ α)) : (run ops).Coherent :=
  (coherent_start.foldl_perform ops).1

lemma handles_run (ops : List (InternOp σ κ α)) : (run ops).handles = handlesAfter ops :=
  (coherent_start.foldl_perform ops).2

end InternSession

/-- **One live cell per key.** After any operations, the slots hold what was
interned into them, and slots that asked for the same key hold the same cell.
Interning a key makes a cell exactly if no slot holds one for it, and hands out
the one that is held otherwise. A purge, whether it is asked for or set off by
the cell that is made, removes exactly the entries whose keys nobody holds, and
the number it returns is that of the entries it removes. -/
theorem one_live_cell_per_key [DecidableEq σ] [DecidableEq κ] (ops : List (InternOp σ κ α)) :
    let s := InternSession.run ops
    let live := (handlesAfter ops).map Prod.snd
    (s.held.map fun entry => (entry.1, entry.2.key)) = handlesAfter ops ∧
    (∀ a ∈ s.held, ∀ b ∈ s.held,
      (a.2.key = b.2.key → a.2 = b.2) ∧ (a.2.id = b.2.id → a.2 = b.2)) ∧
    (∀ (key : κ) (value : α) (slot : Option σ),
      let (cell, made, after) := s.intern key value slot
      (∀ holder ∈ slot, (holder, cell) ∈ after.held) ∧
      (made = true ↔ key ∉ live) ∧
      (made = false →
        cell.key = key ∧ (∃ holder, (holder, cell) ∈ s.held) ∧ after.table = s.table) ∧
      (made = true →
        cell.key = key ∧ cell.value = value ∧ (∀ entry ∈ s.held, entry.2.id ≠ cell.id) ∧
        after.table.made = s.table.made + 1 ∧
        after.table.cells = cell ::
          if (s.table.made + 1) % purgeInterval = 0 then s.table.cells.filter (·.key ∈ live)
          else s.table.cells.filter (·.key ≠ key))) ∧
    (s.purge.2.held = s.held ∧ s.purge.2.table.cells = s.table.cells.filter (·.key ∈ live) ∧
      s.purge.1 = s.table.cells.countP (·.key ∉ live)) := by
  intro s live
  have h : s.Coherent := InternSession.coherent_run ops
  have hhandles : s.handles = handlesAfter ops := InternSession.handles_run ops
  have hlive : s.handles.map Prod.snd = live := congrArg (List.map Prod.snd) hhandles
  refine ⟨hhandles, fun a ha b hb => ?_, fun key value slot => ?_, rfl, ?_, ?_⟩
  · exact ⟨h.table.eq_of_key (h.held a ha) (h.held b hb),
      h.table.eq_of_id (h.held a ha) (h.held b hb)⟩
  · by_cases hkey : key ∈ s.handles.map Prod.snd
    · obtain ⟨entry, hentry, rfl⟩ := InternSession.mem_keys_iff.mp hkey
      rw [h.intern_of_mem hentry]
      refine ⟨InternSession.mem_keep_held, ?_, fun _ => ?_, nofun⟩
      · exact iff_of_false nofun (not_not.mpr (hlive ▸ hkey))
      · exact ⟨rfl, ⟨entry.1, hentry⟩, InternSession.keep_table⟩
    · rw [h.intern_of_not_mem hkey]
      refine ⟨InternSession.mem_keep_held, ?_, nofun, fun _ => ⟨rfl, rfl, ?_, ?_, ?_⟩⟩
      · exact iff_of_true rfl (hlive ▸ hkey)
      · exact fun entry hentry => Nat.ne_of_lt (h.table.lt_made _ (h.held entry hentry))
      · rw [InternSession.keep_table]
      · rw [InternSession.keep_table, InternTable.kept, h.filter_alive, hlive]
  · rw [← hlive]
    exact h.purge_cells
  · rw [← hlive]
    exact h.purge_count

/-- Two slots share a cell, one of them lets go, another key is let go at once,
and a third one is held. -/
theorem one_live_cell_per_key_dead_entry :
    let ops : List (InternOp Char ℕ String) :=
      [.intern 1 "one" (some 'a'), .intern 1 "uno" (some 'b'), .intern 2 "two" none, .drop 'a',
        .intern 3 "three" (some 'c')]
    let s := InternSession.run ops
    s.table.cells.map Cell.key = [3, 2, 1] ∧ handlesAfter ops = [('b', 1), ('c', 3)] ∧
      (∀ value slot, (s.intern 1 value slot).2.1 = false) ∧
      (∀ value slot, (s.intern 2 value slot).2.1 = true) ∧
      s.purge.1 = 1 ∧ s.purge.2.table.cells.map Cell.key = [3, 1] := by
  intro ops s
  obtain ⟨-, -, hintern, -, hcells, hremoved⟩ := one_live_cell_per_key ops
  refine ⟨by decide, by decide, fun value slot => ?_, fun value slot => ?_, ?_, ?_⟩
  · have hmakes : (s.intern 1 value slot).2.1 = true ↔ 1 ∉ (handlesAfter ops).map Prod.snd :=
      (hintern 1 value slot).2.1
    exact Bool.eq_false_iff.mpr fun hmade => absurd (hmakes.mp hmade) (by decide)
  · have hmakes : (s.intern 2 value slot).2.1 = true ↔ 2 ∉ (handlesAfter ops).map Prod.snd :=
      (hintern 2 value slot).2.1
    exact hmakes.mpr (by decide)
  · rw [hremoved]
    decide
  · rw [hcells]
    decide

end YangTypes
