/-!
Tables that hand out one shared cell per key while somebody holds it.

A table does not keep its cells alive: who holds which cell is up to its users, and an
`InternSession` is a table together with the cells that are held in named slots. An entry whose cell
nobody holds is dead. It stays in the table until its key is interned again or a purge removes it;
every `purgeInterval`-th cell that is made sets off a purge, at which the new cell counts as held.
-/

namespace YangTypes

/-- A value with the key that it was made for and the identity of its allocation. -/
structure Cell (κ α : Type) where
  id : Nat
  key : κ
  value : α
deriving DecidableEq

/-- The number of cells made between two purges. -/
def purgeInterval : Nat := 1024

/-- A table of cells; there is at most one for a key. -/
structure InternTable (κ α : Type) where
  cells : List (Cell κ α)
  /-- The number of cells made so far, which is also the identity of the next one. -/
  made : Nat

namespace InternTable

variable {κ α : Type} [DecidableEq κ]

/-- The table without cells. -/
def empty : InternTable κ α := ⟨[], 0⟩

/-- The number of entries, dead ones included. -/
def size (t : InternTable κ α) : Nat := t.cells.length

/-- The cell of a key. -/
def find? (t : InternTable κ α) (key : κ) : Option (Cell κ α) :=
  t.cells.find? fun cell => cell.key = key

/-- Removes the entries whose cell nobody holds. -/
def purge (alive : Nat → Bool) (t : InternTable κ α) : InternTable κ α :=
  { t with cells := t.cells.filter fun cell => alive cell.id }

/-- Removes the entry of a key. -/
def erase (t : InternTable κ α) (key : κ) : InternTable κ α :=
  { t with cells := t.cells.filter fun cell => cell.key ≠ key }

/-- Makes a cell for a key that has none and stores it. -/
def store (alive : Nat → Bool) (t : InternTable κ α) (key : κ) (value : α) :
    Cell κ α × InternTable κ α :=
  let cell : Cell κ α := ⟨t.made, key, value⟩
  let stored : InternTable κ α := ⟨cell :: t.cells, t.made + 1⟩
  if stored.made % purgeInterval = 0 then
    (cell, stored.purge fun id => id == cell.id || alive id)
  else (cell, stored)

/-- The live cell of a key, or a new one; the flag says whether it was made. A new cell takes the
place of a dead one. -/
def intern (alive : Nat → Bool) (t : InternTable κ α) (key : κ) (value : α) :
    Cell κ α × Bool × InternTable κ α :=
  match t.find? key with
  | some cell =>
    if alive cell.id then (cell, false, t)
    else
      let (cell, t) := (t.erase key).store alive key value
      (cell, true, t)
  | none =>
    let (cell, t) := t.store alive key value
    (cell, true, t)

end InternTable

/-- A table with the cells that are held, by slot; every slot holds at most one cell. -/
structure InternSession (σ κ α : Type) where
  table : InternTable κ α
  held : List (σ × Cell κ α)

namespace InternSession

variable {σ κ α : Type} [DecidableEq σ] [DecidableEq κ]

/-- A session in which nothing has happened. -/
def start : InternSession σ κ α := ⟨.empty, []⟩

/-- Whether some slot holds a cell. -/
def alive (s : InternSession σ κ α) (id : Nat) : Bool := s.held.any fun entry => entry.2.id == id

/-- The slots that hold a cell. -/
def holders (s : InternSession σ κ α) (id : Nat) : List σ :=
  (s.held.filter fun entry => entry.2.id == id).map Prod.fst

/-- Whether a slot holds a cell. -/
def holds (s : InternSession σ κ α) (slot : σ) : Bool := s.held.any fun entry => entry.1 = slot

/-- Lets go of what a slot holds. -/
def drop (s : InternSession σ κ α) (slot : σ) : InternSession σ κ α :=
  { s with held := s.held.filter fun entry => entry.1 ≠ slot }

/-- Interns a key. The cell goes into a slot, in place of what it held, or is let go at once. -/
def intern (s : InternSession σ κ α) (key : κ) (value : α) (slot : Option σ) :
    Cell κ α × Bool × InternSession σ κ α :=
  let (cell, made, table) := s.table.intern s.alive key value
  match slot with
  | none => (cell, made, { s with table := table })
  | some slot => (cell, made, ⟨table, (s.drop slot).held ++ [(slot, cell)]⟩)

/-- Removes the dead entries; the number says how many there were. -/
def purge (s : InternSession σ κ α) : Nat × InternSession σ κ α :=
  let purged := s.table.purge s.alive
  (s.table.size - purged.size, { s with table := purged })

/-- Interns keys one after the other and lets each go at once. -/
def internAll (s : InternSession σ κ α) (entries : List (κ × α)) : InternSession σ κ α :=
  entries.foldl (fun s (key, value) => (s.intern key value none).2.2) s

end InternSession

end YangTypes
