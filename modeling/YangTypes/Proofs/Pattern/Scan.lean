import YangTypes.Pattern.Expression
import Mathlib.Algebra.Order.Group.Int
import Mathlib.Data.List.Basic

/-!
Reading parentheses: how deep they are nested at each position of a text.

* `Scan`: what is known after a part of a text. A backslash takes the next
  character with it, brackets open and close classes, and parentheses count
  outside of classes only;
* `depthAt`, `Balanced`: the depth at a position, and the texts whose
  parentheses match;
* `Scan.Above`: a lower bound of the depth at every position, in the form that
  proofs take apart;
* `Scan.Alike`: texts that lead to the same state over the same depths. Pairs of
  a backslash and a character, characters that are read over, and classes of
  them are read like the empty text.
-/

namespace YangTypes.Pattern

/-- What is known after a part of a text: whether the next character is taken
by a backslash, the depth of nested classes, and that of parentheses. -/
structure Scan where
  escaped : Bool
  classes : ℕ
  depth : ℤ
deriving DecidableEq, Repr

/-- Nothing was read. -/
def Scan.start : Scan := ⟨false, 0, 0⟩

/-- Reads a character. -/
def Scan.next (s : Scan) (c : Char) : Scan :=
  if s.escaped then { s with escaped := false }
  else if c = '\\' then { s with escaped := true }
  else if c = '[' then { s with classes := s.classes + 1 }
  else if c = ']' then { s with classes := s.classes - 1 }
  else if c = '(' ∧ s.classes = 0 then { s with depth := s.depth + 1 }
  else if c = ')' ∧ s.classes = 0 then { s with depth := s.depth - 1 }
  else s

/-- Reads a text. -/
def Scan.after (s : Scan) (cs : List Char) : Scan := cs.foldl Scan.next s

/-- The depth of parentheses after so many characters of a text. -/
def depthAt (cs : List Char) (i : ℕ) : ℤ := (Scan.start.after (cs.take i)).depth

/-- No parenthesis closes a group that is not open, and every group is closed
in the end. -/
structure Balanced (cs : List Char) : Prop where
  nonneg : ∀ i ≤ cs.length, 0 ≤ depthAt cs i
  closed : depthAt cs cs.length = 0

instance (cs : List Char) : Decidable (Balanced cs) :=
  decidable_of_iff ((∀ i ≤ cs.length, 0 ≤ depthAt cs i) ∧ depthAt cs cs.length = 0)
    ⟨fun h => ⟨h.1, h.2⟩, fun h => ⟨h.nonneg, h.closed⟩⟩

namespace Scan

variable {s : Scan} {m : ℤ} {xs ys : List Char}

@[simp] lemma after_nil : s.after [] = s := rfl

@[simp] lemma after_cons (c : Char) : s.after (c :: xs) = (s.next c).after xs := rfl

lemma after_append : s.after (xs ++ ys) = (s.after xs).after ys :=
  List.foldl_append

/-- The depth is at least a number at every position of a text. -/
def Above (m : ℤ) (s : Scan) : List Char → Prop
  | [] => m ≤ s.depth
  | c :: cs => m ≤ s.depth ∧ (s.next c).Above m cs

@[simp] lemma above_nil : s.Above m [] ↔ m ≤ s.depth := Iff.rfl

@[simp] lemma above_cons (c : Char) :
    s.Above m (c :: xs) ↔ m ≤ s.depth ∧ (s.next c).Above m xs := Iff.rfl

lemma above_iff {cs : List Char} :
    s.Above m cs ↔ ∀ i ≤ cs.length, m ≤ (s.after (cs.take i)).depth := by
  induction cs generalizing s with
  | nil => simp
  | cons c cs ih =>
      rw [above_cons, ih]
      constructor
      · rintro ⟨hs, hrest⟩ (_ | i) hi
        · exact hs
        · exact hrest i (Nat.le_of_succ_le_succ hi)
      · intro h
        exact ⟨h 0 (Nat.zero_le _), fun i hi => h (i + 1) (Nat.succ_le_succ hi)⟩

/-- The first position of a text is where the reading starts. -/
lemma Above.le_depth (h : s.Above m xs) : m ≤ s.depth := by
  cases xs with
  | nil => exact h
  | cons c cs => exact h.1

lemma above_append : s.Above m (xs ++ ys) ↔ s.Above m xs ∧ (s.after xs).Above m ys := by
  induction xs generalizing s with
  | nil => exact ⟨fun h => ⟨h.le_depth, h⟩, And.right⟩
  | cons c cs ih => rw [List.cons_append, above_cons, ih, above_cons, after_cons, and_assoc]

/-! ### Starting deeper -/

/-- The same state with more groups around it. -/
def raise (a : ℤ) (s : Scan) : Scan := { s with depth := s.depth + a }

lemma next_raise (a : ℤ) (c : Char) : (s.raise a).next c = (s.next c).raise a := by
  unfold next raise
  split_ifs <;> simp <;> omega

lemma after_raise (a : ℤ) (cs : List Char) : (s.raise a).after cs = (s.after cs).raise a := by
  induction cs generalizing s with
  | nil => rfl
  | cons c cs ih => rw [after_cons, next_raise, ih, after_cons]

lemma above_raise (a : ℤ) (cs : List Char) :
    (s.raise a).Above (m + a) cs ↔ s.Above m cs := by
  induction cs generalizing s with
  | nil => exact add_le_add_iff_right a
  | cons c cs ih => exact and_congr (add_le_add_iff_right a) (by rw [next_raise, ih])

/-! ### Texts that are read alike -/

/-- From a state on, two texts lead to the same state, and what one of them
never falls below, neither does the other. -/
structure Alike (s : Scan) (xs ys : List Char) : Prop where
  after_eq : s.after xs = s.after ys
  above_iff : ∀ m, s.Above m xs ↔ s.Above m ys

lemma Alike.refl (s : Scan) (xs : List Char) : s.Alike xs xs := ⟨rfl, fun _ => Iff.rfl⟩

lemma Alike.symm (h : s.Alike xs ys) : s.Alike ys xs :=
  ⟨h.after_eq.symm, fun m => (h.above_iff m).symm⟩

lemma Alike.trans {zs : List Char} (h : s.Alike xs ys) (h' : s.Alike ys zs) : s.Alike xs zs :=
  ⟨h.after_eq.trans h'.after_eq, fun m => (h.above_iff m).trans (h'.above_iff m)⟩

lemma Alike.append {xs' ys' : List Char} (h : s.Alike xs ys)
    (h' : (s.after xs).Alike xs' ys') : s.Alike (xs ++ xs') (ys ++ ys') where
  after_eq := by rw [after_append, after_append, h'.after_eq, h.after_eq]
  above_iff m := by
    rw [above_append, above_append, h.above_iff m, h'.above_iff m, h.after_eq]

/-- Texts that are read like the empty one leave the state as it is, so they
can stand in a row. -/
lemma Alike.append_nil (h : s.Alike xs []) (h' : s.Alike ys []) : s.Alike (xs ++ ys) [] := by
  have hafter : s.after xs = s := h.after_eq
  exact h.append (hafter.symm ▸ h')

end Scan

/-- The characters that are read over wherever they stand. -/
def Inert (c : Char) : Prop := c ∉ ['\\', '[', ']', '(', ')']

instance (c : Char) : Decidable (Inert c) := inferInstanceAs (Decidable (¬ _))

namespace Scan

lemma next_of_inert (s : Scan) {c : Char} (hs : s.escaped = false) (hc : Inert c) :
    s.next c = s := by
  simp only [Inert, List.mem_cons, List.not_mem_nil, or_false, not_or] at hc
  simp [next, hs, hc]

lemma alike_nil_of_inert (s : Scan) (cs : List Char) (hs : s.escaped = false)
    (hcs : ∀ c ∈ cs, Inert c) : s.Alike cs [] := by
  induction cs with
  | nil => exact .refl s []
  | cons c cs ih =>
      have hc := next_of_inert s hs (hcs c List.mem_cons_self)
      have hrest := ih fun c' hc' => hcs c' (List.mem_cons_of_mem c hc')
      refine ⟨by rw [after_cons, hc, hrest.after_eq], fun m => ?_⟩
      rw [above_cons, hc, hrest.above_iff, above_nil, and_self_iff]

lemma alike_nil_pair (s : Scan) (c : Char) (hs : s.escaped = false) : s.Alike ['\\', c] [] := by
  obtain ⟨_, k, d⟩ := s
  cases hs
  exact ⟨rfl, fun m => by simp [next]⟩

/-- A class whose content is read like the empty text. -/
lemma alike_nil_class {cs : List Char} (s : Scan) (hs : s.escaped = false)
    (h : (s.next '[').Alike cs []) : s.Alike ('[' :: (cs ++ [']'])) [] := by
  obtain ⟨_, k, d⟩ := s
  cases hs
  have hopen : (⟨false, k, d⟩ : Scan).next '[' = ⟨false, k + 1, d⟩ := rfl
  have hclose : (⟨false, k + 1, d⟩ : Scan).next ']' = ⟨false, k, d⟩ := rfl
  have hcs : Scan.after ⟨false, k + 1, d⟩ cs = ⟨false, k + 1, d⟩ := hopen ▸ h.after_eq
  have hclass := (hopen ▸ h).append (Alike.refl _ [']'])
  refine ⟨?_, fun m => ?_⟩
  · rw [after_cons, hopen, after_append, hcs, after_cons, hclose]
  · rw [above_cons, hopen, hclass.above_iff]
    simp [hclose]

end Scan

end YangTypes.Pattern
