import Mathlib.Data.List.TakeWhile
import Mathlib.Tactic
import YangTypes.Text.Split

/-!
Texts that are divided at one character, from the front and from the back.

* `splitAtFirst?_eq_some`: what is found is the division whose first part does
  not have the separator, so there is only one.
* `splitAtFirst?_eq_none`: nothing is found exactly if the separator is missing.
* `afterLast_eq`: from the back it is the last part that does not have the
  separator, and what comes before it is arbitrary.
-/

namespace YangTypes.Text

variable {separator : Char} {cs before after : List Char}

lemma splitAtFirst?_cons (separator c : Char) (cs : List Char) :
    splitAtFirst? [separator] (c :: cs) =
      if separator = c then some ([], cs)
      else (splitAtFirst? [separator] cs).map fun parts => (c :: parts.1, parts.2) := by
  rw [splitAtFirst?]
  simp

lemma splitAtFirst?_eq_none : splitAtFirst? [separator] cs = none ↔ separator ∉ cs := by
  induction cs with
  | nil => simp [splitAtFirst?]
  | cons c cs ih =>
      rw [splitAtFirst?_cons, List.mem_cons, not_or]
      split
      next h => simp [h]
      next h => simp [h, ih]

/-- The first separator divides a text. -/
lemma splitAtFirst?_append (h : separator ∉ before) (after : List Char) :
    splitAtFirst? [separator] (before ++ separator :: after) = some (before, after) := by
  induction before with
  | nil => rw [List.nil_append, splitAtFirst?_cons, if_pos rfl]
  | cons c before ih =>
      obtain ⟨hc, hbefore⟩ := not_or.mp (mt List.mem_cons.mpr h)
      rw [List.cons_append, splitAtFirst?_cons, if_neg hc, ih hbefore, Option.map_some]

lemma splitAtFirst?_eq_some : splitAtFirst? [separator] cs = some (before, after) ↔
    cs = before ++ separator :: after ∧ separator ∉ before := by
  constructor
  · intro h
    -- By induction on the text: a division of the rest has the first character before it.
    induction cs generalizing before with
    | nil => simp [splitAtFirst?] at h
    | cons c cs ih =>
        rw [splitAtFirst?_cons] at h
        split at h
        next hc =>
          obtain ⟨rfl, rfl⟩ := Prod.mk.inj (Option.some.inj h)
          exact ⟨by rw [hc, List.nil_append], List.not_mem_nil⟩
        next hc =>
          obtain ⟨⟨rest, _⟩, hrest, hparts⟩ := Option.map_eq_some_iff.mp h
          obtain ⟨rfl, rfl⟩ := Prod.mk.inj hparts
          obtain ⟨rfl, hnot⟩ := ih hrest
          exact ⟨rfl, List.not_mem_cons_of_ne_of_not_mem hc hnot⟩
  · rintro ⟨rfl, h⟩
    exact splitAtFirst?_append h after

/-- What follows the last separator, however often it occurs before. -/
lemma afterLast_eq {text rest : String} (htext : text.toList = before ++ separator :: rest.toList)
    (hrest : separator ∉ rest.toList) : afterLast separator text = rest := by
  have hkept : ∀ c ∈ rest.toList.reverse, (c != separator) = true := by
    intro c hc
    rw [bne_iff_ne]
    rintro rfl
    exact hrest (List.mem_reverse.mp hc)
  have hreverse : text.toList.reverse = rest.toList.reverse ++ separator :: before.reverse := by
    rw [htext, List.reverse_append, List.reverse_cons, List.append_assoc, List.singleton_append]
  rw [afterLast, hreverse, List.takeWhile_append_of_pos hkept,
    List.takeWhile_cons_of_neg (by simp), List.append_nil, List.reverse_reverse,
    String.ofList_toList]

end YangTypes.Text
