import Mathlib.Data.Rat.Floor
import Mathlib.Tactic
import YangTypes.Decimal.Rounding

/-!
The integer that a rounding mode prescribes for a rational number.

* `RoundingMode.Prescribes`: the rule of each mode. The directed ones are stated
  with floor and ceiling, the others choose among the nearest integers.
* `Between`: a number that is no integer, given by its neighbour toward zero,
  the direction away from zero and the distance to that neighbour. What each
  mode prescribes for it depends on these alone, and is what `roundsAway?`
  decides (`Between.prescribes_iff`).
* `prescribes_intCast`: an integer is left as it is by every mode.
* `Directed.prescribes_div`: a directed mode can be applied in two steps.
-/

namespace YangTypes

/-- No integer is closer. -/
def Nearest (x : ℚ) (n : ℤ) : Prop := ∀ m : ℤ, |x - n| ≤ |x - m|

namespace RoundingMode

/-- The integer that a mode prescribes for a number. -/
def Prescribes (x : ℚ) (n : ℤ) : RoundingMode → Prop
  | up => n = if 0 ≤ x then ⌈x⌉ else ⌊x⌋
  | down => n = if 0 ≤ x then ⌊x⌋ else ⌈x⌉
  | ceiling => n = ⌈x⌉
  | floor => n = ⌊x⌋
  -- of two nearest integers the one that is farther from zero
  | halfUp => Nearest x n ∧ ∀ m, Nearest x m → |m| ≤ |n|
  -- the one that is closer to zero
  | halfDown => Nearest x n ∧ ∀ m, Nearest x m → |n| ≤ |m|
  -- the even one
  | halfEven => Nearest x n ∧ ∀ m, Nearest x m → m ≠ n → Even n
  | unnecessary => x = n

/-- The modes that round in one direction, whatever is lost. -/
def Directed (mode : RoundingMode) : Prop := mode ∈ [up, down, ceiling, floor]

instance (mode : RoundingMode) : Decidable mode.Directed :=
  inferInstanceAs (Decidable (_ ∈ _))

end RoundingMode

/-! ### Integers -/

lemma nearest_intCast {q n : ℤ} : Nearest q n ↔ n = q := by
  constructor
  · intro h
    have hzero := h q
    rw [sub_self, abs_zero, abs_nonpos_iff, sub_eq_zero] at hzero
    exact_mod_cast hzero.symm
  · rintro rfl m
    rw [sub_self, abs_zero]
    exact abs_nonneg _

/-- Every mode leaves an integer as it is. -/
lemma prescribes_intCast (mode : RoundingMode) {q n : ℤ} : mode.Prescribes q n ↔ n = q := by
  cases mode with
  | up => simp [RoundingMode.Prescribes]
  | down => simp [RoundingMode.Prescribes]
  | ceiling => simp [RoundingMode.Prescribes]
  | floor => simp [RoundingMode.Prescribes]
  | halfUp =>
      simp only [RoundingMode.Prescribes, nearest_intCast, forall_eq, and_iff_left_iff_imp]
      exact fun h => h ▸ le_refl _
  | halfDown =>
      simp only [RoundingMode.Prescribes, nearest_intCast, forall_eq, and_iff_left_iff_imp]
      exact fun h => h ▸ le_refl _
  | halfEven =>
      simp only [RoundingMode.Prescribes, nearest_intCast, forall_eq, and_iff_left_iff_imp]
      exact fun h hne => absurd h.symm hne
  | unnecessary =>
      rw [RoundingMode.Prescribes, Int.cast_inj, eq_comm]

/-! ### Numbers between two integers -/

/-- The number `x` lies between `q` and its neighbour away from zero, which is
one step in the direction `e`, and its distance to `q` is `δ`. -/
structure Between (x : ℚ) (q e : ℤ) (δ : ℚ) : Prop where
  direction : e = 1 ∨ e = -1
  side : 0 ≤ e * q
  eq : x = q + e * δ
  pos : 0 < δ
  lt_one : δ < 1

namespace Between

variable {x δ : ℚ} {q e n : ℤ}

lemma neg (h : Between x q e δ) : Between (-x) (-q) (-e) δ where
  direction := by
    have := h.direction
    omega
  side := by
    rw [neg_mul_neg]
    exact h.side
  eq := by
    rw [h.eq]
    push_cast
    ring
  pos := h.pos
  lt_one := h.lt_one

/-- Above zero the neighbours are floor and ceiling. -/
lemma of_pos (h : Between x q 1 δ) : 0 ≤ x ∧ ⌊x⌋ = q ∧ ⌈x⌉ = q + 1 := by
  have hq : (0 : ℚ) ≤ q := by exact_mod_cast (by simpa using h.side : (0 : ℤ) ≤ q)
  have heq : x = q + δ := by simpa using h.eq
  have hpos := h.pos
  have hlt := h.lt_one
  refine ⟨by linarith, Int.floor_eq_iff.mpr ⟨by linarith, by linarith⟩, Int.ceil_eq_iff.mpr ?_⟩
  push_cast
  exact ⟨by linarith, by linarith⟩

/-- Below zero it is the other way round. -/
lemma of_neg (h : Between x q (-1) δ) : x < 0 ∧ ⌈x⌉ = q ∧ ⌊x⌋ = q - 1 := by
  have hq : (q : ℚ) ≤ 0 := by exact_mod_cast (by simpa using h.side : q ≤ (0 : ℤ))
  have heq : x = q - δ := by simpa [sub_eq_add_neg] using h.eq
  have hpos := h.pos
  have hlt := h.lt_one
  refine ⟨by linarith, Int.ceil_eq_iff.mpr ⟨by linarith, by linarith⟩, Int.floor_eq_iff.mpr ?_⟩
  push_cast
  exact ⟨by linarith, by linarith⟩

lemma ne_intCast (h : Between x q e δ) (n : ℤ) : x ≠ n := by
  rintro rfl
  rcases h.direction with rfl | rfl
  · obtain ⟨-, hfloor, hceil⟩ := h.of_pos
    rw [Int.floor_intCast] at hfloor
    rw [Int.ceil_intCast] at hceil
    omega
  · obtain ⟨-, hceil, hfloor⟩ := h.of_neg
    rw [Int.floor_intCast] at hfloor
    rw [Int.ceil_intCast] at hceil
    omega

lemma abs_sub (h : Between x q e δ) : |x - q| = δ := by
  have hpos := h.pos
  rcases h.direction with rfl | rfl
  · rw [h.eq]
    simp [abs_of_pos hpos]
  · rw [h.eq]
    simp [abs_of_pos hpos]

lemma abs_sub_away (h : Between x q e δ) : |x - (q + e : ℤ)| = 1 - δ := by
  have hlt := h.lt_one
  rw [h.eq]
  rcases h.direction with rfl | rfl
  · rw [abs_sub_comm, abs_of_nonneg]
    · push_cast; ring
    · push_cast; linarith
  · rw [abs_of_nonneg]
    · push_cast; ring
    · push_cast; linarith

/-- Beyond the two neighbours everything is farther away. -/
lemma le_abs_sub (h : Between x q e δ) (m : ℤ) : δ ≤ |x - m| ∨ 1 - δ ≤ |x - m| := by
  have hpos := h.pos
  have hlt := h.lt_one
  rcases h.direction with rfl | rfl
  · have heq : x = q + δ := by simpa using h.eq
    rcases le_or_gt m q with hm | hm
    · have hm' : (m : ℚ) ≤ q := by exact_mod_cast hm
      exact .inl (le_trans (by linarith) (le_abs_self _))
    · have hm' : (q : ℚ) + 1 ≤ m := by exact_mod_cast hm
      exact .inr (le_trans (by linarith) (neg_le_abs _))
  · have heq : x = q - δ := by simpa [sub_eq_add_neg] using h.eq
    rcases le_or_gt q m with hm | hm
    · have hm' : (q : ℚ) ≤ m := by exact_mod_cast hm
      exact .inl (le_trans (by linarith) (neg_le_abs _))
    · have hm' : (m : ℚ) + 1 ≤ q := by exact_mod_cast hm
      exact .inr (le_trans (by linarith) (le_abs_self _))

/-- A nearest integer is one of the two neighbours. -/
lemma eq_or_eq_of_nearest (h : Between x q e δ) (hn : Nearest x n) : n = q ∨ n = q + e := by
  have hpos := h.pos
  have hlt := h.lt_one
  have hclose : |x - n| < 1 := lt_of_le_of_lt (hn q) (h.abs_sub ▸ hlt)
  obtain ⟨hlow, hhigh⟩ := abs_lt.mp hclose
  rcases h.direction with rfl | rfl
  · have heq : x = q + δ := by simpa using h.eq
    have h1 : (n : ℚ) < q + 2 := by linarith
    have h2 : (q : ℚ) - 1 < n := by linarith
    have h1' : n < q + 2 := by exact_mod_cast h1
    have h2' : q - 1 < n := by exact_mod_cast h2
    omega
  · have heq : x = q - δ := by simpa [sub_eq_add_neg] using h.eq
    have h1 : (n : ℚ) < q + 1 := by linarith
    have h2 : (q : ℚ) - 2 < n := by linarith
    have h1' : n < q + 1 := by exact_mod_cast h1
    have h2' : q - 2 < n := by exact_mod_cast h2
    omega

lemma nearest_iff (h : Between x q e δ) :
    Nearest x n ↔ n = q ∧ δ ≤ 1 / 2 ∨ n = q + e ∧ 1 / 2 ≤ δ := by
  constructor
  · intro hn
    have htoward := hn q
    have haway := hn (q + e)
    rw [h.abs_sub] at htoward
    rw [h.abs_sub_away] at haway
    rcases h.eq_or_eq_of_nearest hn with rfl | rfl
    · rw [h.abs_sub] at haway
      exact .inl ⟨rfl, by linarith⟩
    · rw [h.abs_sub_away] at htoward
      exact .inr ⟨rfl, by linarith⟩
  · rintro (⟨rfl, hδ⟩ | ⟨rfl, hδ⟩) m
    · rw [h.abs_sub]
      rcases h.le_abs_sub m with hm | hm
      · exact hm
      · linarith
    · rw [h.abs_sub_away]
      rcases h.le_abs_sub m with hm | hm
      · linarith
      · exact hm

/-- The neighbour away from zero is the larger one. -/
lemma abs_lt_abs_away (h : Between x q e δ) : |q| < |q + e| := by
  have hside := h.side
  rcases h.direction with rfl | rfl
  · rw [abs_of_nonneg (by omega), abs_of_nonneg (by omega)]
    omega
  · rw [abs_of_nonpos (by omega), abs_of_nonpos (by omega)]
    omega

/-- The neighbour that is chosen among the nearest integers, where `ok m n` says
that `n` may be chosen although `m` is as close. The choice matters only for a
half. -/
lemma choice_iff (h : Between x q e δ) (ok : ℤ → ℤ → Prop) (away : Prop) [Decidable away]
    (hself : ∀ n, ok n n) (htoward : ok (q + e) q ↔ ¬ away) (haway : ok q (q + e) ↔ away) :
    (Nearest x n ∧ ∀ m, Nearest x m → ok m n) ↔
      n = if 1 / 2 < δ ∨ 1 / 2 = δ ∧ away then q + e else q := by
  simp only [h.nearest_iff]
  rcases lt_trichotomy (1 / 2) δ with hδ | hδ | hδ
  · simp only [hδ, hδ.le, not_le.mpr hδ, and_false, and_true, false_or, true_or, if_true,
      forall_eq, and_iff_left_iff_imp]
    exact fun hn => hn ▸ hself _
  · simp only [← hδ, le_refl, lt_irrefl, and_true, true_and, false_or, forall_eq_or_imp, forall_eq]
    by_cases hpick : away
    · rw [if_pos hpick]
      constructor
      · rintro ⟨rfl | rfl, -, hok⟩
        · exact absurd hpick (htoward.mp hok)
        · rfl
      · rintro rfl
        exact ⟨.inr rfl, haway.mpr hpick, hself _⟩
    · rw [if_neg hpick]
      constructor
      · rintro ⟨rfl | rfl, hok, -⟩
        · rfl
        · exact absurd (haway.mp hok) hpick
      · rintro rfl
        exact ⟨.inl rfl, hself _, htoward.mpr hpick⟩
  · simp only [hδ.le, not_le.mpr hδ, not_lt.mpr hδ.le, hδ.ne', and_false, and_true, or_false,
      false_and, if_false, forall_eq, and_iff_left_iff_imp]
    exact fun hn => hn ▸ hself _

lemma even_away_iff (h : Between x q e δ) : Even (q + e) ↔ ¬ Even q := by
  rcases h.direction with rfl | rfl
  · exact Int.even_add_one
  · exact Int.even_sub_one

lemma away_ne (h : Between x q e δ) : q + e ≠ q := by
  have := h.direction
  omega

lemma prescribes_halfUp (h : Between x q e δ) :
    RoundingMode.halfUp.Prescribes x n ↔ n = if 1 / 2 ≤ δ then q + e else q := by
  have hsize := h.abs_lt_abs_away
  have hchoice := h.choice_iff (n := n) (fun m n => |m| ≤ |n|) True (fun n => le_refl |n|)
    (by simpa using hsize) (by simpa using hsize.le)
  simp only [and_true, ← le_iff_lt_or_eq] at hchoice
  exact hchoice

lemma prescribes_halfDown (h : Between x q e δ) :
    RoundingMode.halfDown.Prescribes x n ↔ n = if 1 / 2 < δ then q + e else q := by
  have hsize := h.abs_lt_abs_away
  have hchoice := h.choice_iff (n := n) (fun m n => |n| ≤ |m|) False (fun n => le_refl |n|)
    (by simpa using hsize.le) (by simpa using hsize)
  simp only [and_false, or_false] at hchoice
  exact hchoice

lemma prescribes_halfEven (h : Between x q e δ) :
    RoundingMode.halfEven.Prescribes x n ↔
      n = if 1 / 2 < δ ∨ 1 / 2 = δ ∧ ¬ Even q then q + e else q :=
  h.choice_iff (fun m n => m ≠ n → Even n) (¬ Even q) (fun _ hn => absurd rfl hn)
    (by simp [h.away_ne]) (by simp [h.away_ne.symm, h.even_away_iff])

/-- What a mode prescribes for a number between two integers is what
`roundsAway?` decides. The lost digits are given by a number `r` that compares to
`half` as the distance to one half. -/
lemma prescribes_iff (h : Between x q e δ) {mode : RoundingMode} {r half : ℕ} {away : Bool}
    (hle : half ≤ r ↔ 1 / 2 ≤ δ) (hlt : half < r ↔ 1 / 2 < δ)
    (haway : Decimal.roundsAway? mode (decide (e = 1)) q r half = some away) :
    mode.Prescribes x n ↔ n = if away then q + e else q := by
  cases mode with
  | up =>
      obtain rfl : true = away := Option.some.inj haway
      rcases h.direction with rfl | rfl
      · obtain ⟨hx, -, hceil⟩ := h.of_pos
        simp [RoundingMode.Prescribes, hx, hceil]
      · obtain ⟨hx, -, hfloor⟩ := h.of_neg
        simp [RoundingMode.Prescribes, not_le.mpr hx, hfloor, sub_eq_add_neg]
  | down =>
      obtain rfl : false = away := Option.some.inj haway
      rcases h.direction with rfl | rfl
      · obtain ⟨hx, hfloor, -⟩ := h.of_pos
        simp [RoundingMode.Prescribes, hx, hfloor]
      · obtain ⟨hx, hceil, -⟩ := h.of_neg
        simp [RoundingMode.Prescribes, not_le.mpr hx, hceil]
  | ceiling =>
      obtain rfl : decide (e = 1) = away := Option.some.inj haway
      rcases h.direction with rfl | rfl
      · simp [RoundingMode.Prescribes, h.of_pos.2.2]
      · simp [RoundingMode.Prescribes, h.of_neg.2.1]
  | floor =>
      obtain rfl : (!decide (e = 1)) = away := Option.some.inj haway
      rcases h.direction with rfl | rfl
      · simp [RoundingMode.Prescribes, h.of_pos.2.1]
      · simp [RoundingMode.Prescribes, h.of_neg.2.2, sub_eq_add_neg]
  | halfUp =>
      obtain rfl : decide (half ≤ r) = away := Option.some.inj haway
      rw [h.prescribes_halfUp]
      simp only [decide_eq_true_eq, hle]
  | halfDown =>
      obtain rfl : decide (half < r) = away := Option.some.inj haway
      rw [h.prescribes_halfDown]
      simp only [decide_eq_true_eq, hlt]
  | halfEven =>
      obtain rfl : (decide (half < r) || (half == r && q.tmod 2 != 0)) = away :=
        Option.some.inj haway
      have heq : half = r ↔ 1 / 2 = δ := by
        rw [eq_iff_le_not_lt, eq_iff_le_not_lt, hle, hlt]
      have hodd : (q.tmod 2 != 0) = true ↔ ¬ Even q := by
        rw [bne_iff_ne, ne_eq, ← Int.dvd_iff_tmod_eq_zero, even_iff_two_dvd]
      rw [h.prescribes_halfEven]
      simp only [Bool.or_eq_true, Bool.and_eq_true, decide_eq_true_iff, beq_iff_eq, hodd, hlt, heq]
  | unnecessary => exact absurd haway (by simp [Decimal.roundsAway?])

/-- Only a mode that allows no rounding decides nothing, and it prescribes
nothing. -/
lemma not_prescribes (h : Between x q e δ) {mode : RoundingMode} {positive : Bool} {r half : ℕ}
    (hnone : Decimal.roundsAway? mode positive q r half = none) : ¬ mode.Prescribes x n := by
  cases mode with
  | unnecessary => exact h.ne_intCast n
  | _ => simp [Decimal.roundsAway?] at hnone

end Between

/-- The quotient toward zero is a neighbour of a number that is no integer, and
the remainder is the distance to it. -/
lemma between_tdiv {v D : ℤ} (hD : 0 < D) (hr : v.tmod D ≠ 0) :
    Between (v / D) (v.tdiv D) v.sign ((v.tmod D).natAbs / D) := by
  wlog hv : 0 ≤ v generalizing v
  · have hneg := this (v := -v) (by rwa [Int.neg_tmod, neg_ne_zero]) (by omega)
    rw [Int.neg_tmod, Int.neg_tdiv, Int.sign_neg, Int.natAbs_neg, Int.cast_neg, neg_div] at hneg
    simpa using hneg.neg
  have hD' : (0 : ℚ) < D := by exact_mod_cast hD
  have hnonneg : 0 ≤ v.tmod D := Int.tmod_nonneg D hv
  have hpos : 0 < v.tmod D := by omega
  have hlt : v.tmod D < D := Int.tmod_lt_of_pos v hD
  have hv' : 0 < v := by
    rcases hv.lt_or_eq with hlt | rfl
    · exact hlt
    · simp at hr
  have hnatAbs : ((v.tmod D).natAbs : ℚ) = v.tmod D := by
    rw [Nat.cast_natAbs, abs_of_pos hpos]
  rw [hnatAbs, Int.sign_eq_one_of_pos hv']
  refine ⟨.inl rfl, ?_, ?_, ?_, ?_⟩
  · rw [one_mul]
    exact Int.tdiv_nonneg hv hD.le
  · have hsplit : (v : ℚ) = v.tdiv D * D + v.tmod D := by
      exact_mod_cast (Int.tdiv_mul_add_tmod v D).symm
    rw [Int.cast_one, one_mul, div_eq_iff hD'.ne', add_mul, div_mul_cancel₀ _ hD'.ne', ← hsplit]
  · exact div_pos (by exact_mod_cast hpos) hD'
  · rw [div_lt_one hD']
    exact_mod_cast hlt

/-! ### Rounding in two steps -/

lemma floor_floor_div (x : ℚ) (k : ℕ) : ⌊(⌊x⌋ : ℚ) / k⌋ = ⌊x / k⌋ := by
  rw [Int.floor_div_natCast, Int.floor_div_natCast, Int.floor_intCast]

lemma ceil_ceil_div (x : ℚ) (k : ℕ) : ⌈(⌈x⌉ : ℚ) / k⌉ = ⌈x / k⌉ := by
  have hfloor := floor_floor_div (-x) k
  rw [Int.floor_neg, Int.cast_neg, neg_div, neg_div, Int.floor_neg, Int.floor_neg] at hfloor
  exact neg_injective hfloor

/-- **A directed mode can be applied in two steps**: on the way to fewer digits
nothing is gained or lost at a first stop. -/
lemma RoundingMode.Directed.prescribes_div {mode : RoundingMode} (h : mode.Directed) {x : ℚ}
    {n m : ℤ} {k : ℕ} (hk : 0 < k) (hn : mode.Prescribes x n) (hm : mode.Prescribes (n / k) m) :
    mode.Prescribes (x / k) m := by
  have hk' : (0 : ℚ) < k := by exact_mod_cast hk
  have hsign : ∀ y : ℚ, 0 ≤ y / k ↔ 0 ≤ y := fun y => by
    rw [le_div_iff₀ hk', zero_mul]
  cases mode with
  | up =>
      simp only [Prescribes, hsign, Int.cast_nonneg_iff] at hn hm ⊢
      subst hn
      by_cases hx : 0 ≤ x
      · simp only [if_pos hx, if_pos (Int.ceil_nonneg hx)] at hm ⊢
        rw [hm, ceil_ceil_div]
      · have hfloor : ¬ 0 ≤ ⌊x⌋ := by rwa [Int.floor_nonneg]
        simp only [if_neg hx, if_neg hfloor] at hm ⊢
        rw [hm, floor_floor_div]
  | down =>
      simp only [Prescribes, hsign, Int.cast_nonneg_iff] at hn hm ⊢
      subst hn
      by_cases hx : 0 ≤ x
      · simp only [if_pos hx, if_pos (Int.floor_nonneg.mpr hx)] at hm ⊢
        rw [hm, floor_floor_div]
      · -- the first step can reach zero, and then the second one stays there
        simp only [if_neg hx] at hm ⊢
        rw [← ceil_ceil_div]
        split at hm
        next hceil =>
          have hzero : ⌈x⌉ = 0 := le_antisymm (Int.ceil_le.mpr (by push_cast; linarith)) hceil
          rw [hm, hzero]
          simp
        next => exact hm
  | ceiling =>
      simp only [Prescribes] at hn hm ⊢
      rw [hm, hn, ceil_ceil_div]
  | floor =>
      simp only [Prescribes] at hn hm ⊢
      rw [hm, hn, floor_floor_div]
  | _ => exact absurd h (by decide)

end YangTypes
