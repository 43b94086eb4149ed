import ReturnForecast.Proofs.Scalar.RealValued
import ReturnForecast.Proofs.Scalar.DoubleOrder
import ReturnForecast.Expectancy.Window

/-!
# Trades of unknown amount

A window counts its losses twice: for the chance of a win the trades with a loss, and for the chance
of a tail loss the trades that are not at least even. The second ones are the first ones and those
whose amount is NaN. So both counts are over the same trades exactly if no amount is NaN, and give
one total exactly then. A tail loss always is a trade with a loss, and the tail losses never weigh
more than the losses.

* `Signs` — what a comparison with zero says, of a number type with NaN
* `LossCounts` — the trades behind the counts, over any such number type
* `covers_weight_filter` — a part of a window never weighs more than the window
* `weight_filter_eq_iff` — it weighs less if a trade of real age is left out
* `loss_counts_agree` — doubles, and exact numbers with NaN and infinities
* `unknown_amount_counts_as_loss` — a window where the counts differ
-/

namespace ReturnForecast

/-! ## Signs -/

/-- A number is at least zero, negative, or unknown; and what is unknown is below nothing. -/
structure Signs {α : Type} [Scalar α] (unknown : α → Prop) : Prop where
  not_zero_le_iff (x : α) : ¬ 0 ≤ x ↔ x < 0 ∨ unknown x
  not_lt_zero {x : α} : unknown x → ¬ x < 0
  not_le {x : α} : unknown x → ∀ y, ¬ x ≤ y

theorem signs_double : Signs fun x : Float => x.isNaN = true where
  not_zero_le_iff := Double.not_zero_le_iff
  not_lt_zero h := Double.not_lt_of_isNaN h 0
  not_le := Double.not_le_of_isNaN

theorem signs_extended : Signs fun x : Extended => x = .nan where
  not_zero_le_iff x := by
    cases x with
    | nan => exact iff_of_true id (.inr rfl)
    | infinite s =>
      cases s with
      | false => exact iff_of_false (fun h => h rfl) (by rintro (h | h) <;> cases h)
      | true => exact iff_of_true Bool.noConfusion (.inl rfl)
    | finite x =>
      rw [Extended.zero_eq, Extended.finite_le, Extended.finite_lt, not_le]
      exact ⟨.inl, fun h => h.resolve_right Extended.noConfusion⟩
  not_lt_zero := by
    rintro x rfl
    exact id
  not_le := by
    rintro x rfl y
    cases y <;> exact id

namespace TradeWindow

section Signs

variable {α : Type} [Scalar α] {unknown : α → Prop} (hsigns : Signs unknown) {w : TradeWindow α}

include hsigns

theorem mem_notGains_iff {s : TradeSample α} :
    s ∈ w.notGains ↔ s ∈ w.losses ∨ s ∈ w ∧ unknown s.pnl := by
  unfold notGains losses
  rw [List.mem_filter, List.mem_filter, Bool.not_eq_true', decide_eq_false_iff_not,
    hsigns.not_zero_le_iff, decide_eq_true_eq]
  exact and_or_left

theorem notGains_eq_losses (h : ∀ s ∈ w, ¬ unknown s.pnl) : w.notGains = w.losses := by
  refine List.filter_congr fun s hs => ?_
  rw [← decide_not, decide_eq_decide, hsigns.not_zero_le_iff]
  exact or_iff_left (h s hs)

theorem notGains_eq_losses_iff : w.notGains = w.losses ↔ ∀ s ∈ w, ¬ unknown s.pnl := by
  refine ⟨fun h s hs hunknown => ?_, notGains_eq_losses hsigns⟩
  have hmem : s ∈ w.losses := by
    rw [← h, mem_notGains_iff hsigns]
    exact .inr ⟨hs, hunknown⟩
  exact hsigns.not_lt_zero hunknown (of_decide_eq_true (List.mem_filter.mp hmem).2)

theorem losses_eq_filter_notGains : w.losses = w.notGains.filter fun s => s.pnl < 0 := by
  unfold losses notGains
  rw [List.filter_filter]
  refine List.filter_congr fun s _ => ?_
  rw [← decide_not, ← Bool.decide_and, decide_eq_decide]
  exact (and_iff_left_of_imp fun hloss => (hsigns.not_zero_le_iff s.pnl).mpr (.inl hloss)).symm

/-- A tail loss is a trade with a loss. -/
theorem tailLosses_eq (threshold : α) :
    w.tailLosses threshold = w.losses.filter fun s => s.pnl ≤ -threshold := by
  unfold tailLosses notGains losses
  rw [List.filter_filter, List.filter_filter]
  refine List.filter_congr fun s _ => ?_
  rw [← decide_not, ← Bool.decide_and, ← Bool.decide_and, decide_eq_decide]
  refine and_congr_right fun hle => (hsigns.not_zero_le_iff s.pnl).trans (or_iff_left ?_)
  exact fun hunknown => hsigns.not_le hunknown _ hle

end Signs

end TradeWindow

/-! ## Parts of a sum -/

namespace Extended

variable {a b : Extended}

theorem add_nan (a : Extended) : a + nan = nan := by cases a <;> rfl

theorem nan_add (a : Extended) : nan + a = nan := by cases a <;> rfl

/-- What is not negative is NaN or at least zero. -/
theorem eq_nan_or_zero_le (h : ¬ a < 0) : a = nan ∨ 0 ≤ a := by
  by_cases hle : 0 ≤ a
  · exact .inr hle
  · exact .inl (((signs_extended.not_zero_le_iff a).mp hle).resolve_left h)

theorem infinite_add (h : 0 ≤ a) : infinite false + a = infinite false := by
  cases a with
  | nan => exact h.elim
  | infinite s =>
    obtain rfl : s = false := h
    rfl
  | finite x => rfl

theorem zero_le_add (ha : 0 ≤ a) (hb : 0 ≤ b) : 0 ≤ a + b := by
  cases a with
  | nan => exact ha.elim
  | infinite s =>
    obtain rfl : s = false := ha
    rw [infinite_add hb]
    exact rfl
  | finite x =>
    cases b with
    | nan => exact hb.elim
    | infinite t => exact hb
    | finite y => exact finite_le.mpr (add_nonneg (finite_le.mp ha) (finite_le.mp hb))

/-- A sum that is NaN, or else not less than a part of it that is not negative. -/
inductive Covers : Extended → Extended → Prop where
  | nan (part : Extended) : Covers nan part
  | infinite {part : Extended} : 0 ≤ part → Covers (infinite false) part
  | finite {x y : ℝ} : 0 ≤ y → y ≤ x → Covers (finite x) (finite y)

namespace Covers

variable {whole part x : Extended}

theorem not_lt (h : Covers whole part) : ¬ whole < part := by
  cases h with
  | nan => exact id
  | infinite hpart =>
    cases part with
    | nan => exact id
    | infinite t => exact fun hlt => Bool.noConfusion hlt.1
    | finite y => exact Bool.noConfusion
  | finite hy hle => exact mt finite_lt.mp (not_lt_of_ge hle)

theorem add_both (h : Covers whole part) (hx : ¬ x < 0) : Covers (whole + x) (part + x) := by
  rcases eq_nan_or_zero_le hx with rfl | hx
  · rw [add_nan whole]
    exact .nan _
  · cases h with
    | nan =>
      rw [nan_add x]
      exact .nan _
    | infinite hpart =>
      rw [infinite_add hx]
      exact .infinite (zero_le_add hpart hx)
    | finite hy hle =>
      cases x with
      | nan => exact hx.elim
      | infinite t =>
        obtain rfl : t = false := hx
        exact .infinite rfl
      | finite z => exact .finite (add_nonneg hy (finite_le.mp hx)) (add_le_add_left hle z)

theorem add_whole (h : Covers whole part) (hx : ¬ x < 0) : Covers (whole + x) part := by
  rcases eq_nan_or_zero_le hx with rfl | hx
  · rw [add_nan whole]
    exact .nan _
  · cases h with
    | nan =>
      rw [nan_add x]
      exact .nan _
    | infinite hpart =>
      rw [infinite_add hx]
      exact .infinite hpart
    | finite hy hle =>
      cases x with
      | nan => exact hx.elim
      | infinite t =>
        obtain rfl : t = false := hx
        exact .infinite (finite_le.mpr hy)
      | finite z => exact .finite hy (le_add_of_le_of_nonneg hle (finite_le.mp hx))

/-- Adding the values of all items to a sum, and those of some to a part of it. -/
theorem foldl_filter {β : Type} {value : β → Extended} (hvalue : ∀ i, ¬ value i < 0)
    (keep : β → Bool) : ∀ (items : List β) {whole part : Extended}, Covers whole part →
      Covers ((items.map value).foldl (· + ·) whole)
        (((items.filter keep).map value).foldl (· + ·) part)
  | [], _, _, h => h
  | i :: items, _, _, h => by
    -- A value that is kept is added to both sums, any other one only to the whole.
    by_cases hkeep : keep i = true
    · rw [List.filter_cons_of_pos hkeep]
      exact foldl_filter hvalue keep items (h.add_both (hvalue i))
    · rw [List.filter_cons_of_neg hkeep]
      exact foldl_filter hvalue keep items (h.add_whole (hvalue i))

end Covers

/-- An exponential is never negative. -/
theorem not_exp_lt_zero (a : Extended) : ¬ Scalar.exp a < 0 := by
  cases a with
  | nan => exact id
  | infinite s =>
    cases s with
    | false => exact Bool.noConfusion
    | true => exact mt finite_lt.mp (lt_irrefl 0)
  | finite x => exact mt finite_lt.mp (Real.exp_pos x).not_gt

end Extended

namespace TradeWindow

open Extended

/-- **A part of a window never weighs more than the window,** whatever ages and rates are. -/
theorem covers_weight_filter (w : TradeWindow Extended) (rate : Extended)
    (keep : TradeSample Extended → Bool) : Covers (w.weight rate) (weight (w.filter keep) rate) :=
  Covers.foldl_filter (fun _ => not_exp_lt_zero _) keep w (.finite le_rfl le_rfl)

/-- A real age has a weight that is real and positive. -/
theorem exists_recencyWeight {age rate : Extended} (hage : age.IsReal) (hrate : rate.IsReal) :
    ∃ x : ℝ, 0 < x ∧ recencyWeight age rate = finite x := by
  obtain ⟨y, hy⟩ := (hrate.larger isReal_zero).neg.mul (hage.larger isReal_zero)
  exact ⟨Real.exp y, Real.exp_pos y, congrArg Scalar.exp hy⟩

/-- **With real ages, a part of a window weighs as much as the window only if it is all of it.** -/
theorem weight_filter_eq_iff {w : TradeWindow Extended} {rate : Extended}
    (hages : ∀ s ∈ w, s.ageDays.IsReal) (hrate : rate.IsReal)
    (keep : TradeSample Extended → Bool) :
    weight (w.filter keep) rate = w.weight rate ↔ w.filter keep = w := by
  refine ⟨fun hequal => List.filter_eq_self.mpr fun s hs => ?_, fun h => by rw [h]⟩
  by_contra hdropped
  choose! share hshare using fun s hs => exists_recencyWeight (hages s hs) hrate
  have hweight {v : TradeWindow Extended} (hv : v ⊆ w) :
      v.weight rate = finite (v.map share).sum := by
    rw [← total_map_finite, List.map_map]
    exact congrArg total (List.map_congr_left fun s hs => (hshare s (hv hs)).2)
  rw [hweight (List.filter_subset_self w), hweight (List.Subset.refl w)] at hequal
  have hsplit := ((List.filter_append_perm keep w).map share).sum_eq
  rw [List.map_append, List.sum_append, finite.inj hequal] at hsplit
  -- The trades that are left out together weigh nothing, but one of them weighs something.
  have hrest : share s ≤ ((w.filter fun s => !keep s).map share).sum := by
    refine List.single_le_sum (fun x hx => ?_) _ (List.mem_map_of_mem ?_)
    · obtain ⟨t, ht, rfl⟩ := List.mem_map.mp hx
      exact (hshare t (List.mem_of_mem_filter ht)).1.le
    · exact List.mem_filter.mpr ⟨hs, by simpa using hdropped⟩
  linarith [(hshare s hs).1]

/-! ## Counts -/

/-- The trades behind the counts of losses, where some amounts may be unknown. -/
structure LossCounts {α : Type} [Scalar α] (unknown : α → Prop) (w : TradeWindow α)
    (rate threshold : α) : Prop where
  /-- The count for tail losses is over the trades with a loss and those of unknown amount. -/
  mem_notGains (s : TradeSample α) :
    s ∈ w.notGains ↔ s ∈ w.losses ∨ s ∈ w ∧ unknown s.pnl
  same_trades : w.notGains = w.losses ↔ ∀ s ∈ w, ¬ unknown s.pnl
  same_total : (∀ s ∈ w, ¬ unknown s.pnl) →
    (w.tailEvents rate threshold).2 = (w.winLoss rate).2
  tailLosses : w.tailLosses threshold = w.losses.filter fun s => s.pnl ≤ -threshold

theorem lossCounts_of_signs {α : Type} [Scalar α] {unknown : α → Prop} (hsigns : Signs unknown)
    (w : TradeWindow α) (rate threshold : α) : LossCounts unknown w rate threshold where
  mem_notGains _ := mem_notGains_iff hsigns
  same_trades := notGains_eq_losses_iff hsigns
  same_total h := congrArg (weight · rate) (notGains_eq_losses hsigns h)
  tailLosses := tailLosses_eq hsigns threshold

/-- The tail losses never weigh more than either count of losses. -/
theorem not_winLoss_lt_tail (w : TradeWindow Extended) (rate threshold : Extended) :
    ¬ (w.winLoss rate).2 < (w.tailEvents rate threshold).1 := by
  show ¬ w.losses.weight rate < (w.tailLosses threshold).weight rate
  rw [tailLosses_eq signs_extended]
  exact (covers_weight_filter w.losses rate _).not_lt

/-- Trades of real age weigh something, so that totals tell whether one is counted. -/
theorem tailEvents_eq_winLoss_iff {w : TradeWindow Extended} {rate : Extended}
    (hages : ∀ s ∈ w, s.ageDays.IsReal) (hrate : rate.IsReal) (threshold : Extended) :
    (w.tailEvents rate threshold).2 = (w.winLoss rate).2 ↔ ∀ s ∈ w, ¬ s.pnl = nan := by
  have hnotGains : ∀ s ∈ w.notGains, s.ageDays.IsReal :=
    fun s hs => hages s (List.mem_of_mem_filter hs)
  show w.notGains.weight rate = w.losses.weight rate ↔ _
  rw [← notGains_eq_losses_iff signs_extended, losses_eq_filter_notGains signs_extended, eq_comm,
    weight_filter_eq_iff hnotGains hrate]
  exact eq_comm

/--
**The two counts of losses agree where no amount is NaN.** They are over the same trades exactly
then, for doubles as for exact numbers, and with real ages they give one total exactly then. The
tail losses, all of them trades with a loss, never weigh more than either count.
-/
theorem loss_counts_agree (d : TradeWindow Float) (r t : Float) (w : TradeWindow Extended)
    (rate threshold : Extended) :
    LossCounts (fun x => x.isNaN = true) d r t ∧
      LossCounts (fun x => x = nan) w rate threshold ∧
      ¬ (w.tailEvents rate threshold).2 < (w.tailEvents rate threshold).1 ∧
      ¬ (w.winLoss rate).2 < (w.tailEvents rate threshold).1 ∧
      ((∀ s ∈ w, s.ageDays.IsReal) → rate.IsReal →
        ((w.tailEvents rate threshold).2 = (w.winLoss rate).2 ↔ ∀ s ∈ w, ¬ s.pnl = nan)) :=
  ⟨lossCounts_of_signs signs_double d r t,
    lossCounts_of_signs signs_extended w rate threshold,
    (covers_weight_filter w.notGains rate _).not_lt, not_winLoss_lt_tail w rate threshold,
    fun hages hrate => tailEvents_eq_winLoss_iff hages hrate threshold⟩

/-- A win, a loss and two infinite amounts: all known, so that both counts agree. -/
theorem loss_counts_agree_infinite_amounts :
    let w : TradeWindow Extended := [{ ageDays := 0, pnl := finite 12, holdingMs := 60000 },
      { ageDays := finite 3, pnl := finite (-20), holdingMs := 0 },
      { ageDays := finite 1, pnl := infinite true, holdingMs := 1 },
      { ageDays := finite (-2), pnl := infinite false, holdingMs := 5 }]
    (∀ s ∈ w, ¬ s.pnl = nan) ∧ (∀ s ∈ w, s.ageDays.IsReal) ∧
      (w.tailEvents (finite 0.08) (finite 15)).2 = (w.winLoss (finite 0.08)).2 ∧
      ¬ (w.winLoss (finite 0.08)).2 < (w.tailEvents (finite 0.08) (finite 15)).1 := by
  intro w
  have hknown : ∀ s ∈ w, ¬ s.pnl = nan := by simp [w]
  have hages : ∀ s ∈ w, s.ageDays.IsReal := by simp [w, isReal_zero, isReal_finite]
  obtain ⟨-, -, -, hle, hiff⟩ := loss_counts_agree [] 0.08 15 w (finite 0.08) (finite 15)
  exact ⟨hknown, hages, (hiff hages (isReal_finite _)).mpr hknown, hle⟩

/-- A single trade whose amount is NaN is a loss in one count and not in the other. -/
theorem unknown_amount_counts_as_loss :
    let d : TradeWindow Float := [{ ageDays := 0, pnl := 0 / 0, holdingMs := 0 }]
    let w : TradeWindow Extended := [{ ageDays := 0, pnl := nan, holdingMs := 0 }]
    d.losses = [] ∧ d.notGains = d ∧
      (w.winLoss 0).2 = 0 ∧ (w.tailEvents 0 15).2 = finite 1 ∧
      (w.tailEvents 0 15).2 ≠ (w.winLoss 0).2 := by
  intro d w
  have hnan : (0 / 0 : Float).isNaN = true := by decide
  have hlosses : d.losses = [] :=
    List.filter_cons_of_neg (by simpa using Double.not_lt_of_isNaN hnan 0)
  have hnotGains : d.notGains = d := by
    have hnotGain : ¬ (0 : Float) ≤ 0 / 0 := (Double.not_zero_le_iff _).mpr (.inr hnan)
    exact List.filter_cons_of_pos (by simpa using hnotGain)
  have hone : recencyWeight (0 : Extended) 0 = finite 1 := by
    have hzero : larger (0 : Extended) 0 = 0 := ite_self 0
    show exp (-larger 0 0 * larger 0 0) = finite 1
    rw [hzero]
    show finite (Real.exp (-0 * 0)) = finite 1
    rw [mul_zero, Real.exp_zero]
  have hwinLoss : (w.winLoss 0).2 = 0 := by
    have hnone : w.losses = [] :=
      List.filter_cons_of_neg (by simpa using signs_extended.not_lt_zero rfl)
    show w.losses.weight 0 = 0
    rw [hnone]
    rfl
  have htail : (w.tailEvents 0 15).2 = finite 1 := by
    have hall : w.notGains = w :=
      List.filter_cons_of_pos (by simpa using (signs_extended.not_zero_le_iff nan).mpr (.inr rfl))
    show w.notGains.weight 0 = finite 1
    rw [hall]
    show 0 + recencyWeight (0 : Extended) 0 = finite 1
    rw [hone]
    show finite (0 + 1) = finite 1
    rw [zero_add]
  refine ⟨hlosses, hnotGains, hwinLoss, htail, ?_⟩
  rw [hwinLoss, htail]
  intro hequal
  exact one_ne_zero (finite.inj hequal)

end TradeWindow

end ReturnForecast
