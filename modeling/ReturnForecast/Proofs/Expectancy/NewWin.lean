import ReturnForecast.Proofs.Expectancy.WinShare

/-!
# A further win

A win that joins both windows raises both posteriors, and it raises the weight of the trades of the
instrument. It can still lower the chance of a win: the weight moves from the posterior of all
trades to that of the instrument, which may be the smaller one.

* `winPosterior_le_of_win` — a posterior does not fall with a win
* `localWeight_mono` — the weight of the instrument does not fall with its trades
* `winChance_change` — the change of the chance, in parts
* `win_moves_weight` — what a further win does to the snapshots of an estimator
* `win_lowers_chance` — a journal where it lowers the chance
-/

namespace ReturnForecast

/-! ## Posteriors -/

/-- A share does not fall when the same is added to the part and to the whole. -/
theorem div_larger_le_add {part whole least v : ℝ} (hleast : 0 < least) (hpart : 0 ≤ part)
    (h : part ≤ whole) (hv : 0 ≤ v) :
    part / larger whole least ≤ (part + v) / larger (whole + v) least := by
  rw [larger_eq_max, larger_eq_max]
  have hpos : 0 < max whole least := hleast.trans_le (le_max_right _ _)
  have hpos' : 0 < max (whole + v) least := hleast.trans_le (le_max_right _ _)
  have hmax : max (whole + v) least ≤ max whole least + v :=
    max_le (add_le_add_left (le_max_left _ _) v) (le_add_of_le_of_nonneg (le_max_right _ _) hv)
  have hle : part ≤ max whole least := h.trans (le_max_left _ _)
  rw [div_le_div_iff₀ hpos hpos']
  calc part * max (whole + v) least ≤ part * (max whole least + v) :=
        mul_le_mul_of_nonneg_left hmax hpart
    _ = part * max whole least + v * part := by ring
    _ ≤ part * max whole least + v * max whole least :=
        add_le_add_right (mul_le_mul_of_nonneg_left hle hv) _
    _ = (part + v) * max whole least := by ring

namespace TradeWindow

theorem posterior_le_add {a b hits others v : ℝ} (ha : 0 ≤ a) (hb : 0 ≤ b) (hhits : 0 ≤ hits)
    (hothers : 0 ≤ others) (hv : 0 ≤ v) :
    posterior a b hits others ≤ posterior a b (hits + v) others := by
  have hle : a + hits ≤ a + b + hits + others := by linarith
  have hleast : (0 : ℝ) < 1e-9 := by norm_num
  have hmore := div_larger_le_add hleast (add_nonneg ha hhits) hle hv
  have hwhole : a + b + hits + others + v = a + b + (hits + v) + others := by ring
  rwa [hwhole, add_assoc a hits v] at hmore

theorem weight_cons (s : TradeSample ℝ) (w : TradeWindow ℝ) (rate : ℝ) :
    weight (s :: w) rate = w.weight rate + recencyWeight s.ageDays rate := by
  rw [weight_eq_sum, weight_eq_sum, List.map_cons, List.sum_cons, add_comm]

section Win

variable {win : TradeSample ℝ} (hwin : 0 < win.pnl) {w v : TradeWindow ℝ} {rate : ℝ}
  (h : v.Perm (win :: w))

include h

theorem effectiveCount_of_joined :
    v.effectiveCount rate = w.effectiveCount rate + recencyWeight win.ageDays rate :=
  (weight_perm h).trans (weight_cons win w rate)

include hwin

theorem winLoss_of_win :
    v.winLoss rate =
      ((w.winLoss rate).1 + recencyWeight win.ageDays rate, (w.winLoss rate).2) := by
  have hwins : v.wins.Perm (win :: w.wins) := by
    refine (h.filter _).trans (.of_eq ?_)
    exact List.filter_cons_of_pos (decide_eq_true hwin)
  have hlosses : v.losses.Perm w.losses := by
    refine (h.filter _).trans (.of_eq ?_)
    exact List.filter_cons_of_neg (by simpa using hwin.le)
  unfold winLoss
  rw [weight_perm hwins, weight_cons, weight_perm hlosses]

/-- **A posterior does not fall with a win.** -/
theorem winPosterior_le_of_win {a b : ℝ} (ha : 0 ≤ a) (hb : 0 ≤ b) :
    w.winPosterior rate a b ≤ v.winPosterior rate a b := by
  unfold winPosterior
  rw [winLoss_of_win hwin h]
  exact posterior_le_add ha hb (weight_nonneg _ _) (weight_nonneg _ _)
    (recencyWeight_pos win.ageDays rate).le

end Win

end TradeWindow

/-! ## Chances -/

namespace Expectancy

open TradeWindow

/-- The weight of the instrument's own trades does not fall with their number. -/
theorem localWeight_mono (c : Settings ℝ) {x y : ℝ} (hx : 0 ≤ x) (h : x ≤ y) :
    localWeight c x ≤ localWeight c y := by
  have hpull := c.pull_pos
  have hless : c.pull / (y + c.pull) ≤ c.pull / (x + c.pull) :=
    div_le_div_of_nonneg_left hpull.le (by linarith) (by linarith)
  rw [← one_sub_localWeight c hx, ← one_sub_localWeight c (hx.trans h)] at hless
  linarith

variable {c : Settings ℝ} {own own' all all' : TradeWindow ℝ}

/--
The chance of a win changes by what each posterior gains, less what the weight that moves from the
posterior of all trades costs.
-/
theorem winChance_change : winChance c own' all' - winChance c own all =
    c.ownWeight own * (c.winShare own' - c.winShare own) +
      (1 - c.ownWeight own') * (c.winShare all' - c.winShare all) -
      (c.ownWeight own' - c.ownWeight own) * (c.winShare all - c.winShare own') := by
  rw [winChance_eq, winChance_eq]
  ring

/-- What a further win in both windows does. -/
structure FurtherWin (c : Settings ℝ) (own own' all all' : TradeWindow ℝ) (s s' : Snapshot ℝ) :
    Prop where
  own_le : c.winShare own ≤ c.winShare own'
  all_le : c.winShare all ≤ c.winShare all'
  weight_le : c.ownWeight own ≤ c.ownWeight own'
  /-- The chance falls if the weight that moves costs more than the posteriors gain. -/
  falls_iff : s'.probability.win < s.probability.win ↔
    c.ownWeight own * (c.winShare own' - c.winShare own) +
      (1 - c.ownWeight own') * (c.winShare all' - c.winShare all) <
      (c.ownWeight own' - c.ownWeight own) * (c.winShare all - c.winShare own')
  /-- It does not if the instrument, with the win, does as well as all trades did without it. -/
  rises : c.winShare all ≤ c.winShare own' → s.probability.win ≤ s'.probability.win

theorem furtherWin {win : TradeSample ℝ} {s s' : Snapshot ℝ} (hA : 0 ≤ c.priorA)
    (hB : 0 ≤ c.priorB) (hwin : 0 < win.pnl) (hown : own'.Perm (win :: own))
    (hall : all'.Perm (win :: all)) (hs : s.probability.win = winChance c own all)
    (hs' : s'.probability.win = winChance c own' all') : FurtherWin c own own' all all' s s' := by
  have hcount : 0 ≤ own.effectiveCount c.recencyRate := weight_nonneg _ _
  have hmore : own.effectiveCount c.recencyRate ≤ own'.effectiveCount c.recencyRate := by
    rw [effectiveCount_of_joined hown]
    exact le_add_of_nonneg_right (recencyWeight_pos _ _).le
  have hownLe : c.winShare own ≤ c.winShare own' := winPosterior_le_of_win hwin hown hA hB
  have hallLe : c.winShare all ≤ c.winShare all' := winPosterior_le_of_win hwin hall hA hB
  have hweight : c.ownWeight own ≤ c.ownWeight own' := localWeight_mono c hcount hmore
  have hnonneg : 0 ≤ c.ownWeight own := (c.ownWeight_mem own).1
  have hle : c.ownWeight own' ≤ 1 := (c.ownWeight_mem own').2
  have hchange : winChance c own' all' - winChance c own all = _ := winChance_change
  rw [← hs, ← hs'] at hchange
  refine ⟨hownLe, hallLe, hweight, ?_, fun hbetter => ?_⟩
  · -- The change is the difference of the two sides.
    rw [← sub_neg, hchange, sub_neg]
  · -- Now the weight moves to a posterior that is no smaller.
    have hgain := mul_nonneg hnonneg (sub_nonneg.mpr hownLe)
    have hgain' := mul_nonneg (sub_nonneg.mpr hle) (sub_nonneg.mpr hallLe)
    have hcost := mul_nonpos_of_nonneg_of_nonpos (sub_nonneg.mpr hweight) (sub_nonpos.mpr hbetter)
    linarith

end Expectancy

/-! ## Journals -/

theorem lastItems_of_length_le {β : Type} {count : Int} {xs : List β} (hpos : 0 < count)
    (h : xs.length ≤ count) : lastItems count xs = xs := by
  have hnone : xs.length - count.toNat = 0 := by omega
  rw [lastItems, if_pos hpos, hnone, List.drop_zero]

namespace TradeJournal

variable {α : Type} (j : TradeJournal α) (tag instrument : String) (sample : TradeSample α)

theorem ofScope_add : (j.add tag instrument sample).ofScope tag instrument =
    j.ofScope tag instrument ++ [sample] := by
  simp [ofScope, add]

theorem ofTag_add : (j.add tag instrument sample).ofTag tag = j.ofTag tag ++ [sample] := by
  simp [ofTag, add]

theorem length_ofScope_le : (j.ofScope tag instrument).length ≤ (j.ofTag tag).length := by
  rw [ofScope, ofTag, List.length_map, List.length_map]
  refine (List.monotone_filter_right _ fun e h => ?_).length_le
  exact (Bool.and_eq_true_iff.mp h).1

variable {tag} {lookback : Int} (h : (j.ofTag tag).length ≤ lookback) (hpos : 0 < lookback)

include h hpos

theorem globalWindow_of_le : j.reader.globalWindow tag lookback = .ok (j.ofTag tag) :=
  congrArg Except.ok (lastItems_of_length_le hpos h)

theorem localWindow_of_le :
    j.reader.localWindow tag instrument lookback = .ok (j.ofScope tag instrument) := by
  have hle := j.length_ofScope_le tag instrument
  exact congrArg Except.ok (lastItems_of_length_le hpos (by omega))

end TradeJournal

/-! ## Estimators -/

namespace Expectancy

open TradeWindow

/-- An estimator looks at all trades of a journal that fit in the lookback. -/
theorem exists_journal_win (c : Settings ℝ) (j : TradeJournal ℝ) {tag : String} {lookback : Int}
    (hroom : (j.ofTag tag).length ≤ max lookback 1) (instrument : String) (nowMs : Int) :
    ∃ s, Estimator.estimate ⟨c, j.reader, lookback⟩ tag instrument nowMs = .ok s ∧
      s.probability.win = winChance c (j.ofScope tag instrument) (j.ofTag tag) := by
  have hpos : 0 < max lookback 1 := by omega
  exact exists_estimate_win ⟨c, j.reader, lookback⟩ tag instrument nowMs
    (j.localWindow_of_le instrument hroom hpos) (j.globalWindow_of_le hroom hpos)

section FurtherWin

variable {tag instrument : String} {win : TradeSample ℝ} (hwin : 0 < win.pnl)

include hwin

theorem estimates_furtherWin (e e' : Estimator ℝ) {own own' all all' : TradeWindow ℝ}
    (hA : 0 ≤ e.settings.priorA) (hB : 0 ≤ e.settings.priorB) (hsettings : e'.settings = e.settings)
    (hown : own'.Perm (win :: own)) (hall : all'.Perm (win :: all))
    (hlocal : e.reader.localWindow tag instrument e.depth = .ok own)
    (hglobal : e.reader.globalWindow tag e.depth = .ok all)
    (hlocal' : e'.reader.localWindow tag instrument e'.depth = .ok own')
    (hglobal' : e'.reader.globalWindow tag e'.depth = .ok all') (nowMs nowMs' : Int) :
    ∃ s s', e.estimate tag instrument nowMs = .ok s ∧ e'.estimate tag instrument nowMs' = .ok s' ∧
      FurtherWin e.settings own own' all all' s s' := by
  obtain ⟨s, hs, hchance⟩ := exists_estimate_win e tag instrument nowMs hlocal hglobal
  obtain ⟨s', hs', hchance'⟩ := exists_estimate_win e' tag instrument nowMs' hlocal' hglobal'
  rw [hsettings] at hchance'
  exact ⟨s, s', hs, hs', furtherWin hA hB hwin hown hall hchance hchance'⟩

/-- A journal with room for one more trade within the lookback pushes none out. -/
theorem journal_furtherWin {c : Settings ℝ} (hA : 0 ≤ c.priorA) (hB : 0 ≤ c.priorB)
    (j : TradeJournal ℝ) {lookback : Int} (hroom : (j.ofTag tag).length < max lookback 1)
    (nowMs nowMs' : Int) :
    ∃ s s', Estimator.estimate ⟨c, j.reader, lookback⟩ tag instrument nowMs = .ok s ∧
      Estimator.estimate ⟨c, (j.add tag instrument win).reader, lookback⟩ tag instrument nowMs' =
        .ok s' ∧
      FurtherWin c (j.ofScope tag instrument) (j.ofScope tag instrument ++ [win]) (j.ofTag tag)
        (j.ofTag tag ++ [win]) s s' := by
  have hroom' : ((j.add tag instrument win).ofTag tag).length ≤ max lookback 1 := by
    rw [j.ofTag_add, List.length_append, List.length_singleton]
    omega
  obtain ⟨s, hs, hchance⟩ := exists_journal_win c j hroom.le instrument nowMs
  obtain ⟨s', hs', hchance'⟩ :=
    exists_journal_win c (j.add tag instrument win) hroom' instrument nowMs'
  rw [j.ofScope_add, j.ofTag_add] at hchance'
  exact ⟨s, s', hs, hs', furtherWin hA hB hwin (List.perm_append_singleton _ _)
    (List.perm_append_singleton _ _) hchance hchance'⟩

end FurtherWin

/--
**What a further win does to an estimate.** It raises both posteriors and the weight of the
instrument; the chance of a win falls only where the weight that moves to the instrument costs more
than both gain. So a win written down in a journal, where the lookback has room for it, does not
lower the chance of a strategy that trades nothing else.
-/
theorem win_moves_weight :
    (∀ (e e' : Estimator ℝ) (tag instrument : String) (nowMs nowMs' : Int) (win : TradeSample ℝ)
        (own own' all all' : TradeWindow ℝ),
      0 ≤ e.settings.priorA → 0 ≤ e.settings.priorB → 0 < win.pnl → e'.settings = e.settings →
      own'.Perm (win :: own) → all'.Perm (win :: all) →
      e.reader.localWindow tag instrument e.depth = .ok own →
      e.reader.globalWindow tag e.depth = .ok all →
      e'.reader.localWindow tag instrument e'.depth = .ok own' →
      e'.reader.globalWindow tag e'.depth = .ok all' →
      ∃ s s', e.estimate tag instrument nowMs = .ok s ∧
        e'.estimate tag instrument nowMs' = .ok s' ∧
        FurtherWin e.settings own own' all all' s s') ∧
    ∀ (c : Settings ℝ) (j : TradeJournal ℝ) (lookback : Int) (tag instrument : String)
        (nowMs nowMs' : Int) (win : TradeSample ℝ),
      0 ≤ c.priorA → 0 ≤ c.priorB → 0 < win.pnl → (j.ofTag tag).length < max lookback 1 →
      ∃ s s', Estimator.estimate ⟨c, j.reader, lookback⟩ tag instrument nowMs = .ok s ∧
        Estimator.estimate ⟨c, (j.add tag instrument win).reader, lookback⟩ tag instrument nowMs' =
          .ok s' ∧
        FurtherWin c (j.ofScope tag instrument) (j.ofScope tag instrument ++ [win]) (j.ofTag tag)
          (j.ofTag tag ++ [win]) s s' ∧
        (j.ofScope tag instrument = j.ofTag tag → s.probability.win ≤ s'.probability.win) := by
  refine ⟨fun e e' tag instrument nowMs nowMs' win own own' all all' hA hB hwin hsettings hown hall
      hlocal hglobal hlocal' hglobal' => estimates_furtherWin hwin e e' hA hB hsettings hown hall
        hlocal hglobal hlocal' hglobal' nowMs nowMs',
    fun c j lookback tag instrument nowMs nowMs' win hA hB hwin hroom => ?_⟩
  obtain ⟨s, s', hs, hs', hfurther⟩ := journal_furtherWin hwin hA hB j hroom nowMs nowMs'
  refine ⟨s, s', hs, hs', hfurther, fun honly => hfurther.rises ?_⟩
  rw [← honly]
  exact hfurther.own_le

/-- A win for a strategy with a win and a loss, all of them on one instrument. -/
theorem win_moves_weight_one_instrument :
    let earlier : TradeSample ℝ := { ageDays := 2, pnl := 12, holdingMs := 60000 }
    let loss : TradeSample ℝ := { ageDays := 1, pnl := -5, holdingMs := 0 }
    let win : TradeSample ℝ := { ageDays := 0, pnl := 3, holdingMs := 1 }
    let among (trades : TradeWindow ℝ) : Estimator ℝ :=
      { settings := .standard
        reader := { localWindow := fun _ _ _ => .ok trades, globalWindow := fun _ _ => .ok trades }
        lookback := 3 }
    let j := (({} : TradeJournal ℝ).add "trend" "BTC" earlier).add "trend" "BTC" loss
    (∃ s s', (among [loss, earlier]).estimate "trend" "BTC" 0 = .ok s ∧
      (among [win, loss, earlier]).estimate "trend" "BTC" 5 = .ok s' ∧
      FurtherWin .standard [loss, earlier] [win, loss, earlier] [loss, earlier]
        [win, loss, earlier] s s') ∧
    ∃ s s', Estimator.estimate ⟨.standard, j.reader, 3⟩ "trend" "BTC" 0 = .ok s ∧
      Estimator.estimate ⟨.standard, (j.add "trend" "BTC" win).reader, 3⟩ "trend" "BTC" 5 =
        .ok s' ∧
      s.probability.win ≤ s'.probability.win := by
  intro earlier loss win among j
  have hA : (0 : ℝ) ≤ (Settings.standard : Settings ℝ).priorA := by norm_num [Settings.standard]
  have hB : (0 : ℝ) ≤ (Settings.standard : Settings ℝ).priorB := by norm_num [Settings.standard]
  have hwin : 0 < win.pnl := by norm_num [win]
  have hscope : j.ofScope "trend" "BTC" = [earlier, loss] := by
    rw [TradeJournal.ofScope_add, TradeJournal.ofScope_add]
    rfl
  have htag : j.ofTag "trend" = [earlier, loss] := by
    rw [TradeJournal.ofTag_add, TradeJournal.ofTag_add]
    rfl
  constructor
  · exact win_moves_weight.1 (among [loss, earlier]) (among [win, loss, earlier]) "trend" "BTC" 0 5
      win _ _ _ _ hA hB hwin rfl (.refl _) (.refl _) rfl rfl rfl rfl
  · obtain ⟨s, s', hs, hs', -, hle⟩ := win_moves_weight.2 .standard j 3 "trend" "BTC" 0 5 win hA hB
      hwin (by rw [htag]; decide)
    exact ⟨s, s', hs, hs', hle (hscope.trans htag.symm)⟩

/-- A win on an instrument that was not traded before, where the strategy has won elsewhere. -/
theorem win_lowers_chance :
    let win : TradeSample ℝ := { ageDays := 0, pnl := 1, holdingMs := 0 }
    let c : Settings ℝ :=
      { Settings.standard with priorA := 1, priorB := 1, shrinkCount := 1, recencyRate := 0 }
    let j := (({} : TradeJournal ℝ).add "trend" "ETH" win).add "trend" "ETH" win
    (j.ofTag "trend").length < (max 10 1 : Int) ∧
    ∃ s s', Estimator.estimate ⟨c, j.reader, 10⟩ "trend" "BTC" 0 = .ok s ∧
      Estimator.estimate ⟨c, (j.add "trend" "BTC" win).reader, 10⟩ "trend" "BTC" 0 = .ok s' ∧
      s.probability.win = 3 / 4 ∧ s'.probability.win = 11 / 15 ∧
      s'.probability.win < s.probability.win := by
  intro win c j
  have hother : ¬ normalInstrument "ETH" = normalInstrument "BTC" := by decide +kernel
  have hscope : j.ofScope "trend" "BTC" = [] := by
    simp [j, TradeJournal.ofScope, TradeJournal.add, hother]
  have hscope' : (j.add "trend" "BTC" win).ofScope "trend" "BTC" = [win] := by
    rw [TradeJournal.ofScope_add, hscope]
    rfl
  have htag : j.ofTag "trend" = [win, win] := by
    rw [TradeJournal.ofTag_add, TradeJournal.ofTag_add]
    rfl
  have htag' : (j.add "trend" "BTC" win).ofTag "trend" = [win, win, win] := by
    rw [TradeJournal.ofTag_add, htag]
    rfl
  have hcount (w : TradeWindow ℝ) : w.weight c.recencyRate = w.length := weight_of_no_decay le_rfl w
  have hbefore : winChance c [] [win, win] = 3 / 4 := by
    unfold winChance winPosterior winLoss effectiveCount
    simp only [hcount]
    norm_num [wins, losses, win, c, posterior, larger_eq_max, localWeight]
  have hafter : winChance c [win] [win, win, win] = 11 / 15 := by
    unfold winChance winPosterior winLoss effectiveCount
    simp only [hcount]
    norm_num [wins, losses, win, c, posterior, larger_eq_max, localWeight]
  have hroom : (j.ofTag "trend").length < (max 10 1 : Int) := by
    rw [htag]
    decide
  have hroom' : ((j.add "trend" "BTC" win).ofTag "trend").length ≤ (max 10 1 : Int) := by
    rw [htag']
    decide
  obtain ⟨s, hs, hchance⟩ := exists_journal_win c j hroom.le "BTC" 0
  obtain ⟨s', hs', hchance'⟩ := exists_journal_win c (j.add "trend" "BTC" win) hroom' "BTC" 0
  rw [hscope, htag] at hchance
  rw [hscope', htag'] at hchance'
  have hwin : s.probability.win = 3 / 4 := hchance.trans hbefore
  have hwin' : s'.probability.win = 11 / 15 := hchance'.trans hafter
  refine ⟨hroom, s, s', hs, hs', hwin, hwin', ?_⟩
  rw [hwin, hwin']
  norm_num

end Expectancy

end ReturnForecast
