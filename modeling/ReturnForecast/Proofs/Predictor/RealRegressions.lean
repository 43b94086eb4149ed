import ReturnForecast.Proofs.Predictor.RealStates

/-!
# Regressions within the reals

The four kinds that regress keep features and a regression on them. Features are differences, roots,
bounded quotients and means, each taken where it exists; so real returns give real features, and the
regression stays within the reals.

* `RecentReturns.isReal_meanLast` / `MacroFactors.IsReal.features` — means that are features
* `TrendRegression.staysReal`, `MomentumRegression.staysReal`, `Microstructure.staysReal`,
  `MacroRegression.staysReal` — the four kinds
-/

namespace ReturnForecast

open Extended LeastSquares

/-! ## Trend -/

/-- A state of real numbers. -/
structure TrendRegression.State.IsReal (s : State Extended) : Prop where
  fast : s.fast.IsReal
  slow : s.slow.IsReal
  vol2 : s.vol2.IsReal
  residual2 : s.residual2.IsReal
  filter : s.filter.IsReal
  features : AllReal s.features

theorem TrendRegression.isReal_features {r fast slow vol2 : Extended} (hr : r.IsReal)
    (hfast : fast.IsReal) (hslow : slow.IsReal) (hvol2 : vol2.IsReal) :
    AllReal (features r fast slow vol2)
  | 0 => isReal_one
  | 1 => hr
  | 2 => hfast.sub hslow
  | 3 => hvol2.sqrtPos
  | 4 => .sign r

theorem TrendRegression.staysReal {c : Settings Extended}
    (hc : (Settings.trendRegression c).IsReal) :
    (forecaster c).StaysReal State.IsReal fun _ => False := by
  obtain ⟨hfast, hslow, hvol, hforgetting, hridge, hleast⟩ := by
    simpa [ReturnForecast.Settings.IsReal, ReturnForecast.Settings.fields] using hc
  refine ⟨?seed, ?step, ?forecast⟩
  case seed =>
    intro r price hr _
    have hsquare := hr.mul hr
    exact ⟨_, rfl, hr, hr, hsquare, hsquare, Filter.isReal_fresh hforgetting hridge,
      isReal_features hr hr hr hsquare⟩
  case step =>
    intro count s r price hs hr _
    have herror := hr.sub (hs.filter.predict hs.features)
    have hfast := hs.fast.ewma hr hfast.clampUnit
    have hslow := hs.slow.ewma hr hslow.clampUnit
    have hcentered := hr.sub hslow
    have hvol2 := hs.vol2.ewma (hcentered.mul hcentered) hvol.clampUnit
    exact ⟨_, rfl, hfast, hslow, hvol2, hs.residual2.ewma (herror.mul herror) hvol.clampUnit,
      hs.filter.observe hs.features hr, isReal_features hr hfast hslow hvol2⟩
  case forecast =>
    intro fit fallback hs _ hfallback
    exact Estimate.isReal_shrunk (hs.filter.predict hs.features)
      (hs.residual2.sqrtPos.larger hleast) fit.count (by norm_num : (0 : ℝ) < 30.0) hfallback hleast

/-! ## Momentum over several spans -/

/-- All slots of a ring are real. -/
def RecentReturns.IsReal (ring : RecentReturns Extended) : Prop := AllReal ring.slots

theorem RecentReturns.isReal_empty : (empty : RecentReturns Extended).IsReal :=
  allReal_ofFn fun _ => isReal_zero

theorem RecentReturns.IsReal.push {ring : RecentReturns Extended} (h : ring.IsReal) {r : Extended}
    (hr : r.IsReal) : (ring.push r).IsReal := by
  intro i
  show (getElem (ring.slots.setIfInBounds ring.next r) i.val i.isLt).IsReal
  rw [Vector.getElem_setIfInBounds]
  split
  · exact hr
  · exact h i

/-- The mean over a span is taken of at least one return, or it is zero. -/
theorem RecentReturns.isReal_meanLast {ring : RecentReturns Extended} (h : ring.IsReal) {n : Int}
    (hn : 0 ≤ n) : (ring.meanLast n).IsReal := by
  unfold meanLast
  simp only
  split
  · exact isReal_zero
  · next hnone =>
    -- A span that is neither negative nor empty holds a return to divide by.
    refine Extended.IsReal.mean ?_ fun x hx => ?_
    · intro hnil
      have hlength := congrArg List.length hnil
      simp only [newest, List.length_map, List.length_range, List.length_nil] at hlength
      omega
    · obtain ⟨age, -, rfl⟩ := List.mem_map.mp hx
      exact h (Fin.ofNat capacity (ring.next + (capacity - 1) - age))

structure MomentumRegression.State.IsReal (s : State Extended) : Prop where
  recent : s.recent.IsReal
  residual2 : s.residual2.IsReal
  filter : s.filter.IsReal
  features : AllReal s.features

theorem MomentumRegression.isReal_features {recent : RecentReturns Extended}
    (h : recent.IsReal) : AllReal (features recent)
  | 0 => isReal_one
  | 1 => RecentReturns.isReal_meanLast h (by decide)
  | 2 => RecentReturns.isReal_meanLast h (by decide)
  | 3 => RecentReturns.isReal_meanLast h (by decide)
  | 4 => RecentReturns.isReal_meanLast h (by decide)

theorem MomentumRegression.staysReal {c : TrendRegression.Settings Extended}
    (hc : (Settings.momentumRegression c).IsReal) :
    (forecaster c).StaysReal State.IsReal fun _ => False := by
  obtain ⟨hfast, hslow, hvol, hforgetting, hridge, hleast⟩ := by
    simpa [ReturnForecast.Settings.IsReal, ReturnForecast.Settings.fields] using hc
  refine ⟨?seed, ?step, ?forecast⟩
  case seed =>
    intro r price hr _
    have hrecent := RecentReturns.isReal_empty.push hr
    exact ⟨_, rfl, hrecent, isReal_zero, Filter.isReal_fresh hforgetting hridge,
      isReal_features hrecent⟩
  case step =>
    intro count s r price hs hr _
    have herror := hr.sub (hs.filter.predict hs.features)
    have hrecent := hs.recent.push hr
    refine ⟨_, rfl, hrecent, ?_, hs.filter.observe hs.features hr, isReal_features hrecent⟩
    dsimp only [step]
    split
    · exact herror.mul herror
    · exact hs.residual2.ewma (herror.mul herror) hvol.clampUnit
  case forecast =>
    intro fit fallback hs _ hfallback
    exact Estimate.isReal_shrunk (hs.filter.predict hs.features)
      (hs.residual2.sqrtPos.larger hleast) fit.count (by norm_num : (0 : ℝ) < 30.0) hfallback hleast

/-! ## Microstructure -/

namespace Microstructure

structure Statistics.IsReal (s : Statistics Extended) : Prop where
  lastReturn : s.lastReturn.IsReal
  earlierReturn : s.earlierReturn.IsReal
  cube : s.cube.IsReal
  fastVar : s.fastVar.IsReal
  slowVar : s.slowVar.IsReal
  lagCov : s.lagCov.IsReal

structure State.IsReal (s : State Extended) : Prop where
  statistics : s.statistics.IsReal
  residual2 : s.residual2.IsReal
  filter : s.filter.IsReal
  features : AllReal s.features

theorem isReal_features {s : Statistics Extended} {minSigma : Extended} (hs : s.IsReal)
    (hleast : minSigma.IsReal) : AllReal (features s minSigma) := by
  have hsigma := hs.slowVar.sqrtPos.larger hleast
  have hsigma2 := hs.slowVar.larger (isReal_ofScientific 1 true 18)
  have hthree : (3.0 : Extended).IsReal := isReal_ofScientific ..
  have hfive : (5.0 : Extended).IsReal := isReal_ofScientific ..
  have hvolume : ¬ IsZero (3.0 : Extended) := fun h =>
    not_le.mpr (by norm_num : (0 : ℝ) < 3.0) (finite_le.mp h.1)
  intro i
  match i with
  | 0 => exact isReal_one
  | 1 =>
    have hgap := hs.lastReturn.sub hs.earlierReturn
    exact (hgap.ratioAbove (zero_le_ofScientific ..) hsigma).clamp hfive.neg hfive
  | 2 =>
    have hsigma3 := hsigma.mul hsigma2
    exact (hs.cube.ratioAbove (zero_le_ofScientific ..) hsigma3).clamp hfive.neg hfive
  | 3 => exact ((isReal_intCast s.run).div hthree hvolume).tanh
  | 4 =>
    have hgap := hs.fastVar.sub hs.slowVar
    exact (hgap.ratioAbove (zero_le_ofScientific ..) hs.slowVar).clamp hthree.neg hthree
  | 5 =>
    have hratio := hs.lagCov.ratioAbove (zero_le_ofScientific 1 true 18) hsigma2
    exact hratio.clamp isReal_one.neg isReal_one
  | 6 =>
    have hratio := hs.lastReturn.abs.ratioAbove (zero_le_ofScientific 1 true 12) hsigma
    exact hratio.clamp isReal_zero hfive

theorem staysReal {c : Settings Extended} (hc : (Settings.microstructure c).IsReal) :
    (forecaster c).StaysReal State.IsReal fun _ => False := by
  obtain ⟨hfast, hslow, hvar, hforgetting, hridge, hclip, hleast⟩ := by
    simpa [ReturnForecast.Settings.IsReal, ReturnForecast.Settings.fields] using hc
  refine ⟨?seed, ?step, ?forecast⟩
  case seed =>
    intro r price hr _
    have hsquare := hr.mul hr
    have hfirst : (Statistics.first r).IsReal :=
      ⟨hr, isReal_zero, hsquare.mul hr, hsquare, hsquare, isReal_zero⟩
    exact ⟨_, rfl, hfirst, hsquare, Filter.isReal_fresh hforgetting hridge,
      isReal_features hfirst hleast⟩
  case step =>
    intro count s r price hs hr _
    have hsquare := hr.mul hr
    have herror := hr.sub (hs.filter.predict hs.features)
    have hnext : (s.statistics.next c r).IsReal :=
      ⟨hr, hs.statistics.lastReturn, hs.statistics.cube.ewma (hsquare.mul hr) hvar.clampUnit,
        hs.statistics.fastVar.ewma hsquare hfast.clampUnit,
        hs.statistics.slowVar.ewma hsquare hslow.clampUnit,
        hs.statistics.lagCov.ewma (hr.mul hs.statistics.lastReturn) hvar.clampUnit⟩
    exact ⟨_, rfl, hnext, hs.residual2.ewma (herror.mul herror) hvar.clampUnit,
      hs.filter.observe hs.features hr, isReal_features hnext hleast⟩
  case forecast =>
    intro fit fallback hs _ hfallback
    dsimp only [forecaster]
    split
    · exact ⟨fallback, rfl, hfallback⟩
    · have hsigma := hs.residual2.sqrtPos.larger hleast
      have hbound := hclip.mul hsigma
      exact Estimate.isReal_shrunk ((hs.filter.predict hs.features).clamp hbound.neg hbound) hsigma
        fit.count (by norm_num : (0 : ℝ) < 150.0) hfallback hleast

end Microstructure

/-! ## Macro factors -/

/-- Every factor remembers a usable price, if any, and its average is real, if there is one. -/
structure Factor.IsReal (f : Factor Extended) : Prop where
  usable : ∀ price, f.lastPrice = some price → isValidPrice price = true
  average : ∀ a, f.average = some a → a.IsReal

def MacroFactors.IsReal (F : MacroFactors Extended) : Prop := ∀ asset, (F.get asset).IsReal

theorem Factor.isReal_empty : ({} : Factor Extended).IsReal :=
  ⟨fun _ h => (nomatch h), fun _ h => (nomatch h)⟩

/-- A usable price always joins a factor. -/
theorem Factor.IsReal.observe {f : Factor Extended} (hf : f.IsReal) {share price : Extended}
    (hshare : share.IsReal) (hprice : isValidPrice price = true) :
    ∃ next, f.observe share price = .ok next ∧ next.IsReal := by
  unfold Factor.observe
  cases hlast : f.lastPrice with
  | none => exact ⟨_, rfl, fun _ h => Option.some.inj h ▸ hprice, hf.average⟩
  | some last =>
    obtain ⟨hok, hreal⟩ := log?_div hprice (hf.usable last hlast)
    refine exists_ok_bind ⟨_, hok, isReal_iff.mpr hreal⟩ fun r hr => ?_
    refine ⟨_, rfl, fun _ h => Option.some.inj h ▸ hprice, fun a ha => ?_⟩
    cases haverage : f.average with
    | none =>
      rw [haverage] at ha
      exact Option.some.inj ha ▸ hr
    | some average =>
      rw [haverage] at ha
      exact Option.some.inj ha ▸ (hf.average average haverage).ewma hr hshare

/-- No price of an instrument fails at the factors. -/
theorem MacroFactors.IsReal.observe {F : MacroFactors Extended} (hF : F.IsReal) {share : Extended}
    (hshare : share.IsReal) (instrument : String) (price : Extended) :
    ∃ next, F.observe share instrument price = .ok next ∧ next.IsReal := by
  unfold MacroFactors.observe
  split
  · next hprice =>
    cases Asset.ofInstrument? instrument with
    | none => exact ⟨F, rfl, hF⟩
    | some asset =>
      obtain ⟨factor, hfactor, hreal⟩ := (hF asset).observe hshare hprice
      refine ⟨F.set asset factor, by simp only [hfactor, Except.map], fun other => ?_⟩
      rw [get_set]
      split
      · exact hreal
      · exact hF other
  · exact ⟨F, rfl, hF⟩

theorem MacroFactors.IsReal.average {F : MacroFactors Extended} (hF : F.IsReal) (asset : Asset) :
    (F.average asset).IsReal := by
  unfold MacroFactors.average
  cases h : (F.get asset).average with
  | none => exact isReal_zero
  | some a => exact (hF asset).average a h

theorem MacroFactors.IsReal.features {F : MacroFactors Extended} (hF : F.IsReal) :
    AllReal F.features := by
  have haverages : ∀ a ∈ Asset.all.map F.average, a.IsReal := by
    intro a ha
    obtain ⟨asset, -, rfl⟩ := List.mem_map.mp ha
    exact hF.average asset
  have hsome : Asset.all.map F.average ≠ [] := List.cons_ne_nil _ _
  intro i
  match i with
  | 0 => exact isReal_one
  | 1 => exact hF.average .equity
  | 2 => exact hF.average .gold
  | 3 => exact hF.average .oil
  | 4 => exact isReal_spread hsome haverages (.mean hsome haverages)

/-! ## Regression on macro factors -/

structure MacroRegression.State.IsReal (s : State Extended) : Prop where
  residual2 : s.residual2.IsReal
  filter : s.filter.IsReal
  features : AllReal s.features

theorem MacroRegression.staysReal {c : Settings Extended}
    (hc : (Settings.macroRegression c).IsReal) {F : MacroFactors Extended} (hF : F.IsReal) :
    (forecaster c F).StaysReal State.IsReal fun _ => False := by
  obtain ⟨hfactor, hresidual, hforgetting, hridge, hclip, hleast⟩ := by
    simpa [ReturnForecast.Settings.IsReal, ReturnForecast.Settings.fields] using hc
  refine ⟨?seed, ?step, ?forecast⟩
  case seed =>
    intro r price hr _
    exact ⟨_, rfl, isReal_zero, Filter.isReal_fresh hforgetting hridge, hF.features⟩
  case step =>
    intro count s r price hs hr _
    have herror := hr.sub (hs.filter.predict hs.features)
    refine ⟨_, rfl, ?_, hs.filter.observe hs.features hr, hF.features⟩
    dsimp only [step]
    split
    · exact herror.mul herror
    · exact hs.residual2.ewma (herror.mul herror) hresidual.clampUnit
  case forecast =>
    intro fit fallback hs _ hfallback
    have hsigma := hs.residual2.sqrtPos.larger hleast
    have hbound := hclip.mul hsigma
    exact Estimate.isReal_shrunk ((hs.filter.predict hs.features).clamp hbound.neg hbound) hsigma
      fit.count (by norm_num : (0 : ℝ) < 100.0) hfallback hleast

end ReturnForecast
