import ReturnForecast.Proofs.Predictor.RejectedSignals
import ReturnForecast.Proofs.Scoring.ScopeKeys

/-!
# Signals apart

The key of a signal is cut from the left after the instrument and from the right before the side.
What is left is the tag, whatever it holds: separators, names of sides, colons at either end. So two
signals have one key only if they are the same signal, and a price at one of them does not reach the
track of another.

* `signalKey_eq_iff` — signals with the same key
* `Predictor.observeSignal_of_ne` — what a price at a signal leaves alone
* `Predictor.estimateSignal_factors` — the macro factors are no matter to an estimate
* `signals_never_merged` — all of it together
-/

namespace ReturnForecast

/-! ## Two signals with one key -/

/-- The last letter of a name tells the sides apart, and it is no colon. -/
theorem Side.eq_of_getLast?_name {s s' : Side}
    (h : s.name.toList.getLast? = s'.name.toList.getLast?) : s = s' := by
  revert h
  cases s <;> cases s' <;> decide +kernel

theorem Side.getLast?_append_name (cs : List Char) (s : Side) :
    (cs ++ s.name.toList).getLast? = s.name.toList.getLast? := by
  have hname : s.name.toList ≠ [] := by cases s <;> decide +kernel
  rw [List.getLast?_append_of_ne_nil cs hname]

theorem toList_signalKey (instrument tag : String) (side : Side) :
    (signalKey instrument tag side).toList =
      (Text.upper (Text.trim instrument)).toList ++ separatorChars ++
        ((Text.lower (Text.trim tag)).toList ++ separatorChars ++ side.name.toList) := by
  simp [signalKey, keySeparator, separatorChars]

/-- Cut from the right, a tag may hold anything. -/
theorem append_separator_name_inj {cs cs' : List Char} {s s' : Side}
    (h : cs ++ separatorChars ++ s.name.toList = cs' ++ separatorChars ++ s'.name.toList) :
    cs = cs' ∧ s = s' := by
  have hlast := congrArg List.getLast? h
  rw [Side.getLast?_append_name, Side.getLast?_append_name] at hlast
  obtain rfl := Side.eq_of_getLast?_name hlast
  exact ⟨List.append_cancel_right (List.append_cancel_right h), rfl⟩

/-- **Signals with the same key** are the same signal, if their instruments are intact. -/
theorem signalKey_eq_iff {instrument tag instrument' tag' : String} {side side' : Side}
    (h : Intact (Text.upper (Text.trim instrument)).toList)
    (h' : Intact (Text.upper (Text.trim instrument')).toList) :
    signalKey instrument tag side = signalKey instrument' tag' side' ↔
      Text.upper (Text.trim instrument) = Text.upper (Text.trim instrument') ∧
        Text.lower (Text.trim tag) = Text.lower (Text.trim tag') ∧ side = side' := by
  constructor
  · intro hkey
    have hcut := congrArg (fun key : String => cutAtSeparator key.toList) hkey
    simp only [toList_signalKey, cutAtSeparator_append h, cutAtSeparator_append h',
      Option.some.injEq, Prod.mk.injEq] at hcut
    obtain ⟨hinstrument, hrest⟩ := hcut
    obtain ⟨htag, hside⟩ := append_separator_name_inj hrest
    exact ⟨String.toList_inj.mp hinstrument, String.toList_inj.mp htag, hside⟩
  · rintro ⟨hinstrument, htag, rfl⟩
    rw [signalKey, signalKey, hinstrument, htag]

/-! ## A price at another signal -/

theorem readSignalKey_of_read {side : String} {d : Side} (h : Side.read side = .ok d)
    (instrument tag : String) :
    readSignalKey instrument tag side = .ok (signalKey instrument tag d) := by
  rw [readSignalKey, h]
  rfl

variable {α : Type} [Scalar α]

theorem get?_observeAt_of_ne {σ : Type} (f : Forecaster α σ) (tracks : Keyed (Track α σ))
    {key other : String} (h : key ≠ other) (price : α) :
    (observeAt f tracks key price).1.get? other = tracks.get? other := by
  unfold observeAt
  simp only
  split
  · exact Keyed.get?_insert_of_ne tracks _ h
  · exact Keyed.get?_insert_of_ne tracks _ h

namespace Predictor

/--
**What a price at a signal leaves alone:** the tracks of all instruments and those of the other
signals. The macro factors, which have no key, may change.
-/
theorem observeSignal_of_ne (p : Predictor α) {instrument tag side key other : String}
    (hkey : readSignalKey instrument tag side = .ok key) (hne : key ≠ other) (price : α) :
    ∃ signals factors,
      (p.observeSignal instrument tag side price).1 =
        { p with scopes := { p.scopes with signals }, factors } ∧
      signals.get? other = p.scopes.signals.get? other := by
  unfold observeSignal
  cases hfactors : p.observeFactors instrument price with
  | error fault => exact ⟨p.scopes.signals, p.factors, rfl, rfl⟩
  | ok q =>
    obtain ⟨factors, rfl⟩ := observeFactors_eq_ok hfactors
    simp only [hkey]
    exact ⟨_, factors, rfl, get?_observeAt_of_ne _ _ hne price⟩

/-- The macro regression looks at the factors as it learns; no forecast looks at them. -/
theorem estimateSignal_factors (p : Predictor α) (factors : MacroFactors α)
    (instrument tag side : String) (fallback : Estimate α) :
    ({ p with factors } : Predictor α).estimateSignal instrument tag side fallback =
      p.estimateSignal instrument tag side fallback := by
  obtain ⟨settings, scopes, before⟩ := p
  cases settings <;> rfl

/-- An estimate looks at the tracks of its instrument and of its own signal. -/
theorem estimateSignal_congr (p : Predictor α) {signals : Keyed (Track α p.settings.State)}
    {instrument tag side key : String} (hkey : readSignalKey instrument tag side = .ok key)
    (hsame : signals.get? key = p.scopes.signals.get? key) (fallback : Estimate α) :
    ({ p with scopes := { p.scopes with signals } } : Predictor α).estimateSignal instrument tag
        side fallback = p.estimateSignal instrument tag side fallback := by
  unfold estimateSignal
  rw [hkey]
  refine congrArg (_ >>= ·) (funext fun base => ?_)
  show Scopes.estimateSignal _ _ _ key base = Scopes.estimateSignal _ _ _ key base
  unfold Scopes.estimateSignal
  simp only [hsame]
  rfl

end Predictor

/--
**Signals are never merged.** Let two signals have sides, and instruments that, trimmed and in upper
case, neither contain a separator nor end in a colon. They have one key exactly if their
instruments, their tags (trimmed and in lower case) and their sides are the same. If they are not
the same signal, a price at the first leaves the track of the second, and those of all instruments,
as they were. So the estimate of the second is what it was: only the macro factors may have changed,
and these are no matter to an estimate.
-/
theorem signals_never_merged {instrument tag side instrument' tag' side' : String} {d d' : Side} :
    let I := Text.upper (Text.trim instrument)
    let I' := Text.upper (Text.trim instrument')
    let same := I = I' ∧ Text.lower (Text.trim tag) = Text.lower (Text.trim tag') ∧ d = d'
    Side.read side = .ok d → Side.read side' = .ok d' →
    ¬ separatorChars <:+: I.toList ∧ I.toList.getLast? ≠ some ':' →
    ¬ separatorChars <:+: I'.toList ∧ I'.toList.getLast? ≠ some ':' →
      (signalKey instrument tag d = signalKey instrument' tag' d' ↔ same) ∧
      (readSignalKey instrument tag side = readSignalKey instrument' tag' side' ↔ same) ∧
      (¬ same → ∀ (p : Predictor α) (price : α),
        (∃ signals factors,
          (p.observeSignal instrument tag side price).1 =
            { p with scopes := { p.scopes with signals }, factors } ∧
          signals.get? (signalKey instrument' tag' d') =
            p.scopes.signals.get? (signalKey instrument' tag' d')) ∧
        ∀ fallback,
          (p.observeSignal instrument tag side price).1.estimateSignal instrument' tag' side'
              fallback =
            ({ p with factors := (p.observeSignal instrument tag side price).1.factors } :
              Predictor α).estimateSignal instrument' tag' side' fallback ∧
          (p.observeSignal instrument tag side price).1.estimateSignal instrument' tag' side'
              fallback = p.estimateSignal instrument' tag' side' fallback) := by
  intro I I' same hside hside' hI hI'
  have hiff : signalKey instrument tag d = signalKey instrument' tag' d' ↔ same :=
    signalKey_eq_iff (intact_iff.mpr hI) (intact_iff.mpr hI')
  have hread := readSignalKey_of_read hside instrument tag
  have hread' := readSignalKey_of_read hside' instrument' tag'
  refine ⟨hiff, ?_, fun hdiffer p price => ?_⟩
  · rw [hread, hread', Except.ok.injEq]
    exact hiff
  · obtain ⟨signals, factors, hafter, htrack⟩ :=
      p.observeSignal_of_ne hread (fun hkey => hdiffer (hiff.mp hkey)) price
    refine ⟨⟨signals, factors, hafter, htrack⟩, fun fallback => ?_⟩
    rw [hafter]
    have hestimate := ({ p with factors } : Predictor α).estimateSignal_congr hread' htrack fallback
    exact ⟨hestimate, hestimate.trans (p.estimateSignal_factors factors _ _ _ fallback)⟩

/-- A tag that ends like another signal's key is still a tag. -/
theorem signals_never_merged_tag_with_side :
    let p : Predictor ℝ := Predictor.fresh (.ewma Ewma.standard)
    signalKey " btc" "fast::buy" .sell ≠ signalKey "BTC" "Fast" .buy ∧
      ∀ fallback,
        (p.observeSignal " btc" "fast::buy" "Sell" 100).1.estimateSignal "BTC" "Fast" "buy"
          fallback = p.estimateSignal "BTC" "Fast" "buy" fallback := by
  intro p
  have hside : Side.read "Sell" = .ok .sell := by cbv
  have hside' : Side.read "buy" = .ok .buy := by cbv
  have hname : Text.upper (Text.trim " btc") = "BTC" := by decide +kernel
  have hname' : Text.upper (Text.trim "BTC") = "BTC" := by decide +kernel
  have hinstrument : ¬ separatorChars <:+: "BTC".toList ∧ "BTC".toList.getLast? ≠ some ':' := by
    decide +kernel
  obtain ⟨hkeys, -, hestimate⟩ := @signals_never_merged ℝ _ " btc" "fast::buy" "Sell" "BTC" "Fast"
    "buy" .sell .buy hside hside' (hname ▸ hinstrument) (hname'.symm ▸ hinstrument)
  have hdiffer : ¬ (Side.sell = Side.buy) := by decide
  refine ⟨fun hkey => hdiffer (hkeys.mp hkey).2.2, fun fallback => ?_⟩
  exact ((hestimate (fun hsame => hdiffer hsame.2.2) p 100).2 fallback).2

end ReturnForecast
