import ReturnForecast.Proofs.Scoring.EvenSpacing
import ReturnForecast.Proofs.Scoring.ReplayLanes
import ReturnForecast.Scoring.Closes

/-!
# Unusable closes without times

A replay skips the closes that are no usable prices. Where they have no times, a skipped close still
takes its place on the clock, so that the later ones stay where they were. In a table this holds for
a cell that is a number, such as zero. A cell that is none is dropped before the clock is laid out,
and every later close moves up by one spacing.

* `replayEvenly_congr` — a replay depends on the usable closes and their places
* `replayTable_congr` — so does that of a table, by the places among the cells that are numbers
* `unusable_closes_keep_clock` — what unusable cells and closes may be replaced by
* `unusable_cell_moves_clock` — a zero that becomes a word moves what comes after it
-/

namespace ReturnForecast

variable {α : Type} [Scalar α]

/-! ## Places -/

/-- The usable closes of a list, each with its place in the list. -/
def usablePlaces (closes : List α) : List (α × Nat) :=
  closes.zipIdx.filter fun close => isValidPrice close.1

/-- Two closes are the same, or neither is usable. -/
def AlikeOrUnusable (x y : α) : Prop := x = y ∨ isValidPrice x = false ∧ isValidPrice y = false

theorem usablePlaces_congr {closes closes' : List α}
    (h : List.Forall₂ AlikeOrUnusable closes closes') :
    usablePlaces closes = usablePlaces closes' := by
  -- The places are counted from any number on.
  suffices hfrom : ∀ n, ((closes.zipIdx n).filter fun close => isValidPrice close.1) =
      (closes'.zipIdx n).filter fun close => isValidPrice close.1 from hfrom 0
  induction h with
  | nil => exact fun _ => rfl
  | cons halike _ ih =>
    intro n
    rw [List.zipIdx_cons, List.zipIdx_cons, List.filter_cons, List.filter_cons, ih (n + 1)]
    rcases halike with rfl | ⟨hx, hy⟩
    · rfl
    · simp only [hx, hy, Bool.false_eq_true, if_false]

/-- The usable bars of an even spacing are the usable closes at their places. -/
theorem usableBars_evenBars (barMs : Int) (closes : List α) :
    ReplayPlan.usableBars (evenBars barMs closes) =
      ((usablePlaces closes).map fun close =>
        { time := evenTime α barMs close.2, price := close.1 }).filter
          fun bar => Scalar.isFinite bar.time := by
  unfold ReplayPlan.usableBars evenBars usablePlaces
  rw [List.filter_map, List.filter_map, List.filter_filter]
  rfl

/-! ## Replays -/

namespace ReplayPlan

variable (plan : ReplayPlan) (book : Book α) (models : List (String × Predictor α)) (barMs : Int)

/-- The book after closes without times were replayed. -/
def replayEvenly (closes : List α) : Except Fault (Book α) := do
  plan.replay book models (← Bar.evenly barMs closes)

/-- The book after the closes of a table were replayed. -/
def replayTable (read : String → Option α) (table : CsvTable) (column : String)
    (timeColumn : Option String) : Except Fault (Book α) := do
  let series ← CloseSeries.ofTable read table column timeColumn
  plan.replay book models (← series.bars barMs)

/-- **A replay of closes without times depends on the usable ones and their places.** -/
theorem replayEvenly_congr {closes closes' : List α}
    (h : usablePlaces closes = usablePlaces closes') :
    plan.replayEvenly book models barMs closes = plan.replayEvenly book models barMs closes' := by
  by_cases hspacing : Scalar.isFinite (barMs : α) = true
  · have hbars : usableBars (evenBars barMs closes) = usableBars (evenBars barMs closes') := by
      rw [usableBars_evenBars, usableBars_evenBars, h]
    unfold replayEvenly
    rw [evenly_eq hspacing, evenly_eq hspacing]
    show plan.replay book models _ = plan.replay book models _
    rw [replay, replay, ← plan.run_usableBars, hbars, plan.run_usableBars]
  · have hfault := ofInt?_of_infinite (Bool.eq_false_of_not_eq_true hspacing)
    unfold replayEvenly Bar.evenly
    rw [hfault]
    rfl

end ReplayPlan

/-! ## Tables -/

namespace CloseSeries

variable (read : String → Option α)

/-- The closes of the cells that are numbers. -/
def closesOf (cells : List (Option String)) : List α := cells.filterMap (·.bind read)

/-- The cell holds no usable price. -/
def Unusable (cell : Option String) : Prop := ∀ x, cell.bind read = some x → isValidPrice x = false

instance (cell : Option String) : Decidable (Unusable read cell) :=
  decidable_of_iff ((cell.bind read).all fun x => !isValidPrice x) (by
    simp only [Unusable, Option.all_eq_true, Bool.not_eq_true'])

/-- Two cells are the same, or both are unusable, and both are numbers or neither is. -/
def Interchangeable (cell cell' : Option String) : Prop :=
  cell = cell' ∨
    Unusable read cell ∧ Unusable read cell' ∧ (cell.bind read).isSome = (cell'.bind read).isSome

instance (cell cell' : Option String) : Decidable (Interchangeable read cell cell') :=
  inferInstanceAs (Decidable (_ ∨ _))

omit [Scalar α] in
theorem closes_itemsOf (cells : List (Option String)) (timed : Bool) :
    closes { items := itemsOf read cells (cells.map fun _ => none), timed } =
      closesOf read cells := by
  unfold closes itemsOf closesOf
  rw [← List.map_prod_left_eq_zip, List.filterMap_map, List.map_filterMap]
  refine congrArg (List.filterMap · cells) (funext fun cell => ?_)
  show Option.map TimedClose.close ((cell.bind read).map fun close => { close, time := none }) = _
  rw [Option.map_map]
  exact Option.map_id'

variable {read}

/-- Cells that are interchangeable are numbers both, or neither is one. -/
theorem Interchangeable.rel_read {cell cell' : Option String}
    (h : Interchangeable read cell cell') :
    Option.Rel AlikeOrUnusable (cell.bind read) (cell'.bind read) := by
  rcases h with rfl | ⟨hx, hy, hsome⟩
  · cases cell.bind read with
    | none => exact .none
    | some x => exact .some (.inl rfl)
  · cases hcell : cell.bind read with
    | none =>
      rw [hcell, Option.isSome_none, eq_comm, Option.isSome_eq_false_iff,
        Option.isNone_iff_eq_none] at hsome
      rw [hsome]
      exact .none
    | some x =>
      rw [hcell, Option.isSome_some] at hsome
      obtain ⟨y, hcell'⟩ := Option.isSome_iff_exists.mp hsome.symm
      rw [hcell']
      exact .some (.inr ⟨hx x hcell, hy y hcell'⟩)

theorem alike_closesOf {cells cells' : List (Option String)}
    (h : List.Forall₂ (Interchangeable read) cells cells') :
    List.Forall₂ AlikeOrUnusable (closesOf read cells) (closesOf read cells') :=
  List.rel_filterMap (fun _ _ hcell => hcell.rel_read) h

end CloseSeries

namespace ReplayPlan

open CloseSeries

variable (plan : ReplayPlan) (book : Book α) (models : List (String × Predictor α)) (barMs : Int)
  {read : String → Option α} {column : String} {timeColumn : Option String}

theorem replayTable_eq {table : CsvTable} {cells : List (Option String)}
    (hcells : table.column? column = some cells) (htimes : timesOf? table timeColumn = none) :
    plan.replayTable book models barMs read table column timeColumn =
      plan.replayEvenly book models barMs (closesOf read cells) := by
  unfold replayTable ofTable
  rw [hcells]
  simp only [htimes]
  show plan.replay book models =<< Bar.evenly barMs (closes _) = _
  rw [closes_itemsOf]
  rfl

/--
**A replay of a table without times depends on the usable closes and their places** among the cells
that are numbers.
-/
theorem replayTable_congr (read : String → Option α) {table table' : CsvTable}
    {cells cells' : List (Option String)} (hcells : table.column? column = some cells)
    (hcells' : table'.column? column = some cells') (htimes : timesOf? table timeColumn = none)
    (htimes' : timesOf? table' timeColumn = none)
    (h : usablePlaces (closesOf read cells) = usablePlaces (closesOf read cells')) :
    plan.replayTable book models barMs read table column timeColumn =
      plan.replayTable book models barMs read table' column timeColumn := by
  rw [plan.replayTable_eq book models barMs hcells htimes,
    plan.replayTable_eq book models barMs hcells' htimes']
  exact plan.replayEvenly_congr book models barMs h

/--
**Unusable closes keep the clock.** The replay of a table without times stays the same, with its
faults, as long as every usable close keeps its place among the cells that are numbers: so when
unusable cells are replaced by unusable ones, numbers by numbers and others by others. Closes that
are handed over as numbers may be replaced by any unusable ones, such as one that is no number.
-/
theorem unusable_closes_keep_clock {α : Type} [Scalar α] (plan : ReplayPlan) (book : Book α)
    (models : List (String × Predictor α)) (barMs : Int) :
    (∀ (read : String → Option α) (column : String) (timeColumn : Option String)
        (table table' : CsvTable) (cells cells' : List (Option String)),
      table.column? column = some cells → table'.column? column = some cells' →
      timesOf? table timeColumn = none → timesOf? table' timeColumn = none →
      (usablePlaces (closesOf read cells) = usablePlaces (closesOf read cells') →
        plan.replayTable book models barMs read table column timeColumn =
          plan.replayTable book models barMs read table' column timeColumn) ∧
      (List.Forall₂ (Interchangeable read) cells cells' →
        plan.replayTable book models barMs read table column timeColumn =
          plan.replayTable book models barMs read table' column timeColumn)) ∧
    ∀ closes closes' : List α, List.Forall₂ AlikeOrUnusable closes closes' →
      plan.replayEvenly book models barMs closes = plan.replayEvenly book models barMs closes' := by
  refine ⟨fun read column timeColumn table table' cells cells' hcells hcells' htimes htimes' => ?_,
    fun closes closes' h => plan.replayEvenly_congr book models barMs (usablePlaces_congr h)⟩
  have hplaces := plan.replayTable_congr book models barMs read hcells hcells' htimes htimes'
  exact ⟨hplaces, fun h => hplaces (usablePlaces_congr (alike_closesOf h))⟩

/-- A zero becomes a negative number, and a word a missing cell. -/
theorem unusable_closes_keep_clock_mixed_cells :
    let plan : ReplayPlan :=
      { symbol := "REPLAY", market := .spot, horizons := [("2m", 120000)], normalise := false }
    let models : List (String × Predictor Float) :=
      [("fast", .fresh (.scaledMomentum ScaledMomentum.standard))]
    let table (cells : List String) : CsvTable :=
      { header := ["close"], rows := ("100" :: cells ++ ["101"]).map fun cell => [cell] }
    let book (cells : List String) : Except Fault (Book Float) :=
      plan.replayTable (.fresh 1200 60) models 60000 Decimal.readCell? (table cells) "close"
        (some "timestamp")
    book ["0", "bad"] = book ["-5", ""] ∧ book ["0", "bad"] = book ["bad", "0"] ∧
      plan.replayEvenly (.fresh 1200 60) models 60000 [100, 0 / 0, -1, 101] =
        plan.replayEvenly (.fresh 1200 60) models 60000 [100, 0, 0, 101] := by
  intro plan models table book
  have hcells : List.Forall₂ (Interchangeable Decimal.readCell?)
      [some "100", some "0", some "bad", some "101"] [some "100", some "-5", none, some "101"] := by
    decide +kernel
  have hcloses : List.Forall₂ AlikeOrUnusable [100, 0 / 0, -1, 101] [(100 : Float), 0, 0, 101] :=
    .cons (.inl rfl) (.cons (.inr (by decide +kernel)) (.cons (.inr (by decide +kernel))
      (.cons (.inl rfl) .nil)))
  refine ⟨?_, ?_, ?_⟩
  · exact ((unusable_closes_keep_clock plan (.fresh 1200 60) models 60000).1 Decimal.readCell?
      "close" (some "timestamp") (table ["0", "bad"]) (table ["-5", ""]) _ _ rfl rfl rfl rfl).2
        hcells
  · exact ((unusable_closes_keep_clock plan (.fresh 1200 60) models 60000).1 Decimal.readCell?
      "close" (some "timestamp") (table ["0", "bad"]) (table ["bad", "0"]) _ _ rfl rfl rfl rfl).1
        (by decide +kernel)
  · exact (unusable_closes_keep_clock plan (.fresh 1200 60) models 60000).2 _ _ hcloses

/-- One predictor that is replayed a column of three closes. -/
theorem unusable_cell_moves_clock :
    let plan : ReplayPlan :=
      { symbol := "REPLAY", market := .spot, horizons := [("2m", 120000)], normalise := false }
    let models : List (String × Predictor Float) :=
      [("fast", .fresh (.scaledMomentum ScaledMomentum.standard))]
    let table (cell : String) : CsvTable :=
      { header := ["close"], rows := [["100"], [cell], ["101"]] }
    let waiting (cell : String) : Option Nat :=
      (plan.replayTable (.fresh 1200 60) models 60000 Decimal.readCell? (table cell) "close"
        (some "timestamp")).toOption.map fun book => book.pendingCount (plan.key "fast" "2m")
    Unusable Decimal.readCell? (some "bad") ∧ Unusable Decimal.readCell? (some "0") ∧
      waiting "bad" = some 2 ∧ waiting "0" = some 1 := by
  intro plan models table waiting
  exact ⟨by decide +kernel, by decide +kernel, by decide +kernel, by decide +kernel⟩

end ReplayPlan

end ReturnForecast
