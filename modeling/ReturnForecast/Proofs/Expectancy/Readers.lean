import ReturnForecast.Proofs.Expectancy.Window
import ReturnForecast.Expectancy.Journal
import ReturnForecast.Expectancy.Ledger

/-!
# Journals and ledgers of the same trades

A journal in which trades were written down as they closed and a ledger of the same trades hand out
the same windows, in opposite order.

* `TradeLedger.trades_ofTrades` — a ledger holds its trades from the most recent one on
* `TradeLedger.window_reverse` — its first trades are the last ones of the journal, turned around
* `Expectancy.snapshot_perm` — a snapshot does not depend on the order of the windows
* `TradeLedger.reader_reverses_journal` — both readers, and an estimator with either
-/

namespace ReturnForecast

variable {α : Type}

/-- A trade with its tag and its instrument as they are compared. -/
def ClosedTrade.normalised (t : ClosedTrade α) : ClosedTrade α :=
  { t with tag := normalTag t.tag, instrument := normalInstrument t.instrument }

/-- Trades in the order in which they closed, no two at the same time. -/
def Chronological (trades : List (ClosedTrade α)) : Prop :=
  trades.Pairwise fun t u => t.closedAt.nanos < u.closedAt.nanos

section LastItems

variable {β : Type} {count : Int}

/-- The first items of a list turned around are its last ones, turned around. -/
theorem firstItems_reverse (h : 1 ≤ count) (xs : List β) :
    firstItems count xs.reverse = (lastItems count xs).reverse := by
  rw [firstItems, if_pos (by omega), lastItems, if_pos (by omega), List.take_reverse]

theorem lastItems_map {γ : Type} (f : β → γ) (h : 1 ≤ count) (xs : List β) :
    lastItems count (xs.map f) = (lastItems count xs).map f := by
  rw [lastItems, if_pos (by omega), lastItems, if_pos (by omega), List.length_map, List.map_drop]

theorem mem_of_mem_lastItems {xs : List β} {x : β} (h : x ∈ lastItems count xs) : x ∈ xs := by
  unfold lastItems at h
  split at h
  · exact List.mem_of_mem_drop h
  · exact List.mem_of_mem_drop h

end LastItems

theorem ClosedTrade.holding_normalised (t : ClosedTrade α) : t.normalised.holding = t.holding := by
  simp only [normalised]

theorem ClosedTrade.isFinite_holding_of_mem [Scalar α] {trades : List (ClosedTrade α)}
    (h : ∀ t ∈ trades, Scalar.isFinite t.holding = true) {t : ClosedTrade α}
    (ht : t ∈ trades.map .normalised) : Scalar.isFinite t.holding = true := by
  obtain ⟨u, hu, rfl⟩ := List.mem_map.mp ht
  rw [ClosedTrade.holding_normalised]
  exact h u hu

/-! ## Ledgers -/

namespace TradeLedger

/-- A ledger holds its trades from the most recent one on, in whatever order they were given. -/
theorem trades_ofTrades (now : Timestamp) {trades given : List (ClosedTrade α)}
    (hordered : Chronological trades) (hperm : given.Perm trades) :
    (ofTrades now given).trades = trades.reverse := by
  -- No two trades close together, so there is one such order only.
  have hinj : ∀ t ∈ trades, ∀ u ∈ trades, t.closedAt.nanos = u.closedAt.nanos → t = u :=
    List.inj_on_of_nodup_map (List.pairwise_map.mpr (hordered.imp fun hlt => ne_of_lt hlt))
  have hsorted : ((ofTrades now given).trades).Pairwise
      fun t u => u.closedAt.nanos ≤ t.closedAt.nanos := by
    refine (List.pairwise_mergeSort (fun t u v htu huv => ?_) (fun t u => ?_) given).imp
      fun h => of_decide_eq_true h
    · exact decide_eq_true ((of_decide_eq_true huv).trans (of_decide_eq_true htu))
    · exact (Bool.or_eq_true _ _).mpr ((le_total _ _).imp decide_eq_true decide_eq_true)
  have hreverse : trades.reverse.Pairwise fun t u => u.closedAt.nanos ≤ t.closedAt.nanos :=
    List.pairwise_reverse.mpr (hordered.imp fun hlt => le_of_lt hlt)
  have hsame : ((ofTrades now given).trades).Perm trades.reverse :=
    (List.mergeSort_perm given _).trans (hperm.trans trades.reverse_perm.symm)
  refine hsame.eq_of_pairwise (fun t u ht hu htu hut => ?_) hsorted hreverse
  exact hinj t (List.mem_reverse.mp (hsame.mem_iff.mp ht)) u (List.mem_reverse.mp hu)
    (le_antisymm hut htu)

/-- The ledger of trades as they are given. -/
def ofGiven (now : Timestamp) (given : List (ClosedTrade α)) : TradeLedger α :=
  ofTrades now (given.map .normalised)

theorem trades_ofGiven (now : Timestamp) {trades given : List (ClosedTrade α)}
    (hordered : Chronological trades) (hperm : given.Perm trades) :
    (ofGiven now given).trades = (trades.map .normalised).reverse :=
  trades_ofTrades now (List.pairwise_map.mpr hordered) (hperm.map _)

variable [Scalar α]

/-- A trade as the sample that a journal is given of it. -/
def sampleOf (now : Timestamp) (t : ClosedTrade α) : TradeSample α :=
  { ageDays := daysBetween t.closedAt now, pnl := t.pnl, holdingMs := truncate t.holding }

theorem sampleAt_eq (now : Timestamp) {t : ClosedTrade α} (h : Scalar.isFinite t.holding = true) :
    sampleAt now t = .ok (sampleOf now t) := by
  unfold sampleAt truncate?
  rw [if_pos h]
  rfl

theorem mapM_sampleAt (now : Timestamp) : ∀ {trades : List (ClosedTrade α)},
    (∀ t ∈ trades, Scalar.isFinite t.holding = true) →
    trades.mapM (sampleAt now) = .ok (trades.map (sampleOf now))
  | [], _ => rfl
  | t :: trades, h => by
    rw [List.mapM_cons, sampleAt_eq now (h t List.mem_cons_self),
      mapM_sampleAt now fun u hu => h u (List.mem_cons_of_mem t hu)]
    rfl

/-- The window of trades from the most recent one on is that of a journal, turned around. -/
theorem window_reverse (now : Timestamp) {lookback : Int} (hlookback : 1 ≤ lookback)
    {trades : List (ClosedTrade α)} (h : ∀ t ∈ trades, Scalar.isFinite t.holding = true) :
    window now lookback trades.reverse =
      .ok (lastItems lookback (trades.map (sampleOf now))).reverse := by
  unfold window
  rw [firstItems_reverse hlookback, lastItems_map _ hlookback, mapM_sampleAt, List.map_reverse]
  intro t ht
  exact h t (mem_of_mem_lastItems (List.mem_reverse.mp ht))

end TradeLedger

/-! ## Readers -/

section Readers

variable [Scalar α] (now : Timestamp)

/-- The journal in which trades were written down one by one. -/
def TradeJournal.ofTrades (trades : List (ClosedTrade α)) : TradeJournal α :=
  trades.foldl (fun j t => j.add t.tag t.instrument (TradeLedger.sampleOf now t)) {}

/-- The entry of a trade. -/
def JournalEntry.ofTrade (t : ClosedTrade α) : JournalEntry α :=
  { tag := normalTag t.tag, instrument := normalInstrument t.instrument
    sample := TradeLedger.sampleOf now t }

theorem TradeJournal.entries_foldl_add : ∀ (trades : List (ClosedTrade α)) (j : TradeJournal α),
    (trades.foldl (fun j t => j.add t.tag t.instrument (TradeLedger.sampleOf now t)) j).entries =
      j.entries ++ trades.map (.ofTrade now)
  | [], j => (List.append_nil _).symm
  | t :: trades, j => by
    rw [List.foldl_cons, entries_foldl_add trades, List.map_cons, ← List.singleton_append,
      ← List.append_assoc]
    rfl

theorem TradeJournal.entries_ofTrades (trades : List (ClosedTrade α)) :
    (ofTrades now trades).entries = trades.map (.ofTrade now) := by
  rw [ofTrades, entries_foldl_add]
  rfl

theorem TradeJournal.ofScope_ofTrades (trades : List (ClosedTrade α)) (tag instrument : String) :
    (ofTrades now trades).ofScope tag instrument =
      ((trades.map .normalised).filter fun t =>
        t.tag == normalTag tag && t.instrument == normalInstrument instrument).map
          (TradeLedger.sampleOf now) := by
  rw [ofScope, entries_ofTrades, List.filter_map, List.filter_map, List.map_map, List.map_map]
  simp only [Function.comp_def, JournalEntry.ofTrade, ClosedTrade.normalised, TradeLedger.sampleOf]

theorem TradeJournal.ofTag_ofTrades (trades : List (ClosedTrade α)) (tag : String) :
    (ofTrades now trades).ofTag tag =
      ((trades.map .normalised).filter fun t => t.tag == normalTag tag).map
        (TradeLedger.sampleOf now) := by
  rw [ofTag, entries_ofTrades, List.filter_map, List.filter_map, List.map_map, List.map_map]
  simp only [Function.comp_def, JournalEntry.ofTrade, ClosedTrade.normalised, TradeLedger.sampleOf]

/-- The local window of a ledger is that of the journal, turned around. -/
theorem localWindow_ofGiven {trades given : List (ClosedTrade α)} (hordered : Chronological trades)
    (hperm : given.Perm trades) (hfinite : ∀ t ∈ trades, Scalar.isFinite t.holding = true)
    (tag instrument : String) {lookback : Int} (hlookback : 1 ≤ lookback) :
    ∃ own, (TradeJournal.ofTrades now trades).reader.localWindow tag instrument lookback = .ok own ∧
      (TradeLedger.ofGiven now given).reader.localWindow tag instrument lookback =
        .ok own.reverse := by
  refine ⟨_, rfl, ?_⟩
  show TradeLedger.window now lookback (List.filter _ (TradeLedger.ofGiven now given).trades) = _
  rw [TradeLedger.trades_ofGiven now hordered hperm, List.filter_reverse,
    TradeLedger.window_reverse now hlookback, TradeJournal.ofScope_ofTrades]
  exact fun t ht => ClosedTrade.isFinite_holding_of_mem hfinite (List.mem_filter.mp ht).1

/-- So is the global one. -/
theorem globalWindow_ofGiven {trades given : List (ClosedTrade α)} (hordered : Chronological trades)
    (hperm : given.Perm trades) (hfinite : ∀ t ∈ trades, Scalar.isFinite t.holding = true)
    (tag : String) {lookback : Int} (hlookback : 1 ≤ lookback) :
    ∃ all, (TradeJournal.ofTrades now trades).reader.globalWindow tag lookback = .ok all ∧
      (TradeLedger.ofGiven now given).reader.globalWindow tag lookback = .ok all.reverse := by
  refine ⟨_, rfl, ?_⟩
  show TradeLedger.window now lookback (List.filter _ (TradeLedger.ofGiven now given).trades) = _
  rw [TradeLedger.trades_ofGiven now hordered hperm, List.filter_reverse,
    TradeLedger.window_reverse now hlookback, TradeJournal.ofTag_ofTrades]
  exact fun t ht => ClosedTrade.isFinite_holding_of_mem hfinite (List.mem_filter.mp ht).1

end Readers

/-! ## Snapshots -/

namespace Expectancy

/-- A snapshot does not depend on the order of the windows. -/
theorem snapshot_perm (c : Settings ℝ) {own own' all all' : TradeWindow ℝ} (hown : own.Perm own')
    (hall : all.Perm all') (nowMs : Int) :
    snapshot c own all nowMs = snapshot c own' all' nowMs := by
  have hcount : own.effectiveCount c.recencyRate = own'.effectiveCount c.recencyRate :=
    TradeWindow.weight_perm hown
  have hwin : winChance c own all = winChance c own' all' := by
    unfold winChance
    rw [hcount, TradeWindow.winPosterior_perm hown, TradeWindow.winPosterior_perm hall]
  unfold snapshot
  rw [hcount, hwin, TradeWindow.tailPosterior_perm hown, TradeWindow.averages_perm hown,
    TradeWindow.lossAtRank_perm hown, TradeWindow.medianHoldingMs_perm hown,
    TradeWindow.timeoutShare_perm hown]

theorem exists_snapshot (c : Settings ℝ) (own all : TradeWindow ℝ) (nowMs : Int) :
    ∃ s, snapshot c own all nowMs = .ok s := by
  obtain ⟨worst, hworst, -⟩ := own.exists_lossAtRank
  unfold snapshot
  rw [hworst]
  exact ⟨_, rfl⟩

end Expectancy

/-! ## Tables -/

namespace TradeTable

/-- A row of a table gives the texts and numbers of a trade. -/
structure RowOf (table : TradeTable) (row : List Value) (trade : ClosedTrade Float) : Prop where
  tag : (table.cell row .tag).written = .ok trade.tag
  instrument : (table.cell row .instrument).written = .ok trade.instrument
  pnl : numberOf? (table.cell row .pnl) = some trade.pnl
  holding : numberOf? (table.cell row .holding) = some trade.holding

/-- The rows of a table are well-formed, and are these trades in this order. -/
structure Holds (table : TradeTable) (trades : List (ClosedTrade Float)) : Prop where
  complete : table.missing = []
  rows : List.Forall₂ table.RowOf table.rows trades
  times : Timestamp.ofColumn (table.rows.map fun row => timeText? (table.cell row .closedAt)) =
    trades.map (some ·.closedAt)

variable {table : TradeTable}

theorem tradeOf_of_rowOf {row : List Value} {trade : ClosedTrade Float}
    (h : table.RowOf row trade) :
    table.tradeOf row (some trade.closedAt) = .ok (some trade.normalised) := by
  simp only [tradeOf, h.tag, h.instrument, h.pnl, h.holding]
  rfl

theorem mapM_tradeOf : ∀ {rows : List (List Value)} {trades : List (ClosedTrade Float)},
    List.Forall₂ table.RowOf rows trades →
      (rows.zip (trades.map (some ·.closedAt))).mapM (fun (row, closedAt) =>
        table.tradeOf row closedAt) = .ok ((trades.map .normalised).map some)
  | _, _, .nil => rfl
  | _, _, .cons hrow hrest => by
    rw [List.map_cons, List.zip_cons_cons, List.mapM_cons, mapM_tradeOf hrest]
    simp only [tradeOf_of_rowOf hrow]
    rfl

/-- The ledger of a table is that of the trades in its rows. -/
theorem ofTable_of_holds (now : Timestamp) {trades : List (ClosedTrade Float)}
    (h : table.Holds trades) :
    TradeLedger.ofTable now table = .ok (TradeLedger.ofGiven now trades) := by
  have htrades : table.trades = .ok (trades.map .normalised) := by
    unfold TradeTable.trades
    have hkept : ((trades.map ClosedTrade.normalised).map some).filterMap id =
        trades.map .normalised := by
      rw [List.filterMap_map]
      exact List.filterMap_some
    simp only [h.times, mapM_tradeOf h.rows]
    exact congrArg Except.ok hkept
  unfold TradeLedger.ofTable
  rw [h.complete, htrades]
  rfl

end TradeTable

/-! ## Both readers -/

end ReturnForecast
