import ReturnForecast.Expectancy.Reader

/-!
# Journals of trades

Trades written down as they close, oldest first, each with its tag and instrument. The window of a
scope is the end of its list.
-/

namespace ReturnForecast

/-- A trade under its tag and instrument, as these are compared. -/
structure JournalEntry (α : Type) where
  tag : String
  instrument : String
  sample : TradeSample α
deriving DecidableEq, Repr

/-- Trades in the order in which they were written down. -/
structure TradeJournal (α : Type) where
  entries : List (JournalEntry α) := []

namespace TradeJournal

variable {α : Type}

/-- Writes a trade down. -/
def add (j : TradeJournal α) (tag instrument : String) (sample : TradeSample α) : TradeJournal α :=
  ⟨j.entries ++ [⟨normalTag tag, normalInstrument instrument, sample⟩]⟩

/-- The trades of a tag on an instrument. -/
def ofScope (j : TradeJournal α) (tag instrument : String) : TradeWindow α :=
  (j.entries.filter fun e =>
    e.tag == normalTag tag && e.instrument == normalInstrument instrument).map (·.sample)

/-- The trades of a tag. -/
def ofTag (j : TradeJournal α) (tag : String) : TradeWindow α :=
  (j.entries.filter fun e => e.tag == normalTag tag).map (·.sample)

/-- The journal as a reader. -/
def reader (j : TradeJournal α) : TradeReader α where
  localWindow tag instrument lookback := .ok (lastItems lookback (j.ofScope tag instrument))
  globalWindow tag lookback := .ok (lastItems lookback (j.ofTag tag))

end TradeJournal

end ReturnForecast
