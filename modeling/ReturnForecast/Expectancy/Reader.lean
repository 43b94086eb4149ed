import ReturnForecast.Expectancy.Window
import ReturnForecast.Fault
import ReturnForecast.Text.Blank
import ReturnForecast.Text.LetterCase

/-!
# Trade readers

A reader hands out the window of closed trades of a strategy on one instrument, or of a strategy as
a whole. Tags and instruments are compared trimmed and in one case.
-/

namespace ReturnForecast

/-- A tag as it is compared. -/
def normalTag (tag : String) : String := Text.lower (Text.trim tag)

/-- An instrument as it is compared. -/
def normalInstrument (instrument : String) : String := Text.upper (Text.trim instrument)

/-- A source of windows. The number says how many of the most recent trades are wanted. -/
structure TradeReader (α : Type) where
  localWindow : (tag instrument : String) → (lookback : Int) → Except Fault (TradeWindow α)
  globalWindow : (tag : String) → (lookback : Int) → Except Fault (TradeWindow α)

/-- The last items of a list; a number of zero or below drops as many from the start. -/
def lastItems {β : Type} (count : Int) (xs : List β) : List β :=
  if 0 < count then xs.drop (xs.length - count.toNat) else xs.drop (-count).toNat

/-- The first items of a list; a number below zero drops as many from the end. -/
def firstItems {β : Type} (count : Int) (xs : List β) : List β :=
  if 0 ≤ count then xs.take count.toNat else xs.take (xs.length - (-count).toNat)

end ReturnForecast
