import ReturnForecast.PriceMove
import ReturnForecast.Expectancy.Estimator
import ReturnForecast.Expectancy.Forward
import ReturnForecast.Expectancy.Journal
import ReturnForecast.Expectancy.Ledger
import ReturnForecast.Main
import ReturnForecast.Proofs.Scalar.Real
import ReturnForecast.Proofs.LeastSquares.Batch
import ReturnForecast.Proofs.Scalar.Extended
import ReturnForecast.Proofs.Scalar.Double
import ReturnForecast.Proofs.Scoring.Queue
import ReturnForecast.Proofs.Scoring.Window
import ReturnForecast.Proofs.Scoring.Lane
import ReturnForecast.Proofs.Scoring.History
import ReturnForecast.Proofs.Predictor.Streams
import ReturnForecast.Proofs.Predictor.Counting
import ReturnForecast.Proofs.Scoring.ReplayLanes
import ReturnForecast.Proofs.Scoring.Outcomes
import ReturnForecast.Proofs.Scoring.RunningAverage
import ReturnForecast.Proofs.Scoring.EvenSpacing
import ReturnForecast.Proofs.Expectancy.Window
import ReturnForecast.Proofs.Expectancy.Bounds
import ReturnForecast.Proofs.Expectancy.Readers
import ReturnForecast.Proofs.PriceMove.NormalLaw
import ReturnForecast.Proofs.PriceMove.WinChance
import ReturnForecast.Proofs.Predictor.Requote
import ReturnForecast.Proofs.Predictor.UnitOfAccount
import ReturnForecast.Proofs.Predictor.InvertedQuote
import ReturnForecast.Proofs.Predictor.Lessons
import ReturnForecast.Proofs.LeastSquares.Design
import ReturnForecast.Proofs.Predictor.NoLookAhead
import ReturnForecast.Proofs.Predictor.FactorAverages
import ReturnForecast.Proofs.Scoring.ScopeKeys
import ReturnForecast.Proofs.Predictor.RejectedSignals
import ReturnForecast.Proofs.Scalar.DoubleOrder
import ReturnForecast.Proofs.Predictor.SigmaFloor
import ReturnForecast.Proofs.Predictor.Domains
import ReturnForecast.Proofs.Predictor.SignalKeys
import ReturnForecast.Proofs.Configuration.RoundTrip
import ReturnForecast.Proofs.Configuration.Rows
import ReturnForecast.Proofs.Configuration.Faults
import ReturnForecast.Proofs.Scoring.SigmaUnits
import ReturnForecast.Proofs.Scoring.UnusableCloses
import ReturnForecast.Proofs.Expectancy.WinShare
import ReturnForecast.Proofs.Expectancy.NewWin
import ReturnForecast.Proofs.Expectancy.CurrencyUnit
import ReturnForecast.Proofs.Expectancy.Ageing
import ReturnForecast.Proofs.Expectancy.WorstCase
import ReturnForecast.Proofs.Expectancy.UnknownAmounts
import ReturnForecast.Proofs.Model.LevelPath
import ReturnForecast.Proofs.Model.LearnedScale
import ReturnForecast.Proofs.Model.Reversal
import ReturnForecast.Proofs.Model.CommonMean
import ReturnForecast.Proofs.Predictor.DriftCap
import ReturnForecast.Proofs.PriceMove.CertainMove
import ReturnForecast.Proofs.PriceMove.ContractSize
import ReturnForecast.Proofs.Predictor.RepeatedTicks
import ReturnForecast.Proofs.Scoring.Figures
import ReturnForecast.Proofs.Scoring.LostPredictions
import ReturnForecast.Proofs.LeastSquares.BadFeatures
import ReturnForecast.Proofs.Configuration.Spelling
import ReturnForecast.Proofs.Model.NewestReturns
import ReturnForecast.Proofs.Model.SignRuns
