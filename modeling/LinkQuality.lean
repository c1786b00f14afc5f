import LinkQuality.Main
import LinkQuality.Replay.Basic
import LinkQuality.Proofs.Exact
import LinkQuality.Proofs.Standing.Score
import LinkQuality.Proofs.Standing.Run
import LinkQuality.Proofs.Standing.Recovery
import LinkQuality.Proofs.Standing.GivingUp
import LinkQuality.Proofs.Forest.Memory
import LinkQuality.Proofs.Forest.Secondary
import LinkQuality.Proofs.Forest.Probability
import LinkQuality.Proofs.Forest.Handover
import LinkQuality.Proofs.Forest.Descent
import LinkQuality.Proofs.Forest.Records
import LinkQuality.Proofs.Forest.Recall
import LinkQuality.Proofs.Trend.Hold
import LinkQuality.Proofs.Standing.Blocking
import LinkQuality.Proofs.Standing.Steady
import LinkQuality.Proofs.Forest.Scores
import LinkQuality.Proofs.Binary64.Order
import LinkQuality.Proofs.Forest.Worsening
import LinkQuality.Proofs.Binary64.Whole
import LinkQuality.Proofs.Binary64.Rounding
import LinkQuality.Proofs.Binary64.Values
import LinkQuality.Proofs.Binary64.Operations
import LinkQuality.Proofs.Binary64.Undefined
import LinkQuality.Proofs.Settings.Sound
import LinkQuality.Proofs.Trend.Handover
import LinkQuality.Proofs.Forest.Offset
import LinkQuality.Proofs.Scorer
import LinkQuality.Proofs.Trend.Range
import LinkQuality.Proofs.Trend.Covariance
import LinkQuality.Proofs.Trend.Operations
import LinkQuality.Proofs.Trend.Steady
import LinkQuality.Proofs.Forest.Rounded
import LinkQuality.Proofs.Classification
import LinkQuality.Proofs.Forest.Scanning
import LinkQuality.Proofs.Settings.Reported
import LinkQuality.Proofs.Json.Numerals
import LinkQuality.Proofs.Json.Words
import LinkQuality.Proofs.Json.Reading
import LinkQuality.Proofs.Json.Records
import LinkQuality.Proofs.Telemetry.Bssid
import LinkQuality.Proofs.Telemetry.Wire
import LinkQuality.Proofs.Replay
import LinkQuality.Proofs.Standing.Sliding
import LinkQuality.Proofs.Standing.Better
import LinkQuality.Proofs.Forest.Override
import LinkQuality.Proofs.Forest.Evidence
import LinkQuality.Proofs.Undefined
import LinkQuality.Proofs.Interval.Restarts
import LinkQuality.Proofs.Interval.Ratios
import LinkQuality.Proofs.Summary
import LinkQuality.Proofs.Trend.Shift
import LinkQuality.Proofs.Decay
import LinkQuality.Proofs.Trend.Probing
import LinkQuality.Proofs.Trend.Averages
import LinkQuality.Proofs.Trend.Polling
import LinkQuality.Proofs.Trend.Scale
import LinkQuality.Proofs.Forest.Votes
import LinkQuality.Proofs.Simulation.Course
import LinkQuality.Proofs.Simulation.WalkAway
