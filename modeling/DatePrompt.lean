import DatePrompt.Report.Summary
import DatePrompt.Settings.Load
import DatePrompt.Proofs.Report
import DatePrompt.Proofs.EntryErrors
import DatePrompt.Proofs.ValidReadings
import DatePrompt.Proofs.ClockReads
import DatePrompt.Proofs.TruthfulLog
import DatePrompt.Proofs.LevelFilter
import DatePrompt.Proofs.Weekdays
import DatePrompt.Proofs.JournalDates
import DatePrompt.Proofs.CompletionOutcomes
import DatePrompt.Proofs.ErrorPositions
import DatePrompt.Proofs.Feedback
import DatePrompt.Proofs.FirstFault
import DatePrompt.Proofs.Summary
import DatePrompt.Proofs.SearchReach
