import CronClock.Command.Session
import CronClock.Main
import CronClock.Settings
import CronClock.Proofs.Date
import CronClock.Proofs.Wall
import CronClock.Proofs.Moment
import CronClock.Proofs.Correction
import CronClock.Proofs.Budget
import CronClock.Proofs.Search
import CronClock.Proofs.Rules
import CronClock.Proofs.Dial
import CronClock.Proofs.Combinations
import CronClock.Proofs.NextExact
import CronClock.Proofs.RealTime
import CronClock.Proofs.SystemTime
import CronClock.Proofs.RequestedSleep
import CronClock.Proofs.FiringRounds
import CronClock.Proofs.FiringOrder
import CronClock.Proofs.Enumeration
import CronClock.Proofs.Punctuality
import CronClock.Proofs.FiringEnumeration
import CronClock.Proofs.Numeral
import CronClock.Proofs.SmallLetters
import CronClock.Proofs.Grammar
import CronClock.Proofs.UpcomingOrder
import CronClock.Proofs.Reference
import CronClock.Proofs.FixedPoint
import CronClock.Proofs.FiringFaults
import CronClock.Proofs.FiringForms
import CronClock.Proofs.Splitting
import CronClock.Proofs.Compression
import CronClock.Proofs.Description
import CronClock.Proofs.Judgement
import CronClock.Proofs.Assembly
import CronClock.Proofs.Overlong
import CronClock.Proofs.Letters
import CronClock.Proofs.Steps
import CronClock.Proofs.ExpressionText
import CronClock.Proofs.SkippedTime
import CronClock.Proofs.SessionExit
