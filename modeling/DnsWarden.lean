import DnsWarden.Command
import DnsWarden.Helper
import DnsWarden.Json.Reader
import DnsWarden.Json.Writer
import DnsWarden.Lookup
import DnsWarden.NameserverFile
import DnsWarden.Settings.Patch
import DnsWarden.Simulation.Child
import DnsWarden.Simulation.Parts
import DnsWarden.Simulation.Play
import DnsWarden.Simulation.Switches
import DnsWarden.Proofs.Frame
import DnsWarden.Proofs.Stride
import DnsWarden.Proofs.OneProcess
import DnsWarden.Proofs.Pointing
import DnsWarden.Proofs.Owing
import DnsWarden.Proofs.Refusals
import DnsWarden.Proofs.Stopping
import DnsWarden.Proofs.PlaintextChoice
import DnsWarden.Proofs.Hall
import DnsWarden.Proofs.Deals
import DnsWarden.Proofs.Outcomes
import DnsWarden.Proofs.Parked
import DnsWarden.Proofs.AfterReturn
import DnsWarden.Proofs.Cancellation
import DnsWarden.Proofs.Streaks
import DnsWarden.Proofs.PeriodicStarts
import DnsWarden.Proofs.Disabling
import DnsWarden.Proofs.Ticks
import DnsWarden.Proofs.NewSettings
import DnsWarden.Proofs.Counters
import DnsWarden.Proofs.Vouching
import DnsWarden.Proofs.SettingsJson
import DnsWarden.Proofs.ConcurrentSettings
import DnsWarden.Proofs.LongPeriods
import DnsWarden.Proofs.Collecting
import DnsWarden.Proofs.AttemptAccounts
import DnsWarden.Proofs.OneAttempt
import DnsWarden.Proofs.RangeSpellings
import DnsWarden.Proofs.NameserverEntries
import DnsWarden.Proofs.SettingsChange
import DnsWarden.Proofs.Refreshes
import DnsWarden.Proofs.Delays
import DnsWarden.Proofs.Alarms
import DnsWarden.Proofs.Hearing
import DnsWarden.Proofs.Reports
