import Interop.Session
import Interop.Log.Pattern.Parser
import Interop.Lock.Supervisor
import Interop.Log.Settings.Reader
import Interop.Target.Family
import Interop.Unicode.Blank
import Interop.Wide.Argument
import Interop.Proofs.LockLevels
import Interop.Proofs.LockDisposal
import Interop.Proofs.LockGrain
import Interop.Proofs.Utf8Table
import Interop.Proofs.Utf8Segments
import Interop.Proofs.WideReading
import Interop.Proofs.Utf8Texts
import Interop.Proofs.Utf16Texts
import Interop.Proofs.WideTexts
import Interop.Proofs.WideZeros
import Interop.Proofs.LockErasure
import Interop.Proofs.LogDecisions
import Interop.Proofs.JsonGrammar
import Interop.Proofs.JsonStrings
import Interop.Proofs.JsonValues
import Interop.Proofs.SettingsGrammar
import Interop.Proofs.SettingsSources
import Interop.Proofs.SettingsDocuments
import Interop.Proofs.SettingsReplacement
import Interop.Proofs.WideUse
import Interop.Proofs.LogCeiling
import Interop.Proofs.LockBlocking
import Interop.Proofs.LockAbandonment
import Interop.Proofs.LockFrame
import Interop.Proofs.LockIndependence
import Interop.Proofs.WidePieces
import Interop.Proofs.LockCreation
import Interop.Proofs.QuotedTexts
import Interop.Proofs.Utf16Replacement
import Interop.Proofs.WideInspection
import Interop.Proofs.WideCapitals
import Interop.Proofs.WideScanning
import Interop.Proofs.LockTrying
import Interop.Proofs.WideBounds
import Interop.Proofs.LogFilters
import Interop.Proofs.LogLines
import Interop.Proofs.ResultCodes
import Interop.Proofs.TargetGate
