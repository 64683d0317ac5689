import NameKeys.Main
import NameKeys.Matching.Session
import NameKeys.Proofs.CanonicalForms
import NameKeys.Proofs.CoarserProfiles
import NameKeys.Proofs.FoldedForms
import NameKeys.Proofs.SessionRuns
import NameKeys.Proofs.SettingPriority
import NameKeys.Proofs.StableKeys
import NameKeys.Proofs.Surrogates
import NameKeys.Value.Distinct
import NameKeys.Value.Number
import NameKeys.Proofs.DecimalText
import NameKeys.Proofs.LowerCase
import NameKeys.Proofs.VariableTexts
import NameKeys.Proofs.AcceptedSettings
import NameKeys.Proofs.SchematicTables
import NameKeys.Proofs.SettingsInVariables
import NameKeys.Proofs.LoadFailures
import NameKeys.Proofs.SelectedProfiles
import NameKeys.Proofs.Results
import NameKeys.Proofs.CommandRuns
import NameKeys.Proofs.LogFileSetting
import NameKeys.Proofs.UndecodableBytes
import NameKeys.Proofs.UsableSettings
import NameKeys.Proofs.MergedPaths
import NameKeys.Proofs.AddressedSettings
import NameKeys.Proofs.OptionNames
import NameKeys.Proofs.ListedOptions
import NameKeys.Proofs.NamedLevels
import NameKeys.Proofs.VariableValues
import NameKeys.Proofs.JoinedItems
import NameKeys.Value.JsonReader
import NameKeys.Proofs.JsonStrings
import NameKeys.Proofs.JsonRoundTrip
import NameKeys.Proofs.RecordObjects
import NameKeys.Proofs.SharedRecords
import NameKeys.Proofs.ContextLines
import NameKeys.Proofs.SetUpRuns
import NameKeys.Proofs.PlainForms
