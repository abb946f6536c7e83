import Metatype.Json.Printer
import Metatype.Document
import Metatype.Encoding.Options
import Metatype.Encoding.Report
import Metatype.Extraction
import Metatype.Files.Tree
import Metatype.Toml.Parser
import Metatype.Loading
import Metatype.Encoding.Settings
import Metatype.Settings.Written
import Metatype.Settings.Loading
import Metatype.CommandLine.Run
import Metatype.Main
import Metatype.Proofs.Mapping
import Metatype.Proofs.Accounting
import Metatype.Proofs.CollectionSearch
import Metatype.Proofs.NestedArray
import Metatype.Proofs.Growth
import Metatype.Proofs.Session
import Metatype.Proofs.RequiredRevision
import Metatype.Proofs.KeyPrefix
import Metatype.Proofs.Shorthand
import Metatype.Proofs.Identity
import Metatype.Proofs.Untyped
import Metatype.Proofs.NestedOption
import Metatype.Proofs.FailingLookup
import Metatype.Proofs.JsonReading
import Metatype.Proofs.KeyOrder
import Metatype.Proofs.RecordCoding
import Metatype.Proofs.SchemaCoding
import Metatype.Proofs.MarkerCoding
import Metatype.Proofs.DeclarationCoding
import Metatype.Proofs.RegistryHistory
import Metatype.Proofs.DocumentCoding
import Metatype.Proofs.Footprint
import Metatype.Proofs.LoadingOrder
import Metatype.Proofs.ReturnText
import Metatype.Proofs.ExtensionMarkers
import Metatype.Proofs.InterfaceOrder
import Metatype.Proofs.KeyCoding
import Metatype.Proofs.UnmarkedRoot
import Metatype.Proofs.Designation
import Metatype.Proofs.VersionText
import Metatype.Proofs.RevisionText
import Metatype.Proofs.Severity
import Metatype.Proofs.FileOrder
import Metatype.Proofs.DirectoryLoading
import Metatype.Proofs.LayerMerging
import Metatype.Proofs.SettingLayers
import Metatype.Proofs.KeyLocality
import Metatype.Proofs.LabelSpacing
import Metatype.Proofs.ShorthandText
import Metatype.Proofs.OpenMember
import Metatype.Proofs.TomlString
import Metatype.Proofs.TomlLines
import Metatype.Proofs.TomlDocument
import Metatype.Proofs.FileWriting
import Metatype.Proofs.SavedSettings
