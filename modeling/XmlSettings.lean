import XmlSettings.Session.Command
import XmlSettings.Logging.Failure
import XmlSettings.Proofs.Placeholder
import XmlSettings.Proofs.Dotenv.Load
import XmlSettings.Proofs.FileTree.Replace
import XmlSettings.Proofs.Settings.TextTree
import XmlSettings.Proofs.Xml.ReadToken
import XmlSettings.Proofs.Xml.ReadDoctype
import XmlSettings.Proofs.Xml.ReadElement
import XmlSettings.Proofs.Settings.Setting
import XmlSettings.Proofs.Store.Sections
import XmlSettings.Proofs.Session.Step
import XmlSettings.Proofs.Settings.Kept
import XmlSettings.Proofs.Settings.Saved
import XmlSettings.Proofs.Settings.FixedPoint
import XmlSettings.Proofs.Session.Reload
import XmlSettings.Proofs.Decimal.Integer
import XmlSettings.Proofs.Schema.Instance
import XmlSettings.Proofs.Schema.Construct
import XmlSettings.Proofs.Schema.Decoded
import XmlSettings.Proofs.Session.Persist
import XmlSettings.Proofs.Session.Frame
import XmlSettings.Proofs.Session.Change
import XmlSettings.Proofs.Session.Environment
import XmlSettings.Proofs.Session.Alias
import XmlSettings.Proofs.Session.AtRest
import XmlSettings.Proofs.Schema.Inhabits
import XmlSettings.Proofs.Schema.Sound
import XmlSettings.Proofs.Schema.Layers
import XmlSettings.Proofs.Schema.Failures
import XmlSettings.Proofs.Session.Save
import XmlSettings.Proofs.Settings.Writable
import XmlSettings.Proofs.Settings.Siblings
import XmlSettings.Proofs.Settings.MixedText
import XmlSettings.Proofs.Schema.Strict
import XmlSettings.Proofs.Schema.Reordered
import XmlSettings.Proofs.Schema.SingleField
import XmlSettings.Proofs.Schema.Blame
import XmlSettings.Proofs.Session.Findings
import XmlSettings.Proofs.Session.Reported
import XmlSettings.Proofs.Session.Rendered
import XmlSettings.Proofs.Session.Texts
import XmlSettings.Proofs.Session.Registries
import XmlSettings.Proofs.Session.Sources
