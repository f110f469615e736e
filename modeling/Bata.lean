import Bata.Conversion
import Bata.FileSystem
import Bata.Main
import Bata.Toque.Exchange
import Bata.Proofs.Text.Basic
import Bata.Proofs.Text.Quoted
import Bata.Proofs.Pattern
import Bata.Proofs.Pattern.Composed
import Bata.Proofs.Pattern.Written
import Bata.Proofs.Notation.Sections
import Bata.Proofs.Notation.Written
import Bata.Proofs.Notation.Filled
import Bata.Proofs.Notation.Label
import Bata.Proofs.Notation.Spacing
import Bata.Proofs.Notation.BareSignature
import Bata.Proofs.Notation.Joined
import Bata.Proofs.Notation.Block
import Bata.Proofs.Notation.Stray
import Bata.Proofs.Markup.Entity
import Bata.Proofs.Markup.Tidy
import Bata.Proofs.Markup.Reader
import Bata.Proofs.Markup.Xml
import Bata.Proofs.Chart
import Bata.Proofs.Page.Document
import Bata.Proofs.Page.Table
import Bata.Proofs.Page.Likeness
import Bata.Proofs.Page.Counting
import Bata.Proofs.Page.Heading
import Bata.Proofs.Page.Fallback
import Bata.Proofs.Page.Growth
import Bata.Proofs.Page.Xml
import Bata.Proofs.Json.Scalar
import Bata.Proofs.Json.RoundTrip
import Bata.Proofs.Toque.Warning
import Bata.Proofs.Toque.Exchange
import Bata.Proofs.Toque.Absent
import Bata.Proofs.FileSystem.Write
import Bata.Proofs.FileSystem.Conversion
import Bata.Proofs.FileSystem.Independence
import Bata.Proofs.Log.Filter
import Bata.Proofs.Log.Setting
import Bata.Proofs.Log.Warning
import Bata.Proofs.Command
