import Wayfinder.Encoding.Visit
import Wayfinder.Main
import Wayfinder.Proofs.Addressing
import Wayfinder.Proofs.Appending
import Wayfinder.Proofs.Composition
import Wayfinder.Proofs.Framing
import Wayfinder.Proofs.Grammar
import Wayfinder.Proofs.Identifying
import Wayfinder.Proofs.Inertness
import Wayfinder.Proofs.Inserting
import Wayfinder.Proofs.Navigation
import Wayfinder.Proofs.Window
import Wayfinder.Proofs.Wording
import Wayfinder.Proofs.Noninterference
import Wayfinder.Proofs.Reading
import Wayfinder.Proofs.Restoring
import Wayfinder.Proofs.Defaults
import Wayfinder.Proofs.SinglePath
import Wayfinder.Proofs.Titling
import Wayfinder.Proofs.Surrounding
import Wayfinder.Proofs.Stamping
import Wayfinder.Proofs.Registry
