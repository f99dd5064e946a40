import CapeWallet.Basic
import CapeWallet.Toml
import CapeWallet.ParseRoute
import CapeWallet.Server
import CapeWallet.Matcher.Alternative
import CapeWallet.Matcher.Route
import CapeWallet.Spec.Contract
import CapeWallet.Spec.Match
import CapeWallet.Spec.Trace
import CapeWallet.Spec.Server
import CapeWallet.Spec.Router
import CapeWallet.Spec.TraceText
import CapeWallet.Spec.Config
