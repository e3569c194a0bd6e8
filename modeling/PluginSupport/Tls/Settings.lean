/-!
# TLS settings

What a host configures for the TLS side of a client: whether TLS is wanted, whether server
certificates go unchecked, and the paths of the certificate, key and CA files. An empty path means
that there is no such file.
-/
namespace PluginSupport

/-- TLS settings of a client. -/
structure TlsSettings where
  enabled : Bool := false
  skipVerify : Bool := false
  certFile : String := ""
  keyFile : String := ""
  caFile : String := ""
deriving DecidableEq, Repr, Inhabited

namespace TlsSettings

/-- Settings with nothing configured. -/
def empty : TlsSettings := {}

/-- Settings with TLS wanted or not. -/
def withEnabled (settings : TlsSettings) (enabled : Bool) : TlsSettings :=
  { settings with enabled }

/-- Settings with server certificates unchecked or not. -/
def withSkipVerify (settings : TlsSettings) (skipVerify : Bool) : TlsSettings :=
  { settings with skipVerify }

/-- Settings with a client certificate and its key. -/
def withClientCert (settings : TlsSettings) (certFile keyFile : String) : TlsSettings :=
  { settings with certFile, keyFile }

/-- Settings with a CA file. -/
def withCaFile (settings : TlsSettings) (caFile : String) : TlsSettings :=
  { settings with caFile }

/-- Whether a client certificate is configured: both its paths are. -/
def hasClientCert (settings : TlsSettings) : Bool :=
  settings.certFile ≠ "" ∧ settings.keyFile ≠ ""

end TlsSettings

end PluginSupport
