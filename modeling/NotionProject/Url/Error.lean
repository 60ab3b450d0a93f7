/-!
# URLs that are refused

The reasons why a text is not accepted as a URL.
-/

namespace NotionProject

/-- Why a text is not accepted as a URL. -/
inductive UrlError where
  | noScheme
  | emptyHost
  | badHost
  | badPlainHost
  | badIpv4
  | badIpv6
  | badPort
  | unsupportedScheme
deriving DecidableEq

/-- The wording of the reason. -/
def UrlError.reason : UrlError → String
  | noScheme => "relative URL without a base"
  | emptyHost => "empty host"
  | badHost => "invalid international domain name"
  | badPlainHost => "invalid domain character"
  | badIpv4 => "invalid IPv4 address"
  | badIpv6 => "invalid IPv6 address"
  | badPort => "invalid port number"
  | unsupportedScheme => "Only HTTP and HTTPS URLs are supported"

end NotionProject
