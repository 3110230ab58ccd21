import Rdap.Client.Session
import Rdap.Config.Basic
/-!
# The options of a client

A client is built from a list of **options** (`Rdap.ClientOption`), each one
change to its settings, applied in order to the defaults
(`Rdap.Client.Settings.ofOptions`): of two options of one kind the later wins,
and header fields gather their values.

The settings of the command-line client give their options in a fixed order
(`Rdap.Config.clientOptions`): the time allowed, the retries and the three
registry URLs always, the user agent only when one is set, then one option per
extra header field. So the client keeps its default user agent when the
settings name none, and takes every other setting as it stands
(`Rdap.Config.ofOptions_clientOptions`).
-/

namespace Rdap

/-- **An option of a client**: one change to the settings it starts from. -/
inductive ClientOption where
  | userAgent (ua : String)
  | timeout (d : Duration)
  | dnsBootstrap (url : String)
  | ipv4Bootstrap (url : String)
  | ipv6Bootstrap (url : String)
  | maxRetries (n : Int)
  /-- Adds a value to a header field sent with every request. -/
  | header (name value : String)
deriving Inhabited

namespace ClientOption

/-- The change an option makes. -/
def apply : ClientOption → Client.Settings → Client.Settings
  | .userAgent ua, s => { s with userAgent := ua }
  | .timeout d, s => { s with timeout := d }
  | .dnsBootstrap u, s => { s with dnsBootstrap := u }
  | .ipv4Bootstrap u, s => { s with ipv4Bootstrap := u }
  | .ipv6Bootstrap u, s => { s with ipv6Bootstrap := u }
  | .maxRetries n, s => { s with maxRetries := n }
  | .header k v, s => { s with headers := s.headers.add k v }

end ClientOption

namespace Client.Settings

/-- Options applied in order to settings. -/
def applyAll (s : Settings) (opts : List ClientOption) : Settings :=
  opts.foldl (fun s o => o.apply s) s

/-- **The settings of a client built with options**: each applied in turn to
the defaults. -/
def ofOptions (opts : List ClientOption) : Settings := applyAll {} opts

theorem applyAll_append (s : Settings) (opts opts' : List ClientOption) :
    applyAll s (opts ++ opts') = applyAll (applyAll s opts) opts' :=
  List.foldl_append ..

/-- Header options add their values in order, and change nothing else. -/
theorem applyAll_headers (s : Settings) (hs : List (String × String)) :
    applyAll s (hs.map fun kv => .header kv.1 kv.2) =
      { s with headers := hs.foldl (fun h kv => h.add kv.1 kv.2) s.headers } := by
  induction hs generalizing s with
  | nil => rfl
  | cons kv hs ih =>
    rw [List.map_cons, applyAll, List.foldl_cons, ← applyAll, ih]
    rfl

end Client.Settings

namespace Config

/-- **The options a client is built with**: the time allowed, the retries and
the registry URLs, the user agent when one is set, and the extra header
fields. -/
def clientOptions (c : Config) : List ClientOption :=
  [.timeout c.timeout, .maxRetries c.maxRetries, .dnsBootstrap c.bootstrap.dns,
    .ipv4Bootstrap c.bootstrap.ipv4, .ipv6Bootstrap c.bootstrap.ipv6] ++
  (if c.userAgent.isEmpty then [] else [.userAgent c.userAgent]) ++
  c.headers.map fun kv => .header kv.1 kv.2

/-- **The client that the settings configure**: the default user agent unless
one is set, every other setting as it stands, and the header fields added in
order. -/
theorem ofOptions_clientOptions (c : Config) :
    Client.Settings.ofOptions c.clientOptions =
      { userAgent := if c.userAgent.isEmpty then Client.defaultUserAgent else c.userAgent,
        timeout := c.timeout, maxRetries := c.maxRetries,
        headers := c.headers.foldl (fun h kv => h.add kv.1 kv.2) {},
        dnsBootstrap := c.bootstrap.dns, ipv4Bootstrap := c.bootstrap.ipv4,
        ipv6Bootstrap := c.bootstrap.ipv6 } := by
  rw [Client.Settings.ofOptions, clientOptions, Client.Settings.applyAll_append,
    Client.Settings.applyAll_append, Client.Settings.applyAll_headers]
  -- the user agent is the one option that may be missing
  split <;> rfl

end Config

end Rdap
