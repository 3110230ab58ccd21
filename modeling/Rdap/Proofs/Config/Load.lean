import Mathlib
import Rdap.Proofs.Config.Layers
/-!
# Where each setting comes from

Loading the settings (`Rdap.Config.load`) reads the file into a layer, lays it
over the defaults, lays the environment over that, decodes every field of the
result and validates the settings. A field is decoded from the value its key
reads in the merged tree (`Rdap.Config.fieldSpec`): kept as it was when the key
is absent or `null`, and else converted, a failed conversion failing the whole
load. So when loading succeeds (`Rdap.Config.load_resolves_settings`):

| setting | decoded from |
|---|---|
| user agent, time allowed, retries, output, log level | its variable when not blank, else the file over the defaults |
| compact addresses | the file over the defaults |
| registry URLs, when a registry variable is set | the last variable set for it, else the map of the file over the defaults |
| registry URLs, when none is set | the file over the defaults |

and the settings pass validation. Below the environment, a setting with a
default is read under its exact key (`Rdap.Config.fieldValue?_overlay_defaults`),
so a file key that equals it only up to case is ignored; and a file that sets
`bootstrap` to `null` leaves all three URLs empty, the default map being
replaced by the `null` that the decoding then skips
(`Rdap.Config.load_ignores_recased_key_and_null_registries`).

A load that fails names its cause (`Rdap.Config.load_error_cause`): an
extension of no known format, a file that could not be read, a file or settings
that do not decode, or settings that fail validation.
-/

namespace Rdap

namespace Config

open Setting

/-! ### Decoding one field -/

/-- **What a field is decoded to**: what it held, when its key is absent or
`null`, and else the value converted by `f`. -/
def fieldSpec {ε α : Type} (f : Setting → Except ε α) (v? : Option Setting) (prev : α) : Except ε α :=
  match v? with
  | none | some .null => .ok prev
  | some v => f v

theorem fieldSpec_map {ε α : Type} (f : Setting → Except ε α) (m : List (String × Setting))
    (prev : α) : fieldSpec f (some (.map m)) prev = f (.map m) := rfl

theorem decodeField_eq {α : Type} (es : List (String × Setting)) (field name : String)
    (f : String → Setting → Except String α) (prev : α) (errs : List String) :
    decodeField es field name f prev errs =
      match fieldSpec (f name) (fieldValue? es field) prev with
      | .ok a => (a, errs)
      | .error e => (prev, errs ++ [e]) := by
  unfold decodeField fieldSpec
  cases fieldValue? es field with
  | none => rfl
  | some v => cases v <;> rfl

/-- A field decoded without an error was decoded from its value, and no field
before it had an error. -/
theorem decodeField_ok {α : Type} {es : List (String × Setting)} {field name : String}
    {f : String → Setting → Except String α} {prev a : α} {errs : List String}
    (h : decodeField es field name f prev errs = (a, [])) :
    errs = [] ∧ fieldSpec (f name) (fieldValue? es field) prev = .ok a := by
  rw [decodeField_eq] at h
  split at h
  next a' hspec =>
    simp only [Prod.mk.injEq] at h
    exact ⟨h.2, h.1 ▸ hspec⟩
  next => simp at h

theorem decodeGroup_eq {α : Type} (es : List (String × Setting)) (field : String)
    (f : Setting → Except (List String) α) (prev : α) (errs : List String) :
    decodeGroup es field f prev errs =
      match fieldSpec f (fieldValue? es field) prev with
      | .ok a => (a, errs)
      | .error e => (prev, errs ++ e) := by
  unfold decodeGroup fieldSpec
  cases fieldValue? es field with
  | none => rfl
  | some v => cases v <;> rfl

/-- A field fails to decode only by a failed conversion of its value. -/
theorem fieldSpec_error {ε α : Type} {f : Setting → Except ε α} {v? : Option Setting} {prev : α}
    {e : ε} (h : fieldSpec f v? prev = .error e) : ∃ v, f v = .error e := by
  cases v? with
  | none => cases h
  | some v => cases v <;> first | cases h | exact ⟨_, h⟩

/-- A group of fields decoded without an error was decoded from its value,
when the decoding never fails without naming an error. -/
theorem decodeGroup_ok {α : Type} {es : List (String × Setting)} {field : String}
    {f : Setting → Except (List String) α} (hf : ∀ v e, f v = .error e → e ≠ [])
    {prev a : α} {errs : List String} (h : decodeGroup es field f prev errs = (a, [])) :
    errs = [] ∧ fieldSpec f (fieldValue? es field) prev = .ok a := by
  rw [decodeGroup_eq] at h
  split at h
  next a' hspec =>
    simp only [Prod.mk.injEq] at h
    exact ⟨h.2, h.1 ▸ hspec⟩
  next e hspec =>
    -- a failed conversion reports at least one error, so the errors are not empty
    obtain ⟨v, hv⟩ := fieldSpec_error hspec
    simp only [Prod.mk.injEq, List.append_eq_nil_iff] at h
    exact absurd h.2.2 (hf v e hv)

/-- A group of fields decoded without an error had no error before it. -/
theorem decodeGroup_nil {α : Type} {es : List (String × Setting)} {field : String}
    {f : Setting → Except (List String) α} {prev a : α} {errs : List String}
    (h : decodeGroup es field f prev errs = (a, [])) : errs = [] := by
  rw [decodeGroup_eq] at h
  split at h
  · exact (Prod.mk.inj h).2
  · exact (List.append_eq_nil_iff.mp (Prod.mk.inj h).2).1

/-! ### Decoding the settings -/

/-- The registry URLs are refused only with an error. -/
theorem decodeBootstrap_error_ne_nil (name : String) (prev : BootstrapUrls) :
    ∀ v e, decodeBootstrap name prev v = .error e → e ≠ [] := by
  intro v e h
  cases v with
  | map entries =>
    simp only [decodeBootstrap] at h
    split at h
    · cases h
    next hne =>
      simp only [Except.error.injEq] at h
      rw [← h]
      simpa using hne
  | time t => cases h
  | _ => simp only [decodeBootstrap, Except.error.injEq] at h; simp [← h]

/-- **The registry URLs of a map**, each decoded from its key. -/
theorem decodeBootstrap_map_ok {name : String} {prev b : BootstrapUrls}
    {m : List (String × Setting)} (h : decodeBootstrap name prev (.map m) = .ok b) :
    fieldSpec (decodeText (name ++ ".dns")) (fieldValue? m "dns") prev.dns = .ok b.dns ∧
    fieldSpec (decodeText (name ++ ".ipv4")) (fieldValue? m "ipv4") prev.ipv4 = .ok b.ipv4 ∧
    fieldSpec (decodeText (name ++ ".ipv6")) (fieldValue? m "ipv6") prev.ipv6 = .ok b.ipv6 := by
  simp only [decodeBootstrap] at h
  generalize hdns : decodeField m "dns" (name ++ ".dns") decodeText prev.dns [] = rdns at h
  obtain ⟨dns, e1⟩ := rdns
  generalize hv4 : decodeField m "ipv4" (name ++ ".ipv4") decodeText prev.ipv4 e1 = rv4 at h
  obtain ⟨ipv4, e2⟩ := rv4
  generalize hv6 : decodeField m "ipv6" (name ++ ".ipv6") decodeText prev.ipv6 e2 = rv6 at h
  obtain ⟨ipv6, e3⟩ := rv6
  dsimp only at h
  split at h
  next hnil =>
    simp only [Except.ok.injEq] at h
    subst h
    rw [List.isEmpty_iff] at hnil
    subst hnil
    obtain ⟨rfl, h6⟩ := decodeField_ok hv6
    obtain ⟨rfl, h4⟩ := decodeField_ok hv4
    exact ⟨(decodeField_ok hdns).2, h4, h6⟩
  next => cases h

/-- **Every field of decoded settings is decoded from its key**, the header
fields apart. -/
theorem ofEntries_ok {es : List (String × Setting)} {c : Config} (h : ofEntries es = .ok c) :
    fieldSpec (decodeText "user_agent") (fieldValue? es "user_agent") "" = .ok c.userAgent ∧
    fieldSpec (decodeDuration "timeout") (fieldValue? es "timeout") ⟨0⟩ = .ok c.timeout ∧
    fieldSpec (decodeInt "max_retries" "int") (fieldValue? es "max_retries") 0 = .ok c.maxRetries ∧
    fieldSpec (decodeBootstrap "bootstrap" {}) (fieldValue? es "bootstrap") {} = .ok c.bootstrap ∧
    fieldSpec (decodeText "output") (fieldValue? es "output") "" = .ok c.output ∧
    fieldSpec (decodeTruth "compact") (fieldValue? es "compact") false = .ok c.compact ∧
    fieldSpec (decodeText "log_level") (fieldValue? es "log_level") "" = .ok c.logLevel := by
  unfold ofEntries at h
  dsimp only at h
  -- name the fields one by one, each with the errors gathered up to it
  generalize h1 : decodeField es "user_agent" "user_agent" decodeText "" [] = r1 at h
  obtain ⟨userAgent, e1⟩ := r1
  generalize h2 : decodeField es "timeout" "timeout" decodeDuration ⟨0⟩ e1 = r2 at h
  obtain ⟨timeout, e2⟩ := r2
  generalize h3 : decodeField es "max_retries" "max_retries" (fun n => decodeInt n "int") 0 e2 = r3 at h
  obtain ⟨maxRetries, e3⟩ := r3
  generalize h4 : decodeGroup es "headers" (decodeHeaders "headers" []) [] e3 = r4 at h
  obtain ⟨headers, e4⟩ := r4
  generalize h5 : decodeGroup es "bootstrap" (decodeBootstrap "bootstrap" {}) {} e4 = r5 at h
  obtain ⟨bootstrap, e5⟩ := r5
  generalize h6 : decodeField es "output" "output" decodeText "" e5 = r6 at h
  obtain ⟨output, e6⟩ := r6
  generalize h7 : decodeField es "compact" "compact" decodeTruth false e6 = r7 at h
  obtain ⟨compact, e7⟩ := r7
  generalize h8 : decodeField es "log_level" "log_level" decodeText "" e7 = r8 at h
  obtain ⟨logLevel, e8⟩ := r8
  dsimp only at h
  split at h
  next hnil =>
    simp only [Except.ok.injEq] at h
    subst h
    rw [List.isEmpty_iff] at hnil
    subst hnil
    -- no field has an error, so each was decoded from its key
    obtain ⟨rfl, hlog⟩ := decodeField_ok h8
    obtain ⟨rfl, hcompact⟩ := decodeField_ok h7
    obtain ⟨rfl, houtput⟩ := decodeField_ok h6
    obtain ⟨rfl, hboot⟩ := decodeGroup_ok (decodeBootstrap_error_ne_nil "bootstrap" {}) h5
    have he3 := decodeGroup_nil h4
    subst he3
    obtain ⟨rfl, hretries⟩ := decodeField_ok h3
    obtain ⟨rfl, htimeout⟩ := decodeField_ok h2
    exact ⟨(decodeField_ok h1).2, htimeout, hretries, hboot, houtput, hcompact, hlog⟩
  next => cases h

/-! ### Loading -/

/-- The layer of the settings file, if there is one. -/
def fileLayerOf : Option (String × Except String String) → Except ConfigError (List (String × Setting))
  | none => .ok []
  | some (path, contents) => fileLayer path contents

/-- **Loaded settings** come from the file's layer, decoded from the merged
tree, and pass validation. -/
theorem load_ok {file : Option (String × Except String String)} {getenv : String → String}
    {c : Config} (h : load file getenv = .ok c) :
    ∃ fromFile, fileLayerOf file = .ok fromFile ∧
      ofEntries (environmentLayer getenv (overlay fromFile defaultEntries)) = .ok c ∧
      ∃ l, c.validate = .ok l := by
  unfold load at h
  simp only [bind, Except.bind, pure, Except.pure] at h
  rcases file with _ | ⟨path, contents⟩
  on_goal 1 =>
    dsimp only at h
    refine ⟨[], rfl, ?_⟩
  on_goal 2 =>
    dsimp only at h
    split at h
    · cases h
    rename_i fromFile hfile
    refine ⟨fromFile, hfile, ?_⟩
  -- decoding the merged tree, then validating
  all_goals
    split at h
    next c' hc =>
      split at h
      · cases h
      next l hl =>
        cases h
        exact ⟨hc, l, hl⟩
    next => cases h

/-- **Where each setting comes from.** Settings that load pass validation;
each plain setting is decoded from its variable when that is not blank and
else from the file's layer laid over the defaults; the registry URLs, when a
registry variable is set, from the last variable set for each registry and
else from the map that the file over the defaults holds, and when none is set,
from the file over the defaults; and a setting with a default is read there
under its exact key, the default standing when the file lacks that key. -/
theorem load_resolves_settings {file : Option (String × Except String String)}
    {getenv : String → String} {c : Config} (h : load file getenv = .ok c) :
    (∃ l, c.validate = .ok l) ∧
    ∃ fromFile, fileLayerOf file = .ok fromFile ∧
      let base := overlay fromFile defaultEntries
      fieldSpec (decodeText "user_agent")
          (envOr getenv "RDAPCTL_UA" (fieldValue? base "user_agent")) "" = .ok c.userAgent ∧
      fieldSpec (decodeDuration "timeout")
          (envOr getenv "RDAPCTL_TIMEOUT" (fieldValue? base "timeout")) ⟨0⟩ = .ok c.timeout ∧
      fieldSpec (decodeInt "max_retries" "int")
          (envOr getenv "RDAPCTL_MAX_RETRIES" (fieldValue? base "max_retries")) 0 = .ok c.maxRetries ∧
      fieldSpec (decodeText "output")
          (envOr getenv "RDAPCTL_OUTPUT" (fieldValue? base "output")) "" = .ok c.output ∧
      fieldSpec (decodeText "log_level")
          (envOr getenv "RDAPCTL_LOG_LEVEL" (fieldValue? base "log_level")) "" = .ok c.logLevel ∧
      fieldSpec (decodeTruth "compact") (fieldValue? base "compact") false = .ok c.compact ∧
      (urlsSet getenv = true →
        fieldSpec (decodeText "bootstrap.dns") (envOr getenv "RDAPCTL_DNS_BOOTSTRAP"
            (fieldValue? (mapAt base "bootstrap") "dns")) "" = .ok c.bootstrap.dns ∧
        fieldSpec (decodeText "bootstrap.ipv4") (envOr getenv "RDAPCTL_IPV4_BOOTSTRAP"
            (envOr getenv "RDAPCTL_IP_BOOTSTRAP" (fieldValue? (mapAt base "bootstrap") "ipv4"))) "" =
          .ok c.bootstrap.ipv4 ∧
        fieldSpec (decodeText "bootstrap.ipv6") (envOr getenv "RDAPCTL_IPV6_BOOTSTRAP"
            (envOr getenv "RDAPCTL_IP_BOOTSTRAP" (fieldValue? (mapAt base "bootstrap") "ipv6"))) "" =
          .ok c.bootstrap.ipv6) ∧
      (urlsSet getenv = false →
        fieldSpec (decodeBootstrap "bootstrap" {}) (fieldValue? base "bootstrap") {} = .ok c.bootstrap) ∧
      ∀ K, (defaultEntries.lookup K).isSome = true →
        fieldValue? base K = base.lookup K ∧
          (fromFile.lookup K = none → base.lookup K = defaultEntries.lookup K) := by
  obtain ⟨fromFile, hfile, hdecoded, hvalid⟩ := load_ok h
  refine ⟨hvalid, fromFile, hfile, ?_⟩
  dsimp only
  generalize hbase : overlay fromFile defaultEntries = base at hdecoded
  obtain ⟨hua, htimeout, hretries, hboot, houtput, hcompact, hlog⟩ := ofEntries_ok hdecoded
  obtain ⟨eua, etimeout, eretries, eoutput, elog, ecompact⟩ := fieldValue?_environmentLayer getenv base
  rw [eua] at hua
  rw [etimeout] at htimeout
  rw [eretries] at hretries
  rw [eoutput] at houtput
  rw [elog] at hlog
  rw [ecompact] at hcompact
  refine ⟨hua, htimeout, hretries, houtput, hlog, hcompact, fun hset => ?_, fun hunset => ?_,
    fun K hK => hbase ▸ fieldValue?_overlay_defaults fromFile hK⟩
  · -- a registry variable is set: the map of URLs the environment leaves is decoded
    have hlookup := lookup_bootstrap_environmentLayer getenv base
    rw [if_pos hset] at hlookup
    rw [fieldValue?_of_lookup hlookup, fieldSpec_map] at hboot
    obtain ⟨hdns, hv4, hv6⟩ := decodeBootstrap_map_ok hboot
    obtain ⟨udns, uv4, uv6⟩ := fieldValue?_urlMap getenv (mapAt base "bootstrap")
    rw [udns] at hdns
    rw [uv4] at hv4
    rw [uv6] at hv6
    exact ⟨hdns, hv4, hv6⟩
  · -- no registry variable is set: the key `bootstrap` reads as below
    have hlookup := lookup_bootstrap_environmentLayer getenv base
    rw [if_neg (by simp [hunset])] at hlookup
    obtain ⟨v, hv⟩ : ∃ v, base.lookup "bootstrap" = some v := Option.isSome_iff_exists.mp
      (hbase ▸ lookup_overlay_isSome fromFile defaultEntries rfl)
    rw [fieldValue?_of_lookup (hlookup.trans hv)] at hboot
    rwa [fieldValue?_of_lookup hv]

/-- A file that sets only the time allowed: the time is decoded from the file's
value, laid over the defaults. -/
theorem load_resolves_settings_file_timeout :
    ∃ fromFile, fileLayerOf (some ("c.yaml", .ok "timeout: 3s\n")) = .ok fromFile ∧
      fieldSpec (decodeDuration "timeout") (envOr (fun _ => "") "RDAPCTL_TIMEOUT"
        (fieldValue? (overlay fromFile defaultEntries) "timeout")) ⟨0⟩ = .ok ⟨3000000000⟩ := by
  have h : load (some ("c.yaml", .ok "timeout: 3s\n")) (fun _ => "") =
      .ok { timeout := ⟨3000000000⟩, output := "json", logLevel := "warn"
            bootstrap := { dns := "https://data.iana.org/rdap/dns.json"
                           ipv4 := "https://data.iana.org/rdap/ipv4.json"
                           ipv6 := "https://data.iana.org/rdap/ipv6.json" } } := by
    decide +kernel
  obtain ⟨-, fromFile, hfile, -, htimeout, -⟩ := load_resolves_settings h
  exact ⟨fromFile, hfile, htimeout⟩

/-- **A file key in other case is ignored, and a `null` registry map empties
the URLs**: `Timeout` leaves the default of ten seconds, and `bootstrap: null`
leaves no URL at all. -/
theorem load_ignores_recased_key_and_null_registries :
    ((load (some ("c.yaml", .ok "Timeout: 3s\nbootstrap: null\n")) (fun _ => "")).toOption.map
      fun c => (c.timeout.ns, c.bootstrap)) = some (10000000000, {}) := by
  decide +kernel

/-! ### Failures -/

/-- A path's extension names no known format only as itself in lower case. -/
theorem formatOf_error {path : String} {e : ConfigError} (h : formatOf path = .error e) :
    e = .unsupportedFormat (Text.toLower (extension path)) := by
  unfold formatOf at h
  -- the three known extensions give a format; any other is refused as itself
  split at h
  · cases h
  · cases h
  · cases h
  · cases h
    rfl

/-- Validation refuses only with an invalid value. -/
theorem validate_error {c : Config} {e : ConfigError} (h : c.validate = .error e) :
    ∃ d, e = .invalid d := by
  unfold validate level at h
  simp only [bind, Except.bind] at h
  -- the checks of the output, the time allowed, the retries and the log level,
  -- in turn: each refuses with an invalid value
  split at h
  · split at h
    · split at h
      · split at h
        · cases h
        · cases h; exact ⟨_, rfl⟩
      · cases h; exact ⟨_, rfl⟩
    · cases h; exact ⟨_, rfl⟩
  · cases h; exact ⟨_, rfl⟩

/-- **A file fails to load** for its extension, for its contents that could not
be read, or for its text that does not parse. -/
theorem fileLayer_error {path : String} {contents : Except String String} {e : ConfigError}
    (h : fileLayer path contents = .error e) :
    (formatOf path = .error e) ∨ (∃ msg, contents = .error msg ∧ e = .loadFailed msg) ∨
      (∃ text msg, contents = .ok text ∧ e = .parseFailed (path ++ ": " ++ msg)) := by
  cases hfmt : formatOf path with
  | error err =>
    simp only [fileLayer, hfmt, bind, Except.bind] at h
    cases h
    exact .inl rfl
  | ok fmt =>
    cases contents with
    | error msg =>
      simp only [fileLayer, hfmt, bind, Except.bind, throw, throwThe, MonadExceptOf.throw] at h
      cases h
      exact .inr (.inl ⟨msg, rfl, rfl⟩)
    | ok text =>
      simp only [fileLayer, hfmt, bind, Except.bind, pure, Except.pure, throw, throwThe,
        MonadExceptOf.throw] at h
      -- an empty file is no layer at all; any other reads or fails to parse
      split at h
      · cases h
      · split at h
        · cases h
        next msg _ =>
          cases h
          exact .inr (.inr ⟨text, msg, rfl, rfl⟩)

/-- **Loading fails** at the file, at decoding the merged tree, or at
validating the settings decoded. -/
theorem load_error {file : Option (String × Except String String)} {getenv : String → String}
    {e : ConfigError} (h : load file getenv = .error e) :
    (∃ path contents, file = some (path, contents) ∧ fileLayer path contents = .error e) ∨
    (∃ fromFile errs, fileLayerOf file = .ok fromFile ∧
      ofEntries (environmentLayer getenv (overlay fromFile defaultEntries)) = .error errs ∧
      e = .parseFailed ("decoding failed due to the following error(s):\n\n" ++
        "\n".intercalate errs)) ∨
    (∃ fromFile c, fileLayerOf file = .ok fromFile ∧
      ofEntries (environmentLayer getenv (overlay fromFile defaultEntries)) = .ok c ∧
      c.validate = .error e) := by
  unfold load at h
  simp only [bind, Except.bind, pure, Except.pure] at h
  rcases file with _ | ⟨path, contents⟩
  on_goal 1 =>
    dsimp only at h
    have hfile : fileLayerOf none = .ok [] := rfl
  on_goal 2 =>
    dsimp only at h
    split at h
    next err hread =>
      cases h
      exact .inl ⟨path, contents, rfl, hread⟩
    rename_i fromFile hfile
  -- the file read: decoding the merged tree fails, or validating fails
  all_goals
    refine .inr ?_
    split at h
    next c hc =>
      split at h
      next err hv =>
        cases h
        exact .inr ⟨_, c, hfile, hc, hv⟩
      next => cases h
    next errs herrs =>
      simp only [throw, throwThe, MonadExceptOf.throw, Except.error.injEq] at h
      exact .inl ⟨_, errs, hfile, herrs, h.symm⟩

/-- **Every failure to load names its cause**: an extension of no known
format, a file that could not be read, a file or settings that do not decode,
or settings that fail validation. -/
theorem load_error_cause {file : Option (String × Except String String)}
    {getenv : String → String} {e : ConfigError} (h : load file getenv = .error e) :
    match e with
    | .unsupportedFormat ext =>
      ∃ path contents, file = some (path, contents) ∧ ext = Text.toLower (extension path)
    | .loadFailed msg => ∃ path, file = some (path, .error msg)
    | .parseFailed _ =>
      (∃ path text, file = some (path, .ok text)) ∨
      ∃ fromFile errs, fileLayerOf file = .ok fromFile ∧
        ofEntries (environmentLayer getenv (overlay fromFile defaultEntries)) = .error errs
    | .invalid _ =>
      ∃ fromFile c, fileLayerOf file = .ok fromFile ∧
        ofEntries (environmentLayer getenv (overlay fromFile defaultEntries)) = .ok c ∧
        c.validate = .error e := by
  rcases load_error h with ⟨path, contents, rfl, hread⟩ | ⟨fromFile, errs, hfile, herrs, rfl⟩ |
    ⟨fromFile, c, hfile, hc, hv⟩
  · rcases fileLayer_error hread with hfmt | ⟨msg, rfl, rfl⟩ | ⟨text, msg, rfl, rfl⟩
    · obtain rfl := formatOf_error hfmt
      exact ⟨path, contents, rfl, rfl⟩
    · exact ⟨path, rfl⟩
    · exact .inl ⟨path, text, rfl⟩
  · exact .inr ⟨fromFile, errs, hfile, herrs⟩
  · obtain ⟨d, rfl⟩ := validate_error hv
    exact ⟨fromFile, c, hfile, hc, hv⟩

end Config

end Rdap
