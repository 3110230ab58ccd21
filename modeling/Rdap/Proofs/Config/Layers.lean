import Mathlib
import Rdap.Proofs.Text.Case
import Rdap.Config.Load
/-!
# Laying the environment over the settings

The settings are decoded from one tree (`Rdap.Config.load`): the file's
layer laid over the defaults, and the environment laid over that
(`Rdap.Config.environmentLayer`). Every step of that construction sets one key
of a tree (`Rdap.Setting.setEntry`), so a field is read (`Rdap.Config.fieldValue?`)
through a chain of such steps: a step that sets the field's key gives its
value, and a step that sets a key neither equal to the field's name nor equal
to it up to case leaves the field as it was.

The environment sets its five plain settings at the top of the tree
(`Rdap.Config.fieldValue?_environmentLayer`), each to its trimmed variable when
that is not blank (`Rdap.Config.envOr`). The registry URLs live in the map
under `bootstrap`: a variable that sets one of them sets the map to the map it
held (or to an empty one, when it held no map) with that one URL set
(`Rdap.Config.lookup_bootstrap_environmentLayer`). So `RDAPCTL_IPV4_BOOTSTRAP` and
`RDAPCTL_IPV6_BOOTSTRAP`, which come later, win over `RDAPCTL_IP_BOOTSTRAP`.

Below the environment, the defaults hold a key for every setting except the
user agent and the header fields, and a tree never loses a key it holds; so for
such a setting the field is read under its exact key, and a key of the file
that equals it only up to case is never read
(`Rdap.Config.fieldValue?_overlay_defaults`).
-/

namespace Rdap

namespace Setting

/-! ### Setting one key -/

theorem lookup_cons_of_ne {k k' : String} {v : Setting} (es : List (String × Setting))
    (h : k' ≠ k) : ((k, v) :: es).lookup k' = es.lookup k' := by
  rw [List.lookup_cons, beq_eq_false_iff_ne.mpr h]

theorem lookup_cons_self {k : String} {v : Setting} (es : List (String × Setting)) :
    ((k, v) :: es).lookup k = some v := by
  rw [List.lookup_cons, beq_self_eq_true]

/-- Replacing the entries of one key, read back. -/
theorem lookup_map_replace (es : List (String × Setting)) (k k' : String) (v : Setting) :
    (es.map fun e => if e.1 == k then (k, v) else e).lookup k' =
      if k' = k then (if es.any (·.1 == k) then some v else none) else es.lookup k' := by
  induction es with
  | nil => simp
  | cons e rest ih =>
    obtain ⟨ek, ev⟩ := e
    by_cases he : ek = k
    · subst he
      rw [List.map_cons, if_pos (beq_self_eq_true ek)]
      by_cases hk : k' = ek
      · subst hk
        rw [lookup_cons_self, lookup_cons_self, if_pos rfl, List.any_cons, beq_self_eq_true,
          Bool.true_or, if_pos rfl]
      · rw [lookup_cons_of_ne _ hk, lookup_cons_of_ne _ hk, ih, if_neg hk, if_neg hk]
    · rw [List.map_cons, if_neg (by simpa using he)]
      by_cases hk : k' = ek
      · subst hk
        rw [lookup_cons_self, if_neg he, lookup_cons_self]
      · rw [lookup_cons_of_ne _ hk, lookup_cons_of_ne _ hk, ih, List.any_cons,
          beq_eq_false_iff_ne.mpr he, Bool.false_or]

/-- **Setting a key, read back**: the key gives the value set, every other key
what it gave before. -/
theorem lookup_setEntry (es : List (String × Setting)) (k k' : String) (v : Setting) :
    (setEntry es k v).lookup k' = if k' = k then some v else es.lookup k' := by
  unfold setEntry
  split
  next hany => rw [lookup_map_replace, if_pos hany]
  next hnone =>
    rw [List.lookup_append]
    by_cases hk : k' = k
    · subst hk
      have hmiss : es.lookup k' = none := List.lookup_eq_none_iff.mpr fun p hp => by
        by_contra hsame
        have hkey : k' = p.1 := by simpa using hsame
        exact hnone (List.any_eq_true.mpr ⟨p, hp, by rw [hkey]; exact beq_self_eq_true _⟩)
      rw [hmiss, lookup_cons_self, if_pos rfl]
      rfl
    · rw [if_neg hk, lookup_cons_of_ne _ hk]
      cases es.lookup k' <;> rfl

/-- Replacing the entries of a key that a test does not pick leaves the first
entry the test picks. -/
theorem find?_map_replace (es : List (String × Setting)) {k : String} (v : Setting)
    (p : String → Bool) (hk : p k = false) :
    (es.map fun e => if e.1 == k then (k, v) else e).find? (fun e => p e.1) =
      es.find? (fun e => p e.1) := by
  induction es with
  | nil => rfl
  | cons e rest ih =>
    obtain ⟨ek, ev⟩ := e
    by_cases he : ek = k
    · subst he
      rw [List.map_cons, if_pos (beq_self_eq_true ek), List.find?_cons, List.find?_cons]
      simp only [hk, ih]
    · rw [List.map_cons, if_neg (by simpa using he), List.find?_cons, List.find?_cons]
      cases p ek
      · exact ih
      · rfl

@[simp] theorem lookup_setEntry_self (es : List (String × Setting)) (k : String) (v : Setting) :
    (setEntry es k v).lookup k = some v := by
  rw [lookup_setEntry, if_pos rfl]

/-- Setting a key leaves the first entry whose key a test picks, when the test
does not pick the key set. -/
theorem find?_setEntry_of_false (es : List (String × Setting)) {k : String} (v : Setting)
    (p : String → Bool) (hk : p k = false) :
    (setEntry es k v).find? (fun e => p e.1) = es.find? (fun e => p e.1) := by
  unfold setEntry
  split
  · exact find?_map_replace es v p hk
  · rw [List.find?_append, List.find?_cons]
    simp only [hk, List.find?_nil]
    cases es.find? (fun e => p e.1) <;> rfl

/-- The map a tree holds under a key, or none. -/
def mapAt (es : List (String × Setting)) (k : String) : List (String × Setting) :=
  match es.lookup k with
  | some (.map m) => m
  | _ => []

/-- Laying a value that is no map over a tree sets it. -/
theorem overlay_single {k : String} {v : Setting} (hv : ∀ sub, v ≠ .map sub)
    (es : List (String × Setting)) : overlay [(k, v)] es = setEntry es k v := by
  cases v <;> first | exact absurd rfl (hv _) | rfl

/-- Laying one entry of a map over a tree sets that entry in the map the tree
held under the key, or in an empty one. -/
theorem overlay_nested {k x : String} {v : Setting} (hv : ∀ sub, v ≠ .map sub)
    (es : List (String × Setting)) :
    overlay [(k, .map [(x, v)])] es = setEntry es k (.map (setEntry (mapAt es k) x v)) := by
  rw [show overlay [(k, .map [(x, v)])] es = overlayEntry k (.map [(x, v)]) es from rfl,
    overlayEntry, mapAt]
  -- both sides read the tree under `k` by its own match: split on the value read
  cases es.lookup k with
  | none => rfl
  | some old =>
    cases old with
    | map old => simp only [overlay_single hv]
    | _ => rfl

/-- Laying one entry over a tree sets its key, and only its key. -/
theorem overlayEntry_eq_setEntry (k : String) (v : Setting) (base : List (String × Setting)) :
    ∃ w, overlayEntry k v base = setEntry base k w := by
  cases v with
  | map sub =>
    simp only [overlayEntry]
    split
    · exact ⟨_, rfl⟩
    · exact ⟨_, rfl⟩
  | _ => exact ⟨_, rfl⟩

/-- **A tree laid over another keeps every key of the other.** -/
theorem lookup_overlay_isSome {k : String} :
    ∀ (top base : List (String × Setting)), (base.lookup k).isSome = true →
      ((overlay top base).lookup k).isSome = true
  | [], _, h => h
  | (k', v) :: rest, base, h => by
    rw [overlay]
    apply lookup_overlay_isSome rest
    obtain ⟨w, hw⟩ := overlayEntry_eq_setEntry k' v base
    rw [hw, lookup_setEntry]
    split
    · rfl
    · exact h

/-- **A tree laid over another leaves the keys it lacks.** -/
theorem lookup_overlay_of_lookup_eq_none {k : String} :
    ∀ (top base : List (String × Setting)), top.lookup k = none →
      (overlay top base).lookup k = base.lookup k
  | [], _, _ => rfl
  | (k', v) :: rest, base, h => by
    have hne : k ≠ k' := by
      rintro rfl
      simp at h
    rw [lookup_cons_of_ne _ hne] at h
    rw [overlay, lookup_overlay_of_lookup_eq_none rest _ h]
    obtain ⟨w, hw⟩ := overlayEntry_eq_setEntry k' v base
    rw [hw, lookup_setEntry, if_neg hne]

end Setting

namespace Config

open Setting

/-! ### Reading a field -/

theorem fieldValue?_of_lookup {es : List (String × Setting)} {field : String} {v : Setting}
    (h : es.lookup field = some v) : fieldValue? es field = some v := by
  unfold fieldValue?
  rw [h]

@[simp] theorem fieldValue?_setEntry_self (es : List (String × Setting)) (field : String)
    (v : Setting) : fieldValue? (setEntry es field v) field = some v :=
  fieldValue?_of_lookup (lookup_setEntry_self es field v)

/-- **A change confined to one key** of a tree: every other key reads as
before, and a test of keys that does not pick this key picks the same first
entry. -/
structure Confined (k : String) (g : List (String × Setting) → List (String × Setting)) : Prop where
  lookup_eq : ∀ acc K, K ≠ k → (g acc).lookup K = acc.lookup K
  find?_eq : ∀ acc (p : String → Bool), p k = false →
    (g acc).find? (fun e => p e.1) = acc.find? (fun e => p e.1)

theorem Confined.setEntry (k : String) (w : List (String × Setting) → Setting) :
    Confined k fun acc => Setting.setEntry acc k (w acc) where
  lookup_eq acc K hne := by rw [lookup_setEntry, if_neg hne]
  find?_eq acc p hk := find?_setEntry_of_false acc (w acc) p hk

theorem Confined.ite {k : String} {g : List (String × Setting) → List (String × Setting)}
    (c : Prop) [Decidable c] (hg : Confined k g) : Confined k fun acc => if c then acc else g acc where
  lookup_eq acc K hne := by
    split
    · rfl
    · exact hg.lookup_eq acc K hne
  find?_eq acc p hk := by
    split
    · rfl
    · exact hg.find?_eq acc p hk

theorem Confined.comp {k : String} {g h : List (String × Setting) → List (String × Setting)}
    (hg : Confined k g) (hh : Confined k h) : Confined k fun acc => g (h acc) where
  lookup_eq acc K hne := by rw [hg.lookup_eq _ K hne, hh.lookup_eq _ K hne]
  find?_eq acc p hk := by rw [hg.find?_eq _ p hk, hh.find?_eq _ p hk]

theorem Confined.id (k : String) : Confined k fun acc => acc :=
  ⟨fun _ _ _ => rfl, fun _ _ _ => rfl⟩

/-- **A field reads the same after a change confined to a key** other than
its name and not equal to it up to case. -/
theorem Confined.fieldValue?_eq {k K : String} {g : List (String × Setting) → List (String × Setting)}
    (hg : Confined k g) (hne : K ≠ k) (hfold : Text.equalFold k K = false)
    (acc : List (String × Setting)) : fieldValue? (g acc) K = fieldValue? acc K := by
  unfold fieldValue?
  rw [hg.lookup_eq acc K hne, hg.find?_eq acc (fun k' => Text.equalFold k' K) hfold]

/-! ### The environment layer, variable by variable -/

/-- **One variable of the environment** laid over a tree: each of its keys set
to its trimmed value, unless that is blank. -/
def envStep (getenv : String → String) (var : String) (keys : List String)
    (acc : List (String × Setting)) : List (String × Setting) :=
  let v := Text.trimSpace (getenv var)
  if v.isEmpty then acc
  else keys.foldl (fun acc key => Setting.overlay (Setting.atPath key (.str v)) acc) acc

theorem environmentLayer_eq (getenv : String → String) (base : List (String × Setting)) :
    environmentLayer getenv base =
      envStep getenv "RDAPCTL_IPV6_BOOTSTRAP" ["bootstrap.ipv6"]
        (envStep getenv "RDAPCTL_IPV4_BOOTSTRAP" ["bootstrap.ipv4"]
          (envStep getenv "RDAPCTL_IP_BOOTSTRAP" ["bootstrap.ipv4", "bootstrap.ipv6"]
            (envStep getenv "RDAPCTL_DNS_BOOTSTRAP" ["bootstrap.dns"]
              (envStep getenv "RDAPCTL_LOG_LEVEL" ["log_level"]
                (envStep getenv "RDAPCTL_OUTPUT" ["output"]
                  (envStep getenv "RDAPCTL_MAX_RETRIES" ["max_retries"]
                    (envStep getenv "RDAPCTL_TIMEOUT" ["timeout"]
                      (envStep getenv "RDAPCTL_UA" ["user_agent"] base)))))))) := by
  have hfold : environmentLayer getenv base =
      environmentKeys.foldl (fun acc vk => envStep getenv vk.1 vk.2 acc) base := rfl
  rw [hfold]
  simp only [environmentKeys, List.foldl_cons, List.foldl_nil]

/-- **The value a variable gives** when it is not blank, else `fallback`. -/
def envOr (getenv : String → String) (var : String) (fallback : Option Setting) : Option Setting :=
  if (Text.trimSpace (getenv var)).isEmpty then fallback
  else some (.str (Text.trimSpace (getenv var)))

/-- A key without a dot is a key at the top. -/
theorem atPath_plain {k : String} (hk : '.' ∉ k.toList) (x : Setting) : atPath k x = [(k, x)] := by
  simp [atPath, List.splitOn_eq_singleton hk]

section Plain

variable (getenv : String → String) (var : String) {K : String}

/-- A variable of one plain key sets that key. -/
theorem envStep_plain (hK : '.' ∉ K.toList) (acc : List (String × Setting)) :
    envStep getenv var [K] acc =
      if (Text.trimSpace (getenv var)).isEmpty then acc
      else Setting.setEntry acc K (.str (Text.trimSpace (getenv var))) := by
  simp only [envStep, List.foldl, atPath_plain hK]
  split
  · rfl
  · exact overlay_single (fun _ h => Setting.noConfusion h) acc

theorem confined_plain (hK : '.' ∉ K.toList) : Confined K (envStep getenv var [K]) := by
  have hstep : envStep getenv var [K] = fun acc =>
      if (Text.trimSpace (getenv var)).isEmpty then acc
      else Setting.setEntry acc K (.str (Text.trimSpace (getenv var))) :=
    funext (envStep_plain getenv var hK)
  rw [hstep]
  exact (Confined.setEntry K fun _ => _).ite _

theorem fieldValue?_envStep_plain (hK : '.' ∉ K.toList) (acc : List (String × Setting)) :
    fieldValue? (envStep getenv var [K] acc) K = envOr getenv var (fieldValue? acc K) := by
  rw [envStep_plain getenv var hK, envOr]
  split
  · rfl
  · exact fieldValue?_setEntry_self _ _ _

theorem fieldValue?_envStep_plain_of_ne {k : String} (hk : '.' ∉ k.toList)
    (hne : K ≠ k) (hfold : Text.equalFold k K = false) (acc : List (String × Setting)) :
    fieldValue? (envStep getenv var [k] acc) K = fieldValue? acc K :=
  (confined_plain getenv var hk).fieldValue?_eq hne hfold acc

theorem lookup_envStep_plain_of_ne {k K : String} (hk : '.' ∉ k.toList) (hne : K ≠ k)
    (acc : List (String × Setting)) : (envStep getenv var [k] acc).lookup K = acc.lookup K :=
  (confined_plain getenv var hk).lookup_eq acc K hne

end Plain

/-! ### The registry URLs -/

/-- **Sets one registry URL** in the map under `bootstrap`: in the map held
there, or in an empty one when there is no map. -/
def setUrl (x : String) (v : Setting) (acc : List (String × Setting)) : List (String × Setting) :=
  Setting.setEntry acc "bootstrap" (.map (Setting.setEntry (mapAt acc "bootstrap") x v))

theorem lookup_setUrl (x : String) (v : Setting) (acc : List (String × Setting)) :
    (setUrl x v acc).lookup "bootstrap" = some (.map (Setting.setEntry (mapAt acc "bootstrap") x v)) :=
  lookup_setEntry_self _ _ _

theorem mapAt_setUrl (x : String) (v : Setting) (acc : List (String × Setting)) :
    mapAt (setUrl x v acc) "bootstrap" = Setting.setEntry (mapAt acc "bootstrap") x v := by
  rw [mapAt, lookup_setUrl]

theorem confined_setUrl (x : String) (v : Setting) : Confined "bootstrap" (setUrl x v) :=
  Confined.setEntry "bootstrap" _

section Url

variable (getenv : String → String) (var : String) {key x : String}

/-- A variable of one registry sets its URL. -/
theorem envStep_url (hkey : ∀ y, atPath key y = [("bootstrap", .map [(x, y)])])
    (acc : List (String × Setting)) :
    envStep getenv var [key] acc =
      if (Text.trimSpace (getenv var)).isEmpty then acc
      else setUrl x (.str (Text.trimSpace (getenv var))) acc := by
  simp only [envStep, List.foldl, hkey]
  split
  · rfl
  · exact overlay_nested (fun _ h => Setting.noConfusion h) acc

/-- A variable of two registries sets both URLs, one after the other. -/
theorem envStep_urls {key' x' : String} (hkey : ∀ y, atPath key y = [("bootstrap", .map [(x, y)])])
    (hkey' : ∀ y, atPath key' y = [("bootstrap", .map [(x', y)])]) (acc : List (String × Setting)) :
    envStep getenv var [key, key'] acc =
      if (Text.trimSpace (getenv var)).isEmpty then acc
      else setUrl x' (.str (Text.trimSpace (getenv var)))
        (setUrl x (.str (Text.trimSpace (getenv var))) acc) := by
  simp only [envStep, List.foldl, hkey, hkey']
  split
  · rfl
  · rw [overlay_nested (fun _ h => Setting.noConfusion h),
      overlay_nested (fun _ h => Setting.noConfusion h)]
    rfl

theorem confined_url (hkey : ∀ y, atPath key y = [("bootstrap", .map [(x, y)])]) :
    Confined "bootstrap" (envStep getenv var [key]) := by
  rw [funext (envStep_url getenv var hkey)]
  exact (confined_setUrl x _).ite _

theorem confined_urls {key' x' : String} (hkey : ∀ y, atPath key y = [("bootstrap", .map [(x, y)])])
    (hkey' : ∀ y, atPath key' y = [("bootstrap", .map [(x', y)])]) :
    Confined "bootstrap" (envStep getenv var [key, key']) := by
  rw [funext (envStep_urls getenv var hkey hkey')]
  exact ((confined_setUrl x' _).comp (confined_setUrl x _)).ite _

theorem fieldValue?_envStep_url_of_ne (hkey : ∃ x, ∀ y, atPath key y = [("bootstrap", .map [(x, y)])])
    {K : String} (hne : K ≠ "bootstrap") (hfold : Text.equalFold "bootstrap" K = false)
    (acc : List (String × Setting)) :
    fieldValue? (envStep getenv var [key] acc) K = fieldValue? acc K :=
  (confined_url getenv var hkey.choose_spec).fieldValue?_eq hne hfold acc

theorem fieldValue?_envStep_urls_of_ne {key' : String}
    (hkey : ∃ x, ∀ y, atPath key y = [("bootstrap", .map [(x, y)])])
    (hkey' : ∃ x', ∀ y, atPath key' y = [("bootstrap", .map [(x', y)])])
    {K : String} (hne : K ≠ "bootstrap") (hfold : Text.equalFold "bootstrap" K = false)
    (acc : List (String × Setting)) :
    fieldValue? (envStep getenv var [key, key'] acc) K = fieldValue? acc K :=
  (confined_urls getenv var hkey.choose_spec hkey'.choose_spec).fieldValue?_eq hne hfold acc

end Url

/-- **Sets a registry URL in a map** when its variable is not blank. -/
def urlIf (getenv : String → String) (var x : String) (m : List (String × Setting)) :
    List (String × Setting) :=
  if (Text.trimSpace (getenv var)).isEmpty then m
  else Setting.setEntry m x (.str (Text.trimSpace (getenv var)))

/-- **The registry URLs that the environment leaves** in the map `m` held under
`bootstrap`, its variables read in order: the domain registry, both address
registries, then each address registry alone. -/
def urlMap (getenv : String → String) (m : List (String × Setting)) : List (String × Setting) :=
  urlIf getenv "RDAPCTL_IPV6_BOOTSTRAP" "ipv6" <| urlIf getenv "RDAPCTL_IPV4_BOOTSTRAP" "ipv4" <|
    urlIf getenv "RDAPCTL_IP_BOOTSTRAP" "ipv6" <| urlIf getenv "RDAPCTL_IP_BOOTSTRAP" "ipv4" <|
      urlIf getenv "RDAPCTL_DNS_BOOTSTRAP" "dns" m

/-- Whether one of the registry variables is not blank. -/
def urlsSet (getenv : String → String) : Bool :=
  ["RDAPCTL_DNS_BOOTSTRAP", "RDAPCTL_IP_BOOTSTRAP", "RDAPCTL_IPV4_BOOTSTRAP",
    "RDAPCTL_IPV6_BOOTSTRAP"].any fun var => !(Text.trimSpace (getenv var)).isEmpty

theorem fieldValue?_urlIf_self (getenv : String → String) (var x : String)
    (m : List (String × Setting)) : fieldValue? (urlIf getenv var x m) x = envOr getenv var (fieldValue? m x) := by
  rw [urlIf, envOr]
  split
  · rfl
  · exact fieldValue?_setEntry_self _ _ _

theorem fieldValue?_urlIf_of_ne (getenv : String → String) (var : String) {x K : String}
    (hne : K ≠ x) (hfold : Text.equalFold x K = false) (m : List (String × Setting)) :
    fieldValue? (urlIf getenv var x m) K = fieldValue? m K :=
  ((Confined.setEntry x fun _ => _).ite _).fieldValue?_eq hne hfold m

/-- **The URLs of the three registries**: each is the trimmed value of its
last variable that is not blank, `RDAPCTL_IPV4_BOOTSTRAP` (or
`RDAPCTL_IPV6_BOOTSTRAP`) before `RDAPCTL_IP_BOOTSTRAP`, and else what the map
held. -/
theorem fieldValue?_urlMap (getenv : String → String) (m : List (String × Setting)) :
    fieldValue? (urlMap getenv m) "dns" = envOr getenv "RDAPCTL_DNS_BOOTSTRAP" (fieldValue? m "dns") ∧
    fieldValue? (urlMap getenv m) "ipv4" = envOr getenv "RDAPCTL_IPV4_BOOTSTRAP"
      (envOr getenv "RDAPCTL_IP_BOOTSTRAP" (fieldValue? m "ipv4")) ∧
    fieldValue? (urlMap getenv m) "ipv6" = envOr getenv "RDAPCTL_IPV6_BOOTSTRAP"
      (envOr getenv "RDAPCTL_IP_BOOTSTRAP" (fieldValue? m "ipv6")) := by
  refine ⟨?_, ?_, ?_⟩ <;>
    simp (disch := decide +kernel) only [urlMap, fieldValue?_urlIf_of_ne, fieldValue?_urlIf_self]

/-- **The map under `bootstrap` in the environment layer**: when a registry
variable is not blank, the map held below (or an empty one, when there was no
map) with the URLs of the environment set; else what was there below. -/
theorem lookup_bootstrap_environmentLayer (getenv : String → String)
    (base : List (String × Setting)) :
    (environmentLayer getenv base).lookup "bootstrap" =
      if urlsSet getenv then some (.map (urlMap getenv (mapAt base "bootstrap")))
      else base.lookup "bootstrap" := by
  rw [environmentLayer_eq, @envStep_url getenv "RDAPCTL_IPV6_BOOTSTRAP" "bootstrap.ipv6" "ipv6" (fun _ => rfl),
    @envStep_url getenv "RDAPCTL_IPV4_BOOTSTRAP" "bootstrap.ipv4" "ipv4" (fun _ => rfl),
    @envStep_urls getenv "RDAPCTL_IP_BOOTSTRAP" "bootstrap.ipv4" "ipv4" "bootstrap.ipv6" "ipv6"
      (fun _ => rfl) (fun _ => rfl),
    @envStep_url getenv "RDAPCTL_DNS_BOOTSTRAP" "bootstrap.dns" "dns" (fun _ => rfl)]
  -- the plain variables leave the key `bootstrap` as it was
  generalize hplain : envStep getenv "RDAPCTL_LOG_LEVEL" ["log_level"] _ = acc
  have hacc : acc.lookup "bootstrap" = base.lookup "bootstrap" := by
    rw [← hplain]
    simp (disch := decide +kernel) only [lookup_envStep_plain_of_ne]
  have hmap : mapAt acc "bootstrap" = mapAt base "bootstrap" := by rw [mapAt, mapAt, hacc]
  by_cases hdns : (Text.trimSpace (getenv "RDAPCTL_DNS_BOOTSTRAP")).isEmpty <;>
    by_cases hip : (Text.trimSpace (getenv "RDAPCTL_IP_BOOTSTRAP")).isEmpty <;>
    by_cases hip4 : (Text.trimSpace (getenv "RDAPCTL_IPV4_BOOTSTRAP")).isEmpty <;>
    by_cases hip6 : (Text.trimSpace (getenv "RDAPCTL_IPV6_BOOTSTRAP")).isEmpty <;>
    simp [hdns, hip, hip4, hip6, lookup_setUrl, mapAt_setUrl, urlMap, urlIf, urlsSet, hacc, hmap]

/-- **The plain settings under the environment**: each is the trimmed value
of its variable when that is not blank, and else what it was below; the
compact form, which has no variable, is what it was below. -/
theorem fieldValue?_environmentLayer (getenv : String → String) (base : List (String × Setting)) :
    fieldValue? (environmentLayer getenv base) "user_agent" =
        envOr getenv "RDAPCTL_UA" (fieldValue? base "user_agent") ∧
    fieldValue? (environmentLayer getenv base) "timeout" =
        envOr getenv "RDAPCTL_TIMEOUT" (fieldValue? base "timeout") ∧
    fieldValue? (environmentLayer getenv base) "max_retries" =
        envOr getenv "RDAPCTL_MAX_RETRIES" (fieldValue? base "max_retries") ∧
    fieldValue? (environmentLayer getenv base) "output" =
        envOr getenv "RDAPCTL_OUTPUT" (fieldValue? base "output") ∧
    fieldValue? (environmentLayer getenv base) "log_level" =
        envOr getenv "RDAPCTL_LOG_LEVEL" (fieldValue? base "log_level") ∧
    fieldValue? (environmentLayer getenv base) "compact" = fieldValue? base "compact" := by
  rw [environmentLayer_eq]
  refine ⟨?_, ?_, ?_, ?_, ?_, ?_⟩ <;>
    simp (disch := first | exact ⟨_, fun _ => rfl⟩ | decide +kernel) only [fieldValue?_envStep_plain_of_ne,
      fieldValue?_envStep_url_of_ne, fieldValue?_envStep_urls_of_ne, fieldValue?_envStep_plain]

/-! ### The file over the defaults -/

/-- **A setting with a default is read under its exact key** in the file's
layer laid over the defaults: a key of the file that equals it only up to
case is never read, and when the file does not give the exact key, the default
stands. -/
theorem fieldValue?_overlay_defaults (fromFile : List (String × Setting)) {K : String}
    (hK : (defaultEntries.lookup K).isSome = true) :
    fieldValue? (overlay fromFile defaultEntries) K = (overlay fromFile defaultEntries).lookup K ∧
      (fromFile.lookup K = none →
        (overlay fromFile defaultEntries).lookup K = defaultEntries.lookup K) := by
  obtain ⟨v, hv⟩ := Option.isSome_iff_exists.mp (lookup_overlay_isSome fromFile defaultEntries hK)
  exact ⟨by rw [hv, fieldValue?_of_lookup hv], lookup_overlay_of_lookup_eq_none fromFile defaultEntries⟩

end Config

end Rdap
