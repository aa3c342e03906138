import ImageFiling.Proofs.Config.Reading
import Mathlib.Data.List.DropRight

/-!
# Configurations written and read again

What is written for a configuration is read as the configuration with the host of its object store
taken for an endpoint once more (`ofJson_toJson`). That changes nothing exactly if the host begins
with no scheme (`reread_iff_bare`).
-/

namespace ImageFiling

/-! ### Hosts -/

theorem Text.trimEnd_trimEnd (p : Char → Bool) (t : Text) :
    trimEnd p (trimEnd p t) = trimEnd p t := List.rdropWhile_idempotent p t

theorem Text.length_trimEnd_le (p : Char → Bool) (t : Text) : (trimEnd p t).length ≤ t.length :=
  (List.rdropWhile_prefix p t).length_le

namespace Provider

/-- A text begins with a scheme, in whatever case. -/
def Begins (scheme t : Text) : Prop := (t.take scheme.length).map Char.toLower = scheme

instance (scheme t : Text) : Decidable (Begins scheme t) :=
  inferInstanceAs (Decidable ((t.take scheme.length).map Char.toLower = scheme))

theorem dropScheme_of_not {scheme t : Text} (clean : ¬ Begins scheme t) : dropScheme scheme t = t :=
  if_neg clean

theorem length_dropScheme_le (scheme t : Text) : (dropScheme scheme t).length ≤ t.length := by
  unfold dropScheme
  split
  · rw [List.length_drop]
    omega
  · exact Nat.le_refl _

theorem length_dropScheme_lt {scheme t : Text} (begins : Begins scheme t) (proper : scheme ≠ []) :
    (dropScheme scheme t).length < t.length := by
  have whole : (t.take scheme.length).length = scheme.length := by
    rw [← List.length_map (f := Char.toLower), begins]
  have positive := List.length_pos_iff.mpr proper
  have dropped : dropScheme scheme t = t.drop scheme.length := if_pos begins
  rw [dropped, List.length_drop]
  rw [List.length_take] at whole
  omega

/-- A host begins with no scheme that would be dropped. -/
def IsBare (host : Text) : Prop := ¬ Begins "https://" host ∧ ¬ Begins "http://" host

instance (host : Text) : Decidable (IsBare host) :=
  inferInstanceAs (Decidable (¬ Begins "https://" host ∧ ¬ Begins "http://" host))

/-- The host of an endpoint is its own host exactly if no scheme is left on it. -/
theorem hostOf_hostOf_iff (t : Text) : hostOf (hostOf t) = hostOf t ↔ IsBare (hostOf t) := by
  have trimmed : Text.trimEnd (· == '/') (hostOf t) = hostOf t := Text.trimEnd_trimEnd _ _
  generalize hostOf t = host at trimmed ⊢
  constructor
  · intro same
    -- A scheme that is dropped makes the text shorter, and nothing makes it longer again.
    have kept : host.length ≤ (dropScheme "http://" (dropScheme "https://" host)).length := by
      have shorter := Text.length_trimEnd_le (· == '/')
        (dropScheme "http://" (dropScheme "https://" host))
      rwa [show Text.trimEnd _ _ = host from same] at shorter
    have outer := length_dropScheme_le "http://" (dropScheme "https://" host)
    have noSecure : ¬ Begins "https://" host := by
      intro begins
      have inner := length_dropScheme_lt begins (by decide)
      omega
    refine ⟨noSecure, fun begins => ?_⟩
    rw [dropScheme_of_not noSecure] at kept
    have shorter := length_dropScheme_lt begins (by decide)
    omega
  · rintro ⟨noSecure, noPlain⟩
    rw [hostOf, dropScheme_of_not noSecure, dropScheme_of_not noPlain, trimmed]

/-- The provider with its host taken for an endpoint. -/
def rehosted : Provider → Provider
  | awsS3 account => awsS3 { account with host := hostOf account.host }
  | p => p

end Provider

namespace Config

open Read

/-! ### Providers by their tags -/

/-- The members are those of the account of a provider. -/
def IsReadFrom (members : Json.Members) : Provider → Prop
  | .fileLu account => folderAccount members = .ok account
  | .fileLuS5 access => bucketAccess members = .ok access
  | .awsS3 account => bucketAccount members = .ok account

theorem tagged_eq_ok {members : Json.Members} {tag : Json} {p : Provider} :
    tagged members tag = .ok p ↔ tag = .text p.tag ∧ IsReadFrom members p := by
  constructor
  · intro done
    unfold tagged at done
    split at done
    · split at done
      · next same =>
        subst same
        obtain ⟨_, read, rfl⟩ := Checked.under_map_eq_ok.mp done
        exact ⟨rfl, read⟩
      · split at done
        · next same =>
          subst same
          obtain ⟨_, read, rfl⟩ := Checked.under_map_eq_ok.mp done
          exact ⟨rfl, read⟩
        · split at done
          · next same =>
            subst same
            obtain ⟨_, read, rfl⟩ := Checked.under_map_eq_ok.mp done
            exact ⟨rfl, read⟩
          · cases done
    · cases done
  · rintro ⟨rfl, read⟩
    cases p with
    | fileLu account =>
      unfold tagged Provider.tag
      dsimp only
      rw [if_pos rfl]
      exact Checked.under_map_eq_ok.mpr ⟨account, read, rfl⟩
    | fileLuS5 access =>
      unfold tagged Provider.tag
      dsimp only
      rw [if_neg (by decide), if_pos rfl]
      exact Checked.under_map_eq_ok.mpr ⟨access, read, rfl⟩
    | awsS3 account =>
      unfold tagged Provider.tag
      dsimp only
      rw [if_neg (by decide), if_neg (by decide), if_pos rfl]
      exact Checked.under_map_eq_ok.mpr ⟨account, read, rfl⟩

theorem provider_eq_ok {v : Json} {p : Provider} :
    Read.provider v = .ok p ↔ ∃ members, v = .object members ∧
      Entries.get? members "type" = some (.text p.tag) ∧ IsReadFrom members p := by
  unfold Read.provider
  split
  · next members =>
    split
    · next tag found =>
      rw [tagged_eq_ok]
      constructor
      · rintro ⟨rfl, read⟩
        exact ⟨members, rfl, found, read⟩
      · rintro ⟨_, ⟨⟩, named, read⟩
        exact ⟨Option.some.inj (found.symm.trans named), read⟩
    · next missing =>
      constructor
      · nofun
      · rintro ⟨_, ⟨⟩, named, -⟩
        cases missing.symm.trans named
  · next other =>
    constructor
    · nofun
    · rintro ⟨members, rfl, -⟩
      exact absurd rfl (other members)

/-! ### What is written is read -/

theorem nullable_ofText? (t : Option Text) : nullable text (Json.ofText? t) = .ok t := by
  cases t <;> rfl

theorem items_map {α : Type} {read : Json → Checked α} {write : α → Json}
    (inverse : ∀ a, read (write a) = .ok a) (n : Nat) (as : List α) :
    Checked.items read n (as.map write) = .ok as := by
  induction as generalizing n with
  | nil => rfl
  | cons a rest ih =>
    rw [List.map_cons, Checked.items, inverse, ih]
    rfl

theorem template_toJson (t : Template) : template t.toJson = .ok t := by
  have url : urlPattern (.text t.url) = .ok ⟨t.url, t.url_ne_nil⟩ := dif_pos t.url_ne_nil
  have rooted : directory (Json.ofText? t.directory) = .ok ⟨t.directory, t.directory_rooted⟩ :=
    bind_eq_ok.mpr ⟨t.directory, nullable_ofText? t.directory, dif_pos t.directory_rooted⟩
  refine bind_eq_ok.mpr ⟨_, rfl, map_eq_ok.mpr ⟨(⟨t.url, t.url_ne_nil⟩,
    ⟨t.directory, t.directory_rooted⟩, t.fileName, t.description, t.encryption), ?_, rfl⟩⟩
  simp only [Checked.both_eq_ok, required_eq_ok, optional_eq_ok]
  exact ⟨⟨_, rfl, url⟩, rooted, nullable_ofText? t.fileName, nullable_ofText? t.description, rfl⟩

theorem imageFormat_mime (f : ImageFormat) : Read.imageFormat (.text f.mime) = .ok f := by
  cases f <;> rfl

/-- Of what is written of a provider only the host is not taken as it is. -/
theorem provider_toJson (p : Provider) : Read.provider p.toJson = .ok p.rehosted := by
  cases p with
  | fileLu a =>
    refine provider_eq_ok.mpr ⟨_, rfl, rfl, ?_⟩
    exact required_eq_ok.mpr ⟨_, rfl, dif_pos a.apiKey_isFilled⟩
  | fileLuS5 a =>
    refine provider_eq_ok.mpr ⟨_, rfl, rfl, ?_⟩
    refine map_eq_ok.mpr ⟨(a.accessId, a.secretKey, a.bucket), ?_, rfl⟩
    simp only [Checked.both_eq_ok, required_eq_ok]
    exact ⟨⟨_, rfl, rfl⟩, ⟨_, rfl, rfl⟩, ⟨_, rfl, rfl⟩⟩
  | awsS3 a =>
    refine provider_eq_ok.mpr ⟨_, rfl, rfl, ?_⟩
    refine map_eq_ok.mpr ⟨(a.accessId, a.secretKey, Provider.hostOf a.host, a.bucket, a.region,
      a.pathStyle), ?_, rfl⟩
    simp only [Checked.both_eq_ok, required_eq_ok, optional_eq_ok]
    exact ⟨⟨_, rfl, rfl⟩, ⟨_, rfl, rfl⟩, ⟨_, rfl, rfl⟩, ⟨_, rfl, rfl⟩, nullable_ofText? a.region,
      rfl⟩

/-- A configuration with the host of its object store taken for an endpoint. -/
def rehosted (c : Config) : Config := { c with provider := c.provider.map Provider.rehosted }

theorem ofJson_toJson (c : Config) : ofJson c.toJson = .ok c.rehosted := by
  refine ofJson_eq_ok.mpr fun s => ?_
  cases s with
  | provider =>
    change nullable Read.provider ((c.provider.map Provider.toJson).getD .null) =
      .ok (c.provider.map Provider.rehosted)
    cases c.provider with
    | none => rfl
    | some p => exact map_eq_ok.mpr ⟨p.rehosted, provider_toJson p, rfl⟩
  | password => exact nullable_ofText? c.password
  | templates => exact items_map template_toJson 0 c.templates
  | sidebarMode => rfl
  | notificationLevel => rfl
  | imageFormat => exact imageFormat_mime c.imageFormat

/-! ### What was read is written -/

theorem nullable_eq_some {α : Type} {read : Json → Checked α} {v : Json} {a : α}
    (done : nullable read v = .ok (some a)) : read v = .ok a := by
  unfold nullable at done
  split at done
  · cases done
  · obtain ⟨_, ends, same⟩ := map_eq_ok.mp done
    cases same
    exact ends

theorem host_of_bucketAccount {members : Json.Members} {account : BucketAccount}
    (done : bucketAccount members = .ok account) : ∃ t, account.host = Provider.hostOf t := by
  obtain ⟨⟨accessId, secretKey, host, bucket, region, pathStyle⟩, parts, rfl⟩ := map_eq_ok.mp done
  simp only [Checked.both_eq_ok, required_eq_ok] at parts
  obtain ⟨-, -, ⟨v, -, read⟩, -⟩ := parts
  obtain ⟨t, -, rfl⟩ := map_eq_ok.mp read
  exact ⟨t, rfl⟩

theorem host_of_ofJson {v : Json} {c : Config} {account : BucketAccount} (done : ofJson v = .ok c)
    (stored : c.provider = some (.awsS3 account)) : ∃ t, account.host = Provider.hostOf t := by
  obtain ⟨members, rfl⟩ := object_of_ofJson done
  have read : Setting.provider.readIn members = .ok c.provider := ofJson_eq_ok.mp done .provider
  rw [stored, Setting.readIn] at read
  cases given : Setting.provider.names.value? members with
  | none =>
    rw [given] at read
    cases read
  | some v =>
    rw [given] at read
    obtain ⟨_, -, -, inside⟩ := provider_eq_ok.mp (nullable_eq_some read)
    exact host_of_bucketAccount inside

/-- The host of the object store, if there is one, begins with no scheme. -/
def HasBareHost (c : Config) : Prop :=
  ∀ account : BucketAccount, c.provider = some (.awsS3 account) → Provider.IsBare account.host

theorem rehosted_eq_iff {c : Config}
    (hosts : ∀ account, c.provider = some (.awsS3 account) →
      ∃ t, account.host = Provider.hostOf t) :
    c.rehosted = c ↔ c.HasBareHost := by
  constructor
  · intro same account stored
    have provider : c.provider.map Provider.rehosted = c.provider := congrArg Config.provider same
    rw [stored] at provider
    have again : Provider.hostOf account.host = account.host := by
      injection provider with provider
      injection provider with provider
      exact congrArg BucketAccount.host provider
    obtain ⟨t, host⟩ := hosts account stored
    rw [host] at again ⊢
    exact (Provider.hostOf_hostOf_iff t).mp again
  · intro bare
    have provider : c.provider.map Provider.rehosted = c.provider := by
      cases stored : c.provider with
      | none => rfl
      | some p =>
        cases p with
        | fileLu a => rfl
        | fileLuS5 a => rfl
        | awsS3 account =>
          obtain ⟨t, host⟩ := hosts account stored
          have clean := bare account stored
          rw [host] at clean
          have again : Provider.hostOf account.host = account.host := by
            rw [host]
            exact (Provider.hostOf_hostOf_iff t).mpr clean
          rw [Option.map_some, Provider.rehosted, again]
    rw [rehosted, provider]

/-- What is written for a configuration that was read is always read again, and it is read as the
same configuration exactly if no scheme is left on its host. -/
theorem reread_iff_bare {v : Json} {c : Config} (done : ofJson v = .ok c) :
    ofJson c.toJson = .ok c.rehosted ∧ (ofJson c.toJson = .ok c ↔ c.HasBareHost) := by
  refine ⟨ofJson_toJson c, ?_⟩
  rw [ofJson_toJson, Except.ok.injEq]
  exact rehosted_eq_iff fun account stored => host_of_ofJson done stored

def endpointMembers (endpoint : Text) : Json.Members :=
  [("type", .text "AwsS3"), ("accessId", .text "key"), ("secretKey", .text "secret"),
    ("hostName", .text endpoint), ("bucketName", .text "images")]

def endpointBlob (endpoint : Text) : Json :=
  .object [("provider", .object (endpointMembers endpoint))]

def endpointAccount (host : Text) : BucketAccount :=
  { accessId := "key", secretKey := "secret", bucket := "images", host }

def endpointConfig (host : Text) : Config := { provider := some (.awsS3 (endpointAccount host)) }

theorem endpoint_read (endpoint : Text) :
    ofJson (endpointBlob endpoint) = .ok (endpointConfig (Provider.hostOf endpoint)) := by
  have account : bucketAccount (endpointMembers endpoint) =
      .ok (endpointAccount (Provider.hostOf endpoint)) := by
    refine map_eq_ok.mpr
      ⟨("key", "secret", Provider.hostOf endpoint, "images", none, false), ?_, rfl⟩
    simp only [Checked.both_eq_ok, required_eq_ok, optional_eq_ok]
    exact ⟨⟨_, rfl, rfl⟩, ⟨_, rfl, rfl⟩, ⟨_, rfl, rfl⟩, ⟨_, rfl, rfl⟩, rfl, rfl⟩
  have provider : Read.provider (.object (endpointMembers endpoint)) =
      .ok (.awsS3 (endpointAccount (Provider.hostOf endpoint))) :=
    provider_eq_ok.mpr ⟨_, rfl, rfl, account⟩
  have given : nullable Read.provider (.object (endpointMembers endpoint)) =
      .ok (some (.awsS3 (endpointAccount (Provider.hostOf endpoint)))) :=
    map_eq_ok.mpr ⟨_, provider, rfl⟩
  refine ofJson_eq_ok.mpr fun s => ?_
  cases s with
  | provider => exact given
  | _ => rfl

theorem plain_endpoint_kept :
    ofJson (endpointBlob "HTTPS://minio.local:9000/") = .ok (endpointConfig "minio.local:9000") ∧
    ofJson (endpointConfig "minio.local:9000").toJson =
      .ok (endpointConfig "minio.local:9000") := by
  have done : ofJson (endpointBlob "HTTPS://minio.local:9000/") =
      .ok (endpointConfig "minio.local:9000") := endpoint_read "HTTPS://minio.local:9000/"
  refine ⟨done, (reread_iff_bare done).2.mpr ?_⟩
  rintro account ⟨⟩
  decide

/-- Of two schemes one is dropped by the first reading and the other by the second. -/
theorem doubled_scheme_not_kept :
    ofJson (endpointBlob "http://https://h") = .ok (endpointConfig "https://h") ∧
    ofJson (endpointConfig "https://h").toJson = .ok (endpointConfig "h") :=
  ⟨endpoint_read "http://https://h", ofJson_toJson (endpointConfig "https://h")⟩

end Config

end ImageFiling
