import NxosExporter.ConnectionParams

/-!
# Which configurations are accepted

The checks of `parseConfig` accept what they should except in three places. A missing heartbeat interval is
dereferenced instead of taking its default, a negative one is compared as unsigned, and the type check of the
key file looks at the certificate. Everything else is accepted or raises `ConfigError` as it should.
-/

namespace NxosExporter

open Effectful

/-- The members of a `connection-params` or a `credentials` map. -/
abbrev Members := List (String × Element)

def Members.HasString (members : Members) (name : String) : Prop :=
  ∃ value, members.lookup name = some (.string value)

def NamesHost (parseUrl : String → Except String Url) (members : Members) (url : Url) : Prop :=
  ∃ host, members.lookup "host" = some (.string host) ∧ parseUrl host = .ok url

def defaultHeartbeatInterval : Int64 := 5

/-- The interval of a valid configuration: a positive integer, or the default when it is absent. -/
def configuredInterval (members : Members) : Option Int64 :=
  match members.lookup "heartbeat-interval" with
  | none => some defaultHeartbeatInterval
  | some (.integer value) => if 0 < value then some value else none
  | some _ => none

def IsValidConfig (parseUrl : String → Except String Url) (members : Members) : Prop :=
  ∃ url credentials, NamesHost parseUrl members url ∧ (configuredInterval members).isSome = true ∧
    members.lookup "credentials" = some (.map credentials) ∧ Members.HasString credentials "login" ∧
    Members.HasString credentials "password" ∧ (url.scheme = .https →
      Members.HasString credentials "certificate" ∧ Members.HasString credentials "keyfile")

/-- Valid configurations are accepted with their interval, all others are rejected with `ConfigError`. -/
structure ParsesExactly (parseUrl : String → Except String Url) (members : Members) : Prop where
  accepted : IsValidConfig parseUrl members → ∃ params interval,
    NXOSConnectionConfigParams.parseConfig parseUrl (some (.map members)) = .ok params ∧
      configuredInterval members = some interval ∧ params.heartbeatIntervalSecs.toNat = interval.toInt
  rejected : ¬ IsValidConfig parseUrl members → ∃ what,
    NXOSConnectionConfigParams.parseConfig parseUrl (some (.map members)) = throwConfigError what

/-- The credentials get through the checks: of the key file only its presence counts. -/
structure PassesChecks (url : Url) (credentials : Members) : Prop where
  login : credentials.HasString "login"
  password : credentials.HasString "password"
  tls : url.scheme = .https →
    credentials.HasString "certificate" ∧ (credentials.lookup "keyfile").isSome = true

/-- The configurations that the three slips are about. -/
inductive ReachesSlip (parseUrl : String → Except String Url) (members : Members) : Prop
  | noInterval {url : Url} (hhost : NamesHost parseUrl members url)
      (hinterval : members.lookup "heartbeat-interval" = none)
  | negativeInterval {url : Url} {value : Int64} {credentials : Members}
      (hhost : NamesHost parseUrl members url)
      (hinterval : members.lookup "heartbeat-interval" = some (.integer value)) (hnegative : value < 0)
      (hcredentials : members.lookup "credentials" = some (.map credentials))
      (hchecks : PassesChecks url credentials)
  | keyfileType {url : Url} {value : Int64} {credentials : Members}
      (hhost : NamesHost parseUrl members url)
      (hinterval : members.lookup "heartbeat-interval" = some (.integer value)) (hpositive : 0 < value)
      (hcredentials : members.lookup "credentials" = some (.map credentials))
      (hchecks : PassesChecks url credentials) (hscheme : url.scheme = .https)
      (hkeyfile : ¬ credentials.HasString "keyfile")

/-! ### The stages -/

section Stages

variable {α β : Type}

/-- A stage comes to a value that satisfies `good`, or there is none and it raises `ConfigError`. -/
def Decides (good : α → Prop) (outcome : Outcome Exn α) : Prop :=
  (∃ value, good value ∧ outcome = .ok value) ∨
    (∀ value, ¬ good value) ∧ ∃ what, outcome = throwConfigError what

theorem Decides.bind {first : α → Prop} {good : β → Prop} {outcome : Outcome Exn α}
    {next : α → Outcome Exn β} (houtcome : Decides first outcome)
    (hnext : ∀ value, first value → Decides good (next value))
    (hneeds : ∀ result, good result → ∃ value, first value) : Decides good (outcome >>= next) := by
  obtain ⟨value, hvalue, rfl⟩ | ⟨hnone, what, rfl⟩ := houtcome
  · exact hnext value hvalue
  · refine .inr ⟨fun result hresult => ?_, what, rfl⟩
    obtain ⟨value, hvalue⟩ := hneeds result hresult
    exact hnone value hvalue

theorem decides_stringField (fieldName : String) (element : Option Element) :
    Decides (fun value => element = some (.string value)) (stringField fieldName element) := by
  cases element with
  | none => exact .inr ⟨by simp, _, rfl⟩
  | some element =>
      cases element with
      | string value => exact .inl ⟨value, rfl, rfl⟩
      | _ => exact .inr ⟨by simp, _, rfl⟩

variable {members : Members}

theorem decides_parseHost (parseUrl : String → Except String Url) (members : Members) :
    Decides (NamesHost parseUrl members) (parseHost parseUrl (.map members)) := by
  refine (decides_stringField "host" (members.lookup "host")).bind (fun host hhost => ?_) ?_
  · cases hparse : parseUrl host with
    | ok url => exact .inl ⟨url, ⟨host, hhost, hparse⟩, rfl⟩
    | error message =>
        refine .inr ⟨?_, _, rfl⟩
        rintro url ⟨other, hother, hurl⟩
        obtain rfl : host = other := by simpa [hhost] using hother
        rw [hparse] at hurl
        cases hurl
  · rintro url ⟨host, hhost, -⟩
    exact ⟨host, hhost⟩

theorem decides_parseCredentials :
    Decides (fun credentials => members.lookup "credentials" = some (.map credentials))
      (parseCredentials (.map members)) := by
  cases hcredentials : members.lookup "credentials" with
  | none =>
      refine .inr ⟨by simp, fieldErrorStr "credentials" "must not be null", ?_⟩
      simp [parseCredentials, Element.find, hcredentials]
  | some element =>
      cases element with
      | map credentials =>
          refine .inl ⟨credentials, rfl, ?_⟩
          simp [parseCredentials, Element.find, hcredentials]
      | _ =>
          refine .inr ⟨by simp, fieldErrorStr "credentials" "must be a map", ?_⟩
          simp [parseCredentials, Element.find, hcredentials]

/-- The key file has to be there; its type is not looked at, since the certificate is a text by then. -/
theorem decides_checkTlsCredentials (url : Url) (credentials : Members) :
    Decides (fun _ => url.scheme = .https →
        credentials.HasString "certificate" ∧ (credentials.lookup "keyfile").isSome = true)
      (checkTlsCredentials url credentials) := by
  by_cases hscheme : url.scheme = .https
  · obtain ⟨certificate, hcertificate, hfield⟩ | ⟨hnone, what, hfield⟩ :=
      decides_stringField "certificate" (credentials.lookup "certificate")
    · cases hkeyfile : credentials.lookup "keyfile" with
      | none =>
          refine .inr ⟨fun _ htls => ?_, fieldErrorStr "keyfile" "must not be null", ?_⟩
          · simpa using (htls hscheme).2
          · simp [checkTlsCredentials, hscheme, hfield, hkeyfile, throwConfigError]
      | some keyfile =>
          refine .inl ⟨(), fun _ => ⟨⟨certificate, hcertificate⟩, rfl⟩, ?_⟩
          rw [hcertificate] at hfield
          simp [checkTlsCredentials, hscheme, hcertificate, hfield, hkeyfile, Element.getType]
    · refine .inr ⟨fun _ htls => ?_, what, ?_⟩
      · obtain ⟨certificate, hcertificate⟩ := (htls hscheme).1
        exact hnone certificate hcertificate
      · simp [checkTlsCredentials, hscheme, hfield, throwConfigError]
  · exact .inl ⟨(), fun htls => absurd htls hscheme, by simp [checkTlsCredentials, hscheme]⟩

/-- The library's own check of the login is the only one that could raise another exception. -/
theorem decides_parseAuth
    (hlogin : ∀ credentials login, members.lookup "credentials" = some (.map credentials) →
      credentials.lookup "login" = some (.string login) → ':' ∉ login.toList) (url : Url) :
    Decides (fun _ => ∃ credentials, members.lookup "credentials" = some (.map credentials) ∧
        PassesChecks url credentials) (parseAuth url (.map members)) := by
  refine decides_parseCredentials.bind (fun credentials hcredentials => ?_) ?_
  · refine (decides_stringField "login" _).bind (fun login hloginField => ?_) ?_
    · refine (decides_stringField "password" _).bind (fun password hpassword => ?_) ?_
      · have hnew : BasicHttpAuth.new login password
            = .ok ⟨login, password, hlogin credentials login hcredentials hloginField⟩ := by
          simp [BasicHttpAuth.new, hlogin credentials login hcredentials hloginField]
        rw [hnew, Outcome.ok_bind]
        refine (decides_checkTlsCredentials url credentials).bind (fun _ htls => ?_) ?_
        · exact .inl ⟨_, ⟨credentials, hcredentials, ⟨login, hloginField⟩, ⟨password, hpassword⟩, htls⟩, rfl⟩
        · rintro _ ⟨other, hother, hchecks⟩
          obtain rfl : credentials = other := by simpa [hcredentials] using hother
          exact ⟨(), hchecks.tls⟩
      · rintro _ ⟨other, hother, hchecks⟩
        obtain rfl : credentials = other := by simpa [hcredentials] using hother
        exact hchecks.password
    · rintro _ ⟨other, hother, hchecks⟩
      obtain rfl : credentials = other := by simpa [hcredentials] using hother
      exact hchecks.login
  · rintro _ ⟨credentials, hcredentials, -⟩
    exact ⟨credentials, hcredentials⟩

end Stages

/-! ### The configuration -/

section Config

variable {parseUrl : String → Except String Url} {members : Members} {url : Url} {value : Int64}

theorem NamesHost.unique {other : Url} (hurl : NamesHost parseUrl members url)
    (hother : NamesHost parseUrl members other) : url = other := by
  obtain ⟨host, hhost, hparse⟩ := hurl
  obtain ⟨otherHost, hotherHost, hotherParse⟩ := hother
  obtain rfl : host = otherHost := by simpa [hhost] using hotherHost
  rw [hparse] at hotherParse
  exact Except.ok.inj hotherParse

/-- Past the host, the interval is read before anything else is looked at. -/
theorem parseConfig_of_host (hhost : parseHost parseUrl (.map members) = .ok url) :
    NXOSConnectionConfigParams.parseConfig parseUrl (some (.map members))
      = parseHeartbeatInterval (.map members) >>= fun intervalTimer =>
          (fun auth => ⟨⟨url⟩, ⟨auth⟩, none, none, intervalTimer⟩) <$> parseAuth url (.map members) := by
  rw [NXOSConnectionConfigParams.parseConfig, hhost, Outcome.ok_bind]
  rfl

theorem parseHeartbeatInterval_of_absent (hinterval : members.lookup "heartbeat-interval" = none) :
    parseHeartbeatInterval (.map members) = .undefined := by
  simp [parseHeartbeatInterval, Element.find, hinterval]

theorem toUInt64_eq_zero_iff : value.toUInt64 = 0 ↔ value = 0 := by
  constructor
  · intro hzero
    have hback : value.toUInt64.toInt64 = (0 : UInt64).toInt64 := by rw [hzero]
    simpa using hback
  · rintro rfl
    rfl

theorem parseHeartbeatInterval_of_integer
    (hinterval : members.lookup "heartbeat-interval" = some (.integer value)) :
    parseHeartbeatInterval (.map members)
      = if value = 0 then throwConfigError
          (fieldErrorStr "heartbeat-interval" "must be a non-zero non-negative integer")
        else .ok value.toUInt64 := by
  have hunsigned : parseHeartbeatInterval (.map members)
      = if value.toUInt64 = 0 then throwConfigError
          (fieldErrorStr "heartbeat-interval" "must be a non-zero non-negative integer")
        else .ok value.toUInt64 := by
    by_cases hzero : value.toUInt64 = 0 <;>
      simp [parseHeartbeatInterval, Element.find, hinterval, Element.getType, Element.intValue,
        throwConfigError, hzero]
  rw [hunsigned]
  simp only [toUInt64_eq_zero_iff]

theorem parseHeartbeatInterval_of_type {element : Element}
    (hinterval : members.lookup "heartbeat-interval" = some element) (htype : element.getType ≠ .integer) :
    parseHeartbeatInterval (.map members)
      = throwConfigError (fieldErrorStr "heartbeat-interval" "must be a integer") := by
  simp [parseHeartbeatInterval, Element.find, hinterval, htype, throwConfigError]

theorem toNat_toUInt64_of_pos (hpos : 0 < value) : (value.toUInt64.toNat : Int) = value.toInt := by
  have hle : 0 ≤ value := Int64.le_of_lt hpos
  rw [Int64.toNat_toUInt64_of_le hle, Int64.cast_toNatClampNeg value hle]

/-- A configuration that is rejected before it can meet a slip. -/
theorem parsesExactly_iff_of_rejected {what : String}
    (hparse : NXOSConnectionConfigParams.parseConfig parseUrl (some (.map members)) = throwConfigError what)
    (hinvalid : ¬ IsValidConfig parseUrl members) (hslip : ¬ ReachesSlip parseUrl members) :
    ParsesExactly parseUrl members ↔ ¬ ReachesSlip parseUrl members :=
  iff_of_true ⟨fun hvalid => absurd hvalid hinvalid, fun _ => ⟨what, hparse⟩⟩ hslip

theorem not_parsesExactly_of_undefined
    (hparse : NXOSConnectionConfigParams.parseConfig parseUrl (some (.map members)) = .undefined) :
    ¬ ParsesExactly parseUrl members := by
  intro hexact
  by_cases hvalid : IsValidConfig parseUrl members
  · obtain ⟨params, interval, hok, -⟩ := hexact.accepted hvalid
    rw [hparse] at hok
    cases hok
  · obtain ⟨what, hthrow⟩ := hexact.rejected hvalid
    rw [hparse] at hthrow
    cases hthrow

theorem not_parsesExactly_of_accepted {params : NXOSConnectionConfigParams}
    (hparse : NXOSConnectionConfigParams.parseConfig parseUrl (some (.map members)) = .ok params)
    (hinvalid : ¬ IsValidConfig parseUrl members) : ¬ ParsesExactly parseUrl members := by
  intro hexact
  obtain ⟨what, hthrow⟩ := hexact.rejected hinvalid
  rw [hparse] at hthrow
  cases hthrow

theorem configuredInterval_of_integer
    (hinterval : members.lookup "heartbeat-interval" = some (.integer value)) :
    configuredInterval members = if 0 < value then some value else none := by
  simp [configuredInterval, hinterval]

theorem IsValidConfig.passesChecks (hvalid : IsValidConfig parseUrl members)
    (hhost : NamesHost parseUrl members url) :
    ∃ credentials, members.lookup "credentials" = some (.map credentials) ∧ PassesChecks url credentials := by
  obtain ⟨other, credentials, hother, -, hcredentials, hlogin, hpassword, htls⟩ := hvalid
  obtain rfl := hhost.unique hother
  refine ⟨credentials, hcredentials, hlogin, hpassword, fun hscheme => ?_⟩
  obtain ⟨hcertificate, keyfile, hkeyfile⟩ := htls hscheme
  exact ⟨hcertificate, by simp [hkeyfile]⟩

theorem ReachesSlip.namesHost (hslip : ReachesSlip parseUrl members) :
    ∃ url, NamesHost parseUrl members url := by
  cases hslip with
  | noInterval hhost => exact ⟨_, hhost⟩
  | negativeInterval hhost => exact ⟨_, hhost⟩
  | keyfileType hhost => exact ⟨_, hhost⟩

theorem exists_interval_of_reachesSlip (hslip : ReachesSlip parseUrl members)
    {element : Element} (hinterval : members.lookup "heartbeat-interval" = some element) :
    ∃ value, element = .integer value ∧ value ≠ 0 ∧ ∃ url credentials, NamesHost parseUrl members url ∧
      members.lookup "credentials" = some (.map credentials) ∧ PassesChecks url credentials ∧
        (value < 0 ∨ url.scheme = .https ∧ ¬ Members.HasString credentials "keyfile") := by
  cases hslip with
  | noInterval _ hnone =>
      rw [hinterval] at hnone
      cases hnone
  | @negativeInterval url value credentials hhost hvalue hnegative hcredentials hchecks =>
      rw [hinterval, Option.some.injEq] at hvalue
      refine ⟨value, hvalue, ?_, url, credentials, hhost, hcredentials, hchecks, .inl hnegative⟩
      rintro rfl
      exact absurd hnegative Int64.lt_irrefl
  | @keyfileType url value credentials hhost hvalue hpositive hcredentials hchecks hscheme hkeyfile =>
      rw [hinterval, Option.some.injEq] at hvalue
      refine ⟨value, hvalue, ?_, url, credentials, hhost, hcredentials, hchecks, .inr ⟨hscheme, hkeyfile⟩⟩
      rintro rfl
      exact absurd hpositive Int64.lt_irrefl

theorem pos_of_not_neg (hne : value ≠ 0) (hnegative : ¬ value < 0) : 0 < value := by
  rw [Int64.lt_iff_toInt_lt, Int64.toInt_zero] at hnegative ⊢
  have hneInt : value.toInt ≠ 0 := fun hzero => hne (Int64.toInt.inj hzero)
  omega

/-- With an integer that is not zero the checks after it decide, and they do not see its sign. -/
theorem parsesExactly_iff_of_checked {credentials : Members} {params : NXOSConnectionConfigParams}
    (hhost : NamesHost parseUrl members url)
    (hinterval : members.lookup "heartbeat-interval" = some (.integer value)) (hne : value ≠ 0)
    (hcredentials : members.lookup "credentials" = some (.map credentials))
    (hchecks : PassesChecks url credentials)
    (hparse : NXOSConnectionConfigParams.parseConfig parseUrl (some (.map members)) = .ok params)
    (hparams : params.heartbeatIntervalSecs = value.toUInt64) :
    ParsesExactly parseUrl members ↔ ¬ ReachesSlip parseUrl members := by
  have hconfigured := configuredInterval_of_integer hinterval
  by_cases hnegative : value < 0
  · have hnotPos : ¬ 0 < value := fun hpos => Int64.lt_irrefl (Int64.lt_trans hnegative hpos)
    rw [if_neg hnotPos] at hconfigured
    refine iff_of_false (not_parsesExactly_of_accepted hparse ?_)
      (not_not.mpr (.negativeInterval hhost hinterval hnegative hcredentials hchecks))
    rintro ⟨-, -, -, hsome, -⟩
    simp [hconfigured] at hsome
  have hpositive := pos_of_not_neg hne hnegative
  rw [if_pos hpositive] at hconfigured
  by_cases hkeyfile : url.scheme = .https ∧ ¬ credentials.HasString "keyfile"
  · refine iff_of_false (not_parsesExactly_of_accepted hparse ?_)
      (not_not.mpr (.keyfileType hhost hinterval hpositive hcredentials hchecks hkeyfile.1 hkeyfile.2))
    rintro ⟨other, others, hother, -, hothers, -, -, htls⟩
    obtain rfl := hhost.unique hother
    obtain rfl : credentials = others := by simpa [hcredentials] using hothers
    exact hkeyfile.2 (htls hkeyfile.1).2
  · have hkeyfileString : url.scheme = .https → credentials.HasString "keyfile" := by
      intro hscheme
      by_contra hnone
      exact hkeyfile ⟨hscheme, hnone⟩
    have hvalid : IsValidConfig parseUrl members :=
      ⟨url, credentials, hhost, by simp [hconfigured], hcredentials, hchecks.login, hchecks.password,
        fun hscheme => ⟨(hchecks.tls hscheme).1, hkeyfileString hscheme⟩⟩
    have hinterval64 : params.heartbeatIntervalSecs.toNat = value.toInt := by
      rw [hparams, toNat_toUInt64_of_pos hpositive]
    refine iff_of_true ⟨fun _ => ⟨params, value, hparse, hconfigured, hinterval64⟩,
      fun hinvalid => absurd hvalid hinvalid⟩ fun hslip => ?_
    obtain ⟨other, hsame, -, otherUrl, others, hother, hothers, -, hwrong⟩ :=
      exists_interval_of_reachesSlip hslip hinterval
    obtain rfl := hhost.unique hother
    obtain rfl : credentials = others := by simpa [hcredentials] using hothers
    obtain rfl := Element.integer.inj hsame
    exact hwrong.elim hnegative hkeyfile

/-- An integer that is not zero leaves the decision to the credentials. -/
theorem parsesExactly_iff_of_integer
    (hlogin : ∀ credentials login, members.lookup "credentials" = some (.map credentials) →
      credentials.lookup "login" = some (.string login) → ':' ∉ login.toList)
    (hhost : NamesHost parseUrl members url)
    (hinterval : members.lookup "heartbeat-interval" = some (.integer value))
    (hparse : NXOSConnectionConfigParams.parseConfig parseUrl (some (.map members))
      = (if value = 0 then throwConfigError
          (fieldErrorStr "heartbeat-interval" "must be a non-zero non-negative integer")
        else .ok value.toUInt64) >>= fun intervalTimer =>
          (fun auth => ⟨⟨url⟩, ⟨auth⟩, none, none, intervalTimer⟩) <$> parseAuth url (.map members)) :
    ParsesExactly parseUrl members ↔ ¬ ReachesSlip parseUrl members := by
  by_cases hzero : value = 0
  · rw [if_pos hzero] at hparse
    refine parsesExactly_iff_of_rejected hparse ?_ ?_
    · rintro ⟨-, -, -, hsome, -⟩
      simp [configuredInterval_of_integer hinterval, hzero] at hsome
    · intro hslip
      obtain ⟨other, hsame, hne, -⟩ := exists_interval_of_reachesSlip hslip hinterval
      exact hne (Element.integer.inj hsame ▸ hzero)
  rw [if_neg hzero, Outcome.ok_bind] at hparse
  obtain ⟨auth, ⟨credentials, hcredentials, hchecks⟩, hauth⟩ | ⟨hfails, what, hauth⟩ :=
    decides_parseAuth hlogin url
  · rw [hauth] at hparse
    exact parsesExactly_iff_of_checked hhost hinterval hzero hcredentials hchecks hparse rfl
  · rw [hauth] at hparse
    -- the checks do not depend on the secret, so that any one shows that they fail
    have hnone := hfails ⟨"", "", by simp⟩
    refine parsesExactly_iff_of_rejected hparse ?_ ?_
    · intro hvalid
      exact hnone (hvalid.passesChecks hhost)
    · intro hslip
      obtain ⟨-, -, -, other, credentials, hother, hcredentials, hchecks, -⟩ :=
        exists_interval_of_reachesSlip hslip hinterval
      obtain rfl := hhost.unique hother
      exact hnone ⟨credentials, hcredentials, hchecks⟩

/-- **Configurations.** Valid configurations are accepted, and all others rejected with `ConfigError`, exactly
when none of the three slips is reached. -/
theorem parsesExactly_iff (parseUrl : String → Except String Url) (members : Members)
    (hlogin : ∀ credentials login, members.lookup "credentials" = some (.map credentials) →
      credentials.lookup "login" = some (.string login) → ':' ∉ login.toList) :
    ParsesExactly parseUrl members ↔ ¬ ReachesSlip parseUrl members := by
  obtain ⟨url, hhost, hparseHost⟩ | ⟨hnoHost, what, hparseHost⟩ := decides_parseHost parseUrl members
  · have hparse := parseConfig_of_host hparseHost
    cases hinterval : members.lookup "heartbeat-interval" with
    | none =>
        rw [parseHeartbeatInterval_of_absent hinterval, Outcome.undefined_bind] at hparse
        exact iff_of_false (not_parsesExactly_of_undefined hparse)
          (not_not.mpr (.noInterval hhost hinterval))
    | some element =>
        cases element with
        | integer value =>
            rw [parseHeartbeatInterval_of_integer hinterval] at hparse
            exact parsesExactly_iff_of_integer hlogin hhost hinterval hparse
        | _ =>
            rw [parseHeartbeatInterval_of_type hinterval (by simp [Element.getType])] at hparse
            refine parsesExactly_iff_of_rejected hparse ?_ ?_
            · rintro ⟨-, -, -, hsome, -⟩
              simp [configuredInterval, hinterval] at hsome
            · intro hslip
              obtain ⟨value, hvalue, -⟩ := exists_interval_of_reachesSlip hslip hinterval
              cases hvalue
  · have hthrow : NXOSConnectionConfigParams.parseConfig parseUrl (some (.map members))
        = throwConfigError what := by
      simp [NXOSConnectionConfigParams.parseConfig, hparseHost, throwConfigError]
    refine parsesExactly_iff_of_rejected hthrow ?_ ?_
    · rintro ⟨url, -, hhost, -⟩
      exact hnoHost url hhost
    · intro hslip
      obtain ⟨url, hhost⟩ := hslip.namesHost
      exact hnoHost url hhost

/-! A switch with two URLs, and the parameters for it. -/

def parseSwitchUrl (text : String) : Except String Url :=
  if text = "http://switch" then
    .ok ⟨.http, "switch", 0⟩
  else if text = "https://switch" then
    .ok ⟨.https, "switch", 0⟩
  else
    .error ("url " ++ text ++ " lacks http or https scheme")

def switchLogin : Members := [("login", .string "admin"), ("password", .string "secret")]

def switchParams (host : String) (credentials rest : Members) : Members :=
  ("host", .string host) :: ("credentials", .map credentials) :: rest

theorem parsesExactly_iff_tenSeconds :
    ParsesExactly parseSwitchUrl
      (switchParams "http://switch" switchLogin [("heartbeat-interval", .integer 10)]) := by
  refine (parsesExactly_iff _ _ ?_).mpr ?_
  · intro credentials login hcredentials hlogin
    obtain rfl : switchLogin = credentials := Element.map.inj (Option.some.inj hcredentials)
    obtain rfl : "admin" = login := Element.string.inj (Option.some.inj hlogin)
    decide
  · rintro (⟨-, hnone⟩ | ⟨-, hvalue, hnegative, -, -⟩ | ⟨⟨host, hhost, hurl⟩, -, -, -, -, hscheme, -⟩)
    · cases hnone
    · obtain rfl : (10 : Int64) = _ := Element.integer.inj (Option.some.inj hvalue)
      exact absurd hnegative (by decide)
    · obtain rfl : "http://switch" = host := Element.string.inj (Option.some.inj hhost)
      obtain rfl := Except.ok.inj hurl
      cases hscheme

/-- Without an interval, with a negative one, and with a number for the key file of an https host. -/
theorem not_parsesExactly_slips :
    ¬ ParsesExactly parseSwitchUrl (switchParams "http://switch" switchLogin []) ∧
      ¬ ParsesExactly parseSwitchUrl
        (switchParams "http://switch" switchLogin [("heartbeat-interval", .integer (-1))]) ∧
      ¬ ParsesExactly parseSwitchUrl (switchParams "https://switch"
        (switchLogin ++ [("certificate", .string "switch.pem"), ("keyfile", .integer 0)])
        [("heartbeat-interval", .integer 10)]) := by
  refine ⟨not_parsesExactly_of_undefined rfl, not_parsesExactly_of_accepted rfl ?_,
    not_parsesExactly_of_accepted rfl ?_⟩
  · rintro ⟨-, -, -, hsome, -⟩
    cases hsome
  · rintro ⟨url, credentials, ⟨host, hhost, hurl⟩, -, hcredentials, -, -, htls⟩
    obtain rfl : "https://switch" = host := Element.string.inj (Option.some.inj hhost)
    obtain rfl := Except.ok.inj hurl
    obtain ⟨-, keyfile, hkeyfile⟩ := htls rfl
    obtain rfl : _ = credentials := Element.map.inj (Option.some.inj hcredentials)
    cases hkeyfile

end Config

end NxosExporter
