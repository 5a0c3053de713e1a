import SessionGate.Gateway.Settings
import SessionGate.Proofs.Credential
import SessionGate.Proofs.Text.Number

/-! Settings are read unless a demand on the variables is unmet, and the first of these is told. -/

namespace SessionGate

open Url (DomainLookup)

namespace Environment

variable {environment : Environment} {name : String} {largest : Nat}

/-- A variable has a value that is not blank. -/
def IsSet (environment : Environment) (name : String) : Prop :=
  ∃ value, environment.get? name = some value

/-- A variable spells a number that is not too large, if it is set. -/
def Tells (environment : Environment) (name : String) (largest : Nat) : Prop :=
  ∀ value, environment.get? name = some value → ∃ number ≤ largest, Text.Spells value number

/-- A number is what a variable spells, or the default one if the variable is not set. -/
def Gives (environment : Environment) (name : String) (largest default number : Nat) : Prop :=
  environment.get? name = none ∧ number = default ∨
    ∃ value, environment.get? name = some value ∧ number ≤ largest ∧ Text.Spells value number

/-- A variable is set to as many hexadecimal digits as a key has. -/
def HoldsKey (environment : Environment) (name : String) : Prop :=
  ∃ value, environment.get? name = some value ∧ value.toList.length = 64 ∧
    ∀ c ∈ value.toList, c ∈ Text.hexDigits

/-- A variable spells the number zero. -/
def IsZero (environment : Environment) (name : String) : Prop :=
  ∃ value, environment.get? name = some value ∧ Text.Spells value 0

/-- What was found has no blank ends. -/
theorem trim_get? {value : String} (found : environment.get? name = some value) :
    Text.trim value = value := by
  -- The value is a raw one whose blank ends were cut off.
  obtain ⟨raw, -, rfl⟩ := Option.map_eq_some_iff.mp (Option.filter_eq_some_iff.mp found).1
  exact Text.trim_trim raw

/-- Looking variables up among values that were looked up already changes nothing. -/
theorem get?_get? : get? environment.get? = environment.get? := by
  funext name
  -- What was looked up has no blank ends and is not empty, so it is kept as it is.
  cases found : environment.get? name with
  | none =>
    rw [get?, found]
    rfl
  | some value =>
    have kept := (Option.filter_eq_some_iff.mp found).2
    rw [get?, found, Option.map_some, trim_get? found, Option.filter_some, if_pos kept]

/-- A variable that must be set is read as its value. -/
theorem require_eq_ok {value : String} :
    environment.require name = .ok value ↔ environment.get? name = some value := by
  -- The variable is set or it is missing, and nothing else is looked at.
  unfold require
  cases environment.get? name with
  | none => simp
  | some found => simp

/-- A number is read just if it is given. -/
theorem numberOr_eq_ok {default number : Nat} :
    environment.numberOr name largest default = .ok number ↔
      environment.Gives name largest default number := by
  -- A variable that is not set gives the default, and one that is set is read as a number.
  unfold numberOr number? Gives
  split
  next unset =>
    simp [unset, Except.map, eq_comm]
  next value set =>
    have reads := @Text.readNumber_eq_ok largest number value
    cases read : Text.readNumber largest value with
    | ok told =>
      rw [read] at reads
      simpa [set, Except.map, and_comm] using reads
    | error fault =>
      rw [read] at reads
      simpa [set, Except.map, and_comm] using reads

end Environment

/-- What is asked of the variables, and what may be told where it is unmet. -/
structure Demand where
  Met : Environment → Prop
  Told : SettingsError → Prop

namespace Demand

/-- A variable is told as missing unless something holds. -/
def present (name : String) (met : Environment → Prop) : Demand :=
  ⟨met, fun fault => fault = .missing name⟩

/-- The value of a variable is told as one that cannot be used unless something holds. -/
def usable (name : String) (met : Environment → Prop) : Demand :=
  ⟨met, fun fault => ∃ reason, fault = .invalid name reason⟩

/-- A demand is the first one among others that is not met. -/
def FirstUnmet (environment : Environment) (demands : List Demand) (demand : Demand) : Prop :=
  ∃ early late, demands = early ++ demand :: late ∧ (∀ other ∈ early, other.Met environment) ∧
    ¬ demand.Met environment

end Demand

section Obeying

variable {α β : Type}

/-- What is read goes by demands: there is a value if all of them are met, and otherwise the first
one that is not is told. -/
inductive Obeys (environment : Environment) (demands : List Demand) :
    Except SettingsError α → Prop where
  | met {value : α} (all : ∀ demand ∈ demands, demand.Met environment) :
      Obeys environment demands (.ok value)
  | unmet {fault : SettingsError} {demand : Demand}
      (first : demand.FirstUnmet environment demands) (told : demand.Told fault) :
      Obeys environment demands (.error fault)

namespace Obeys

variable {environment : Environment} {demands more : List Demand} {demand : Demand}
  {result : Except SettingsError α}

/-- Where nothing is asked there is a value. -/
theorem ok {value : α} : Obeys environment [] (.ok value : Except SettingsError α) :=
  -- There is no demand that could be unmet.
  .met nofun

/-- A demand that is unmet is told, whatever is asked later. -/
theorem stop {fault : SettingsError} (unmet : ¬ demand.Met environment)
    (told : demand.Told fault) :
    Obeys environment (demand :: more) (.error fault : Except SettingsError α) :=
  -- It is the first of the demands.
  .unmet ⟨[], more, rfl, nofun, unmet⟩ told

/-- What is asked later matters only when all that was asked before is met. -/
theorem later (met : ∀ demand ∈ demands, demand.Met environment)
    (obeys : Obeys environment more result) : Obeys environment (demands ++ more) result := by
  -- The first unmet demand is one of the later ones, since all earlier ones are met.
  cases obeys with
  | met all => exact .met (List.forall_mem_append.mpr ⟨met, all⟩)
  | unmet first told =>
    obtain ⟨early, late, rfl, others, unmet⟩ := first
    exact .unmet ⟨demands ++ early, late, by rw [List.append_assoc],
      List.forall_mem_append.mpr ⟨met, others⟩, unmet⟩ told

/-- A demand that is met leaves what is asked later. -/
theorem skip (met : demand.Met environment) (obeys : Obeys environment more result) :
    Obeys environment (demand :: more) result :=
  -- The demand that is met is all that was asked before.
  obeys.later (List.forall_mem_singleton.mpr met)

/-- A single demand is met just if there is a value, and any fault is told as the demand says. -/
theorem single (same : demand.Met environment ↔ ∃ value, result = .ok value)
    (told : ∀ fault, result = .error fault → demand.Told fault) :
    Obeys environment [demand] result := by
  -- The demand is met, or it is the only one and unmet.
  cases result with
  | ok value => exact skip (same.mpr ⟨value, rfl⟩) ok
  | error fault => exact stop (fun met => nomatch same.mp met) (told fault rfl)

/-- What is told does not change with what is made of a value. -/
theorem map {f : α → β} (obeys : Obeys environment demands result) :
    Obeys environment demands (result.map f) := by
  -- A change of values leaves the demands and what is told of them.
  cases obeys with
  | met all => exact .met all
  | unmet first told => exact .unmet first told

/-- One reading follows the other. -/
theorem bind {next : α → Except SettingsError β} (first : Obeys environment demands result)
    (second : ∀ value, result = .ok value → Obeys environment more (next value)) :
    Obeys environment (demands ++ more) (result >>= next) := by
  -- The second reading takes place only when the demands of the first are met.
  cases first with
  | met all => exact (second _ rfl).later all
  | unmet first told =>
    obtain ⟨early, late, rfl, met, unmet⟩ := first
    exact .unmet ⟨early, late ++ more, by rw [List.append_assoc, List.cons_append], met, unmet⟩ told

/-- There is a value just if all demands are met. -/
theorem exists_ok_iff (obeys : Obeys environment demands result) :
    (∃ value, result = .ok value) ↔ ∀ demand ∈ demands, demand.Met environment := by
  -- A value and a fault exclude each other.
  cases obeys with
  | met all => exact ⟨fun _ => all, fun _ => ⟨_, rfl⟩⟩
  | unmet first told =>
    obtain ⟨early, late, rfl, -, unmet⟩ := first
    refine ⟨fun ⟨_, read⟩ => (nomatch read), fun met => absurd (met _ ?_) unmet⟩
    exact List.mem_append_right early List.mem_cons_self

end Obeys

end Obeying

namespace Environment

variable {environment : Environment} {name : String} {largest : Nat} {met : Environment → Prop}

/-- A variable that must be set is told as missing if it is not. -/
theorem obeys_require (same : met environment ↔ environment.IsSet name) :
    Obeys environment [.present name met] (environment.require name) := by
  -- The variable is set just if it is found, and a missing one is told by its name.
  refine .single (same.trans ?_) fun fault failed => ?_
  · simp only [require_eq_ok]
    rfl
  · unfold require at failed
    cases found : environment.get? name with
    | none =>
      rw [found] at failed
      exact (Except.error.inj failed).symm
    | some value =>
      rw [found] at failed
      cases failed

/-- A value that spells no number that is small enough is told. -/
theorem obeys_number? (same : met environment ↔ environment.Tells name largest) :
    Obeys environment [.usable name met] (environment.number? name largest) := by
  -- A variable that is not set is read as no number, which meets the demand.
  unfold number?
  cases found : environment.get? name with
  | none =>
    refine .single (same.trans ?_) nofun
    exact ⟨fun _ => ⟨none, rfl⟩, fun _ value set => nomatch found.symm.trans set⟩
  | some value =>
    -- A value that is set is to be a number that fits, which is what the reading of it decides.
    have tells : environment.Tells name largest ↔
        ∃ number, Text.readNumber largest value = .ok number := by
      simp only [Tells, found, Option.some.injEq, forall_eq', Text.readNumber_eq_ok, and_comm]
    refine .single (same.trans (tells.trans ?_)) fun fault failed => ?_
    · cases read : Text.readNumber largest value with
      | ok number => simp [read]
      | error fault => simp [read]
    · dsimp only at failed
      cases read : Text.readNumber largest value with
      | ok number =>
        rw [read] at failed
        cases failed
      | error reason =>
        rw [read] at failed
        exact ⟨_, (Except.error.inj failed).symm⟩

/-- So it is where there is a default. -/
theorem obeys_numberOr {default : Nat} (same : met environment ↔ environment.Tells name largest) :
    Obeys environment [.usable name met] (environment.numberOr name largest default) :=
  -- The default only takes the place of a missing number.
  (obeys_number? same).map

end Environment

namespace GatewaySettings

/-- The parts from which the URL of the database is assembled. -/
def Assembles [DomainLookup] (environment : Environment) : Prop :=
  ∃ host port user name url, environment.get? "POSTGRES_HOST" = some host ∧
    environment.Gives "POSTGRES_PORT" twoBytes 5432 port ∧
    environment.get? "POSTGRES_USER" = some user ∧
    environment.get? "POSTGRES_DB" = some name ∧
    databaseUrl host port user ((environment.get? "POSTGRES_PASS").getD "") name = .ok url

/-- Parts of the URL of the database are asked for only if it is not told as a whole. -/
def inParts (met : Environment → Prop) (environment : Environment) : Prop :=
  environment.IsSet "DATABASE_URL" ∨ met environment

/-- What is asked so that there is a URL of the database. -/
def urlDemands [DomainLookup] : List Demand := [
  .present "DATABASE_URL or POSTGRES_HOST" (inParts (·.IsSet "POSTGRES_HOST")),
  .usable "POSTGRES_PORT" (inParts (·.Tells "POSTGRES_PORT" twoBytes)),
  .present "POSTGRES_USER" (inParts (·.IsSet "POSTGRES_USER")),
  .present "POSTGRES_DB" (inParts (·.IsSet "POSTGRES_DB")),
  .usable "POSTGRES_HOST" (inParts Assembles)]

/-- A variable is asked for a number. -/
def numberDemand (name : String) (largest : Nat) : Demand :=
  .usable name (·.Tells name largest)

/-- All that is asked of the variables, in the order in which they are read. -/
def demands [DomainLookup] : List Demand := urlDemands ++ [
  numberDemand "DB_MAX_CONNECTIONS" fourBytes,
  numberDemand "DB_ACQUIRE_TIMEOUT_SECONDS" eightBytes,
  numberDemand "RABBITMQ_PORT" twoBytes,
  .present "CREDENTIAL_SECRET" (·.IsSet "CREDENTIAL_SECRET"),
  .usable "CREDENTIAL_SECRET" (·.HoldsKey "CREDENTIAL_SECRET"),
  numberDemand "PUBLISH_MAX_RETRIES" fourBytes,
  .usable "PUBLISH_MAX_RETRIES" fun environment => ¬ environment.IsZero "PUBLISH_MAX_RETRIES",
  numberDemand "MAX_BODY_BYTES" eightBytes,
  numberDemand "REQUEST_TIMEOUT_SECONDS" eightBytes,
  numberDemand "RABBITMQ_PUBLIC_PORT" twoBytes,
  numberDemand "PROVISION_TIMEOUT_SECONDS" eightBytes]

variable {environment : Environment}

/-- Whatever keeps the URL of the database from being assembled is told of its host. -/
theorem invalid_of_databaseUrl [DomainLookup] {host user password name : String}
    {port : Nat} {fault : SettingsError}
    (failed : databaseUrl host port user password name = .error fault) :
    ∃ reason, fault = .invalid "POSTGRES_HOST" reason := by
  -- Each step that can fail is told of the host: parsing it, and putting in the name, the password
  -- and the path.
  unfold databaseUrl at failed
  dsimp only at failed
  split at failed
  next base read =>
    rw [pure_bind] at failed
    split at failed
    next named given =>
      split at failed
      next trusted secret =>
        split at failed
        next => exact ⟨_, (Except.error.inj failed).symm⟩
        next => cases failed
      next => exact ⟨_, (Except.error.inj failed).symm⟩
    next => exact ⟨_, (Except.error.inj failed).symm⟩
  next => exact ⟨_, (Except.error.inj failed).symm⟩

/-- The URL of the database is told as a whole, or in parts that are all looked at. -/
theorem obeys_readDatabaseUrl [DomainLookup] :
    Obeys environment urlDemands (readDatabaseUrl environment) := by
  unfold readDatabaseUrl
  cases whole : environment.get? "DATABASE_URL" with
  | some url =>
    -- A URL that is set is not read any further here, and none of the parts is looked at.
    have set : environment.IsSet "DATABASE_URL" := ⟨url, whole⟩
    refine .met ?_
    simp [urlDemands, Demand.present, Demand.usable, inParts, set]
  | none =>
    -- Without the whole URL every demand on the parts is made as such.
    have parts : ∀ met, inParts met environment ↔ met environment := fun met =>
      or_iff_right fun ⟨url, set⟩ => nomatch whole.symm.trans set
    cases told : environment.get? "POSTGRES_HOST" with
    | none =>
      have unset : ¬ environment.IsSet "POSTGRES_HOST" :=
        fun ⟨host, set⟩ => nomatch told.symm.trans set
      exact .stop (fun met => unset ((parts (·.IsSet "POSTGRES_HOST")).mp met)) rfl
    | some host =>
      -- The parts are read in their order, and each is bound before the next is asked for.
      refine .skip ((parts (·.IsSet "POSTGRES_HOST")).mpr ⟨host, told⟩) ?_
      refine .bind (environment.obeys_numberOr (parts _)) fun port number => ?_
      refine .bind (environment.obeys_require (parts _)) fun user named => ?_
      refine .bind (environment.obeys_require (parts _)) fun name last => ?_
      refine .single ?_ fun fault => invalid_of_databaseUrl
      -- All parts are at hand, so what is left to be met is that they make up a URL.
      rw [Environment.numberOr_eq_ok] at number
      rw [Environment.require_eq_ok] at named last
      refine (parts Assembles).trans ⟨?_, fun ⟨url, made⟩ => ?_⟩
      · -- The parts are determined by the variables, so they are the ones that were read.
        rintro ⟨_, other, _, _, url, set, given, set', set'', made⟩
        cases told.symm.trans set
        cases named.symm.trans set'
        cases last.symm.trans set''
        have same := Environment.numberOr_eq_ok.mpr given
        rw [Environment.numberOr_eq_ok.mpr number] at same
        cases same
        exact ⟨url, made⟩
      · exact ⟨host, port, user, name, url, told, number, named, last, made⟩

/-- The key is asked for its digits once it is set. -/
theorem obeys_readKey : Obeys environment
    [.present "CREDENTIAL_SECRET" (·.IsSet "CREDENTIAL_SECRET"),
      .usable "CREDENTIAL_SECRET" (·.HoldsKey "CREDENTIAL_SECRET")] (readKey environment) := by
  -- The variable is required first, and its digits are read then.
  unfold readKey
  refine .bind (environment.obeys_require Iff.rfl) fun value set => ?_
  rw [Environment.require_eq_ok] at set
  have holds : environment.HoldsKey "CREDENTIAL_SECRET" ↔
      ∃ key, CredentialKey.ofHex value = .ok key := by
    simp only [Environment.HoldsKey, CredentialKey.exists_ofHex_iff, Environment.trim_get? set, set,
      Option.some.injEq, exists_eq_left']
  cases read : CredentialKey.ofHex value with
  | ok key => exact .skip (holds.mpr ⟨key, read⟩) .ok
  | error fault =>
    have unmet : ¬ environment.HoldsKey "CREDENTIAL_SECRET" := fun met => by
      obtain ⟨key, found⟩ := holds.mp met
      cases read.symm.trans found
    exact .stop unmet ⟨_, rfl⟩

/-- The number of attempts is looked at once more when it is known. -/
theorem obeys_readPublishAttempts : Obeys environment
    [numberDemand "PUBLISH_MAX_RETRIES" fourBytes,
      .usable "PUBLISH_MAX_RETRIES" fun environment => ¬ environment.IsZero "PUBLISH_MAX_RETRIES"]
    (readPublishAttempts environment) := by
  -- The number is read first, and compared with zero then.
  unfold readPublishAttempts
  refine .bind (environment.obeys_numberOr Iff.rfl) fun attempts read => ?_
  have zero : environment.IsZero "PUBLISH_MAX_RETRIES" ↔ attempts = 0 := by
    constructor
    · -- A zero that is written down is the number that is read.
      rintro ⟨value, set, spelt⟩
      refine Except.ok.inj (read.symm.trans (Environment.numberOr_eq_ok.mpr ?_))
      exact .inr ⟨value, set, Nat.zero_le fourBytes, spelt⟩
    · -- The default is not zero, so the number that is read was written down.
      rintro rfl
      rcases Environment.numberOr_eq_ok.mp read with ⟨-, default⟩ | ⟨value, set, -, spelt⟩
      · cases default
      · exact ⟨value, set, spelt⟩
  by_cases none : attempts = 0
  · rw [if_pos none]
    exact .stop (not_not_intro (zero.mpr none)) ⟨_, rfl⟩
  · rw [if_neg none]
    exact .skip (mt zero.mp none) .ok

/-- All settings go by what is asked of the variables. -/
theorem obeys_read [DomainLookup] : Obeys environment demands (read environment) := by
  -- The variables are read one after another, and each reading obeys its own demands.
  unfold read readDatabase readBroker
  simp only [bind_assoc, pure_bind]
  refine .bind obeys_readDatabaseUrl fun _ _ => ?_
  refine .bind (environment.obeys_numberOr Iff.rfl) fun _ _ => ?_
  refine .bind (environment.obeys_number? Iff.rfl) fun _ _ => ?_
  refine .bind (environment.obeys_numberOr Iff.rfl) fun _ _ => ?_
  refine .bind obeys_readKey fun _ _ => ?_
  refine .bind obeys_readPublishAttempts fun _ _ => ?_
  refine .bind (environment.obeys_numberOr Iff.rfl) fun _ _ => ?_
  refine .bind (environment.obeys_numberOr Iff.rfl) fun _ _ => ?_
  refine .bind (environment.obeys_numberOr Iff.rfl) fun _ _ => ?_
  refine .bind (environment.obeys_numberOr Iff.rfl) fun _ _ => ?_
  exact .ok

/-- Only what is left of the variables without their blanks is read. -/
theorem read_congr [DomainLookup] {other : Environment}
    (same : environment.get? = other.get?) :
    read environment = read other := by
  -- Every reading goes through the look-up of variables.
  simp only [read, readDatabase, readDatabaseUrl, readIdentity, readBroker, readKey,
    readPublishAttempts, Environment.numberOr, Environment.number?, Environment.require, same]

/-- Settings are read just if the database is named as a whole or in parts that can be assembled,
each number that is set has its width, messages are tried at least once, and the key has its
digits. Otherwise the variable is told that is the first one in the order of reading with which
something is wrong. Nothing matters but what is left of the values without their blanks. -/
theorem settings_are_read_unless_unmet [DomainLookup] (environment : Environment) :
    ((∃ settings, read environment = .ok settings) ↔
      (environment.IsSet "DATABASE_URL" ∨ Assembles environment) ∧
      (∀ name ∈ ["DB_MAX_CONNECTIONS", "PUBLISH_MAX_RETRIES"],
        environment.Tells name fourBytes) ∧
      (∀ name ∈ ["RABBITMQ_PORT", "RABBITMQ_PUBLIC_PORT"], environment.Tells name twoBytes) ∧
      (∀ name ∈ ["DB_ACQUIRE_TIMEOUT_SECONDS", "REQUEST_TIMEOUT_SECONDS",
        "PROVISION_TIMEOUT_SECONDS", "MAX_BODY_BYTES"], environment.Tells name eightBytes) ∧
      ¬ environment.IsZero "PUBLISH_MAX_RETRIES" ∧
      environment.HoldsKey "CREDENTIAL_SECRET") ∧
    (∀ fault, read environment = .error fault →
      ∃ demand : Demand, demand.FirstUnmet environment demands ∧ demand.Told fault) ∧
    read environment.get? = read environment ∧
    ∀ other : Environment, environment.get? = other.get? → read environment = read other := by
  -- All three parts follow from how the reading obeys its demands, and from what it looks up.
  have obeys := @obeys_read environment _
  refine ⟨obeys.exists_ok_iff.trans ?_, fun fault failed => ?_,
    read_congr Environment.get?_get?, fun _ => read_congr⟩
  · -- What the parts are asked for one by one is contained in that they can be assembled.
    have assembled : Assembles environment → environment.IsSet "POSTGRES_HOST" ∧
        environment.Tells "POSTGRES_PORT" twoBytes ∧ environment.IsSet "POSTGRES_USER" ∧
        environment.IsSet "POSTGRES_DB" := by
      rintro ⟨host, port, user, name, -, told, number, named, last, -⟩
      refine ⟨⟨host, told⟩, fun value set => ?_, ⟨user, named⟩, ⟨name, last⟩⟩
      rcases number with ⟨unset, -⟩ | ⟨_, found, small, spelt⟩
      · cases unset.symm.trans set
      · cases found.symm.trans set
        exact ⟨port, small, spelt⟩
    -- A key that is held is a variable that is set.
    have set : environment.HoldsKey "CREDENTIAL_SECRET" →
        environment.IsSet "CREDENTIAL_SECRET" := fun ⟨value, found, _⟩ => ⟨value, found⟩
    simp only [demands, urlDemands, numberDemand, Demand.present, Demand.usable, inParts,
      List.cons_append, List.nil_append, List.forall_mem_cons, List.not_mem_nil, false_imp_iff,
      implies_true, and_true]
    -- The demands stand in their order on one side and as one conjunction on the other.
    constructor
    · rintro ⟨-, -, -, -, named, connections, acquire, port, -, key, attempts, zero, body, request,
        publicPort, provision⟩
      exact ⟨named, ⟨connections, attempts⟩, ⟨port, publicPort⟩,
        ⟨acquire, request, provision, body⟩, zero, key⟩
    · rintro ⟨named, ⟨connections, attempts⟩, ⟨port, publicPort⟩,
        ⟨acquire, request, provision, body⟩, zero, key⟩
      exact ⟨named.imp_right fun parts => (assembled parts).1,
        named.imp_right fun parts => (assembled parts).2.1,
        named.imp_right fun parts => (assembled parts).2.2.1,
        named.imp_right fun parts => (assembled parts).2.2.2,
        named, connections, acquire, port, set key, key, attempts, zero, body, request, publicPort,
        provision⟩
  · -- A reading that fails has met its first unmet demand.
    rw [failed] at obeys
    cases obeys with
    | unmet first told => exact ⟨_, first, told⟩

/-- Variables with blanks around their values, and one with nothing but blanks. -/
def spacedVariables : Environment
  | "DATABASE_URL" => some " postgres://db/sessions\n"
  | "CREDENTIAL_SECRET" =>
    some "\t000102030405060708090a0b0c0d0e0f101112131415161718191A1B1C1D1E1F"
  | "PUBLISH_MAX_RETRIES" => some "  "
  | _ => none

/-- The same variables without any blanks. -/
def plainVariables : Environment
  | "DATABASE_URL" => some "postgres://db/sessions"
  | "CREDENTIAL_SECRET" =>
    some "000102030405060708090a0b0c0d0e0f101112131415161718191A1B1C1D1E1F"
  | _ => none

/-- Variables with two faults, the first of which in the order of reading is a number of zero. -/
def faultyVariables : Environment
  | "PROVISION_TIMEOUT_SECONDS" => some "soon"
  | "PUBLISH_MAX_RETRIES" => some "+00"
  | name => plainVariables name

/-- Settings are read alike with and without blanks, and of two faults the first one is told. -/
theorem first_of_two_faults_is_told :
    (spacedVariables.get? = plainVariables.get? ∧
      @read .plainOnly spacedVariables = @read .plainOnly plainVariables ∧
      ∃ settings, @read .plainOnly spacedVariables = .ok settings) ∧
    @read .plainOnly faultyVariables =
      .error (.invalid "PUBLISH_MAX_RETRIES" "must be at least 1") ∧
    ∃ demand : Demand, demand.FirstUnmet faultyVariables (@demands .plainOnly) ∧
      demand.Told (.invalid "PUBLISH_MAX_RETRIES" "must be at least 1") := by
  -- Both environments have the same values once their blank ends are cut off.
  have same : spacedVariables.get? = plainVariables.get? := by
    funext name
    unfold Environment.get? spacedVariables plainVariables
    -- Each of the three names is compared by itself; any other is set in neither environment.
    split
    next => decide +kernel
    next => decide +kernel
    next => decide +kernel
    next database secret _ =>
      split
      next => exact absurd rfl database
      next => exact absurd rfl secret
      next => rfl
  have some : (@read .plainOnly plainVariables).isOk = true := by decide +kernel
  have failed : @read .plainOnly faultyVariables =
      .error (.invalid "PUBLISH_MAX_RETRIES" "must be at least 1") := by
    decide +kernel
  have alike := (@settings_are_read_unless_unmet .plainOnly spacedVariables).2.2.2 _ same
  -- Both are read alike, as the reading sees only what is looked up.
  refine ⟨⟨same, alike, ?_⟩, failed,
    (@settings_are_read_unless_unmet .plainOnly faultyVariables).2.1 _ failed⟩
  rw [alike]
  cases found : @read .plainOnly plainVariables with
  | ok settings => exact ⟨settings, rfl⟩
  | error fault =>
    rw [found] at some
    cases some

end GatewaySettings

end SessionGate
