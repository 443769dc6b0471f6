import Predictor.Configuration
import Predictor.Proofs.FirstError
import Predictor.Proofs.Text.Ascii
import Predictor.Proofs.Text.Numeral
import Predictor.Proofs.Text.Trimming

/-!
What a run is told by its environment. A configuration is loaded exactly when the two numbers are
absent or in range and the two addresses are present (`ReadFrom`); otherwise the first offender in a
fixed order is reported (`FirstOffender`). Nothing but the texts of the eight variables that are
present has a say in it.
-/

namespace Predictor

/-! ## Variables -/

namespace Environment

/-- A variable is set to the bytes of a text that is not all blank. -/
def Holds (environment : Environment) (name text : String) : Prop :=
  environment name = some (bytesOf text) ∧ ∃ c ∈ text.toList, Text.isBlank c = false

/-- A variable is unset, or set to no text or to blanks. -/
def Lacks (environment : Environment) (name : String) : Prop :=
  ∀ text, ¬ environment.Holds name text

/-- One variable set anew, or unset. -/
def put (environment : Environment) (name : String) (value : Option Bytes) : Environment :=
  fun other => if other = name then value else environment other

variable {environment : Environment} {name text : String}

theorem present?_eq_some_iff :
    environment.present? name = some text ↔ environment.Holds name text := by
  have inked : (!Text.isBlankText text) = true ↔ ∃ c ∈ text.toList, Text.isBlank c = false := by
    simp [Text.isBlankText]
  rw [present?, Option.filter_eq_some_iff, inked, Holds, Option.bind_eq_some_iff]
  simp only [textOf?_eq_some_iff, exists_eq_right]

theorem present?_eq_none_iff : environment.present? name = none ↔ environment.Lacks name := by
  simp only [Lacks, ← present?_eq_some_iff, Option.eq_none_iff_forall_ne_some, ne_eq]

theorem holds_put_ne {other : String} {value : Option Bytes} (ne : other ≠ name) :
    (environment.put name value).Holds other text ↔ environment.Holds other text := by
  rw [Holds, put, if_neg ne, Holds]

end Environment

namespace Configuration

/-! ## Numbers -/

/-- The number that a text stands for, blanks around it apart. -/
def IsNumber (text : String) (n : Nat) : Prop :=
  ∃ core, Text.Trims text.toList core ∧ Text.Spells core n ∧ n ≤ Text.maxWord64

/-- Why a text stands for no number. -/
def Misread (text : String) (fault : Text.NumeralFault) : Prop :=
  ∃ core, Text.Trims text.toList core ∧ Text.Misspells Text.maxWord64 core fault

/-- The number that a variable sets; an absent one sets the default. -/
inductive Sets (environment : Environment) (name : String) (default : UInt64) : UInt64 → Prop
  | byDefault (absent : environment.Lacks name) : Sets environment name default default
  | byText {text : String} {n : UInt64} (present : environment.Holds name text)
      (number : IsNumber text n.toNat) : Sets environment name default n

variable {environment : Environment} {name text : String} {default n : UInt64}

/-- A number that is read fits a word. -/
theorem IsNumber.toNat_ofNat {m : Nat} (h : IsNumber text m) : (UInt64.ofNat m).toNat = m := by
  obtain ⟨core, -, -, le⟩ := h
  have small : Text.maxWord64 < UInt64.size := by decide
  exact UInt64.toNat_ofNat_of_lt' (Nat.lt_of_le_of_lt le small)

theorem natural_trimmed_eq_ok_iff {m : Nat} :
    Text.natural Text.maxWord64 (Text.trimChars text.toList) = .ok m ↔ IsNumber text m := by
  rw [Text.natural_eq_ok_iff]
  constructor
  · rintro ⟨spells, le⟩
    exact ⟨_, Text.trims_trimChars _, spells, le⟩
  · rintro ⟨core, trims, spells, le⟩
    exact ⟨trims.eq ▸ spells, le⟩

theorem natural_trimmed_eq_error_iff {fault : Text.NumeralFault} :
    Text.natural Text.maxWord64 (Text.trimChars text.toList) = .error fault ↔
      Misread text fault := by
  rw [Text.natural_eq_error_iff]
  constructor
  · exact fun misspells => ⟨_, Text.trims_trimChars _, misspells⟩
  · rintro ⟨core, trims, misspells⟩
    exact trims.eq ▸ misspells

theorem number_eq_ok_iff :
    number environment name default = .ok n ↔ Sets environment name default n := by
  constructor
  · intro h
    unfold number at h
    split at h
    · rename_i absent
      obtain rfl := Except.ok.inj h
      exact .byDefault (Environment.present?_eq_none_iff.1 absent)
    · rename_i text present
      split at h
      · rename_i m read
        obtain rfl := Except.ok.inj h
        have number := natural_trimmed_eq_ok_iff.1 read
        refine .byText (Environment.present?_eq_some_iff.1 present) ?_
        rwa [number.toNat_ofNat]
      · simp at h
  · rintro (absent | ⟨present, number⟩)
    · rw [Configuration.number, Environment.present?_eq_none_iff.2 absent]
    · rw [Configuration.number, Environment.present?_eq_some_iff.2 present]
      simp only [natural_trimmed_eq_ok_iff.2 number, UInt64.ofNat_toNat]

theorem number_eq_error_iff {problem : Problem} :
    number environment name default = .error problem ↔
      ∃ text fault, environment.Holds name text ∧ Misread text fault ∧
        problem = .malformed name text fault := by
  constructor
  · intro h
    unfold number at h
    split at h
    · simp at h
    · rename_i text present
      split at h
      · simp at h
      · rename_i fault read
        obtain rfl := Except.error.inj h
        exact ⟨text, fault, Environment.present?_eq_some_iff.1 present,
          natural_trimmed_eq_error_iff.1 read, rfl⟩
  · rintro ⟨text, fault, present, misread, rfl⟩
    rw [number, Environment.present?_eq_some_iff.2 present]
    simp only [natural_trimmed_eq_error_iff.2 misread]

/-! ## Addresses -/

theorem required_eq_ok_iff :
    required environment name = .ok text ↔ environment.Holds name text := by
  rw [← Environment.present?_eq_some_iff, required]
  split <;> simp_all

theorem required_eq_error_iff {problem : Problem} :
    required environment name = .error problem ↔
      environment.Lacks name ∧ problem = .missing name := by
  rw [← Environment.present?_eq_none_iff, required]
  split
  · rename_i text present
    simp [present]
  · rename_i absent
    simp [absent, eq_comm]

/-! ## Configurations -/

/-- The variables that are read. -/
def names : List String :=
  ["MAX_IN_FLIGHT", "CLASSIFIER_TIMEOUT_SECS", "DATABASE_URL", "CLASSIFIER_URL",
    "CLASSIFIER_API_KEY", "LABELS_PATH", "OTEL_ENDPOINT", "LOG_LEVEL"]

/-- How many predictions may be in flight. -/
structure Capacity (environment : Environment) (n : UInt64) : Prop where
  sets : Sets environment "MAX_IN_FLIGHT" defaultMaxInFlight n
  positive : 1 ≤ n.toNat

/-- How long a classification call may take. -/
def Timeout (environment : Environment) (n : UInt64) : Prop :=
  Sets environment "CLASSIFIER_TIMEOUT_SECS" defaultTimeout n

/-- A configuration is what an environment says. -/
structure ReadFrom (environment : Environment) (c : Configuration) : Prop where
  maxInFlight : Capacity environment c.maxInFlight
  classifierTimeout : Timeout environment c.classifierTimeout
  databaseUrl : environment.Holds "DATABASE_URL" c.databaseUrl
  classifierUrl : environment.Holds "CLASSIFIER_URL" c.classifierUrl
  classifierApiKey : ∀ text,
    c.classifierApiKey = some text ↔ environment.Holds "CLASSIFIER_API_KEY" text
  labelsPath : ∀ text, c.labelsPath = some text ↔ environment.Holds "LABELS_PATH" text
  telemetryEndpoint : ∀ text,
    c.telemetryEndpoint = some text ↔ environment.Holds "OTEL_ENDPOINT" text
  logLevel : environment.Holds "LOG_LEVEL" c.logLevel ∨
    environment.Lacks "LOG_LEVEL" ∧ c.logLevel = defaultLogLevel

/-- The first thing that is wrong with an environment: all that is read before it is in order. -/
inductive FirstOffender (environment : Environment) : Problem → Prop
  | capacity {text : String} {fault : Text.NumeralFault}
      (present : environment.Holds "MAX_IN_FLIGHT" text) (misread : Misread text fault) :
      FirstOffender environment (.malformed "MAX_IN_FLIGHT" text fault)
  | noCapacity (zero : Sets environment "MAX_IN_FLIGHT" defaultMaxInFlight 0) :
      FirstOffender environment .noCapacity
  | timeout {n : UInt64} {text : String} {fault : Text.NumeralFault}
      (capacity : Capacity environment n)
      (present : environment.Holds "CLASSIFIER_TIMEOUT_SECS" text) (misread : Misread text fault) :
      FirstOffender environment (.malformed "CLASSIFIER_TIMEOUT_SECS" text fault)
  | databaseUrl {n t : UInt64} (capacity : Capacity environment n)
      (timeout : Timeout environment t) (absent : environment.Lacks "DATABASE_URL") :
      FirstOffender environment (.missing "DATABASE_URL")
  | classifierUrl {n t : UInt64} {url : String} (capacity : Capacity environment n)
      (timeout : Timeout environment t) (database : environment.Holds "DATABASE_URL" url)
      (absent : environment.Lacks "CLASSIFIER_URL") :
      FirstOffender environment (.missing "CLASSIFIER_URL")

/-- The variable that a problem is about. -/
def Problem.subject : Problem → String
  | .malformed name _ _ => name
  | .noCapacity => "MAX_IN_FLIGHT"
  | .missing name => name

theorem Problem.message_names (problem : Problem) :
    ∃ before after, problem.message = before ++ problem.subject ++ after := by
  cases problem with
  | malformed name text fault =>
    refine ⟨"invalid ", "=" ++ Text.quoted text ++ ": " ++ fault.message, ?_⟩
    simp only [subject, ← String.append_assoc]
    rfl
  | noCapacity => exact ⟨"", " must be at least 1", by decide⟩
  | missing name => exact ⟨"required environment variable ", " is not set", rfl⟩

theorem Capacity.ne_zero (h : Capacity environment n) : n ≠ 0 := by
  rintro rfl
  simpa using h.positive

theorem Capacity.of_ne_zero (sets : number environment "MAX_IN_FLIGHT" defaultMaxInFlight = .ok n)
    (ne : n ≠ 0) : Capacity environment n :=
  ⟨number_eq_ok_iff.1 sets, Nat.one_le_iff_ne_zero.2 fun zero => ne (UInt64.toNat_inj.1 zero)⟩

/-- A configuration with the texts that an environment holds beside the two addresses. -/
def withTexts (environment : Environment) (n t : UInt64) (database classifier : String) :
    Configuration where
  databaseUrl := database
  classifierUrl := classifier
  classifierApiKey := environment.present? "CLASSIFIER_API_KEY"
  classifierTimeout := t
  maxInFlight := n
  labelsPath := environment.present? "LABELS_PATH"
  telemetryEndpoint := environment.present? "OTEL_ENDPOINT"
  logLevel := (environment.present? "LOG_LEVEL").getD defaultLogLevel

variable {t : UInt64} {database classifier : String} {c : Configuration}

theorem readFrom_withTexts (capacity : Capacity environment n) (timeout : Timeout environment t)
    (databaseUrl : environment.Holds "DATABASE_URL" database)
    (classifierUrl : environment.Holds "CLASSIFIER_URL" classifier) :
    ReadFrom environment (withTexts environment n t database classifier) := by
  refine ⟨capacity, timeout, databaseUrl, classifierUrl,
    fun _ => Environment.present?_eq_some_iff, fun _ => Environment.present?_eq_some_iff,
    fun _ => Environment.present?_eq_some_iff, ?_⟩
  unfold withTexts
  cases level : environment.present? "LOG_LEVEL" with
  | none => exact .inr ⟨Environment.present?_eq_none_iff.1 level, rfl⟩
  | some text => exact .inl (Environment.present?_eq_some_iff.1 level)

/-- An environment says everything that stands in a configuration. -/
theorem ReadFrom.eq (h : ReadFrom environment c) : c =
    withTexts environment c.maxInFlight c.classifierTimeout c.databaseUrl c.classifierUrl := by
  have optional {name : String} {field : Option String}
      (same : ∀ text, field = some text ↔ environment.Holds name text) :
      environment.present? name = field :=
    Option.ext fun text => Environment.present?_eq_some_iff.trans (same text).symm
  have logLevel : (environment.present? "LOG_LEVEL").getD defaultLogLevel = c.logLevel := by
    rcases h.logLevel with present | ⟨absent, same⟩
    · rw [Environment.present?_eq_some_iff.2 present, Option.getD_some]
    · rw [Environment.present?_eq_none_iff.2 absent, Option.getD_none, same]
  rw [withTexts, optional h.classifierApiKey, optional h.labelsPath, optional h.telemetryEndpoint,
    logLevel]

/-- When the numbers are in order the two addresses are left. -/
theorem ofEnvironment_eq (capacity : Capacity environment n) (timeout : Timeout environment t) :
    ofEnvironment environment = (do
      let database ← required environment "DATABASE_URL"
      let classifier ← required environment "CLASSIFIER_URL"
      .ok (withTexts environment n t database classifier)) := by
  rw [ofEnvironment, number_eq_ok_iff.2 capacity.sets, ok_bind, if_neg capacity.ne_zero,
    number_eq_ok_iff.2 timeout, ok_bind]
  rfl

/-- Reading succeeds exactly when all that is needed is there, and then says what the environment
says. -/
theorem ofEnvironment_eq_ok_iff :
    ofEnvironment environment = .ok c ↔ ReadFrom environment c := by
  constructor
  · intro h
    obtain ⟨n, capacity, h⟩ := bind_eq_ok_iff.1 h
    split at h
    · cases h
    · rename_i ne
      obtain ⟨t, timeout, h⟩ := bind_eq_ok_iff.1 h
      obtain ⟨database, databaseUrl, h⟩ := bind_eq_ok_iff.1 h
      obtain ⟨classifier, classifierUrl, h⟩ := bind_eq_ok_iff.1 h
      obtain rfl := Except.ok.inj h
      exact readFrom_withTexts (.of_ne_zero capacity ne) (number_eq_ok_iff.1 timeout)
        (required_eq_ok_iff.1 databaseUrl) (required_eq_ok_iff.1 classifierUrl)
  · intro h
    rw [ofEnvironment_eq h.maxInFlight h.classifierTimeout, required_eq_ok_iff.2 h.databaseUrl,
      ok_bind, required_eq_ok_iff.2 h.classifierUrl, ok_bind, ← h.eq]

/-- Reading fails with the first offender. -/
theorem ofEnvironment_eq_error_iff {problem : Problem} :
    ofEnvironment environment = .error problem ↔ FirstOffender environment problem := by
  constructor
  · intro h
    obtain failed | ⟨n, capacity, h⟩ := bind_eq_error_iff.1 h
    · obtain ⟨text, fault, present, misread, rfl⟩ := number_eq_error_iff.1 failed
      exact .capacity present misread
    split at h
    · rename_i zero
      obtain rfl := Except.error.inj h
      exact .noCapacity (zero ▸ number_eq_ok_iff.1 capacity)
    rename_i ne
    have capacity := Capacity.of_ne_zero capacity ne
    obtain failed | ⟨t, timeout, h⟩ := bind_eq_error_iff.1 h
    · obtain ⟨text, fault, present, misread, rfl⟩ := number_eq_error_iff.1 failed
      exact .timeout capacity present misread
    have timeout := number_eq_ok_iff.1 timeout
    obtain failed | ⟨database, databaseUrl, h⟩ := bind_eq_error_iff.1 h
    · obtain ⟨absent, rfl⟩ := required_eq_error_iff.1 failed
      exact .databaseUrl capacity timeout absent
    have databaseUrl := required_eq_ok_iff.1 databaseUrl
    obtain failed | ⟨classifier, -, h⟩ := bind_eq_error_iff.1 h
    · obtain ⟨absent, rfl⟩ := required_eq_error_iff.1 failed
      exact .classifierUrl capacity timeout databaseUrl absent
    · cases h
  · intro h
    cases h with
    | capacity present misread =>
      rw [ofEnvironment, number_eq_error_iff.2 ⟨_, _, present, misread, rfl⟩, error_bind]
    | noCapacity zero => rw [ofEnvironment, number_eq_ok_iff.2 zero, ok_bind, if_pos rfl]
    | timeout capacity present misread =>
      rw [ofEnvironment, number_eq_ok_iff.2 capacity.sets, ok_bind, if_neg capacity.ne_zero,
        number_eq_error_iff.2 ⟨_, _, present, misread, rfl⟩, error_bind]
    | databaseUrl capacity timeout absent =>
      rw [ofEnvironment_eq capacity timeout, required_eq_error_iff.2 ⟨absent, rfl⟩, error_bind]
    | classifierUrl capacity timeout database absent =>
      rw [ofEnvironment_eq capacity timeout, required_eq_ok_iff.2 database, ok_bind,
        required_eq_error_iff.2 ⟨absent, rfl⟩, error_bind]

/-! ## Loading -/

theorem load_eq_ok_iff : load environment = .ok c ↔ ReadFrom environment c := by
  rw [← ofEnvironment_eq_ok_iff, load]
  cases ofEnvironment environment <;> simp [Except.mapError]

theorem load_eq_error_iff {error : Error} :
    load environment = .error error ↔
      ∃ problem, FirstOffender environment problem ∧ error = .configuration problem.message := by
  simp only [← ofEnvironment_eq_error_iff, load]
  cases ofEnvironment environment <;> simp [Except.mapError, eq_comm]

theorem exists_sets_iff {p : Nat → Prop} (hdefault : p default.toNat) :
    (∃ n, Sets environment name default n ∧ p n.toNat) ↔
      environment.Lacks name ∨ ∃ text n, environment.Holds name text ∧ IsNumber text n ∧ p n := by
  constructor
  · rintro ⟨n, absent | ⟨present, number⟩, hp⟩
    · exact .inl absent
    · exact .inr ⟨_, _, present, number, hp⟩
  · rintro (absent | ⟨text, n, present, number, hp⟩)
    · exact ⟨_, .byDefault absent, hdefault⟩
    · have same := number.toNat_ofNat
      exact ⟨_, .byText present (same.symm ▸ number), same.symm ▸ hp⟩

theorem exists_capacity_iff : (∃ n, Capacity environment n) ↔
    environment.Lacks "MAX_IN_FLIGHT" ∨
      ∃ text n, environment.Holds "MAX_IN_FLIGHT" text ∧ IsNumber text n ∧ 1 ≤ n := by
  rw [← exists_sets_iff (p := fun n => 1 ≤ n) (by decide : 1 ≤ defaultMaxInFlight.toNat)]
  exact exists_congr fun n => ⟨fun h => ⟨h.sets, h.positive⟩, fun h => ⟨h.1, h.2⟩⟩

theorem exists_timeout_iff : (∃ n, Timeout environment n) ↔
    environment.Lacks "CLASSIFIER_TIMEOUT_SECS" ∨
      ∃ text n, environment.Holds "CLASSIFIER_TIMEOUT_SECS" text ∧ IsNumber text n := by
  simpa only [Timeout, and_true] using
    exists_sets_iff (p := fun _ => True) (trivial : (fun _ => True) defaultTimeout.toNat)

/-- The configuration depends on nothing but the texts that the variables hold. -/
theorem load_congr {other : Environment}
    (same : ∀ name ∈ names, ∀ text, environment.Holds name text ↔ other.Holds name text) :
    load environment = load other := by
  have present : ∀ name ∈ names, environment.present? name = other.present? name :=
    fun name mem => Option.ext fun text => by
      rw [Environment.present?_eq_some_iff, Environment.present?_eq_some_iff, same name mem]
  simp only [names, List.forall_mem_cons] at present
  obtain ⟨capacity, timeout, database, classifier, apiKey, labels, endpoint, level, -⟩ := present
  simp only [load, ofEnvironment, number, required, capacity, timeout, database, classifier, apiKey,
    labels, endpoint, level]

/-- Loading a configuration. It succeeds exactly when the capacity and the timeout are absent or
numbers of 64 bits, the capacity at least 1, and both addresses are present; the configuration is
then what the environment says, with the texts as they are. Otherwise the first offender is named.
Variables that are not read have no say, and neither has one that is set to no text or to blanks. -/
theorem load_settings (environment : Environment) :
    (∀ c, load environment = .ok c ↔ ReadFrom environment c) ∧
    ((∃ c, load environment = .ok c) ↔
      (environment.Lacks "MAX_IN_FLIGHT" ∨
        ∃ text n, environment.Holds "MAX_IN_FLIGHT" text ∧ IsNumber text n ∧ 1 ≤ n) ∧
      (environment.Lacks "CLASSIFIER_TIMEOUT_SECS" ∨
        ∃ text n, environment.Holds "CLASSIFIER_TIMEOUT_SECS" text ∧ IsNumber text n) ∧
      (∃ text, environment.Holds "DATABASE_URL" text) ∧
      ∃ text, environment.Holds "CLASSIFIER_URL" text) ∧
    (∀ error, load environment = .error error ↔
      ∃ problem, FirstOffender environment problem ∧ error = .configuration problem.message ∧
        ∃ before after, problem.message = before ++ problem.subject ++ after) ∧
    (∀ other : Environment,
      (∀ name ∈ names, ∀ text, environment.Holds name text ↔ other.Holds name text) →
        load environment = load other) ∧
    ∀ name value,
      name ∉ names ∨ environment.Lacks name ∧ (environment.put name value).Lacks name →
        load (environment.put name value) = load environment := by
  refine ⟨fun c => load_eq_ok_iff, ?_, fun error => ?_, fun other => load_congr, ?_⟩
  · rw [← exists_capacity_iff, ← exists_timeout_iff]
    simp only [load_eq_ok_iff]
    constructor
    · rintro ⟨c, read⟩
      exact ⟨⟨_, read.maxInFlight⟩, ⟨_, read.classifierTimeout⟩, ⟨_, read.databaseUrl⟩,
        ⟨_, read.classifierUrl⟩⟩
    · rintro ⟨⟨n, capacity⟩, ⟨t, timeout⟩, ⟨database, databaseUrl⟩, ⟨_, classifierUrl⟩⟩
      exact ⟨_, readFrom_withTexts capacity timeout databaseUrl classifierUrl⟩
  · rw [load_eq_error_iff]
    simp only [Problem.message_names, and_true]
  · rintro name value hsilent
    refine load_congr fun read mem text => ?_
    by_cases same : read = name
    · subst same
      rcases hsilent with unread | ⟨before, after⟩
      · exact absurd mem unread
      · exact iff_of_false (after text) (before text)
    · exact Environment.holds_put_ne same

/-- A padded capacity and a padded address; the timeout is not UTF-8 and the level is blank. -/
def padded : Environment := Environment.ofList
  [("MAX_IN_FLIGHT", bytesOf " +12\u3000"), ("CLASSIFIER_TIMEOUT_SECS", [0x31, 0xFF]),
    ("DATABASE_URL", bytesOf " db "), ("CLASSIFIER_URL", bytesOf "http://c"),
    ("LOG_LEVEL", bytesOf "\t ")]

theorem load_settings_padded :
    (∃ c, ReadFrom padded c ∧ c.maxInFlight = 12 ∧ c.classifierTimeout = 30 ∧
      c.databaseUrl = " db " ∧ c.logLevel = "info") ∧
    load (padded.put "HOME" none) = load padded := by
  obtain ⟨loaded, -, -, -, silent⟩ := load_settings padded
  refine ⟨⟨⟨" db ", "http://c", none, 30, 12, none, none, "info"⟩, (loaded _).1 ?_, rfl, rfl, rfl,
    rfl⟩, silent "HOME" none (.inl (by decide))⟩
  decide +kernel

end Configuration

end Predictor
