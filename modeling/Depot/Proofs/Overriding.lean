import Depot.Config.Resolved

/-!
# What a command line overrides

Nine options have a variable of the environment that stands in for them.  A
variable whose option is written on the command line is *overridden*, and what
it holds should not matter.

**What holds.**  Two runs on one command line, in surroundings that differ in
overridden variables only, have the same texts, the same numbers and the same
credentials (`settled_congr`): a text and the path of the credentials file
count only where no option is written.

**What does not.**  The four number variables are read before the options are
looked at, and the first that holds no number ends the run
(`resolve_eq_settled`).  So the runs agree exactly when they meet the same fault
in a number first, and an overridden variable can be the one that holds it.
-/

namespace Depot.Config

set_option autoImplicit false

open Depot.Auth
open Depot.Text

/-! ## The options that a command line writes -/

section Written

/-- An option is found by its name. -/
@[simp] theorem Setting.ofFlag?_flag (setting : Setting) :
    Setting.ofFlag? setting.flag = some setting := by
  cases setting <;> decide

theorem Setting.flag_of_ofFlag? {name : String} {setting : Setting}
    (found : Setting.ofFlag? name = some setting) : setting.flag = name := by
  have holds := List.find?_some (p := fun s : Setting => s.flag == name) found
  exact eq_of_beq holds

/-- The options have different names. -/
@[simp] theorem Setting.flag_inj {first second : Setting} :
    first.flag = second.flag ↔ first = second := by
  constructor
  · intro same
    have found := Setting.ofFlag?_flag first
    rw [same, Setting.ofFlag?_flag] at found
    exact (Option.some.inj found).symm
  · rintro rfl
    rfl

/-- Whether a command line has the name of an option, with a value or before one. -/
def Written (words : List String) (setting : Setting) : Prop :=
  ∃ word ∈ words, ∃ value?, Flags.Word.ofText word = .long setting.flag value?

theorem written_cons {word : String} {words : List String} {setting : Setting} :
    Written (word :: words) setting ↔
      (∃ value?, Flags.Word.ofText word = .long setting.flag value?) ∨ Written words setting := by
  simp only [Written, List.mem_cons, exists_eq_or_imp]

@[simp] theorem not_written_nil {setting : Setting} : ¬ Written [] setting := by
  rintro ⟨word, member, -⟩
  cases member

namespace Flags

variable {f g : Flags} {setting : Setting} {value : String} {pending? : Option Pending}

/-- Setting an option sets that option and no other. -/
theorem has_of_set (done : f.set setting value = .ok g) (other : Setting) :
    g.has other = true ↔ f.has other = true ∨ setting = other := by
  unfold set at done
  split at done
  · cases done
  · cases setting with
    | host | storageDir | databaseUrl | region =>
        obtain rfl := Except.ok.inj done
        cases other <;> simp [has]
    | port =>
        cases read : readPort value with
        | error fault => rw [read] at done; cases done
        | ok n =>
            rw [read] at done
            obtain rfl := Except.ok.inj done
            cases other <;> simp [has]
    | maxClockSkew | maxBodyBytes | maxBufferedBytes =>
        cases read : readNumber value with
        | error fault => rw [read] at done; cases done
        | ok n =>
            rw [read] at done
            obtain rfl := Except.ok.inj done
            cases other <;> simp [has]
    | credentialsFile =>
        dsimp only at done
        split at done
        · cases done
        · obtain rfl := Except.ok.inj done
          cases other <;> simp [has]

/-- Settling sets the option that waits. -/
theorem has_of_settle (done : f.settle pending? = .ok g) (other : Setting) :
    g.has other = true ↔ f.has other = true ∨ pending?.any (·.setting = other) = true := by
  match pending? with
  | none =>
      obtain rfl := Except.ok.inj done
      simp
  | some ⟨setting, none⟩ => cases done
  | some ⟨setting, some value⟩ => simpa using has_of_set done other

theorem has_of_setMigrate (done : f.setMigrate = .ok g) (other : Setting) :
    g.has other = f.has other := by
  unfold setMigrate at done
  split at done
  · cases done
  · obtain rfl := Except.ok.inj done
    cases other <;> rfl

/-- What a word does that is neither the last nor refused: it moves the options that are set and
the one that waits. -/
inductive Takes (f : Flags) (pending? : Option Pending) (word : String) :
    Flags → Option Pending → Prop
  /-- An option with its value. -/
  | assigned {setting : Setting} {value : String} {settled changed : Flags}
      (form : Word.ofText word = .long setting.flag (some value))
      (before : f.settle pending? = .ok settled) (done : settled.set setting value = .ok changed) :
      Takes f pending? word changed none
  /-- An option whose value comes in the next word. -/
  | named {setting : Setting} {settled : Flags}
      (form : Word.ofText word = .long setting.flag none)
      (before : f.settle pending? = .ok settled) :
      Takes f pending? word settled (some ⟨setting, none⟩)
  /-- The value of the option that waits. -/
  | valued {setting : Setting} {value : String} (form : Word.ofText word = .plain value)
      (waits : pending? = some ⟨setting, none⟩) :
      Takes f pending? word f (some ⟨setting, some value⟩)
  /-- The flag that asks for a migration. -/
  | migrate {settled changed : Flags} (form : Word.ofText word = .long "migrate" none)
      (before : f.settle pending? = .ok settled) (done : settled.setMigrate = .ok changed) :
      Takes f pending? word changed none

theorem bind_error_ne_ok (settled : Except UsageFault Flags) (fault : UsageFault) :
    (settled.bind fun _ => (.error fault : Except UsageFault Flags)) ≠ .ok g := by
  cases settled <;> nofun

/-- A word that is not refused ends the line, or is taken and the rest is read. -/
theorem takes_of_readWords {word : String} {rest : List String}
    (done : readWords f pending? (word :: rest) = .ok g) :
    (Word.ofText word = .divider ∧ rest = [] ∧ f.settle pending? = .ok g) ∨
      ∃ f' pending?', Takes f pending? word f' pending?' ∧
        readWords f' pending?' rest = .ok g := by
  cases form : Word.ofText word with
  | divider =>
      simp only [readWords, form] at done
      split at done
      · next last => exact .inl ⟨rfl, List.isEmpty_iff.mp last, done⟩
      · cases done
  | short letter =>
      simp only [readWords, form] at done
      split at done
      · exact absurd done (bind_error_ne_ok _ _)
      · split at done
        · exact absurd done (bind_error_ne_ok _ _)
        · cases done
  | plain value =>
      simp only [readWords, form] at done
      split at done
      · exact .inr ⟨_, _, .valued form rfl, done⟩
      · cases done
  | long name value? =>
      right
      cases value? with
      | some value =>
          simp only [readWords, form] at done
          split at done
          · cases done
          split at done
          · cases done
          next setting known =>
          split at done
          · cases done
          next settled before =>
          split at done
          · cases done
          next changed assigned =>
          obtain rfl := Setting.flag_of_ofFlag? known
          exact ⟨_, _, .assigned form before assigned, done⟩
      | none =>
          simp only [readWords, form] at done
          split at done
          · exact absurd done (bind_error_ne_ok _ _)
          split at done
          · exact absurd done (bind_error_ne_ok _ _)
          split at done
          · next migrates =>
              split at done
              · cases done
              next changed moved =>
              cases before : f.settle pending? with
              | error fault => rw [before] at moved; cases moved
              | ok settled =>
                  rw [before] at moved
                  rw [migrates] at form
                  exact ⟨_, _, .migrate form before moved, done⟩
          · split at done
            · cases done
            next setting known =>
            split at done
            · cases done
            next settled before =>
            obtain rfl := Setting.flag_of_ofFlag? known
            exact ⟨_, _, .named form before, done⟩

/-- A word that is taken adds the option it writes to those that are set or wait. -/
theorem Takes.has {word : String} {f' : Flags} {pending?' : Option Pending}
    (taken : Takes f pending? word f' pending?') (other : Setting) :
    (f'.has other = true ∨ pending?'.any (·.setting = other) = true) ↔
      (f.has other = true ∨ pending?.any (·.setting = other) = true) ∨
        ∃ value?, Word.ofText word = .long other.flag value? := by
  cases taken with
  | assigned form before done =>
      rw [has_of_set done, has_of_settle before]
      simp [form]
  | named form before =>
      rw [has_of_settle before]
      simp [form]
  | valued form waits =>
      subst waits
      simp [form]
  | migrate form before done =>
      have writesNone : ¬ ∃ value?, Word.ofText word = .long other.flag value? := by
        rintro ⟨value?, writes⟩
        rw [form] at writes
        cases other <;> simp [Setting.flag] at writes
      rw [has_of_setMigrate done, has_of_settle before]
      simp [writesNone]

/-- Reading words sets the options that were set, the one that waits, and those that the words
write. -/
theorem has_of_readWords (words : List String) (done : readWords f pending? words = .ok g)
    (other : Setting) :
    g.has other = true ↔
      (f.has other = true ∨ pending?.any (·.setting = other) = true) ∨ Written words other := by
  induction words generalizing f pending? with
  | nil => simpa [readWords] using has_of_settle done other
  | cons word rest ih =>
      rw [written_cons]
      rcases takes_of_readWords done with ⟨divider, rfl, last⟩ | ⟨f', pending?', taken, read⟩
      · simpa [divider] using has_of_settle last other
      · rw [ih read, taken.has other, or_assoc]

/-- A command line that is read sets the options it writes and no other. -/
theorem has_of_ofWords {words : List String} (parsed : ofWords words = .ok g) (other : Setting) :
    g.has other = true ↔ Written words other := by
  have read := has_of_readWords words parsed other
  have fresh : ({} : Flags).has other = false := by cases other <;> rfl
  simpa [fresh] using read

end Flags

/-- A reader of command lines, of which only this is known: it sets the options that a line writes
and no other. -/
structure FlagReader where
  read : List String → Except UsageFault Flags
  has_of_read : ∀ {words : List String} {flags : Flags}, read words = .ok flags →
    ∀ setting, flags.has setting = true ↔ Written words setting

def Flags.reader : FlagReader := ⟨ofWords, has_of_ofWords⟩

end Written

/-! ## Reading the surroundings -/

/-- The variable that stands in for an option. -/
def Setting.variable : Setting → String
  | .host => "CIAOS_HOST"
  | .port => "CIAOS_PORT"
  | .storageDir => "CIAOS_STORAGE_DIR"
  | .databaseUrl => "CIAOS_DATABASE_URL"
  | .region => "CIAOS_REGION"
  | .maxClockSkew => "CIAOS_MAX_CLOCK_SKEW_SECS"
  | .credentialsFile => "CIAOS_CREDENTIALS_FILE"
  | .maxBodyBytes => "CIAOS_MAX_BODY_BYTES"
  | .maxBufferedBytes => "CIAOS_MAX_BUFFERED_BODY_BYTES"

/-- The largest number that an option takes, when it takes a number. -/
def Setting.limit? : Setting → Option Nat
  | .port => some max16
  | .maxClockSkew | .maxBodyBytes | .maxBufferedBytes => some max64
  | .host | .storageDir | .databaseUrl | .region | .credentialsFile => none

/-- The options that take a number, in the order in which their variables are read. -/
def Setting.numbers : List Setting := [.port, .maxClockSkew, .maxBodyBytes, .maxBufferedBytes]

namespace Surroundings

variable (s : Surroundings)

/-- The fault in the variable of an option, when it has a text that is no number in the limits. -/
def faultIn? (setting : Setting) : Option ConfigFault :=
  match s.lookup setting.variable, setting.limit? with
  | some value, some limit =>
      match natural limit value.toList with
      | .ok _ => none
      | .error fault => some (.numeral setting.variable value fault)
  | _, _ => none

/-- The first fault in a number variable. -/
def numberFault? : Option ConfigFault := Setting.numbers.findSome? s.faultIn?

/-- The number in the variable of an option, or another where it has none. -/
def numberOr (setting : Setting) (limit fallback : Nat) : Nat :=
  ((s.number setting.variable limit fallback).toOption).getD fallback

/-- The text of an option, else that of its variable, else another. -/
def textOr (setting : Setting) (flag? : Option String) (fallback : String) : String :=
  (flag?.or (s.lookup setting.variable)).getD fallback

/-- A number variable is read, or its fault ends the reading. -/
theorem number_eq (setting : Setting) {limit : Nat} (numeric : setting.limit? = some limit)
    (fallback : Nat) :
    s.number setting.variable limit fallback =
      match s.faultIn? setting with
      | some fault => .error fault
      | none => .ok (s.numberOr setting limit fallback) := by
  unfold numberOr faultIn? number
  rw [numeric]
  cases s.lookup setting.variable with
  | none => rfl
  | some value =>
      cases read : natural limit value.toList with
      | error fault =>
          simp only [read]
          rfl
      | ok n =>
          simp only [read]
          rfl

end Surroundings

/-- The configuration that flags and surroundings make once the number variables have been read. -/
def settled (flags : Flags) (s : Surroundings) : Except ConfigFault Resolved := do
  let credentials ← s.credentials (s.credentialsPath? flags)
  return {
    host := s.textOr .host flags.host? "0.0.0.0"
    port := flags.port?.getD (s.numberOr .port max16 9710)
    storageDir := s.textOr .storageDir flags.storageDir? "./data/objects"
    databaseUrl := s.textOr .databaseUrl flags.databaseUrl? "sqlite://./data/meta/ciaos.db"
    region := s.textOr .region flags.region? "us-east-1"
    maxClockSkew := flags.maxClockSkew?.getD (s.numberOr .maxClockSkew max64 900)
    maxBodyBytes := flags.maxBodyBytes?.getD (s.numberOr .maxBodyBytes max64 5368709120)
    maxBufferedBytes :=
      flags.maxBufferedBytes?.getD (s.numberOr .maxBufferedBytes max64 67108864)
    credentials }

/-- The first fault in a number variable ends a run, whatever the flags say. -/
theorem resolve_eq_settled (flags : Flags) (s : Surroundings) :
    resolve flags s =
      match s.numberFault? with
      | some fault => .error fault
      | none => settled flags s := by
  have port := s.number_eq .port rfl 9710
  have skew := s.number_eq .maxClockSkew rfl 900
  have body := s.number_eq .maxBodyBytes rfl 5368709120
  have buffered := s.number_eq .maxBufferedBytes rfl 67108864
  simp only [Setting.variable] at port skew body buffered
  simp only [resolve, port, skew, body, buffered, Surroundings.numberFault?, Setting.numbers,
    List.findSome?_cons, List.findSome?_nil]
  cases s.faultIn? .port with
  | some fault => rfl
  | none =>
      cases s.faultIn? .maxClockSkew with
      | some fault => rfl
      | none =>
          cases s.faultIn? .maxBodyBytes with
          | some fault => rfl
          | none =>
              cases s.faultIn? .maxBufferedBytes with
              | some fault => rfl
              | none => rfl

/-! ## Two runs -/

theorem Surroundings.fileCredentials_ne_numeral (s : Surroundings) (path name value : String)
    (reason : NumeralFault) : s.fileCredentials path ≠ .error (.numeral name value reason) := by
  intro refused
  unfold fileCredentials at refused
  split at refused
  · cases refused
  · split at refused <;> cases refused

/-- The credentials are refused for other reasons than a number. -/
theorem Surroundings.credentials_ne_numeral (s : Surroundings) (path? : Option String)
    (name value : String) (reason : NumeralFault) :
    s.credentials path? ≠ .error (.numeral name value reason) := by
  intro refused
  unfold credentials at refused
  cases path? with
  | none =>
      simp only [pure_bind] at refused
      split at refused <;> cases refused
  | some path =>
      cases listed : s.fileCredentials path with
      | error fault =>
          simp only [listed] at refused
          obtain rfl := Except.error.inj refused
          exact s.fileCredentials_ne_numeral path name value reason listed
      | ok credentials =>
          simp only [listed, bind, Except.bind] at refused
          split at refused <;> cases refused

/-- A run with a fault in a number variable does not end as one without. -/
theorem settled_ne_fault (flags : Flags) (s s' : Surroundings) {fault : ConfigFault}
    (found : s'.numberFault? = some fault) : settled flags s ≠ .error fault := by
  obtain ⟨setting, -, faulty⟩ := List.exists_of_findSome?_eq_some found
  obtain ⟨value, reason, rfl⟩ :
      ∃ value reason, fault = .numeral setting.variable value reason := by
    unfold Surroundings.faultIn? at faulty
    split at faulty
    · split at faulty
      · cases faulty
      · exact ⟨_, _, (Option.some.inj faulty).symm⟩
    · cases faulty
  intro failed
  unfold settled at failed
  cases read : s.credentials (s.credentialsPath? flags) with
  | error other =>
      rw [read] at failed
      obtain rfl := Except.error.inj failed
      exact s.credentials_ne_numeral _ _ _ _ read
  | ok credentials =>
      rw [read] at failed
      cases failed

/-- The options have different variables. -/
@[simp] theorem Setting.variable_inj {first second : Setting} :
    first.variable = second.variable ↔ first = second := by
  cases first <;> cases second <;> simp [Setting.variable]

/-- Surroundings that differ at most in the variables of some options. -/
structure AgreeBeside (overridden : Setting → Prop) (s s' : Surroundings) : Prop where
  lookup : ∀ name, (∀ setting, overridden setting → setting.variable ≠ name) →
    s.lookup name = s'.lookup name
  file? : s.file? = s'.file?

namespace AgreeBeside

variable {overridden : Setting → Prop} {s s' : Surroundings} (agree : AgreeBeside overridden s s')
include agree

/-- The variables of other options are looked up alike. -/
theorem lookup_variable {setting : Setting} (kept : ¬ overridden setting) :
    s.lookup setting.variable = s'.lookup setting.variable := by
  apply agree.lookup
  intro other replaced same
  rw [Setting.variable_inj] at same
  exact kept (same ▸ replaced)

theorem faultIn? {setting : Setting} (kept : ¬ overridden setting) :
    s.faultIn? setting = s'.faultIn? setting := by
  unfold Surroundings.faultIn?
  rw [agree.lookup_variable kept]

theorem numberOr {setting : Setting} (kept : ¬ overridden setting) (limit fallback : Nat) :
    s.numberOr setting limit fallback = s'.numberOr setting limit fallback := by
  unfold Surroundings.numberOr Surroundings.number
  rw [agree.lookup_variable kept]

/-- The one credential of the variables has no option. -/
theorem ownCredential? : s.ownCredential? = s'.ownCredential? := by
  have user := agree.lookup "CIAOS_USER_ID" fun setting _ => by cases setting <;> decide
  have access :=
    agree.lookup "CIAOS_ACCESS_KEY" fun setting _ => by cases setting <;> decide
  have secret :=
    agree.lookup "CIAOS_SECRET_KEY" fun setting _ => by cases setting <;> decide
  unfold Surroundings.ownCredential?
  rw [user, access, secret]

theorem credentials (path? : Option String) : s.credentials path? = s'.credentials path? := by
  unfold Surroundings.credentials Surroundings.fileCredentials
  rw [agree.file?, agree.ownCredential?]

end AgreeBeside

/-- Past the numbers, what overridden variables hold does not matter. -/
theorem settled_congr (flags : Flags) {s s' : Surroundings}
    (agree : AgreeBeside (fun setting => flags.has setting = true) s s') :
    settled flags s = settled flags s' := by
  have given : ∀ (setting : Setting) (flag? : Option String), flag?.isSome = flags.has setting →
      flag?.or (s.lookup setting.variable) = flag?.or (s'.lookup setting.variable) := by
    intro setting flag? known
    cases flag? with
    | some value => rfl
    | none =>
        apply agree.lookup_variable
        simp [← known]
  have text : ∀ (setting : Setting) (flag? : Option String), flag?.isSome = flags.has setting →
      s.textOr setting flag? = s'.textOr setting flag? := by
    intro setting flag? known
    funext fallback
    unfold Surroundings.textOr
    rw [given setting flag? known]
  have number : ∀ (setting : Setting) (flag? : Option Nat), flag?.isSome = flags.has setting →
      ∀ limit fallback, flag?.getD (s.numberOr setting limit fallback) =
        flag?.getD (s'.numberOr setting limit fallback) := by
    intro setting flag? known limit fallback
    cases flag? with
    | some value => rfl
    | none =>
        apply agree.numberOr
        simp [← known]
  have path : s.credentialsPath? flags = s'.credentialsPath? flags :=
    given .credentialsFile flags.credentialsFile? rfl
  unfold settled
  rw [path, agree.credentials, text .host _ rfl, text .storageDir _ rfl, text .databaseUrl _ rfl,
    text .region _ rfl, number .port _ rfl, number .maxClockSkew _ rfl, number .maxBodyBytes _ rfl,
    number .maxBufferedBytes _ rfl]

/-- However the command line is read, two runs on it in surroundings that differ in overridden
variables only end alike exactly when they meet the same fault in a number variable first; so they
do when no overridden variable has such a fault. -/
theorem resolve_eq_iff_of_agree {reader : FlagReader} {words : List String} {flags : Flags}
    {s s' : Surroundings} (parsed : reader.read words = .ok flags)
    (agree : AgreeBeside (Written words) s s') :
    (resolve flags s = resolve flags s' ↔ s.numberFault? = s'.numberFault?) ∧
      ((∀ setting, Written words setting →
          s.faultIn? setting = none ∧ s'.faultIn? setting = none) →
        resolve flags s = resolve flags s') := by
  have settledAlike : settled flags s = settled flags s' := by
    apply settled_congr
    refine ⟨?_, agree.file?⟩
    intro name beside
    apply agree.lookup
    intro setting written
    exact beside setting ((reader.has_of_read parsed setting).mpr written)
  have alike : resolve flags s = resolve flags s' ↔ s.numberFault? = s'.numberFault? := by
    rw [resolve_eq_settled, resolve_eq_settled]
    cases first : s.numberFault? with
    | some fault =>
        cases second : s'.numberFault? with
        | some fault' => simp
        | none => simpa using (settled_ne_fault flags s' s first).symm
    | none =>
        cases second : s'.numberFault? with
        | some fault' => simpa using settled_ne_fault flags s s' second
        | none => simpa using settledAlike
  refine ⟨alike, ?_⟩
  intro readable
  have faults : s.faultIn? = s'.faultIn? := by
    funext setting
    by_cases written : Written words setting
    · rw [(readable setting written).1, (readable setting written).2]
    · exact agree.faultIn? written
  apply alike.mpr
  unfold Surroundings.numberFault?
  rw [faults]

def oneVariable (name value : String) : Surroundings :=
  ⟨fun asked => if asked = name then some value else none, fun _ => none⟩

/-- A port on the command line does not hide a bad number in the variable of the port. -/
theorem resolve_port_overridden :
    Flags.reader.read ["--port", "8080"] = .ok { port? := some 8080 } ∧
      AgreeBeside (Written ["--port", "8080"]) (oneVariable "CIAOS_PORT" "http")
        (oneVariable "CIAOS_PORT" "7000") ∧
      resolve { port? := some 8080 } (oneVariable "CIAOS_PORT" "http") ≠
        resolve { port? := some 8080 } (oneVariable "CIAOS_PORT" "7000") := by
  have parsed : Flags.reader.read ["--port", "8080"] = .ok { port? := some 8080 } := by rfl
  have agree : AgreeBeside (Written ["--port", "8080"]) (oneVariable "CIAOS_PORT" "http")
      (oneVariable "CIAOS_PORT" "7000") := by
    refine ⟨?_, rfl⟩
    intro name beside
    have other : name ≠ "CIAOS_PORT" := by
      rintro rfl
      exact beside .port ((Flags.has_of_ofWords parsed .port).mp rfl) rfl
    simp [oneVariable, other]
  refine ⟨parsed, agree, ?_⟩
  intro same
  have faults := (resolve_eq_iff_of_agree parsed agree).1.mp same
  exact absurd faults (by decide)

end Depot.Config
