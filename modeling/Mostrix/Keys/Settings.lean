import Mostrix.Keys.User

/-!
# The settings file

`settings.rs`: the settings live in `settings.toml`, next to the executable when there is one there
and under `~/.mostrix` otherwise. Loading them creates the second when neither exists, with a key
that is generated on the spot. The TOML parser and printer are the `config` and `toml` crates'; what
they print is read back.
-/

namespace Mostrix.Rotation

/-- `Settings`. -/
structure Settings where
  mostroPubkey : String
  nsecPrivkey : String
  adminPrivkey : String
  relays : List String
  logLevel : String
  currenciesFilter : List String
  userMode : String
  lnAddress : String
  blossomServers : List String
deriving DecidableEq, Repr

/-- Reading and printing TOML. -/
structure TomlOps where
  parse : String → Except String Settings
  serialize : Settings → Except String String
  parse_serialize : ∀ {settings : Settings} {text : String},
    serialize settings = .ok text → parse text = .ok settings

/-- The two places of `settings.toml`, and a temporary file that a rotation left. -/
structure SettingsFiles where
  executable : Option String
  hidden : Option String
  tmp : Option String := none
deriving DecidableEq, Repr

/-- The file in force: the executable's when there is one. -/
def SettingsFiles.inForce (files : SettingsFiles) : Option String :=
  files.executable.or files.hidden

/-- What the system answers while the settings are loaded. An error has its text; a failed write
leaves what it wrote. -/
structure SettingsEnv where
  executablePath : String := "settings.toml"
  hiddenPath : String := "~/.mostrix/settings.toml"
  homeDir : Bool := true
  readError : Option String := none
  createDirError : Option String := none
  openError : Option String := none
  writeGeneratedError : Option (String × String) := none
  /-- `Keys::generate` -/
  generated : Keys

/-- The repository's `settings.toml`, which is embedded as the default. -/
def defaultSettings : Settings where
  mostroPubkey := "mostro_pubkey_hex_format"
  nsecPrivkey := "nsec1_privkey_format"
  adminPrivkey := ""
  relays := ["wss://relay.mostro.network"]
  logLevel := "info"
  currenciesFilter := ["VES", "ARS", "USD"]
  userMode := "user"
  lnAddress := ""
  blossomServers := []

/-- `MOSTRO_STAGING_PUBKEY`. -/
def mostroStagingPubkey : String :=
  "82fa8cb978b43c79b2156585bac2c011176a21d2aead6d9f7c575c005be88390"

/-- The white space that `str::trim` strips. -/
def isTrimmed (c : Char) : Bool :=
  let n := c.toNat
  (9 ≤ n && n ≤ 13) || n = 32 || n = 0x85 || n = 0xA0 || n = 0x1680 ||
    (0x2000 ≤ n && n ≤ 0x200A) || n = 0x2028 || n = 0x2029 || n = 0x202F || n = 0x205F ||
    n = 0x3000

/-- A line sets a key, comments apart. -/
def setsKey (key : String) (line : List Char) : Bool :=
  let beforeComment := (line.takeWhile (· ≠ '#')).dropWhile isTrimmed
  (key ++ " =").toList.isPrefixOf beforeComment || (key ++ "=").toList.isPrefixOf beforeComment

/-- `validate_currencies_config`. -/
def validateCurrenciesConfig (path text : String) : Except String Unit :=
  let lines := text.toList.splitOn '\n'
  let hasNew := lines.any (setsKey "currencies_filter")
  let hasOld := lines.any (setsKey "currencies")
  if hasOld && !hasNew then
    .error ("Deprecated field 'currencies' in " ++ path ++ ". Please rename to " ++
      "'currencies_filter' and run again. See README 'Upgrading from v0.x'.")
  else if hasOld && hasNew then
    .error ("Both 'currencies' and 'currencies_filter' are set in " ++ path ++
      ". Remove 'currencies' and keep only 'currencies_filter', then run again.")
  else .ok ()

/-- The check for placeholders that follows every load. -/
def rejectPlaceholders (path : String) (settings : Settings) : Except String Settings :=
  if settings.mostroPubkey = "mostro_pubkey_hex_format" ∨
      settings.nsecPrivkey = "nsec1_privkey_format" then
    .error ("Default settings.toml already exists at " ++ path ++
      " but still contains placeholder values.\n" ++
      "Please edit this file and replace placeholder values (mostro_pubkey, nsec_privkey, etc.) " ++
      "with your real keys before running Mostrix again.")
  else .ok settings

section
variable (keyOps : KeyOps) (toml : TomlOps)

/-- `load_settings_from_path`, and the check that follows it. A file that cannot be read passes the
check of its currencies. -/
def loadSettingsFromPath (env : SettingsEnv) (path text : String) : Except String Settings := do
  match env.readError with
  | some e => .error ("settings.toml malformed: " ++ e)
  | none => validateCurrenciesConfig path text
  let settings ← toml.parse text
  rejectPlaceholders path settings

/-- The settings of a first run, and their text. -/
def generatedSettings (env : SettingsEnv) (identityKeys : Option Keys) :
    Except String (Settings × String) := do
  let nsec ←
    match identityKeys with
    | some identity =>
      (keyOps.toBech32 identity).mapError ("Failed to encode identity Nostr secret key: " ++ ·)
    | none =>
      (keyOps.toBech32 env.generated).mapError
        ("Failed to encode generated Nostr secret key: " ++ ·)
  let settings :=
    { defaultSettings with
      nsecPrivkey := nsec
      relays := ["wss://relay.mostro.network"]
      userMode := "user"
      currenciesFilter := []
      mostroPubkey := mostroStagingPubkey }
  let tomlString ←
    (toml.serialize settings).mapError ("Failed to serialize generated settings: " ++ ·)
  .ok (settings, tomlString)

/-- `init_or_load_settings_from_disk`. No other process is taken to create the file in between. -/
def initOrLoadSettingsFromDisk (env : SettingsEnv) (identityKeys : Option Keys)
    (files : SettingsFiles) : SettingsFiles × Except String (Settings × Bool) :=
  if !env.homeDir then (files, .error "Could not find home directory")
  else
    match files.executable, files.hidden with
    | some text, _ =>
      (files, (loadSettingsFromPath toml env env.executablePath text).map (·, false))
    | none, some text =>
      (files, (loadSettingsFromPath toml env env.hiddenPath text).map (·, false))
    | none, none =>
      match env.createDirError with
      | some e => (files, .error ("The configuration directory could not be created: " ++ e))
      | none =>
        match generatedSettings keyOps toml env identityKeys with
        | .error e => (files, .error e)
        | .ok (settings, tomlString) =>
          match env.openError, env.writeGeneratedError with
          | some e, _ => (files, .error ("Could not write generated settings.toml: " ++ e))
          | none, some (e, left) =>
            ({ files with hidden := some left },
              .error ("Could not write generated settings.toml: " ++ e))
          | none, none => ({ files with hidden := some tomlString }, .ok (settings, true))

/-- `load_settings_from_disk`. -/
def loadSettingsFromDisk (env : SettingsEnv) (files : SettingsFiles) :
    SettingsFiles × Except String Settings :=
  let (files, result) := initOrLoadSettingsFromDisk keyOps toml env none files
  (files, result.map (·.1))

/-- Loading creates the settings file: there is none, and nothing stands in the way. -/
def GeneratesSettings (env : SettingsEnv) (files : SettingsFiles) : Prop :=
  env.homeDir = true ∧ files.inForce = none ∧ env.createDirError = none ∧
    (∃ generated, generatedSettings keyOps toml env none = .ok generated) ∧ env.openError = none

end

section
variable {keyOps : KeyOps} {toml : TomlOps}

theorem inForce_eq_none_iff {files : SettingsFiles} :
    files.inForce = none ↔ files.executable = none ∧ files.hidden = none := by
  unfold SettingsFiles.inForce
  exact Option.or_eq_none_iff

/-- What loading does to the files: nothing, or it creates the one under the home directory. -/
theorem loadSettingsFromDisk_files (env : SettingsEnv) (files : SettingsFiles) :
    (¬ GeneratesSettings keyOps toml env files →
      (loadSettingsFromDisk keyOps toml env files).1 = files) ∧
    (GeneratesSettings keyOps toml env files →
      files.hidden = none ∧
        ∃ text, (loadSettingsFromDisk keyOps toml env files).1 =
          { files with hidden := some text }) := by
  obtain ⟨executable, hidden, tmp⟩ := files
  unfold loadSettingsFromDisk initOrLoadSettingsFromDisk GeneratesSettings
  rw [inForce_eq_none_iff]
  cases env.homeDir with
  | false => simp
  | true =>
    cases executable with
    | some text => simp
    | none =>
      cases hidden with
      | some text => simp
      | none =>
        cases env.createDirError with
        | some e => simp
        | none =>
          cases generatedSettings keyOps toml env none with
          | error e => simp
          | ok generated =>
            cases env.openError with
            | some e => simp
            | none =>
              cases env.writeGeneratedError with
              | some left => simp
              | none => simp

end

end Mostrix.Rotation
