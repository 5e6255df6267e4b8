import Mostrix.Keys.Settings

/-!
# The rotation task

`spawn_key_rotation_task` (`ui/key_handler/async_tasks.rs`): the user's row and the orders change in
a database transaction, the identity key in the settings file. The new settings are written to a
temporary file before the commit and renamed into place after it, so that a failure up to and
including the commit leaves both stores as they were. A failure of the rename does not: the
transaction is committed by then.

What the system answers at each point of failure is `RotationEnv`. `keyRotation_of_commits` and
`keyRotation_of_not_commits` say what the task leaves, and `rotation_all_or_nothing_iff` when that
is all or nothing.
-/

namespace Mostrix.Rotation

/-- What the system answers while a rotation runs. A failed write may leave part of the temporary
file. -/
structure RotationEnv extends SettingsEnv where
  now : Int
  beginError : Option String := none
  replaceError : Option String := none
  deleteOrdersError : Option String := none
  writeError : Option (String × Option String) := none
  commitError : Option String := none
  renameError : Option String := none
  removeFails : Bool := false

/-- The two stores. -/
structure RotationState where
  db : UserDb
  files : SettingsFiles

/-- `?` on a call of the system. -/
def failOn : Option String → Except String Unit
  | some e => .error e
  | none => .ok ()

/-- `fs::remove_file` on the temporary file, whose result is dropped. -/
def RotationEnv.removeTmp (env : RotationEnv) (files : SettingsFiles) : SettingsFiles :=
  if env.removeFails then files else { files with tmp := none }

/-- `fs::rename` of the temporary file onto the file in force. -/
def SettingsFiles.renameTmp (files : SettingsFiles) : SettingsFiles :=
  if files.executable.isSome then { files with executable := files.tmp, tmp := none }
  else { files with hidden := files.tmp, tmp := none }

section
variable (keyOps : KeyOps) (toml : TomlOps)

/-- `derive_identity_nsec_from_mnemonic`. -/
def identityNsec (mnemonic : String) : Except String String := do
  let identityKeys ← keyOps.fromMnemonic mnemonic 0
  keyOps.toBech32 identityKeys

/-- The task up to the settings: the new user, and the transaction as it stands before its
commit. -/
def rotationTx (env : RotationEnv) (mnemonic : String) (db : UserDb) : Except String UserDb := do
  let newUser ← User.fromMnemonic keyOps mnemonic env.now
  failOn env.beginError
  failOn env.replaceError
  let tx := newUser.replaceAllInTx db
  failOn env.deleteOrdersError
  .ok (Order.deleteAllInTx tx)

/-- The text of the new settings. -/
def rotatedSettingsText (settings : Settings) (derivedNsec : String) : Except String String :=
  (toml.serialize { settings with nsecPrivkey := derivedNsec }).mapError
    ("Failed to serialize settings: " ++ ·)

/-- The task from the temporary file on. -/
def persistRotation (env : RotationEnv) (tx : UserDb) (tomlString : String) (s : RotationState) :
    RotationState × Except String Unit :=
  match env.writeError with
  | some (e, left) =>
    ({ s with files := { s.files with tmp := left } },
      .error ("Failed to write temporary settings file: " ++ e))
  | none =>
    let s := { s with files := { s.files with tmp := some tomlString } }
    match env.commitError with
    | some e =>
      ({ s with files := env.removeTmp s.files }, .error ("Failed to commit user update: " ++ e))
    | none =>
      let s := { s with db := tx }
      match env.renameError with
      | some e =>
        ({ s with files := env.removeTmp s.files },
          .error ("Failed to atomically replace settings: " ++ e))
      | none => ({ s with files := s.files.renameTmp }, .ok ())

/-- The body of `spawn_key_rotation_task`. A transaction that is not committed is rolled back. -/
def keyRotation (env : RotationEnv) (isUserMode : Bool) (mnemonic derivedNsec : String)
    (s : RotationState) : RotationState × Except String Unit :=
  if !isUserMode then
    (s, .error "Admin key rotation via Generate New Keys is disabled; use Change Admin Key")
  else
    match rotationTx keyOps env mnemonic s.db with
    | .error e => (s, .error e)
    | .ok tx =>
      match loadSettingsFromDisk keyOps toml env.toSettingsEnv s.files with
      | (files, .error e) => ({ s with files := files }, .error e)
      | (files, .ok settings) =>
        match rotatedSettingsText toml settings derivedNsec with
        | .error e => ({ s with files := files }, .error e)
        | .ok tomlString =>
          if !env.homeDir then ({ s with files := files }, .error "Could not find home directory")
          else persistRotation env tx tomlString { s with files := files }

/-- `spawn_key_rotation_task`: the body, and the message that reports it. -/
def spawnKeyRotationTask (env : RotationEnv) (isUserMode : Bool) (mnemonic derivedNsec : String)
    (s : RotationState) : RotationState × Except String String :=
  let (s, rotationResult) := keyRotation keyOps toml env isUserMode mnemonic derivedNsec s
  match rotationResult with
  | .ok () => (s, .ok mnemonic)
  | .error e => (s, .error ("Failed to save new keys: " ++ e))

/-! ## All or nothing -/

/-- The key in the settings file. -/
def storedNsec (files : SettingsFiles) : Option String := do
  let text ← files.inForce
  let settings ← (toml.parse text).toOption
  some settings.nsecPrivkey

/-- The identity key of the stored mnemonic is the key in the settings file. -/
def KeysMatch (s : RotationState) : Prop :=
  ∃ user nsec, s.db.user = some user ∧ identityNsec keyOps user.mnemonic = .ok nsec ∧
    storedNsec toml s.files = some nsec

/-- The user's row, the orders and the settings are as they were. -/
def Unchanged (s s' : RotationState) : Prop :=
  s'.db = s.db ∧ s'.files.executable = s.files.executable ∧ s'.files.hidden = s.files.hidden

/-- A rotation is all or nothing: reported as failed, it changed nothing; reported as done, the two
stores hold the same key; and in either case they do if they did before. -/
structure RotationOk (s s' : RotationState) (result : Except String String) : Prop where
  unchanged : ∀ e, result = .error e → Unchanged s s'
  committed : ∀ m, result = .ok m → KeysMatch keyOps toml s'
  preserved : KeysMatch keyOps toml s → KeysMatch keyOps toml s'

/-- Nothing up to and including the commit fails, `tx` being what is committed. -/
def Commits (env : RotationEnv) (isUserMode : Bool) (mnemonic derivedNsec : String)
    (s : RotationState) (tx : UserDb) : Prop :=
  isUserMode = true ∧ rotationTx keyOps env mnemonic s.db = .ok tx ∧
    (∃ settings tomlString,
      (loadSettingsFromDisk keyOps toml env.toSettingsEnv s.files).2 = .ok settings ∧
        rotatedSettingsText toml settings derivedNsec = .ok tomlString) ∧
    env.homeDir = true ∧ env.writeError = none ∧ env.commitError = none

/-- The task creates a settings file: it gets to the settings and finds none. -/
def CreatesSettings (env : RotationEnv) (isUserMode : Bool) (mnemonic : String)
    (s : RotationState) : Prop :=
  isUserMode = true ∧ (∃ tx, rotationTx keyOps env mnemonic s.db = .ok tx) ∧
    GeneratesSettings keyOps toml env.toSettingsEnv s.files

/-- The condition. Where the commit goes through, so does the rename after it, unless the commit
changed nothing and no settings were created; and where settings are created, the commit goes
through. -/
def CleanFailure (env : RotationEnv) (isUserMode : Bool) (mnemonic derivedNsec : String)
    (s : RotationState) : Prop :=
  (∀ tx, Commits keyOps toml env isUserMode mnemonic derivedNsec s tx →
    env.renameError = none ∨
      tx = s.db ∧ ¬ CreatesSettings keyOps toml env isUserMode mnemonic s) ∧
  (CreatesSettings keyOps toml env isUserMode mnemonic s →
    ∃ tx, Commits keyOps toml env isUserMode mnemonic derivedNsec s tx)

end

section
variable {keyOps : KeyOps} {toml : TomlOps} {env : RotationEnv} {isUserMode : Bool}
variable {mnemonic derivedNsec : String} {s : RotationState}

/-- The transaction as it is committed: the new user, and no orders. -/
theorem rotationTx_eq {db tx : UserDb} (h : rotationTx keyOps env mnemonic db = .ok tx) :
    ∃ user, tx = ⟨some user, Table.empty⟩ ∧ user.mnemonic = mnemonic := by
  unfold rotationTx at h
  obtain ⟨newUser, hnew, h⟩ := Except.ok_of_bind h
  obtain ⟨-, -, h⟩ := Except.ok_of_bind h
  obtain ⟨-, -, h⟩ := Except.ok_of_bind h
  obtain ⟨-, -, h⟩ := Except.ok_of_bind h
  obtain ⟨i0Keys, -, rfl⟩ := Except.ok_of_map hnew
  exact ⟨_, (Except.ok.inj h).symm, rfl⟩

@[simp] theorem removeTmp_executable (files : SettingsFiles) :
    (env.removeTmp files).executable = files.executable := by
  unfold RotationEnv.removeTmp
  split
  · rfl
  · rfl

@[simp] theorem removeTmp_hidden (files : SettingsFiles) :
    (env.removeTmp files).hidden = files.hidden := by
  unfold RotationEnv.removeTmp
  split
  · rfl
  · rfl

/-- The renamed file is the one in force. -/
theorem renameTmp_inForce {files : SettingsFiles} {text : String} (h : files.tmp = some text) :
    files.renameTmp.inForce = some text := by
  unfold SettingsFiles.renameTmp SettingsFiles.inForce
  rw [h]
  cases files.executable with
  | none => rfl
  | some old => rfl

/-- Loading the settings never touches the file next to the executable. -/
theorem loadSettingsFromDisk_executable (env : SettingsEnv) (files : SettingsFiles) :
    (loadSettingsFromDisk keyOps toml env files).1.executable = files.executable := by
  by_cases h : GeneratesSettings keyOps toml env files
  · obtain ⟨-, text, heq⟩ := (loadSettingsFromDisk_files env files).2 h
    rw [heq]
  · rw [(loadSettingsFromDisk_files env files).1 h]

/-- The task when nothing fails up to the commit: the rename decides. -/
theorem keyRotation_of_commits {tx : UserDb}
    (h : Commits keyOps toml env isUserMode mnemonic derivedNsec s tx) :
    ∃ (settings : Settings) (tomlString : String),
      toml.serialize { settings with nsecPrivkey := derivedNsec } = .ok tomlString ∧
      keyRotation keyOps toml env isUserMode mnemonic derivedNsec s =
        let loaded := (loadSettingsFromDisk keyOps toml env.toSettingsEnv s.files).1
        let files := { loaded with tmp := some tomlString }
        match env.renameError with
        | some e =>
          (⟨tx, env.removeTmp files⟩, .error ("Failed to atomically replace settings: " ++ e))
        | none => (⟨tx, files.renameTmp⟩, .ok ()) := by
  obtain ⟨rfl, htx, ⟨settings, tomlString, hload, htext⟩, hhome, hwrite, hcommit⟩ := h
  have hser : toml.serialize { settings with nsecPrivkey := derivedNsec } = .ok tomlString := by
    unfold rotatedSettingsText at htext
    exact Except.ok_of_mapError htext
  refine ⟨settings, tomlString, hser, ?_⟩
  unfold keyRotation
  rw [htx]
  generalize loadSettingsFromDisk keyOps toml env.toSettingsEnv s.files = loaded at hload ⊢
  obtain ⟨files, result⟩ := loaded
  obtain rfl : result = .ok settings := hload
  simp only [htext, hhome, persistRotation, hwrite, hcommit]
  cases env.renameError with
  | some e => rfl
  | none => rfl

/-- A rename that fails after the commit is reported as a failure, over a database that has
changed. -/
theorem spawnKeyRotationTask_of_rename_fails {tx : UserDb} {e : String}
    (h : Commits keyOps toml env isUserMode mnemonic derivedNsec s tx)
    (hrename : env.renameError = some e) :
    ∃ e', (spawnKeyRotationTask keyOps toml env isUserMode mnemonic derivedNsec s).2 = .error e' ∧
      (spawnKeyRotationTask keyOps toml env isUserMode mnemonic derivedNsec s).1.db = tx := by
  obtain ⟨settings, tomlString, -, heq⟩ := keyRotation_of_commits h
  unfold spawnKeyRotationTask
  rw [heq, hrename]
  exact ⟨_, rfl, rfl⟩

/-- The task when something fails before the commit is through: only a settings file that it creates
is left. -/
theorem keyRotation_of_not_commits
    (h : ∀ tx, ¬ Commits keyOps toml env isUserMode mnemonic derivedNsec s tx) :
    ∃ s' e, keyRotation keyOps toml env isUserMode mnemonic derivedNsec s = (s', .error e) ∧
      s'.db = s.db ∧ s'.files.executable = s.files.executable ∧
      s'.files.hidden =
        (if isUserMode = true ∧ (rotationTx keyOps env mnemonic s.db).isOk then
          (loadSettingsFromDisk keyOps toml env.toSettingsEnv s.files).1.hidden
        else s.files.hidden) := by
  have hexe : (loadSettingsFromDisk keyOps toml env.toSettingsEnv s.files).1.executable =
      s.files.executable := loadSettingsFromDisk_executable _ _
  unfold keyRotation
  unfold Commits at h
  cases isUserMode with
  | false => exact ⟨s, _, rfl, rfl, rfl, rfl⟩
  | true =>
    cases htx : rotationTx keyOps env mnemonic s.db with
    | error e => exact ⟨s, _, rfl, rfl, rfl, rfl⟩
    | ok tx =>
      generalize loadSettingsFromDisk keyOps toml env.toSettingsEnv s.files = loaded at h hexe ⊢
      obtain ⟨files, result⟩ := loaded
      cases result with
      | error e => exact ⟨_, _, rfl, rfl, hexe, rfl⟩
      | ok settings =>
        dsimp only at hexe ⊢
        cases htext : rotatedSettingsText toml settings derivedNsec with
        | error e => exact ⟨_, _, rfl, rfl, hexe, rfl⟩
        | ok tomlString =>
          cases hhome : env.homeDir with
          | false => exact ⟨_, _, rfl, rfl, hexe, rfl⟩
          | true =>
            unfold persistRotation
            cases hwrite : env.writeError with
            | some left => exact ⟨_, _, rfl, rfl, hexe, rfl⟩
            | none =>
              cases hcommit : env.commitError with
              | some e =>
                exact ⟨_, _, rfl, rfl, (removeTmp_executable _).trans hexe, removeTmp_hidden _⟩
              | none =>
                exact absurd ⟨rfl, htx, ⟨settings, tomlString, rfl, htext⟩, hhome, hwrite, hcommit⟩
                  (h tx)

/-- What a rotation reports as failed is all or nothing exactly when it changed nothing. -/
theorem rotationOk_of_failed {s' : RotationState} {e : String} :
    RotationOk keyOps toml s s' (.error e) ↔ Unchanged s s' := by
  refine ⟨?_, ?_⟩
  · intro h
    exact h.unchanged e rfl
  · intro h
    refine ⟨fun _ _ => h, fun m hm => (nomatch hm), ?_⟩
    obtain ⟨hdb, hexe, hhidden⟩ := h
    rintro ⟨user, nsec, huser, hnsec, hstored⟩
    refine ⟨user, nsec, by rw [hdb, huser], hnsec, ?_⟩
    have hforce : s'.files.inForce = s.files.inForce := by
      unfold SettingsFiles.inForce
      rw [hexe, hhidden]
    unfold storedNsec at hstored ⊢
    rw [hforce]
    exact hstored

/-- What is committed is determined. -/
theorem Commits.unique {tx tx' : UserDb}
    (h : Commits keyOps toml env isUserMode mnemonic derivedNsec s tx)
    (h' : Commits keyOps toml env isUserMode mnemonic derivedNsec s tx') : tx' = tx :=
  Except.ok.inj (h'.2.1.symm.trans h.2.1)

/-- After the commit and the rename both stores hold the new key. -/
theorem keysMatch_of_rotated {files : SettingsFiles} {tx : UserDb} {settings : Settings}
    {tomlString : String} (hnsec : identityNsec keyOps mnemonic = .ok derivedNsec)
    (htx : rotationTx keyOps env mnemonic s.db = .ok tx)
    (hser : toml.serialize { settings with nsecPrivkey := derivedNsec } = .ok tomlString)
    (htmp : files.tmp = some tomlString) : KeysMatch keyOps toml ⟨tx, files.renameTmp⟩ := by
  obtain ⟨user, rfl, rfl⟩ := rotationTx_eq htx
  refine ⟨user, derivedNsec, rfl, hnsec, ?_⟩
  unfold storedNsec
  simp [renameTmp_inForce htmp, toml.parse_serialize hser, Except.toOption]

/-- Loading leaves the file under the home directory alone exactly when it creates none. -/
theorem loaded_hidden_iff (env : SettingsEnv) (files : SettingsFiles) :
    (loadSettingsFromDisk keyOps toml env files).1.hidden = files.hidden ↔
      ¬ GeneratesSettings keyOps toml env files := by
  refine ⟨?_, ?_⟩
  · intro h hgen
    obtain ⟨hnone, text, heq⟩ := (loadSettingsFromDisk_files env files).2 hgen
    rw [heq, hnone] at h
    cases h
  · intro h
    rw [(loadSettingsFromDisk_files env files).1 h]

/-- A rotation that is committed is all or nothing when the rename goes through, and when it does
not only if the commit changed nothing and no settings were created. -/
theorem rotationOk_of_commits {tx : UserDb} (hnsec : identityNsec keyOps mnemonic = .ok derivedNsec)
    (hc : Commits keyOps toml env isUserMode mnemonic derivedNsec s tx) :
    RotationOk keyOps toml s
        (spawnKeyRotationTask keyOps toml env isUserMode mnemonic derivedNsec s).1
        (spawnKeyRotationTask keyOps toml env isUserMode mnemonic derivedNsec s).2 ↔
      env.renameError = none ∨
        tx = s.db ∧ ¬ CreatesSettings keyOps toml env isUserMode mnemonic s := by
  obtain ⟨settings, tomlString, hser, heq⟩ := keyRotation_of_commits hc
  unfold spawnKeyRotationTask
  rw [heq]
  cases hrename : env.renameError with
  | none =>
    refine iff_of_true ?_ (.inl rfl)
    let files : SettingsFiles :=
      { (loadSettingsFromDisk keyOps toml env.toSettingsEnv s.files).1 with
        tmp := some tomlString }
    have hmatch : KeysMatch keyOps toml ⟨tx, files.renameTmp⟩ :=
      keysMatch_of_rotated hnsec hc.2.1 hser rfl
    exact ⟨fun e he => (nomatch he), fun _ _ => hmatch, fun _ => hmatch⟩
  | some e =>
    have hcreates : CreatesSettings keyOps toml env isUserMode mnemonic s ↔
        GeneratesSettings keyOps toml env.toSettingsEnv s.files :=
      ⟨fun h => h.2.2, fun h => ⟨hc.1, ⟨tx, hc.2.1⟩, h⟩⟩
    have hrename' : ¬ some e = (none : Option String) := nofun
    dsimp only
    rw [rotationOk_of_failed, hcreates, or_iff_right hrename']
    unfold Unchanged
    simp only [removeTmp_executable, removeTmp_hidden, loadSettingsFromDisk_executable,
      loaded_hidden_iff, true_and]

/-- A rotation that fails before its commit is through is all or nothing unless it created
settings. -/
theorem rotationOk_of_not_commits
    (h : ∀ tx, ¬ Commits keyOps toml env isUserMode mnemonic derivedNsec s tx) :
    RotationOk keyOps toml s
        (spawnKeyRotationTask keyOps toml env isUserMode mnemonic derivedNsec s).1
        (spawnKeyRotationTask keyOps toml env isUserMode mnemonic derivedNsec s).2 ↔
      ¬ CreatesSettings keyOps toml env isUserMode mnemonic s := by
  obtain ⟨s', e, heq, hdb, hexe, hhidden⟩ := keyRotation_of_not_commits h
  unfold spawnKeyRotationTask
  rw [heq]
  dsimp only
  rw [rotationOk_of_failed]
  unfold Unchanged CreatesSettings
  simp only [hdb, hexe, hhidden, true_and]
  split
  · rename_i hreached
    obtain ⟨huser, hok⟩ := hreached
    have htx : ∃ tx, rotationTx keyOps env mnemonic s.db = .ok tx := by
      cases htx : rotationTx keyOps env mnemonic s.db with
      | error e =>
        rw [htx] at hok
        cases hok
      | ok tx => exact ⟨tx, rfl⟩
    rw [loaded_hidden_iff]
    exact not_congr ⟨fun hgen => ⟨huser, htx, hgen⟩, fun hcreates => hcreates.2.2⟩
  · rename_i hreached
    refine iff_of_true rfl ?_
    rintro ⟨huser, ⟨tx, htx⟩, -⟩
    exact hreached ⟨huser, by rw [htx]; rfl⟩

/-- A rotation of the user's keys, with the key that its caller derives from the mnemonic, is all or
nothing exactly when its failures are clean. -/
theorem rotation_all_or_nothing_iff (hnsec : identityNsec keyOps mnemonic = .ok derivedNsec) :
    let r := spawnKeyRotationTask keyOps toml env isUserMode mnemonic derivedNsec s
    RotationOk keyOps toml s r.1 r.2 ↔
      CleanFailure keyOps toml env isUserMode mnemonic derivedNsec s := by
  intro r
  unfold CleanFailure
  by_cases hcommits : ∃ tx, Commits keyOps toml env isUserMode mnemonic derivedNsec s tx
  · obtain ⟨tx, hc⟩ := hcommits
    rw [rotationOk_of_commits hnsec hc]
    refine ⟨fun h => ⟨fun tx' hc' => ?_, fun _ => ⟨tx, hc⟩⟩, fun h => h.1 tx hc⟩
    rw [hc.unique hc']
    exact h
  · have hnot : ∀ tx, ¬ Commits keyOps toml env isUserMode mnemonic derivedNsec s tx :=
      fun tx h => hcommits ⟨tx, h⟩
    rw [rotationOk_of_not_commits hnot]
    refine ⟨fun h => ⟨fun tx hc => absurd hc (hnot tx), fun hcreates => absurd hcreates h⟩, ?_⟩
    rintro ⟨-, h⟩ hcreates
    exact hcommits (h hcreates)

end

/-! ## A rename that fails -/

/-- Settings with a given key. -/
def settingsWithKey (nsec : String) : Settings where
  mostroPubkey := mostroStagingPubkey
  nsecPrivkey := nsec
  adminPrivkey := ""
  relays := ["wss://relay.mostro.network"]
  logLevel := "info"
  currenciesFilter := []
  userMode := "user"
  lnAddress := ""
  blossomServers := []

/-- Their text. -/
@[irreducible] def textWithKey (nsec : String) : String :=
  "mostro_pubkey = \"" ++ (mostroStagingPubkey ++ ("\"\nnsec_privkey = \"" ++ (nsec ++
    ("\"\nadmin_privkey = \"\"\n" ++ ("relays = [\"wss://relay.mostro.network\"]\n" ++
      ("log_level = \"info\"\n" ++ ("currencies_filter = []\n" ++ ("user_mode = \"user\"\n" ++
        ("ln_address = \"\"\n" ++ "blossom_servers = []\n")))))))))

theorem textWithKey_inj {nsec nsec' : String} (h : textWithKey nsec = textWithKey nsec') :
    nsec = nsec' := by
  unfold textWithKey at h
  rw [String.append_right_inj, String.append_right_inj, String.append_right_inj,
    String.append_left_inj] at h
  exact h

/-- TOML for the settings of two keys, for concrete runs. -/
def plainToml : TomlOps where
  parse := fun text =>
    if text = textWithKey "nsec1old:0" then .ok (settingsWithKey "nsec1old:0")
    else if text = textWithKey "nsec1new:0" then .ok (settingsWithKey "nsec1new:0")
    else .error "Error deserializing settings.toml"
  serialize := fun settings =>
    if settings = settingsWithKey "nsec1old:0" then .ok (textWithKey "nsec1old:0")
    else if settings = settingsWithKey "nsec1new:0" then .ok (textWithKey "nsec1new:0")
    else .error "unsupported"
  parse_serialize := by
    intro settings text h
    split at h
    · rename_i heq
      obtain rfl := Except.ok.inj h
      rw [heq]
      exact if_pos rfl
    · split at h
      · rename_i heq
        obtain rfl := Except.ok.inj h
        have hne : textWithKey "nsec1new:0" ≠ textWithKey "nsec1old:0" :=
          fun h => absurd (textWithKey_inj h) (by decide)
        rw [heq, if_neg hne]
        exact if_pos rfl
      · cases h

/-- A user of the mnemonic `old` whose settings are under the home directory. -/
def oldState : RotationState where
  db := { user := some { i0Pubkey := "pub:old:0", mnemonic := "old", createdAt := 0 },
          orders := Table.empty }
  files := { executable := none, hidden := some (textWithKey "nsec1old:0") }

/-- A system that answers well, but for the rename. -/
def renameEnv (renameError : Option String) : RotationEnv where
  generated := ⟨"generated", "pub:generated"⟩
  now := 0
  renameError := renameError

theorem oldState_parse :
    plainToml.parse (textWithKey "nsec1old:0") = .ok (settingsWithKey "nsec1old:0") :=
  if_pos rfl

/-- The settings of `oldState` can be loaded. -/
theorem oldState_load (renameError : Option String) :
    (loadSettingsFromDisk plainKeyOps plainToml (renameEnv renameError).toSettingsEnv
      oldState.files).2 = .ok (settingsWithKey "nsec1old:0") := by
  have hold : ((textWithKey "nsec1old:0").toList.splitOn '\n').any (setsKey "currencies") = false := by
    unfold textWithKey
    simp only [String.toList_append]
    decide +kernel
  have hvalid : ∀ path, validateCurrenciesConfig path (textWithKey "nsec1old:0") = .ok () := by
    intro path
    unfold validateCurrenciesConfig
    simp [hold]
  have hpath : ∀ path, loadSettingsFromPath plainToml (renameEnv renameError).toSettingsEnv path
      (textWithKey "nsec1old:0") = .ok (settingsWithKey "nsec1old:0") := by
    intro path
    have hplaceholder : rejectPlaceholders path (settingsWithKey "nsec1old:0") =
        .ok (settingsWithKey "nsec1old:0") := if_neg (by decide +kernel)
    have hread : (renameEnv renameError).readError = none := rfl
    unfold loadSettingsFromPath
    rw [hread]
    dsimp only
    rw [hvalid, oldState_parse]
    exact hplaceholder
  have hfiles : loadSettingsFromDisk plainKeyOps plainToml (renameEnv renameError).toSettingsEnv
      oldState.files = (oldState.files, ((loadSettingsFromPath plainToml
        (renameEnv renameError).toSettingsEnv "~/.mostrix/settings.toml"
        (textWithKey "nsec1old:0")).map (·, false)).map (·.1)) := rfl
  rw [hfiles, hpath]
  rfl

/-- Nothing up to the commit fails in `renameEnv`. -/
theorem renameEnv_commits (renameError : Option String) :
    Commits plainKeyOps plainToml (renameEnv renameError) true "new" "nsec1new:0" oldState
      ⟨some { i0Pubkey := "pub:new:0", mnemonic := "new", createdAt := 0 }, Table.empty⟩ := by
  refine ⟨rfl, rfl, ⟨_, textWithKey "nsec1new:0", oldState_load renameError, ?_⟩, rfl, rfl, rfl⟩
  have hne : settingsWithKey "nsec1new:0" ≠ settingsWithKey "nsec1old:0" := by decide +kernel
  have hser : plainToml.serialize (settingsWithKey "nsec1new:0") =
      .ok (textWithKey "nsec1new:0") := by
    unfold plainToml
    dsimp only
    rw [if_neg hne, if_pos rfl]
  have hset : { settingsWithKey "nsec1old:0" with nsecPrivkey := "nsec1new:0" } =
      settingsWithKey "nsec1new:0" := rfl
  unfold rotatedSettingsText
  rw [hset, hser]
  rfl

/-- A rotation in which nothing fails. -/
theorem rotation_all_or_nothing_iff_done :
    let r := spawnKeyRotationTask plainKeyOps plainToml (renameEnv none) true "new" "nsec1new:0"
      oldState
    RotationOk plainKeyOps plainToml oldState r.1 r.2 := by
  refine (rotation_all_or_nothing_iff rfl).2 ⟨fun _ _ => .inl rfl, ?_⟩
  rintro ⟨-, -, -, hforce, -⟩
  cases hforce

/-- A rename that fails is reported as a failure after the mnemonic was replaced. -/
theorem rotation_not_all_or_nothing :
    ¬ ∀ (keyOps : KeyOps) (toml : TomlOps) (env : RotationEnv) (mnemonic derivedNsec : String)
      (s : RotationState), identityNsec keyOps mnemonic = .ok derivedNsec →
        KeysMatch keyOps toml s →
        let r := spawnKeyRotationTask keyOps toml env true mnemonic derivedNsec s
        RotationOk keyOps toml s r.1 r.2 := by
  intro h
  have hstored : storedNsec plainToml oldState.files = some "nsec1old:0" := by
    have hforce : oldState.files.inForce = some (textWithKey "nsec1old:0") := rfl
    unfold storedNsec
    rw [hforce]
    simp only [Option.bind_eq_bind, Option.bind_some, oldState_parse]
    rfl
  have hmatch : KeysMatch plainKeyOps plainToml oldState :=
    ⟨_, "nsec1old:0", rfl, rfl, hstored⟩
  have hok := h plainKeyOps plainToml (renameEnv (some "Permission denied (os error 13)")) "new"
    "nsec1new:0" oldState rfl hmatch
  obtain ⟨e, he, hdb⟩ := spawnKeyRotationTask_of_rename_fails
    (renameEnv_commits (some "Permission denied (os error 13)")) rfl
  obtain ⟨hsame, -⟩ := hok.unchanged e he
  rw [hdb] at hsame
  have huser : some "new" = some "old" :=
    congrArg (fun db : UserDb => db.user.map User.mnemonic) hsame
  exact absurd huser (by decide)

end Mostrix.Rotation
