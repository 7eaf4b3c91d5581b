import Mathlib.Tactic.Common
import TreeShell.Launch.Run

/-!
# Hosts that grow

A run makes directories on its host and leaves a database there, and takes nothing away.  So
the next run finds what it found, reads the same settings when they came from a file, and
opens the database that was left.

Main statements: `Host.Extends.settingsFor`, `Host.openDatabase_keepDatabase`; and
`run_eq_runWith`, from which other modules tell what a run does on its host.
-/

namespace TreeShell.Launch

open TreeShell.Store

namespace Host

/-! ## More entries -/

/-- Whether one host has all that another has at the same places, and is used from the same
directory. -/
structure Extends (h h' : Host) : Prop where
  keeps : ∀ place e, h.entry? place = some e → h'.entry? place = some e
  workingDirectory : h'.workingDirectory = h.workingDirectory

variable {h h' h'' : Host}

theorem Extends.refl (h : Host) : h.Extends h :=
  ⟨fun _ _ hEntry => hEntry, rfl⟩

theorem Extends.trans (h₁ : h.Extends h') (h₂ : h'.Extends h'') : h.Extends h'' :=
  ⟨fun place e hEntry => h₂.keeps place e (h₁.keeps place e hEntry),
    h₂.workingDirectory.trans h₁.workingDirectory⟩

theorem extends_addDirectory (h : Host) (place : Location) : h.Extends (h.addDirectory place) where
  keeps := by
    intro other e hEntry
    unfold Host.entry? at hEntry ⊢
    split
    · rename_i hRoot
      rwa [if_pos hRoot] at hEntry
    · rename_i hRoot
      rw [if_neg hRoot] at hEntry
      simp [addDirectory, List.lookup_append, hEntry]
  workingDirectory := rfl

theorem extends_keepDatabase (h : Host) (place : Location) (db : Database) :
    h.Extends (h.keepDatabase place db) :=
  ⟨fun _ _ hEntry => hEntry, rfl⟩

theorem addDirectory_makes {place : Location} (hNone : h.entry? place = none) :
    Host.entry? (h.addDirectory place) place = some .directory := by
  unfold Host.entry? at hNone ⊢
  split
  · rfl
  · rename_i hRoot
    rw [if_neg hRoot] at hNone
    simp [addDirectory, List.lookup_append, hNone]

/-! ## Paths -/

/-- A walk that ends somewhere ends there when there is more. -/
theorem Extends.walk (hExtends : h.Extends h') {components : List String}
    {place target : Location} (hWalk : h.walk place components = .ok target) :
    h'.walk place components = .ok target := by
  induction components generalizing place with
  | nil => exact hWalk
  | cons c cs ih =>
    simp only [Host.walk] at hWalk ⊢
    cases hHere : h.entry? place with
    | none => simp [hHere] at hWalk
    | some e =>
      rw [hExtends.keeps place e hHere]
      simp only [hHere] at hWalk
      cases e with
      | file bytes => contradiction
      | directory =>
        simp only at hWalk ⊢
        by_cases hDot : isHere c = true
        · rw [if_pos hDot] at hWalk ⊢
          exact ih hWalk
        · rw [if_neg hDot] at hWalk ⊢
          by_cases hUp : c = ".."
          · rw [if_pos hUp] at hWalk ⊢
            exact ih hWalk
          · rw [if_neg hUp] at hWalk ⊢
            by_cases hLong : 255 < c.utf8ByteSize
            · rw [if_pos hLong] at hWalk
              contradiction
            · rw [if_neg hLong] at hWalk ⊢
              cases hNext : h.entry? (place ++ [c]) with
              | none => simp [hNext] at hWalk
              | some e =>
                rw [hExtends.keeps _ e hNext]
                simp only [hNext] at hWalk
                exact ih hWalk

theorem Extends.find (hExtends : h.Extends h') {path : String} {place : Location}
    (hFind : h.find path = .ok place) : h'.find path = .ok place := by
  unfold Host.find at hFind ⊢
  rw [hExtends.workingDirectory]
  -- The path itself is refused before the host is looked at.
  split at hFind
  · contradiction
  · split at hFind
    · contradiction
    · split at hFind
      · contradiction
      · rename_i hEmpty hNul hLong
        rw [if_neg hEmpty, if_neg hNul, if_neg hLong]
        exact hExtends.walk hFind

theorem isFile_iff {path : String} :
    h.isFile path = true ↔
      ∃ place bytes, h.find path = .ok place ∧ h.entry? place = some (.file bytes) := by
  unfold isFile
  cases h.find path with
  | error why => simp
  | ok place =>
    cases hEntry : h.entry? place with
    | none => simp [hEntry]
    | some e => cases e <;> simp [hEntry]

theorem readText_eq_ok_iff {path text : String} :
    h.readText path = .ok text ↔
      ∃ place bytes, h.find path = .ok place ∧ h.entry? place = some (.file bytes) ∧
        String.fromUTF8? bytes = some text := by
  unfold readText
  cases hFind : h.find path with
  | error why =>
    simp only [reduceCtorEq, false_and, exists_false, iff_false]
    exact nofun
  | ok place =>
    have hBind : ∀ f : Location → Except AccessError String,
        (Except.ok place >>= f) = f place := fun _ => rfl
    rw [hBind]
    cases hEntry : h.entry? place with
    | none => simp [hEntry]
    | some e =>
      cases e with
      | directory => simp [hEntry]
      | file bytes =>
        cases hText : String.fromUTF8? bytes with
        | none => simp [hEntry, hText]
        | some text' => simp [hEntry, hText]

theorem Extends.isFile (hExtends : h.Extends h') {path : String} (hFile : h.isFile path = true) :
    h'.isFile path = true := by
  obtain ⟨place, bytes, hFind, hEntry⟩ := isFile_iff.1 hFile
  exact isFile_iff.2 ⟨place, bytes, hExtends.find hFind, hExtends.keeps place _ hEntry⟩

theorem Extends.readText (hExtends : h.Extends h') {path text : String}
    (hText : h.readText path = .ok text) : h'.readText path = .ok text := by
  obtain ⟨place, bytes, hFind, hEntry, hBytes⟩ := readText_eq_ok_iff.1 hText
  exact readText_eq_ok_iff.2
    ⟨place, bytes, hExtends.find hFind, hExtends.keeps place _ hEntry, hBytes⟩

/-! ## Settings -/

theorem Extends.loadSettings (hExtends : h.Extends h') {path : String} {s : Settings}
    (hLoad : Launch.loadSettings h path = .ok s) : Launch.loadSettings h' path = .ok s := by
  unfold Launch.loadSettings at hLoad ⊢
  cases hText : h.readText path with
  | error why => simp [hText] at hLoad
  | ok text =>
    rw [hExtends.readText hText]
    simpa only [hText] using hLoad

theorem Extends.defaultFile? (hExtends : h.Extends h') {env : Environment} {path : String}
    (hDefault : Launch.defaultFile? h env = some path) :
    Launch.defaultFile? h' env = some path := by
  obtain ⟨hPath, hFile⟩ := Option.filter_eq_some_iff.1 hDefault
  exact Option.filter_eq_some_iff.2 ⟨hPath, hExtends.isFile hFile⟩

/-- **Settings** that turn the seeding off were read from a file, and are read again when there
is more. -/
theorem Extends.settingsFor (hExtends : h.Extends h') {env : Environment} {o : Options}
    {s : Settings} (hSettings : Launch.settingsFor h env o = .ok s) (hSeeded : s.seeded = false) :
    Launch.settingsFor h' env o = .ok s := by
  unfold Launch.settingsFor at hSettings ⊢
  have hLoaded : ∀ path, o.override <$> Launch.loadSettings h path = .ok s →
      o.override <$> Launch.loadSettings h' path = .ok s := by
    intro path hLoad
    cases hFile : Launch.loadSettings h path with
    | error why => simp [hFile] at hLoad
    | ok read => rwa [hExtends.loadSettings hFile, ← hFile]
  cases hGiven : o.settingsFile with
  | some path =>
    simp only [hGiven, Option.some_or] at hSettings ⊢
    exact hLoaded path hSettings
  | none =>
    simp only [hGiven, Option.none_or] at hSettings ⊢
    cases hDefault : Launch.defaultFile? h env with
    | some path =>
      simp only [hDefault] at hSettings
      simp only [hExtends.defaultFile? hDefault]
      exact hLoaded path hSettings
    | none =>
      -- Without a file, the seeding is on.
      simp only [hDefault] at hSettings
      obtain rfl := Except.ok.inj hSettings
      contradiction

/-! ## Databases -/

theorem extends_reach {components : List String} {place target : Location}
    (hReach : h.reach place components = some (h', target)) : h.Extends h' := by
  induction components generalizing h place with
  | nil =>
    obtain ⟨rfl, -⟩ := Prod.mk.inj (Option.some.inj hReach)
    exact .refl h
  | cons c cs ih =>
    simp only [reach] at hReach
    split at hReach
    · exact ih hReach
    · split at hReach
      · exact ih hReach
      · split at hReach
        · contradiction
        · split at hReach
          · exact ih hReach
          · contradiction
          · exact (extends_addDirectory h _).trans (ih hReach)

/-- Once the directories on the way are made, they are only followed. -/
theorem reach_of_extends {components : List String} {place target : Location}
    (hReach : h.reach place components = some (h', target)) (hExtends : h'.Extends h'') :
    h''.reach place components = some (h'', target) := by
  induction components generalizing h place with
  | nil =>
    obtain ⟨-, rfl⟩ := Prod.mk.inj (Option.some.inj hReach)
    rfl
  | cons c cs ih =>
    simp only [reach] at hReach ⊢
    by_cases hDot : isHere c = true
    · rw [if_pos hDot] at hReach ⊢
      exact ih hReach
    · rw [if_neg hDot] at hReach ⊢
      by_cases hUp : c = ".."
      · rw [if_pos hUp] at hReach ⊢
        exact ih hReach
      · rw [if_neg hUp] at hReach ⊢
        by_cases hLong : 255 < c.utf8ByteSize
        · rw [if_pos hLong] at hReach
          contradiction
        · rw [if_neg hLong] at hReach ⊢
          -- The directory was there, or was made on the way.
          cases hEntry : h.entry? (place ++ [c]) with
          | none =>
            simp only [hEntry] at hReach
            have hMade : h''.entry? (place ++ [c]) = some .directory :=
              hExtends.keeps _ _ ((extends_reach hReach).keeps _ _ (addDirectory_makes hEntry))
            simp only [hMade]
            exact ih hReach
          | some e =>
            cases e with
            | file bytes => simp [hEntry] at hReach
            | directory =>
              simp only [hEntry] at hReach
              have hFound : h''.entry? (place ++ [c]) = some .directory :=
                hExtends.keeps _ _ ((extends_reach hReach).keeps _ _ hEntry)
              simp only [hFound]
              exact ih hReach

variable {path : String} {place : Location} {db : Database}

theorem openDatabase_eq_some_iff :
    h.openDatabase path = some (h', place, db) ↔
      ¬ (path = "" ∨ '\x00' ∈ path.toList) ∧
      ¬ pathLimit ≤ (Path.below path largeValues).utf8ByteSize ∧
      h.reach (if Path.isAbsolute path then [] else h.workingDirectory) (components path)
        = some (h', place) ∧
      db = (h'.databases.lookup place).getD {} := by
  unfold openDatabase
  split
  · simp_all
  · split
    · simp_all
    · rename_i hPath hRoom
      simp only [Option.bind_eq_bind, Option.bind_eq_some_iff, Option.some.injEq, Prod.mk.injEq,
        Prod.exists, hPath, hRoom, not_false_eq_true, true_and]
      constructor
      · rintro ⟨h₁, place₁, hReach, rfl, rfl, rfl⟩
        exact ⟨hReach, rfl⟩
      · rintro ⟨hReach, rfl⟩
        exact ⟨h', place, hReach, rfl, rfl, rfl⟩

/-- What opening a database finds is there before, up to directories on the way. -/
theorem extends_openDatabase (hOpen : h.openDatabase path = some (h', place, db)) :
    h.Extends h' :=
  extends_reach (openDatabase_eq_some_iff.1 hOpen).2.2.1

/-- **Databases**: opening a database where one was left opens this one. -/
theorem openDatabase_keepDatabase (hOpen : h.openDatabase path = some (h', place, db))
    (left : Database) :
    (h'.keepDatabase place left).openDatabase path
      = some (h'.keepDatabase place left, place, left) := by
  obtain ⟨hPath, hRoom, hReach, -⟩ := openDatabase_eq_some_iff.1 hOpen
  have hKeep : h'.Extends (h'.keepDatabase place left) := extends_keepDatabase h' place left
  have hStart : (h'.keepDatabase place left).workingDirectory = h.workingDirectory :=
    (extends_reach hReach).workingDirectory
  refine openDatabase_eq_some_iff.2 ⟨hPath, hRoom, ?_, ?_⟩
  · rw [hStart]
    exact reach_of_extends hReach hKeep
  · simp [keepDatabase]

end Host

/-! ## Runs -/

variable {h : Host} {i : Invocation} {o : Options} {s : Settings}

/-- A run whose options and settings are understood goes on with them. -/
theorem run_eq_runWith (hOptions : Request.ofArguments i.arguments = .run o)
    (hSettings : settingsFor h i.environment o = .ok s) : run h i = runWith h i o s := by
  simp only [run, hOptions, hSettings]

end TreeShell.Launch
