import ReleaseAnalysis.Proofs.Config.Violations
import ReleaseAnalysis.Surroundings

/-!
# Which file a configuration is loaded from

What is found at a place gives a result on its own (`Entry.Gives`): a configuration, if it is a file
with a text that spells one, and otherwise an error of the file or of its text.

A run takes its configuration from one place, and the result is the one that what is found there
gives, whatever is found elsewhere. With a path the place is that path. Without one it is the local
file if there is anything at its path, and else the file of the user if there is anything at its
place. Whether it can be read, and whether it is a configuration, has no part in this choice. The
built-in configuration is the result whatever the files hold just when there is no path and neither
file (`Config.load_verdict`).
-/

set_option autoImplicit false

namespace ReleaseAnalysis

/-! ## What is found at a place -/

namespace Entry

variable {entry : Entry} {result : Except AnalysisError Config}

/-- Bytes that are no text are not decoded. -/
theorem decode_of_invalid {content : ByteArray} (invalid : ¬ content.IsValidUTF8) :
    decode content = .error .notText := by
  rw [decode, String.fromUTF8?, dif_neg invalid]

/-- What is found at a place gives a configuration or an error. -/
inductive Gives : Entry → Except AnalysisError Config → Prop
  | missing (fault : FileFault) : Gives (.missing fault) (.error (.file fault))
  | directory : Gives .directory (.error (.file .isDirectory))
  | unreadable (fault : FileFault) : Gives (.unreadable fault) (.error (.file fault))
  | notText {content : ByteArray} (invalid : ¬ content.IsValidUTF8) :
    Gives (.file content) (.error (.file .notText))
  | malformed {text : String} {fault : DocumentFault}
    (refused : Config.ofText text = .error fault) :
    Gives (.file text.toUTF8) (.error (.toml fault))
  | config {text : String} {config : Config} (spelled : Config.ofText text = .ok config) :
    Gives (.file text.toUTF8) (.ok config)

/-- A file gives what its text spells. -/
theorem ofEntry_file (text : String) :
    Config.ofEntry (.file text.toUTF8) = (Config.ofText text).mapError AnalysisError.toml := by
  rw [Config.ofEntry, read, decode_toUTF8]
  rfl

/-- **Whatever is found gives one result.** -/
theorem ofEntry_eq_iff : Config.ofEntry entry = result ↔ entry.Gives result := by
  constructor
  · rintro rfl
    cases entry with
    | missing fault => exact .missing fault
    | directory => exact .directory
    | unreadable fault => exact .unreadable fault
    | file content =>
      by_cases valid : content.IsValidUTF8
      · obtain ⟨text, rfl⟩ : ∃ text : String, content = text.toUTF8 := ⟨⟨content, valid⟩, rfl⟩
        rw [ofEntry_file]
        cases spelled : Config.ofText text with
        | ok config => exact .config spelled
        | error fault => exact .malformed spelled
      · rw [Config.ofEntry, read, decode_of_invalid valid]
        exact .notText valid
  · intro gives
    cases gives with
    | missing fault => rfl
    | directory => rfl
    | unreadable fault => rfl
    | notText invalid =>
      rw [Config.ofEntry, read, decode_of_invalid invalid]
      rfl
    | malformed refused =>
      rw [ofEntry_file, refused]
      rfl
    | config spelled =>
      rw [ofEntry_file, spelled]
      rfl

/-- A directory in place of whatever is found. -/
def emptied : Entry → Entry
  | .missing fault => .missing fault
  | _ => .directory

theorem isPresent_emptied (entry : Entry) : entry.emptied.isPresent = entry.isPresent := by
  cases entry with
  | file content => rfl
  | directory => rfl
  | unreadable fault => rfl
  | missing fault => rfl

/-- A directory gives no configuration, and nothing does neither. -/
theorem ofEntry_emptied_ne_ok (entry : Entry) (config : Config) :
    Config.ofEntry entry.emptied ≠ .ok config := by
  cases entry with
  | file content => exact nofun
  | directory => exact nofun
  | unreadable fault => exact nofun
  | missing fault => exact nofun

end Entry

/-! ## The choice of a place -/

namespace Surroundings

/-- There is something at the path of the local configuration file. -/
def HasLocal (surroundings : Surroundings) : Prop :=
  (surroundings.entry Config.localPath).isPresent = true

/-- There is something at the place of the user's configuration file. -/
def HasUser (surroundings : Surroundings) : Prop := surroundings.userConfig.isPresent = true

/-- Something is found at the same places in both surroundings, whatever it is. -/
structure SamePlaces (surroundings other : Surroundings) : Prop where
  entry : ∀ path, (surroundings.entry path).isPresent = (other.entry path).isPresent
  userConfig : surroundings.userConfig.isPresent = other.userConfig.isPresent

variable {surroundings other : Surroundings}

theorem SamePlaces.hasLocal_iff (same : surroundings.SamePlaces other) :
    surroundings.HasLocal ↔ other.HasLocal := by
  rw [HasLocal, HasLocal, same.entry]

theorem SamePlaces.hasUser_iff (same : surroundings.SamePlaces other) :
    surroundings.HasUser ↔ other.HasUser := by
  rw [HasUser, HasUser, same.userConfig]

/-- The surroundings with a directory in place of whatever is found. -/
def emptied (surroundings : Surroundings) : Surroundings where
  entry path := (surroundings.entry path).emptied
  userConfig := surroundings.userConfig.emptied
  input := surroundings.input

theorem samePlaces_emptied (surroundings : Surroundings) :
    surroundings.emptied.SamePlaces surroundings :=
  ⟨fun _ => Entry.isPresent_emptied _, Entry.isPresent_emptied _⟩

end Surroundings

namespace Config

variable {surroundings other : Surroundings} {config : Config} {path : Option String}

theorem load_of_local (present : surroundings.HasLocal) :
    load surroundings none = ofEntry (surroundings.entry localPath) :=
  if_pos present

theorem load_of_user (absent : ¬ surroundings.HasLocal) (present : surroundings.HasUser) :
    load surroundings none = ofEntry surroundings.userConfig :=
  (if_neg absent).trans (if_pos present)

theorem load_of_absent (noLocal : ¬ surroundings.HasLocal) (noUser : ¬ surroundings.HasUser) :
    load surroundings none = .ok default :=
  (if_neg noLocal).trans (if_neg noUser)

/-- **The built-in configuration is the result whatever the files hold when there is no path and
neither of the two files.** -/
theorem forall_load_eq_default_iff :
    (∀ other : Surroundings, other.SamePlaces surroundings → load other path = .ok default) ↔
      path = none ∧ ¬ surroundings.HasLocal ∧ ¬ surroundings.HasUser := by
  constructor
  · intro unread
    -- With directories in place of the files, a file that is read is an error.
    have same := surroundings.samePlaces_emptied
    have loaded := unread surroundings.emptied same
    cases path with
    | some path => exact absurd loaded (Entry.ofEntry_emptied_ne_ok _ _)
    | none =>
      have noLocal : ¬ surroundings.HasLocal := by
        intro present
        rw [load_of_local (same.hasLocal_iff.mpr present)] at loaded
        exact Entry.ofEntry_emptied_ne_ok _ _ loaded
      refine ⟨rfl, noLocal, ?_⟩
      intro present
      rw [load_of_user (mt same.hasLocal_iff.mp noLocal) (same.hasUser_iff.mpr present)] at loaded
      exact Entry.ofEntry_emptied_ne_ok _ _ loaded
  · rintro ⟨rfl, noLocal, noUser⟩ other same
    exact load_of_absent (mt same.hasLocal_iff.mp noLocal) (mt same.hasUser_iff.mp noUser)

/-- A configuration that is loaded is normal. -/
theorem normal_of_load (loaded : load surroundings path = .ok config) : config.Normal := by
  have normal : ∀ {entry : Entry}, ofEntry entry = .ok config → config.Normal := by
    intro entry given
    cases Entry.ofEntry_eq_iff.mp given with
    | config spelled => exact normal_of_ofText spelled
  cases path with
  | some path => exact normal loaded
  | none =>
    by_cases present : surroundings.HasLocal
    · exact normal ((load_of_local present).symm.trans loaded)
    · by_cases user : surroundings.HasUser
      · exact normal ((load_of_user present user).symm.trans loaded)
      · cases (load_of_absent present user).symm.trans loaded
        exact nofun

/-- **One place decides.** With a path the result is what is found at the path gives, and it is the
same in all surroundings that agree there. Without a path the same holds of the local file if there
is something at its path, and else of the user's file if there is something at its place. The
built-in configuration is the result independently of what any file holds exactly when no path is
given and neither file is there. -/
theorem load_verdict (surroundings : Surroundings) :
    (∀ path : String,
        (∀ result, load surroundings (some path) = result ↔
          (surroundings.entry path).Gives result) ∧
        ∀ other : Surroundings, other.entry path = surroundings.entry path →
          load other (some path) = load surroundings (some path)) ∧
      (surroundings.HasLocal →
        (∀ result, load surroundings none = result ↔
          (surroundings.entry localPath).Gives result) ∧
        ∀ other : Surroundings, other.entry localPath = surroundings.entry localPath →
          load other none = load surroundings none) ∧
      (¬ surroundings.HasLocal → surroundings.HasUser →
        (∀ result, load surroundings none = result ↔ surroundings.userConfig.Gives result) ∧
        ∀ other : Surroundings, ¬ other.HasLocal → other.userConfig = surroundings.userConfig →
          load other none = load surroundings none) ∧
      ∀ path, (∀ other : Surroundings, other.SamePlaces surroundings →
          load other path = .ok default) ↔
        path = none ∧ ¬ surroundings.HasLocal ∧ ¬ surroundings.HasUser := by
  refine ⟨fun path => ⟨fun _ => Entry.ofEntry_eq_iff, ?_⟩, ?_, ?_,
    fun path => forall_load_eq_default_iff⟩
  · intro other same
    rw [load, load, same]
  · intro present
    refine ⟨fun result => ?_, fun other same => ?_⟩
    · rw [load_of_local present, Entry.ofEntry_eq_iff]
    · have found : other.HasLocal := by rwa [Surroundings.HasLocal, same]
      rw [load_of_local present, load_of_local found, same]
  · intro absent present
    refine ⟨fun result => ?_, fun other missing same => ?_⟩
    · rw [load_of_user absent present, Entry.ofEntry_eq_iff]
    · have found : other.HasUser := by rwa [Surroundings.HasUser, same]
      rw [load_of_user absent present, load_of_user missing found, same]

/-- Nothing but what stands at the two places that are looked at without a path. -/
def bothPlaces (localEntry userEntry : Entry) : Surroundings where
  entry path := if path = localPath then localEntry else .missing .notFound
  userConfig := userEntry
  input := ByteArray.empty

/-- A file with a configuration. -/
def minorOnly : Entry := .file "release_types = ['minor']".toUTF8

/-- The refusal of a file that may not be read. -/
def denied : FileFault := .refused 13 "Permission denied"

/-- A directory at the local path is an error, whatever the user has, and so is a file that may not
be read; without anything there the user's file decides; and a path that leads nowhere or to a file
that may not be read is an error although the user has a file. -/
theorem load_verdict_bothPlaces :
    (∀ userEntry, load (bothPlaces .directory userEntry) none = .error (.file .isDirectory)) ∧
      (∀ userEntry, load (bothPlaces (.unreadable denied) userEntry) none =
        .error (.file denied)) ∧
      (∃ config, load (bothPlaces (.missing .notFound) minorOnly) none = .ok config ∧
        config.releaseTypes = ["minor"]) ∧
      load (bothPlaces .directory minorOnly) (some "missing.toml") = .error (.file .notFound) ∧
      load (bothPlaces (.unreadable denied) minorOnly) (some localPath) =
        .error (.file denied) := by
  refine ⟨fun userEntry => ?_, fun userEntry => ?_, ?_, ?_, ?_⟩
  · have blocked : (bothPlaces .directory userEntry).HasLocal := rfl
    exact (((load_verdict _).2.1 blocked).1 _).mpr .directory
  · have blocked : (bothPlaces (.unreadable denied) userEntry).HasLocal := rfl
    exact (((load_verdict _).2.1 blocked).1 _).mpr (.unreadable denied)
  · have absent : ¬ (bothPlaces (.missing .notFound) minorOnly).HasLocal := Bool.false_ne_true
    have present : (bothPlaces (.missing .notFound) minorOnly).HasUser := rfl
    have known : (ofText "release_types = ['minor']").map releaseTypes = .ok ["minor"] := by
      decide +kernel
    obtain ⟨config, spelled, types⟩ := map_eq_ok_iff.mp known
    exact ⟨config, (((load_verdict _).2.2.1 absent present).1 _).mpr (.config spelled), types⟩
  · exact (((load_verdict _).1 "missing.toml").1 _).mpr (.missing .notFound)
  · exact (((load_verdict _).1 localPath).1 _).mpr (.unreadable denied)

end Config
end ReleaseAnalysis
