import Metatype.Settings.Loading

/-!
# Where settings files are

The user's own file is below the directory that a variable names, or below the home, which a
variable names or the system knows. A path means the file that is there, or one with the extension
of a format added.

* `Settings.userPath?_eq_some_iff`, `Settings.userPath?_eq_none_iff`: the path of the user's own
  file, and that there is none without a home.
* `Settings.resolve?_eq_some_iff`: the file that a path means.
-/

namespace Metatype.Settings

/-! ## The user's own file -/

/-- The home of the user: the one that the variable names, or the one that the system knows if the
variable is not set or empty. -/
inductive IsHome (environment : Environment) (host : Host) (home : String) : Prop
  | named (h : environment.lookup "HOME" = some home) (hhome : home ≠ "")
  | known (h : environment.lookup "HOME" = none ∨ environment.lookup "HOME" = some "")
      (hhost : host.home = some home) (hhome : home ≠ "")

/-- The path of the user's own file: below the directory that a variable names, if that is an
absolute path, or else below the home. -/
inductive UserPath (environment : Environment) (host : Host) : String → Prop
  | named {home directory : String} (hhome : IsHome environment host home)
      (h : environment.lookup "XDG_CONFIG_HOME" = some directory)
      (habsolute : Path.isAbsolute directory = true) :
      UserPath environment host (Path.child (Path.child directory "metatype") "metatype.toml")
  | usual {home : String} (hhome : IsHome environment host home)
      (h : ∀ directory, environment.lookup "XDG_CONFIG_HOME" = some directory →
        Path.isAbsolute directory = false) :
      UserPath environment host
        (Path.child (Path.child (Path.child home ".config") "metatype") "metatype.toml")

section

variable {environment : Environment} {host : Host} {home path : String}

theorem home?_eq_some_iff : home? environment host = some home ↔ IsHome environment host home := by
  unfold home?
  rw [Option.or_eq_some_iff, Option.filter_eq_some_iff, Option.filter_eq_some_iff,
    decide_eq_true_eq]
  constructor
  · rintro (⟨h, hhome⟩ | ⟨h, hhost, hhome⟩)
    · exact .named h hhome
    · refine .known ?_ hhost hhome
      cases hvariable : environment.lookup "HOME" with
      | none => exact .inl rfl
      | some text =>
        have hempty := Option.filter_eq_none_iff.1 h text hvariable
        rw [decide_eq_true_eq, Decidable.not_not] at hempty
        exact .inr (congrArg some hempty)
  · rintro (⟨h, hhome⟩ | ⟨h, hhost, hhome⟩)
    · exact .inl ⟨h, hhome⟩
    · refine .inr ⟨?_, hhost, hhome⟩
      rcases h with h | h
      · rw [h]
        rfl
      · rw [h]
        rfl

/-- With a variable for the directory of settings the user's own file is below that directory. -/
theorem userPath?_of_named (hhome : IsHome environment host home) {directory : String}
    (h : environment.lookup "XDG_CONFIG_HOME" = some directory)
    (habsolute : Path.isAbsolute directory = true) :
    userPath? environment host =
      some (Path.child (Path.child directory "metatype") "metatype.toml") := by
  rw [userPath?, home?_eq_some_iff.2 hhome, Option.map_some, userDirectory, h,
    Option.filter_some_pos habsolute, Option.getD_some]

/-- Without one it is below the home. -/
theorem userPath?_of_usual (hhome : IsHome environment host home)
    (h : ∀ directory, environment.lookup "XDG_CONFIG_HOME" = some directory →
      Path.isAbsolute directory = false) :
    userPath? environment host =
      some (Path.child (Path.child (Path.child home ".config") "metatype") "metatype.toml") := by
  have hnone : (environment.lookup "XDG_CONFIG_HOME").filter Path.isAbsolute = none :=
    Option.filter_eq_none_iff.2 fun directory hdirectory =>
      Bool.eq_false_iff.1 (h directory hdirectory)
  rw [userPath?, home?_eq_some_iff.2 hhome, Option.map_some, userDirectory, hnone, Option.getD_none]

theorem userPath?_eq_some_iff :
    userPath? environment host = some path ↔ UserPath environment host path := by
  constructor
  · intro h
    obtain ⟨home, hhome, -⟩ := Option.map_eq_some_iff.1 h
    rw [home?_eq_some_iff] at hhome
    cases hdirectory : (environment.lookup "XDG_CONFIG_HOME").filter Path.isAbsolute with
    | none =>
      have husual := fun directory hd =>
        Bool.eq_false_iff.2 (Option.filter_eq_none_iff.1 hdirectory directory hd)
      obtain rfl := Option.some.inj ((userPath?_of_usual hhome husual).symm.trans h)
      exact .usual hhome husual
    | some directory =>
      obtain ⟨hd, habsolute⟩ := Option.filter_eq_some_iff.1 hdirectory
      obtain rfl := Option.some.inj ((userPath?_of_named hhome hd habsolute).symm.trans h)
      exact .named hhome hd habsolute
  · rintro (⟨hhome, h, habsolute⟩ | ⟨hhome, h⟩)
    · exact userPath?_of_named hhome h habsolute
    · exact userPath?_of_usual hhome h

/-- Without a home there is no file of the user's own, whatever other variables say. -/
theorem userPath?_eq_none_iff :
    userPath? environment host = none ↔ ∀ home, ¬IsHome environment host home := by
  rw [userPath?, Option.map_eq_none_iff, Option.eq_none_iff_forall_ne_some]
  exact forall_congr' fun home => not_congr home?_eq_some_iff

end

/-! ## The file that a path means -/

/-- The file that a path means, with its format: the one at the path, whose extension must be one of
the format, or the one with an extension of the format added, if it is the first of those that are
tried. -/
inductive Means (files : FileAccess Id) (formats : Formats) (path : String) :
    String → FileFormat → Prop
  | exact {ending : String} {format : FileFormat} (hfile : files.isFile path = true)
      (hpath : Path.extension? path = some ending) (hending : ending ∈ format.extensions) :
      Means files formats path path format
  | extended {ending found : String} {format : FileFormat}
      {before after : List (String × FileFormat)} (hfile : files.isFile path = false)
      (hpath : Path.withExtension? path ending = some found) (hending : ending ∈ format.extensions)
      (hfound : files.isFile found = true)
      (hcandidates : formats.candidates path = before ++ (found, format) :: after)
      (hbefore : ∀ candidate ∈ before, files.isFile candidate.1 = false) :
      Means files formats path found format

section

variable {files : FileAccess Id} {formats : Formats} {path found : String} {format : FileFormat}

theorem firstFile?_eq (files : FileAccess Id) (candidates : List (String × FileFormat)) :
    firstFile? files candidates =
      candidates.find? fun candidate => (files.isFile candidate.1 : Bool) := by
  induction candidates with
  | nil => rfl
  | cons candidate rest ih =>
    unfold firstFile?
    dsimp only [bind, pure]
    rw [List.find?_cons, ih]
    cases (files.isFile candidate.1 : Bool) <;> rfl

theorem resolve?_eq_some_iff :
    resolve? files formats path = some (found, format) ↔ Means files formats path found format := by
  unfold resolve?
  dsimp only [bind, pure]
  rw [firstFile?_eq]
  constructor
  · intro h
    split at h
    · rename_i hfile
      obtain ⟨_, hformat, hpair⟩ := Option.map_eq_some_iff.1 h
      obtain ⟨ending, hpath, hending⟩ := Option.bind_eq_some_iff.1 hformat
      cases hpair
      exact .exact hfile hpath (FileFormat.ofExtension?_eq_some_iff.1 hending)
    · rename_i hfile
      obtain ⟨ending, hending, hpath⟩ := Formats.mem_candidates.1 (List.mem_of_find?_eq_some h)
      obtain ⟨hfound, before, after, hcandidates, hbefore⟩ := List.find?_eq_some_iff_append.1 h
      exact .extended (Bool.eq_false_iff.2 hfile) hpath hending hfound hcandidates
        fun candidate hc => by simpa using hbefore candidate hc
  · rintro (⟨hfile, hpath, hending⟩ | ⟨hfile, -, -, hfound, hcandidates, hbefore⟩)
    · rw [if_pos hfile, hpath, Option.bind_some, FileFormat.ofExtension?_eq_some_iff.2 hending]
      rfl
    · rw [if_neg (Bool.eq_false_iff.1 hfile), hcandidates]
      exact List.find?_eq_some_iff_append.2
        ⟨hfound, _, _, rfl, fun candidate hc => by simpa using hbefore candidate hc⟩

end

end Metatype.Settings
