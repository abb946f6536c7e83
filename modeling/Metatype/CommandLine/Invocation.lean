/-!
# Invocations

The arguments of a command line, read into what is asked for. Options have long names (`--types`),
some also letters (`-t`). A value follows as the next argument, after `=`, or right after the
letter. No option may be given twice, and nothing but options may be given. Whoever asks for help
gets it, whatever comes after or is missing.

* `givenOptions?`: the options of a list of arguments, with their values.
* `Invocation.ofArguments?`: what is asked for.
* `Invocation.helpText`: the help.
* `Invocation.ofArguments?_of_asksForHelp`, `Invocation.exists_asksForHelp`: help is given to the
  argument that asks for it, and to no other.
-/

namespace Metatype

/-- What a command line may ask to extract. -/
structure Invocation where
  /-- The file or directory with the types. -/
  types : String
  /-- The name of the root type. -/
  root : String
  nested : Bool := false
  minVersion : Option String := none
  /-- The file with the settings. -/
  config : Option String := none
  /-- The file to write. -/
  output : Option String := none
  compact : Bool := false
  deriving DecidableEq, Repr

/-- What a command line may ask for. -/
inductive Request
  | help
  | extraction (i : Invocation)
  deriving DecidableEq, Repr

/-- The options of a command line. -/
inductive CommandOption
  | types
  | root
  | nested
  | minVersion
  | config
  | output
  | compact
  | help
  deriving DecidableEq, Repr

namespace CommandOption

/-- All options. -/
def all : List CommandOption :=
  [.types, .root, .nested, .minVersion, .config, .output, .compact, .help]

/-- The long name of an option. -/
def name : CommandOption → String
  | .types => "types"
  | .root => "root"
  | .nested => "nested"
  | .minVersion => "min-version"
  | .config => "config"
  | .output => "output"
  | .compact => "compact"
  | .help => "help"

/-- The letter of an option. -/
def letter? : CommandOption → Option Char
  | .types => some 't'
  | .root => some 'r'
  | .config => some 'c'
  | .output => some 'o'
  | .help => some 'h'
  | _ => none

/-- What stands for the value of an option in the help. Options without it have no value. -/
def placeholder? : CommandOption → Option String
  | .types => some "TYPES"
  | .root => some "ROOT"
  | .minVersion => some "MIN_VERSION"
  | .config => some "CONFIG"
  | .output => some "OUTPUT"
  | _ => none

/-- What an option is for. -/
def purpose : CommandOption → String
  | .types => "Descriptor file or directory of *.json descriptors"
  | .root => "Fully qualified name of the root type"
  | .nested => "Accept interface-typed members"
  | .minVersion => "Lowest version the output declares (1.2, 1.3, 1.4)"
  | .config => "Config file"
  | .output => "Output file (JSON), stdout when absent"
  | .compact => "Compact JSON"
  | .help => "Print help"

/-- Whether an option must be given. -/
def isRequired : CommandOption → Bool
  | .types => true
  | .root => true
  | _ => false

/-- Whether an option has a value. -/
def hasValue (o : CommandOption) : Bool := o.placeholder?.isSome

/-- The option of a long name. -/
def ofName? (s : String) : Option CommandOption := all.find? (·.name = s)

/-- The option of a letter. -/
def ofLetter? (c : Char) : Option CommandOption := all.find? (·.letter? = some c)

theorem name_of_ofName? {s : String} {o : CommandOption} (h : ofName? s = some o) : o.name = s :=
  of_decide_eq_true (List.find?_some (p := fun o : CommandOption => o.name = s) h)

theorem letter?_of_ofLetter? {c : Char} {o : CommandOption} (h : ofLetter? c = some o) :
    o.letter? = some c :=
  of_decide_eq_true (List.find?_some (p := fun o : CommandOption => o.letter? = some c) h)

end CommandOption

namespace Invocation

/-! ## Options -/

/-- An argument that names an option, with the value it brings along. What follows the letter of an
option without a value does not count: the only such letter asks for help. -/
def optionOf? (argument : String) : Option (CommandOption × Option String) :=
  match argument.toList with
  | '-' :: '-' :: rest =>
    (CommandOption.ofName? (String.ofList (rest.takeWhile (· ≠ '=')))).map fun o =>
      match rest.dropWhile (· ≠ '=') with
      | _ :: value => (o, some (String.ofList value))
      | [] => (o, none)
  | '-' :: letter :: rest =>
    (CommandOption.ofLetter? letter).map fun o =>
      if o.hasValue then
        match rest with
        | [] => (o, none)
        | '=' :: value => (o, some (String.ofList value))
        | value => (o, some (String.ofList value))
      else (o, none)
  | _ => none

/-- Whether an argument may be the value of the option before it. -/
def isValue (argument : String) : Bool :=
  argument = "-" || argument.toList.head? ≠ some '-'

/-- The options that arguments give, with their values. Nothing after one that asks for help is
read. -/
def givenOptions? : List String → Option (List (CommandOption × String))
  | [] => some []
  | ["--"] => some []
  | argument :: rest =>
    match optionOf? argument with
    | none => none
    | some (o, some value) =>
      if o.hasValue then (givenOptions? rest).map ((o, value) :: ·) else none
    | some (o, none) =>
      if o.hasValue then
        match rest with
        | [] => none
        | value :: rest =>
          if isValue value then (givenOptions? rest).map ((o, value) :: ·) else none
      else if o = .help then some [(o, "")]
      else (givenOptions? rest).map ((o, "") :: ·)

/-! ## Requests -/

/-- The invocation that options amount to, if all are there that must be given. -/
def ofOptions? (given : List (CommandOption × String)) : Option Invocation := do
  let types ← given.lookup .types
  let root ← given.lookup .root
  return {
    types, root
    nested := (given.lookup .nested).isSome
    minVersion := given.lookup .minVersion
    config := given.lookup .config
    output := given.lookup .output
    compact := (given.lookup .compact).isSome }

/-- What options ask for. Paths of files to read types from and to write are not empty. -/
def requestOf? (given : List (CommandOption × String)) : Option Request :=
  if given.lookup .types = some "" ∨ given.lookup .output = some "" then none
  else if (given.map (·.1)).Nodup then
    if (given.lookup .help).isSome then some .help else (ofOptions? given).map .extraction
  else none

/-- What arguments ask for. -/
def ofArguments? (arguments : List String) : Option Request :=
  (givenOptions? arguments).bind requestOf?

/-! ## Who asks for help -/

/-- An argument that asks for help: the long name, or the letter with anything after it. -/
def AsksForHelp (argument : String) : Prop :=
  argument = "--help" ∨ ['-', 'h'] <+: argument.toList

instance (argument : String) : Decidable (AsksForHelp argument) :=
  inferInstanceAs (Decidable (argument = "--help" ∨ ['-', 'h'] <+: argument.toList))

theorem asksForHelp_of_optionOf? {argument : String} (h : optionOf? argument = some (.help, none)) :
    AsksForHelp argument := by
  unfold optionOf? at h
  split at h
  · rename_i rest hargument
    obtain ⟨o, ho, hvalue⟩ := Option.map_eq_some_iff.1 h
    split at hvalue
    · cases hvalue
    · rename_i hdrop
      cases hvalue
      have htake : rest.takeWhile (· ≠ '=') = rest := by
        have hwhole := List.takeWhile_append_dropWhile (p := (· ≠ '=')) (l := rest)
        rwa [hdrop, List.append_nil] at hwhole
      have hname := CommandOption.name_of_ofName? ho
      rw [htake] at hname
      have hrest : rest = "help".toList := by
        rw [← String.toList_ofList (l := rest), ← hname]
        rfl
      exact .inl (String.toList_inj.1 (by rw [hargument, hrest]; rfl))
  · rename_i letter rest _ hargument
    obtain ⟨o, ho, hvalue⟩ := Option.map_eq_some_iff.1 h
    have hhelp : o = .help := by
      split at hvalue
      · split at hvalue <;> cases hvalue
        rfl
      · cases hvalue
        rfl
    have hletter := CommandOption.letter?_of_ofLetter? ho
    rw [hhelp] at hletter
    cases hletter
    exact .inr ⟨rest, hargument.symm⟩
  · cases h

theorem optionOf?_of_asksForHelp {argument : String} (h : AsksForHelp argument) :
    optionOf? argument = some (.help, none) := by
  rcases h with rfl | ⟨rest, hrest⟩
  · decide
  · rw [optionOf?, ← hrest]
    rfl

/-- The first argument that asks for help gets it, whatever comes after. -/
theorem ofArguments?_of_asksForHelp {argument : String} (h : AsksForHelp argument)
    (rest : List String) : ofArguments? (argument :: rest) = some .help := by
  have hne : argument ≠ "--" := by
    rintro rfl
    revert h
    decide
  have hgiven : givenOptions? (argument :: rest) = some [(.help, "")] := by
    rw [givenOptions?, optionOf?_of_asksForHelp h]
    · rfl
    · exact fun heq _ => hne heq
  rw [ofArguments?, hgiven]
  rfl

theorem ne_help_of_hasValue {o : CommandOption} (h : o.hasValue = true) : o ≠ .help := by
  rintro rfl
  cases h

/-- Help that is not the first of some options is among the others. -/
theorem exists_of_map_cons {o : CommandOption} {value : String}
    {others : Option (List (CommandOption × String))} {given : List (CommandOption × String)}
    (h : others.map ((o, value) :: ·) = some given) (ho : o ≠ .help)
    (hhelp : .help ∈ given.map (·.1)) : ∃ rest, others = some rest ∧ .help ∈ rest.map (·.1) := by
  obtain ⟨rest, hrest, rfl⟩ := Option.map_eq_some_iff.1 h
  rw [List.map_cons, List.mem_cons] at hhelp
  exact ⟨rest, hrest, hhelp.resolve_left fun heq => ho heq.symm⟩

/-- Help is among the options of arguments only if an argument asks for it. -/
theorem exists_asksForHelp_of_givenOptions? {arguments : List String}
    {given : List (CommandOption × String)} (h : givenOptions? arguments = some given)
    (hhelp : .help ∈ given.map (·.1)) : ∃ argument ∈ arguments, AsksForHelp argument := by
  fun_induction givenOptions? arguments generalizing given with
  | case1 | case2 =>
    cases h
    cases hhelp
  | case3 | case5 | case6 | case8 => cases h
  | case4 argument rest _ o value _ hvalue ih =>
    obtain ⟨_, hrest, hmem⟩ := exists_of_map_cons h (ne_help_of_hasValue hvalue) hhelp
    obtain ⟨asking, hasking, hasks⟩ := ih hrest hmem
    exact ⟨asking, List.mem_cons_of_mem _ hasking, hasks⟩
  | case7 argument o _ hvalue value rest _ _ ih =>
    obtain ⟨_, hrest, hmem⟩ := exists_of_map_cons h (ne_help_of_hasValue hvalue) hhelp
    obtain ⟨asking, hasking, hasks⟩ := ih hrest hmem
    exact ⟨asking, List.mem_cons_of_mem _ (List.mem_cons_of_mem _ hasking), hasks⟩
  | case9 argument rest _ hoption _ =>
    exact ⟨argument, List.mem_cons_self, asksForHelp_of_optionOf? hoption⟩
  | case10 argument rest _ o _ _ hne ih =>
    obtain ⟨_, hrest, hmem⟩ := exists_of_map_cons h hne hhelp
    obtain ⟨asking, hasking, hasks⟩ := ih hrest hmem
    exact ⟨asking, List.mem_cons_of_mem _ hasking, hasks⟩

/-- Help is given only if an argument asks for it. -/
theorem exists_asksForHelp {arguments : List String} (h : ofArguments? arguments = some .help) :
    ∃ argument ∈ arguments, AsksForHelp argument := by
  obtain ⟨given, hgiven, hrequest⟩ := Option.bind_eq_some_iff.1 h
  have hhelp : (given.lookup .help).isSome = true := by
    unfold requestOf? at hrequest
    split at hrequest
    · cases hrequest
    · split at hrequest
      · split at hrequest
        · assumption
        · obtain ⟨i, -, hi⟩ := Option.map_eq_some_iff.1 hrequest
          cases hi
      · cases hrequest
  obtain ⟨entry, hentry, hkey⟩ := List.lookup_isSome_iff.1 hhelp
  refine exists_asksForHelp_of_givenOptions? hgiven (List.mem_map.2 ⟨entry, hentry, ?_⟩)
  exact (beq_iff_eq.1 hkey).symm

/-! ## Help -/

/-- The option in the help, its name with what stands for its value. -/
def nameText (o : CommandOption) : String :=
  "--" ++ o.name ++ (o.placeholder?.map fun s => " <" ++ s ++ ">").getD ""

/-- The option in the help, with its letter or a gap in the place of one. -/
def optionText (o : CommandOption) : String :=
  (o.letter?.map fun c => "-" ++ c.toString ++ ", ").getD "    " ++ nameText o

/-- The lines of the help for the options, the purposes one below another. -/
def optionLines : List String :=
  let width := ((CommandOption.all.map fun o => (optionText o).length).max?).getD 0
  CommandOption.all.map fun o =>
    "  " ++ String.ofList ((optionText o).toList.rightpad width ' ') ++ "  " ++ o.purpose ++ "\n"

/-- What the program does. -/
def about : String := "Extract a metatype object class definition from type descriptors"

/-- How to call the program, with the options that must be given. -/
def synopsis : String :=
  "Usage: metatype-extract [OPTIONS] " ++
    " ".intercalate ((CommandOption.all.filter (·.isRequired)).map nameText)

/-- The help. -/
def helpText : String :=
  about ++ ("\n\n" ++ synopsis ++ "\n\nOptions:\n" ++ String.join optionLines)

/-- How to call the program. -/
def usage : String :=
  "usage: metatype-extract --types PATH --root NAME [--nested] [--min-version VERSION] " ++
    "[--config FILE] [--output FILE] [--compact]\n"

end Invocation

end Metatype
