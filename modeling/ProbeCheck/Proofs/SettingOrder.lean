import ProbeCheck.Proofs.Lookups
import ProbeCheck.Proofs.OptionNames

namespace ProbeCheck

def Given.argument : Given → Text
  | .text value => value
  | .nothing => ['-', '-']

theorem Given.ofArgument_argument {given : Given} (spellable : given ≠ .text ['-', '-']) :
    Given.ofArgument given.argument = given := by
  cases given with
  | nothing => rfl
  | text value =>
    have other : value ≠ ['-', '-'] := fun equal => spellable (congrArg _ equal)
    exact Given.ofArgument_eq_text other

namespace CommandLine

def ReleaseSource.setting : ReleaseSource → Setting × Given
  | .given release => (.kernelRelease, release)
  | .file name => (.kernelReleaseFile, name)

def Options.settings (options : Options) : List (Setting × Given) :=
  (.arch, options.arch) :: options.release.setting :: (.logFile, options.logFile) ::
    options.runsDir.toList.map fun name => (.runsDir, .text name)

-- No value of these options is the text '--'. Joined to a name, '--' gives nothing.
def Options.Spellable (options : Options) : Prop :=
  ∀ entry ∈ options.settings, entry.2 ≠ .text ['-', '-']

instance : DecidablePred Options.Spellable := fun options =>
  inferInstanceAs (Decidable (∀ entry ∈ options.settings, entry.2 ≠ .text ['-', '-']))

def spelled (entry : Setting × Given) : Text := joined entry.1 entry.2.argument

def Options.arguments (options : Options) : List Text := options.settings.map spelled

def Unrivalled (settings : List Setting) : Prop :=
  ∀ setting ∈ settings, ∀ rival, setting.rival? = some rival → rival ∉ settings

theorem Unrivalled.subset {left right : List Setting} (free : Unrivalled right) (within : left ⊆ right) :
    Unrivalled left :=
  fun setting member rival rivals other => free setting (within member) rival rivals (within other)

theorem value?_eq_none_iff {reading : Reading} {setting : Setting} :
    reading.value? setting = none ↔ setting ∉ reading.given.map Prod.fst := by
  rw [Reading.value?, List.lookup_eq_none_iff]
  constructor
  · intro other member
    obtain ⟨entry, inside, rfl⟩ := List.mem_map.mp member
    simpa using other entry inside
  · intro absent entry inside
    have other : setting ≠ entry.1 := fun equal => absent (equal ▸ List.mem_map_of_mem inside)
    simpa using other

theorem give_unrivalled {reading : Reading} {setting : Setting}
    (free : ∀ rival, setting.rival? = some rival → rival ∉ reading.given.map Prod.fst) (value : Text) :
    reading.give setting value =
      .ok { reading with given := (setting, .ofArgument value) :: reading.given } := by
  have absent : (setting.rival?.filter fun rival => (reading.value? rival).isSome) = none := by
    rw [Option.filter_eq_none_iff]
    intro rival rivals valued
    rw [value?_eq_none_iff.mpr (free rival rivals)] at valued
    cases valued
  unfold Reading.give
  rw [absent]

section
variable {mentions : List Mention}

def Mention.entry (mention : Mention) : Setting × Given := (mention.setting, .ofArgument mention.value)

def lastValue (mentions : List Mention) (setting : Setting) : Option Text :=
  (mentions.reverse.map fun mention => (mention.setting, mention.value)).lookup setting

theorem lookup_entries (mentions : List Mention) (setting : Setting) :
    (mentions.reverse.map Mention.entry).lookup setting =
      (lastValue mentions setting).map Given.ofArgument := by
  rw [lastValue, ← lookup_map_snd, List.map_map]
  rfl

theorem exists_lastValue {mention : Mention} (member : mention ∈ mentions) :
    ∃ value, lastValue mentions mention.setting = some value := by
  cases last : lastValue mentions mention.setting with
  | some value => exact ⟨value, rfl⟩
  | none =>
    rw [lastValue, List.lookup_eq_none_iff] at last
    have other := last (mention.setting, mention.value)
      (List.mem_map_of_mem (List.mem_reverse.mpr member))
    simp at other

theorem mapM_mentions (mentions : List Mention) :
    (mentions.flatMap Mention.arguments).mapM Argument.ofText? =
      .ok (mentions.flatMap Mention.readings) := by
  induction mentions with
  | nil => rfl
  | cons mention rest ih =>
    rw [List.flatMap_cons, List.mapM_append, mention.mapM_arguments, ih]
    rfl

theorem readFrom_mention {reading : Reading} {mention : Mention} (rest : List Argument)
    (free : ∀ rival, mention.setting.rival? = some rival → rival ∉ reading.given.map Prod.fst) :
    readFrom reading (mention.readings ++ rest) =
      readFrom { reading with given := mention.entry :: reading.given } rest := by
  have taken := give_unrivalled free mention.value
  obtain ⟨setting, name, value, apart, named, word⟩ := mention
  cases apart with
  | false => simp only [Mention.readings, Bool.false_eq_true, if_false, List.cons_append, List.nil_append,
      readFrom, taken, Mention.entry]
  | true => simp only [Mention.readings, if_true, List.cons_append, List.nil_append, readFrom, taken,
      Mention.entry]

theorem readFrom_mentions {earlier : List (Setting × Given)}
    (free : Unrivalled (mentions.map Mention.setting ++ earlier.map Prod.fst)) :
    readFrom ⟨earlier, []⟩ (mentions.flatMap Mention.readings) =
      .ok ⟨mentions.reverse.map Mention.entry ++ earlier, []⟩ := by
  induction mentions generalizing earlier with
  | nil => rfl
  | cons mention rest ih =>
    have fresh : ∀ rival, mention.setting.rival? = some rival → rival ∉ earlier.map Prod.fst := by
      intro rival rivals member
      exact free _ List.mem_cons_self rival rivals (List.mem_append_right _ member)
    have later : Unrivalled (rest.map Mention.setting ++ (mention.entry :: earlier).map Prod.fst) :=
      free.subset (by simp [Mention.entry])
    rw [List.flatMap_cons, readFrom_mention _ fresh, ih later]
    simp

theorem mentions_before (mentions : List Mention) :
    ∀ argument ∈ mentions.flatMap Mention.arguments, decide (argument ≠ ['-', '-']) = true := by
  intro argument member
  have related := mapM_ok_iff.mp (mapM_mentions mentions)
  obtain ⟨read, -, accepted⟩ := forall₂_exists_left (List.Forall₂.flip related) member
  exact decide_eq_true fun equal => ofText?_end read (equal ▸ accepted)

end

section
variable {options : Options}

theorem settings_distinct : (options.settings.map Prod.fst).Nodup := by
  obtain ⟨arch, release, logFile, runsDir⟩ := options
  cases release <;> cases runsDir <;> simp [Options.settings, ReleaseSource.setting]

theorem settings_unrivalled : Unrivalled (options.settings.map Prod.fst) := by
  obtain ⟨arch, release, logFile, runsDir⟩ := options
  cases release <;> cases runsDir <;>
    simp [Unrivalled, Options.settings, ReleaseSource.setting, Setting.rival?]

theorem options?_congr {left right : Reading} (same : ∀ setting, left.value? setting = right.value? setting)
    (extras : left.extras = right.extras) : left.options? = right.options? := by
  unfold Reading.options? Reading.releaseSource?
  simp only [same, extras]

theorem options?_settings : Reading.options? ⟨options.settings, []⟩ = .ok options := by
  obtain ⟨arch, release, logFile, runsDir⟩ := options
  cases release <;> cases runsDir <;> rfl

def ComeTo (mentions : List Mention) (options : Options) : Prop :=
  ∀ setting, lastValue mentions setting = (options.settings.lookup setting).map Given.argument

section
variable {mentions : List Mention} (come : ComeTo mentions options)
include come

theorem ComeTo.unrivalled : Unrivalled (mentions.map Mention.setting) := by
  have free : Unrivalled (options.settings.map Prod.fst) := settings_unrivalled
  refine free.subset fun setting member => ?_
  obtain ⟨mention, inside, rfl⟩ := List.mem_map.mp member
  obtain ⟨value, last⟩ := exists_lastValue inside
  rw [come, Option.map_eq_some_iff] at last
  obtain ⟨given, found, -⟩ := last
  rw [lookup_eq_some_iff_mem settings_distinct] at found
  exact List.mem_map_of_mem found

theorem ComeTo.value? (spellable : options.Spellable) (setting : Setting) :
    (mentions.reverse.map Mention.entry).lookup setting = options.settings.lookup setting := by
  rw [lookup_entries, come]
  cases found : options.settings.lookup setting with
  | none => rfl
  | some given =>
    have listed := (lookup_eq_some_iff_mem settings_distinct).mp found
    exact congrArg some (Given.ofArgument_argument (spellable _ listed))

end

theorem parse_mentions (spellable : options.Spellable) {mentions : List Mention}
    (come : ComeTo mentions options) : parse (mentions.flatMap Mention.arguments) = .ok options := by
  have before := mentions_before mentions
  have read : readFrom ⟨[], []⟩ (mentions.flatMap Mention.readings) =
      .ok ⟨mentions.reverse.map Mention.entry, []⟩ := by
    rw [readFrom_mentions (by simpa using come.unrivalled), List.append_nil]
  have values (setting : Setting) : Reading.value? ⟨mentions.reverse.map Mention.entry, []⟩ setting =
      Reading.value? ⟨options.settings, []⟩ setting := come.value? spellable setting
  unfold parse
  rw [List.span_eq_takeWhile_dropWhile, List.takeWhile_eq_self_iff.mpr before,
    List.dropWhile_eq_nil_iff.mpr before]
  simp only [mapM_mentions, read, List.foldl_nil]
  rw [options?_congr values rfl, options?_settings]

def Mention.ofEntry (entry : Setting × Given) : Mention :=
  ⟨entry.1, entry.1.name, entry.2.argument, false, .inl rfl, fun apart => by cases apart⟩

theorem parse_arguments (spellable : options.Spellable) {arguments : List Text}
    (reordered : arguments.Perm options.arguments) : parse arguments = .ok options := by
  have drawn : Relation.Comp (· = List.map spelled ·) List.Perm arguments options.settings := by
    rw [List.eq_map_comp_perm]
    exact reordered
  obtain ⟨given, rfl, same⟩ := drawn
  have mentioned : given.map spelled = (given.map Mention.ofEntry).flatMap Mention.arguments := by
    rw [List.flatMap_map]
    exact (List.flatMap_pure_eq_map spelled given).symm
  rw [mentioned]
  refine parse_mentions spellable fun setting => ?_
  rw [lookup_perm settings_distinct ((List.reverse_perm given).trans same).symm, ← lookup_map_snd,
    lastValue, ← List.map_reverse, List.map_map]
  rfl

end

theorem parse_joined {arch release logFile : Text} (noArch : arch ≠ ['-', '-'])
    (noRelease : release ≠ ['-', '-']) (noLogFile : logFile ≠ ['-', '-']) :
    parse [joined .arch arch, joined .kernelRelease release, joined .logFile logFile] =
      .ok ⟨.text arch, .given (.text release), .text logFile, none⟩ := by
  have spellable : Options.Spellable ⟨.text arch, .given (.text release), .text logFile, none⟩ := by
    simp [Options.Spellable, Options.settings, ReleaseSource.setting, noArch, noRelease, noLogFile]
  exact parse_arguments spellable (.refl _)

end CommandLine
end ProbeCheck
