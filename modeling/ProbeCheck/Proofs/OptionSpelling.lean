import ProbeCheck.Proofs.GateSteps
import ProbeCheck.Proofs.SettingOrder

namespace ProbeCheck
namespace CommandLine

def considered (arguments : List Text) : List Text := arguments.takeWhile (· ≠ ['-', '-'])

def Gives (arguments : List Text) (setting : Setting) : Prop :=
  ∃ mention : Mention, mention.setting = setting ∧ mention.arguments <:+: considered arguments

def AsksHelp (argument : Text) : Prop := ['-', 'h'] <+: argument ∨ Names argument .help

structure Complete (arguments : List Text) : Prop where
  arch : Gives arguments .arch
  logFile : Gives arguments .logFile
  oneRelease : Xor (Gives arguments .kernelRelease) (Gives arguments .kernelReleaseFile)

section
variable {setting : Setting}

def Supplied (readings : List Argument) (setting : Setting) : Prop :=
  ∃ value, [.named (.valued setting) (some value)] <:+: readings ∨
    [.named (.valued setting) none, .word value] <:+: readings

theorem supplied_word (text : Text) (rest : List Argument) :
    Supplied (.word text :: rest) setting ↔ Supplied rest setting := by
  simp [Supplied, List.infix_cons_iff, List.cons_prefix_cons]

theorem supplied_unknown (text : Text) (rest : List Argument) :
    Supplied (.unknown text :: rest) setting ↔ Supplied rest setting := by
  simp [Supplied, List.infix_cons_iff, List.cons_prefix_cons]

theorem supplied_joined (other : Setting) (value : Text) (rest : List Argument) :
    Supplied (.named (.valued other) (some value) :: rest) setting ↔
      setting = other ∨ Supplied rest setting := by
  simp [Supplied, List.infix_cons_iff, List.cons_prefix_cons, or_assoc, exists_or]

theorem supplied_apart (other : Setting) (value : Text) (rest : List Argument) :
    Supplied (.named (.valued other) none :: .word value :: rest) setting ↔
      setting = other ∨ Supplied rest setting := by
  simp [Supplied, List.infix_cons_iff, List.cons_prefix_cons, exists_or, or_left_comm]

theorem give_ok {reading next : Reading} {value : Text} (given : reading.give setting value = .ok next) :
    (∀ rival, setting.rival? = some rival → reading.value? rival = none) ∧
      next.given = (setting, .ofArgument value) :: reading.given := by
  unfold Reading.give at given
  split at given
  · cases given
  · rename_i absent
    cases given
    refine ⟨fun rival rivals => ?_, rfl⟩
    rw [rivals, Option.filter_eq_none_iff] at absent
    simpa using absent rival rfl

theorem readFrom_supplied {reading next : Reading} {readings : List Argument}
    (read : readFrom reading readings = .ok next) (setting : Setting) :
    setting ∈ next.given.map Prod.fst ↔
      Supplied readings setting ∨ setting ∈ reading.given.map Prod.fst := by
  fun_induction readFrom reading readings with
  | case1 => cases read; simp [Supplied]
  | case2 reading text rest ih => rw [ih read, supplied_word]; rfl
  | case3 reading text rest ih => rw [ih read, supplied_unknown]; rfl
  | case7 reading other value rest after given ih =>
    rw [ih read, supplied_joined, (give_ok given).2, List.map_cons, List.mem_cons]
    tauto
  | case9 reading other value rest after given ih =>
    rw [ih read, supplied_apart, (give_ok given).2, List.map_cons, List.mem_cons]
    tauto
  | case4 | case5 | case6 | case8 | case10 | case11 => cases read

theorem rival?_symm {rival : Setting} (rivals : setting.rival? = some rival) :
    rival.rival? = some setting ∧ rival ≠ setting := by
  cases setting <;> cases rivals <;> exact ⟨rfl, by decide⟩

theorem give_keeps_unrivalled {reading next : Reading} {value : Text}
    (free : Unrivalled (reading.given.map Prod.fst)) (given : reading.give setting value = .ok next) :
    Unrivalled (next.given.map Prod.fst) := by
  obtain ⟨fresh, equal⟩ := give_ok given
  rw [equal, List.map_cons]
  intro first member rival rivals other
  obtain ⟨back, apart⟩ := rival?_symm rivals
  rcases List.mem_cons.mp member with rfl | old
  · rcases List.mem_cons.mp other with same | among
    · exact apart same
    · exact value?_eq_none_iff.mp (fresh rival rivals) among
  · rcases List.mem_cons.mp other with rfl | among
    · exact value?_eq_none_iff.mp (fresh first back) old
    · exact free first old rival rivals among

theorem readFrom_unrivalled {reading next : Reading} {readings : List Argument}
    (free : Unrivalled (reading.given.map Prod.fst)) (read : readFrom reading readings = .ok next) :
    Unrivalled (next.given.map Prod.fst) := by
  fun_induction readFrom reading readings with
  | case1 => cases read; exact free
  | case2 reading text rest ih => exact ih free read
  | case3 reading text rest ih => exact ih free read
  | case7 reading other value rest after given ih => exact ih (give_keeps_unrivalled free given) read
  | case9 reading other value rest after given ih => exact ih (give_keeps_unrivalled free given) read
  | case4 | case5 | case6 | case8 | case10 | case11 => cases read

end

theorem forall₂_infix {α β : Type} {R : α → β → Prop} {xs : List α} {ys part : List β}
    (related : List.Forall₂ R xs ys) (within : part <:+: ys) :
    ∃ source, source <:+: xs ∧ List.Forall₂ R source part := by
  obtain ⟨before, after, rfl⟩ := within
  have upTo := List.forall₂_take_append xs (before ++ part) after related
  have inside := List.forall₂_drop_append _ before part upTo
  exact ⟨_, (List.drop_suffix _ _).isInfix.trans (List.take_prefix _ _).isInfix, inside⟩

section
variable {arguments : List Text} {readings : List Argument}
  (mapped : (considered arguments).mapM Argument.ofText? = .ok readings)
include mapped

theorem Gives.supplied {setting : Setting} (gives : Gives arguments setting) : Supplied readings setting := by
  obtain ⟨mention, rfl, within⟩ := gives
  obtain ⟨read, inside, related⟩ := forall₂_infix (mapM_ok_iff.mp mapped).flip within
  have equal : mention.readings = read :=
    Except.ok.inj (mention.mapM_arguments.symm.trans (mapM_ok_iff.mpr related.flip))
  rw [← equal, Mention.readings] at inside
  refine ⟨mention.value, ?_⟩
  split at inside
  · exact .inr inside
  · exact .inl inside

theorem Supplied.gives {setting : Setting} (supplied : Supplied readings setting) :
    Gives arguments setting := by
  obtain ⟨value, joined | apart⟩ := supplied
  · obtain ⟨source, within, related⟩ := forall₂_infix (mapM_ok_iff.mp mapped) joined
    obtain ⟨argument, rest, accepted, ended, rfl⟩ := List.forall₂_cons_right_iff.mp related
    obtain rfl := List.forall₂_nil_right_iff.mp ended
    obtain ⟨named, split⟩ := ofText?_names accepted
    have whole := (splitValue_some_iff.mp (Prod.ext rfl split)).2
    refine ⟨⟨setting, (splitValue argument).1, value, false, named, fun apart => by cases apart⟩, rfl, ?_⟩
    simpa [Mention.arguments, ← whole] using within
  · obtain ⟨source, within, related⟩ := forall₂_infix (mapM_ok_iff.mp mapped) apart
    obtain ⟨argument, others, accepted, second, rfl⟩ := List.forall₂_cons_right_iff.mp related
    obtain ⟨word, rest, taken, ended, rfl⟩ := List.forall₂_cons_right_iff.mp second
    obtain rfl := List.forall₂_nil_right_iff.mp ended
    obtain rfl := ofText?_word taken
    obtain ⟨named, split⟩ := ofText?_names accepted
    have whole := (splitValue_none_iff.mp (Prod.ext rfl split)).2
    refine ⟨⟨setting, (splitValue argument).1, word, true, named, fun _ => taken⟩, rfl, ?_⟩
    simpa [Mention.arguments, ← whole] using within

theorem Gives.iff_supplied {setting : Setting} : Gives arguments setting ↔ Supplied readings setting :=
  ⟨Gives.supplied mapped, Supplied.gives mapped⟩

end

theorem options?_required {reading : Reading} {options : Options} (accepted : reading.options? = .ok options) :
    reading.value? .arch ≠ none ∧ reading.value? .logFile ≠ none ∧
      (reading.value? .kernelRelease ≠ none ∨ reading.value? .kernelReleaseFile ≠ none) := by
  unfold Reading.options? at accepted
  split at accepted
  · rename_i arch logFile archGiven logGiven
    refine ⟨by simp [archGiven], by simp [logGiven], ?_⟩
    by_contra neither
    rw [not_or, not_not, not_not] at neither
    simp [Reading.releaseSource?, neither.1, neither.2] at accepted
  · cases accepted

theorem parse_complete {arguments : List Text} {options : Options} (parsed : parse arguments = .ok options) :
    Complete arguments := by
  unfold parse at parsed
  rw [List.span_eq_takeWhile_dropWhile] at parsed
  dsimp only at parsed
  split at parsed
  · cases parsed
  rename_i readings mapped
  split at parsed
  · cases parsed
  rename_i reading read
  split at parsed
  · cases parsed
  rename_i accepted
  have supplied (setting : Setting) : setting ∈ reading.given.map Prod.fst ↔ Gives arguments setting := by
    rw [readFrom_supplied read, Gives.iff_supplied mapped]
    simp
  have free : Unrivalled (reading.given.map Prod.fst) :=
    readFrom_unrivalled (fun setting member => by cases member) read
  obtain ⟨arch, logFile, release⟩ := options?_required accepted
  simp only [ne_eq, value?_eq_none_iff, not_not, foldl_leave_given, supplied] at arch logFile release
  refine ⟨arch, logFile, ?_⟩
  have notBoth : ¬ (Gives arguments .kernelRelease ∧ Gives arguments .kernelReleaseFile) := by
    rintro ⟨text, file⟩
    exact free _ ((supplied _).mpr text) _ rfl ((supplied _).mpr file)
  rw [xor_iff_or_and_not_and]
  exact ⟨release, notBoth⟩

theorem readFrom_help {reading : Reading} {readings : List Argument}
    (read : readFrom reading readings = .error .help) :
    .named .help none ∈ readings ∨ ∃ letters, .letters letters ∈ readings := by
  fun_induction readFrom reading readings with
  | case1 => cases read
  | case2 reading text rest ih => simpa using ih read
  | case3 reading text rest ih => simpa using ih read
  | case4 reading letters rest => exact .inr ⟨letters, List.mem_cons_self⟩
  | case5 => exact .inl List.mem_cons_self
  | case7 reading other value rest after given ih => simpa using ih read
  | case9 reading other value rest after given ih => simpa using ih read
  | case6 | case8 | case10 | case11 => cases read

theorem parse_help {arguments : List Text} (parsed : parse arguments = .error .help) :
    ∃ argument ∈ considered arguments, AsksHelp argument := by
  unfold parse at parsed
  rw [List.span_eq_takeWhile_dropWhile] at parsed
  dsimp only at parsed
  split at parsed
  · cases parsed
  rename_i readings mapped
  split at parsed
  · rename_i stop read
    cases parsed
    rcases readFrom_help read with full | ⟨letters, run⟩
    · obtain ⟨argument, member, accepted⟩ := mapM_ok_mem mapped full
      exact ⟨argument, member, .inr (ofText?_help accepted)⟩
    · obtain ⟨argument, member, accepted⟩ := mapM_ok_mem mapped run
      cases ofText?_readsAs accepted with
      | letters start => exact ⟨argument, member, .inl start⟩
  split at parsed <;> cases parsed

theorem not_complete_ends {arguments : List Text} (incomplete : ¬ Complete arguments) :
    ∃ stop, parse arguments = .error stop ∧
      (stop = .help ∧ (∃ argument ∈ considered arguments, AsksHelp argument) ∨
        (∃ error, stop = .misuse error) ∧ stop.exitCode = 2 ∧ stop.stdout = []) := by
  cases parsed : parse arguments with
  | ok options => exact absurd (parse_complete parsed) incomplete
  | error stop =>
    refine ⟨stop, rfl, ?_⟩
    cases stop with
    | help => exact .inl ⟨rfl, parse_help parsed⟩
    | misuse error => exact .inr ⟨⟨error, rfl⟩, rfl, rfl⟩

end CommandLine

namespace Gate
open CommandLine

-- Mentions whose last values are those of some options come to a run with these options, and so to the run
-- of every other spelling. Words without a dash may stand apart from their name. What is not complete never
-- runs: unless help is asked for, it is misused.
theorem spelling_immaterial :
    (∀ (options : Options) (mentions : List Mention), options.Spellable → ComeTo mentions options →
      parse (mentions.flatMap Mention.arguments) = .ok options ∧
      ∀ (now : Moment) (uuid : Text) (tree : FileTree),
        run (mentions.flatMap Mention.arguments) now uuid tree = run options.arguments now uuid tree) ∧
    (∀ value : Text, value.head? ≠ some '-' → Word value) ∧
    ∀ arguments : List Text, ¬ Complete arguments → ∃ stop : Stop,
      (∀ (now : Moment) (uuid : Text) (tree : FileTree),
        run arguments now uuid tree = .ok (.stopped stop, tree)) ∧
      (stop = .help ∧ (∃ argument ∈ considered arguments, AsksHelp argument) ∨
        (∃ error, stop = .misuse error) ∧ stop.exitCode = 2 ∧ stop.stdout = []) := by
  refine ⟨fun options mentions spellable come => ?_, fun value => word_of_dashless,
    fun arguments incomplete => ?_⟩
  · have parsed := parse_mentions spellable come
    have plain := parse_arguments spellable (.refl options.arguments)
    refine ⟨parsed, fun now uuid tree => ?_⟩
    rw [run_parsed parsed, run_parsed plain]
  · obtain ⟨stop, parsed, ended⟩ := not_complete_ends incomplete
    refine ⟨stop, fun now uuid tree => ?_, ended⟩
    unfold run
    rw [parsed]

def scattered : List Mention :=
  [⟨.arch, "--a", "--", false, by decide +kernel, by decide⟩,
    ⟨.kernelRelease, "--kernel-release", "-h", false, by decide +kernel, by decide⟩,
    ⟨.logFile, "--log", "a=b c", true, by decide +kernel, by decide +kernel⟩,
    ⟨.runsDir, "--r", [], true, by decide +kernel, by decide +kernel⟩,
    ⟨.arch, "--arch", "--log-file=x", false, by decide +kernel, by decide⟩]

def gathered : Options := ⟨.text "--log-file=x", .given (.text "-h"), .text "a=b c", some []⟩

def bothReleases : List Text :=
  [joined .arch "x", joined .kernelRelease [], joined .kernelReleaseFile "r", joined .logFile "log"]

theorem bothReleases_incomplete : ¬ Complete bothReleases := by
  rintro ⟨-, -, oneRelease⟩
  have text : Gives bothReleases .kernelRelease :=
    ⟨.ofEntry (.kernelRelease, .text []), rfl, by decide +kernel⟩
  have file : Gives bothReleases .kernelReleaseFile :=
    ⟨.ofEntry (.kernelReleaseFile, .text "r"), rfl, by decide +kernel⟩
  exact (xor_iff_or_and_not_and _ _).mp oneRelease |>.2 ⟨text, file⟩

theorem scattered_gathered :
    (gathered.Spellable ∧ ComeTo scattered gathered ∧
      parse (scattered.flatMap Mention.arguments) = .ok gathered) ∧
    (['x'].head? ≠ some '-' ∧ Word ['x']) ∧
    ¬ Complete bothReleases ∧ ∃ stop : Stop, ∀ (now : Moment) (uuid : Text) (tree : FileTree),
      run bothReleases now uuid tree = .ok (.stopped stop, tree) := by
  have spellable : gathered.Spellable := by decide +kernel
  have come : ComeTo scattered gathered := by
    intro setting
    cases setting <;> decide +kernel
  obtain ⟨alike, word, ended⟩ := spelling_immaterial
  obtain ⟨stop, stops, -⟩ := ended bothReleases bothReleases_incomplete
  exact ⟨⟨spellable, come, (alike gathered scattered spellable come).1⟩,
    ⟨by decide, word ['x'] (by decide)⟩, bothReleases_incomplete, stop, stops⟩

end Gate
end ProbeCheck
