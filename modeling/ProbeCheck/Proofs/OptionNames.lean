import ProbeCheck.Proofs.ArgumentValues

namespace ProbeCheck.CommandLine

def Names (name : Text) (flag : Flag) : Prop :=
  name = flag.name ∨ name <+: flag.name ∧ ∀ other ∈ Flag.all, name <+: other.name → other = flag

instance : DecidableRel Names := fun name flag =>
  inferInstanceAs (Decidable (name = flag.name ∨
    name <+: flag.name ∧ ∀ other ∈ Flag.all, name <+: other.name → other = flag))

def Word (text : Text) : Prop := Argument.ofText? text = .ok (.word text)

instance : DecidablePred Word := fun text =>
  inferInstanceAs (Decidable (Argument.ofText? text = .ok (.word text)))

theorem word_of_dashless {text : Text} (dashless : text.head? ≠ some '-') : Word text := by
  unfold Word Argument.ofText?
  split
  · exact absurd rfl dashless
  · rfl

section
variable {flag : Flag} {name : Text}

theorem Names.isPrefix (named : Names name flag) : name <+: flag.name := by
  rcases named with rfl | ⟨start, -⟩
  · exact List.prefix_rfl
  · exact start

theorem Names.unmarked (named : Names name flag) : '=' ∉ name := by
  have plain : ∀ flag ∈ Flag.all, '=' ∉ flag.name := by decide +kernel
  have listed : flag ∈ Flag.all := List.mem_of_find?_eq_some (find_name flag)
  exact fun member => plain flag listed (named.isPrefix.subset member)

theorem Names.dashed (named : Names name flag) : ∃ rest, name = '-' :: '-' :: rest := by
  have dashes : ∀ flag ∈ Flag.all, ['-', '-'] <+: flag.name := by decide +kernel
  have listed : flag ∈ Flag.all := List.mem_of_find?_eq_some (find_name flag)
  rcases named with rfl | ⟨start, only⟩
  · obtain ⟨rest, whole⟩ := dashes flag listed
    exact ⟨rest, whole.symm⟩
  rcases List.prefix_or_prefix_of_prefix start (dashes flag listed) with short | ⟨rest, whole⟩
  · have help := only .help (by decide) (short.trans (dashes _ (by decide)))
    have arch := only (.valued .arch) (by decide) (short.trans (dashes _ (by decide)))
    cases help.trans arch.symm
  · exact ⟨rest, whole.symm⟩

theorem Names.filter (named : Names name flag) (short : name ≠ flag.name) :
    Flag.all.filter (name.isPrefixOf ·.name) = [flag] := by
  obtain equal | ⟨start, only⟩ := named
  · exact absurd equal short
  have same : ∀ other ∈ Flag.all, name.isPrefixOf other.name = decide (other = flag) := by
    intro other member
    rw [Bool.eq_iff_iff, List.isPrefixOf_iff_prefix, decide_eq_true_iff]
    exact ⟨only other member, fun equal => equal ▸ start⟩
  rw [List.filter_congr same]
  rcases flag with _ | setting
  · decide
  · cases setting <;> decide

theorem Names.unfound (named : Names name flag) (short : name ≠ flag.name) :
    Flag.all.find? (·.name = name) = none := by
  obtain equal | ⟨-, only⟩ := named
  · exact absurd equal short
  refine List.find?_eq_none.mpr fun other member full => short ?_
  have equal : other.name = name := of_decide_eq_true full
  rw [← equal, only other member (equal ▸ List.prefix_rfl)]

theorem Names.ofText? {argument : Text} {value : Option Text} {setting : Setting}
    (named : Names name (.valued setting)) (split : splitValue argument = (name, value)) :
    Argument.ofText? argument = .ok (.named (.valued setting) value) := by
  obtain ⟨rest, dashed⟩ : ∃ rest, argument = '-' :: '-' :: rest := by
    obtain ⟨rest, rfl⟩ := named.dashed
    cases value with
    | none => exact ⟨rest, (splitValue_none_iff.mp split).2⟩
    | some value => exact ⟨_, (splitValue_some_iff.mp split).2⟩
  unfold Argument.ofText?
  rw [dashed] at split ⊢
  by_cases full : name = (Flag.valued setting).name
  · simp only [split, full, find_name]
    rfl
  · simp only [split, named.unfound full, named.filter full]
    rfl

end

inductive ReadsAs (argument : Text) : Argument → Prop
  | word : ReadsAs argument (.word argument)
  | unknown : ReadsAs argument (.unknown argument)
  | letters {letters : Text} (start : ['-', 'h'] <+: argument) : ReadsAs argument (.letters letters)
  | helpMarked (start : ['-', 'h'] <+: argument) : ReadsAs argument (.named .help (some []))
  | named {flag : Flag} (named : Names (splitValue argument).1 flag) :
      ReadsAs argument (.named flag (splitValue argument).2)

theorem readsAs_nameless (argument : Text) : ReadsAs argument (nameless argument) := by
  unfold nameless
  split
  · exact .word
  · exact .unknown

theorem readsAs_afterHelp (rest : Text) : ReadsAs ('-' :: 'h' :: rest) (afterHelp rest) := by
  have start : ['-', 'h'] <+: '-' :: 'h' :: rest := ⟨rest, rfl⟩
  unfold afterHelp
  split
  · exact .helpMarked start
  · exact .letters start
  · exact .letters start

theorem ofText?_readsAs {argument : Text} {read : Argument} (accepted : Argument.ofText? argument = .ok read) :
    ReadsAs argument read := by
  unfold Argument.ofText? at accepted
  split at accepted
  case h_2 => cases accepted; exact .word
  rename_i second rest
  dsimp only at accepted
  split at accepted
  · rename_i equal
    cases accepted
    rw [equal]
    exact readsAs_afterHelp rest
  split at accepted
  · rename_i flag full
    cases accepted
    have equal := List.find?_some full
    exact .named (.inl (of_decide_eq_true equal).symm)
  split at accepted
  · cases accepted; exact readsAs_nameless _
  split at accepted
  · cases accepted; exact readsAs_nameless _
  · rename_i flag single
    cases accepted
    have among (other : Flag) : other ∈ [flag] ↔
        other ∈ Flag.all ∧ (splitValue ('-' :: second :: rest)).1 <+: other.name := by
      rw [← single, List.mem_filter, List.isPrefixOf_iff_prefix]
    simp only [List.mem_singleton] at among
    exact .named (.inr ⟨((among _).mp rfl).2, fun other member start => (among other).mpr ⟨member, start⟩⟩)
  · cases accepted

section
variable {argument : Text}

theorem ofText?_word {text : Text} (accepted : Argument.ofText? argument = .ok (.word text)) :
    argument = text := by
  cases ofText?_readsAs accepted
  rfl

-- An argument is read as an option just where what stands before its '=', if it has one, names it.
theorem ofText?_names {setting : Setting} {value : Option Text}
    (accepted : Argument.ofText? argument = .ok (.named (.valued setting) value)) :
    Names (splitValue argument).1 (.valued setting) ∧ (splitValue argument).2 = value := by
  cases ofText?_readsAs accepted with
  | named named => exact ⟨named, rfl⟩

theorem ofText?_help (accepted : Argument.ofText? argument = .ok (.named .help none)) :
    Names argument .help := by
  generalize asked : Argument.named .help none = read at accepted
  cases ofText?_readsAs accepted with
  | named named =>
    obtain ⟨rfl, split⟩ := Argument.named.inj asked
    have whole : splitValue argument = ((splitValue argument).1, none) := Prod.ext rfl split.symm
    have equal := (splitValue_none_iff.mp whole).2
    rwa [← equal] at named
  | _ => cases asked

end

theorem ofText?_end (read : Argument) : Argument.ofText? ['-', '-'] ≠ .ok read := by
  have ambiguous : Argument.ofText? ['-', '-'] = .error (.ambiguous ['-', '-'] Flag.all) := by
    decide +kernel
  rw [ambiguous]
  simp

structure Mention where
  setting : Setting
  name : Text
  value : Text
  apart : Bool
  named : Names name (.valued setting)
  word : apart = true → Word value

namespace Mention

def arguments (mention : Mention) : List Text :=
  if mention.apart then [mention.name, mention.value] else [mention.name ++ '=' :: mention.value]

def readings (mention : Mention) : List Argument :=
  if mention.apart then [.named (.valued mention.setting) none, .word mention.value]
  else [.named (.valued mention.setting) (some mention.value)]

theorem mapM_arguments (mention : Mention) :
    mention.arguments.mapM Argument.ofText? = .ok mention.readings := by
  obtain ⟨setting, name, value, apart, named, word⟩ := mention
  cases apart with
  | false =>
    have split : splitValue (name ++ '=' :: value) = (name, some value) :=
      splitValue_some_iff.mpr ⟨named.unmarked, rfl⟩
    simp [arguments, readings, named.ofText? split]
  | true =>
    have alone : splitValue name = (name, none) := splitValue_none_iff.mpr ⟨named.unmarked, rfl⟩
    have taken : Argument.ofText? value = .ok (.word value) := word rfl
    simp [arguments, readings, named.ofText? alone, taken]
    rfl

end Mention

end ProbeCheck.CommandLine
