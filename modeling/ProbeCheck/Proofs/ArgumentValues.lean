import Mathlib.Data.List.Forall2
import Mathlib.Data.List.TakeDrop
import Mathlib.Data.List.TakeWhile
import ProbeCheck.CommandLine
import ProbeCheck.Proofs.Lookups

namespace ProbeCheck.CommandLine

def Drawn (arguments : List Text) (value : Text) : Prop :=
  ∃ argument ∈ arguments, value <:+ argument

def GivenDrawn (arguments : List Text) (given : Given) : Prop :=
  ∀ value, given = .text value → Drawn arguments value

def Argument.Drawn (arguments : List Text) : Argument → Prop
  | .word text => CommandLine.Drawn arguments text
  | .named (.valued _) (some value) => CommandLine.Drawn arguments value
  | _ => True

def Reading.Drawn (arguments : List Text) (reading : Reading) : Prop :=
  ∀ entry ∈ reading.given, GivenDrawn arguments entry.2

def ReleaseSource.Drawn (arguments : List Text) : ReleaseSource → Prop
  | .given release => GivenDrawn arguments release
  | .file name => GivenDrawn arguments name

structure Options.Drawn (arguments : List Text) (options : Options) : Prop where
  arch : GivenDrawn arguments options.arch
  release : options.release.Drawn arguments
  logFile : GivenDrawn arguments options.logFile
  runsDir : ∀ name, options.runsDir = some name → CommandLine.Drawn arguments name

section
variable {α β ε : Type} {xs : List α} {ys : List β}

theorem forall₂_exists_left {R : α → β → Prop} (related : List.Forall₂ R xs ys) {y : β}
    (member : y ∈ ys) : ∃ x ∈ xs, R x y := by
  induction related with
  | nil => cases member
  | @cons x other xs ys head _ ih =>
    rcases List.mem_cons.mp member with rfl | later
    · exact ⟨x, List.mem_cons_self, head⟩
    · obtain ⟨earlier, inside, holds⟩ := ih later
      exact ⟨earlier, List.mem_cons_of_mem x inside, holds⟩

theorem mapM_ok_iff {f : α → Except ε β} :
    xs.mapM f = .ok ys ↔ List.Forall₂ (fun x y => f x = .ok y) xs ys := by
  induction xs generalizing ys with
  | nil => cases ys <;> simp [pure, Except.pure]
  | cons x xs ih =>
    rw [List.mapM_cons]
    cases head : f x with
    | error fault => cases ys <;> simp [bind, Except.bind, head]
    | ok value =>
      cases tail : xs.mapM f with
      | error fault => cases ys <;> simp [bind, Except.bind, ← ih, head, tail]
      | ok values => cases ys <;> simp [bind, Except.bind, pure, Except.pure, ← ih, head, tail]

theorem mapM_ok_mem {f : α → Except ε β} (mapped : xs.mapM f = .ok ys) {y : β} (member : y ∈ ys) :
    ∃ x ∈ xs, f x = .ok y :=
  forall₂_exists_left (mapM_ok_iff.mp mapped) member

end

theorem splitValue_some_iff {argument name value : Text} :
    splitValue argument = (name, some value) ↔ '=' ∉ name ∧ argument = name ++ '=' :: value := by
  unfold splitValue
  constructor
  · intro split
    split at split
    · cases split
    · rename_i whole mark rest spanned
      cases split
      rw [List.span_eq_takeWhile_dropWhile, Prod.mk.injEq] at spanned
      obtain ⟨before, after⟩ := spanned
      have marked : mark = '=' := by
        have stopped := List.head?_dropWhile_not (· ≠ '=') argument
        rw [after] at stopped
        simpa using stopped
      constructor
      · intro member
        rw [← before] at member
        simpa using List.mem_takeWhile_imp member
      · rw [← marked, ← before, ← after, List.takeWhile_append_dropWhile]
  · rintro ⟨plain, rfl⟩
    have through : ∀ c ∈ name, decide (c ≠ '=') = true :=
      fun c member => decide_eq_true fun equal => plain (equal ▸ member)
    rw [List.span_eq_takeWhile_dropWhile, List.takeWhile_append_of_pos through,
      List.dropWhile_append_of_pos through]
    simp

theorem splitValue_none_iff {argument name : Text} :
    splitValue argument = (name, none) ↔ '=' ∉ name ∧ argument = name := by
  unfold splitValue
  rw [List.span_eq_takeWhile_dropWhile]
  constructor
  · intro split
    split at split
    · rename_i whole spanned
      cases split
      rw [Prod.mk.injEq, List.dropWhile_eq_nil_iff] at spanned
      rw [← spanned.1, List.takeWhile_eq_self_iff.mpr spanned.2]
      exact ⟨fun member => by simpa using spanned.2 _ member, rfl⟩
    · cases split
  · rintro ⟨plain, rfl⟩
    have through : ∀ c ∈ argument, decide (c ≠ '=') = true :=
      fun c member => decide_eq_true fun equal => plain (equal ▸ member)
    rw [List.takeWhile_eq_self_iff.mpr through, List.dropWhile_eq_nil_iff.mpr through]

theorem splitValue_suffix {argument name value : Text}
    (split : splitValue argument = (name, some value)) : value <:+ argument :=
  ⟨name ++ ['='], by simpa using (splitValue_some_iff.mp split).2.symm⟩

theorem nameless_drawn {arguments : List Text} {argument : Text} (member : argument ∈ arguments) :
    (nameless argument).Drawn arguments := by
  unfold nameless
  split
  · exact ⟨argument, member, List.suffix_rfl⟩
  · trivial

theorem named_drawn {arguments : List Text} {argument : Text} (member : argument ∈ arguments)
    (flag : Flag) : (Argument.named flag (splitValue argument).2).Drawn arguments := by
  cases flag with
  | help => trivial
  | valued setting =>
    cases split : (splitValue argument).2 with
    | none => trivial
    | some value => exact ⟨argument, member, splitValue_suffix (Prod.ext rfl split)⟩

theorem afterHelp_drawn (arguments : List Text) (rest : Text) :
    (afterHelp rest).Drawn arguments := by
  unfold afterHelp
  split <;> trivial

theorem ofText?_drawn {arguments : List Text} {argument : Text} {read : Argument}
    (member : argument ∈ arguments) (accepted : Argument.ofText? argument = .ok read) :
    read.Drawn arguments := by
  unfold Argument.ofText? at accepted
  split at accepted
  · rename_i second rest
    dsimp only at accepted
    split at accepted
    · cases accepted; exact afterHelp_drawn arguments rest
    · split at accepted
      · cases accepted; exact named_drawn member _
      · split at accepted
        · cases accepted; exact nameless_drawn member
        · split at accepted
          · cases accepted; exact nameless_drawn member
          · cases accepted; exact named_drawn member _
          · cases accepted
  · cases accepted; exact ⟨_, member, List.suffix_rfl⟩

theorem give_drawn {arguments : List Text} {reading next : Reading} {setting : Setting} {value : Text}
    (drawn : reading.Drawn arguments) (one : Drawn arguments value)
    (given : reading.give setting value = .ok next) : next.Drawn arguments := by
  unfold Reading.give at given
  split at given
  · cases given
  · cases given
    intro entry member
    rcases List.mem_cons.mp member with rfl | old
    · intro text equal
      unfold Given.ofArgument at equal
      split at equal
      · cases equal
      · cases equal; exact one
    · exact drawn entry old

theorem readFrom_drawn {arguments : List Text} {readings : List Argument} {reading next : Reading}
    (drawn : reading.Drawn arguments) (all : ∀ read ∈ readings, read.Drawn arguments)
    (read : readFrom reading readings = .ok next) : next.Drawn arguments := by
  fun_induction readFrom reading readings with
  | case1 => cases read; exact drawn
  | case2 reading text rest ih =>
    exact ih drawn (fun read member => all read (List.mem_cons_of_mem _ member)) read
  | case3 reading text rest ih =>
    exact ih drawn (fun read member => all read (List.mem_cons_of_mem _ member)) read
  | case4 => cases read
  | case5 => cases read
  | case6 => cases read
  | case7 reading setting value rest after given ih =>
    have one : Drawn arguments value := all (.named (.valued setting) (some value)) List.mem_cons_self
    exact ih (give_drawn drawn one given)
      (fun read member => all read (List.mem_cons_of_mem _ member)) read
  | case8 => cases read
  | case9 reading setting value rest after given ih =>
    have one : Drawn arguments value :=
      all (.word value) (List.mem_cons_of_mem _ List.mem_cons_self)
    exact ih (give_drawn drawn one given)
      (fun read member => all read (List.mem_cons_of_mem _ (List.mem_cons_of_mem _ member))) read
  | case10 => cases read
  | case11 => cases read

theorem foldl_leave_given (leftovers : List Text) (reading : Reading) :
    (leftovers.foldl Reading.leave reading).given = reading.given := by
  induction leftovers generalizing reading with
  | nil => rfl
  | cons text rest ih => exact ih (reading.leave text)

theorem value?_drawn {arguments : List Text} {reading : Reading} (drawn : reading.Drawn arguments)
    {setting : Setting} {given : Given} (found : reading.value? setting = some given) :
    GivenDrawn arguments given :=
  drawn (setting, given) (mem_of_lookup found)

theorem releaseSource?_drawn {arguments : List Text} {reading : Reading}
    (drawn : reading.Drawn arguments) {source : ReleaseSource}
    (found : reading.releaseSource? = some source) : source.Drawn arguments := by
  unfold Reading.releaseSource? at found
  split at found
  · rename_i given; cases found; exact value?_drawn drawn given
  · rename_i named; cases found; exact value?_drawn drawn named
  · cases found

theorem options?_drawn {arguments : List Text} {reading : Reading} (drawn : reading.Drawn arguments)
    {options : Options} (accepted : reading.options? = .ok options) : options.Drawn arguments := by
  unfold Reading.options? at accepted
  split at accepted
  · rename_i arch logFile archGiven logGiven
    split at accepted
    · cases accepted
    · rename_i source noExtras
      cases accepted
      refine ⟨value?_drawn drawn archGiven, releaseSource?_drawn drawn source,
        value?_drawn drawn logGiven, fun name equal => ?_⟩
      obtain ⟨given, found, text⟩ := Option.bind_eq_some_iff.mp equal
      cases given with
      | nothing => cases text
      | text value => cases text; exact value?_drawn drawn found _ rfl
    · cases accepted
  · cases accepted

theorem parse_drawn {arguments : List Text} {options : Options}
    (parsed : parse arguments = .ok options) : options.Drawn arguments := by
  unfold parse at parsed
  dsimp only at parsed
  rw [List.span_eq_takeWhile_dropWhile] at parsed
  split at parsed
  · cases parsed
  · rename_i readings mapped
    have all : ∀ read ∈ readings, read.Drawn arguments := by
      intro read member
      obtain ⟨argument, inside, accepted⟩ := mapM_ok_mem mapped member
      exact ofText?_drawn ((List.takeWhile_prefix _).subset inside) accepted
    split at parsed
    · cases parsed
    · rename_i reading read
      have fresh : Reading.Drawn arguments ⟨[], []⟩ := fun _ member => by cases member
      have drawn := readFrom_drawn fresh all read
      split at parsed
      · cases parsed
      · rename_i accepted
        cases parsed
        refine options?_drawn ?_ accepted
        intro entry member
        rw [foldl_leave_given] at member
        exact drawn entry member

def joined (setting : Setting) (value : Text) : Text := setting.name ++ '=' :: value

theorem find_name (flag : Flag) : Flag.all.find? (·.name = flag.name) = some flag := by
  rcases flag with _ | setting
  · decide +kernel
  · cases setting <;> decide +kernel

end ProbeCheck.CommandLine
