import ProbeCheck.Proofs.LineEnds
import ProbeCheck.Proofs.ReleaseFields

namespace ProbeCheck
namespace Text

inductive Rewritten : Text → Text → Prop
  | nothing : Rewritten [] []
  | kept (c : Char) {text new : Text} (rest : Rewritten text new) : Rewritten (c :: text) (c :: new)
  | lone {text new : Text} (rest : Rewritten text new) : Rewritten ('\r' :: text) ('\n' :: new)
  | pair {text new : Text} (rest : Rewritten text new) :
      Rewritten ('\r' :: '\n' :: text) ('\n' :: new)

theorem Rewritten.append {text new later laterNew : Text} (first : Rewritten text new)
    (second : Rewritten later laterNew) : Rewritten (text ++ later) (new ++ laterNew) := by
  induction first with
  | nothing => exact second
  | kept c _ ih => exact .kept c ih
  | lone _ ih => exact .lone ih
  | pair _ ih => exact .pair ih

theorem rewritten_map (line : Text) : Rewritten line (line.map feedForReturn) := by
  induction line with
  | nil => exact .nothing
  | cons c rest ih =>
    by_cases returned : c = '\r'
    · subst returned
      exact .lone ih
    · rw [List.map_cons, feedForReturn, if_neg returned]
      exact .kept c ih

theorem rewritten_unifyNewlines (text : Text) : Rewritten text (unifyNewlines text) := by
  induction text using line_induction with
  | last line feedless =>
    rw [unifyNewlines_last feedless]
    exact rewritten_map line
  | ended line rest ending feedless longest ih =>
    rw [unifyNewlines_ended ending feedless longest, List.append_assoc]
    refine (rewritten_map line).append ?_
    cases ending with
    | feed => exact .kept '\n' ih
    | returnFeed => exact .pair ih

end Text

namespace KernelRelease
open Text (Rewritten Blank)

def runs (text : Text) : List Text := (text.splitOn '.').map (·.takeWhile Char.isDigit)

theorem runs_cons (c : Char) (rest : Text) : runs (c :: rest) =
    if c = '.' then [] :: runs rest
    else (runs rest).modifyHead fun run => if c.isDigit then c :: run else [] := by
  unfold runs
  rw [List.splitOn_cons_eq_if_modifyHead]
  by_cases dot : c = '.'
  · simp [dot]
  · cases pieces : rest.splitOn '.' with
    | nil => simp [dot]
    | cons first more => simp [dot, List.takeWhile_cons]

theorem runs_other {c : Char} (dotless : c ≠ '.') (other : c.isDigit = false) (rest : Text) :
    runs (c :: rest) = (runs rest).modifyHead fun _ => [] := by
  rw [runs_cons, if_neg dotless]
  simp [other]

theorem runs_blank {text : Text} (blank : Blank text) : runs text = [[]] := by
  induction text with
  | nil => rfl
  | cons c rest ih =>
    have shown := blank c List.mem_cons_self
    have dotless : c ≠ '.' := by rintro rfl; exact absurd shown (by decide)
    have other := digitFree_blank blank c List.mem_cons_self
    rw [runs_other dotless other, ih fun d member => blank d (List.mem_cons_of_mem _ member)]
    rfl

theorem runs_append_blank {blanks : Text} (blank : Blank blanks) (text : Text) :
    runs (text ++ blanks) = runs text := by
  induction text with
  | nil => exact runs_blank blank
  | cons c rest ih => rw [List.cons_append, runs_cons, ih, ← runs_cons]

theorem runs_rewritten {text new : Text} (rewritten : Rewritten text new) : runs text = runs new := by
  -- A newline ends a run however it is written.
  induction rewritten with
  | nothing => rfl
  | kept c _ ih => rw [runs_cons, runs_cons, ih]
  | lone _ ih => rw [runs_other (by decide) rfl, runs_other (by decide) rfl, ih]
  | pair _ ih =>
    rw [runs_other (by decide) rfl, runs_other (by decide) rfl, runs_other (by decide) rfl, ih,
      List.modifyHead_modifyHead]
    rfl

def remainder (raw : Text) : Text := raw.dropWhile fun c => !c.isDigit

theorem remainder_rewritten {text new : Text} (rewritten : Rewritten text new) :
    Rewritten (remainder text) (remainder new) := by
  induction rewritten with
  | nothing => exact .nothing
  | kept c rest ih =>
    cases digit : c.isDigit with
    | true => simpa [remainder, digit] using Rewritten.kept c rest
    | false => simpa [remainder, digit] using ih
  | lone _ ih => exact ih
  | pair _ ih => exact ih

theorem fields_runs (raw : Text) :
    (fields raw).map (·.takeWhile Char.isDigit) = runs (remainder raw) := by
  rcases digitFree_or_begun raw with free | ⟨skipped, body, blanks, begun⟩
  · have nothing := dropWhile_digitFree free []
    rw [List.append_nil] at nothing
    rw [fields_digitFree free, remainder, nothing]
    rfl
  · have kept : remainder raw = body ++ blanks := by
      obtain ⟨rfl, free, ⟨digit, head, isDigit⟩, -, -⟩ := begun
      obtain ⟨rest, rfl⟩ := List.head?_eq_some_iff.mp head
      rw [remainder, List.append_assoc, dropWhile_digitFree free, List.cons_append]
      exact List.dropWhile_cons_of_neg (by simp [isDigit])
    rw [fields_begun begun, kept, runs_append_blank begun.blanks]
    rfl

-- The number that is too long, if that is why a release was refused. An error about a release quotes it,
-- so two spellings of one release are refused with different errors.
def Refusal.numeral? : Refusal → Option Numeral.Fault
  | .release _ => none
  | .numeral fault => some fault

def readRun (run : Text) : Except (Option Numeral.Fault) Nat :=
  if run = [] then .error none else (Numeral.read? run).mapError some

def versionOfRuns : List Text → Except (Option Numeral.Fault) Version
  | major :: minor :: patch :: _ => do
    let major ← readRun major
    let minor ← readRun minor
    let patch ← readRun patch
    return ⟨major, minor, patch⟩
  | _ => .error none

theorem number?_readRun (raw : Text) (field : Field) (text : Text) :
    (number? raw field text).mapError Refusal.numeral? = readRun (text.takeWhile Char.isDigit) := by
  unfold number? readRun
  dsimp only
  split
  · rfl
  · cases Numeral.read? (text.takeWhile Char.isDigit) <;> rfl

theorem mapError_bind {ε δ α β : Type} (first : Except ε α) (next : α → Except ε β) (change : ε → δ) :
    (first >>= next).mapError change =
      first.mapError change >>= fun value => (next value).mapError change := by
  cases first <;> rfl

theorem version?_runs (raw : Text) : (version? raw).mapError Refusal.numeral? =
    versionOfRuns (runs (remainder raw)) := by
  rw [← fields_runs]
  unfold version?
  split
  · rename_i none
    rw [none]
    rfl
  · rename_i major minor patch more pieces
    simp only [pieces, List.map_cons, versionOfRuns, mapError_bind, number?_readRun]
    rfl
  · rename_i few enough
    rcases pieces : fields raw with _ | ⟨major, _ | ⟨minor, _ | ⟨patch, more⟩⟩⟩
    · rfl
    · rfl
    · rfl
    · exact absurd pieces (enough major minor patch more)

theorem version?_unifyNewlines (raw : Text) :
    (version? (Text.unifyNewlines raw)).mapError Refusal.numeral? =
      (version? raw).mapError Refusal.numeral? := by
  have rewritten := remainder_rewritten (Text.rewritten_unifyNewlines raw)
  rw [version?_runs, version?_runs, runs_rewritten rewritten]

end KernelRelease
end ProbeCheck
