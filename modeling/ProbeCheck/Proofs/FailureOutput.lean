import ProbeCheck.Proofs.ExitCodes
import ProbeCheck.Proofs.QuotedTexts
import ProbeCheck.Proofs.ReleaseGrammar

namespace ProbeCheck

theorem Text.printable_literal (string : String)
    (visible : string.toList.all (fun c => 0x20 ≤ c.toNat && c.toNat < 0x7F) = true) :
    Printable (string : Text) := by
  rw [ofString_eq]
  exact printable_ascii visible

open Text (Printable printable_ascii printable_literal)

theorem Numeral.digits_printable (n : Nat) : (digits n).Printable := by
  intro c member
  have bounds := Text.isDigit_bounds (KernelRelease.digits_isDigit member)
  exact Text.isPrintable_ascii (by omega)

theorem Numeral.Fault.message_printable (fault : Fault) : fault.message.Printable := by
  cases fault with
  | tooLongToRead count =>
    have opening := printable_literal
      "Exceeds the limit (4300 digits) for integer string conversion: value has " (by simp)
    have closing := printable_literal
      " digits; use sys.set_int_max_str_digits() to increase the limit" (by simp)
    exact (opening.append (digits_printable count)).append closing
  | tooLongToWrite => exact printable_ascii (by simp [message])

theorem Utf8.Malformed.message_printable (fault : Malformed) : fault.message.Printable := by
  have opening := printable_literal "'utf-8' codec can't decode " (by simp)
  have colon := printable_literal ": " (by simp)
  have reason : fault.defect.reason.Printable := by
    cases fault.defect <;> exact printable_ascii (by simp [Defect.reason])
  have digits := Numeral.digits_printable
  unfold message
  refine Printable.append (Printable.append (opening.append ?_) colon) reason
  split
  · have byte := printable_literal "byte 0x" (by simp)
    have position := printable_literal " in position " (by simp)
    exact ((byte.append (Text.hex_printable 2 _)).append position).append (digits _)
  · have bytes := printable_literal "bytes in position " (by simp)
    have dash := printable_literal "-" (by simp)
    exact ((bytes.append (digits _)).append dash).append (digits _)

namespace KernelRelease

theorem Fault.reason_printable {fault : Fault}
    (typed : ∀ typeName, fault = .notText typeName → typeName.Printable) : fault.reason.Printable := by
  cases fault with
  | notText typeName =>
    exact (printable_literal "expected a string, got " (by simp)).append (typed _ rfl)
  | noDigit => exact printable_ascii (by simp [reason])
  | fewFields found =>
    exact (printable_literal "expected at least 3 dot-separated fields, found "
      (by simp)).append (Numeral.digits_printable found)
  | noNumber field text =>
    have name : field.name.Printable := by
      cases field <;> exact printable_ascii (by simp [Field.name])
    have between := printable_literal " field " (by simp)
    have closing := printable_literal " does not start with a digit" (by simp)
    exact ((name.append between).append (Text.quoted_printable text)).append closing

end KernelRelease

theorem ReleaseError.message_printable {error : ReleaseError} (literal : error.literal.Printable)
    (reason : error.reason.Printable) : error.message.Printable := by
  have opening := printable_literal "ParseError: kernel release " (by simp)
  have between := printable_literal
    " is not a dotted numeric major.minor.patch triple: " (by simp)
  have closing := printable_literal "." (by simp)
  exact (((opening.append literal).append between).append reason).append closing

namespace KernelRelease

theorem number?_release {raw text : Text} {field : Field} {error : ReleaseError}
    (refused : number? raw field text = .error (.release error)) :
    error = .ofText raw (Fault.noNumber field text).reason (Fault.reason_ne _) := by
  unfold number? at refused
  dsimp only at refused
  split at refused
  · cases refused; rfl
  · split at refused <;> cases refused

theorem version?_release {raw : Text} {error : ReleaseError}
    (refused : version? raw = .error (.release error)) :
    ∃ fault : Fault, (∀ typeName, fault ≠ .notText typeName) ∧
      error = .ofText raw fault.reason fault.reason_ne := by
  unfold version? at refused
  split at refused
  · cases refused; exact ⟨.noDigit, nofun, rfl⟩
  · simp only [bind_error_iff] at refused
    rcases refused with major | ⟨_, -, minor | ⟨_, -, patch | ⟨_, -, made⟩⟩⟩
    · exact ⟨.noNumber .major _, nofun, number?_release major⟩
    · exact ⟨.noNumber .minor _, nofun, number?_release minor⟩
    · exact ⟨.noNumber .patch _, nofun, number?_release patch⟩
    · cases made
  · cases refused; exact ⟨.fewFields _, nofun, rfl⟩

theorem version?_message_printable {raw : Text} {error : ReleaseError}
    (refused : version? raw = .error (.release error)) : error.message.Printable := by
  obtain ⟨fault, textual, rfl⟩ := version?_release refused
  exact ReleaseError.message_printable (Text.quoted_printable raw)
    (Fault.reason_printable fun typeName equal => absurd equal (textual typeName))

theorem versionOf?_message_printable {given : Given} {error : ReleaseError}
    (refused : versionOf? given.datum = .error (.release error)) : error.message.Printable := by
  cases given with
  | text raw => exact version?_message_printable refused
  | nothing =>
    cases refused
    have literal : Printable ['[', ']'] := printable_ascii (by decide)
    have reason : (Fault.notText Given.nothing.datum.typeName).reason.Printable := by
      refine Fault.reason_printable fun typeName equal => ?_
      cases equal
      exact printable_ascii (by simp [Given.datum, Datum.typeName])
    exact ReleaseError.message_printable literal reason

end KernelRelease

namespace Gate
open CommandLine (Options)

theorem InputFault.message_printable (fault : InputFault) : fault.message.Printable := by
  cases fault with
  | noPath => exact printable_ascii (by simp [InputFault.message])
  | file fault => exact fault.message_printable
  | notUtf8 malformed => exact malformed.message_printable

theorem judge_detail_printable {options : Options} {inputs : Inputs} {reason : Abort}
    (aborted : judge options inputs = .error reason) : reason.detail.Printable := by
  have ways := judged options inputs
  rw [aborted] at ways
  cases ways with
  | @refused refusal refused =>
    cases refusal with
    | release error => exact KernelRelease.versionOf?_message_printable refused
    | numeral fault =>
      exact (printable_literal "ValueError: " (by simp)).append fault.message_printable
  | nameless => exact printable_ascii (by simp [Abort.detail])

theorem decide_detail_printable {options : Options} {supplied : Except InputFault Inputs} {reason : Abort}
    (reached : decide options supplied = .ok (.abort reason)) : reason.detail.Printable := by
  have ways := decided options supplied
  rw [reached] at ways
  cases ways with
  | unread =>
    exact (printable_literal "Cannot read input: " (by simp)).append
      (InputFault.message_printable _)
  | refused judged => exact judge_detail_printable judged

def failureLines (type : FailureType) (detail : Text) : List Text :=
  ["CHECK RESULT: ERROR", "Failure type: " ++ type.id,
   "Exit code:    " ++ Numeral.digits type.exitCode, "Detail:       " ++ detail]

def unkeptLine (message : Text) : Text :=
  "CHECK_INTERNAL_ERROR: cannot write failure record: " ++ message

def terminated (lines : List Text) : Text := lines.flatMap (· ++ ['\n'])

theorem splitOn_terminated {lines : List Text} (printable : ∀ line ∈ lines, Printable line) :
    (terminated lines).splitOn '\n' = lines ++ [[]] := by
  induction lines with
  | nil => rfl
  | cons line rest ih =>
    obtain ⟨first, others⟩ := List.forall_mem_cons.mp printable
    have opened : terminated (line :: rest) = line ++ '\n' :: terminated rest := by
      simp [terminated]
    rw [opened, List.splitOn_append_cons_self_of_not_mem first.feedless, ih others]
    rfl

theorem mem_terminated {lines : List Text} (printable : ∀ line ∈ lines, Printable line) {c : Char}
    (member : c ∈ terminated lines) : c = '\n' ∨ Text.isPrintable c = true := by
  obtain ⟨line, listed, inside⟩ := List.mem_flatMap.mp member
  rcases List.mem_append.mp inside with shown | feed
  · exact .inr (printable line listed c shown)
  · exact .inl (List.mem_singleton.mp feed)

theorem failureBlock_eq (type : FailureType) (detail : Text) :
    failureBlock type detail = terminated (failureLines type detail) := by
  simp [failureBlock, terminated, failureLines]

theorem failureLines_printable (type : FailureType) {detail : Text} (printable : detail.Printable) :
    ∀ line ∈ failureLines type detail, Printable line := by
  have id : type.id.Printable := by cases type <;> exact printable_ascii (by simp [FailureType.id])
  have result := printable_literal "CHECK RESULT: ERROR" (by simp)
  have named := (printable_literal "Failure type: " (by simp)).append id
  have coded := (printable_literal "Exit code:    " (by simp)).append
    (Numeral.digits_printable type.exitCode)
  have detailed := (printable_literal "Detail:       " (by simp)).append printable
  exact List.forall_mem_cons.mpr ⟨result, List.forall_mem_cons.mpr ⟨named,
    List.forall_mem_cons.mpr ⟨coded, List.forall_mem_singleton.mpr detailed⟩⟩⟩

structure Plain (output : Text) (lines : List Text) : Prop where
  split : output.splitOn '\n' = lines ++ [[]]
  shown : ∀ c ∈ output, c = '\n' ∨ Text.isPrintable c = true

theorem plain_terminated {lines : List Text} (printable : ∀ line ∈ lines, Printable line) :
    Plain (terminated lines) lines :=
  ⟨splitOn_terminated printable, fun _ => mem_terminated printable⟩

theorem plain_failureBlock (type : FailureType) {detail : Text} (printable : detail.Printable) :
    Plain (failureBlock type detail) (failureLines type detail) := by
  rw [failureBlock_eq]
  exact plain_terminated (failureLines_printable type printable)

theorem plain_unkept (type : FailureType) {detail : Text} (printable : detail.Printable)
    (fault : FileFault) : Plain (failureBlock type detail ++
        "CHECK_INTERNAL_ERROR: cannot write failure record: " ++ fault.message ++ ['\n'])
      (failureLines type detail ++ [unkeptLine fault.message]) := by
  have opening := printable_literal "CHECK_INTERNAL_ERROR: cannot write failure record: "
    (by simp)
  have lines : ∀ line ∈ failureLines type detail ++ [unkeptLine fault.message], Printable line := by
    intro line member
    rcases List.mem_append.mp member with block | last
    · exact failureLines_printable type printable line block
    · rw [List.mem_singleton.mp last]
      exact opening.append fault.message_printable
  have whole : failureBlock type detail ++ "CHECK_INTERNAL_ERROR: cannot write failure record: " ++
      fault.message ++ ['\n'] = terminated (failureLines type detail ++ [unkeptLine fault.message]) := by
    simp [failureBlock_eq, terminated, unkeptLine]
  rw [whole]
  exact plain_terminated lines

def lostDetail (message : Text) : Text := "Cannot write result record: " ++ message

theorem plain_lost (fault : FileFault) :
    Plain (failureBlock .internal ("Cannot write result record: " ++ fault.message))
      (failureLines .internal (lostDetail fault.message)) := by
  have opening := printable_literal "Cannot write result record: " (by simp)
  exact plain_failureBlock .internal (opening.append fault.message_printable)

def RecordLost (tree : FileTree) (options : Options) (now : Moment) (uuid : Text) : Prop :=
  ∃ recorder reason, recorder? options now uuid = some recorder ∧
    decide options (readInputs tree.read options) = .ok (.abort reason) ∧
    ∀ path, (recorder.write tree (.failed reason.type.id reason.detail) now).2 ≠ .ok path

inductive ShowsFailure (lost : Prop) (code : Nat) (output : Text) : Prop
  | block {type : FailureType} {detail : Text} (coded : type.exitCode = code) (recorded : ¬ lost)
      (plain : Plain output (failureLines type detail))
  | unkept {type : FailureType} {detail message : Text} (coded : type.exitCode = code) (unrecorded : lost)
      (plain : Plain output (failureLines type detail ++ [unkeptLine message]))

section
variable {options : Options} {now : Moment} {uuid : Text} {tree left : FileTree} {reply : Reply}

theorem showsFailure_verdict {finding : Finding} {summary : Text}
    (reached : decide options (readInputs tree.read options) = .ok (.verdict finding summary))
    (carried : Finished (.verdict finding summary) now tree (recorder? options now uuid) (reply, left))
    (failed : reply.exitCode ∈ [2, 3, 4]) :
    ShowsFailure (RecordLost tree options now uuid) reply.exitCode reply.stderr := by
  have unfailed : ¬ RecordLost tree options now uuid := by
    rintro ⟨recorder, reason, -, aborted, -⟩
    cases reached.symm.trans aborted
  have judged (path? : Option Path) :
      ((Decision.verdict finding summary).recorded path?).exitCode ∉ [2, 3, 4] := by
    dsimp only [Decision.recorded]
    split <;> decide
  generalize recorder? options now uuid = kept at carried
  cases carried with
  | unkept => exact absurd failed (judged none)
  | kept => exact absurd failed (judged (some _))
  | refused => exact .block rfl unfailed (plain_lost _)

theorem showsFailure_abort {reason : Abort}
    (reached : decide options (readInputs tree.read options) = .ok (.abort reason))
    (carried : Finished (.abort reason) now tree (recorder? options now uuid) (reply, left)) :
    ShowsFailure (RecordLost tree options now uuid) reply.exitCode reply.stderr := by
  have printable := decide_detail_printable reached
  generalize asked : recorder? options now uuid = kept at carried
  cases carried with
  | unkept =>
    refine .block rfl ?_ (plain_failureBlock reason.type printable)
    rintro ⟨recorder, other, given, -⟩
    cases asked.symm.trans given
  | kept written =>
    refine .block rfl ?_ (plain_failureBlock reason.type printable)
    rintro ⟨recorder, other, given, again, unwritten⟩
    cases asked.symm.trans given
    cases reached.symm.trans again
    exact unwritten _ (congrArg Prod.snd written)
  | refused unwritten =>
    refine .unkept rfl ⟨_, reason, asked, reached, fun path written => ?_⟩
      (plain_unkept reason.type printable _)
    cases (congrArg Prod.snd unwritten).symm.trans written

theorem run_accepts {arguments : List Text}
    (ended : run arguments now uuid tree = .ok (.finished reply, left)) :
    ∃ options, CommandLine.parse arguments = .ok options := by
  cases parsed : CommandLine.parse arguments with
  | error stop =>
    unfold run at ended
    rw [parsed] at ended
    cases ended
  | ok options => exact ⟨options, rfl⟩

end

-- A failed run shows its failure in four lines, and in a fifth one that the record of the failure was lost.
-- The message of a refused release is printable, whatever the release.
theorem failures_plain :
    (∀ {arguments : List Text} {now : Moment} {uuid : Text} {tree left : FileTree} {reply : Reply},
      run arguments now uuid tree = .ok (.finished reply, left) → reply.exitCode ∈ [2, 3, 4] →
      ∃ options, CommandLine.parse arguments = .ok options ∧
        ShowsFailure (RecordLost tree options now uuid) reply.exitCode reply.stderr) ∧
    ∀ {raw : Text} {error : ReleaseError},
      KernelRelease.version? raw = .error (.release error) → error.message.Printable := by
  refine ⟨fun ended failed => ?_, KernelRelease.version?_message_printable⟩
  obtain ⟨options, parsed⟩ := run_accepts ended
  obtain ⟨decision, reached, concluded⟩ := (run_finished_iff parsed).mp ended
  refine ⟨options, parsed, ?_⟩
  cases decision with
  | verdict finding summary => exact showsFailure_verdict reached (finished concluded) failed
  | abort reason => exact showsFailure_abort reached (finished concluded)

-- A release that would report a verdict of its own, if it were shown as it is.
def forgedRelease : Text := "\n\u2028PASS".toList

def forgedArguments : List Text :=
  [CommandLine.joined .arch "x", CommandLine.joined .kernelRelease forgedRelease,
    CommandLine.joined .logFile "log", CommandLine.joined .runsDir "log"]

def feeds : Ending → Nat
  | .finished reply => reply.stderr.count '\n'
  | .stopped _ => 0

theorem forgedRelease_plain :
    (∃ reply left detail message, run forgedArguments epoch [] emptyLog = .ok (.finished reply, left) ∧
      reply.exitCode = 2 ∧
      Plain reply.stderr (failureLines .parse detail ++ [unkeptLine message])) ∧
    ∃ error, KernelRelease.version? forgedRelease = .error (.release error) ∧ error.message.Printable := by
  obtain ⟨runs, releases⟩ := failures_plain
  constructor
  · have ends : EndsWith (run forgedArguments epoch [] emptyLog) 2 := by decide +kernel
    have five : (run forgedArguments epoch [] emptyLog).toOption.map (fun ended => feeds ended.1) = some 5 := by
      decide +kernel
    obtain ⟨reply, left, ended, code⟩ := ends
    obtain ⟨options, -, shows⟩ := runs ended (by simp [code])
    rw [code] at shows
    cases shows with
    | block coded recorded plain =>
      have lines := @Text.length_splitOn '\n' reply.stderr
      rw [ended] at five
      have count : reply.stderr.count '\n' = 5 := Option.some.inj five
      rw [plain.split, count] at lines
      cases lines
    | @unkept type detail message coded unrecorded plain =>
      cases type with
      | parse => exact ⟨reply, left, detail, message, ended, code, plain⟩
      | verification => cases coded
      | inputUnavailable => cases coded
      | internal => cases coded
  · obtain ⟨error, refused⟩ : ∃ error, KernelRelease.version? forgedRelease = .error (.release error) :=
      ⟨_, rfl⟩
    exact ⟨error, refused, releases refused⟩

end Gate
end ProbeCheck
