import ProbeCheck.Proofs.Acceptance
import ProbeCheck.Proofs.AsciiSeams
import ProbeCheck.Proofs.GateEndings

namespace ProbeCheck
open Utf8 (decodeLossy encode isBreakByte)

namespace Log

def separatorBytes : Bytes := [0x3A, 0x20]

def afterSeparator? : Bytes → Option Bytes
  | [] => none
  | byte :: rest =>
    (afterSeparator? rest).or (if separatorBytes <+: byte :: rest then some (rest.drop 1) else none)

def keptSuffix? (line : Bytes) : Option Bytes :=
  if encode Marker.loaded.text <:+: line then afterSeparator? line else none

def keptSuffixes (log : Bytes) : List Bytes := (log.splitOnP isBreakByte).filterMap keptSuffix?

def extractBytes (log : Bytes) : List Text := sortTexts ((keptSuffixes log).map decodeLossy)

theorem afterSeparator?_eq_none {line : Bytes} :
    afterSeparator? line = none ↔ ¬ separatorBytes <:+: line := by
  induction line with
  | nil => simp [afterSeparator?, separatorBytes]
  | cons byte rest ih =>
    rw [afterSeparator?, Option.or_eq_none_iff, ih, List.infix_cons_iff, not_or, and_comm]
    simp

theorem afterSeparator?_sound {line field : Bytes} (found : afterSeparator? line = some field) :
    (∃ before, line = before ++ separatorBytes ++ field) ∧ ¬ separatorBytes <:+: field := by
  induction line with
  | nil => cases found
  | cons byte rest ih =>
    rw [afterSeparator?] at found
    cases later : afterSeparator? rest with
    | some other =>
      rw [later, Option.some_or, Option.some.injEq] at found
      obtain ⟨⟨before, equal⟩, last⟩ := ih (later.trans (congrArg some found))
      exact ⟨⟨byte :: before, by rw [equal]; rfl⟩, last⟩
    | none =>
      rw [later, Option.none_or] at found
      split at found
      · rename_i here
        obtain ⟨others, equal⟩ := here
        cases equal
        cases found
        have single := afterSeparator?_eq_none.mp later
        exact ⟨⟨[], rfl⟩, fun inside => single (inside.trans (List.suffix_cons _ _).isInfix)⟩
      · cases found

theorem encode_fieldSeparator : encode fieldSeparator = separatorBytes := by decide +kernel

theorem fieldSeparator_ascii : Utf8.Ascii fieldSeparator := Utf8.ascii_of_all (by simp [fieldSeparator])

theorem loaded_ascii : Utf8.Ascii Marker.loaded.text := Utf8.ascii_of_all (by simp [Marker.loaded])

theorem afterLast?_decodeLossy (line : Bytes) :
    Text.afterLast? fieldSeparator (decodeLossy line) = (afterSeparator? line).map decodeLossy := by
  have infix_iff (bytes : Bytes) :
      separatorBytes <:+: bytes ↔ fieldSeparator <:+: decodeLossy bytes := by
    rw [← encode_fieldSeparator]
    exact Utf8.encode_infix_iff fieldSeparator_ne fieldSeparator_ascii
  cases found : afterSeparator? line with
  | none =>
    rw [Option.map_none, Text.afterLast?_eq_none fieldSeparator_ne, ← infix_iff]
    exact afterSeparator?_eq_none.mp found
  | some field =>
    obtain ⟨⟨before, equal⟩, last⟩ := afterSeparator?_sound found
    rw [Option.map_some, ← lastField_iff]
    refine ⟨⟨decodeLossy before, ?_⟩, (infix_iff field).not.mp last⟩
    rw [equal, ← encode_fieldSeparator]
    exact Utf8.decodeLossy_append_word fieldSeparator_ne fieldSeparator_ascii before field

theorem descriptor?_decodeLossy (line : Bytes) :
    descriptor? .loaded (decodeLossy line) = (keptSuffix? line).map decodeLossy := by
  have marked : encode Marker.loaded.text <:+: line ↔ Marker.loaded.text <:+: decodeLossy line :=
    Utf8.encode_infix_iff Marker.loaded.nonempty loaded_ascii
  unfold descriptor? keptSuffix?
  by_cases inside : encode Marker.loaded.text <:+: line
  · rw [if_pos inside, if_pos ((Text.has_iff _ _).mpr (marked.mp inside)), afterLast?_decodeLossy]
  · rw [if_neg inside, if_neg ((Text.has_iff _ _).not.mpr (marked.not.mp inside)), Option.map_none]

theorem lines_decodeLossy (log : Bytes) :
    (Text.lines (Text.unifyNewlines (decodeLossy log))).filter (· ≠ []) =
      ((log.splitOnP isBreakByte).filter (· ≠ [])).map decodeLossy := by
  rw [Text.lines_unifyNewlines, Utf8.splitOnP_decodeLossy, List.filter_map]
  congr 1
  refine List.filter_congr fun piece _ => ?_
  simp [Utf8.decodeLossy_eq_nil_iff]

theorem filterMap_descriptor?_filter (marker : Marker) (lines : List Text) :
    (lines.filter (· ≠ [])).filterMap (descriptor? marker) = lines.filterMap (descriptor? marker) := by
  rw [List.filterMap_filter]
  refine List.filterMap_congr fun line _ => ?_
  by_cases empty : line = []
  · subst empty
    have uncounted : ¬ Significant marker [] := fun significant => by
      simp [Significant, marker.nonempty] at significant
    simp [descriptor?_eq_none.mpr uncounted]
  · simp [empty]

theorem extract_decodeLossy (log : Bytes) :
    extract .loaded (Text.unifyNewlines (decodeLossy log)) = extractBytes log := by
  unfold extract extractBytes keptSuffixes
  rw [← filterMap_descriptor?_filter, Text.lines_unifyNewlines, filterMap_descriptor?_filter,
    Utf8.splitOnP_decodeLossy, List.filterMap_map, List.map_filterMap]
  congr 1
  exact List.filterMap_congr fun line _ => descriptor?_decodeLossy line

theorem extractBytes_append (before after : Bytes) :
    extractBytes (before ++ 0x0A :: after) =
      sortTexts (extractBytes before ++ extractBytes after) := by
  have feed : isBreakByte 0x0A = true := rfl
  refine sortTexts_eq_iff.mpr ?_
  rw [keptSuffixes, List.splitOnP_append_cons _ _ feed, List.filterMap_append, List.map_append]
  exact ((sortTexts_perm _).append (sortTexts_perm _)).symm

structure ByBytes (log : Bytes) : Prop where
  decoding : ∀ text, decodeLossy log = text ↔ Utf8.Decodes log text
  lines : (Text.lines (Text.unifyNewlines (decodeLossy log))).filter (· ≠ []) =
    ((log.splitOnP isBreakByte).filter (· ≠ [])).map decodeLossy
  extraction : extract .loaded (Text.unifyNewlines (decodeLossy log)) = extractBytes log
  union : ∀ before after, log = before ++ 0x0A :: after →
    extractBytes log = sortTexts (extractBytes before ++ extractBytes after)

theorem byBytes (log : Bytes) : ByBytes log :=
  ⟨fun _ => Utf8.decodeLossy_eq_iff, lines_decodeLossy log, extract_decodeLossy log,
    fun before after equal => equal ▸ extractBytes_append before after⟩

end Log

namespace Catalog

theorem replacement_not_mem {arch : Text} {code : Int} (clean : namingThreshold ≤ code → '\ufffd' ∉ arch) :
    ∀ text ∈ (expected arch code).descriptors, '\ufffd' ∉ text :=
  not_mem_descriptors (by decide) (by decide +kernel) clean

end Catalog

namespace Gate
open CommandLine (Options)

variable {read : Path → Except FileFault Bytes} {options : Options}

theorem catalog?_clean {code : Int} {catalog : Catalog} (found : catalog? options.arch code = .ok catalog)
    (clean : ∀ arch, options.arch = .text arch → '\ufffd' ∉ arch) :
    ∀ text ∈ catalog.descriptors, '\ufffd' ∉ text := by
  unfold catalog? at found
  split at found
  · rename_i arch named
    cases found
    exact Catalog.replacement_not_mem fun _ => clean arch named
  · split at found
    · cases found
    · cases found
      exact Catalog.replacement_not_mem fun _ => List.not_mem_nil

theorem exitCode_ne_zero (type : FailureType) : type.exitCode ≠ 0 := by
  cases type <;> decide

theorem Finished.verdict_of_zero {decision : Decision} {now : Moment} {tree left : FileTree}
    {kept : Option Recorder} {reply : Reply}
    (carried : Finished decision now tree kept (reply, left)) (passing : reply.exitCode = 0) :
    ∃ finding summary, decision = .verdict finding summary ∧ finding.verdict.passed = true := by
  cases decision with
  | abort reason =>
    rcases carried.reply with ⟨path?, rfl⟩ | ⟨fault, rfl⟩
    · exact absurd passing (exitCode_ne_zero _)
    · exact absurd passing (exitCode_ne_zero _)
  | verdict finding summary =>
    refine ⟨finding, summary, rfl, ?_⟩
    rcases carried.reply with ⟨path?, rfl⟩ | ⟨fault, rfl⟩
    · have code : ((Decision.verdict finding summary).recorded path?).exitCode =
          if finding.verdict.passed then 0 else FailureType.verification.exitCode := rfl
      by_contra failed
      rw [code, if_neg failed] at passing
      exact exitCode_ne_zero .verification passing
    · exact absurd passing (exitCode_ne_zero .internal)

theorem run_zero {arguments : List Text} {now : Moment} {uuid : Text} {tree left : FileTree}
    {reply : Reply} (parsed : CommandLine.parse arguments = .ok options)
    (ended : run arguments now uuid tree = .ok (.finished reply, left)) (passing : reply.exitCode = 0) :
    ∃ inputs finding, readInputs tree.read options = .ok inputs ∧
      judge options inputs = .ok finding ∧ finding.verdict.passed = true := by
  obtain ⟨decision, reached, carried⟩ := (run_finished_iff parsed).mp ended
  obtain ⟨finding, summary, rfl, passed⟩ := (finished carried).verdict_of_zero passing
  obtain ⟨⟨inputs, supplied, judged⟩, -⟩ := decide_verdict reached
  exact ⟨inputs, finding, supplied, judged, passed⟩

-- What passes has the descriptors themselves in its bytes, if nothing that was expected looks like
-- something ill-formed.
theorem keptSuffixes_perm {log : Bytes} {descriptors : List Text}
    (same : (Log.extractBytes log).Perm descriptors) (clean : ∀ text ∈ descriptors, '\ufffd' ∉ text) :
    (Log.keptSuffixes log).Perm (descriptors.map encode) := by
  have shown : ((Log.keptSuffixes log).map decodeLossy).Perm descriptors :=
    (sortTexts_perm _).symm.trans same
  have restored : ((Log.keptSuffixes log).map decodeLossy).map encode = Log.keptSuffixes log := by
    rw [List.map_map]
    conv_rhs => rw [← List.map_id (Log.keptSuffixes log)]
    refine List.map_congr_left fun bytes member => ?_
    exact (Utf8.decodes bytes).encode_eq (clean _ (shown.subset (List.mem_map_of_mem member)))
  rw [← restored]
  exact shown.map encode

-- What the gate compares is cut out of the bytes of the log, and a run passes only on the encodings
-- of what it expects.
theorem actual_by_bytes (log : Bytes) :
    Log.ByBytes log ∧ ∀ (tree : FileTree) (options : Options),
      readNamed tree.read options.logFile = .ok log →
      (∀ inputs finding, readInputs tree.read options = .ok inputs →
        judge options inputs = .ok finding → finding.verdict.actual = Log.extractBytes log) ∧
      ∀ arguments now uuid reply left, CommandLine.parse arguments = .ok options →
        run arguments now uuid tree = .ok (.finished reply, left) → reply.exitCode = 0 →
        (∀ arch, options.arch = .text arch → '\ufffd' ∉ arch) →
        ∃ release version catalog, readRelease tree.read options.release = .ok (.text release) ∧
          KernelRelease.version? release = .ok version ∧
          catalog? options.arch version.code = .ok catalog ∧
          (Log.keptSuffixes log).Perm (catalog.descriptors.map encode) := by
  refine ⟨Log.byBytes log, fun tree options held => ⟨fun inputs finding supplied judged => ?_, ?_⟩⟩
  · obtain ⟨content, -, found, text⟩ := readInputs_ok_iff.mp supplied
    obtain ⟨release, version, catalog, -, -, -, rfl⟩ := judge_ok_iff.mp judged
    cases held.symm.trans found
    change sortTexts (Log.extract .loaded inputs.log) = Log.extractBytes log
    rw [text, Log.extract_decodeLossy]
    exact sortTexts_eq_iff.mpr (sortTexts_perm _)
  · intro arguments now uuid reply left parsed ended passing clean
    obtain ⟨inputs, finding, supplied, judged, passed⟩ := run_zero parsed ended passing
    obtain ⟨content, released, found, text⟩ := readInputs_ok_iff.mp supplied
    cases held.symm.trans found
    obtain ⟨release, version, catalog, given, accepted, cataloged, rfl⟩ := judge_ok_iff.mp judged
    rw [given] at released
    refine ⟨release, version, catalog, released, accepted, cataloged, ?_⟩
    have same := (Check.verify_passed_iff _ _ _).mp passed
    rw [text, Log.extract_decodeLossy] at same
    exact keptSuffixes_perm same (catalog?_clean cataloged clean)

theorem run_judged {arguments : List Text} {tree : FileTree} {inputs : Inputs} {finding : Finding}
    (parsed : CommandLine.parse arguments = .ok options) (unkept : options.runsDir = none)
    (supplied : readInputs tree.read options = .ok inputs)
    (judged : judge options inputs = .ok finding) (now : Moment) (uuid : Text)
    (short : finding.code.natAbs < Numeral.bound) :
    ∃ reply, run arguments now uuid tree = .ok (.finished reply, tree) ∧
      reply.exitCode = if finding.verdict.passed then 0 else 1 := by
  obtain ⟨summary, reached⟩ := exists_verdict judged short
  rw [← supplied] at reached
  exact ⟨_, run_unkept parsed unkept reached now uuid, rfl⟩

def illFormedLog : Bytes := 0xFF :: 0xFE :: 0x0A :: encode Check.startupLog ++ [0xF0, 0x9F]

def illFormedTree : FileTree := { entries := [(⟨.above 0, ["log"]⟩, .file illFormedLog)] }

def machineOptions : Options := ⟨.text "amd64", .given (.text "5.4.0"), .text "log", none⟩

theorem illFormedLog_passes :
    ∃ reply, run ["--arch=amd64", "--kernel-release=5.4.0", "--log-file=log"] epoch [] illFormedTree =
        .ok (.finished reply, illFormedTree) ∧ reply.exitCode = 0 ∧
      (Log.keptSuffixes illFormedLog).Perm
        ((Catalog.expected "amd64" 50400).descriptors.map encode) := by
  have parsed : CommandLine.parse ["--arch=amd64", "--kernel-release=5.4.0", "--log-file=log"] =
      .ok machineOptions := by decide +kernel
  have held : readNamed illFormedTree.read machineOptions.logFile = .ok illFormedLog := by
    have content : illFormedTree.read (.ofText "log") = .ok illFormedLog := by decide +kernel
    rw [machineOptions, readNamed, content]
  have accepted : KernelRelease.version? ("5.4.0" : Text) = .ok ⟨5, 4, 0⟩ := by
    rw [Text.ofString_eq]
    rfl
  have supplied : readInputs illFormedTree.read machineOptions =
      .ok ⟨.text "5.4.0", Text.unifyNewlines (decodeLossy illFormedLog)⟩ :=
    readInputs_ok_iff.mpr ⟨_, rfl, held, rfl⟩
  have judged : judge machineOptions
      ⟨.text "5.4.0", Text.unifyNewlines (decodeLossy illFormedLog)⟩ = .ok _ :=
    judge_ok_iff.mpr ⟨"5.4.0", ⟨5, 4, 0⟩, .expected "amd64" 50400, rfl, accepted, rfl, rfl⟩
  have passed : (Check.verify .loaded (.expected "amd64" 50400)
      (Text.unifyNewlines (decodeLossy illFormedLog))).passed = true := by
    rw [Check.verify_passed_iff, Log.extract_decodeLossy]
    exact (sortTexts_perm _).trans (by decide +kernel)
  obtain ⟨reply, ended, code⟩ := run_judged parsed rfl supplied judged epoch []
    (Numeral.lt_bound (by decide))
  rw [if_pos passed] at code
  refine ⟨reply, ended, code, ?_⟩
  obtain ⟨release, version, catalog, released, versioned, found, same⟩ :=
    ((actual_by_bytes illFormedLog).2 illFormedTree machineOptions held).2 _ _ _ reply _ parsed ended
      code (fun arch named => by cases named; simp)
  cases released
  cases accepted.symm.trans versioned
  cases found
  exact same

end Gate
end ProbeCheck
