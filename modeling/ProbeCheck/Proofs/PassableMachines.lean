import ProbeCheck.Proofs.LogBytes
import ProbeCheck.Proofs.ReleaseGrammar
import ProbeCheck.Proofs.RenderedLog
import ProbeCheck.Proofs.SuppliedInputs
import ProbeCheck.Proofs.TreeReads

namespace ProbeCheck

namespace Check
open Log (Descriptor Noise render reported fieldSeparator)
open Text (LineEnd)

theorem fits_of_passed {arch log : Text} {code : Int}
    (passed : (verify .loaded (.expected arch code) log).passed = true) :
    code < Catalog.namingThreshold ∨
      '\n' ∉ arch ∧ ¬ fieldSeparator <:+: arch ∧ ∀ c, c ∉ "__sys_clone, Kprobe".toList → c ∉ log → c ∉ arch := by
  have same := (verify_passed_iff _ _ _).mp passed
  have reported : Catalog.cloneDescriptor arch code ∈ Log.extract .loaded log :=
    same.symm.subset List.mem_cons_self
  obtain ⟨feedless, single, inside⟩ := Log.mem_extract reported
  rcases Int.lt_or_le code Catalog.namingThreshold with old | new
  · exact .inl old
  · refine .inr ⟨fun fed => feedless ?_, fun separated => single ?_, fun c foreign missing member => ?_⟩
    · exact (Catalog.mem_cloneDescriptor (by decide +kernel) arch code).mpr ⟨new, fed⟩
    · exact (Catalog.separator_infix_cloneDescriptor arch code).mpr ⟨new, separated⟩
    · exact missing (inside c ((Catalog.mem_cloneDescriptor foreign arch code).mpr ⟨new, member⟩))

def plainLog (first : Noise .loaded) (given : List Descriptor) : List (Log.Entry .loaded × LineEnd) :=
  (.noise first, .feed) :: Log.reports bareLead given

theorem exists_passing {arch : Text} {code : Int}
    (fits : code < Catalog.namingThreshold ∨ '\n' ∉ arch ∧ ¬ fieldSeparator <:+: arch)
    (first : Noise .loaded) : ∃ given : List Descriptor,
      given.map Descriptor.text = (Catalog.expected arch code).descriptors ∧
      (verify .loaded (.expected arch code) (render (plainLog first given))).passed = true := by
  obtain ⟨given, equal⟩ := Log.exists_descriptors (Catalog.descriptors_writable fits)
  have shown : reported (plainLog first given) = (Catalog.expected arch code).descriptors :=
    (Log.reported_reports bareLead given).trans equal
  refine ⟨given, equal, (verify_passed_iff _ _ _).mpr ?_⟩
  exact shown ▸ Log.extract_render (plainLog first given)

theorem plainLog_returnless {first : Noise .loaded} (clean : '\r' ∉ first.text) {given : List Descriptor}
    (each : ∀ text ∈ given.map Descriptor.text, '\r' ∉ text) : '\r' ∉ render (plainLog first given) := by
  have lead : '\r' ∉ bareLead.text := by decide +kernel
  intro returned
  obtain ⟨entry, listed, inside⟩ := List.mem_flatMap.mp returned
  rcases List.mem_cons.mp listed with rfl | reported
  · simp [Log.Entry.text, LineEnd.text, clean] at inside
  · obtain ⟨descriptor, member, rfl⟩ := List.mem_map.mp reported
    have free := each _ (List.mem_map_of_mem member)
    simp [Log.Entry.text, LineEnd.text, lead, free] at inside

end Check

namespace KernelRelease

def codeLine (n : Nat) : Log.Noise .loaded where
  text := written 0 0 n
  feedless := fun fed => absurd (mem_written fed) (by decide)
  silent := .inr fun separated => by
    have colon : ':' ∈ written 0 0 n := separated.subset (by decide +kernel)
    exact absurd (mem_written colon) (by decide)

theorem version?_codeLine {n : Nat} (short : n < Numeral.bound) (rest : Text) :
    version? ((codeLine n).text ++ '\n' :: rest) = .ok ⟨0, 0, n⟩ := by
  have digits (m : Nat) (small : m < Numeral.bound) : Run (Numeral.digits m) :=
    ⟨Nat.toDigits_ne_nil, fun c member => digits_isDigit member, (Numeral.digits_length_le_iff m).mpr small⟩
  have zero := digits 0 (Numeral.lt_bound (by decide))
  have ended : Unstarted ('\n' :: rest) := unstarted_cons rfl rest
  have triple : Triple ((codeLine n).text ++ '\n' :: rest) (Numeral.digits 0) (Numeral.digits 0)
      (Numeral.digits n) :=
    @Triple.mk _ _ _ _ [] [] [] ('\n' :: rest) (by simp [codeLine, written]) nofun zero nofun nofun zero nofun
      nofun (digits n short) ended
  rw [version?_triple triple, Numeral.value_digits, Numeral.value_digits]
  rfl

end KernelRelease

namespace Gate
open CommandLine (Options ReleaseSource joined)

def Codes (tree : FileTree) (source : ReleaseSource) (code : Int) : Prop :=
  ∃ release version, readRelease tree.read source = .ok (.text release) ∧
    KernelRelease.version? release = .ok version ∧ version.code = code

structure Posed (tree : FileTree) (options : Options) (arch logFile : Text) (code : Int) : Prop where
  machine : options.arch = .text arch
  unkept : options.runsDir = none
  log : options.logFile = .text logFile
  held : ∃ old, tree.read (.ofText logFile) = .ok old
  coded : Codes tree options.release code
  short : code.natAbs < Numeral.bound

variable {tree changed : FileTree} {options : Options} {arch logFile : Text} {code : Int}

def FromPlace (source : ReleaseSource) (path : Path) : Prop :=
  ∃ name, source = .file (.text name) ∧ (Path.ofText name).place = path.place

theorem released_write {source : ReleaseSource} {release : Given} (released : Released tree source release)
    {path : Path} {content : Bytes} (written : tree.write path content = .ok changed) :
    Released changed source release ∨ FromPlace source path ∧
      ∃ name, source = .file (.text name) ∧ changed.read (.ofText name) = .ok content := by
  cases released with
  | given => exact .inl (.given release)
  | @file name text held =>
    have now := FileTree.read_other written held
    split at now
    · rename_i same
      exact .inr ⟨⟨name, rfl, same⟩, name, rfl, now⟩
    · exact .inl (.file now)

theorem Codes.apart {source : ReleaseSource} (coded : Codes tree source code) {path : Path} {content : Bytes}
    (written : tree.write path content = .ok changed) (apart : ¬ FromPlace source path) :
    Codes changed source code := by
  obtain ⟨release, version, read, accepted, same⟩ := coded
  rcases released_write (readRelease_ok_iff.mp read) written with kept | ⟨own, -⟩
  · exact ⟨release, version, readRelease_ok_iff.mpr kept, accepted, same⟩
  · exact absurd own apart

theorem Codes.write {source : ReleaseSource} (coded : Codes tree source code) {path : Path} {text : Text}
    (written : tree.write path (Utf8.encode text) = .ok changed) (returnless : '\r' ∉ text)
    {version : Version} (accepted : KernelRelease.version? text = .ok version)
    (same : version.code = code) : Codes changed source code := by
  -- If the release comes from the file that is written, then what was written has to have the code.
  obtain ⟨release, other, read, otherAccepted, otherSame⟩ := coded
  rcases released_write (readRelease_ok_iff.mp read) written with kept | ⟨-, name, rfl, held⟩
  · exact ⟨release, other, readRelease_ok_iff.mpr kept, otherAccepted, otherSame⟩
  · refine ⟨_, version, readRelease_ok_iff.mpr (.file held), ?_, same⟩
    rw [Text.unifyNewlines_of_returnless returnless]
    exact accepted

variable {arguments : List Text} {now : Moment} {uuid : Text}

theorem fits_of_zero (parsed : CommandLine.parse arguments = .ok options) (named : options.arch = .text arch)
    (coded : Codes changed options.release code) (ends : EndsWith (run arguments now uuid changed) 0) :
    code < Catalog.namingThreshold ∨ '\n' ∉ arch ∧ '\r' ∉ arch ∧ ¬ Log.fieldSeparator <:+: arch := by
  obtain ⟨reply, left, ended, passing⟩ := ends
  obtain ⟨inputs, finding, supplied, judged, passed⟩ := run_zero parsed ended passing
  obtain ⟨content, released, -, log⟩ := readInputs_ok_iff.mp supplied
  obtain ⟨release, version, catalog, given, accepted, found, rfl⟩ := judge_ok_iff.mp judged
  obtain ⟨other, same, read, otherAccepted, rfl⟩ := coded
  rw [given] at released
  cases released.symm.trans read
  cases accepted.symm.trans otherAccepted
  rw [named] at found
  cases found
  have returnless : '\r' ∉ inputs.log := log ▸ Text.unifyNewlines_returnless _
  refine (Check.fits_of_passed passed).imp_right ?_
  rintro ⟨feedless, single, others⟩
  exact ⟨feedless, others '\r' (by decide +kernel) returnless, single⟩

-- A log that passes and is a release with the code at once can be written, wherever the release is from.
theorem zero_of_log (parsed : CommandLine.parse arguments = .ok options)
    (posed : Posed tree options arch logFile code) {log : Text} (returnless : '\r' ∉ log)
    (passed : (Check.verify .loaded (.expected arch code) log).passed = true) {version : Version}
    (accepted : KernelRelease.version? log = .ok version) (same : version.code = code) :
    ∃ changed, tree.write (.ofText logFile) (Utf8.encode log) = .ok changed ∧
      Codes changed options.release code ∧ EndsWith (run arguments now uuid changed) 0 := by
  obtain ⟨old, held⟩ := posed.held
  obtain ⟨changed, written⟩ := FileTree.exists_write held (Utf8.encode log)
  have coded := posed.coded.write written returnless accepted same
  refine ⟨changed, written, coded, ?_⟩
  obtain ⟨release, version, read, accepted, rfl⟩ := coded
  have found : readNamed changed.read options.logFile = .ok (Utf8.encode log) :=
    readNamed_ok_iff.mpr ⟨logFile, posed.log, FileTree.read_write written⟩
  have supplied : readInputs changed.read options = .ok ⟨.text release, log⟩ := by
    apply readInputs_ok_iff.mpr
    refine ⟨Utf8.encode log, read, found, ?_⟩
    rw [Utf8.decodeLossy_encode, Text.unifyNewlines_of_returnless returnless]
  have cataloged : catalog? options.arch version.code = .ok (.expected arch version.code) := by
    rw [posed.machine]
    rfl
  have judged : judge options ⟨.text release, log⟩ = .ok ⟨options.arch, release, version.code,
      Check.verify .loaded (.expected arch version.code) log⟩ :=
    judge_ok_iff.mpr ⟨release, version, _, rfl, accepted, cataloged, rfl⟩
  obtain ⟨reply, ended, code⟩ := run_judged parsed posed.unkept supplied judged now uuid posed.short
  exact ⟨reply, changed, ended, code.trans (if_pos passed)⟩

theorem exists_zero (parsed : CommandLine.parse arguments = .ok options)
    (posed : Posed tree options arch logFile code)
    (fits : code < Catalog.namingThreshold ∨ '\n' ∉ arch ∧ '\r' ∉ arch ∧ ¬ Log.fieldSeparator <:+: arch) :
    ∃ content changed, tree.write (.ofText logFile) content = .ok changed ∧
      Codes changed options.release code ∧ EndsWith (run arguments now uuid changed) 0 := by
  obtain ⟨release, version, -, accepted, same⟩ := posed.coded
  have natural := KernelRelease.code_nonneg accepted
  obtain ⟨given, equal, passed⟩ := Check.exists_passing (fits.imp_right fun fits => ⟨fits.1, fits.2.2⟩)
    (KernelRelease.codeLine code.natAbs)
  have firstClean : '\r' ∉ (KernelRelease.codeLine code.natAbs).text := fun returned =>
    absurd (KernelRelease.mem_written returned) (by decide)
  have unreturned : Catalog.namingThreshold ≤ code → '\r' ∉ arch := by
    intro new
    exact fits.elim (fun old => by omega) fun fits => fits.2.1
  have descriptors := Catalog.not_mem_descriptors (by decide +kernel) (by decide +kernel) unreturned
  have returnless := Check.plainLog_returnless firstClean (equal ▸ descriptors)
  have own : KernelRelease.version? (Log.render (Check.plainLog (KernelRelease.codeLine code.natAbs) given)) =
      .ok ⟨0, 0, code.natAbs⟩ := by
    have opened := KernelRelease.version?_codeLine posed.short
      (Log.render (Log.reports Check.bareLead given))
    rwa [← List.singleton_append, ← List.append_assoc] at opened
  have coded : (Version.mk 0 0 code.natAbs).code = code := by
    simp only [Version.code]
    omega
  exact ⟨_, zero_of_log parsed posed returnless passed own coded⟩

-- Exactly the machines that can pass. A log for the gate loses its returns before it is looked at, and it
-- may be the release file too: then it has to keep the code.
theorem passable_machines (arch : Text) :
    (∀ code : Int, (∃ log, (Check.verify .loaded (.expected arch code) log).passed = true) ↔
      code < Catalog.namingThreshold ∨ '\n' ∉ arch ∧ ¬ Log.fieldSeparator <:+: arch) ∧
    ∀ (arguments : List Text) (options : Options) (logFile : Text) (tree : FileTree) (code : Int)
      (now : Moment) (uuid : Text), CommandLine.parse arguments = .ok options →
      Posed tree options arch logFile code →
      ((∃ content changed, tree.write (.ofText logFile) content = .ok changed ∧
          Codes changed options.release code ∧ EndsWith (run arguments now uuid changed) 0) ↔
        code < Catalog.namingThreshold ∨
          '\n' ∉ arch ∧ '\r' ∉ arch ∧ ¬ Log.fieldSeparator <:+: arch) ∧
      (¬ FromPlace options.release (.ofText logFile) → ∀ content changed,
        tree.write (.ofText logFile) content = .ok changed → Codes changed options.release code) := by
  constructor
  · intro code
    constructor
    · rintro ⟨log, passed⟩
      exact (Check.fits_of_passed passed).imp_right fun fits => ⟨fits.1, fits.2.1⟩
    · intro fits
      obtain ⟨given, -, passed⟩ := Check.exists_passing fits (KernelRelease.codeLine 0)
      exact ⟨_, passed⟩
  · intro arguments options logFile tree code now uuid parsed posed
    refine ⟨⟨?_, exists_zero parsed posed⟩, fun apart content changed written => ?_⟩
    · rintro ⟨content, changed, -, coded, ends⟩
      exact fits_of_zero parsed posed.machine coded ends
    · exact posed.coded.apart written apart

def oneFile : FileTree :=
  { entries := [(⟨.above 0, ["log"]⟩, .file (Utf8.encode "5.4.0\n"))] }

def oneFileArguments (arch : Text) : List Text :=
  [joined .arch arch, joined .kernelReleaseFile "log", joined .logFile "log"]

def oneFileOptions (arch : Text) : Options := ⟨.text arch, .file (.text "log"), .text "log", none⟩

theorem oneFile_passable :
    (∃ content changed, oneFile.write (.ofText "log") content = .ok changed ∧
      EndsWith (run (oneFileArguments "x:86") epoch [] changed) 0) ∧
    ¬ ∃ content changed, oneFile.write (.ofText "log") content = .ok changed ∧
      Codes changed (.file (.text "log")) 50400 ∧
      EndsWith (run (oneFileArguments "x: 86") epoch [] changed) 0 := by
  have held : oneFile.read (.ofText "log") = .ok (Utf8.encode "5.4.0\n") := by decide +kernel
  have accepted : KernelRelease.version? (Text.unifyNewlines "5.4.0\n") = .ok ⟨5, 4, 0⟩ := by
    rw [Text.unifyNewlines_of_returnless (by decide +kernel), Text.ofString_eq]
    rfl
  have coded : Codes oneFile (.file (.text "log")) 50400 :=
    ⟨_, ⟨5, 4, 0⟩, readRelease_ok_iff.mpr (.file held), accepted, rfl⟩
  have posed (arch : Text) : Posed oneFile (oneFileOptions arch) arch "log" 50400 :=
    ⟨rfl, rfl, rfl, ⟨_, held⟩, coded, Numeral.lt_bound (by decide)⟩
  have colon : CommandLine.parse (oneFileArguments "x:86") = .ok (oneFileOptions "x:86") := by decide +kernel
  have separated : CommandLine.parse (oneFileArguments "x: 86") = .ok (oneFileOptions "x: 86") := by
    decide +kernel
  obtain ⟨passable, -⟩ := (passable_machines "x:86").2 _ _ _ _ _ epoch [] colon (posed "x:86")
  obtain ⟨impassable, -⟩ := (passable_machines "x: 86").2 _ _ _ _ _ epoch [] separated (posed "x: 86")
  constructor
  · obtain ⟨content, changed, written, -, ends⟩ := passable.mpr (.inr (by decide +kernel))
    exact ⟨content, changed, written, ends⟩
  · intro passes
    rcases impassable.mp passes with old | ⟨-, -, single⟩
    · exact absurd old (by decide)
    · exact single (by decide +kernel)

end Gate
end ProbeCheck
