import ProbeCheck.Proofs.DeepDirectories
import ProbeCheck.Proofs.RecordNames

namespace ProbeCheck

-- One call of one of the recorders. Calls are made from different places, so each has a reach of its own.
structure Call where
  runId : Text
  record : RunRecord
  moment : Moment
  reach : Nat := usualReach

namespace Call

structure Key where
  runId : Text
  label : Text
  second : Moment
deriving DecidableEq

def key (call : Call) : Key := ⟨call.runId, call.record.label, call.moment.inSecond⟩

def name (call : Call) : Text :=
  call.runId ++ '_' :: call.record.label ++ '_' :: call.moment.stamp ++ ".json"

def recorder (call : Call) (directory : Path) : Recorder := ⟨directory, call.runId⟩

def path (call : Call) (directory : Path) : Path := ⟨directory.root, directory.parts ++ [call.name]⟩

def content (call : Call) : Bytes :=
  Utf8.encode (Json.draft (call.record.fields call.runId call.moment)).text

def perform (directory : Path) (tree : FileTree) (call : Call) :
    FileTree × Except RecordFault Path :=
  (call.recorder directory).write { tree with reach := call.reach } call.record call.moment

structure Proper (call : Call) : Prop where
  slashless : '/' ∉ call.runId
  nulFree : call.runId.NulFree
  writable : call.record.Writable
  dated : call.moment.Valid

-- How a call ends: its record stands whole in its file, or no file has changed. Where the directory is
-- beyond the reach of the call, nothing has.
inductive Performed (directory : Path) (tree : FileTree) (call : Call) :
    FileTree × Except RecordFault Path → Prop
  | kept {left : FileTree} (whole : (Json.draft (call.record.fields call.runId call.moment)).fault = none)
      (held : left.find? (call.path directory).place = some (.file call.content))
      (others : ∀ place, place ≠ (call.path directory).place → tree.GrownAt left directory place)
      (shallow : ¬ tree.Beyond directory call.reach) :
      Performed directory tree call (left, .ok (call.path directory))
  | refused {left : FileTree} {refusal : Refusal} {path : Path} (grown : tree.Grown left directory)
      (shallow : ¬ tree.Beyond directory call.reach) :
      Performed directory tree call (left, .error (.file (.refused refusal path)))
  | tooDeep {left : FileTree} (same : left.entries = tree.entries)
      (beyond : tree.Beyond directory call.reach) :
      Performed directory tree call (left, .error (.file .tooDeep))

variable {directory : Path} {tree : FileTree} {call : Call}

theorem path_recorder (slashless : '/' ∉ call.runId) (directory : Path) :
    (call.recorder directory).path call.record call.moment = call.path directory :=
  Recorder.path_eq slashless call.record call.moment

theorem perform_tooDeep_iff {left : FileTree} : call.perform directory tree = (left, .error (.file .tooDeep)) ↔
    left = { tree with reach := call.reach } ∧ tree.Beyond directory call.reach :=
  Recorder.write_tooDeep_iff

theorem perform_shallow {left : FileTree} {written : Except RecordFault Path}
    (outcome : call.perform directory tree = (left, written))
    (other : written ≠ .error (.file .tooDeep)) : ¬ tree.Beyond directory call.reach := by
  intro beyond
  rw [perform_tooDeep_iff.mpr ⟨rfl, beyond⟩] at outcome
  exact other (congrArg Prod.snd outcome).symm

theorem performed (clean : directory.NulFree) (proper : call.Proper) (tree : FileTree) :
    Performed directory tree call (call.perform directory tree) := by
  cases outcome : call.perform directory tree with
  | mk left written =>
    cases written with
    | ok path =>
      have shallow := perform_shallow outcome nofun
      obtain ⟨rfl, whole, held, others⟩ := Recorder.write_kept outcome
      rw [path_recorder proper.slashless] at held others ⊢
      exact .kept whole held others shallow
    | error fault =>
      cases fault with
      | numeral fault => exact absurd outcome (Recorder.write_numeral proper.writable _ left fault)
      | file fault =>
        have nulFree : (call.recorder directory).NulFree := ⟨clean, proper.nulFree⟩
        rcases Recorder.write_refused nulFree outcome with rfl | ⟨refusal, path, rfl⟩
        · obtain ⟨rfl, beyond⟩ := perform_tooDeep_iff.mp outcome
          exact .tooDeep rfl beyond
        · exact .refused (Recorder.write_unkept outcome) (perform_shallow outcome nofun)

theorem name_eq_iff {one two : Call} (first : one.Proper) (second : two.Proper) :
    one.name = two.name ↔ one.key = two.key := by
  have names : (one.recorder ⟨.none, []⟩).fileName one.record one.moment =
      (two.recorder ⟨.none, []⟩).fileName two.record two.moment ↔ _ :=
    Recorder.fileName_eq_iff first.dated second.dated
  rw [key, key, Key.mk.injEq]
  exact names

theorem path_place (slashless : '/' ∉ call.runId) (directory : Path) :
    (call.path directory).place = directory.place.child call.name := by
  rw [← path_recorder slashless]
  exact Recorder.path_place slashless call.record call.moment

theorem place_eq_iff {one two : Call} (first : one.Proper) (second : two.Proper) (directory : Path) :
    (one.path directory).place = (two.path directory).place ↔ one.key = two.key := by
  rw [path_place first.slashless, path_place second.slashless, ← name_eq_iff first second, Place.child,
    Place.child, Place.mk.injEq, List.cons.injEq]
  simp

end Call

structure Path.Below (directory : Path) : Prop where
  relative : directory.root = .none
  straight : ['.', '.'] ∉ directory.parts
  nulFree : directory.NulFree

namespace Session
open Call

variable {directory : Path} (below : directory.Below)
include below

theorem not_leadsThrough {call : Call} (proper : call.Proper) :
    ¬ directory.LeadsThrough (call.path directory).place := by
  intro leads
  obtain ⟨root, parts⟩ := directory
  cases below.relative
  have depth := leads.depth_le below.straight
  rw [path_place proper.slashless, Path.place_straight below.straight] at depth
  simp only [Place.child, List.length_cons, List.length_reverse] at depth
  omega

theorem find?_perform {call probe : Call} (proper : call.Proper) (probed : probe.Proper) (tree : FileTree) :
    (call.perform directory tree).1.find? (probe.path directory).place =
      if call.key = probe.key ∧ (call.perform directory tree).2.isOk = true then
        some (.file call.content)
      else tree.find? (probe.path directory).place := by
  have unmade : ∀ left, tree.GrownAt left directory (probe.path directory).place →
      left.find? (probe.path directory).place = tree.find? (probe.path directory).place := by
    intro left grown
    rcases grown with kept | ⟨-, -, leads⟩
    · exact kept
    · exact absurd leads (not_leadsThrough below probed)
  have ways := performed below.nulFree proper tree
  generalize call.perform directory tree = outcome at ways ⊢
  cases ways with
  | kept whole held others shallow =>
    by_cases same : call.key = probe.key
    · rw [← (place_eq_iff proper probed directory).mpr same, held, if_pos ⟨same, rfl⟩]
    · have apart : (probe.path directory).place ≠ (call.path directory).place := fun equal =>
        same ((place_eq_iff proper probed directory).mp equal.symm)
      rw [if_neg fun held => same held.1]
      exact unmade _ (others _ apart)
  | refused grown shallow =>
    rw [if_neg fun held => Bool.false_ne_true held.2]
    exact unmade _ (grown _)
  | tooDeep same beyond =>
    rw [if_neg fun held => Bool.false_ne_true held.2, FileTree.find?_congr same]

omit below

def after (directory : Path) : FileTree → List Call → FileTree
  | tree, [] => tree
  | tree, call :: rest => after directory (call.perform directory tree).1 rest

def lastKept (directory : Path) : FileTree → List Call → Key → Option Call
  | _, [], _ => none
  | tree, call :: rest, key =>
    (lastKept directory (call.perform directory tree).1 rest key).or
      (if call.key = key ∧ (call.perform directory tree).2.isOk = true then some call else none)

include below

theorem find?_after {calls : List Call} (proper : ∀ call ∈ calls, call.Proper) {probe : Call}
    (probed : probe.Proper) (tree : FileTree) :
    (after directory tree calls).find? (probe.path directory).place =
      match lastKept directory tree calls probe.key with
      | some call => some (.file call.content)
      | none => tree.find? (probe.path directory).place := by
  induction calls generalizing tree with
  | nil => rfl
  | cons call rest ih =>
    have later := ih (fun other member => proper other (List.mem_cons_of_mem _ member))
      (call.perform directory tree).1
    rw [after, lastKept, later]
    cases lastKept directory (call.perform directory tree).1 rest probe.key with
    | some other => rfl
    | none =>
      rw [Option.none_or]
      dsimp only
      rw [find?_perform below (proper call List.mem_cons_self) probed]
      by_cases kept : call.key = probe.key ∧ (call.perform directory tree).2.isOk = true
      · rw [if_pos kept, if_pos kept]
      · rw [if_neg kept, if_neg kept]

omit below

theorem below_ofText {runsDir : Text} (relative : runsDir.head? ≠ some '/') (clean : runsDir.NulFree)
    (straight : ['.', '.'] ∉ (Path.ofText runsDir).parts) : (Path.ofText runsDir).Below :=
  ⟨Path.rootOf_relative relative, straight, Path.ofText_nulFree clean⟩

def noon (microsecond : Nat) : Moment := ⟨2024, 2, 29, 12, 0, 0, microsecond⟩

def passedOn (arch : Text) (microsecond : Nat) : Call :=
  { runId := "A", record := .judged ⟨true, [], [], [], []⟩ (.text arch) "5.4.0" 50400,
    moment := noon microsecond }

-- A run id that looks like the beginning of another run's file name.
def failedBeside : Call :=
  { runId := "A_PASS", record := .failed "PARSE_ERROR" "no numeric field found", moment := noon 0 }

def sharedCalls : List Call := [passedOn "x86_64" 0, failedBeside, passedOn "arm64" 7]

end Session
end ProbeCheck
