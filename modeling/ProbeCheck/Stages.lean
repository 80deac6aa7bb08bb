import ProbeCheck.CommandLine.Usage
import ProbeCheck.Numeral

namespace ProbeCheck.Stages

structure Stage where
  number : Nat
  name : Text
  command : List Text
deriving DecidableEq

def all (interpreter : Text) (arguments : List Text) : List Stage :=
  [⟨1, "tests", [interpreter, "-m", "pytest", "--cov-fail-under=90"]⟩,
   ⟨2, "acceptance",
     [interpreter, "-m", CommandLine.gateModule] ++ arguments⟩]

def rule : Text := List.replicate 72 '=' ++ ['\n']

def Stage.heading (stage : Stage) : Text :=
  rule ++ '[' :: Numeral.digits stage.number ++ "/2] " ++ stage.name ++ ": " ++
    Text.join [' '] stage.command ++ ['\n']

structure Report where
  exitCode : Nat
  stdout : Text
  commands : List (List Text)
deriving DecidableEq

def Report.after (report : Report) (stage : Stage) : Report :=
  ⟨report.exitCode, stage.heading ++ report.stdout, stage.command :: report.commands⟩

def Stage.failed (stage : Stage) (code : Int) : Report :=
  ⟨stage.number,
   rule ++ "CI RESULT: FAIL  [stage=" ++ stage.name ++ "  exit_code=" ++ Numeral.signed code ++ "]\n",
   []⟩

def passed : Report := ⟨0, rule ++ "CI RESULT: PASS\n", []⟩

def run (exitOf : Stage → Int) : List Stage → Report
  | [] => passed
  | stage :: rest =>
    let code := exitOf stage
    if code = 0 then (run exitOf rest).after stage else (stage.failed code).after stage

end ProbeCheck.Stages
