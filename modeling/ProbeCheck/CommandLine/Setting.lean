import ProbeCheck.CommandLine.Usage
import ProbeCheck.Text.Quoted

namespace ProbeCheck.CommandLine

inductive Setting
  | arch
  | kernelRelease
  | kernelReleaseFile
  | logFile
  | runsDir
deriving DecidableEq, Repr

def Setting.name : Setting → Text
  | .arch => "--arch"
  | .kernelRelease => "--kernel-release"
  | .kernelReleaseFile => "--kernel-release-file"
  | .logFile => "--log-file"
  | .runsDir => "--runs-dir"

def Setting.rival? : Setting → Option Setting
  | .kernelRelease => some .kernelReleaseFile
  | .kernelReleaseFile => some .kernelRelease
  | _ => none

inductive Flag
  | help
  | valued (setting : Setting)
deriving DecidableEq, Repr

def Flag.name : Flag → Text
  | .help => "--help"
  | .valued setting => setting.name

def Flag.all : List Flag :=
  [.help, .valued .arch, .valued .kernelRelease, .valued .kernelReleaseFile,
   .valued .logFile, .valued .runsDir]

inductive UsageError
  | ambiguous (argument : Text) (candidates : List Flag)
  | valueExpected (setting : Setting)
  | helpWithValue (value : Text)
  | rivals (setting earlier : Setting)
  | required (settings : List Setting)
  | releaseRequired
  | unrecognized (arguments : List Text)
deriving DecidableEq

def UsageError.message : UsageError → Text
  | .ambiguous argument candidates =>
    "ambiguous option: " ++ argument ++ " could match " ++
      Text.join ", " (candidates.map Flag.name)
  | .valueExpected setting => "argument " ++ setting.name ++ ": expected one argument"
  | .helpWithValue value => "argument -h/--help: ignored explicit argument " ++ Text.quoted value
  | .rivals setting earlier =>
    "argument " ++ setting.name ++ ": not allowed with argument " ++ earlier.name
  | .required settings =>
    "the following arguments are required: " ++ Text.join ", " (settings.map Setting.name)
  | .releaseRequired =>
    "one of the arguments " ++ Setting.kernelRelease.name ++ " " ++
      Setting.kernelReleaseFile.name ++ " is required"
  | .unrecognized arguments => "unrecognized arguments: " ++ Text.join [' '] arguments

inductive Stop
  | help
  | misuse (error : UsageError)
deriving DecidableEq

namespace Stop

def exitCode : Stop → Nat
  | .help => 0
  | .misuse _ => 2

def stdout : Stop → Text
  | .help => CommandLine.help
  | .misuse _ => []

def stderr : Stop → Text
  | .help => []
  | .misuse error => usage ++ program ++ ": error: " ++ error.message ++ ['\n']

end Stop

end ProbeCheck.CommandLine
