import ProbeCheck.Check

namespace ProbeCheck.CommandLine

def gateModule : Text := "ingraind_acceptance.verification.ci_gate"

def program : Text := "python -m " ++ gateModule

def usage : Text :=
  Text.join ['\n']
    ["usage: " ++ program ++ " [-h] --arch ARCH",
     Text.ofString "                                                          " ++
       "(--kernel-release KERNEL_RELEASE | --kernel-release-file KERNEL_RELEASE_FILE)",
     "                                                          --log-file LOG_FILE",
     "                                                          [--runs-dir RUNS_DIR]",
     []]

def help : Text :=
  usage ++ Text.join ['\n']
    [[],
     "ingraind acceptance check v" ++ Check.version,
     [],
     "options:",
     "  -h, --help            show this help message and exit",
     "  --arch ARCH           Architecture identifier of the test machine, e.g.",
     "                        x86_64.",
     "  --kernel-release KERNEL_RELEASE",
     "                        Kernel release string as printed by 'uname -r'.",
     "  --kernel-release-file KERNEL_RELEASE_FILE",
     "                        File containing the output of 'uname -r'.",
     "  --log-file LOG_FILE   Captured agent startup log.",
     "  --runs-dir RUNS_DIR   Directory for JSON run records. Nothing is written if",
     "                        omitted.",
     []]

end ProbeCheck.CommandLine
