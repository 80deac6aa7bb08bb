import ProbeCheck.Catalog
import ProbeCheck.KernelRelease
import ProbeCheck.Log
import ProbeCheck.Verdict

namespace ProbeCheck.Check

def version : Text := "1.0.0"

def verify (marker : Marker) (catalog : Catalog) (log : Text) : Verdict :=
  .compare (Log.extract marker log) catalog.recordSet

def check (marker : Marker) (arch release log : Text) : Except KernelRelease.Refusal Verdict := do
  let version ← KernelRelease.version? release
  return verify marker (.expected arch version.code) log

end ProbeCheck.Check
