import StyleLinter.Result

/-!
# The plain report

The new findings, one on each line, in the form of the exception list; and a line that sums up the
run. The two go to different streams, so that the first can be put into the list as it is.
-/

namespace StyleLinter.Report.Plain

/-- The new findings, one on each line. -/
def findings (r : Result) : Text := r.new.flatMap fun v ↦ v.toRecord.toText ++ ['\n']

/-- The line that sums up the run. -/
def summary (r : Result) : Text :=
  (if r.passed then "PASSED".toList else "FAILED".toList) ++ ": " ++ Text.ofNat r.new.length
    ++ " new violation(s), " ++ Text.ofNat r.suppressed.length ++ " suppressed, "
    ++ Text.ofNat r.files ++ " file(s) checked\n"

end StyleLinter.Report.Plain
