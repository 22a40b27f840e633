import MacroFusion.Report.Data
import MacroFusion.Report.Markdown

/-!
# Reports

A summary in one of the two forms of a report.
-/

namespace MacroFusion.Summary

def report (s : Summary) : Format → Except Fault String
  | .markdown => .ok s.markdown
  | .json => s.toJson.map Json.pretty

end MacroFusion.Summary
