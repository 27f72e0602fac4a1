import PatternComposer.Pattern.Basic
import PatternComposer.Text.Quoted

/-! # Describing a pattern for inspection -/

namespace PatternComposer.Pattern

/-- A description that shows every character of the source and of the flags. -/
def inspect (p : Pattern) : String :=
  "CompiledPattern \x7b source: " ++ Text.quoted p.source ++ ", flags: " ++
    Text.quoted p.flags.toString ++ ", backtracking: " ++
    (if p.isBacktracking then "true" else "false") ++ " \x7d"

end PatternComposer.Pattern
