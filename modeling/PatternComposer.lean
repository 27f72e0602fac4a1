import PatternComposer.Builder.Invoke
import PatternComposer.Config.Source
import PatternComposer.Pattern.Description
import PatternComposer.Pattern.Scan
import PatternComposer.Proofs.Builder.Brackets
import PatternComposer.Proofs.Builder.Building
import PatternComposer.Proofs.Builder.Items
import PatternComposer.Proofs.Builder.Leniency
import PatternComposer.Proofs.Builder.Openers
import PatternComposer.Proofs.Config.Tree
import PatternComposer.Proofs.Flags.Assembly
import PatternComposer.Proofs.Pattern.Backspace
import PatternComposer.Proofs.Pattern.Characters
import PatternComposer.Proofs.Pattern.Lookahead
import PatternComposer.Proofs.Pattern.Usable
import PatternComposer.Proofs.Text.Escape
