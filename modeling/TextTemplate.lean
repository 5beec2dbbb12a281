import TextTemplate.Data.JsonReader
import TextTemplate.Filter.PatternCache
import TextTemplate.Template.Render
import TextTemplate.Proofs.Expression.Grammar
import TextTemplate.Proofs.Expression.Numeral
import TextTemplate.Proofs.Expression.Literal
import TextTemplate.Proofs.Expression.Call
import TextTemplate.Proofs.Expression.Acceptance
import TextTemplate.Proofs.Expression.Neutral
import TextTemplate.Proofs.Expression.RoundTrip
import TextTemplate.Proofs.Rows
import TextTemplate.Proofs.Filter.BuiltinTexts
import TextTemplate.Proofs.Filter.Lineage
import TextTemplate.Proofs.Regex.Laid
import TextTemplate.Proofs.Regex.Between
import TextTemplate.Proofs.Regex.Captures
import TextTemplate.Proofs.Regex.Again
import TextTemplate.Proofs.Regex.Succession
import TextTemplate.Proofs.Template.Holes
import TextTemplate.Proofs.Template.Pair
import TextTemplate.Proofs.Template.Places
import TextTemplate.Proofs.Template.PlaceholderScan
import TextTemplate.Proofs.Template.OwnClose
import TextTemplate.Proofs.Template.Segments
import TextTemplate.Proofs.Template.Rendering
import TextTemplate.Proofs.Template.Partition
import TextTemplate.Proofs.Template.TextOnly
import TextTemplate.Proofs.Template.Layers
import TextTemplate.Proofs.Template.Growth
import TextTemplate.Proofs.Filter.CacheSharing
import TextTemplate.Proofs.Filter.Tokens
import TextTemplate.Proofs.Filter.Writing
import TextTemplate.Proofs.Filter.Insertion
import TextTemplate.Proofs.Filter.Window
import TextTemplate.Proofs.Filter.Replacing
import TextTemplate.Proofs.Expression.Extension
import TextTemplate.Proofs.Expression.Fault
import TextTemplate.Proofs.Template.FirstDefect
import TextTemplate.Proofs.Data.Silence
import TextTemplate.Proofs.Template.Independence
import TextTemplate.Proofs.Template.Invocation
import TextTemplate.Proofs.Decimal.Nearest
import TextTemplate.Proofs.Decimal.Magnitude
import TextTemplate.Proofs.Decimal.Neighbour
import TextTemplate.Proofs.Decimal.Fewest
import TextTemplate.Proofs.Value.Clamping
import TextTemplate.Proofs.Value.WholeFloat
import TextTemplate.Proofs.Filter.Spelling
import TextTemplate.Proofs.Data.Integers
import TextTemplate.Proofs.Filter.Casing
import TextTemplate.Proofs.Expression.Bounds
