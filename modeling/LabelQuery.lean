import LabelQuery.Text.Blank
import LabelQuery.Text.Unprintable
import LabelQuery.Text.Quoted
import LabelQuery.Text.Utf8
import LabelQuery.Selector.Operator
import LabelQuery.Selector.Rule
import LabelQuery.Selector.Lexeme
import LabelQuery.Selector.Expression
import LabelQuery.Selector.Fragment
import LabelQuery.Selector.Basic
import LabelQuery.Error
import LabelQuery.Number.Decimal
import LabelQuery.Number.Binary64
import LabelQuery.Labels
import LabelQuery.Selector.Match
import LabelQuery.Json.Value
import LabelQuery.Selector.Json
import LabelQuery.LabelSelector.Basic
import LabelQuery.Text.Percent
import LabelQuery.Search.Params
import LabelQuery.Search.ParamsLaws
import LabelQuery.Search.Config
import LabelQuery.Search.Query
import LabelQuery.Number.Shortest
import LabelQuery.Json.Error
import LabelQuery.Json.Cursor
import LabelQuery.Json.Reader
import LabelQuery.LabelSelector.Json
import LabelQuery.Search.ConfigFile
import LabelQuery.Proofs.Trim
import LabelQuery.Proofs.RuleValidation
import LabelQuery.Proofs.Layout
import LabelQuery.Proofs.ExpressionGrammar
import LabelQuery.Proofs.Fragments
import LabelQuery.Proofs.RoundTrip
import LabelQuery.LabelSelector.Laws
import LabelQuery.Proofs.StructuredForm
import LabelQuery.Text.Utf8Laws
import LabelQuery.Text.PercentLaws
import LabelQuery.Proofs.QueryString
import LabelQuery.Search.QueryLaws
import LabelQuery.Proofs.SearchRoundTrip
import LabelQuery.Json.ReaderLaws
import LabelQuery.Json.ReadBack
import LabelQuery.Proofs.NormalForm
import LabelQuery.Proofs.WriteBack
import LabelQuery.Proofs.LazyLabels
import LabelQuery.Proofs.KeyEdits
import LabelQuery.Proofs.ParseFaults
import LabelQuery.Proofs.ErrorOffsets
import LabelQuery.Proofs.JsonRoundTrip
import LabelQuery.Proofs.LabelMerge
import LabelQuery.Proofs.ScanLossless
import LabelQuery.Proofs.ValueOrder
