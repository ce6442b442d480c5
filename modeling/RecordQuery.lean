import RecordQuery.Main
import RecordQuery.Naming.Declaration
import RecordQuery.Samples.Readings
import RecordQuery.Samples.Tickets
import RecordQuery.Proofs.Paging
import RecordQuery.Proofs.Sorting
import RecordQuery.Proofs.NaNItems
import RecordQuery.Proofs.TypeSafety
import RecordQuery.Proofs.Composition
import RecordQuery.Proofs.Reachability
import RecordQuery.Proofs.Portable
import RecordQuery.Proofs.Comparisons
import RecordQuery.Proofs.Membership
import RecordQuery.Proofs.VariantNames
import RecordQuery.Proofs.FixedPoints
import RecordQuery.Proofs.Ranges
import RecordQuery.Proofs.LetterCase
import RecordQuery.Proofs.SplitAttributes
import RecordQuery.Proofs.ReferencedFields
import RecordQuery.Proofs.JsonForm
import RecordQuery.Proofs.FloatValues
import RecordQuery.Proofs.Rounding
import RecordQuery.Proofs.IntegerCoercion
import RecordQuery.Proofs.IntegerTexts
import RecordQuery.Proofs.SingleFormat
import RecordQuery.Proofs.TypedOperands
import RecordQuery.Proofs.InstantTexts
import RecordQuery.Proofs.Milliseconds
import RecordQuery.Proofs.Discriminants
import RecordQuery.Proofs.Projections
import RecordQuery.Proofs.Applicability
import RecordQuery.Proofs.NaNPlaces
import RecordQuery.Proofs.Nullability
import RecordQuery.Proofs.RepeatedCoercion
import RecordQuery.Proofs.TextTests
import RecordQuery.Proofs.NumberOrder
import RecordQuery.Proofs.TwoRoundings
import RecordQuery.Proofs.FieldConstants
import RecordQuery.Proofs.StrictOrder
import RecordQuery.Proofs.WrittenInstants
import RecordQuery.Proofs.CanonicalInstants
import RecordQuery.Proofs.RepeatedRules
import RecordQuery.Proofs.RawIdentifiers
