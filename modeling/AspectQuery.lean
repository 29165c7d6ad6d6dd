import AspectQuery.CommandLine
import AspectQuery.Database.Place
import AspectQuery.Library
import AspectQuery.Main
import AspectQuery.Proofs.Coercion
import AspectQuery.Proofs.Filter.Revival
import AspectQuery.Proofs.Predicate.Dropping
import AspectQuery.Proofs.Predicate.Lists
import AspectQuery.Proofs.Predicate.Literal
import AspectQuery.Proofs.Predicate.Prefix
import AspectQuery.Proofs.Query.Agreement
import AspectQuery.Proofs.Query.Alike
import AspectQuery.Proofs.Query.Exactness
import AspectQuery.Proofs.Query.Extension
import AspectQuery.Proofs.Query.Folding
import AspectQuery.Proofs.Query.Groups
import AspectQuery.Proofs.Query.Normal
import AspectQuery.Proofs.Query.Placeholders
import AspectQuery.Proofs.Query.Revival
import AspectQuery.Proofs.Query.Single
import AspectQuery.Proofs.Schema.Acceptance
import AspectQuery.Proofs.Schema.Separation
import AspectQuery.Proofs.Scope.Allotment
import AspectQuery.Proofs.Scope.Resolution
import AspectQuery.Proofs.Settings.Expansion
import AspectQuery.Proofs.Sql.Paging
import AspectQuery.Proofs.Statement.Ordering
import AspectQuery.Proofs.Store.Stored
import AspectQuery.Schema.Document
import AspectQuery.Store.Stored
