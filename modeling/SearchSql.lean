import SearchSql.Connection.Session
import SearchSql.Schema.Description
import SearchSql.Selection.Standalone
import SearchSql.Proofs.Masking.Request
import SearchSql.Proofs.Placeholder.Request
import SearchSql.Proofs.Connection.Bindings
import SearchSql.Proofs.Formula.Request
import SearchSql.Proofs.Condition.Vacuous
import SearchSql.Proofs.Dialect.Request
import SearchSql.Proofs.Fragment.Request
import SearchSql.Proofs.Subquery.Request
import SearchSql.Proofs.Coercion.Request
import SearchSql.Proofs.Connection.Chaining
import SearchSql.Proofs.Session.History
import SearchSql.Proofs.Balance.Request
import SearchSql.Proofs.Coercion.Column
import SearchSql.Proofs.Coercion.Comparison
import SearchSql.Proofs.Entities.Request
import SearchSql.Proofs.Subquery.Bound
import SearchSql.Proofs.Condition.Singleton
import SearchSql.Proofs.Condition.Malformed
import SearchSql.Proofs.Escape.Match
import SearchSql.Proofs.Escape.Replacement
import SearchSql.Proofs.Escape.Like
import SearchSql.Proofs.Condition.Clause
import SearchSql.Proofs.Connection.Batch
import SearchSql.Proofs.Dialect.Names
import SearchSql.Proofs.Label.Forms
import SearchSql.Proofs.Phrase.Request
import SearchSql.Proofs.Selection.Columns
import SearchSql.Proofs.Schema.Description
import SearchSql.Proofs.Selection.Window
import SearchSql.Proofs.Connection.Completion
