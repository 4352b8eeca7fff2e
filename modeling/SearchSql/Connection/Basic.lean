import SearchSql.Dialect
import SearchSql.Schema.Index
import SearchSql.Settings

/-!
# Connections

What the writing of statements depends on besides the request: the indexes that are
known, the dialect and the settings.

## Main definitions

* `Connection` — snapshot, dialect and settings.
-/

namespace SearchSql

/-- What statements are written for. -/
structure Connection where
  /-- The indexes that are known, if any are. -/
  snapshot : Option Snapshot
  /-- The dialect. -/
  dialect : Dialect
  /-- The settings. -/
  settings : Settings

namespace Connection

/-- The connection to a server of which nothing is known. -/
def standard : Connection := ⟨none, .sphinx, {}⟩

/-- A quoted name. -/
def quote (c : Connection) (name : String) : String := c.dialect.quote name

/-- The name that a value stands for, quoted. -/
def quoteValue (c : Connection) (v : Value) : String := c.quote v.display

/-- The known indexes among some names. -/
def known (c : Connection) (names : List String) : List Index := Snapshot.known c.snapshot names

/-- The known index that a value names. -/
def knownIndex (c : Connection) (v : Value) : List Index := c.known v.text?.toList

end Connection

end SearchSql
