import RelationMapper.Catalog

/-!
# Reports of a validation

A validation that succeeds leaves a report: where the database drifted from the declared tables without harm
(`Warning`s), and, unless the validation is strict, the flaws that were let pass.
-/

namespace RelationMapper

/-- A difference between declared tables and the database that does no harm. -/
inductive Warning where
  | missingTable (table : String)
  | surplusColumns (table : String) (columns : List Value)

/-- A warning in words. -/
def Warning.message : Warning → String
  | .missingTable table => "cannot find " ++ table ++ " in database."
  | .surplusColumns table columns =>
    "schema is inconsistent with actual db. " ++ table ++ " has columns " ++ (Value.list columns).shown ++
      " in db which were not specified in schema."

/-- The outcome of a validation that succeeded. -/
structure Report where
  warnings : List Warning
  flaws : List SchemaFlaw

namespace Report

/-- Nothing to report. -/
def empty : Report := ⟨[], []⟩

/-- Whether there is nothing to report. -/
def isClean (r : Report) : Bool := r.warnings.isEmpty && r.flaws.isEmpty

end Report

end RelationMapper
