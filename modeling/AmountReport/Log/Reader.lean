import AmountReport.Log.Record

/-!
# Readers of log filters

Which records the log shows, and in what form, is for a library to say. It is given the setting of
the log filter and answers with a view, or refuses. Nothing here depends on how it reads: a reader
is any function, and what the library says of itself is a proposition about it.

The library says that it returns with a view or with an error. It can also stop the whole program,
so a reader may do that here, and `Returns` is what a caller relies on who only expects an error.
-/

namespace AmountReport.Log

/-- What the log shows of a record: a line, or nothing. -/
abbrev View := Record → Option String

/-- Why a setting gives no view. -/
inductive Misreading
  /-- The library returns with an error. -/
  | refused
  /-- The library stops the program, which says why. -/
  | stopped (words : String)
  deriving DecidableEq, Repr

/-- A library for log filters. -/
structure Reader where
  /-- Reads a setting (`EnvFilter::try_from_default_env`, once the setting is found). -/
  read : String → Except Misreading View
  /-- The view of directives that the program itself has written (`EnvFilter::new`). -/
  ofDirectives : String → View

/-- What the library says of reading a setting, if there is one: that it gives a view, or an error. -/
def Reader.Returns (reader : Reader) (setting : Option String) : Prop :=
  ∀ text ∈ setting, ∀ words, reader.read text ≠ .error (.stopped words)

end AmountReport.Log
