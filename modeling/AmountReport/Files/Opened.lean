import AmountReport.Stream.Fault

/-!
# Opening files

What a path can lead to, and what it is to open paths: an answer, or a fault, for each path.
-/

namespace AmountReport

/-- What a path leads to. -/
inductive Opened
  /-- A regular file, by the bytes in it. -/
  | file (contents : List UInt8)
  /-- A folder, a device, or whatever else holds no fixed bytes. -/
  | other
  deriving DecidableEq, Repr

/-- How a path is opened. -/
abbrev Opener := String → Except Fault Opened

end AmountReport
