import CronClock.Calendar.Wall

/-! # Printers

A session hands what it has to show to a printer: marked texts, tables and notes. What a printer makes
of them is its own affair; it may refuse a marked text or a table, which the session does not expect.
The colours that a session asks for, of a whole text or of a column, are left out. -/
set_option autoImplicit false
namespace CronClock

structure Table where
  title : String
  headers : List String
  rows : List (List String)
  deriving DecidableEq, Repr

/-- The kind of the error that a printer refuses something with. -/
structure PrintFault where
  kind : String
  deriving DecidableEq, Repr

/-- The lines that things take. A note has its instant, the name of its level and its message; its lines
may depend on the instant of the note before it. -/
structure Printer where
  textLines? : String → Except PrintFault (List String)
  tableLines? : Table → Except PrintFault (List String)
  noteLines : Option Int → Int → String → String → List String

/-- The lines that have been printed, and the instant of the last note among them. -/
structure Printed where
  lines : List String
  noted : Option Int
  deriving DecidableEq, Repr

namespace Printed

def nothing : Printed := ⟨[], none⟩

def append (printed : Printed) (lines : List String) : Printed :=
  { printed with lines := printed.lines ++ lines }

end Printed

end CronClock
