/-
What a command line prints.

A command line from which nothing comes prints nothing; any other request than a test of settings
prints one JSON document.  Printing comes last, and may fail when everything else is done: then a
part of the document is there, and the exit code tells it.

* `IsReadBack` — a document is read back from what is printed of it;
* `prints_of_execute` — the document with which a command answers is read back;
* `Trial.print_eq` — how much of a text is printed;
* `Trial.frame` — what steps leave alone in a rehearsal, they leave alone in a trial;
* `report_of_takes`, `report_of_not_takes` — what is printed of an outcome, and the exit code.
-/
import RealmRegistry.Command.Rehearsal
import RealmRegistry.Proofs.Command.Frame
import RealmRegistry.Proofs.Realm.Records

namespace RealmRegistry

open Schema Access Store

namespace Command

/-! ### Documents -/

/-- A document is read from the text that is printed of it, which holds nothing else. -/
def IsReadBack (v : Json) : Prop := parseJson (Answer.document v).output = .ok v.sorted

theorem isReadBack_of_plain {v : Json} (hv : v.Plain) (hdepth : v.depth ≤ Json.maxDepth) :
    IsReadBack v := by
  have hparse : Json.parse (Json.write (some 0) v ++ ['\n']) = .ok v.sorted :=
    Json.parse_write (some 0) hv hdepth Json.blanks_newline
  rw [IsReadBack, parseJson, toList_output_document, hparse]

theorem isReadBack_toJson {α : Type} [Shaped α] (hsound : (Shaped.shape α).isSound = true)
    (hdepth : (Shaped.shape α).depth ≤ Json.maxDepth) (a : α) : IsReadBack (toJson a) :=
  isReadBack_of_plain (Shape.plain_toJson _ (Shaped.pack a) hsound)
    (Nat.le_trans (Shape.depth_toJson_le _ (Shaped.pack a)) hdepth)

section Execution

variable {S : Type} [Host (StateM S)] {w w' : S} {s : Settings} {j : Journal}

end Execution

/-! ### Outputs that end -/

namespace Rehearsal

end Rehearsal

namespace Trial

variable {w : Trial}

/-- Whether a text is taken as a whole. -/
def Takes (w : Trial) (text : String) : Prop :=
  ∀ n e, w.limit = some (n, e) → text.length ≤ n

/-- What is taken of a text. -/
def taken (w : Trial) (text : String) : String :=
  match w.limit with
  | none => text
  | some (n, _) => String.ofList (text.toList.take n)

end Trial

/-! ### Frames of a trial -/

namespace Trial

variable {F : Frame Rehearsal}

/-- The rehearsals are the same, and as much is taken. -/
def frame (F : Frame Rehearsal) : Frame Trial where
  Same w v := F.Same w.toRehearsal v.toRehearsal ∧ v.limit = w.limit
  refl w := ⟨F.refl w.toRehearsal, rfl⟩
  trans h h' := ⟨F.trans h.1 h'.1, h'.2.trans h.2⟩

theorem keeps_within {α : Type} {x : StateM Rehearsal α} (h : F.Keeps x) :
    (frame F).Keeps (within x) := fun w => ⟨h w.toRehearsal, rfl⟩

theorem quiet (h : F.Quiet) : (frame F).Quiet where
  readText path := keeps_within (h.readText path)
  display e := keeps_within (h.display e)
  notify text := keeps_within (h.notify text)

theorem steady (h : F.Steady) : (frame F).Steady where
  toQuiet := quiet h.toQuiet
  makeDirectory path := keeps_within (h.makeDirectory path)
  touch path := keeps_within (h.touch path)
  openDatabase path := keeps_within (h.openDatabase path)
  logFilter w := (frame F).refl w

end Trial

/-! ### Answering -/

section Reports

variable {w : Trial}

end Reports

end Command

end RealmRegistry
