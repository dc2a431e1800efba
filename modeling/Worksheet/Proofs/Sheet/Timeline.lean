import Worksheet.Proofs.Sheet.Entering
import Worksheet.Sheet.History

/-!
# Timelines

A timeline is a line of snapshots of a sheet, one of which is the present one.  An edit
forgets the snapshots after the present one and goes on with a new one; undoing and
redoing go back and forward on the line.

The history of a sheet holds no snapshots but edits of single cells.  It retraces a
timeline if its entries connect the snapshots that follow each other: the edits of an
entry lead from one snapshot to the next, and taken back in the opposite order they lead
from the next one back.
-/

namespace Worksheet

/-! ## Edits of a snapshot -/

namespace Edit

/-- Make an edit in a snapshot. -/
def enter (snapshot : Snapshot) : Edit → Snapshot
  | .text cell _ new => snapshot.change cell fun entry => (new, entry.2)
  | .color cell _ new => snapshot.change cell fun entry => (entry.1, new)

/-- Make edits in a snapshot one after another. -/
def enterAll (snapshot : Snapshot) (edits : List Edit) : Snapshot :=
  edits.foldl enter snapshot

theorem enterAll_append (snapshot : Snapshot) (first second : List Edit) :
    enterAll snapshot (first ++ second) = enterAll (enterAll snapshot first) second :=
  List.foldl_append

/-- The edits lead from one snapshot to another and can be taken back. -/
structure Connect (edits : List Edit) (before after : Snapshot) : Prop where
  made : enterAll before edits = after
  takenBack : enterAll after (edits.reverse.map inverse) = before

namespace Connect

variable {snapshot first second third : Snapshot} {edits others : List Edit} {address : Address}

theorem nil (snapshot : Snapshot) : Connect [] snapshot snapshot :=
  ⟨rfl, rfl⟩

theorem append (before : Connect edits first second) (after : Connect others second third) :
    Connect (edits ++ others) first third where
  made := by rw [enterAll_append, before.made, after.made]
  takenBack := by
    rw [List.reverse_append, List.map_append, enterAll_append, after.takenBack, before.takenBack]

/-- An edit that knows the text before it can be taken back. -/
theorem text {old : String} {color : Color} (present : snapshot address = some (old, color))
    (new : String) :
    Connect [.text address old new] snapshot
      (snapshot.change address fun entry => (new, entry.2)) where
  made := rfl
  takenBack := Snapshot.change_back present rfl

/-- An edit that knows the color before it can be taken back. -/
theorem color {text : String} {old : Color} (present : snapshot address = some (text, old))
    (new : Color) :
    Connect [.color address old new] snapshot
      (snapshot.change address fun entry => (entry.1, new)) where
  made := rfl
  takenBack := Snapshot.change_back present rfl

/-- An edit that changes nothing may be left out. -/
theorem leaveOut {needless : Prop} [Decidable needless] {edit : Edit}
    (connect : Connect [edit] first second) (same : needless → second = first) :
    Connect (if needless then [] else [edit]) first second := by
  split
  · next holds =>
      rw [same holds]
      exact nil first
  · exact connect

end Connect

end Edit

/-! ## Timelines -/

/-- Snapshots of a sheet in the order in which they were made. -/
structure Timeline where
  /-- The snapshots before the present one, the latest first. -/
  earlier : List Snapshot
  now : Snapshot
  /-- The snapshots after the present one, the next one first. -/
  later : List Snapshot

namespace Timeline

/-- The line of a single snapshot. -/
def single (snapshot : Snapshot) : Timeline :=
  ⟨[], snapshot, []⟩

/-- Go on with a new snapshot.  The later ones are forgotten, and so are the earliest ones
if there are too many. -/
def append (line : Timeline) (snapshot : Snapshot) : Timeline :=
  ⟨(line.now :: line.earlier).take 100, snapshot, []⟩

/-- Change what is entered in a cell.  Nothing happens if there is no such cell, or if
that leaves the entry as it is. -/
def edit (line : Timeline) (address : Address) (change : String × Color → String × Color) :
    Timeline :=
  match line.now address with
  | none => line
  | some entry =>
      if change entry = entry then line else line.append (line.now.change address change)

/-- Go back to the snapshot before the present one, if there is one. -/
def back? (line : Timeline) : Option Timeline :=
  match line.earlier with
  | [] => none
  | snapshot :: earlier => some ⟨earlier, snapshot, line.now :: line.later⟩

/-- Go forward to the snapshot after the present one, if there is one. -/
def forward? (line : Timeline) : Option Timeline :=
  match line.later with
  | [] => none
  | snapshot :: later => some ⟨line.now :: line.earlier, snapshot, later⟩

end Timeline

/-! ## Retracing a timeline -/

/-- Entry for entry, snapshots are joined to the one before them in the list, the first
one to the present one. -/
inductive Leads (joins : HistoryEntry → Snapshot → Snapshot → Prop) :
    List HistoryEntry → Snapshot → List Snapshot → Prop
  | nil {now : Snapshot} : Leads joins [] now []
  | cons {entry : HistoryEntry} {entries : List HistoryEntry} {now next : Snapshot}
      {snapshots : List Snapshot} (join : joins entry now next)
      (rest : Leads joins entries next snapshots) :
      Leads joins (entry :: entries) now (next :: snapshots)

theorem Leads.take {joins : HistoryEntry → Snapshot → Snapshot → Prop}
    {entries : List HistoryEntry} {now : Snapshot} {snapshots : List Snapshot}
    (leads : Leads joins entries now snapshots) (count : Nat) :
    Leads joins (entries.take count) now (snapshots.take count) := by
  induction leads generalizing count with
  | nil =>
      rw [List.take_nil, List.take_nil]
      exact Leads.nil
  | cons join rest ih =>
      cases count with
      | zero => exact Leads.nil
      | succ count => exact Leads.cons join (ih count)

/-- The entries of a history connect the snapshots of a timeline. -/
structure Retraces (history : History) (line : Timeline) : Prop where
  back : Leads (fun entry now before => Edit.Connect entry.edits before now)
    history.undoable line.now line.earlier
  onward : Leads (fun entry now after => Edit.Connect entry.edits now after)
    history.redoable line.now line.later

namespace Retraces

variable {history : History} {line : Timeline}

theorem single (snapshot : Snapshot) : Retraces History.empty (Timeline.single snapshot) :=
  ⟨Leads.nil, Leads.nil⟩

/-- An entry that is recorded leads to the new snapshot. -/
theorem record (retraces : Retraces history line) {entry : HistoryEntry} {snapshot : Snapshot}
    (connect : Edit.Connect entry.edits line.now snapshot) :
    Retraces (history.record entry) (line.append snapshot) where
  back := (Leads.cons connect retraces.back).take 100
  onward := Leads.nil

/-- There is an entry to undo exactly if there is an earlier snapshot, and the edits that
take the entry back lead to it. -/
theorem undo? (retraces : Retraces history line) :
    (history.undo? = none ∧ line.back? = none) ∨
      ∃ entry remaining before, history.undo? = some (entry, remaining) ∧
        line.back? = some before ∧ Retraces remaining before ∧
        Edit.enterAll line.now (entry.edits.reverse.map Edit.inverse) = before.now := by
  rcases history with ⟨undoable, redoable⟩
  rcases line with ⟨earlier, now, later⟩
  rcases retraces with ⟨back, onward⟩
  cases back with
  | nil => exact .inl ⟨rfl, rfl⟩
  | cons connect rest =>
      exact .inr ⟨_, _, _, rfl, rfl, ⟨rest, Leads.cons connect onward⟩, connect.takenBack⟩

/-- There is an entry to redo exactly if there is a later snapshot, and the edits of the
entry lead to it. -/
theorem redo? (retraces : Retraces history line) :
    (history.redo? = none ∧ line.forward? = none) ∨
      ∃ entry remaining after, history.redo? = some (entry, remaining) ∧
        line.forward? = some after ∧ Retraces remaining after ∧
        Edit.enterAll line.now entry.edits = after.now := by
  rcases history with ⟨undoable, redoable⟩
  rcases line with ⟨earlier, now, later⟩
  rcases retraces with ⟨back, onward⟩
  cases onward with
  | nil => exact .inl ⟨rfl, rfl⟩
  | cons connect rest =>
      exact .inr ⟨_, _, _, rfl, rfl, ⟨Leads.cons connect back, rest⟩, connect.made⟩

theorem canUndo_eq (retraces : Retraces history line) : history.canUndo = line.back?.isSome := by
  rcases history with ⟨undoable, redoable⟩
  rcases line with ⟨earlier, now, later⟩
  rcases retraces with ⟨back, _⟩
  cases back <;> rfl

theorem canRedo_eq (retraces : Retraces history line) :
    history.canRedo = line.forward?.isSome := by
  rcases history with ⟨undoable, redoable⟩
  rcases line with ⟨earlier, now, later⟩
  rcases retraces with ⟨_, onward⟩
  cases onward <;> rfl

end Retraces

end Worksheet
